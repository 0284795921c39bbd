import GenLogger.Platform.FileHandler

/-!
# LittleFS and `LittleFSHandler`

The library is not part of the sources: `Lfs σ` are the functions the handler calls, over any device
state `σ`, and `Lfs.Documented` is what their documentation says of one file. It says nothing of a
call on a file that is not open, of a second `lfs_file_open` on an open one, and of a read or a write
that the open flags do not allow (the library asserts that there is none), and neither do the laws.

* `Lfs.mountOrFormat`, `Lfs.openFlags` and `Lfs.openFile` are the handler's functions,
  `littleFSHandler` the handler over any such library.
* `memLfs` is a library that keeps the file in memory.

Results:
* `mountOrFormat_ok`: a flash without a file system gets one, and has no file before and after.
* `openFile_missing`: there is no file to read, and `open` says so.
* `memDocs`: the library in memory does what LittleFS documents.
-/

namespace GenLogger.Platform

open GenLogger.Lib

/-- The open flags the handler ors together. -/
inductive LfsFlag where
  /-- `LFS_O_RDONLY`. -/
  | rdonly
  /-- `LFS_O_WRONLY`. -/
  | wronly
  /-- `LFS_O_CREAT`. -/
  | creat
  /-- `LFS_O_APPEND`. -/
  | append
  deriving Repr, DecidableEq

/-- The functions of LittleFS, for `&lfs`, `&cfg`, `&file` and the file's name. -/
structure Lfs (σ : Type) where
  /-- `lfs_mount`. -/
  mount : σ → Int × σ
  /-- `lfs_format`. -/
  format : σ → Int × σ
  /-- `lfs_file_open`. -/
  fileOpen : List LfsFlag → σ → Int × σ
  /-- `lfs_file_read`. -/
  fileRead : (n : Nat) → σ → Transfer n × σ
  /-- `lfs_file_write`. -/
  fileWrite : List Byte → σ → Int × σ
  /-- `lfs_file_close`. -/
  fileClose : σ → Int × σ

/-- A file that is open: its flags and its position. -/
structure LfsFile where
  flags : List LfsFlag
  pos : Nat
  deriving Repr, DecidableEq

/-- `bs` written over `c` from `pos` on. -/
def overwrite (c : List Byte) (pos : Nat) (bs : List Byte) : List Byte :=
  c.take pos ++ bs ++ c.drop (pos + bs.length)

namespace Lfs

variable {σ : Type}

/-- What LittleFS documents of one file on a flash that works. -/
structure Documented (lfs : Lfs σ) where
  /-- The file once it is closed. -/
  content : σ → Option (List Byte)
  file : σ → Option LfsFile
  formatted : σ → Prop
  mounted : σ → Prop
  /-- The size up to which there is room for the file, at most `LFS_FILE_MAX`. -/
  room : Nat
  room_le : room ≤ 2147483647
  formatted_of_mounted : ∀ d, mounted d → formatted d
  blank : ∀ d, ¬ formatted d → content d = none
  mount : ∀ d, file d = none → formatted d → ∃ r d', lfs.mount d = (r, d') ∧ 0 ≤ r ∧ mounted d' ∧
    file d' = none ∧ content d' = content d
  mount_blank : ∀ d, file d = none → ¬ formatted d → ∃ r d', lfs.mount d = (r, d') ∧ r < 0 ∧
    file d' = none
  format : ∀ d, file d = none → ∃ r d', lfs.format d = (r, d') ∧ 0 ≤ r ∧ formatted d' ∧
    file d' = none ∧ content d' = none
  open_missing : ∀ d flags, mounted d → file d = none → content d = none → .creat ∉ flags →
    ∃ r d', lfs.fileOpen flags d = (r, d') ∧ r < 0 ∧ mounted d' ∧ file d' = none ∧ content d' = none
  /-- Without `LFS_O_TRUNC` the file keeps what it holds. -/
  open_file : ∀ d flags, mounted d → file d = none → content d ≠ none ∨ .creat ∈ flags →
    ∃ r d', lfs.fileOpen flags d = (r, d') ∧ 0 ≤ r ∧ mounted d' ∧ file d' = some ⟨flags, 0⟩ ∧
      content d' = some ((content d).getD [])
  read : ∀ d flags pos c n, file d = some ⟨flags, pos⟩ → .rdonly ∈ flags → content d = some c →
    ∃ got d', lfs.fileRead n d = (got, d') ∧ got.bytes = (c.drop pos).take n ∧
      got.ret = ((c.drop pos).take n).length ∧ (mounted d → mounted d') ∧
      file d' = some ⟨flags, pos + ((c.drop pos).take n).length⟩ ∧ content d' = some c
  /-- A write goes to the position, or with `LFS_O_APPEND` to the end. -/
  write : ∀ d flags pos c bs, file d = some ⟨flags, pos⟩ → .wronly ∈ flags → content d = some c →
    (if .append ∈ flags then c.length else pos) + bs.length ≤ room →
    ∃ d', lfs.fileWrite bs d = ((bs.length : Int), d') ∧ (mounted d → mounted d') ∧
      file d' = some ⟨flags, (if .append ∈ flags then c.length else pos) + bs.length⟩ ∧
      content d' = some (overwrite c (if .append ∈ flags then c.length else pos) bs)
  close : ∀ d f, file d = some f → ∃ d', lfs.fileClose d = (0, d') ∧ (mounted d → mounted d') ∧
    file d' = none ∧ content d' = content d

/-! ## The handler -/

/-- `LittleFSHandler::mount`. -/
def mountOrFormat (lfs : Lfs σ) (d : σ) : Bool × σ :=
  let (res, d) := lfs.mount d
  if res < 0 then
    -- If the mount fails, try formatting the filesystem
    let (res, d) := lfs.format d
    if res < 0 then (false, d)
    else
      -- Try mounting again
      let (res, d) := lfs.mount d
      (decide (0 ≤ res), d)
  else (true, d)

/-- The flags of `LittleFSHandler::open`. -/
def openFlags : Nat → Option (List LfsFlag)
  | 0 => some [.rdonly]
  | 1 => some [.wronly, .creat]
  | 2 => some [.wronly, .creat, .append]
  | _ => none

/-- `LittleFSHandler::open`. -/
def openFile (lfs : Lfs σ) (mode : Nat) (d : σ) : Bool × σ :=
  match openFlags mode with
  | none => (false, d)
  | some flags =>
    let (res, d) := lfs.fileOpen flags d
    (decide (0 ≤ res), d)

theorem openFile_eq {lfs : Lfs σ} (mode : Nat) {flags : List LfsFlag}
    (hflags : openFlags mode = some flags) {res : Int} {d d' : σ}
    (hopen : lfs.fileOpen flags d = (res, d')) : lfs.openFile mode d = (decide (0 ≤ res), d') := by
  simp only [openFile, hflags, hopen]

end Lfs

/-- `LittleFSHandler`. -/
def littleFSHandler {σ : Type} (lfs : Lfs σ) : FileHandler σ where
  mount := lfs.mountOrFormat
  openFile := lfs.openFile
  read := lfs.fileRead
  write := lfs.fileWrite
  close := lfs.fileClose

namespace Lfs.Documented

variable {σ : Type} {lfs : Lfs σ}

/-- A flash without a file system gets one, and has no file before and after. -/
theorem mountOrFormat_ok (docs : lfs.Documented) {d : σ} (hfile : docs.file d = none) : ∃ d',
    lfs.mountOrFormat d = (true, d') ∧ docs.mounted d' ∧ docs.file d' = none ∧
      docs.content d' = docs.content d := by
  unfold Lfs.mountOrFormat
  by_cases hformatted : docs.formatted d
  · obtain ⟨r, d', hmount, hr, hmounted, hfile', hcontent⟩ := docs.mount d hfile hformatted
    rw [hmount]
    exact ⟨d', if_neg (Int.not_lt.mpr hr), hmounted, hfile', hcontent⟩
  · obtain ⟨r₁, d₁, hmount₁, hr₁, hfile₁⟩ := docs.mount_blank d hfile hformatted
    obtain ⟨r₂, d₂, hformat, hr₂, hformatted₂, hfile₂, hcontent₂⟩ := docs.format d₁ hfile₁
    obtain ⟨r₃, d₃, hmount₃, hr₃, hmounted₃, hfile₃, hcontent₃⟩ := docs.mount d₂ hfile₂ hformatted₂
    refine ⟨d₃, ?_, hmounted₃, hfile₃, ?_⟩
    · simp only [hmount₁, hformat, hmount₃, if_pos hr₁, if_neg (Int.not_lt.mpr hr₂),
        decide_eq_true hr₃]
    · rw [hcontent₃, hcontent₂, docs.blank d hformatted]

/-- No file to read. -/
theorem openFile_missing (docs : lfs.Documented) {d : σ} (hmounted : docs.mounted d)
    (hfile : docs.file d = none) (hnone : docs.content d = none) :
    ∃ d', lfs.openFile 0 d = (false, d') ∧ docs.content d' = none := by
  obtain ⟨r, d', hd', hr, -, -, hcontent⟩ :=
    docs.open_missing d [.rdonly] hmounted hfile hnone (by decide)
  exact ⟨d', (Lfs.openFile_eq 0 rfl hd').trans (by rw [decide_eq_false (Int.not_le.mpr hr)]), hcontent⟩

theorem openFile_present (docs : lfs.Documented) {d : σ} (hmounted : docs.mounted d)
    (hfile : docs.file d = none) {c : List Byte} (hsome : docs.content d = some c) :
    ∃ d', lfs.openFile 0 d = (true, d') ∧ docs.file d' = some ⟨[.rdonly], 0⟩ ∧
      docs.content d' = some c := by
  obtain ⟨r, d', hd', hr, -, hfile', hcontent⟩ :=
    docs.open_file d [.rdonly] hmounted hfile (Or.inl (Option.ne_none_iff_exists'.mpr ⟨c, hsome⟩))
  rw [hsome] at hcontent
  exact ⟨d', (Lfs.openFile_eq 0 rfl hd').trans (by rw [decide_eq_true hr]), hfile', hcontent⟩

/-- What a mounted LittleFS has in the file. -/
def view (docs : lfs.Documented) : FileView (littleFSHandler lfs) where
  content := docs.content
  Idle d := docs.mounted d ∧ docs.file d = none
  unopened d hidle hopen := by
    obtain ⟨hmounted, hfile⟩ := hidle
    have hfails : (lfs.openFile 0 d).1 = false := hopen
    show docs.content (lfs.openFile 0 d).2 = _
    cases hcontent : docs.content d with
    | none =>
      obtain ⟨d', heq, hcontent'⟩ := docs.openFile_missing hmounted hfile hcontent
      rw [heq, hcontent']
    | some c =>
      obtain ⟨d', heq, -⟩ := docs.openFile_present hmounted hfile hcontent
      rw [heq] at hfails
      cases hfails
  reading d hidle hopen n := by
    obtain ⟨hmounted, hfile⟩ := hidle
    have hopens : (lfs.openFile 0 d).1 = true := hopen
    show docs.content (lfs.fileClose (lfs.fileRead n (lfs.openFile 0 d).2).2).2 = _
    cases hcontent : docs.content d with
    | none =>
      obtain ⟨d', heq, -⟩ := docs.openFile_missing hmounted hfile hcontent
      rw [heq] at hopens
      cases hopens
    | some c =>
      obtain ⟨d₁, heq, hfile₁, hcontent₁⟩ := docs.openFile_present hmounted hfile hcontent
      obtain ⟨got, d₂, hd₂, -, -, -, hfile₂, hcontent₂⟩ :=
        docs.read d₁ _ _ _ n hfile₁ (by decide) hcontent₁
      obtain ⟨d₃, hd₃, -, -, hcontent₃⟩ := docs.close d₂ _ hfile₂
      rw [heq, hd₂, hd₃, hcontent₃, hcontent₂]

end Lfs.Documented

/-! ## A library in memory -/

/-- A flash and the file on it. -/
structure MemLfs where
  formatted : Bool
  mounted : Bool
  onFlash : Option (List Byte)
  file : Option LfsFile
  deriving Repr, DecidableEq

/-- A library that keeps the file in memory. It fails with `LFS_ERR_CORRUPT`, `LFS_ERR_NOENT` and
`LFS_ERR_BADF`. -/
def memLfs : Lfs MemLfs where
  mount d := if d.formatted then (0, { d with mounted := true }) else (-84, d)
  format d := (0, { d with formatted := true, onFlash := none })
  fileOpen flags d :=
    if d.onFlash = none ∧ .creat ∉ flags then (-2, d)
    else (0, { d with onFlash := some (d.onFlash.getD []), file := some ⟨flags, 0⟩ })
  fileRead n d :=
    match d.file with
    | none => (⟨[], Nat.zero_le n, -9⟩, d)
    | some f =>
      let bs := ((d.onFlash.getD []).drop f.pos).take n
      (⟨bs, List.length_take_le _ _, bs.length⟩, { d with file := some ⟨f.flags, f.pos + bs.length⟩ })
  fileWrite bs d :=
    match d.file with
    | none => (-9, d)
    | some f =>
      let c := d.onFlash.getD []
      let pos := if .append ∈ f.flags then c.length else f.pos
      (bs.length, { d with
        onFlash := some (overwrite c pos bs)
        file := some ⟨f.flags, pos + bs.length⟩ })
  fileClose d := (0, { d with file := none })

/-- It does what LittleFS documents. -/
def memDocs : memLfs.Documented where
  content d := if d.formatted then d.onFlash else none
  file := MemLfs.file
  formatted d := d.formatted = true
  mounted d := d.formatted = true ∧ d.mounted = true
  room := 2147483647
  room_le := Nat.le_refl _
  formatted_of_mounted _ h := h.1
  blank _ h := if_neg h
  mount d hfile hformatted :=
    ⟨0, { d with mounted := true }, if_pos hformatted, Int.le_refl 0, ⟨hformatted, rfl⟩, hfile, rfl⟩
  mount_blank d hfile hblank := ⟨-84, d, if_neg hblank, by decide, hfile⟩
  format d hfile :=
    ⟨0, { d with formatted := true, onFlash := none }, rfl, Int.le_refl 0, rfl, hfile, rfl⟩
  open_missing d flags hmounted hfile hnone hflags := by
    rw [if_pos hmounted.1] at hnone
    exact ⟨-2, d, if_pos ⟨hnone, hflags⟩, by decide, hmounted, hfile, (if_pos hmounted.1).trans hnone⟩
  open_file d flags hmounted hfile hsome := by
    rw [if_pos hmounted.1] at hsome
    have hopens : ¬ (d.onFlash = none ∧ .creat ∉ flags) := fun h => hsome.elim (· h.1) h.2
    refine ⟨0, _, if_neg hopens, Int.le_refl 0, hmounted, rfl, (if_pos hmounted.1).trans ?_⟩
    rw [if_pos hmounted.1]
  read d flags pos c n hfile _ hcontent := by
    obtain ⟨hformatted, hflash⟩ := Option.ite_none_right_eq_some.mp hcontent
    obtain ⟨formatted, mounted, onFlash, file⟩ := d
    subst hfile hflash hformatted
    exact ⟨_, _, rfl, rfl, rfl, id, rfl, rfl⟩
  write d flags pos c bs hfile _ hcontent _ := by
    obtain ⟨hformatted, hflash⟩ := Option.ite_none_right_eq_some.mp hcontent
    obtain ⟨formatted, mounted, onFlash, file⟩ := d
    subst hfile hflash hformatted
    exact ⟨_, rfl, id, rfl, rfl⟩
  close d f _ := ⟨_, rfl, id, rfl, rfl⟩

end GenLogger.Platform
