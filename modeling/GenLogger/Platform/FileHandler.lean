import GenLogger.Lib.CString

/-!
# File handlers (`filesystemWrapper.hpp`)

`FileHandler σ` is the interface `FileHandler` over a device state `σ`; `fileSysWrapper` forwards
every call to its active handler, so a component that owns a `fileSysWrapper` is modelled over any
handler. Every component opens one path only, so a device state stands for that one file and the file
name is left out. A handler may do anything a call allows: fail to open, take part of a write, deliver
part of a read, fail to close.

What a proof asks of a handler is one of these:
* `Medium` is the abstract file behind a handler whose calls succeed: an optional content, which
  `open(0)` needs, `open(1)` writes from the start and `open(2)` extends. What lies beyond the bytes
  written after `open(1)` may go (`fopen`) or stay (`LFS_O_CREAT` without `LFS_O_TRUNC`).
* `Appendable` asks less: `mount` and the three calls of an append may fail, and where they succeed
  the bytes are at the end. So it also holds of a card that refuses `open(1)` on a file that is there,
  or is full.
* `FileView` only asks that reading changes nothing.

Results:
* `cMedium`, `cFileView`: the host's `CFileHandler` (with `fopen`, `fread`, `fwrite` as in ISO C) is
  such a file.
* `Medium.appendable`: a file whose calls succeed is appended to.
-/

namespace GenLogger.Platform

open GenLogger.Lib

/-- What a `read(buffer, n)` puts at the start of the buffer, and what it returns. -/
structure Transfer (n : Nat) where
  bytes : List Byte
  fits : bytes.length ≤ n
  ret : Int

/-- `struct FileHandler`. Modes are `0` (read), `1` (write) and `2` (append). -/
structure FileHandler (σ : Type) where
  mount : σ → Bool × σ
  openFile : Nat → σ → Bool × σ
  read : (n : Nat) → σ → Transfer n × σ
  write : List Byte → σ → Int × σ
  close : σ → Int × σ

variable {σ : Type}

/-- `open(0); read(buffer, n); close()` goes from `d` to `d'` and delivers `bs`. -/
def FileHandler.Reads (fs : FileHandler σ) (n : Nat) (d : σ) (bs : List Byte) (d' : σ) : Prop :=
  ∃ d₁ d₂ got r, fs.openFile 0 d = (true, d₁) ∧ fs.read n d₁ = (got, d₂) ∧ got.bytes = bs ∧
    got.ret = bs.length ∧ fs.close d₂ = (r, d')

/-- `open(mode); write(bs); close()` goes from `d` to `d'` with every call successful. -/
def FileHandler.Writes (fs : FileHandler σ) (mode : Nat) (d : σ) (bs : List Byte) (d' : σ) : Prop :=
  ∃ d₁ d₂, fs.openFile mode d = (true, d₁) ∧ fs.write bs d₁ = ((bs.length : Int), d₂) ∧
    fs.close d₂ = (0, d')

/-- The file behind a handler whose calls succeed: `content` is `none` while there is no file.
The laws are about calls made while no file is open (`Idle`). -/
structure Medium (fs : FileHandler σ) where
  content : σ → Option (List Byte)
  Idle : σ → Prop
  mount : ∀ d, ∃ d', fs.mount d = (true, d') ∧ Idle d' ∧ content d' = content d
  absent : ∀ d, Idle d → content d = none →
    ∃ d', fs.openFile 0 d = (false, d') ∧ Idle d' ∧ content d' = none
  load : ∀ d, Idle d → ∀ c, content d = some c → ∀ n,
    ∃ d', fs.Reads n d (c.take n) d' ∧ Idle d' ∧ content d' = some c
  store : ∀ d, Idle d → ∀ bs, ∃ d' rest, fs.Writes 1 d bs d' ∧ Idle d' ∧
    content d' = some (bs ++ rest) ∧ (content d = none → rest = [])
  append : ∀ d, Idle d → ∀ bs,
    ∃ d', fs.Writes 2 d bs d' ∧ Idle d' ∧ content d' = some ((content d).getD [] ++ bs)

/-- A file that is appended to: what `mount` and `open(2); write(bs); close()` leave where they succeed.
The laws are about calls made while no file is open (`Idle`). -/
structure Appendable (fs : FileHandler σ) where
  content : σ → Option (List Byte)
  Idle : σ → Prop
  mount : ∀ d d', fs.mount d = (true, d') → Idle d' ∧ content d' = content d
  append : ∀ d, Idle d → ∀ bs d', fs.Writes 2 d bs d' →
    Idle d' ∧ content d' = some ((content d).getD [] ++ bs)

/-- What is in the file of a handler that changes nothing while it reads, whether its calls succeed or
not. The laws are about calls made while no file is open (`Idle`). -/
structure FileView (fs : FileHandler σ) where
  content : σ → Option (List Byte)
  Idle : σ → Prop
  unopened : ∀ d, Idle d → (fs.openFile 0 d).1 = false → content (fs.openFile 0 d).2 = content d
  reading : ∀ d, Idle d → (fs.openFile 0 d).1 = true → ∀ n,
    content (fs.close (fs.read n (fs.openFile 0 d).2).2).2 = content d

/-- The calls are functions, so a `Writes` leads to one state. -/
theorem FileHandler.Writes.unique {fs : FileHandler σ} {mode : Nat} {bs : List Byte} {d d' d'' : σ}
    (h : fs.Writes mode d bs d') (h' : fs.Writes mode d bs d'') : d' = d'' := by
  obtain ⟨d₁, d₂, hopen, hwrite, hclose⟩ := h
  obtain ⟨d₁', d₂', hopen', hwrite', hclose'⟩ := h'
  cases hopen.symm.trans hopen'
  cases hwrite.symm.trans hwrite'
  cases hclose.symm.trans hclose'
  rfl

/-- A file whose calls succeed is appended to, and every append succeeds. -/
def Medium.appendable {fs : FileHandler σ} (M : Medium fs) : Appendable fs where
  content := M.content
  Idle := M.Idle
  mount d d' h := by
    obtain ⟨d₁, hmount, hidle, hcontent⟩ := M.mount d
    cases h.symm.trans hmount
    exact ⟨hidle, hcontent⟩
  append d hidle bs d' h := by
    obtain ⟨d₁, hwrites, hidle', hcontent⟩ := M.append d hidle bs
    obtain rfl := h.unique hwrites
    exact ⟨hidle', hcontent⟩

theorem Medium.appends {fs : FileHandler σ} (M : Medium fs) {d : σ} (hidle : M.Idle d)
    (bs : List Byte) : ∃ d', fs.Writes 2 d bs d' := by
  obtain ⟨d', hwrites, -⟩ := M.append d hidle bs
  exact ⟨d', hwrites⟩

/-! ## The host handler -/

/-- The `fopen` modes `CFileHandler` uses. -/
inductive OpenMode where
  | r
  | w
  | a
  deriving Repr, DecidableEq

/-- A stdio stream: its mode and its position. -/
structure Stream where
  mode : OpenMode
  pos : Nat
  deriving Repr, DecidableEq

/-- The file on the host and the member `file` of `CFileHandler` (`nullptr` is `none`). -/
structure CFile where
  onDisk : Option (List Byte)
  file : Option Stream
  deriving Repr, DecidableEq

namespace CFile

/-- `CFileHandler::open` with the `fopen` of ISO C: `r` needs the file, `w` empties or creates it,
`a` creates it where it is missing. -/
def openFile (mode : Nat) (d : CFile) : Bool × CFile :=
  match mode with
  | 0 =>
    match d.onDisk with
    | some c => (true, ⟨some c, some ⟨.r, 0⟩⟩)
    | none => (false, ⟨none, none⟩)
  | 1 => (true, ⟨some [], some ⟨.w, 0⟩⟩)
  | 2 => (true, ⟨some (d.onDisk.getD []), some ⟨.a, 0⟩⟩)
  | _ => (false, d)

/-- `CFileHandler::read`, with `fread` on a stream opened for reading. -/
def read (n : Nat) (d : CFile) : Transfer n × CFile :=
  match d.file with
  | some ⟨.r, pos⟩ =>
    let bs := ((d.onDisk.getD []).drop pos).take n
    (⟨bs, List.length_take_le _ _, bs.length⟩, { d with file := some ⟨.r, pos + bs.length⟩ })
  | _ => (⟨[], Nat.zero_le _, 0⟩, d)

/-- `CFileHandler::write`, with `fwrite` at the position or, for `a`, at the end. -/
def write (bs : List Byte) (d : CFile) : Int × CFile :=
  let c := d.onDisk.getD []
  match d.file with
  | some ⟨.w, pos⟩ =>
    (bs.length, ⟨some (c.take pos ++ bs ++ c.drop (pos + bs.length)), some ⟨.w, pos + bs.length⟩⟩)
  | some ⟨.a, _⟩ => (bs.length, ⟨some (c ++ bs), some ⟨.a, c.length + bs.length⟩⟩)
  | _ => (0, d)

/-- `CFileHandler::close`. -/
def close (d : CFile) : Int × CFile := (0, { d with file := none })

end CFile

/-- `CFileHandler`, mounted before it opens a file: `file` is still `nullptr`. -/
def cFileHandler : FileHandler CFile where
  mount d := (true, { d with file := none })
  openFile := CFile.openFile
  read := CFile.read
  write := CFile.write
  close := CFile.close

/-- **The host handler is a file**: what is written is what is read back. -/
def cMedium : Medium cFileHandler where
  content := CFile.onDisk
  Idle d := d.file = none
  mount d := ⟨_, rfl, rfl, rfl⟩
  absent d _ hc := by
    refine ⟨⟨none, none⟩, ?_, rfl, rfl⟩
    show CFile.openFile 0 d = _
    simp only [CFile.openFile, hc]
  load d _ c hc n := by
    refine ⟨⟨some c, none⟩, ⟨⟨some c, some ⟨.r, 0⟩⟩, _, _, _, ?_, rfl, ?_, ?_, rfl⟩, rfl, rfl⟩
    · show CFile.openFile 0 d = _
      simp only [CFile.openFile, hc]
    · rfl
    · rfl
  store d _ bs :=
    ⟨⟨some bs, none⟩, [], ⟨⟨some [], some ⟨.w, 0⟩⟩, _, rfl, rfl, by simp [cFileHandler, CFile.close]⟩,
      rfl, by simp, fun _ => rfl⟩
  append d _ bs := by
    refine ⟨⟨some (d.onDisk.getD [] ++ bs), none⟩,
      ⟨⟨some (d.onDisk.getD []), some ⟨.a, 0⟩⟩, _, rfl, rfl, ?_⟩, rfl, rfl⟩
    simp [cFileHandler, CFile.close]

/-- Nothing the host reads changes a file, one that is open for something else neither. -/
def cFileView : FileView cFileHandler where
  content := CFile.onDisk
  Idle _ := True
  unopened d _ _ := by
    show (CFile.openFile 0 d).2.onDisk = d.onDisk
    unfold CFile.openFile
    cases d.onDisk <;> rfl
  reading d _ _ n := by
    show (CFile.read n (CFile.openFile 0 d).2).2.onDisk = d.onDisk
    unfold CFile.openFile
    cases d.onDisk <;> rfl

end GenLogger.Platform
