import GenLogger.Lib.Run
import GenLogger.Platform.FatFs
import GenLogger.Platform.LittleFs

/-!
# Three handlers, one contract

The same calls to `CFileHandler`, `LittleFSHandler` and `fatFSHandler`, on the same file.

* A call comes in order (`InOrder`) where all three give it a meaning: LittleFS has none for a file
  that is not open, or not open for that.
* A run conforms (`Conforms`) where it does not write anew a file that is there, and reads no byte.
* `Alike` is the simulation: what the flash and the card have while the host has a file.

Results:
* `call_kept`: a call in order that conforms keeps the contract.
* `handlers_agree`: what runs in order and conforms has the same results and leaves the same file on
  each.
* `kept_iff`: in order, nothing else does. `open(1)` on a file that is there fails on the card
  (`open_existing_breaks`) and, on the flash, keeps what it does not write over (`flash_rewrite`); a
  read of the card returns the size of the buffer whatever it delivers (`read_breaks`).
-/

namespace GenLogger.Platform

open GenLogger.Lib

variable {σ : Type}

/-! ## Calls -/

/-- A call of a `FileHandler`. -/
inductive FileOp where
  | mount
  | openFile (mode : Nat)
  | read (n : Nat)
  | write (bs : List Byte)
  | close
  deriving Repr, DecidableEq

/-- What a call returns. -/
inductive FileRet where
  | result (b : Bool)
  | count (i : Int)
  deriving Repr, DecidableEq

/-- A call of a handler. -/
def FileHandler.call (fs : FileHandler σ) : FileOp → σ → FileRet × σ
  | .mount, d => (.result (fs.mount d).1, (fs.mount d).2)
  | .openFile mode, d => (.result (fs.openFile mode d).1, (fs.openFile mode d).2)
  | .read n, d => (.count (fs.read n d).1.ret, (fs.read n d).2)
  | .write bs, d => (.count (fs.write bs d).1, (fs.write bs d).2)
  | .close, d => (.count (fs.close d).1, (fs.close d).2)

/-- `read(buffer, n)` returns the number of bytes it delivers. -/
def FileHandler.Delivers (fs : FileHandler σ) (n : Nat) (d : σ) : Prop :=
  (fs.read n d).1.ret = (fs.read n d).1.bytes.length

/-- `CFileHandler` at any time: `mount` leaves an open file alone. -/
def hostHandler : FileHandler CFile := { cFileHandler with mount := fun d => (true, d) }

/-- A file on the host, one on the flash and one on the card. -/
structure Backends (σ : Type) where
  host : CFile
  flash : σ
  card : FatFs

/-- The same call to each handler. -/
def Backends.next (lfs : Lfs σ) (op : FileOp) (s : Backends σ) : Backends σ where
  host := (hostHandler.call op s.host).2
  flash := ((littleFSHandler lfs).call op s.flash).2
  card := (fatFSHandler.call op s.card).2

/-- Calls one after the other. -/
def backendStep (lfs : Lfs σ) (s : Backends σ) (op : FileOp) (s' : Backends σ) : Prop :=
  s' = s.next lfs op

/-! ## The contract -/

section Contract

variable {lfs : Lfs σ} (docs : lfs.Documented)

/-- A call that returns the same from each handler and leaves the same file, and the number of bytes it
delivers if it is a read. -/
structure Kept (t : Taken (Backends σ) FileOp) : Prop where
  flash_ret : ((littleFSHandler lfs).call t.input t.before.flash).1 =
    (hostHandler.call t.input t.before.host).1
  card_ret : (fatFSHandler.call t.input t.before.card).1 = (hostHandler.call t.input t.before.host).1
  flash_content : docs.content t.after.flash = t.after.host.onDisk
  card_content : t.after.card.content = t.after.host.onDisk
  delivers : ∀ n, t.input = .read n → hostHandler.Delivers n t.before.host ∧
    (littleFSHandler lfs).Delivers n t.before.flash ∧ fatFSHandler.Delivers n t.before.card

/-- Every call of a run keeps the contract, and what was written after `open(1)` is the file. -/
def OneContract (ts : List (Taken (Backends σ) FileOp)) : Prop :=
  (∀ t ∈ ts, Kept docs t) ∧
    ∀ us bs s₀ s₁ s₂ s₃ vs,
      ts = us ++ (⟨s₀, .openFile 1, s₁⟩ :: ⟨s₁, .write bs, s₂⟩ :: ⟨s₂, .close, s₃⟩ :: vs) →
        s₃.host.onDisk = some bs ∧ docs.content s₃.flash = some bs ∧ s₃.card.content = some bs

/-- The call comes where it belongs: a file is opened after `mount` and while none is open, and closed,
read and written while one is open for that; what is written fits on the media. -/
def InOrder (s : Backends σ) : FileOp → Prop
  | .mount => s.host.file = none
  | .openFile mode => mode ≤ 2 → s.card.mounted = true ∧ s.host.file = none
  | .read _ => ∃ pos, s.host.file = some ⟨.r, pos⟩
  | .write bs => (∃ mode pos, s.host.file = some ⟨mode, pos⟩ ∧ mode ≠ .r) ∧
    (s.host.onDisk.getD []).length + bs.length ≤ docs.room ∧
    (s.host.onDisk.getD []).length + bs.length ≤ s.card.room
  | .close => s.host.file ≠ none

/-- It does not write a file that is there anew, and reads no byte. -/
def Conforms (s : Backends σ) : FileOp → Prop
  | .openFile mode => mode = 1 → s.host.onDisk = none
  | .read n => n = 0
  | _ => True

/-- The same prior file, and none is open. -/
structure Start (s : Backends σ) : Prop where
  host_file : s.host.file = none
  flash_file : docs.file s.flash = none
  flash_content : docs.content s.flash = s.host.onDisk
  card_mounted : s.card.mounted = false
  card_fil : s.card.fil = none
  card_ctr : s.card.ctr = 0
  card_entry : s.card.entry = s.host.onDisk

end Contract

/-! ## The flash -/

/-- The open flags that go with an `fopen` mode. -/
def lfsFlags : OpenMode → List LfsFlag
  | .r => [.rdonly]
  | .w => [.wronly, .creat]
  | .a => [.wronly, .creat, .append]

/-- The stream as a file of LittleFS. -/
def lfsFile (f : Stream) : LfsFile := ⟨lfsFlags f.mode, f.pos⟩

/-- The flash is like the host. -/
structure FlashAlike {lfs : Lfs σ} (docs : lfs.Documented) (host : CFile) (flash : σ) : Prop where
  content : docs.content flash = host.onDisk
  file : docs.file flash = host.file.map lfsFile
  there : host.file ≠ none → host.onDisk ≠ none

section Flash

variable {lfs : Lfs σ} {docs : lfs.Documented} {host : CFile} {flash : σ}

theorem flash_mount (h : FlashAlike docs host flash) (hidle : host.file = none) : ∃ d',
    lfs.mountOrFormat flash = (true, d') ∧ docs.mounted d' ∧ FlashAlike docs host d' := by
  have hfile : docs.file flash = none := by rw [h.file, hidle]; rfl
  obtain ⟨d', hmount, hmounted, hfile', hcontent⟩ := docs.mountOrFormat_ok hfile
  refine ⟨d', hmount, hmounted, hcontent.trans h.content, ?_, h.there⟩
  rw [hfile', hidle]
  rfl

/-- `open` on the flash, where `open(1)` finds nothing to keep. -/
theorem flash_open (h : FlashAlike docs host flash) (hmounted : docs.mounted flash)
    (hidle : host.file = none) {mode : Nat} (hnew : mode = 1 → host.onDisk.getD [] = []) : ∃ d',
    lfs.openFile mode flash = ((CFile.openFile mode host).1, d') ∧ docs.mounted d' ∧
      FlashAlike docs (CFile.openFile mode host).2 d' := by
  obtain ⟨onDisk, file⟩ := host
  obtain rfl : file = none := hidle
  have hfile : docs.file flash = none := h.file
  have hcontent : docs.content flash = onDisk := h.content
  match mode with
  | 0 =>
    cases onDisk with
    | none =>
      obtain ⟨r, d', hopen, hr, hmounted', hfile', hcontent'⟩ :=
        docs.open_missing flash [.rdonly] hmounted hfile hcontent (by decide)
      have hfails := Lfs.openFile_eq 0 rfl hopen
      rw [decide_eq_false (Int.not_le.mpr hr)] at hfails
      exact ⟨d', hfails, hmounted', hcontent', hfile', fun hne => absurd rfl hne⟩
    | some c =>
      obtain ⟨r, d', hopen, hr, hmounted', hfile', hcontent'⟩ :=
        docs.open_file flash [.rdonly] hmounted hfile (Or.inl (by rw [hcontent]; simp))
      have hopens := Lfs.openFile_eq 0 rfl hopen
      rw [decide_eq_true hr] at hopens
      rw [hcontent] at hcontent'
      exact ⟨d', hopens, hmounted', hcontent', hfile', fun _ => Option.some_ne_none c⟩
  | 1 =>
    obtain ⟨r, d', hopen, hr, hmounted', hfile', hcontent'⟩ :=
      docs.open_file flash [.wronly, .creat] hmounted hfile (Or.inr (by decide))
    have hopens := Lfs.openFile_eq 1 rfl hopen
    rw [decide_eq_true hr] at hopens
    rw [hcontent, hnew rfl] at hcontent'
    exact ⟨d', hopens, hmounted', hcontent', hfile', fun _ => Option.some_ne_none []⟩
  | 2 =>
    obtain ⟨r, d', hopen, hr, hmounted', hfile', hcontent'⟩ :=
      docs.open_file flash [.wronly, .creat, .append] hmounted hfile (Or.inr (by decide))
    have hopens := Lfs.openFile_eq 2 rfl hopen
    rw [decide_eq_true hr] at hopens
    rw [hcontent] at hcontent'
    exact ⟨d', hopens, hmounted', hcontent', hfile', fun _ => Option.some_ne_none _⟩
  | _ + 3 => exact ⟨flash, rfl, hmounted, h⟩

/-- A read on the flash delivers what it does on the host. -/
theorem flash_read (h : FlashAlike docs host flash) {pos : Nat}
    (hfile : host.file = some ⟨.r, pos⟩) (n : Nat) : ∃ got d',
    lfs.fileRead n flash = (got, d') ∧ got.bytes = (CFile.read n host).1.bytes ∧
      got.ret = (CFile.read n host).1.ret ∧ (docs.mounted flash → docs.mounted d') ∧
      FlashAlike docs (CFile.read n host).2 d' := by
  obtain ⟨onDisk, file⟩ := host
  obtain rfl : file = _ := hfile
  cases onDisk with
  | none => exact absurd rfl (h.there (Option.some_ne_none _))
  | some c =>
    obtain ⟨got, d', hread, hbytes, hret, hmounted, hfile', hcontent⟩ :=
      docs.read flash [.rdonly] pos c n h.file (by decide) h.content
    exact ⟨got, d', hread, hbytes, hret, hmounted, hcontent, hfile', fun _ => Option.some_ne_none c⟩

theorem overwrite_end (c bs : List Byte) : overwrite c c.length bs = c ++ bs := by
  unfold overwrite
  rw [List.take_length, List.drop_eq_nil_of_le (Nat.le_add_right _ _), List.append_nil]

theorem flash_write (h : FlashAlike docs host flash) {mode : OpenMode} {pos : Nat}
    (hfile : host.file = some ⟨mode, pos⟩) (hmode : mode ≠ .r) {bs : List Byte}
    (hpos : mode = .w → pos = (host.onDisk.getD []).length)
    (hroom : (host.onDisk.getD []).length + bs.length ≤ docs.room) : ∃ d',
    lfs.fileWrite bs flash = ((CFile.write bs host).1, d') ∧ (docs.mounted flash → docs.mounted d') ∧
      FlashAlike docs (CFile.write bs host).2 d' := by
  obtain ⟨onDisk, file⟩ := host
  obtain rfl : file = _ := hfile
  cases onDisk with
  | none => exact absurd rfl (h.there (Option.some_ne_none _))
  | some c =>
    cases mode with
    | r => exact absurd rfl hmode
    | w =>
      obtain ⟨d', hwrite, hmounted, hfile', hcontent⟩ :=
        docs.write flash [.wronly, .creat] pos c bs h.file (by decide) h.content
          ((congrArg (· + bs.length) (hpos rfl)).trans_le hroom)
      exact ⟨d', hwrite, hmounted, hcontent, hfile', fun _ => Option.some_ne_none _⟩
    | a =>
      obtain ⟨d', hwrite, hmounted, hfile', hcontent⟩ :=
        docs.write flash [.wronly, .creat, .append] pos c bs h.file (by decide) h.content hroom
      have hend := hcontent.trans (congrArg some (overwrite_end c bs))
      exact ⟨d', hwrite, hmounted, hend, hfile', fun _ => Option.some_ne_none _⟩

theorem flash_close (h : FlashAlike docs host flash) (hopen : host.file ≠ none) : ∃ d',
    lfs.fileClose flash = (0, d') ∧ (docs.mounted flash → docs.mounted d') ∧
      FlashAlike docs (CFile.close host).2 d' := by
  obtain ⟨f, hf⟩ := Option.ne_none_iff_exists'.mp hopen
  have hfile : docs.file flash = some (lfsFile f) := by rw [h.file, hf]; rfl
  obtain ⟨d', hclose, hmounted, hfile', hcontent⟩ := docs.close flash _ hfile
  exact ⟨d', hclose, hmounted, hcontent.trans h.content, hfile', fun hne => absurd rfl hne⟩

end Flash

/-! ## The card -/

/-- The card is like the host. -/
inductive CardAlike : CFile → FatFs → Prop
  | closed {onDisk : Option (List Byte)} {card : FatFs} (hfil : card.fil = none) (hctr : card.ctr = 0)
      (hentry : card.entry = onDisk) : CardAlike ⟨onDisk, none⟩ card
  | reading {c : List Byte} {pos : Nat} {card : FatFs} {fil : Fil} (hfil : card.fil = some fil)
      (hflag : fil.flag = faRead) (hdata : fil.data = c) (hctr : card.ctr = 1)
      (hentry : card.entry = some c) : CardAlike ⟨some c, some ⟨.r, pos⟩⟩ card
  | writing {c : List Byte} {mode : OpenMode} {pos : Nat} {card : FatFs} {fil : Fil} (hmode : mode ≠ .r)
      (hpos : mode = .w → pos = c.length) (hfil : card.fil = some fil)
      (hflag : fil.flag &&& faWrite ≠ 0) (hfptr : fil.fptr = c.length) (hdata : fil.data = c)
      (hctr : card.ctr = 0x100) (hentry : fil.flag &&& faModified = 0 → card.entry = some c) :
      CardAlike ⟨some c, some ⟨mode, pos⟩⟩ card

section Card

variable {host : CFile} {card : FatFs}

theorem CardAlike.content (h : CardAlike host card) : card.content = host.onDisk := by
  cases h with
  | closed hfil _ hentry =>
    rw [FatFs.content, hfil]
    exact hentry
  | reading hfil _ hdata _ _ =>
    rw [FatFs.content, hfil]
    exact congrArg some hdata
  | writing _ _ hfil _ _ hdata _ _ =>
    rw [FatFs.content, hfil]
    exact congrArg some hdata

theorem CardAlike.at_end (h : CardAlike host card) {mode : OpenMode} {pos : Nat}
    (hfile : host.file = some ⟨mode, pos⟩) (hmode : mode = .w) :
    pos = (host.onDisk.getD []).length := by
  cases h with
  | closed => cases hfile
  | reading =>
    cases hfile
    cases hmode
  | writing _ hpos =>
    cases hfile
    exact hpos hmode

theorem card_mount (h : CardAlike host card) (hidle : host.file = none) :
    CardAlike host card.fMount.2 := by
  cases h with
  | closed _ _ hentry => exact .closed rfl rfl hentry
  | reading => cases hidle
  | writing => cases hidle

/-- `open` on the card, where `open(1)` finds no file. -/
theorem card_open (h : CardAlike host card) (hmounted : card.mounted = true)
    (hidle : host.file = none) {mode : Nat} (hnew : mode = 1 → host.onDisk = none) : ∃ d',
    card.openFile mode = ((CFile.openFile mode host).1, d') ∧ d'.mounted = true ∧
      CardAlike (CFile.openFile mode host).2 d' := by
  cases h with
  | reading => cases hidle
  | writing => cases hidle
  | @closed onDisk _ hfil hctr hentry =>
    match mode with
    | 0 =>
      cases onDisk with
      | none =>
        have hopen := FatFs.openFile_eq 0 rfl (FatFs.fOpen_missing hmounted hentry)
        exact ⟨_, hopen, hmounted, .closed rfl hctr hentry⟩
      | some c =>
        have hopen := FatFs.openFile_eq 0 rfl (FatFs.fOpen_read hmounted hentry hctr)
        exact ⟨_, hopen, hmounted, .reading rfl rfl rfl rfl hentry⟩
    | 1 =>
      obtain rfl : onDisk = none := hnew rfl
      have hopen := FatFs.openFile_eq 1 rfl (FatFs.fOpen_made (faCreateNew ||| faWrite) hmounted hentry
        rfl rfl rfl (by decide) rfl)
      exact ⟨_, hopen, hmounted,
        .writing nofun (fun _ => rfl) rfl (by decide) rfl rfl rfl (fun _ => rfl)⟩
    | 2 =>
      cases onDisk with
      | none =>
        have hopen := FatFs.openFile_eq 2 rfl (FatFs.fOpen_made (faOpenAppend ||| faWrite) hmounted
          hentry rfl rfl rfl (by decide) rfl)
        exact ⟨_, hopen, hmounted, .writing nofun nofun rfl (by decide) rfl rfl rfl (fun _ => rfl)⟩
      | some c =>
        have hopen := FatFs.openFile_eq 2 rfl (FatFs.fOpen_append hmounted hentry hctr)
        have hflag : (faOpenAppend ||| faWrite) &&& faWrite ≠ 0 := by decide
        exact ⟨_, hopen, hmounted, .writing nofun nofun rfl hflag rfl rfl rfl (fun _ => hentry)⟩
    | _ + 3 => exact ⟨_, rfl, hmounted, .closed hfil hctr hentry⟩

/-- On the host too, what is written goes to the end. -/
theorem host_write {c : List Byte} {mode : OpenMode} {pos : Nat} (hmode : mode ≠ .r)
    (hpos : mode = .w → pos = c.length) (bs : List Byte) :
    CFile.write bs ⟨some c, some ⟨mode, pos⟩⟩ =
      ((bs.length : Int), ⟨some (c ++ bs), some ⟨mode, c.length + bs.length⟩⟩) := by
  cases mode with
  | r => exact absurd rfl hmode
  | w =>
    rw [hpos rfl]
    have hend := overwrite_end c bs
    unfold overwrite at hend
    simp only [CFile.write, Option.getD_some, hend]
  | a => rfl

theorem card_write (h : CardAlike host card) {mode : OpenMode} {pos : Nat}
    (hfile : host.file = some ⟨mode, pos⟩) (hmode : mode ≠ .r) {bs : List Byte}
    (hroom : (host.onDisk.getD []).length + bs.length ≤ card.room)
    (hmax : (host.onDisk.getD []).length + bs.length ≤ 2147483647) : ∃ d',
    card.write bs = ((CFile.write bs host).1, d') ∧ d'.mounted = card.mounted ∧
      CardAlike (CFile.write bs host).2 d' := by
  cases h with
  | closed => cases hfile
  | reading =>
    cases hfile
    exact absurd rfl hmode
  | @writing c mode' pos' _ fil _ hpos hfil hflag hfptr hdata hctr hentry =>
    cases hfile
    subst hdata
    obtain ⟨bw, hfat, hall⟩ := FatFs.fWrite_end hfil hflag hfptr bs
    obtain rfl := hall hroom (Nat.lt_of_le_of_lt hmax (by decide))
    rw [List.take_length] at hfat
    have hwrite : (fil.flag ||| faModified) &&& faWrite ≠ 0 := fun hzero =>
      hflag (FatFs.or_and_eq_zero_iff.mp hzero).1
    have hmodified : (fil.flag ||| faModified) &&& faModified ≠ 0 := fun hzero =>
      absurd (FatFs.or_and_eq_zero_iff.mp hzero).2 (by decide)
    have hlength : (fil.data ++ bs).length = fil.data.length + bs.length := List.length_append
    rw [host_write hmode hpos bs]
    refine ⟨{ card with fil := some ⟨fil.flag ||| faModified, fil.data.length + bs.length,
      fil.data ++ bs⟩ }, ?_, rfl, .writing hmode (fun _ => hlength.symm) rfl hwrite hlength.symm rfl
      hctr (absurd · hmodified)⟩
    simp only [FatFs.write, hfat, ne_eq, not_true_eq_false, if_false]

/-- Nothing that was written is lost. -/
theorem card_close (h : CardAlike host card) : card.fClose.mounted = card.mounted ∧
    CardAlike (CFile.close host).2 card.fClose := by
  cases h with
  | closed hfil hctr hentry =>
    have hclose : card.fClose = card := by
      unfold FatFs.fClose
      rw [hfil]
    rw [hclose]
    exact ⟨rfl, .closed hfil hctr hentry⟩
  | @reading c pos _ fil hfil hflag hdata hctr hentry =>
    have hmodified : fil.flag &&& faModified = 0 := by
      rw [hflag]
      rfl
    rw [FatFs.fClose_eq hfil, hctr]
    exact ⟨rfl, .closed rfl rfl ((if_pos hmodified).trans hentry)⟩
  | @writing c mode pos _ fil hmode hpos hfil hflag hfptr hdata hctr hentry =>
    rw [FatFs.fClose_eq hfil, hctr]
    refine ⟨rfl, .closed rfl rfl ?_⟩
    split
    · rename_i hmodified
      exact hentry hmodified
    · exact congrArg some hdata

end Card

/-! ## Runs -/

/-- The flash and the card are like the host. -/
structure Alike {lfs : Lfs σ} (docs : lfs.Documented) (s : Backends σ) : Prop where
  flash : FlashAlike docs s.host s.flash
  card : CardAlike s.host s.card
  mounted : s.card.mounted = true → docs.mounted s.flash

section Runs

variable {lfs : Lfs σ} {docs : lfs.Documented} {s s' : Backends σ}

theorem start_alike (h : Start docs s) : Alike docs s := by
  obtain ⟨⟨onDisk, file⟩, flash, card⟩ := s
  obtain ⟨hhost, hflash, hcontent, hmounted, hfil, hctr, hentry⟩ := h
  obtain rfl : file = none := hhost
  refine ⟨⟨hcontent, hflash, fun hne => absurd rfl hne⟩, .closed hfil hctr hentry, fun hyes => ?_⟩
  rw [hmounted] at hyes
  cases hyes

/-- Three calls that return the same and leave the devices alike. -/
theorem kept_of_alike {op : FileOp} {ret : FileRet} {host : CFile} {flash : σ} {card : FatFs}
    (hhost : hostHandler.call op s.host = (ret, host))
    (hflash : (littleFSHandler lfs).call op s.flash = (ret, flash))
    (hcard : fatFSHandler.call op s.card = (ret, card))
    (hdelivers : ∀ n, op = .read n → hostHandler.Delivers n s.host ∧
      (littleFSHandler lfs).Delivers n s.flash ∧ fatFSHandler.Delivers n s.card)
    (halike : Alike docs ⟨host, flash, card⟩) :
    Kept docs ⟨s, op, s.next lfs op⟩ ∧ Alike docs (s.next lfs op) := by
  have hnext : s.next lfs op = ⟨host, flash, card⟩ := by
    unfold Backends.next
    rw [hhost, hflash, hcard]
  rw [hnext]
  exact ⟨⟨by rw [hflash, hhost], by rw [hcard, hhost], halike.flash.content, halike.card.content,
    hdelivers⟩, halike⟩

theorem host_delivers (n : Nat) (d : CFile) : hostHandler.Delivers n d := by
  obtain ⟨onDisk, file⟩ := d
  rcases file with _ | ⟨mode, pos⟩
  · rfl
  · cases mode <;> rfl

theorem mount_kept (h : Alike docs s) (horder : InOrder docs s .mount) :
    Kept docs ⟨s, .mount, s.next lfs .mount⟩ ∧ Alike docs (s.next lfs .mount) := by
  obtain ⟨flash, hflash, hmounted, hlike⟩ := flash_mount h.flash horder
  have hcall : (littleFSHandler lfs).call .mount s.flash = (.result true, flash) := by
    simp only [FileHandler.call, littleFSHandler, hflash]
  exact kept_of_alike rfl hcall rfl nofun ⟨hlike, card_mount h.card horder, fun _ => hmounted⟩

theorem open_kept (h : Alike docs s) {mode : Nat} (horder : InOrder docs s (.openFile mode))
    (hconforms : Conforms s (.openFile mode)) :
    Kept docs ⟨s, .openFile mode, s.next lfs (.openFile mode)⟩ ∧
      Alike docs (s.next lfs (.openFile mode)) := by
  by_cases hmode : mode ≤ 2
  · obtain ⟨hmounted, hidle⟩ := horder hmode
    have hempty : mode = 1 → s.host.onDisk.getD [] = [] := fun hone => by
      rw [hconforms hone]
      rfl
    obtain ⟨flash, hflash, hmounted', hlike⟩ := flash_open h.flash (h.mounted hmounted) hidle hempty
    obtain ⟨card, hcard, -, hlike'⟩ := card_open h.card hmounted hidle hconforms
    have hcall : (littleFSHandler lfs).call (.openFile mode) s.flash =
        (.result (CFile.openFile mode s.host).1, flash) := by
      simp only [FileHandler.call, littleFSHandler, hflash]
    have hcall' : fatFSHandler.call (.openFile mode) s.card =
        (.result (CFile.openFile mode s.host).1, card) := by
      simp only [FileHandler.call, fatFSHandler, hcard]
    exact kept_of_alike rfl hcall hcall' nofun ⟨hlike, hlike', fun _ => hmounted'⟩
  · obtain ⟨k, rfl⟩ := Nat.exists_eq_add_of_le' (Nat.lt_of_not_le hmode)
    exact kept_of_alike rfl rfl rfl nofun h

/-- Only a read of no byte: `fatFSHandler` always returns what it was asked for. -/
theorem read_kept (h : Alike docs s) {n : Nat} (horder : InOrder docs s (.read n))
    (hconforms : Conforms s (.read n)) : Kept docs ⟨s, .read n, s.next lfs (.read n)⟩ ∧
      Alike docs (s.next lfs (.read n)) := by
  obtain rfl : n = 0 := hconforms
  obtain ⟨pos, hfile⟩ := horder
  obtain ⟨got, flash, hflash, hbytes, hret, hmounted, hlike⟩ := flash_read h.flash hfile 0
  have hhost : CFile.read 0 s.host = (⟨[], Nat.le_refl 0, 0⟩, s.host) := by
    obtain ⟨⟨onDisk, file⟩, _, _⟩ := s
    obtain rfl : file = _ := hfile
    rfl
  rw [hhost] at hbytes hret hlike
  have hcall : (littleFSHandler lfs).call (.read 0) s.flash = (.count 0, flash) := by
    simp only [FileHandler.call, littleFSHandler, hflash, hret]
  have hcall' : fatFSHandler.call (.read 0) s.card = (.count 0, s.card) := by
    simp only [FileHandler.call, fatFSHandler, FatFs.read, FatFs.fGets_zero]
    rfl
  have hcall'' : hostHandler.call (.read 0) s.host = (.count 0, s.host) := by
    simp only [FileHandler.call, hostHandler, cFileHandler, hhost]
  refine kept_of_alike hcall'' hcall hcall' ?_ ⟨hlike, h.card, fun hyes => hmounted (h.mounted hyes)⟩
  intro n hn
  cases hn
  refine ⟨host_delivers 0 s.host, ?_, ?_⟩
  · simp only [FileHandler.Delivers, littleFSHandler, hflash, hbytes, hret]
    rfl
  · simp only [FileHandler.Delivers, fatFSHandler, FatFs.read, FatFs.fGets_zero]
    rfl

theorem write_kept (h : Alike docs s) {bs : List Byte} (horder : InOrder docs s (.write bs)) :
    Kept docs ⟨s, .write bs, s.next lfs (.write bs)⟩ ∧ Alike docs (s.next lfs (.write bs)) := by
  obtain ⟨⟨mode, pos, hfile, hmode⟩, hflashRoom, hcardRoom⟩ := horder
  obtain ⟨flash, hflash, hmounted, hlike⟩ :=
    flash_write h.flash hfile hmode (h.card.at_end hfile) hflashRoom
  obtain ⟨card, hcard, hmounted', hlike'⟩ :=
    card_write h.card hfile hmode hcardRoom (hflashRoom.trans docs.room_le)
  have hcall : (littleFSHandler lfs).call (.write bs) s.flash =
      (.count (CFile.write bs s.host).1, flash) := by
    simp only [FileHandler.call, littleFSHandler, hflash]
  have hcall' : fatFSHandler.call (.write bs) s.card =
      (.count (CFile.write bs s.host).1, card) := by
    simp only [FileHandler.call, fatFSHandler, hcard]
  refine kept_of_alike rfl hcall hcall' nofun ⟨hlike, hlike', fun hyes => hmounted (h.mounted ?_)⟩
  exact hmounted'.symm.trans hyes

theorem close_kept (h : Alike docs s) (horder : InOrder docs s .close) :
    Kept docs ⟨s, .close, s.next lfs .close⟩ ∧ Alike docs (s.next lfs .close) := by
  obtain ⟨flash, hflash, hmounted, hlike⟩ := flash_close h.flash horder
  obtain ⟨hmounted', hlike'⟩ := card_close h.card
  have hcall : (littleFSHandler lfs).call .close s.flash = (.count 0, flash) := by
    simp only [FileHandler.call, littleFSHandler, hflash]
  refine kept_of_alike rfl hcall rfl nofun ⟨hlike, hlike', fun hyes => hmounted (h.mounted ?_)⟩
  exact hmounted'.symm.trans hyes

/-- **A call in order** that writes no existing file anew and reads no byte keeps the contract. -/
theorem call_kept (h : Alike docs s) {op : FileOp} (hstep : backendStep lfs s op s')
    (horder : InOrder docs s op) (hconforms : Conforms s op) :
    Kept docs ⟨s, op, s'⟩ ∧ Alike docs s' := by
  subst hstep
  cases op with
  | mount => exact mount_kept h horder
  | openFile mode => exact open_kept h horder hconforms
  | read n => exact read_kept h horder hconforms
  | write bs => exact write_kept h horder
  | close => exact close_kept h horder

theorem runs_kept {ts : List (Taken (Backends σ) FileOp)} (h0 : Alike docs s)
    (hrun : Run (backendStep lfs) s ts s')
    (hcalls : ∀ t ∈ ts, InOrder docs t.before t.input ∧ Conforms t.before t.input) :
    ∀ t ∈ ts, Kept docs t :=
  (Run.sound (fun _ halike hstep hcall => call_kept halike hstep hcall.1 hcall.2) hrun h0 hcalls).1

/-- On the host, what is written after `open(1)` is the file. -/
theorem host_written {bs : List Byte} {s₀ s₁ s₂ s₃ : Backends σ}
    (h₁ : backendStep lfs s₀ (.openFile 1) s₁) (h₂ : backendStep lfs s₁ (.write bs) s₂)
    (h₃ : backendStep lfs s₂ .close s₃) : s₃.host.onDisk = some bs := by
  subst h₁ h₂ h₃
  show some ([].take 0 ++ bs ++ [].drop (0 + bs.length)) = some bs
  simp

/-- **Three handlers, one contract**: they return the same and leave the same file in every run whose
calls come in order, open no file that is there with mode `1`, and read no byte. -/
theorem handlers_agree {ts : List (Taken (Backends σ) FileOp)} (h0 : Start docs s)
    (hrun : Run (backendStep lfs) s ts s')
    (hcalls : ∀ t ∈ ts, InOrder docs t.before t.input ∧ Conforms t.before t.input) :
    OneContract docs ts := by
  have hkept := runs_kept (start_alike h0) hrun hcalls
  refine ⟨hkept, ?_⟩
  rintro us bs s₀ s₁ s₂ s₃ vs rfl
  have hsteps := Run.taken (I := fun _ => True) (fun _ _ _ _ _ => trivial) hrun trivial
  have hhost : s₃.host.onDisk = some bs :=
    host_written (hsteps ⟨s₀, .openFile 1, s₁⟩ (by simp)).2 (hsteps ⟨s₁, .write bs, s₂⟩ (by simp)).2
      (hsteps ⟨s₂, .close, s₃⟩ (by simp)).2
  have hlast := hkept ⟨s₂, .close, s₃⟩ (by simp)
  exact ⟨hhost, hlast.flash_content.trans hhost, hlast.card_content.trans hhost⟩

/-! ## Calls that break it -/

/-- `open(1)` on a file that is there: `FA_CREATE_NEW` fails, `fopen` does not. -/
theorem open_existing_breaks (h : Alike docs s) (hidle : s.host.file = none)
    (hmounted : s.card.mounted = true) (hfile : s.host.onDisk ≠ none) :
    ¬ Kept docs ⟨s, .openFile 1, s'⟩ := by
  intro hkept
  have hcard : (s.card.openFile 1).1 = false := by
    obtain ⟨⟨onDisk, file⟩, flash, card⟩ := s
    obtain rfl : file = none := hidle
    obtain ⟨c, rfl⟩ := Option.ne_none_iff_exists'.mp hfile
    cases h.card with
    | closed _ hctr hentry =>
      exact congrArg Prod.fst
        (FatFs.openFile_eq 1 rfl (FatFs.fOpen_exists hmounted hentry hctr))
  have hsame := hkept.card_ret
  simp only [FileHandler.call, fatFSHandler, hcard] at hsame
  cases hsame

/-- On the flash, `open(1); write(bs); close()` writes over what is there. -/
theorem flash_rewrite {flash : σ} {c bs : List Byte} (hmounted : docs.mounted flash)
    (hidle : docs.file flash = none) (hfile : docs.content flash = some c)
    (hroom : bs.length ≤ docs.room) : ∃ d', (littleFSHandler lfs).Writes 1 flash bs d' ∧
      docs.content d' = some (bs ++ c.drop bs.length) := by
  obtain ⟨r, d₁, hopen, hr, -, hfile₁, hcontent₁⟩ :=
    docs.open_file flash [.wronly, .creat] hmounted hidle (Or.inr (by decide))
  rw [hfile] at hcontent₁
  obtain ⟨d₂, hwrite, -, hfile₂, hcontent₂⟩ :=
    docs.write d₁ [.wronly, .creat] 0 c bs hfile₁ (by decide) hcontent₁
      ((Nat.zero_add _).trans_le hroom)
  obtain ⟨d₃, hclose, -, -, hcontent₃⟩ := docs.close d₂ _ hfile₂
  have hopens := Lfs.openFile_eq 1 rfl hopen
  rw [decide_eq_true hr] at hopens
  refine ⟨d₃, ⟨d₁, d₂, hopens, hwrite, hclose⟩, ?_⟩
  rw [hcontent₃, hcontent₂]
  show some (c.take 0 ++ bs ++ c.drop (0 + bs.length)) = _
  rw [List.take_zero, List.nil_append, Nat.zero_add]

/-- A read of a byte or more from a file: `f_gets` keeps a byte of the buffer for the terminator, and
`fatFSHandler::read` returns the size of the buffer. -/
theorem read_breaks {n : Nat} (hn : n ≠ 0) : ¬ Kept docs ⟨s, .read n, s'⟩ := by
  intro hkept
  obtain ⟨-, -, hcard⟩ := hkept.delivers n rfl
  have hle := FatFs.length_fGets n s.card
  have hret : (n : Int) = (FatFs.fGets n s.card).1.length := hcard
  omega

/-- In order, the contract is kept exactly by the runs that conform. -/
theorem kept_iff {ts : List (Taken (Backends σ) FileOp)} (h0 : Start docs s)
    (hrun : Run (backendStep lfs) s ts s') (horder : ∀ t ∈ ts, InOrder docs t.before t.input) :
    (∀ t ∈ ts, Kept docs t) ↔ ∀ t ∈ ts, Conforms t.before t.input := by
  have hconforms : ∀ t : Taken (Backends σ) FileOp, Alike docs t.before →
      InOrder docs t.before t.input → Kept docs t → Conforms t.before t.input := by
    rintro ⟨s, op, s'⟩ halike hin hkept
    cases op with
    | openFile mode =>
      rintro rfl
      obtain ⟨hmounted, hidle⟩ := hin (by decide)
      by_contra hfile
      exact open_existing_breaks halike hidle hmounted hfile hkept
    | read n =>
      by_contra hn
      exact read_breaks hn hkept
    | mount => trivial
    | write => trivial
    | close => trivial
  have hsettled := Run.settled_iff (D := fun _ => False)
    (P := fun t => InOrder docs t.before t.input ∧ Kept docs t)
    (Q := fun t => InOrder docs t.before t.input ∧ Conforms t.before t.input)
    (fun t halike hstep hQ =>
      ⟨⟨hQ.1, (call_kept halike hstep hQ.1 hQ.2).1⟩, (call_kept halike hstep hQ.1 hQ.2).2⟩)
    (fun t halike _ hQ => Or.inl fun hP => hQ ⟨hP.1, hconforms t halike hP.1 hP.2⟩)
    (fun _ hdoomed _ => hdoomed.elim) hrun (start_alike h0) not_false
  constructor
  · intro hkept t ht
    exact (hsettled.mp (fun t ht => ⟨horder t ht, hkept t ht⟩) t ht).2
  · intro hcalls t ht
    exact (hsettled.mpr (fun t ht => ⟨horder t ht, hcalls t ht⟩) t ht).2

end Runs

/-! ## Runs in memory -/

/-- The transitions of the calls `ops`. -/
def callsFrom (lfs : Lfs σ) : List FileOp → Backends σ → List (Taken (Backends σ) FileOp)
  | [], _ => []
  | op :: ops, s => ⟨s, op, s.next lfs op⟩ :: callsFrom lfs ops (s.next lfs op)

theorem run_calls (lfs : Lfs σ) (ops : List FileOp) (s : Backends σ) :
    ∃ s', Run (backendStep lfs) s (callsFrom lfs ops s) s' := by
  induction ops generalizing s with
  | nil => exact ⟨s, .nil s⟩
  | cons op ops ih =>
    obtain ⟨s', hrun⟩ := ih (s.next lfs op)
    exact ⟨s', .cons rfl hrun⟩

/-- The prior file on each device. -/
def prior (file : Option (List Byte)) : Backends MemLfs where
  host := ⟨file, none⟩
  flash := ⟨true, false, file, none⟩
  card := ⟨0x100000, false, file, 0, none⟩

theorem prior_start (file : Option (List Byte)) : Start memDocs (prior file) :=
  ⟨rfl, rfl, rfl, rfl, rfl, rfl, rfl⟩

theorem handlers_agree_new : OneContract memDocs (callsFrom memLfs
    [.mount, .openFile 1, .write [0x41], .close, .openFile 0, .read 0, .close] (prior none)) := by
  obtain ⟨s', hrun⟩ := run_calls memLfs
    [.mount, .openFile 1, .write [0x41], .close, .openFile 0, .read 0, .close] (prior none)
  refine handlers_agree (prior_start none) hrun ?_
  simp only [callsFrom, List.forall_mem_cons]
  exact ⟨⟨rfl, trivial⟩, ⟨fun _ => ⟨rfl, rfl⟩, fun _ => rfl⟩,
    ⟨⟨⟨.w, 0, rfl, nofun⟩, by decide, by decide⟩, trivial⟩, ⟨nofun, trivial⟩,
    ⟨fun _ => ⟨rfl, rfl⟩, nofun⟩, ⟨⟨0, rfl⟩, rfl⟩, ⟨nofun, trivial⟩, List.forall_mem_nil _⟩

/-- The card does not open the file that is there. -/
theorem handlers_differ : ¬ OneContract memDocs (callsFrom memLfs
    [.mount, .openFile 1, .write [0x63], .close] (prior (some [0x61, 0x62]))) := by
  rintro ⟨hkept, -⟩
  simp only [callsFrom, List.forall_mem_cons] at hkept
  obtain ⟨-, hopen, -⟩ := hkept
  exact absurd hopen.card_ret (by decide)

end GenLogger.Platform
