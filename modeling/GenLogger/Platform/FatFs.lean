import GenLogger.Platform.FileHandler

/-!
# FatFS (`ff.c`) and `fatFSHandler`

Model of one file of a card that works and has a FAT file system on it, seen through one `FATFS` and
one `FIL` (`FatFs`).

* The directory entry and the clusters of the file are a list of bytes each: what the entry says is in
  the file, and what an open `FIL` has made of it, which `f_sync` writes to the entry.
* A card may run out of clusters (`room`).
* `chkLock`, `incLock` and `decLock` are the locks of `ff.c`, for the one file.
* `f_gets` takes one character after the other from `f_read` and puts a terminator behind them, which
  is not part of what it delivers.

Results:
* `fClose_eq`: what was written is in the entry.
* `fat_append`: what `open(2)`, `write` and `close` leave, also on a card without room.
* `fatAppendable`: an append that succeeds leaves the bytes at the end of the file.
* `fat_appends`: it succeeds where the card has room.

Out of scope: sectors, clusters and directories. `GenLogger.Fat` has the first two, and the simulation
that connects them to this file.
-/

namespace GenLogger.Platform

open GenLogger.Lib

/-- The `FRESULT`s that come of one file on a card that works. -/
inductive FResult where
  | ok
  | noFile
  | exist
  | denied
  | invalidObject
  | notEnabled
  | locked
  deriving Repr, DecidableEq

/-- `FA_READ`. -/
def faRead : UInt8 := 0x01
/-- `FA_WRITE`. -/
def faWrite : UInt8 := 0x02
/-- `FA_CREATE_NEW`. -/
def faCreateNew : UInt8 := 0x04
/-- `FA_CREATE_ALWAYS`. -/
def faCreateAlways : UInt8 := 0x08
/-- `FA_OPEN_ALWAYS`. -/
def faOpenAlways : UInt8 := 0x10
/-- `FA_SEEKEND`. -/
def faSeekEnd : UInt8 := 0x20
/-- `FA_OPEN_APPEND`. -/
def faOpenAppend : UInt8 := 0x30
/-- `FA_MODIFIED`. -/
def faModified : UInt8 := 0x40

/-- A file object (`FIL`) that is valid. `data` is what its clusters hold, `obj.objsize` bytes. -/
structure Fil where
  flag : UInt8
  fptr : Nat
  data : List Byte
  deriving Repr, DecidableEq

/-- The file on the card, and the members `fs` and `fil` of `fatFSHandler`. -/
structure FatFs where
  /-- The bytes the card has room for. -/
  room : Nat
  /-- `FatFs[vol]` is set. -/
  mounted : Bool
  /-- The file as its directory entry has it. -/
  entry : Option (List Byte)
  /-- `ctr` of the file in `Files`, `0` where it is not in there. -/
  ctr : Nat
  /-- `fil`, `none` where it is not valid. -/
  fil : Option Fil
  deriving Repr, DecidableEq

namespace FatFs

/-! ## `ff.c` -/

/-- `f_mount(&fs, "", 0)`. -/
def fMount (d : FatFs) : FResult × FatFs := (.ok, { d with mounted := true, ctr := 0, fil := none })

/-- `mode & ~FA_READ`. -/
def acc (mode : UInt8) : Bool := mode &&& ~~~faRead ≠ 0

/-- `chk_lock`. -/
def chkLock (acc : Bool) (ctr : Nat) : FResult :=
  if ctr = 0 then .ok else if acc ∨ ctr = 0x100 then .locked else .ok

/-- `inc_lock`. -/
def incLock (acc : Bool) (ctr : Nat) : Nat := if acc then 0x100 else ctr + 1

/-- `dec_lock`. -/
def decLock (ctr : Nat) : Nat := if ctr = 0x100 then 0 else ctr - 1

/-- `mode & (FA_CREATE_ALWAYS | FA_OPEN_ALWAYS | FA_CREATE_NEW)`. -/
def creates (mode : UInt8) : Bool := mode &&& (faCreateAlways ||| faOpenAlways ||| faCreateNew) ≠ 0

/-- `Create or Open a file` of `f_open`: the result, and the mode from here on. -/
def createOrOpen (res : FResult) (mode : UInt8) : FResult × UInt8 :=
  if creates mode then
    if res ≠ .ok then (if res = .noFile then .ok else res, mode ||| faCreateAlways)
    else if mode &&& faCreateNew ≠ 0 then (.exist, mode)
    else (.ok, mode)
  else (res, mode)

/-- `f_open`. -/
def fOpen (mode : UInt8) (d : FatFs) : FResult × FatFs :=
  if d.mounted = false then (.notEnabled, { d with fil := none })
  else
    let found := if d.entry = none then .noFile else chkLock (acc mode) d.ctr
    let (res, mode) := createOrOpen found mode
    if res ≠ .ok then (res, { d with fil := none })
    else
      -- the entry is new, or emptied
      let empty := creates mode ∧ mode &&& faCreateAlways ≠ 0
      let mode := if mode &&& faCreateAlways ≠ 0 then mode ||| faModified else mode
      let data := if empty then [] else d.entry.getD []
      (.ok, { d with
        entry := some data
        ctr := incLock (acc mode) d.ctr
        fil := some ⟨mode, if mode &&& faSeekEnd ≠ 0 then data.length else 0, data⟩ })

/-- `f_write`: the result, and `*bw`. -/
def fWrite (buff : List Byte) (d : FatFs) : FResult × Nat × FatFs :=
  match d.fil with
  | none => (.invalidObject, 0, d)
  | some fil =>
    if fil.flag &&& faWrite = 0 then (.denied, 0, d)
    else
      let btw := if 0x100000000 ≤ fil.fptr + buff.length then 0xFFFFFFFF - fil.fptr else buff.length
      -- `create_chain` fails on a card that is full
      let bw := min btw (d.room - fil.fptr)
      let data := fil.data.take fil.fptr ++ buff.take bw ++ fil.data.drop (fil.fptr + bw)
      (.ok, bw, { d with fil := some ⟨fil.flag ||| faModified, fil.fptr + bw, data⟩ })

/-- What `f_read` has left to give. -/
def unread (d : FatFs) : List Byte :=
  match d.fil with
  | none => []
  | some fil => if fil.flag &&& faRead = 0 then [] else fil.data.drop fil.fptr

/-- `while (n < len - 1)` of `f_gets`, with `n` more characters to get: these, and how many bytes it
read for them. -/
def getsLoop : Nat → List Byte → List Byte × Nat
  | 0, _ => ([], 0)
  | _ + 1, [] => ([], 0)
  | n + 1, c :: rest =>
    if c = 0x0D then
      let (p, rc) := getsLoop (n + 1) rest
      (p, rc + 1)
    else if c = 0x0A then ([c], 1)
    else
      let (p, rc) := getsLoop n rest
      (c :: p, rc + 1)

/-- `f_gets`: what it delivers. -/
def fGets (len : Nat) (d : FatFs) : List Byte × FatFs :=
  let (p, rc) := getsLoop (len - 1) d.unread
  (p, { d with fil := d.fil.map fun fil => { fil with fptr := fil.fptr + rc } })

/-- `f_sync`. -/
def fSync (d : FatFs) : FatFs :=
  match d.fil with
  | none => d
  | some fil =>
    if fil.flag &&& faModified = 0 then d
    else { d with entry := some fil.data, fil := some { fil with flag := fil.flag &&& ~~~faModified } }

/-- `f_close`. -/
def fClose (d : FatFs) : FatFs :=
  match d.fil with
  | none => d
  | some _ => { fSync d with ctr := decLock d.ctr, fil := none }

/-! ## What `f_open`, `f_write` and `f_close` do -/

/-- A bit of two flags together is one of either. -/
theorem or_and_distrib (x y m : UInt8) : (x ||| y) &&& m = (x &&& m) ||| (y &&& m) := by
  apply UInt8.toBitVec_inj.mp
  ext i
  simp [Bool.and_or_distrib_right]

theorem or_and_eq_zero_iff {x y m : UInt8} : (x ||| y) &&& m = 0 ↔ x &&& m = 0 ∧ y &&& m = 0 := by
  rw [or_and_distrib, UInt8.or_eq_zero_iff]

section Open

variable {d : FatFs}

theorem fOpen_missing (hmounted : d.mounted = true) (hentry : d.entry = none) :
    d.fOpen faRead = (.noFile, { d with fil := none }) := by
  have hopen : createOrOpen .noFile faRead = (.noFile, faRead) := rfl
  simp [fOpen, hmounted, hentry, hopen]

theorem fOpen_read {c : List Byte} (hmounted : d.mounted = true) (hentry : d.entry = some c)
    (hctr : d.ctr = 0) : d.fOpen faRead = (.ok, { d with ctr := 1, fil := some ⟨faRead, 0, c⟩ }) := by
  have hopen : createOrOpen .ok faRead = (.ok, faRead) := rfl
  have hcreate : faRead &&& faCreateAlways = 0 := rfl
  have hseek : faRead &&& faSeekEnd = 0 := rfl
  have hacc : acc faRead = false := rfl
  simp [fOpen, chkLock, incLock, hmounted, hentry, hctr, hopen, hcreate, hseek, hacc]

/-- A file that is made is empty. -/
theorem fOpen_made (flags : UInt8) {made : UInt8} (hmounted : d.mounted = true)
    (hentry : d.entry = none) (hflags : creates flags = true) (hmade : flags ||| faCreateAlways = made)
    (hcreates : creates made = true) (hempty : made &&& faCreateAlways ≠ 0)
    (hacc : acc (made ||| faModified) = true) : d.fOpen flags = (.ok, { d with
      entry := some []
      ctr := 0x100
      fil := some ⟨made ||| faModified, 0, []⟩ }) := by
  have hopen : createOrOpen .noFile flags = (.ok, made) := by
    simp [createOrOpen, hflags, hmade]
  simp [fOpen, incLock, hmounted, hentry, hopen, hcreates, hempty, hacc]

/-- `FA_CREATE_NEW` does not open a file that is there. -/
theorem fOpen_exists {c : List Byte} (hmounted : d.mounted = true) (hentry : d.entry = some c)
    (hctr : d.ctr = 0) :
    d.fOpen (faCreateNew ||| faWrite) = (.exist, { d with fil := none }) := by
  have hopen : createOrOpen .ok (faCreateNew ||| faWrite) = (.exist, faCreateNew ||| faWrite) := rfl
  simp [fOpen, chkLock, hmounted, hentry, hctr, hopen]

theorem fOpen_append {c : List Byte} (hmounted : d.mounted = true) (hentry : d.entry = some c)
    (hctr : d.ctr = 0) : d.fOpen (faOpenAppend ||| faWrite) =
      (.ok, { d with ctr := 0x100, fil := some ⟨faOpenAppend ||| faWrite, c.length, c⟩ }) := by
  have hopen : createOrOpen .ok (faOpenAppend ||| faWrite) = (.ok, faOpenAppend ||| faWrite) := rfl
  have hcreate : (faOpenAppend ||| faWrite) &&& faCreateAlways = 0 := rfl
  have hseek : (faOpenAppend ||| faWrite) &&& faSeekEnd ≠ 0 := by decide
  have hacc : acc (faOpenAppend ||| faWrite) = true := rfl
  simp [fOpen, chkLock, incLock, hmounted, hentry, hctr, hopen, hcreate, hseek, hacc]

end Open

/-- At its end, a file is extended by what was written of the buffer. -/
theorem fWrite_end {d : FatFs} {fil : Fil} (hfil : d.fil = some fil)
    (hflag : fil.flag &&& faWrite ≠ 0) (hfptr : fil.fptr = fil.data.length) (buff : List Byte) :
    ∃ bw, d.fWrite buff = (.ok, bw, { d with fil := some ⟨fil.flag ||| faModified,
        fil.data.length + bw, fil.data ++ buff.take bw⟩ }) ∧
      (fil.data.length + buff.length ≤ d.room → fil.data.length + buff.length < 0x100000000 →
        bw = buff.length) := by
  let btw := if 0x100000000 ≤ fil.data.length + buff.length then 0xFFFFFFFF - fil.data.length
    else buff.length
  refine ⟨min btw (d.room - fil.data.length), by simp [fWrite, hfil, hflag, hfptr, btw], ?_⟩
  intro hroom hmax
  have hbtw : btw = buff.length := if_neg (Nat.not_le.mpr hmax)
  rw [hbtw]
  exact Nat.min_eq_left (Nat.le_sub_of_add_le' hroom)

/-- What was written is in the entry. -/
theorem fClose_eq {d : FatFs} {fil : Fil} (hfil : d.fil = some fil) : d.fClose = { d with
    entry := if fil.flag &&& faModified = 0 then d.entry else some fil.data
    ctr := decLock d.ctr
    fil := none } := by
  unfold fClose fSync
  rw [hfil]
  by_cases h : fil.flag &&& faModified = 0 <;> simp only [h, if_true, if_false]

/-! ## The handler -/

/-- The flags of `fatFSHandler::open`. -/
def openFlags : Nat → Option UInt8
  | 0 => some faRead
  | 1 => some (faCreateNew ||| faWrite)
  | 2 => some (faOpenAppend ||| faWrite)
  | _ => none

/-- `fatFSHandler::open`. -/
def openFile (mode : Nat) (d : FatFs) : Bool × FatFs :=
  match openFlags mode with
  | none => (false, d)
  | some flags =>
    let (res, d) := fOpen flags d
    (decide (res = .ok), d)

theorem openFile_eq (mode : Nat) {flags : UInt8} (hflags : openFlags mode = some flags) {res : FResult}
    {d d' : FatFs} (hopen : d.fOpen flags = (res, d')) :
    d.openFile mode = (decide (res = .ok), d') := by
  simp only [openFile, hflags, hopen]

/-- `fatFSHandler::write`. -/
def write (buffer : List Byte) (d : FatFs) : Int × FatFs :=
  let (res, bytesWritten, d) := fWrite buffer d
  (if res ≠ .ok then 0 else bytesWritten, d)

/-- The file once it is closed. -/
def content (d : FatFs) : Option (List Byte) :=
  match d.fil with
  | none => d.entry
  | some fil => some fil.data

theorem length_getsLoop (n : Nat) (l : List Byte) : (getsLoop n l).1.length ≤ n := by
  induction l generalizing n with
  | nil => cases n <;> exact Nat.zero_le _
  | cons c l ih =>
    cases n with
    | zero => exact Nat.zero_le _
    | succ n =>
      unfold getsLoop
      split
      · exact ih (n + 1)
      · split
        · exact Nat.succ_le_succ (Nat.zero_le n)
        · exact Nat.succ_le_succ (ih n)

/-- `f_gets` never delivers as much as the buffer holds. -/
theorem length_fGets (len : Nat) (d : FatFs) : (fGets len d).1.length ≤ len - 1 :=
  length_getsLoop (len - 1) d.unread

theorem getsLoop_zero (l : List Byte) : getsLoop 0 l = ([], 0) := by
  cases l <;> rfl

/-- A read of no byte changes nothing. -/
theorem fGets_zero (d : FatFs) : fGets 0 d = ([], d) := by
  obtain ⟨room, mounted, entry, ctr, fil⟩ := d
  unfold fGets
  rw [getsLoop_zero]
  cases fil <;> rfl

/-- `fatFSHandler::read`. -/
def read (size : Nat) (d : FatFs) : Transfer size × FatFs :=
  let got := fGets size d
  (⟨got.1, (length_fGets size d).trans (Nat.sub_le size 1), size⟩, got.2)

end FatFs

/-- `fatFSHandler`. -/
def fatFSHandler : FileHandler FatFs where
  mount d := ((d.fMount).1 = .ok, (d.fMount).2)
  openFile := FatFs.openFile
  read := FatFs.read
  write := FatFs.write
  close d := (0, d.fClose)

/-! ## Appending to the card -/

/-- The card is mounted and no file is open. -/
structure FatFs.Closed (d : FatFs) : Prop where
  mounted : d.mounted = true
  ctr : d.ctr = 0
  fil : d.fil = none

/-- `open(2)` opens the file at its end, and makes it where there is none. -/
theorem fat_openAppend {d : FatFs} (h : d.Closed) : ∃ fil d', d.openFile 2 = (true, d') ∧
    d'.room = d.room ∧ d'.mounted = true ∧ d'.ctr = 0x100 ∧ d'.fil = some fil ∧
    fil.flag &&& faWrite ≠ 0 ∧ fil.fptr = fil.data.length ∧ fil.data = d.entry.getD [] := by
  cases hentry : d.entry with
  | none =>
    have hopen := FatFs.openFile_eq 2 rfl (FatFs.fOpen_made (faOpenAppend ||| faWrite) h.mounted
      hentry rfl rfl rfl (by decide) rfl)
    exact ⟨_, _, hopen, rfl, h.mounted, rfl, rfl, by decide, rfl, rfl⟩
  | some c =>
    have hopen := FatFs.openFile_eq 2 rfl (FatFs.fOpen_append h.mounted hentry h.ctr)
    have hflag : (faOpenAppend ||| faWrite) &&& faWrite ≠ 0 := by decide
    exact ⟨_, _, hopen, rfl, h.mounted, rfl, rfl, hflag, rfl, rfl⟩

/-- `open(2)`, `write` and `close` on the card: some of the bytes, all where there is room for them, are
behind what was in the file. -/
theorem fat_append {d : FatFs} (h : d.Closed) (bs : List Byte) : ∃ d₁ d₂, ∃ bw : Nat,
    d.openFile 2 = (true, d₁) ∧ d₁.write bs = ((bw : Int), d₂) ∧ d₂.fClose.Closed ∧
      d₂.fClose.entry = some (d.entry.getD [] ++ bs.take bw) ∧
      ((d.entry.getD []).length + bs.length ≤ d.room →
        (d.entry.getD []).length + bs.length < 0x100000000 → bw = bs.length) := by
  obtain ⟨fil, d₁, hopen, hroom, hmounted, hctr, hfil, hflag, hfptr, hdata⟩ := fat_openAppend h
  obtain ⟨bw, hwrite, hall⟩ := FatFs.fWrite_end hfil hflag hfptr bs
  rw [hdata, hroom] at hall
  have hmodified : (fil.flag ||| faModified) &&& faModified ≠ 0 := fun hzero =>
    absurd (FatFs.or_and_eq_zero_iff.mp hzero).2 (by decide)
  refine ⟨d₁, _, bw, hopen, by simp only [FatFs.write, hwrite]; rfl, ?_, ?_, hall⟩
  · rw [FatFs.fClose_eq rfl]
    exact ⟨hmounted, congrArg FatFs.decLock hctr, rfl⟩
  · rw [FatFs.fClose_eq rfl, ← hdata]
    exact if_neg hmodified

/-- **The card is appended to**, also where it is full and a write takes less. -/
def fatAppendable : Appendable fatFSHandler where
  content := FatFs.entry
  Idle := FatFs.Closed
  mount d d' h := by
    cases h
    exact ⟨⟨rfl, rfl, rfl⟩, rfl⟩
  append d hidle bs d' h := by
    obtain ⟨d₁, d₂, bw, hopen, hwrite, hclosed, hentry, -⟩ := fat_append hidle bs
    obtain ⟨e₁, e₂, hopen', hwrite', hclose'⟩ := h
    cases hopen.symm.trans hopen'
    obtain ⟨hbw, rfl⟩ := Prod.ext_iff.mp (hwrite.symm.trans hwrite')
    obtain rfl : bw = bs.length := Int.ofNat_inj.mp hbw
    cases hclose'
    rw [List.take_length] at hentry
    exact ⟨hclosed, hentry⟩

/-- Where there is room, the append succeeds. -/
theorem fat_appends {d : FatFs} (h : d.Closed) {bs : List Byte}
    (hroom : (d.entry.getD []).length + bs.length ≤ d.room)
    (hmax : (d.entry.getD []).length + bs.length < 0x100000000) :
    ∃ d', fatFSHandler.Writes 2 d bs d' := by
  obtain ⟨d₁, d₂, bw, hopen, hwrite, -, -, hall⟩ := fat_append h bs
  obtain rfl := hall hroom hmax
  exact ⟨d₂.fClose, d₁, d₂, hopen, hwrite, rfl⟩

end GenLogger.Platform
