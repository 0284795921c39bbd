import GenLogger.Fat.FileRun

/-!
# The card as a file device (`fatFSHandler`)

The handler of the card (`filesystemWrapper.hpp`) is modelled over a file that is a list of bytes
(`FatFs`). Here its calls are made of `ff.c` down to the sectors (`CardStep`): those of `f_read` and
`f_write` are the ones of `Fat.File`, and `f_gets` takes one byte after the other.

* The card works, and the file is there: its entry is known (`k`, `i`). A file that is missing and would be
  created, and so the root directory, are not in it.
* `openFile` is called only while no file is open. What the locks make of other calls is in `FatFs`.
* The entry's times are any.

Results:
* `Shown.read`, `Shown.write`, `Shown.gets`, `Shown.close`: the calls on an open file and on the list.
* `openFile_shows`: and the opening, in each of the three modes.
* `run_card`: each run is one of the list of bytes, with the same answers, and each next call returns. So
  the lists that the rest of the program is proved about are what the sectors have.
-/

namespace GenLogger.Fat

open GenLogger.Lib
open GenLogger.Platform (FatFs faRead faWrite faModified faSeekEnd faCreateAlways faCreateNew)

variable {g : Geometry}

/-! ## `ff.c` -/

/-- `while (n < len - 1)` of `f_gets`, with `n` more characters to get, for `fuel` rounds. -/
def getsLoop (g : Geometry) : Nat → Nat → Fil → Fs → Option (List UInt8 × Fil × Fs)
  | 0, _, _, _ => none
  | fuel + 1, n, fp, s =>
    if n = 0 then some ([], fp, s)
    else
      match fRead g 1 fp s with
      | some (_, [c], fp, s) =>
        if c = 0x0D then getsLoop g fuel n fp s
        else if c = 0x0A then some ([c], fp, s)
        else (getsLoop g fuel (n - 1) fp s).map fun (p, r) => (c :: p, r)
      | some (_, _, fp, s) => some ([], fp, s)
      | none => none

/-- `f_gets`: what it puts in the buffer. -/
def fGets (g : Geometry) (len : Nat) (fp : Fil) (s : Fs) : Option (List UInt8 × Fil × Fs) :=
  getsLoop g (fp.objsize + 2) (len - 1) fp s

/-! ## The handler -/

/-- A call of the handler with its answer. -/
inductive CardEvent where
  | openFile (mode : Nat) (ok : Bool)
  | read (size : Nat) (got : List UInt8)
  | write (buffer : List UInt8) (ret : Int)
  | close

/-- What the handler does, on the sectors. A file is opened only while none is, and its entry is found at
`i` in the sector `k`. -/
def CardStep (g : Geometry) (k i : Nat) (st : FileState) (e : CardEvent) (st' : FileState) : Prop :=
  match e with
  | .openFile mode ok =>
    st.fil.attached = false ∧ ((FatFs.openFlags mode).elim (ok = false ∧ st' = st) fun flags =>
      ∃ tm res, reopen g tm flags k i st.fil st.fs = some (res, st'.fil, st'.fs) ∧
        ok = decide (res = .ok))
  | .read size got => fGets g size st.fil st.fs = some (got, st'.fil, st'.fs)
  | .write buffer ret => buffer.length < 0x100000000 ∧ ∃ res bw,
    fWrite g buffer st.fil st.fs = some (res, bw, st'.fil, st'.fs) ∧
      ret = if res ≠ .ok then 0 else bw
  | .close => ∃ tm res, fClose g tm st.fil st.fs = (res, st'.fil, st'.fs)

/-- The same on the list of bytes. -/
def FatFsStep (d : FatFs) (e : CardEvent) (d' : FatFs) : Prop :=
  match e with
  | .openFile mode ok => d.openFile mode = (ok, d')
  | .read size got => d.fGets size = (got, d')
  | .write buffer ret => d.write buffer = (ret, d')
  | .close => d' = d.fClose

/-! ## What the handler has -/

/-- What `f_read` has left to give of the file. -/
def unread (fil : Platform.Fil) : List UInt8 :=
  if fil.flag &&& faRead = 0 then [] else fil.data.drop fil.fptr

/-- The file is open as `fil`, with the entry `entry` while nothing is to be written. -/
structure Shown (g : Geometry) (as : List (List Nat)) (cs : List Nat) (bs : List (List Nat))
    (k i : Nat) (entry : Option (List UInt8)) (fil : Platform.Fil) (st : FileState) : Prop
    extends Alive g as cs bs st where
  err : st.fil.err = .ok
  works : st.fs.drive.Works
  dirSect : st.fil.dirSect = k
  dirPtr : st.fil.dirPtr = i
  plain : st.fil.cltbl = none
  canRead : st.fil.canRead = true ↔ fil.flag &&& faRead ≠ 0
  canWrite : st.fil.canWrite = true ↔ fil.flag &&& faWrite ≠ 0
  modified : st.fil.modified = true ↔ fil.flag &&& faModified ≠ 0
  fptr : st.fil.fptr = fil.fptr
  data : st.fil.content g cs st.fs = fil.data
  attr : st.fs.view k (i + 11) &&& 0x11 = 0
  settled : st.fil.modified = false → st.fil.dirty = false ∧
    ldClust g (st.fs.view k) i = cs.headD 0 ∧
    ldDword (st.fs.view k) (i + 28) = st.fil.objsize ∧ entry = some fil.data

section Session

variable {as bs : List (List Nat)} {cs : List Nat} {k i : Nat} {entry : Option (List UInt8)}
  {fil : Platform.Fil} {fp : Fil} {s : Fs} {st st' : FileState}

theorem Shown.read (hg : g.Valid) (h : Shown g as cs bs k i entry fil ⟨fp, s⟩) (btr : Nat) :
    ∃ res got fp' s', fRead g btr fp s = some (res, got, fp', s') ∧
      got = (unread fil).take btr ∧ fp'.objsize = fp.objsize ∧
      Shown g as cs bs k i entry { fil with fptr := fil.fptr + got.length } ⟨fp', s'⟩ := by
  have hattached : fp.attached = true := h.attached
  have herr : fp.err = .ok := h.err
  have hworks : s.drive.Works := h.works
  by_cases hread : fp.canRead = true
  · obtain ⟨⟨res, got, fp', s'⟩, hr, hdone⟩ := fRead_spec hg h.toOpened hattached herr hread btr
    have hcalled : Called g as cs bs ⟨fp, s⟩ (.read btr res got) ⟨fp', s'⟩ cs bs :=
      read_called hg h.toAlive hr
    obtain ⟨herr', -, hbyte⟩ := hcalled.works herr hworks
    obtain ⟨rfl, hgot, hfile⟩ := (if_pos hread).mp hbyte
    obtain ⟨hcontent, hptr⟩ := ByteFile.mk.inj hfile
    obtain ⟨clust, dirty, buf, sect, err, heq⟩ := hdone.same
    replace heq : fp' = { fp.moved fp'.fptr clust dirty buf sect with err := err } := heq
    have hview : s'.view k = s.view k := h.dirSect ▸ h.dir.view_eq hdone.owned hdone.kept
    have hunread : got = (unread fil).take btr := by
      rw [hgot, unread, if_neg (h.canRead.mp hread), ← h.data, ← h.fptr]
      rfl
    have hsize : fp'.objsize = fp.objsize := (congrArg Fil.objsize heq).trans rfl
    have hmodified : fp'.modified = fp.modified := (congrArg Fil.modified heq).trans rfl
    refine ⟨.ok, got, fp', s', hr, hunread, hsize, hcalled.alive, herr', hcalled.kept.works hworks,
      (congrArg Fil.dirSect heq).trans h.dirSect, (congrArg Fil.dirPtr heq).trans h.dirPtr,
      (congrArg Fil.cltbl heq).trans h.plain, (congrArg (Fil.canRead · = true) heq).to_iff.trans h.canRead,
      (congrArg (Fil.canWrite · = true) heq).to_iff.trans h.canWrite,
      (congrArg (· = true) hmodified).to_iff.trans h.modified,
      hptr.trans (congrArg (· + got.length) h.fptr), hcontent.trans h.data, ?_, fun hclean => ?_⟩
    · rw [show FileState.fs ⟨fp', s'⟩ = s' from rfl, hview]
      exact h.attr
    · obtain ⟨hdirty, hclust, hobjsize, hentry⟩ := h.settled (hmodified.symm.trans hclean)
      refine ⟨hdone.clean hdirty, ?_, ?_, hentry⟩
      · rw [show FileState.fs ⟨fp', s'⟩ = s' from rfl, hview]
        exact hclust
      · rw [show FileState.fs ⟨fp', s'⟩ = s' from rfl, hview]
        exact hobjsize.trans hsize.symm
  · have hno : fp.canRead = false := Bool.not_eq_true _ ▸ hread
    have hunread : unread fil = [] := if_pos (not_not.mp fun hne => hread (h.canRead.mpr hne))
    refine ⟨.denied, [], fp, s, by simp [fRead, hattached, herr, hno], by rw [hunread, List.take_nil],
      rfl, ?_⟩
    exact h

/-- What `f_write` takes of a buffer. -/
def written (room : Nat) (fil : Platform.Fil) (buff : List UInt8) : Nat :=
  min (if 0x100000000 ≤ fil.fptr + buff.length then 0xFFFFFFFF - fil.fptr else buff.length)
    (room - fil.fptr)

/-- The file with the first `bw` bytes of `buff` laid over it. -/
def overwritten (fil : Platform.Fil) (buff : List UInt8) (bw : Nat) : Platform.Fil :=
  ⟨fil.flag ||| faModified, fil.fptr + bw,
    fil.data.take fil.fptr ++ buff.take bw ++ fil.data.drop (fil.fptr + bw)⟩

theorem Shown.write (hg : g.Valid) (h : Shown g as cs bs k i entry fil ⟨fp, s⟩) {buff : List UInt8}
    (hbuff : buff.length < 0x100000000) (hflag : fil.flag &&& faWrite ≠ 0) :
    ∃ fp' s' cs', fWrite g buff fp s = some (.ok, written (g.room as bs) fil buff, fp', s') ∧
      Shown g as cs' bs k i entry (overwritten fil buff (written (g.room as bs) fil buff))
        ⟨fp', s'⟩ := by
  have hattached : fp.attached = true := h.attached
  have herr : fp.err = .ok := h.err
  have hworks : s.drive.Works := h.works
  have hwrite : fp.canWrite = true := h.canWrite.mpr hflag
  have hplain : fp.cltbl = none := h.plain
  have hptr : fp.fptr = fil.fptr := h.fptr
  have hlimit : fp.objsize < 0x100000000 := (h.place herr).limit
  have hfptr : fp.fptr ≤ fp.objsize := (h.place herr).fptr
  have hopened : Opened g as cs bs fp s := h.toOpened
  obtain ⟨⟨res, bw, fp', s'⟩, cs', bs', hr, hdone⟩ :=
    fWrite_spec hg hopened hattached herr hwrite h.map hbuff
  obtain rfl : res = .ok := hdone.res.resolve_right fun hfail => hfail.2 hworks
  obtain rfl : bs' = bs := hdone.rest_eq rfl
  have hdir := h.dir.mono hdone.rest
  have hbw : bw = written (g.room as bs') fil buff := by
    refine (hdone.all rfl).trans ?_
    unfold btwOf written
    rw [Fil.capacity, if_pos hplain, ← hptr]
    congr 1
    split <;> omega
  obtain ⟨clust, sclust, dirty, buf, sect, err, modified, heq⟩ := hdone.same
  have hview : s'.view k = s.view k := h.dirSect ▸ hdir.view_eq hdone.opened.toOwned hdone.kept
  have hcltbl : fp'.cltbl = none := (congrArg Fil.cltbl heq).trans hplain
  have hbits : ∀ m : UInt8, faModified &&& m = 0 →
      ((fil.flag ||| faModified) &&& m ≠ 0 ↔ fil.flag &&& m ≠ 0) := by
    intro m hm
    rw [not_iff_not, FatFs.or_and_eq_zero_iff, and_iff_left hm]
  have hmodified : fp'.modified = true := hdone.modified
  refine ⟨fp', s', cs', hbw ▸ hr, ⟨hdone.opened, (congrArg Fil.attached heq).trans hattached, ?_,
    fun hne => absurd hcltbl hne⟩, hdone.err, hdone.kept.works hworks,
    (congrArg Fil.dirSect heq).trans h.dirSect, (congrArg Fil.dirPtr heq).trans h.dirPtr, hcltbl,
    ?_, ?_, ?_, ?_, ?_, ?_,
    fun hclean => absurd (hmodified.symm.trans hclean) Bool.false_ne_true.symm⟩
  · exact (congrArg Fil.dirSect heq).symm ▸ hdir
  · exact (congrArg (Fil.canRead · = true) heq).to_iff.trans (h.canRead.trans (hbits _ rfl).symm)
  · exact (congrArg (Fil.canWrite · = true) heq).to_iff.trans (h.canWrite.trans (hbits _ rfl).symm)
  · refine ⟨fun _ h0 => ?_, fun _ => hmodified⟩
    exact absurd (FatFs.or_and_eq_zero_iff.mp h0).2 (by decide)
  · rw [← hbw]
    exact (congrArg Fil.fptr heq).trans (congrArg (· + bw) hptr)
  · refine (hdone.content rfl).trans ?_
    rw [← hbw, show fp.content g cs s = fil.data from h.data, hptr]
    rfl
  · rw [show FileState.fs ⟨fp', s'⟩ = s' from rfl, hview]
    exact h.attr

/-- A file that was opened to be read. -/
theorem Shown.denied (h : Shown g as cs bs k i entry fil ⟨fp, s⟩) {buff : List UInt8}
    (hflag : fil.flag &&& faWrite = 0) : fWrite g buff fp s = some (.denied, 0, fp, s) := by
  have hattached : fp.attached = true := h.attached
  have herr : fp.err = .ok := h.err
  have hno : fp.canWrite = false := Bool.not_eq_true _ ▸ fun hyes => h.canWrite.mp hyes hflag
  simp [fWrite, hattached, herr, hno]

theorem Shown.length_unread (h : Shown g as cs bs k i entry fil ⟨fp, s⟩) :
    (unread fil).length < fp.objsize + 2 := by
  have hdata : fp.content g cs s = fil.data := h.data
  have hsize : fil.data.length = fp.objsize := by rw [← hdata, length_content]
  unfold unread
  split
  · exact Nat.succ_pos _
  · rw [List.length_drop]
    omega

/-- A byte that is read is not left any more. -/
theorem unread_next {c : UInt8} {rest : List UInt8} (h : unread fil = c :: rest) :
    unread { fil with fptr := fil.fptr + 1 } = rest := by
  unfold unread at h ⊢
  split_ifs at h ⊢
  · rw [← List.drop_drop, h]
    rfl

theorem Shown.gets (hg : g.Valid) {fuel n : Nat} {fil : Platform.Fil} {fp : Fil} {s : Fs}
    (h : Shown g as cs bs k i entry fil ⟨fp, s⟩) (hfuel : (unread fil).length < fuel) :
    ∃ fp' s', getsLoop g fuel n fp s = some ((FatFs.getsLoop n (unread fil)).1, fp', s') ∧
      Shown g as cs bs k i entry
        { fil with fptr := fil.fptr + (FatFs.getsLoop n (unread fil)).2 } ⟨fp', s'⟩ := by
  induction fuel generalizing n fil fp s with
  | zero => exact absurd hfuel (Nat.not_lt_zero _)
  | succ fuel ih =>
    rw [getsLoop]
    cases n with
    | zero =>
      rw [if_pos rfl, FatFs.getsLoop_zero]
      exact ⟨fp, s, rfl, h⟩
    | succ n =>
      obtain ⟨res, got, fp₁, s₁, hr, hgot, -, hread⟩ := h.read hg 1
      rw [if_neg n.succ_ne_zero, hr]
      cases hrest : unread fil with
      | nil =>
        rw [hrest, List.take_nil] at hgot
        subst hgot
        exact ⟨fp₁, s₁, rfl, hread⟩
      | cons c rest =>
        rw [hrest] at hgot hfuel
        obtain rfl : got = [c] := hgot
        have hnext := unread_next hrest
        have hfuel : (unread { fil with fptr := fil.fptr + 1 }).length < fuel := by
          rw [hnext]
          exact Nat.lt_of_succ_lt_succ hfuel
        have hread : Shown g as cs bs k i entry { fil with fptr := fil.fptr + 1 } ⟨fp₁, s₁⟩ := hread
        simp only [FatFs.getsLoop]
        by_cases hcr : c = 0x0D
        · obtain ⟨fp', s', hloop, hshown⟩ := ih (n := n + 1) hread hfuel
          rw [hnext] at hloop hshown
          simp only [hcr, if_true]
          refine ⟨fp', s', hloop, ?_⟩
          rwa [Nat.add_comm _ 1, ← Nat.add_assoc]
        · by_cases hlf : c = 0x0A
          · simp only [hlf, if_true]
            exact ⟨fp₁, s₁, rfl, hread⟩
          · obtain ⟨fp', s', hloop, hshown⟩ := ih (n := n) hread hfuel
            rw [hnext] at hloop hshown
            simp only [hcr, hlf, if_false, Nat.add_sub_cancel, hloop, Option.map_some]
            refine ⟨fp', s', rfl, ?_⟩
            rwa [Nat.add_comm _ 1, ← Nat.add_assoc]

/-- The file is closed, and its entry says `c`. -/
structure Laid (g : Geometry) (as : List (List Nat)) (cs : List Nat) (bs : List (List Nat))
    (k i : Nat) (c : List UInt8) (s : Fs) : Prop extends Listed g as cs bs k i s where
  works : s.drive.Works
  away : s.winsect ∉ g.sectorsOf cs
  attr : s.view k (i + 11) &&& 0x11 = 0
  content : stored g cs k i s = c

theorem Shown.close (hg : g.Valid) {c : List UInt8} (h : Shown g as cs bs k i (some c) fil ⟨fp, s⟩)
    (tm : Nat) : ∃ fp' s', fClose g tm fp s = (.ok, fp', s') ∧ fp'.attached = false ∧
      Laid g as cs bs k i (if fil.flag &&& faModified = 0 then c else fil.data) s' := by
  have hattached : fp.attached = true := h.attached
  have hworks : s.drive.Works := h.works
  have hopened : Opened g as cs bs fp s := h.toOpened
  have hdirSect : fp.dirSect = k := h.dirSect
  have hdirPtr : fp.dirPtr = i := h.dirPtr
  have hdir : InDirectory g as bs fp.dirSect := h.dir
  have hsync := fSync_spec hg hopened hdir hattached tm
  have herr : fp.err = .ok := h.err
  unfold fClose
  by_cases hmodified : fp.modified = true
  · obtain ⟨⟨res, fp', s'⟩, hr⟩ : ∃ r, fSync g tm fp s = r := ⟨_, rfl⟩
    rw [hr] at hsync ⊢
    obtain rfl : res = .ok := hsync.res.resolve_right fun hfail => hfail.2 hworks
    obtain ⟨dirty, buf, sect, modified, rfl⟩ : ∃ dirty buf sect modified,
      fp' = { fp.hold dirty buf sect with modified := modified } := hsync.same
    have hclosed : Opened g as cs bs { fp.hold dirty buf sect with modified := modified } s' :=
      hsync.opened
    have hentry : s'.view k = putEntry g tm fp (s.view k) := hdirSect ▸ hsync.entry rfl hmodified
    have hsize : ldDword (s'.view k) (i + 28) = fp.objsize := by
      rw [hentry, ← hdirPtr, ldDword_putEntry tm _ (h.place herr).limit]
    rw [if_neg (h.modified.mp hmodified)]
    refine ⟨_, s', rfl, rfl, ⟨hdirSect ▸ hdir, hclosed.sound, hclosed.untorn, hclosed.forest, ?_, ?_⟩,
      hsync.kept.works hworks, hclosed.winsect, ?_, ?_⟩
    · rw [hentry, ← hdirPtr, ldClust_putEntry tm _ (hopened.sclust_lt hg), hopened.sclust]
    · rw [hsize]
      exact hopened.size
    · rw [hentry, ← hdirPtr, putEntry_attr, hdirPtr, FatFs.or_and_eq_zero_iff]
      exact ⟨h.attr, rfl⟩
    · have hdata : fp.content g cs s = fil.data := h.data
      rw [stored, hsize, ← hdata, ← hsync.content herr]
      exact (content_of_clean hg hclosed.toOwned (hclosed.cached herr) (hsync.clean rfl hmodified).2).symm
  · have hno : fp.modified = false := Bool.not_eq_true _ ▸ hmodified
    have hstill : fSync g tm fp s = (.ok, fp, s) := hsync.still hno
    have hflag : fil.flag &&& faModified = 0 := not_not.mp fun hne => hmodified (h.modified.mpr hne)
    obtain ⟨hdirty, hclust, hobjsize, hentry⟩ := h.settled hno
    obtain rfl : c = fil.data := Option.some.inj hentry
    rw [hstill, if_pos hflag]
    refine ⟨_, s, rfl, rfl, ⟨hdirSect ▸ hdir, hopened.sound, hopened.untorn, hopened.forest, hclust, ?_⟩,
      hworks, hopened.winsect, h.attr, ?_⟩
    · exact hobjsize.trans_le hopened.size
    · rw [stored, show ldDword (s.view k) (i + 28) = fp.objsize from hobjsize, ← h.data]
      exact (content_of_clean hg hopened.toOwned (hopened.cached herr) hdirty).symm

/-- An entry that is neither a directory nor read-only is opened. -/
theorem openFound_plain {flags attr : UInt8} (hnew : flags &&& faCreateNew = 0) (hattr : attr &&& 0x11 = 0) :
    openFound flags attr = .ok := by
  have hbits : ∀ m : UInt8, 0x11 &&& m = m → attr &&& m = 0 := by
    intro m hm
    rw [← hm, ← UInt8.and_assoc, hattr, UInt8.zero_and]
  simp [openFound, hattr, hnew, hbits 0x10 rfl, hbits 0x01 rfl]

/-- A file that is to be a new one is not there yet. -/
theorem openFound_exist {flags attr : UInt8} (hcreates : creates flags = true)
    (hnew : flags &&& faCreateNew ≠ 0) (hattr : attr &&& 0x11 = 0) : openFound flags attr = .exist := by
  simp [openFound, hcreates, hattr, hnew]

theorem Laid.opened (hg : g.Valid) {c : List UInt8} (h : Laid g as cs bs k i c s) (tm : Nat) {flags : UInt8}
    (hflags : flags &&& 0x3F = flags) (hnew : flags &&& faCreateNew = 0)
    (hkeep : flags &&& faCreateAlways = 0) (fp : Fil) :
    ∃ fp' s', reopen g tm flags k i fp s = some (.ok, fp', s') ∧
      Shown g as cs bs k i (some c) ⟨flags, if flags &&& faSeekEnd ≠ 0 then c.length else 0, c⟩
        ⟨fp', s'⟩ := by
  obtain ⟨⟨res, fp', s'⟩, hr, hopened⟩ := reopen_spec hg h.toListed h.away tm
    (by rw [hflags]; exact openFound_plain hnew h.attr) (by rw [hflags]; exact hkeep) fp
  obtain rfl : res = .ok := hopened.res.resolve_right fun hfail => hfail.2 h.works
  obtain ⟨s₂, clust, sect, buf, hwinsect, hwin, heq⟩ := hopened.same rfl
  have hview : s'.view k = s.view k := hopened.kept.view k h.shadow (Set.notMem_empty k)
  have hlength : c.length = ldDword (s.view k) (i + 28) := by
    rw [← h.content, stored, length_chunk]
  rw [hflags, ← hlength] at heq
  have hdirSect : fp'.dirSect = k := (congrArg Fil.dirSect heq).trans hwinsect
  have hcltbl : fp'.cltbl = none := congrArg Fil.cltbl heq
  have hmodified : fp'.modified = false :=
    (congrArg Fil.modified heq).trans (by simp [Fil.moved, validFil, hkeep])
  have hbits : flags &&& faModified = 0 := by
    rw [← hflags, UInt8.and_assoc]
    exact UInt8.and_zero
  have hobjsize : fp'.objsize = ldDword (s.view k) (i + 28) :=
    (congrArg Fil.objsize heq).trans (congrArg (ldDword · (i + 28)) hwin)
  refine ⟨fp', s', hr, ⟨hopened.opened rfl, congrArg Fil.attached heq, hdirSect.symm ▸ h.toInDirectory,
    fun hne => absurd hcltbl hne⟩, congrArg Fil.err heq, hopened.kept.works h.works, hdirSect,
    congrArg Fil.dirPtr heq, hcltbl, ?_, ?_, ?_, congrArg Fil.fptr heq,
    (hopened.content rfl).trans h.content, ?_, fun _ => ⟨congrArg Fil.dirty heq, ?_, ?_, rfl⟩⟩
  · exact (congrArg (Fil.canRead · = true) heq).to_iff.trans (by simp [Fil.moved, validFil])
  · exact (congrArg (Fil.canWrite · = true) heq).to_iff.trans (by simp [Fil.moved, validFil])
  · exact ⟨fun hyes => absurd (hmodified.symm.trans hyes) Bool.false_ne_true, fun hne => absurd hbits hne⟩
  · rw [show FileState.fs ⟨fp', s'⟩ = s' from rfl, hview]
    exact h.attr
  · rw [show FileState.fs ⟨fp', s'⟩ = s' from rfl, hview]
    exact h.sclust
  · rw [show FileState.fs ⟨fp', s'⟩ = s' from rfl, hview]
    exact hobjsize.symm

/-- A file that is not to be there. -/
theorem Laid.refused (hg : g.Valid) {c : List UInt8} (h : Laid g as cs bs k i c s) (tm : Nat) {flags : UInt8}
    (hfound : openFound (flags &&& 0x3F) (s.view k (i + 11)) ≠ .ok) (fp : Fil) :
    ∃ res fp' s', reopen g tm flags k i fp s = some (res, fp', s') ∧ res ≠ .ok ∧ fp'.attached = false ∧
      Laid g as cs bs k i c s' := by
  obtain ⟨⟨res, s₂⟩, hmove⟩ : ∃ r, moveWindow g k s = r := ⟨_, rfl⟩
  have hkept := kept_moveWindow hg h.sound h.lt
  have hres : (moveWindow g k s).1 = .ok := moveWindow_works h.works
  rw [hmove] at hkept hres
  obtain rfl : res = .ok := hres
  obtain ⟨hlisted, hwinsect, hwin, hstored⟩ := h.toListed.moved hg h.away hmove
  have hview : s₂.view k = s.view k := hkept.view k h.shadow (Set.notMem_empty k)
  have hmade : ¬ (openFound (flags &&& 0x3F) (s₂.win (i + 11)) = .ok ∧
      creates (flags &&& 0x3F) = true ∧ flags &&& 0x3F &&& faCreateAlways ≠ 0) :=
    fun hcond => hfound (hwin ▸ hcond.1)
  refine ⟨openFound (flags &&& 0x3F) (s.view k (i + 11)), { fp with attached := false }, s₂, ?_, hfound, rfl,
    hwinsect ▸ hlisted, hkept.works h.works, hwinsect.symm ▸ h.toListed.notMem, hview.symm ▸ h.attr, ?_⟩
  · unfold reopen fOpen
    simp only [hmove, ne_eq, not_true_eq_false, if_false, if_neg hmade]
    rw [hwin, if_pos hfound]
  · rw [← hwinsect, hstored, h.content]

/-! ## The handler and the list of bytes -/

/-- The card has what the device has. -/
structure Shows (g : Geometry) (as : List (List Nat)) (cs : List Nat) (bs : List (List Nat)) (k i : Nat)
    (d : FatFs) (st : FileState) : Prop where
  mounted : d.mounted = true
  room : d.room = g.room as bs
  closed : d.fil = none → st.fil.attached = false ∧ d.ctr = 0 ∧
    ∃ c, d.entry = some c ∧ Laid g as cs bs k i c st.fs
  opened : ∀ fil, d.fil = some fil → FatFs.decLock d.ctr = 0 ∧
    ∃ c, d.entry = some c ∧ Shown g as cs bs k i (some c) fil st

variable {d : FatFs}

theorem openFile_shows (hg : g.Valid) (h : Shows g as cs bs k i d st) {mode : Nat} {ok : Bool}
    (hstep : CardStep g k i st (.openFile mode ok) st') :
    ∃ d', FatFsStep d (.openFile mode ok) d' ∧ Shows g as cs bs k i d' st' := by
  obtain ⟨hdetached, hopen⟩ := hstep
  have hfil : d.fil = none := by
    cases hfil : d.fil with
    | none => rfl
    | some fil =>
      obtain ⟨-, c, -, hshown⟩ := h.opened fil hfil
      exact absurd (hdetached.symm.trans hshown.attached) nofun
  obtain ⟨-, hctr, c, hentry, hlaid⟩ := h.closed hfil
  match mode with
  | 0 =>
    obtain ⟨tm, res, hr, rfl⟩ := hopen
    obtain ⟨fp', s', hr', hshown⟩ := hlaid.opened hg tm (show faRead &&& 0x3F = faRead from rfl) rfl rfl st.fil
    obtain ⟨rfl, rfl, rfl⟩ : res = .ok ∧ st'.fil = fp' ∧ st'.fs = s' := by
      simpa using hr.symm.trans hr'
    refine ⟨_, FatFs.openFile_eq 0 rfl (FatFs.fOpen_read h.mounted hentry hctr), h.mounted, h.room, nofun,
      fun fil hsome => ⟨rfl, c, hentry, ?_⟩⟩
    obtain rfl := Option.some.inj hsome
    exact hshown
  | 1 =>
    obtain ⟨tm, res, hr, rfl⟩ := hopen
    have hexist : openFound ((faCreateNew ||| faWrite) &&& 0x3F) (st.fs.view k (i + 11)) ≠ .ok := by
      rw [openFound_exist rfl (by decide) hlaid.attr]
      nofun
    obtain ⟨res', fp', s', hr', hne, hoff, hlaid'⟩ := hlaid.refused hg tm hexist st.fil
    obtain ⟨rfl, rfl, rfl⟩ : res = res' ∧ st'.fil = fp' ∧ st'.fs = s' := by
      simpa using hr.symm.trans hr'
    rw [decide_eq_false hne]
    exact ⟨_, FatFs.openFile_eq 1 rfl (FatFs.fOpen_exists h.mounted hentry hctr), h.mounted, h.room,
      fun _ => ⟨hoff, hctr, c, hentry, hlaid'⟩, nofun⟩
  | 2 =>
    obtain ⟨tm, res, hr, rfl⟩ := hopen
    obtain ⟨fp', s', hr', hshown⟩ := hlaid.opened hg tm
      (show (Platform.faOpenAppend ||| faWrite) &&& 0x3F = Platform.faOpenAppend ||| faWrite from rfl)
      rfl rfl st.fil
    obtain ⟨rfl, rfl, rfl⟩ : res = .ok ∧ st'.fil = fp' ∧ st'.fs = s' := by
      simpa using hr.symm.trans hr'
    refine ⟨_, FatFs.openFile_eq 2 rfl (FatFs.fOpen_append h.mounted hentry hctr), h.mounted, h.room, nofun,
      fun fil hsome => ⟨rfl, c, hentry, ?_⟩⟩
    obtain rfl := Option.some.inj hsome
    exact hshown
  | _ + 3 =>
    obtain ⟨rfl, rfl⟩ := hopen
    exact ⟨d, rfl, h⟩

theorem read_shows (hg : g.Valid) (h : Shows g as cs bs k i d st) {size : Nat} {got : List UInt8}
    (hstep : CardStep g k i st (.read size got) st') :
    ∃ d', FatFsStep d (.read size got) d' ∧ Shows g as cs bs k i d' st' := by
  obtain ⟨fp, s⟩ := st
  obtain ⟨fp', s'⟩ := st'
  have hr : getsLoop g (fp.objsize + 2) (size - 1) fp s = some (got, fp', s') := hstep
  cases hfil : d.fil with
  | none =>
    obtain ⟨hoff, -⟩ := h.closed hfil
    have hoff : fp.attached = false := hoff
    have hrefused : getsLoop g (fp.objsize + 2) (size - 1) fp s = some ([], fp, s) := by
      simp [getsLoop, fRead, hoff]
    obtain ⟨rfl, rfl, rfl⟩ : got = [] ∧ fp' = fp ∧ s' = s := by
      simpa using hr.symm.trans hrefused
    refine ⟨d, ?_, h⟩
    have hnone : FatFs.getsLoop (size - 1) [] = ([], 0) := by
      cases size - 1 <;> rfl
    obtain ⟨room, mounted, entry, ctr, fil⟩ := d
    obtain rfl : fil = none := hfil
    simp [FatFsStep, FatFs.fGets, FatFs.unread, hnone]
  | some fil =>
    obtain ⟨hctr, c, hentry, hshown⟩ := h.opened fil hfil
    have hshown : Shown g as cs bs k i (some c) fil ⟨fp, s⟩ := hshown
    obtain ⟨fp₁, s₁, hloop, hshown'⟩ := hshown.gets hg (n := size - 1) hshown.length_unread
    obtain ⟨rfl, rfl, rfl⟩ : got = (FatFs.getsLoop (size - 1) (unread fil)).1 ∧ fp' = fp₁ ∧ s' = s₁ := by
      simpa using hr.symm.trans hloop
    have hunread : d.unread = unread fil := by
      simp only [FatFs.unread, hfil, unread]
    refine ⟨{ d with fil := some { fil with
      fptr := fil.fptr + (FatFs.getsLoop (size - 1) (unread fil)).2 } }, ?_, h.mounted, h.room,
      fun hnone => absurd hnone (Option.some_ne_none _), fun fil' hsome => ⟨hctr, c, hentry, ?_⟩⟩
    · simp only [FatFsStep, FatFs.fGets, hunread, hfil, Option.map_some]
    · obtain rfl := Option.some.inj hsome
      exact hshown'

theorem write_shows (hg : g.Valid) (h : Shows g as cs bs k i d st) {buffer : List UInt8} {ret : Int}
    (hstep : CardStep g k i st (.write buffer ret) st') :
    ∃ d' cs', FatFsStep d (.write buffer ret) d' ∧ Shows g as cs' bs k i d' st' := by
  obtain ⟨fp, s⟩ := st
  obtain ⟨fp', s'⟩ := st'
  obtain ⟨hbuff, res, bw, hr, rfl⟩ := hstep
  have hr : fWrite g buffer fp s = some (res, bw, fp', s') := hr
  cases hfil : d.fil with
  | none =>
    obtain ⟨hoff, -⟩ := h.closed hfil
    have hoff : fp.attached = false := hoff
    have hrefused : fWrite g buffer fp s = some (.invalidObject, 0, fp, s) := by
      simp [fWrite, hoff]
    obtain ⟨rfl, rfl, rfl, rfl⟩ : res = .invalidObject ∧ bw = 0 ∧ fp' = fp ∧ s' = s := by
      simpa using hr.symm.trans hrefused
    refine ⟨d, cs, ?_, h⟩
    simp [FatFsStep, FatFs.write, FatFs.fWrite, hfil]
  | some fil =>
    obtain ⟨hctr, c, hentry, hshown⟩ := h.opened fil hfil
    have hshown : Shown g as cs bs k i (some c) fil ⟨fp, s⟩ := hshown
    by_cases hflag : fil.flag &&& faWrite = 0
    · obtain ⟨rfl, rfl, rfl, rfl⟩ : res = .denied ∧ bw = 0 ∧ fp' = fp ∧ s' = s := by
        simpa using hr.symm.trans (hshown.denied hflag)
      refine ⟨d, cs, ?_, h⟩
      simp [FatFsStep, FatFs.write, FatFs.fWrite, hfil, hflag]
    · obtain ⟨fp₁, s₁, cs', hdone, hshown'⟩ := hshown.write hg hbuff hflag
      obtain ⟨rfl, rfl, rfl, rfl⟩ : res = .ok ∧ bw = written (g.room as bs) fil buffer ∧ fp' = fp₁ ∧
          s' = s₁ := by
        simpa using hr.symm.trans hdone
      refine ⟨{ d with fil := some (overwritten fil buffer (written (g.room as bs) fil buffer)) }, cs', ?_,
        h.mounted, h.room, fun hnone => absurd hnone (Option.some_ne_none _),
        fun fil' hsome => ⟨hctr, c, hentry, ?_⟩⟩
      · simp only [FatFsStep, FatFs.write, FatFs.fWrite, hfil, hflag, if_false, h.room, ne_eq,
          not_true_eq_false, overwritten, written]
      · obtain rfl := Option.some.inj hsome
        exact hshown'

theorem close_shows (hg : g.Valid) (h : Shows g as cs bs k i d st) (hstep : CardStep g k i st .close st') :
    ∃ d', FatFsStep d .close d' ∧ Shows g as cs bs k i d' st' := by
  obtain ⟨fp, s⟩ := st
  obtain ⟨fp', s'⟩ := st'
  obtain ⟨tm, res, hr⟩ := hstep
  have hr : fClose g tm fp s = (res, fp', s') := hr
  refine ⟨d.fClose, rfl, ?_⟩
  cases hfil : d.fil with
  | none =>
    obtain ⟨hoff, -⟩ := h.closed hfil
    have hoff : fp.attached = false := hoff
    have hrefused : fClose g tm fp s = (.invalidObject, fp, s) := by
      simp [fClose, fSync, hoff]
    obtain ⟨rfl, rfl, rfl⟩ : res = .invalidObject ∧ fp' = fp ∧ s' = s := by
      simpa using hr.symm.trans hrefused
    have hsame : d.fClose = d := by simp only [FatFs.fClose, hfil]
    rwa [hsame]
  | some fil =>
    obtain ⟨hctr, c, hentry, hshown⟩ := h.opened fil hfil
    have hshown : Shown g as cs bs k i (some c) fil ⟨fp, s⟩ := hshown
    obtain ⟨fp₁, s₁, hdone, hoff, hlaid⟩ := hshown.close hg tm
    obtain ⟨rfl, rfl, rfl⟩ : res = .ok ∧ fp' = fp₁ ∧ s' = s₁ := by
      simpa using hr.symm.trans hdone
    rw [FatFs.fClose_eq hfil]
    refine ⟨h.mounted, h.room, fun _ => ⟨hoff, hctr, _, ?_, hlaid⟩, nofun⟩
    change (if fil.flag &&& faModified = 0 then d.entry else some fil.data) = _
    rw [hentry]
    exact (apply_ite some _ _ _).symm

/-- Each call returns. -/
def FileState.Answers (g : Geometry) (k i : Nat) (st : FileState) : Prop :=
  (st.fil.attached = false → ∀ mode, ∃ ok st', CardStep g k i st (.openFile mode ok) st') ∧
    (∀ size, ∃ got st', CardStep g k i st (.read size got) st') ∧
    (∀ buffer : List UInt8, buffer.length < 0x100000000 →
      ∃ ret st', CardStep g k i st (.write buffer ret) st') ∧
    ∃ st', CardStep g k i st .close st'

theorem Shows.answers (hg : g.Valid) (h : Shows g as cs bs k i d st) : st.Answers g k i := by
  obtain ⟨fp, s⟩ := st
  refine ⟨fun hoff mode => ?_, fun size => ?_, fun buffer hbuff => ?_, ?_⟩
  · cases hflags : FatFs.openFlags mode with
    | none => exact ⟨false, ⟨fp, s⟩, hoff, by rw [hflags]; exact ⟨rfl, rfl⟩⟩
    | some flags =>
      obtain ⟨⟨res, fp', s'⟩, hr⟩ : ∃ r, reopen g 0 flags k i fp s = some r := by
        cases hfil : d.fil with
        | some fil =>
          obtain ⟨-, c, -, hshown⟩ := h.opened fil hfil
          exact absurd (hoff.symm.trans hshown.attached) nofun
        | none =>
          obtain ⟨-, -, c, -, hlaid⟩ := h.closed hfil
          have hlaid : Laid g as cs bs k i c s := hlaid
          by_cases hfound : openFound (flags &&& 0x3F) (s.view k (i + 11)) = .ok
          · have hkeep : flags &&& 0x3F &&& faCreateAlways = 0 := by
              match mode with
              | 0 => exact Option.some.inj hflags ▸ rfl
              | 1 => exact Option.some.inj hflags ▸ rfl
              | 2 => exact Option.some.inj hflags ▸ rfl
              | _ + 3 => exact absurd hflags nofun
            obtain ⟨r, hr, -⟩ := reopen_spec hg hlaid.toListed hlaid.away 0 hfound hkeep fp
            exact ⟨r, hr⟩
          · obtain ⟨res, fp', s', hr, -⟩ := hlaid.refused hg 0 hfound fp
            exact ⟨_, hr⟩
      exact ⟨decide (res = .ok), ⟨fp', s'⟩, hoff, by rw [hflags]; exact ⟨0, res, hr, rfl⟩⟩
  · cases hfil : d.fil with
    | none =>
      have hoff : fp.attached = false := (h.closed hfil).1
      exact ⟨[], ⟨fp, s⟩, by simp [CardStep, fGets, getsLoop, fRead, hoff]⟩
    | some fil =>
      obtain ⟨-, c, -, hshown⟩ := h.opened fil hfil
      obtain ⟨fp', s', hloop, -⟩ := hshown.gets hg (n := size - 1) (hshown.length_unread)
      exact ⟨_, ⟨fp', s'⟩, hloop⟩
  · cases hfil : d.fil with
    | none =>
      have hoff : fp.attached = false := (h.closed hfil).1
      exact ⟨0, ⟨fp, s⟩, hbuff, .invalidObject, 0, by simp [fWrite, hoff]⟩
    | some fil =>
      obtain ⟨-, c, -, hshown⟩ := h.opened fil hfil
      have hshown : Shown g as cs bs k i (some c) fil ⟨fp, s⟩ := hshown
      by_cases hflag : fil.flag &&& faWrite = 0
      · exact ⟨0, ⟨fp, s⟩, hbuff, .denied, 0, hshown.denied hflag, rfl⟩
      · obtain ⟨fp', s', cs', hdone, -⟩ := hshown.write hg hbuff hflag
        exact ⟨_, ⟨fp', s'⟩, hbuff, .ok, _, hdone, rfl⟩
  · exact ⟨⟨(fClose g 0 fp s).2.1, (fClose g 0 fp s).2.2⟩, 0, (fClose g 0 fp s).1, rfl⟩

/-- Each run of calls on a card that works is one on the list of bytes, with the same answers. The file is
on the card already, and one is opened only while none is open. -/
theorem run_card (hg : g.Valid) (h : Shows g as cs bs k i d st) {ts : List (Taken FileState CardEvent)}
    (hrun : Run (CardStep g k i) st ts st') :
    st'.Answers g k i ∧ ∃ d' cs' us, us.map Taken.input = ts.map Taken.input ∧ Run FatFsStep d us d' ∧
      Shows g as cs' bs k i d' st' := by
  induction hrun generalizing d cs with
  | nil st => exact ⟨h.answers hg, d, cs, [], rfl, .nil d, h⟩
  | @cons st st₁ st' e ts hstep _ ih =>
    obtain ⟨d₁, cs₁, hlist, hshows⟩ : ∃ d₁ cs₁, FatFsStep d e d₁ ∧ Shows g as cs₁ bs k i d₁ st₁ := by
      cases e with
      | openFile mode ok =>
        obtain ⟨d₁, hlist, hshows⟩ := openFile_shows hg h hstep
        exact ⟨d₁, cs, hlist, hshows⟩
      | read size got =>
        obtain ⟨d₁, hlist, hshows⟩ := read_shows hg h hstep
        exact ⟨d₁, cs, hlist, hshows⟩
      | write buffer ret => exact write_shows hg h hstep
      | close =>
        obtain ⟨d₁, hlist, hshows⟩ := close_shows hg h hstep
        exact ⟨d₁, cs, hlist, hshows⟩
    obtain ⟨hanswers, d', cs', us, hinputs, hrun', hshows'⟩ := ih hshows
    refine ⟨hanswers, d', cs', _, ?_, .cons hlist hrun', hshows'⟩
    exact congrArg (e :: ·) hinputs

/-- The card with four clusters and an empty file. -/
def emptyCard : FatFs where
  room := 512
  mounted := true
  entry := some []
  ctr := 0
  fil := none

theorem shows_emptyCard : Shows smallGeometry [[2, 3, 5]] [] [] 3 0 emptyCard
    ⟨{ newFile.fil with attached := false }, smallFs⟩ := by
  have hview : smallFs.view = smallFs.drive.sectors := Function.update_eq_self ..
  refine ⟨rfl, rfl, fun _ => ⟨rfl, rfl, [], rfl, ⟨inDirectory_small, sound_smallFs, exact_smallFs.untorn,
    Lib.Forest.nil_iff.mpr forest_smallFs, ?_, ?_⟩, nofun, fun hmem => ?_, ?_, ?_⟩, fun _ h => ?_⟩
  · rw [hview]
    rfl
  · rw [hview]
    exact Nat.le_refl 0
  · exact absurd hmem.2 List.not_mem_nil
  · rw [hview]
    rfl
  · unfold stored
    rw [hview]
    rfl
  · exact absurd h.symm (Option.some_ne_none _)

theorem fatFs_emptyCard {us : List (Taken FatFs CardEvent)} {ok : Bool} {ret : Int}
    (hinputs : us.map Taken.input = [.openFile 2 ok, .write [0x41] ret, .close])
    (hrun : Run FatFsStep emptyCard us d) :
    ok = true ∧ ret = 1 ∧ d.fil = none ∧ d.entry = some [0x41] := by
  obtain ⟨d₁, _, hopen, hrun, hinputs⟩ := hrun.of_inputs_cons hinputs
  obtain ⟨d₂, _, hwrite, hrun, hinputs⟩ := hrun.of_inputs_cons hinputs
  obtain ⟨d₃, _, hclose, hrun, hinputs⟩ := hrun.of_inputs_cons hinputs
  obtain rfl := hrun.of_inputs_nil hinputs
  obtain ⟨rfl, rfl⟩ := Prod.mk.inj hopen
  obtain ⟨rfl, rfl⟩ := Prod.mk.inj hwrite
  obtain rfl := hclose
  decide

/-- A byte is appended to the empty file. -/
theorem run_card_small : ∃ st' ts, Run (CardStep smallGeometry 3 0)
    ⟨{ newFile.fil with attached := false }, smallFs⟩ ts st' ∧
      ts.map Taken.input = [.openFile 2 true, .write [0x41] 1, .close] ∧
      ∃ cs, stored smallGeometry cs 3 0 st'.fs = [0x41] := by
  have hg := valid_smallGeometry
  obtain ⟨ok, st₁, hopen⟩ := (run_card hg shows_emptyCard (.nil _)).1.1 rfl 2
  obtain ⟨ret, st₂, hwrite⟩ :=
    (run_card hg shows_emptyCard (.cons hopen (.nil st₁))).1.2.2.1 [0x41] (by decide)
  obtain ⟨st₃, hclose⟩ :=
    (run_card hg shows_emptyCard (.cons hopen (.cons hwrite (.nil st₂)))).1.2.2.2
  have hrun := Run.cons hopen (.cons hwrite (.cons hclose (.nil st₃)))
  obtain ⟨-, d', cs', us, hinputs, hlist, hshows⟩ := run_card hg shows_emptyCard hrun
  obtain ⟨rfl, rfl, hfil, hentry⟩ := fatFs_emptyCard hinputs hlist
  obtain ⟨-, -, c, hc, hlaid⟩ := hshows.closed hfil
  obtain rfl := Option.some.inj (hentry.symm.trans hc)
  exact ⟨st₃, _, hrun, rfl, cs', hlaid.content⟩

end Session

end GenLogger.Fat
