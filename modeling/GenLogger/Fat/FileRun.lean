import GenLogger.Fat.FileOpen
import GenLogger.Fat.FileRead

/-!
# A file over any run of calls

What the caller of `f_read`, `f_write`, `f_lseek` and `f_sync` is owed, in whatever order the calls come
(`FileEvent`). `ByteFile` is what a file is for: a list of bytes and a position in it.

* `Alive` is an open file and the chains of the volume; it is kept whatever the drive does, but on FAT12
  only while it works (`Fs.Untorn`).
* `f_lseek` is to go somewhere: `CREATE_LINKMAP` is in `Fat.LinkMap`. With a link map the file has
  clusters.
* `Access` is what a file can be used for. Its room is a constant of a run: the clusters that are free are
  taken by this file only.

Results:
* `run_byteFile`: while the drive works, each run of calls is one of a `ByteFile`, with the same answers.
* `run_openAgain`: `f_sync` makes what a run leaves the file of another day.
* `run_others`: the other files of the volume and the other entries of the directory stay, also where
  transfers fail.
* `run_returns`: and the next call returns.
-/

namespace GenLogger.Fat

open GenLogger.Lib
open GenLogger.Platform (faRead faCreateAlways)

variable {g : Geometry}

/-- A file object and the volume it is on. -/
structure FileState where
  fil : Fil
  fs : Fs

/-- A call with its answer. -/
inductive FileEvent where
  /-- `f_read(fp, buff, btr, &br)`, with the `br` bytes in `buff`. -/
  | read (btr : Nat) (res : FResult) (got : List UInt8)
  /-- `f_write(fp, buff, btw, &bw)`. -/
  | write (buff : List UInt8) (res : FResult) (bw : Nat)
  | lseek (ofs : Nat) (res : FResult)
  | sync (tm : Nat) (res : FResult)

/-- The call, with arguments that fit in theirs. `f_lseek` is to go somewhere. -/
def FileStep (g : Geometry) (st : FileState) (e : FileEvent) (st' : FileState) : Prop :=
  match e with
  | .read btr res got => fRead g btr st.fil st.fs = some (res, got, st'.fil, st'.fs)
  | .write buff res bw =>
    buff.length < 0x100000000 ∧ fWrite g buff st.fil st.fs = some (res, bw, st'.fil, st'.fs)
  | .lseek ofs res =>
    ofs < 0x100000000 ∧ (st.fil.cltbl ≠ none → ofs ≠ 0xFFFFFFFF) ∧
      fLseek g ofs st.fil st.fs = some (res, st'.fil, st'.fs)
  | .sync tm res => fSync g tm st.fil st.fs = (res, st'.fil, st'.fs)

/-! ## What a file is for -/

/-- A file as a list of bytes, and where its pointer is. -/
structure ByteFile where
  content : List UInt8
  pos : Nat

/-- What a file can be used for: its flags, and the bytes that there is room for. `stretches` is that it
grows with a seek. -/
structure Access where
  readable : Bool
  writable : Bool
  stretches : Bool
  room : Nat

/-- What a call does. What is in a stretch that a seek puts behind the end is not said. -/
def ByteStep (a : Access) (f : ByteFile) (e : FileEvent) (f' : ByteFile) : Prop :=
  match e with
  | .read btr res got =>
    if a.readable then
      res = .ok ∧ got = (f.content.drop f.pos).take btr ∧ f' = ⟨f.content, f.pos + got.length⟩
    else res = .denied ∧ got = [] ∧ f' = f
  | .write buff res bw =>
    if a.writable then
      res = .ok ∧ bw = min (min buff.length (0xFFFFFFFF - f.pos)) (a.room - f.pos) ∧
        f' = ⟨f.content.take f.pos ++ buff.take bw ++ f.content.drop (f.pos + bw), f.pos + bw⟩
    else res = .denied ∧ bw = 0 ∧ f' = f
  | .lseek ofs res =>
    res = .ok ∧ f'.pos = min ofs (if a.stretches then a.room else f.content.length) ∧
      f'.content.length = max f.content.length f'.pos ∧
      f'.content.take f.content.length = f.content
  | .sync _ res => res = .ok ∧ f' = f

/-! ## One call -/

/-- A file that is open, in a directory. -/
structure Alive (g : Geometry) (as : List (List Nat)) (cs : List Nat) (bs : List (List Nat))
    (st : FileState) : Prop extends Opened g as cs bs st.fil st.fs where
  attached : st.fil.attached = true
  dir : InDirectory g as bs st.fil.dirSect
  map : st.fil.cltbl ≠ none → cs ≠ []

/-- The file as its caller sees it. -/
def FileState.byteFile (g : Geometry) (cs : List Nat) (st : FileState) : ByteFile :=
  ⟨st.fil.content g cs st.fs, st.fil.fptr⟩

/-- What the object of a file with the chain `cs` can be used for. -/
def FileState.access (g : Geometry) (as : List (List Nat)) (cs : List Nat) (bs : List (List Nat))
    (st : FileState) : Access where
  readable := st.fil.canRead
  writable := st.fil.canWrite
  stretches := st.fil.cltbl = none ∧ st.fil.canWrite = true
  room := st.fil.capacity g as cs bs

/-- An object without `FA_MODIFIED` has nothing left to be written. -/
def FileState.Saved (g : Geometry) (cs : List Nat) (st : FileState) : Prop :=
  st.fil.modified = false → Settled g cs st.fil st.fs

/-- The sectors that a file with the chain `cs` may change. -/
def FileState.reach (g : Geometry) (cs : List Nat) (st : FileState) : Set Nat :=
  g.own cs ∪ {st.fil.dirSect}

section Step

variable {as bs : List (List Nat)} {cs cs' : List Nat} {bs' : List (List Nat)} {st st' : FileState}
  {e : FileEvent}

/-- What calls on a file do to it and to the volume it is on, whatever the drive does. -/
structure FileKept (g : Geometry) (as : List (List Nat)) (cs : List Nat) (bs : List (List Nat))
    (st st' : FileState) (cs' : List Nat) (bs' : List (List Nat)) : Prop where
  alive : Alive g as cs' bs' st'
  grown : cs <+: cs'
  rest : bs <:+ bs'
  kept : Kept g (st.reach g cs') (st.reach g cs') st.fs st'.fs
  dirSect : st'.fil.dirSect = st.fil.dirSect
  dirPtr : st'.fil.dirPtr = st.fil.dirPtr
  entries : ∀ j, (j < st.fil.dirPtr + 11 ∨ st.fil.dirPtr + 32 ≤ j) →
    st'.fs.view st.fil.dirSect j = st.fs.view st.fil.dirSect j

/-- The same of one call, with its answer. -/
structure Called (g : Geometry) (as : List (List Nat)) (cs : List Nat) (bs : List (List Nat))
    (st : FileState) (e : FileEvent) (st' : FileState) (cs' : List Nat) (bs' : List (List Nat)) : Prop
    extends FileKept g as cs bs st st' cs' bs' where
  saved : st.fil.err = .ok → st.fs.drive.Works → st.Saved g cs → st'.Saved g cs'
  works : st.fil.err = .ok → st.fs.drive.Works → st'.fil.err = .ok ∧
    st'.access g as cs' bs' = st.access g as cs bs ∧
    ByteStep (st.access g as cs bs) (st.byteFile g cs) e (st'.byteFile g cs')

theorem InDirectory.mono {sect : Nat} (h : InDirectory g as bs sect) (hrest : bs <:+ bs') :
    InDirectory g as bs' sect where
  lt := h.lt
  shadow := h.shadow
  table := h.table
  aside hlo hmem := by
    obtain ⟨k, hk, hck⟩ := List.mem_flatten.mp (h.aside hlo hmem)
    refine List.mem_flatten_of_mem (List.mem_append.mpr ?_) hck
    exact (List.mem_append.mp hk).imp_right fun hk => hrest.subset hk

/-- What is done to the file is not done to its directory. -/
theorem InDirectory.view_eq {fp : Fil} {s s' : Fs} {sect : Nat} (h : InDirectory g as bs sect)
    (hown : Owned g as cs bs fp s') (hkept : Kept g (g.own cs) (g.own cs) s s') :
    s'.view sect = s.view sect :=
  hkept.view sect h.shadow fun hmem => hmem.elim h.table (h.notMem hown)

theorem FileKept.refl (h : Alive g as cs bs st) : FileKept g as cs bs st st cs bs :=
  ⟨h, List.prefix_rfl, List.suffix_rfl, .refl h.sound, rfl, rfl, fun _ _ => rfl⟩

theorem FileKept.trans {cs₁ : List Nat} {bs₁ : List (List Nat)} {st₁ : FileState}
    (h : FileKept g as cs bs st st₁ cs₁ bs₁) (h' : FileKept g as cs₁ bs₁ st₁ st' cs' bs') :
    FileKept g as cs bs st st' cs' bs' where
  alive := h'.alive
  grown := h.grown.trans h'.grown
  rest := h.rest.trans h'.rest
  kept := by
    have hreach : st.reach g cs₁ ⊆ st.reach g cs' :=
      Set.union_subset_union_left _ (own_mono h'.grown)
    have hsame : st₁.reach g cs' = st.reach g cs' := by rw [FileState.reach, h.dirSect, FileState.reach]
    exact (h.kept.mono hreach hreach).trans (hsame ▸ h'.kept)
  dirSect := h'.dirSect.trans h.dirSect
  dirPtr := h'.dirPtr.trans h.dirPtr
  entries j hj := by
    have hlate := h'.entries j
    rw [h.dirSect, h.dirPtr] at hlate
    exact (hlate hj).trans (h.entries j hj)

/-- A call that is refused. -/
theorem Called.of_refused (h : Alive g as cs bs st) (hsame : st' = st)
    (hworks : st.fil.err = .ok → ByteStep (st.access g as cs bs) (st.byteFile g cs) e (st.byteFile g cs)) :
    Called g as cs bs st e st' cs bs := by
  subst hsame
  exact ⟨.refl h, fun _ _ => id, fun herr _ => ⟨herr, rfl, hworks herr⟩⟩

theorem read_called (hg : g.Valid) (h : Alive g as cs bs st) {btr : Nat} {res : FResult}
    {got : List UInt8} (hstep : FileStep g st (.read btr res got) st') :
    Called g as cs bs st (.read btr res got) st' cs bs := by
  obtain ⟨fp, s⟩ := st
  obtain ⟨fp', s'⟩ := st'
  have hstep : fRead g btr fp s = some (res, got, fp', s') := hstep
  have hattached : fp.attached = true := h.attached
  by_cases herr : fp.err = .ok
  · by_cases hread : fp.canRead = true
    · obtain ⟨r, hr, hdone⟩ := fRead_spec hg h.toOpened hattached herr hread btr
      obtain rfl := Option.some.inj (hr.symm.trans hstep)
      obtain ⟨clust, dirty, buf, sect, err, heq⟩ := hdone.same
      obtain ⟨n, hn, hgot, hptr, hall⟩ := hdone.got
      replace hgot : got = chunk (fp.bytes g cs s) fp.fptr n := hgot
      replace hptr : fp'.fptr = fp.fptr + n := hptr
      replace heq : fp' = { fp.moved fp'.fptr clust dirty buf sect with err := err } := heq
      rw [hptr] at heq
      subst heq
      refine ⟨⟨⟨hdone.opened, hattached, h.dir, h.map⟩, List.prefix_rfl, List.suffix_rfl,
        hdone.kept.mono Set.subset_union_left Set.subset_union_left, rfl, rfl,
        fun j _ => congrFun (h.dir.view_eq hdone.owned hdone.kept) j⟩, fun _ _ hsaved hclean => ?_,
        fun _ hworks => ?_⟩
      · have hsettled : Settled g cs fp s := hsaved hclean
        exact hsettled.kept (hdone.clean hsettled.dirty) (wflag_fRead hsettled.wflag hr) rfl rfl rfl
          (h.dir.view_eq hdone.owned hdone.kept)
      obtain rfl : res = .ok := hdone.res.resolve_right fun hfail => hfail.2 hworks
      have hfptr := (h.place herr).fptr
      have hfptr : fp.fptr ≤ fp.objsize := hfptr
      refine ⟨hdone.err.trans herr, rfl, ?_⟩
      have hn' : n = min btr (fp.objsize - fp.fptr) := hall rfl
      have hlength : got.length = n := by rw [hgot, length_chunk]
      have hcontent : (fp.moved (fp.fptr + n) clust dirty buf sect).content g cs s' = fp.content g cs s :=
        chunk_congr fun ofs _ hofs => bytes_congr hg h.clusters (hdone.after rfl).2.2
          (Nat.lt_of_lt_of_le (show ofs < 0 + fp.objsize from hofs) (by rw [Nat.zero_add]; exact h.size))
      refine (if_pos hread).mpr ⟨rfl, ?_, ?_⟩
      · rw [hgot, hn']
        change _ = ((chunk _ 0 fp.objsize).drop fp.fptr).take btr
        rw [drop_chunk _ _ hfptr, take_chunk, Nat.zero_add]
      · rw [hlength]
        exact congrArg (ByteFile.mk · (fp.fptr + n)) hcontent
    · have hno : fp.canRead = false := Bool.not_eq_true _ ▸ hread
      have hrefused : fRead g btr fp s = some (.denied, [], fp, s) := by
        simp [fRead, hattached, herr, hno]
      obtain ⟨rfl, rfl, rfl, rfl⟩ : res = .denied ∧ got = [] ∧ fp' = fp ∧ s' = s := by
        simpa using hstep.symm.trans hrefused
      refine .of_refused h rfl fun _ => ?_
      simp [ByteStep, FileState.access, hno]
  · have hrefused : fRead g btr fp s = some (fp.err, [], fp, s) := by
      simp [fRead, hattached, herr]
    obtain ⟨rfl, rfl, rfl, rfl⟩ : res = fp.err ∧ got = [] ∧ fp' = fp ∧ s' = s := by
      simpa using hstep.symm.trans hrefused
    exact .of_refused h rfl fun hok => absurd hok herr

theorem write_called (hg : g.Valid) (h : Alive g as cs bs st) {buff : List UInt8} {res : FResult}
    {bw : Nat} (hstep : FileStep g st (.write buff res bw) st') :
    ∃ cs' bs', Called g as cs bs st (.write buff res bw) st' cs' bs' := by
  obtain ⟨fp, s⟩ := st
  obtain ⟨fp', s'⟩ := st'
  obtain ⟨hbuff, hstep⟩ : buff.length < 0x100000000 ∧ fWrite g buff fp s = some (res, bw, fp', s') := hstep
  have hattached : fp.attached = true := h.attached
  by_cases herr : fp.err = .ok
  · by_cases hwrite : fp.canWrite = true
    · obtain ⟨r, cs', bs', hr, hdone⟩ := fWrite_spec hg h.toOpened hattached herr hwrite h.map hbuff
      obtain rfl := Option.some.inj (hr.symm.trans hstep)
      obtain ⟨clust, sclust, dirty, buf, sect, err, modified, rfl⟩ :
        ∃ clust sclust dirty buf sect err modified, fp' = { (fp.advance bw).written
          clust sclust dirty buf sect with err := err, modified := modified } := hdone.same
      have hmap : fp.cltbl ≠ none → cs' ≠ [] := fun hne => hdone.map hne ▸ h.map hne
      have hdir : InDirectory g as bs' fp.dirSect := h.dir.mono hdone.rest
      refine ⟨cs', bs', ⟨⟨hdone.opened, hattached, hdir, hmap⟩, hdone.grown, hdone.rest,
        hdone.kept.mono Set.subset_union_left Set.subset_union_left, rfl, rfl,
        fun j _ => congrFun (hdir.view_eq hdone.opened.toOwned hdone.kept) j⟩, fun _ hworks _ hclean => ?_,
        fun _ hworks => ?_⟩
      · have hok : res = .ok := hdone.res.resolve_right fun hfail => hfail.2 hworks
        have hmodified : modified = true := hdone.modified.trans (if_pos hok)
        exact absurd (hmodified.symm.trans hclean) Bool.false_ne_true.symm
      obtain rfl : res = .ok := hdone.res.resolve_right fun hfail => hfail.2 hworks
      obtain rfl := hdone.rest_eq rfl
      obtain rfl : err = .ok := hdone.err
      have hcapacity : fp.capacity g as cs' bs' = fp.capacity g as cs bs' := by
        unfold Fil.capacity
        split
        · rfl
        · next hne => rw [hdone.map hne]
      refine ⟨rfl, congrArg (Access.mk _ _ _) hcapacity, (if_pos hwrite).mpr ⟨rfl, hdone.all rfl, ?_⟩⟩
      exact congrArg (ByteFile.mk · (fp.fptr + bw)) (hdone.content rfl)
    · have hno : fp.canWrite = false := Bool.not_eq_true _ ▸ hwrite
      have hrefused : fWrite g buff fp s = some (.denied, 0, fp, s) := by
        simp [fWrite, hattached, herr, hno]
      obtain ⟨rfl, rfl, rfl, rfl⟩ : res = .denied ∧ bw = 0 ∧ fp' = fp ∧ s' = s := by
        simpa using hstep.symm.trans hrefused
      refine ⟨cs, bs, .of_refused h rfl fun _ => ?_⟩
      simp [ByteStep, FileState.access, hno]
  · have hrefused : fWrite g buff fp s = some (fp.err, 0, fp, s) := by
      simp [fWrite, hattached, herr]
    obtain ⟨rfl, rfl, rfl, rfl⟩ : res = fp.err ∧ bw = 0 ∧ fp' = fp ∧ s' = s := by
      simpa using hstep.symm.trans hrefused
    exact ⟨cs, bs, .of_refused h rfl fun hok => absurd hok herr⟩

theorem lseek_called (hg : g.Valid) (h : Alive g as cs bs st) {ofs : Nat} {res : FResult}
    (hstep : FileStep g st (.lseek ofs res) st') :
    ∃ cs' bs', Called g as cs bs st (.lseek ofs res) st' cs' bs' := by
  obtain ⟨fp, s⟩ := st
  obtain ⟨fp', s'⟩ := st'
  obtain ⟨hofs, hmark, hstep⟩ : ofs < 0x100000000 ∧ (fp.cltbl ≠ none → ofs ≠ 0xFFFFFFFF) ∧
    fLseek g ofs fp s = some (res, fp', s') := hstep
  have hattached : fp.attached = true := h.attached
  by_cases herr : fp.err = .ok
  · obtain ⟨r, cs', bs', hr, hsought⟩ := fLseek_spec hg h.toOpened hattached herr hofs hmark
    obtain rfl := Option.some.inj (hr.symm.trans hstep)
    obtain ⟨sclust, objsize, modified, fptr, clust, dirty, buf, sect, err, rfl⟩ :
      ∃ sclust objsize modified fptr clust dirty buf sect err, fp' = { fp.moved fptr clust dirty buf sect with
        sclust := sclust, objsize := objsize, modified := modified, err := err } := hsought.same
    have hmap : fp.cltbl ≠ none → cs' ≠ [] := fun hne => hsought.map hne ▸ h.map hne
    have hdir : InDirectory g as bs' fp.dirSect := h.dir.mono hsought.rest
    refine ⟨cs', bs', ⟨⟨hsought.opened, hattached, hdir, hmap⟩, hsought.grown,
      hsought.rest, hsought.kept.mono Set.subset_union_left Set.subset_union_left, rfl, rfl,
      fun j _ => congrFun (hdir.view_eq hsought.opened.toOwned hsought.kept) j⟩,
      fun _ hworks hsaved hclean => ?_, fun _ hworks => ?_⟩
    · -- it went no further than the file
      have hok : res = .ok := hsought.res.resolve_right fun hfail => hfail.2 hworks
      have hmodified : modified = (fp.modified || decide (fp.objsize < fp.reach g as bs ofs)) :=
        hsought.modified hok
      obtain ⟨hno, hwithin⟩ := Bool.or_eq_false_iff.mp (hmodified.symm.trans hclean)
      have hle := Nat.not_lt.mp (of_decide_eq_false hwithin)
      obtain ⟨rfl, hquiet⟩ := hsought.settled hok hle
      have hsettled : Settled g cs' fp s := hsaved hno
      exact hsettled.kept (hsought.clean hsettled.dirty) (hquiet hsettled.wflag) rfl rfl
        ((hsought.objsize hok).trans (Nat.max_eq_left hle))
        (hdir.view_eq hsought.opened.toOwned hsought.kept)
    obtain rfl : res = .ok := hsought.res.resolve_right fun hfail => hfail.2 hworks
    obtain rfl := hsought.rest_eq rfl
    obtain rfl : err = .ok := hsought.err
    have hfptr : fptr = fp.reach g as bs' ofs := hsought.fptr rfl
    have hobjsize : objsize = max fp.objsize (fp.reach g as bs' ofs) := hsought.objsize rfl
    have hcapacity : fp.capacity g as cs' bs' = fp.capacity g as cs bs' := by
      unfold Fil.capacity
      split
      · rfl
      · next hne => rw [hsought.map hne]
    have hreach : fp.reach g as bs' ofs =
        min ofs (if fp.cltbl = none ∧ fp.canWrite = true then fp.capacity g as cs bs' else fp.objsize) := by
      unfold Fil.reach Fil.capacity
      split
      · next hcond => rw [if_pos hcond.1]
      · rfl
    refine ⟨rfl, congrArg (Access.mk _ _ _) hcapacity, rfl, ?_, ?_, ?_⟩
    · refine hfptr.trans (hreach.trans ?_)
      simp [FileState.access, FileState.byteFile]
    · refine (length_content ..).trans ?_
      rw [show (FileState.byteFile g cs' _).pos = fptr from rfl, hfptr]
      exact hobjsize.trans (congrArg (max · _) (length_content ..).symm)
    · have hcontent := hsought.content rfl
      rwa [← length_content g cs fp s] at hcontent
  · have hrefused : fLseek g ofs fp s = some (fp.err, fp, s) := by
      simp [fLseek, hattached, herr]
    obtain ⟨rfl, rfl, rfl⟩ : res = fp.err ∧ fp' = fp ∧ s' = s := by
      simpa using hstep.symm.trans hrefused
    exact ⟨cs, bs, .of_refused h rfl fun hok => absurd hok herr⟩

theorem sync_called (hg : g.Valid) (h : Alive g as cs bs st) {tm : Nat} {res : FResult}
    (hstep : FileStep g st (.sync tm res) st') : Called g as cs bs st (.sync tm res) st' cs bs := by
  obtain ⟨fp, s⟩ := st
  obtain ⟨fp', s'⟩ := st'
  have hstep : fSync g tm fp s = (res, fp', s') := hstep
  have hattached : fp.attached = true := h.attached
  have hsync := fSync_spec hg h.toOpened h.dir hattached tm
  rw [hstep] at hsync
  obtain ⟨dirty, buf, sect, modified, rfl⟩ : ∃ dirty buf sect modified,
    fp' = { fp.hold dirty buf sect with modified := modified } := hsync.same
  have hown : g.sectorsOf cs ∪ {fp.dirSect} ⊆ g.own cs ∪ {fp.dirSect} :=
    Set.union_subset_union_left _ Set.subset_union_right
  refine ⟨⟨⟨hsync.opened, hattached, h.dir, h.map⟩, List.prefix_rfl, List.suffix_rfl,
    hsync.kept.mono hown hown, rfl, rfl, hsync.others⟩, fun herr hworks hsaved _ => ?_,
    fun herr hworks => ?_⟩
  · have hok : (fSync g tm fp s).1 = .ok :=
      (congrArg Prod.fst hstep).trans (hsync.res.resolve_right fun hfail => hfail.2 hworks)
    have hsettled := fSync_settled hg h.toOpened h.dir hattached herr hsaved hok
    rwa [hstep] at hsettled
  obtain rfl : res = .ok := hsync.res.resolve_right fun hfail => hfail.2 hworks
  exact ⟨herr, rfl, rfl, congrArg (ByteFile.mk · fp.fptr) (hsync.content herr)⟩

theorem fileStep_called (hg : g.Valid) (h : Alive g as cs bs st) (hstep : FileStep g st e st') :
    ∃ cs' bs', Called g as cs bs st e st' cs' bs' := by
  cases e with
  | read btr res got => exact ⟨cs, bs, read_called hg h hstep⟩
  | write buff res bw => exact write_called hg h hstep
  | lseek ofs res => exact lseek_called hg h hstep
  | sync tm res => exact ⟨cs, bs, sync_called hg h hstep⟩

end Step

/-! ## A new file on the volume of four clusters -/

/-- It was created and is open to be read and written. -/
def newFile : FileState where
  fil := {
    attached := true
    canRead := true
    canWrite := true
    modified := true
    dirty := false
    sclust := 0
    objsize := 0
    err := .ok
    fptr := 0
    clust := 0
    sect := 0
    buf := fun _ => 0
    dirSect := 3
    dirPtr := 0
    cltbl := none }
  fs := smallFs

/-- The first sector of the root directory. -/
theorem inDirectory_small : InDirectory smallGeometry [[2, 3, 5]] [] 3 where
  lt := by decide
  shadow := by
    rintro (h | ⟨-, h⟩ | ⟨h, -⟩)
    · exact absurd h (by decide)
    · exact absurd h (by decide)
    · exact FsType.noConfusion h
  table h := absurd h.2 (by decide)
  aside h := absurd h (by decide)

theorem alive_newFile : Alive smallGeometry [[2, 3, 5]] [] [] newFile where
  sound := sound_smallFs
  untorn := exact_smallFs.untorn
  forest := Lib.Forest.nil_iff.mpr forest_smallFs
  aside _ h := absurd h (by decide)
  sclust := rfl
  sect h := absurd h (by decide)
  dirty h := Bool.noConfusion h
  size := Nat.zero_le _
  mapped _ h := absurd h.symm (Option.some_ne_none _)
  cached _ := cached_unread valid_smallGeometry rfl
  place _ := ⟨by decide, Nat.le_refl 0, fun h => absurd h (Nat.lt_irrefl 0), fun h => absurd rfl h⟩
  attached := rfl
  dir := inDirectory_small
  map h := absurd rfl h

/-- A byte is written to it. -/
theorem write_newFile : ∃ bw st', FileStep smallGeometry newFile (.write [0x41] .ok bw) st' ∧
    st'.fil.dirSect = 3 ∧ st'.fil.dirPtr = 0 ∧ st'.fs.view 3 = smallFs.view 3 := by
  obtain ⟨⟨res, bw, fp', s'⟩, cs', bs', hr, hdone⟩ := fWrite_spec valid_smallGeometry
    alive_newFile.toOpened rfl rfl rfl alive_newFile.map (show [0x41].length < 0x100000000 by decide)
  obtain rfl : res = .ok := hdone.res.resolve_right fun hfail => hfail.2 nofun
  obtain ⟨clust, sclust, dirty, buf, sect, err, modified, heq⟩ := hdone.same
  have hdir := inDirectory_small.mono hdone.rest
  exact ⟨bw, ⟨fp', s'⟩, ⟨by decide, hr⟩, congrArg Fil.dirSect heq, congrArg Fil.dirPtr heq,
    hdir.view_eq hdone.opened.toOwned hdone.kept⟩

/-! ## Runs -/

section Run

variable {as bs : List (List Nat)} {cs : List Nat} {st st' : FileState}
  {ts : List (Taken FileState FileEvent)}

theorem run_fileKept (hg : g.Valid) (h : Alive g as cs bs st) (hrun : Run (FileStep g) st ts st') :
    ∃ cs' bs', FileKept g as cs bs st st' cs' bs' := by
  induction hrun generalizing cs bs with
  | nil st => exact ⟨cs, bs, .refl h⟩
  | cons hstep _ ih =>
    obtain ⟨cs₁, bs₁, hcalled⟩ := fileStep_called hg h hstep
    obtain ⟨cs', bs', hkept⟩ := ih hcalled.alive
    exact ⟨cs', bs', hcalled.toFileKept.trans hkept⟩

/-- Calls on a file leave the other files and the other entries of its directory alone, also where the
drive fails: `Alive` asks for a drive that works on FAT12 only. -/
theorem run_others (hg : g.Valid) (h : Alive g as cs bs st) (hrun : Run (FileStep g) st ts st') :
    (∀ l ∈ as ++ bs, st'.fs.Owns g l ∧
      ∀ k ∈ g.sectorsOf l, k ≠ st.fil.dirSect → st'.fs.view k = st.fs.view k) ∧
    ∀ j, (j < st.fil.dirPtr + 11 ∨ st.fil.dirPtr + 32 ≤ j) →
      st'.fs.view st.fil.dirSect j = st.fs.view st.fil.dirSect j := by
  obtain ⟨cs', bs', hkept⟩ := run_fileKept hg h hrun
  refine ⟨fun l hl => ?_, hkept.entries⟩
  have hforest := hkept.alive.forest
  have hmem : l ∈ as ++ bs' :=
    List.mem_append.mpr ((List.mem_append.mp hl).imp_right fun hl => hkept.rest.subset hl)
  have hmem' : l ∈ as ++ cs' :: bs' :=
    List.mem_append.mpr ((List.mem_append.mp hmem).imp_right (List.mem_cons_of_mem _))
  refine ⟨⟨_, hforest, hmem'⟩, fun k hk hne => ?_⟩
  have hin : ∀ c ∈ l, c ∈ g.clusters := fun c hc =>
    ((hforest.mem c).mp (List.mem_flatten_of_mem hmem' hc)).1
  obtain ⟨hshadow, hfat, -⟩ := sectorsOf_notMem hg hin hk
  refine hkept.kept.view k hshadow ?_
  rintro ((hmem | ⟨hlo, hcs⟩) | heq)
  · exact hfat hmem
  · exact Lib.Forest.notMem hforest hcs hmem hk.2
  · exact hne heq

theorem run_others_small : ∃ bw st', FileStep smallGeometry newFile (.write [0x41] .ok bw) st' ∧
    st'.fs.Owns smallGeometry [2, 3, 5] := by
  obtain ⟨bw, st', hstep, -⟩ := write_newFile
  have hothers := run_others valid_smallGeometry alive_newFile (.cons hstep (.nil st'))
  exact ⟨bw, st', hstep, (hothers.1 _ List.mem_cons_self).1⟩

/-- In whatever state a run leaves a file, the next call on it returns, with the same exception. -/
theorem run_returns (hg : g.Valid) (h : Alive g as cs bs st) (hrun : Run (FileStep g) st ts st') :
    (∀ btr, ∃ res got st'', FileStep g st' (.read btr res got) st'') ∧
    (∀ buff : List UInt8, buff.length < 0x100000000 →
      ∃ res bw st'', FileStep g st' (.write buff res bw) st'') ∧
    ∀ ofs < 0x100000000, (st'.fil.cltbl ≠ none → ofs ≠ 0xFFFFFFFF) →
      ∃ res st'', FileStep g st' (.lseek ofs res) st'' := by
  obtain ⟨cs', bs', hkept⟩ := run_fileKept hg h hrun
  have halive := hkept.alive
  obtain ⟨fp, s⟩ := st'
  have hattached : fp.attached = true := halive.attached
  refine ⟨fun btr => ?_, fun buff hbuff => ?_, fun ofs hofs hmark => ?_⟩
  · by_cases herr : fp.err = .ok
    · by_cases hread : fp.canRead = true
      · obtain ⟨⟨res, got, fp', s'⟩, hr, -⟩ := fRead_spec hg halive.toOpened hattached herr hread btr
        exact ⟨res, got, ⟨fp', s'⟩, hr⟩
      · exact ⟨.denied, [], ⟨fp, s⟩, by simp [FileStep, fRead, hattached, herr, hread]⟩
    · exact ⟨fp.err, [], ⟨fp, s⟩, by simp [FileStep, fRead, hattached, herr]⟩
  · by_cases herr : fp.err = .ok
    · by_cases hwrite : fp.canWrite = true
      · obtain ⟨⟨res, bw, fp', s'⟩, _, _, hr, -⟩ :=
          fWrite_spec hg halive.toOpened hattached herr hwrite halive.map hbuff
        exact ⟨res, bw, ⟨fp', s'⟩, hbuff, hr⟩
      · exact ⟨.denied, 0, ⟨fp, s⟩, hbuff, by simp [fWrite, hattached, herr, hwrite]⟩
    · exact ⟨fp.err, 0, ⟨fp, s⟩, hbuff, by simp [fWrite, hattached, herr]⟩
  · by_cases herr : fp.err = .ok
    · obtain ⟨⟨res, fp', s'⟩, _, _, hr, -⟩ := fLseek_spec hg halive.toOpened hattached herr hofs hmark
      exact ⟨res, ⟨fp', s'⟩, hofs, hmark, hr⟩
    · exact ⟨fp.err, ⟨fp, s⟩, hofs, hmark, by simp [fLseek, hattached, herr]⟩

theorem run_returns_small : ∃ bw st' res got st'',
    FileStep smallGeometry newFile (.write [0x41] .ok bw) st' ∧
      FileStep smallGeometry st' (.read 1 res got) st'' := by
  obtain ⟨bw, st', hstep, -⟩ := write_newFile
  obtain ⟨res, got, st'', hread⟩ :=
    (run_returns valid_smallGeometry alive_newFile (.cons hstep (.nil st'))).1 1
  exact ⟨bw, st', res, got, st'', hstep, hread⟩

theorem run_works (hg : g.Valid) (h : Alive g as cs bs st) (herr : st.fil.err = .ok)
    (hworks : st.fs.drive.Works) (hrun : Run (FileStep g) st ts st') :
    ∃ cs' bs' us, FileKept g as cs bs st st' cs' bs' ∧ st'.fil.err = .ok ∧
      (st.Saved g cs → st'.Saved g cs') ∧ us.map Taken.input = ts.map Taken.input ∧
      Run (ByteStep (st.access g as cs bs)) (st.byteFile g cs) us (st'.byteFile g cs') := by
  induction hrun generalizing cs bs with
  | nil st => exact ⟨cs, bs, [], .refl h, herr, id, rfl, .nil _⟩
  | @cons st st₁ st' e ts hstep _ ih =>
    obtain ⟨cs₁, bs₁, hcalled⟩ := fileStep_called hg h hstep
    obtain ⟨herr₁, haccess, hbyte⟩ := hcalled.works herr hworks
    obtain ⟨cs', bs', us, hkept, herr', hsaved, hinputs, hbytes⟩ :=
      ih hcalled.alive herr₁ (hcalled.kept.works hworks)
    refine ⟨cs', bs', _, hcalled.toFileKept.trans hkept, herr',
      fun hsaved₀ => hsaved (hcalled.saved herr hworks hsaved₀), ?_, .cons hbyte (haccess ▸ hbytes)⟩
    exact congrArg (e :: ·) hinputs

/-- While the drive works, the calls on a file are those on a list of bytes, with the same answers. -/
theorem run_byteFile (hg : g.Valid) (h : Alive g as cs bs st) (herr : st.fil.err = .ok)
    (hworks : st.fs.drive.Works) (hrun : Run (FileStep g) st ts st') :
    ∃ cs' bs' us, us.map Taken.input = ts.map Taken.input ∧ Alive g as cs' bs' st' ∧
      Run (ByteStep (st.access g as cs bs)) (st.byteFile g cs) us (st'.byteFile g cs') := by
  obtain ⟨cs', bs', us, hkept, -, -, hinputs, hbytes⟩ := run_works hg h herr hworks hrun
  exact ⟨cs', bs', us, hinputs, hkept.alive, hbytes⟩

/-- What a new file is after a byte. -/
theorem byteStep_newFile {bw : Nat} {f : ByteFile}
    (hstep : ByteStep (newFile.access smallGeometry [[2, 3, 5]] [] []) (newFile.byteFile smallGeometry [])
      (.write [0x41] .ok bw) f) : f = ⟨[0x41], 1⟩ := by
  obtain ⟨-, hbw, rfl⟩ := hstep
  obtain rfl : bw = 1 := hbw
  rfl

theorem run_byteFile_small : ∃ bw st' cs', FileStep smallGeometry newFile (.write [0x41] .ok bw) st' ∧
    st'.byteFile smallGeometry cs' = ⟨[0x41], 1⟩ := by
  obtain ⟨bw, st', hstep, -⟩ := write_newFile
  obtain ⟨cs', -, us, hinputs, -, hrun⟩ := run_byteFile valid_smallGeometry alive_newFile rfl
    (show newFile.fs.drive.Works from nofun) (.cons hstep (.nil st'))
  obtain ⟨f, _, hbyte, hrun, hinputs⟩ := hrun.of_inputs_cons hinputs
  obtain rfl := hrun.of_inputs_nil hinputs
  exact ⟨bw, st', cs', hstep, byteStep_newFile hbyte⟩

/-- `find_volume`, `follow_path` and `f_open` on another day: `dir` is the entry in the sector `sect`. -/
def openAgain (ss tm : Nat) (mode : UInt8) (sect dir : Nat) (g : Geometry) (fp : Fil) (s : Fs) :
    Option (FResult × Fil × Fs) :=
  match mountVolume (mode &&& ~~~faRead ≠ 0) 0 (some ss) g s with
  | (.ok, g, s) => reopen g tm mode sect dir fp s
  | (res, _, s) => some (res, { fp with attached := false }, s)

/-- A sector in front of the tables is on the drive what it was before the run, once the file is synced. -/
theorem FileKept.lowSector (hg : g.Valid) {fp : Fil} {s : Fs} {cs' : List Nat} {bs' : List (List Nat)}
    (hkept : FileKept g as cs bs st ⟨fp, s⟩ cs' bs') {tm : Nat} {r : FResult × Fil × Fs}
    (hsync : Synced g as cs' bs' tm fp s r) (hclean : r.2.2.wflag = false)
    (hdir : g.fatbase ≤ st.fil.dirSect) {b : Nat} (hlow : b < g.fatbase) (hshadow : b ∉ g.shadow) :
    r.2.2.drive.sectors b = st.fs.view b := by
  have hfat : b ∉ g.fatSectors := fun hmem => absurd hmem.1 (Nat.not_le.mpr hlow)
  have hdata : b ∉ g.sectorsOf cs' := fun hmem => by
    have hlo : g.database ≤ b := hmem.1
    have hdatabase := hg.database
    omega
  have hdirSect : fp.dirSect = st.fil.dirSect := hkept.dirSect
  have hne : b ≠ st.fil.dirSect := fun heq => absurd hdir (Nat.not_le.mpr (heq ▸ hlow))
  have hafter : r.2.2.view b = s.view b :=
    hsync.kept.view b hshadow fun hmem => hmem.elim hdata fun heq => hne (Eq.trans heq hdirSect)
  have hbefore : s.view b = st.fs.view b := hkept.kept.view b hshadow fun hmem =>
    hmem.elim (fun hown => hown.elim hfat hdata) hne
  exact (hsync.opened.sound.sectors_of_clean hclean b hshadow).trans (hafter.trans hbefore)

/-- What a run of calls made of a file is what is there on another day, once `f_sync` has succeeded: also
where the run has synced already and `f_sync` finds nothing to do. -/
theorem run_openAgain (hg : g.Valid) (h : Alive g as cs bs st) (herr : st.fil.err = .ok)
    (hworks : st.fs.drive.Works) (hrun : Run (FileStep g) st ts st')
    (hsaved : st'.fil.modified = true ∨ st.Saved g cs) (tm : Nat)
    (hvolume : volumeOn g.ssize st.fs.view = some g)
    (hboot : ∀ b ∈ bootSectors st.fs.view, b < g.fatbase ∧ b ∉ g.shadow)
    (hdir : g.fatbase ≤ st.fil.dirSect) {mode : UInt8}
    (hmode : openFound (mode &&& 0x3F) (st'.fs.view st'.fil.dirSect (st'.fil.dirPtr + 11)) = .ok)
    (hkeep : mode &&& 0x3F &&& faCreateAlways = 0) (tm' : Nat) (g₀ : Geometry) (fp₀ : Fil) {s₀ : Fs}
    (hdrive : s₀.drive = (fSync g tm st'.fil st'.fs).2.2.drive) :
    ∃ cs' bs' us f, us.map Taken.input = ts.map Taken.input ∧
      Run (ByteStep (st.access g as cs bs)) (st.byteFile g cs) us f ∧
      ∃ r, openAgain g.ssize tm' mode st'.fil.dirSect st'.fil.dirPtr g₀ fp₀ s₀ = some r ∧ r.1 = .ok ∧
        Opened g as cs' bs' r.2.1 r.2.2 ∧ r.2.1.content g cs' r.2.2 = f.content := by
  obtain ⟨cs', bs', us, hkept, herr', hrest, hinputs, hbytes⟩ := run_works hg h herr hworks hrun
  obtain ⟨fp, s⟩ := st'
  have hsettled : fp.modified = false → Settled g cs' fp s := hsaved.elim
    (fun hyes hno => absurd (hno.symm.trans hyes) Bool.false_ne_true) hrest
  have halive := hkept.alive
  have hattached : fp.attached = true := halive.attached
  have hsync := fSync_spec hg halive.toOpened halive.dir hattached tm
  have hworks' : s.drive.Works := hkept.kept.works hworks
  have hok : (fSync g tm fp s).1 = .ok := hsync.res.resolve_right fun hfail => hfail.2 hworks'
  have hclean := (fSync_settled hg halive.toOpened halive.dir hattached herr' hsettled hok).wflag
  have hsame : Set.EqOn (fSync g tm fp s).2.2.drive.sectors st.fs.view (bootSectors st.fs.view) :=
    fun b hb => hkept.lowSector hg hsync hclean hdir (hboot b hb).1 (hboot b hb).2
  have hvolume' : volumeOn g.ssize s₀.drive.sectors = some g := by
    rw [hdrive, volumeOn_congr hsame, hvolume]
  have hparts : ∀ i < 4, partStart (s₀.drive.sectors 0) i ≠ 0xFFFFFFFF := by
    intro i hi heq
    rw [hdrive, hsame (.inl rfl)] at heq
    exact (hboot _ (.inr ⟨i, hi, heq.symm⟩)).2 (.inl rfl)
  have hworks₀ : s₀.drive.Works := hdrive ▸ hsync.kept.works hworks'
  have hmount : MountDone g.ssize s₀.drive.sectors s₀
      (mountVolume (mode &&& ~~~faRead ≠ 0) 0 (some g.ssize) g₀ s₀) :=
    mountVolume_spec rfl hparts rfl (fun _ => rfl) hg.ssize
  unfold openAgain
  revert hmount
  generalize mountVolume (mode &&& ~~~faRead ≠ 0) 0 (some g.ssize) g₀ s₀ = r
  obtain ⟨res, g₁, s₁⟩ := r
  intro hmount
  have hfound := hmount.found hworks₀
  rw [hvolume'] at hfound
  obtain ⟨rfl, rfl⟩ : res = .ok ∧ g₁ = g := hfound
  obtain ⟨hmounted, -⟩ := hmount.mounted rfl
  have hworks₁ : s₁.drive.Works := hmount.works hworks₀
  have hsectors : s₁.drive.sectors = (fSync g₁ tm fp s).2.2.drive.sectors :=
    Eq.trans hmount.sectors (congrArg Drive.sectors hdrive)
  obtain ⟨r, hr, hopened⟩ := fSync_reopen hg halive.toOpened halive.dir hattached herr' hsettled hok
    hmounted (fun _ => hworks₁) hsectors hmode hkeep tm' fp₀
  obtain ⟨hres, hopened, hcontent⟩ := hopened.resolve_left fun hfail => hfail.2 hworks₁
  exact ⟨cs', bs', us, _, hinputs, hbytes, r, hr, hres, hopened, hcontent⟩

/-- The new file is synced after its byte. -/
theorem sync_newFile : ∃ bw st₁ st', FileStep smallGeometry newFile (.write [0x41] .ok bw) st₁ ∧
    FileStep smallGeometry st₁ (.sync 0 .ok) st' ∧
    openFound (faRead &&& 0x3F) (st'.fs.view st'.fil.dirSect (st'.fil.dirPtr + 11)) = .ok := by
  obtain ⟨bw, st₁, hstep, hdirSect, hdirPtr, hview⟩ := write_newFile
  obtain ⟨cs₁, bs₁, hkept⟩ := run_fileKept valid_smallGeometry alive_newFile (.cons hstep (.nil st₁))
  have halive := hkept.alive
  have hsync := fSync_spec valid_smallGeometry halive.toOpened halive.dir halive.attached 0
  have hok : (fSync smallGeometry 0 st₁.fil st₁.fs).1 = .ok :=
    hsync.res.resolve_right fun hfail => hfail.2 (hkept.kept.works nofun)
  obtain ⟨dirty, buf, sect, modified, heq⟩ := hsync.same
  have hfound := hsync.openFound hok (faRead &&& 0x3F)
  revert hok heq hfound
  generalize hr : fSync smallGeometry 0 st₁.fil st₁.fs = r
  obtain ⟨res, fp, s⟩ := r
  rintro rfl rfl hfound
  refine ⟨bw, st₁, ⟨_, s⟩, hstep, hr, hfound.trans ?_⟩
  rw [hdirSect, hdirPtr, hview]
  have hsmall : smallFs.view = smallFs.drive.sectors := Function.update_eq_self ..
  rw [hsmall]
  rfl

theorem boot_newFile : volumeOn smallGeometry.ssize newFile.fs.view = some smallGeometry ∧
    ∀ b ∈ bootSectors newFile.fs.view, b < smallGeometry.fatbase ∧ b ∉ smallGeometry.shadow := by
  have hsmall : newFile.fs.view = smallFs.drive.sectors := Function.update_eq_self ..
  have hpart : ∀ i < 4, partStart (smallFs.drive.sectors 0) i = 0 := by decide
  rw [hsmall]
  refine ⟨by decide, fun b hb => ?_⟩
  obtain rfl : b = 0 := by
    rcases hb with h0 | ⟨i, hi, hat⟩
    · exact h0
    · exact hat.trans (hpart i hi)
  refine ⟨by decide, ?_⟩
  rintro (h | ⟨h, -⟩ | ⟨h, -⟩)
  · exact absurd h (by decide)
  · exact absurd h (by decide)
  · exact FsType.noConfusion h

theorem run_openAgain_small : ∃ bw st₁ st' cs' r,
    FileStep smallGeometry newFile (.write [0x41] .ok bw) st₁ ∧
    FileStep smallGeometry st₁ (.sync 0 .ok) st' ∧
    openAgain 512 0 faRead st'.fil.dirSect st'.fil.dirPtr smallGeometry newFile.fil
      (fSync smallGeometry 0 st'.fil st'.fs).2.2 = some r ∧
    r.1 = .ok ∧ r.2.1.content smallGeometry cs' r.2.2 = [0x41] := by
  obtain ⟨bw, st₁, st', hstep, hstep', hmode⟩ := sync_newFile
  obtain ⟨hvolume, hboot⟩ := boot_newFile
  obtain ⟨cs', -, us, f, hinputs, hrun, r, hr, hres, -, hcontent⟩ :=
    run_openAgain valid_smallGeometry alive_newFile rfl (show newFile.fs.drive.Works from nofun)
      (.cons hstep (.cons hstep' (.nil st'))) (.inr fun hno => absurd hno Bool.false_ne_true.symm) 0
      hvolume hboot (show 1 ≤ 3 by decide) hmode rfl 0 smallGeometry newFile.fil
      (show (fSync smallGeometry 0 st'.fil st'.fs).2.2.drive = _ from rfl)
  obtain ⟨f₁, _, hwrite, hrun, hinputs⟩ := hrun.of_inputs_cons hinputs
  obtain ⟨f₂, _, hstill, hrun, hinputs⟩ := hrun.of_inputs_cons hinputs
  obtain rfl := hrun.of_inputs_nil hinputs
  obtain rfl : f = f₁ := hstill.2
  exact ⟨bw, st₁, st', cs', r, hstep, hstep', hr, hres, hcontent.trans (by rw [byteStep_newFile hwrite])⟩

end Run

end GenLogger.Fat
