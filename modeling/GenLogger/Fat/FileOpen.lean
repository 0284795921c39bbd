import GenLogger.Fat.FileSeek
import GenLogger.Platform.FatFs

/-!
# Opening and closing a file (`f_open`, `f_sync`, `f_close`)

Model of `f_open` from the directory entry on that `follow_path` found, which is in the window, and of
`f_close`. The entry and the object say the same of a file after `f_open` and after `f_sync`.

* `f_open` takes the chain and the size from the entry, empties the file for `FA_CREATE_ALWAYS` and follows
  the chain to its end for `FA_SEEKEND`.
* The search of the entry and the registration of a new one (`dir_find`, `dir_register`) are left out, and
  so are the names.
* `Settled` is that nothing of a file is to be written any more.

Results:
* `fOpen_spec`, `fOpen_empty`: an object of the file that the entry is about, or of an empty one.
* `fSync_spec`: the entry is that of the object, and the other entries of the sector stay.
* `fSync_settled`: after `f_sync` nothing is left to be written, also where it found nothing to do.
* `fSync_reopen`: a file that is opened again on another day is the one that was closed.
-/

namespace GenLogger.Fat

open GenLogger.Lib
open GenLogger.Platform (faRead faWrite faCreateNew faCreateAlways faOpenAlways faSeekEnd)

variable {g : Geometry}

/-! ## `ff.c` -/

/-- `ld_clust`, for the entry at `dir`. -/
def ldClust (g : Geometry) (win : Sector) (dir : Nat) : Nat :=
  let cl := ldWord win (dir + 26)
  if g.fsType = .fat32 then cl ||| ldWord win (dir + 20) <<< 16 else cl

/-- `mode & (FA_CREATE_ALWAYS | FA_OPEN_ALWAYS | FA_CREATE_NEW)`. -/
def creates (mode : UInt8) : Bool := mode &&& (faCreateAlways ||| faOpenAlways ||| faCreateNew) ≠ 0

/-- `Create or Open a file` of `f_open`, for an entry with the attributes `attr`. -/
def openFound (mode attr : UInt8) : FResult :=
  if creates mode then
    -- `AM_RDO | AM_DIR`
    if attr &&& 0x11 ≠ 0 then .denied
    else if mode &&& faCreateNew ≠ 0 then .exist
    else .ok
  else if attr &&& 0x10 ≠ 0 then .noFile
  else if mode &&& faWrite ≠ 0 ∧ attr &&& 0x01 ≠ 0 then .denied
  else .ok

/-- `Clean directory info` of `f_open`, until it gets the cluster chain. -/
def markEntry (tm dir : Nat) (win : Sector) : Sector :=
  let win := stDword win (dir + 14) tm
  let win := stDword win (dir + 22) tm
  stByte win (dir + 11) 0x20

/-- `Clean directory info` of `f_open`: the entry of an empty file. -/
def cleanEntry (g : Geometry) (tm dir : Nat) (win : Sector) : Sector :=
  stDword (stClust g (markEntry tm dir win) dir 0) (dir + 28) 0

/-- `Truncate it if overwrite mode` of `f_open`, for the entry at `dir`. -/
def emptyEntry (g : Geometry) (tm dir : Nat) (s : Fs) : Option (FResult × Fs) :=
  let cl := ldClust g (markEntry tm dir s.win) dir
  let dw := s.winsect
  let s := s.edit (cleanEntry g tm dir)
  if cl ≠ 0 then
    (removeChain g cl 0 s).map fun (res, s) =>
      if res = .ok then
        let (res, s) := moveWindow g dw s
        (res, { s with lastClst := cl - 1 })
      else (res, s)
  else some (.ok, s)

/-- `for (ofs = fp->obj.objsize; res == FR_OK && ofs > bcs; ofs -= bcs)` of `f_open`, for `fuel` rounds. -/
def endLoop (g : Geometry) : Nat → Nat → Nat → Fs → Option (FResult × Nat × Nat × Fs)
  | 0, _, _, _ => none
  | fuel + 1, ofs, clst, s =>
    let bcs := g.csize * g.ssize
    if ofs ≤ bcs then some (.ok, ofs, clst, s)
    else
      let (clst, s) := getFat g clst s
      if clst = 0xFFFFFFFF then some (.diskErr, ofs - bcs, clst, s)
      else if clst ≤ 1 then some (.intErr, ofs - bcs, clst, s)
      else endLoop g fuel (ofs - bcs) clst s

/-- `Seek to end of file` of `f_open`. -/
def seekToEnd (g : Geometry) (fp : Fil) (s : Fs) : Option (FResult × Fil × Fs) :=
  (endLoop g (fp.objsize + 1) fp.objsize fp.sclust s).map fun (res, ofs, clst, s) =>
    let fp := { fp with fptr := fp.objsize, clust := clst }
    if res ≠ .ok then (res, fp, s)
    else if ofs % g.ssize ≠ 0 then
      let sc := clust2sect g clst
      if sc = 0 then (.intErr, fp, s)
      else
        let sect := sc + ofs / g.ssize
        let (ok, buffer, d) := s.drive.read
        (if ok then .ok else .diskErr, { fp with sect := sect, buf := buffer sect },
          { s with drive := d })
    else (.ok, fp, s)

/-- The object of a file that is open, for the entry at `dir` in the window. -/
def validFil (g : Geometry) (mode : UInt8) (dir : Nat) (fp : Fil) (s : Fs) : Fil where
  attached := true
  canRead := mode &&& faRead ≠ 0
  canWrite := mode &&& faWrite ≠ 0
  modified := mode &&& faCreateAlways ≠ 0
  dirty := false
  sclust := ldClust g s.win dir
  objsize := ldDword s.win (dir + 28)
  err := .ok
  fptr := 0
  clust := fp.clust
  sect := 0
  buf := fun _ => 0
  dirSect := s.winsect
  dirPtr := dir
  cltbl := none

/-- `f_open` from `if (res == FR_OK)` on: the object is made, and sent to its end. -/
def openFil (g : Geometry) (mode : UInt8) (dir : Nat) (fp : Fil) (s : Fs) :
    Option (FResult × Fil × Fs) :=
  let fp := validFil g mode dir fp s
  if mode &&& faSeekEnd ≠ 0 ∧ 0 < fp.objsize then
    (seekToEnd g fp s).map fun (res, fp, s) =>
      if res ≠ .ok then (res, { fp with attached := false }, s) else (.ok, fp, s)
  else some (.ok, fp, s)

/-- `f_open` at the time `tm`, once `follow_path` has found the entry at `dir` in the window. -/
def fOpen (g : Geometry) (tm : Nat) (mode : UInt8) (dir : Nat) (fp : Fil) (s : Fs) :
    Option (FResult × Fil × Fs) :=
  let mode := mode &&& 0x3F
  let found := openFound mode (s.win (dir + 11))
  let made := if found = .ok ∧ creates mode = true ∧ mode &&& faCreateAlways ≠ 0 then
    emptyEntry g tm dir s else some (found, s)
  match made with
  | none => none
  | some (res, s) =>
    if res ≠ .ok then some (res, { fp with attached := false }, s) else openFil g mode dir fp s

/-- `f_close`. -/
def fClose (g : Geometry) (tm : Nat) (fp : Fil) (s : Fs) : FResult × Fil × Fs :=
  let (res, fp, s) := fSync g tm fp s
  if res = .ok then (.ok, { fp with attached := false }, s) else (res, fp, s)

/-! ## Entries -/

theorem ldDword_eq (p : Sector) (i : Nat) : ldDword p i = Packed.word32 p i := Packed.shifts_eq p i

theorem ldWord_eq (p : Sector) (i : Nat) : ldWord p i = (p i).toNat + 256 * (p (i + 1)).toNat :=
  Packed.shiftLeft_or_eq _ (p i).toNat_lt

theorem ldDword_congr {p p' : Sector} {i : Nat} (h : ∀ j < 4, p' (i + j) = p (i + j)) :
    ldDword p' i = ldDword p i := by
  rw [ldDword_eq, ldDword_eq, Packed.word32_congr h]

theorem ldWord_congr {p p' : Sector} {i : Nat} (h : ∀ j < 2, p' (i + j) = p (i + j)) :
    ldWord p' i = ldWord p i := by
  rw [ldWord_eq, ldWord_eq, h 1 (by decide), show p' i = p i from h 0 (by decide)]

theorem ldDword_lt (p : Sector) (i : Nat) : ldDword p i < 0x100000000 := by
  rw [ldDword_eq]
  exact Packed.word32_lt p i

theorem ldDword_stDword (p : Sector) (i : Nat) {val : Nat} (hval : val < 0x100000000) :
    ldDword (stDword p i val) i = val := by
  rw [ldDword_eq]
  refine Packed.word32_put hval ?_ ?_ ?_ ?_ <;>
    simp [stDword_apply, Nat.shiftRight_eq_div_pow]

theorem ldWord_stWord (p : Sector) (i val : Nat) : ldWord (stWord p i val) i = val % 0x10000 := by
  rw [ldWord_eq]
  simp [stWord_apply, Nat.shiftRight_eq_div_pow]
  omega

theorem stWord_of_ne {p : Sector} {i val j : Nat} (h : j ≠ i ∧ j ≠ i + 1) : stWord p i val j = p j := by
  rw [stWord_apply, if_neg h.2, if_neg h.1]

theorem stDword_of_ne {p : Sector} {i val j : Nat} (h : j < i ∨ i + 4 ≤ j) :
    stDword p i val j = p j := by
  rw [stDword_apply, if_neg (by omega), if_neg (by omega), if_neg (by omega), if_neg (by omega)]

theorem stByte_of_ne {p : Sector} {i val j : Nat} (h : j ≠ i) : stByte p i val j = p j :=
  Function.update_of_ne h ..

theorem stClust_of_ne {p : Sector} {dir cl j : Nat} (h : (j ≠ dir + 20 ∧ j ≠ dir + 21) ∧
    j ≠ dir + 26 ∧ j ≠ dir + 27) : stClust g p dir cl j = p j := by
  unfold stClust
  split
  · rw [stWord_of_ne h.1, stWord_of_ne h.2]
  · rw [stWord_of_ne h.2]

theorem ldClust_congr {p p' : Sector} {dir : Nat} (h₀ : ∀ j < 2, p' (dir + 20 + j) = p (dir + 20 + j))
    (h₁ : ∀ j < 2, p' (dir + 26 + j) = p (dir + 26 + j)) : ldClust g p' dir = ldClust g p dir := by
  unfold ldClust
  rw [ldWord_congr h₀, ldWord_congr h₁]

theorem ldClust_stClust (p : Sector) (dir : Nat) {cl : Nat} (hcl : cl < 2 ^ g.fsType.width) :
    ldClust g (stClust g p dir cl) dir = cl := by
  unfold ldClust stClust
  by_cases hfs : g.fsType = .fat32
  · rw [hfs] at hcl
    have hcl : cl < 2 ^ 28 := hcl
    simp only [hfs, if_true]
    have hlow : ldWord (stWord (stWord p (dir + 26) cl) (dir + 20) (cl >>> 16)) (dir + 26) =
        ldWord (stWord p (dir + 26) cl) (dir + 26) :=
      ldWord_congr fun j hj => stWord_of_ne (by omega)
    have hjoin := Packed.shiftLeft_or_eq (k := 16) (cl >>> 16 % 0x10000) (Nat.mod_lt cl (by decide))
    rw [hlow, ldWord_stWord, ldWord_stWord, Nat.or_comm]
    refine hjoin.trans ?_
    rw [Nat.shiftRight_eq_div_pow]
    omega
  · have hlt : cl < 0x10000 := by
      refine hcl.trans_le (Nat.pow_le_pow_right (n := 2) (j := 16) (by decide) ?_)
      revert hfs
      cases g.fsType with
      | fat12 => decide
      | fat16 => decide
      | fat32 => exact fun h => absurd rfl h
    simp only [hfs, if_false]
    rw [ldWord_stWord, Nat.mod_eq_of_lt hlt]

/-- What `f_sync` puts into an entry is what `f_open` takes from it. -/
theorem ldClust_putEntry (tm : Nat) (win : Sector) {fp : Fil} (hsclust : fp.sclust < 2 ^ g.fsType.width) :
    ldClust g (putEntry g tm fp win) fp.dirPtr = fp.sclust := by
  have hlate : ∀ (p : Sector) j, (j < fp.dirPtr + 18 ∨ fp.dirPtr + 20 ≤ j) →
      (j < fp.dirPtr + 22 ∨ fp.dirPtr + 26 ≤ j) → j < fp.dirPtr + 28 →
      stWord (stDword (stDword p (fp.dirPtr + 28) fp.objsize) (fp.dirPtr + 22) tm) (fp.dirPtr + 18) 0 j =
        p j := by
    intro p j h18 h22 h28
    rw [stWord_of_ne (by omega), stDword_of_ne h22, stDword_of_ne (by omega)]
  refine Eq.trans ?_ (ldClust_stClust (stByte win (fp.dirPtr + 11)
    ((win (fp.dirPtr + 11)).toNat ||| 0x20)) fp.dirPtr hsclust)
  exact ldClust_congr (fun j hj => hlate _ _ (by omega) (by omega) (by omega))
    fun j hj => hlate _ _ (by omega) (by omega) (by omega)

theorem ldDword_putEntry (tm : Nat) (win : Sector) {fp : Fil} (hsize : fp.objsize < 0x100000000) :
    ldDword (putEntry g tm fp win) (fp.dirPtr + 28) = fp.objsize := by
  refine Eq.trans ?_ (ldDword_stDword (stClust g (stByte win (fp.dirPtr + 11)
    ((win (fp.dirPtr + 11)).toNat ||| 0x20)) fp.dirPtr fp.sclust) (fp.dirPtr + 28) hsize)
  refine ldDword_congr fun j hj => ?_
  exact (stWord_of_ne (by omega)).trans (stDword_of_ne (by omega))

/-- The attributes, with `AM_ARC`. -/
theorem putEntry_attr (tm : Nat) (win : Sector) (fp : Fil) :
    putEntry g tm fp win (fp.dirPtr + 11) = win (fp.dirPtr + 11) ||| 0x20 := by
  unfold putEntry
  rw [stWord_of_ne (by omega), stDword_of_ne (by omega), stDword_of_ne (by omega),
    stClust_of_ne (by omega), stByte, Function.update_self]
  exact UInt8.toNat_inj.mp (by simp)

/-- The name stays, and so do the other entries. -/
theorem putEntry_of_ne (tm : Nat) (win : Sector) {fp : Fil} {j : Nat}
    (hj : j < fp.dirPtr + 11 ∨ fp.dirPtr + 32 ≤ j) : putEntry g tm fp win j = win j := by
  unfold putEntry
  rw [stWord_of_ne (by omega), stDword_of_ne (by omega), stDword_of_ne (by omega),
    stClust_of_ne (by omega), stByte_of_ne (by omega)]

/-! ## `f_sync` -/

section Sync

variable {as bs : List (List Nat)} {cs : List Nat} {fp : Fil} {s : Fs}

/-- A sector of a directory, which is on none of the clusters of a file between `as` and `bs`. -/
structure InDirectory (g : Geometry) (as bs : List (List Nat)) (sect : Nat) : Prop where
  lt : sect < 0x100000000
  shadow : sect ∉ g.shadow
  table : sect ∉ g.fatSectors
  aside : g.database ≤ sect → g.clusterOf sect ∈ g.clusters → g.clusterOf sect ∈ (as ++ bs).flatten

theorem InDirectory.notMem {sect : Nat} (h : InDirectory g as bs sect) (hown : Owned g as cs bs fp s) :
    sect ∉ g.sectorsOf cs := by
  rintro ⟨hlo, hmem⟩
  obtain ⟨k, hk, hck⟩ := List.mem_flatten.mp (h.aside hlo (hown.clusters _ hmem))
  exact Lib.Forest.notMem hown.forest hmem hk hck

/-- What is done to a directory does not concern the file. -/
theorem Opened.of_directory (hg : g.Valid) (h : Opened g as cs bs fp s) {sect : Nat}
    (hdir : InDirectory g as bs sect) {s' : Fs} (hkept : Kept g {sect} {sect} s s') :
    Opened g as cs bs fp s' ∧ (fp.err = .ok → fp.content g cs s' = fp.content g cs s) := by
  have howned : Owned g as cs bs fp s' := by
    refine h.of_window hg hkept ?_ ?_
    · rintro k hk rfl
      exact hdir.table hk
    · rintro k rfl
      exact hdir.aside
  have hdrive : ∀ k ∈ g.sectorsOf cs, s'.drive.sectors k = s.drive.sectors k := by
    intro k hk
    obtain ⟨hshadow, -, -⟩ := sectorsOf_notMem hg h.clusters hk
    refine hkept.drive k hshadow ?_ fun heq => h.winsect (heq ▸ hk)
    rintro rfl
    exact hdir.notMem h.toOwned hk
  refine ⟨⟨howned, fun herr => ((h.cached herr).congr hdrive).1, h.place⟩, fun herr => ?_⟩
  refine chunk_congr fun ofs _ hofs => bytes_congr hg h.clusters ((h.cached herr).congr hdrive).2 ?_
  exact Nat.lt_of_lt_of_le (by omega) h.size

/-- What `f_sync` leaves behind: the object is the same, and once it has succeeded, the entry has what was
changed. -/
structure Synced (g : Geometry) (as : List (List Nat)) (cs : List Nat) (bs : List (List Nat)) (tm : Nat)
    (fp : Fil) (s : Fs) (r : FResult × Fil × Fs) : Prop where
  kept : Kept g (g.sectorsOf cs ∪ {fp.dirSect}) (g.sectorsOf cs ∪ {fp.dirSect}) s r.2.2
  opened : Opened g as cs bs r.2.1 r.2.2
  same : ∃ dirty buf sect modified, r.2.1 = { fp.hold dirty buf sect with modified := modified }
  res : r.1 = .ok ∨ r.1 = .diskErr ∧ ¬ s.drive.Works
  content : fp.err = .ok → r.2.1.content g cs r.2.2 = fp.content g cs s
  still : fp.modified = false → r = (.ok, fp, s)
  clean : r.1 = .ok → fp.modified = true → r.2.1.modified = false ∧ r.2.1.dirty = false
  entry : r.1 = .ok → fp.modified = true →
    r.2.2.view fp.dirSect = putEntry g tm fp (s.view fp.dirSect)
  others : ∀ j, (j < fp.dirPtr + 11 ∨ fp.dirPtr + 32 ≤ j) →
    r.2.2.view fp.dirSect j = s.view fp.dirSect j

/-- Nothing of the file is to be written any more: its entry says what the object does. -/
structure Settled (g : Geometry) (cs : List Nat) (fp : Fil) (s : Fs) : Prop where
  dirty : fp.dirty = false
  wflag : s.wflag = false
  sclust : ldClust g (s.view fp.dirSect) fp.dirPtr = cs.headD 0
  objsize : ldDword (s.view fp.dirSect) (fp.dirPtr + 28) = fp.objsize

theorem Settled.kept (h : Settled g cs fp s) {fp' : Fil} {s' : Fs} (hdirty : fp'.dirty = false)
    (hwflag : s'.wflag = false) (hsect : fp'.dirSect = fp.dirSect) (hptr : fp'.dirPtr = fp.dirPtr)
    (hsize : fp'.objsize = fp.objsize) (hview : s'.view fp.dirSect = s.view fp.dirSect) :
    Settled g cs fp' s' := by
  refine ⟨hdirty, hwflag, ?_, ?_⟩
  · rw [hsect, hptr, hview, h.sclust]
  · rw [hsect, hptr, hview, h.objsize, hsize]

/-- `sync_fs` fails with the drive. -/
theorem syncFs_res (g : Geometry) (s : Fs) : (syncFs g s).1 = .ok ∨ (syncFs g s).1 = .diskErr := by
  obtain ⟨d, wflag, heq, hres⟩ := syncWindow_eq g s
  unfold syncFs
  simp only
  rcases hres with ⟨hok, -⟩ | ⟨hfail, -, -⟩
  · rw [if_pos hok]
    split_ifs <;> simp
  · rw [if_neg (by rw [hfail]; nofun)]
    exact .inr hfail

/-- The sector of an entry is fetched, edited and synced. -/
theorem syncEntry_spec (hg : g.Valid) (hs : s.Sound g) {sect : Nat} (hdir : InDirectory g as bs sect)
    (hok : (moveWindow g sect s).1 = .ok) (f : Sector → Sector) :
    Kept g {sect} {sect} s (syncFs g ((moveWindow g sect s).2.edit f)).2 ∧
      (syncFs g ((moveWindow g sect s).2.edit f)).2.view sect = f (s.view sect) ∧
      (s.drive.Works → (syncFs g ((moveWindow g sect s).2.edit f)).1 = .ok) := by
  have hmove : Kept g {sect} {sect} s (moveWindow g sect s).2 :=
    (kept_moveWindow hg hs hdir.lt).mono (le_refl _) (Set.empty_subset _)
  have hwin := win_moveWindow hg hs hdir.lt hdir.shadow hok
  have hat := winsect_moveWindow hok
  generalize (moveWindow g sect s).2 = s₁ at hmove hwin hat ⊢
  have hedit := kept_edit hmove.sound (hat ▸ hdir.shadow) f
  rw [hat] at hedit
  have hsync := kept_syncFs hg hedit.sound
  refine ⟨hmove.trans (hedit.trans (hsync.mono (Set.empty_subset _) (Set.empty_subset _))), ?_,
    fun hd => syncFs_works (hedit.works (hmove.works hd))⟩
  refine (hsync.view _ hdir.shadow (Set.notMem_empty _)).trans ?_
  rw [view_edit, hat, Function.update_self, hwin]

theorem fSync_spec (hg : g.Valid) (h : Opened g as cs bs fp s) (hdir : InDirectory g as bs fp.dirSect)
    (hattached : fp.attached = true) (tm : Nat) : Synced g as cs bs tm fp s (fSync g tm fp s) := by
  have hout := hdir.notMem h.toOwned
  unfold fSync
  rw [if_neg (by rw [hattached]; nofun)]
  by_cases hmodified : fp.modified = true
  · rw [if_neg (by rw [hmodified]; nofun)]
    have hno : ∀ {P : Prop}, fp.modified = false → P :=
      fun hno => absurd (hno.symm.trans hmodified) nofun
    obtain ⟨hflush, hclean⟩ := flush_still hg h.toOwned
    obtain ⟨hkept₁, -⟩ := flush_kept hg h.toOwned
    have hview₁ : Cached g cs fp s → Cached g cs (flush fp s).2.1 (flush fp s).2.2 ∧
        Set.EqOn ((flush fp s).2.1.view (flush fp s).2.2) (fp.view s) (g.sectorsOf cs) := flush_view
    have hsame := flush_same fp s
    revert hflush hclean hkept₁ hview₁ hsame
    generalize flush fp s = r
    obtain ⟨res, fp₁, s₁⟩ := r
    intro hflush hclean hkept₁ hview₁ hsame
    obtain ⟨dirty, rfl⟩ : ∃ dirty, fp₁ = fp.hold dirty fp.buf fp.sect := hsame
    have hopened₁ : Opened g as cs bs (fp.hold dirty fp.buf fp.sect) s₁ :=
      ⟨hflush.owned, fun herr => (hview₁ (h.cached herr)).1, fun herr =>
        ⟨(h.place herr).limit, (h.place herr).fptr, (h.place herr).clust, (h.place herr).cache⟩⟩
    have hcontent₁ : fp.err = .ok → (fp.hold dirty fp.buf fp.sect).content g cs s₁ = fp.content g cs s := by
      intro herr
      refine chunk_congr fun ofs _ hofs => bytes_congr hg h.clusters (hview₁ (h.cached herr)).2 ?_
      exact Nat.lt_of_lt_of_le (show ofs < 0 + fp.objsize from hofs) (by rw [Nat.zero_add]; exact h.size)
    have hleft := Set.subset_union_left (s := g.sectorsOf cs) (t := {fp.dirSect})
    have hright := Set.subset_union_right (s := g.sectorsOf cs) (t := {fp.dirSect})
    by_cases hok : res = .ok
    · subst hok
      obtain rfl : dirty = false := hclean rfl
      have hkept₂ : Kept g {fp.dirSect} {fp.dirSect} s₁ (moveWindow g fp.dirSect s₁).2 :=
        (kept_moveWindow hg hopened₁.sound hdir.lt).mono (le_refl _) (Set.empty_subset _)
      have hbefore : s₁.view fp.dirSect = s.view fp.dirSect := hkept₁.view _ hdir.shadow hout
      simp only [ne_eq, not_true_eq_false, if_false]
      rw [show (fp.hold false fp.buf fp.sect).dirSect = fp.dirSect from rfl]
      by_cases hok : (moveWindow g fp.dirSect s₁).1 = .ok
      · obtain ⟨hkept₃, hview, hworks⟩ :=
          syncEntry_spec hg hopened₁.sound hdir hok (putEntry g tm fp)
        obtain ⟨hopened₃, hcontent₃⟩ := hopened₁.of_directory hg hdir hkept₃
        have hentry := hview.trans (congrArg (putEntry g tm fp) hbefore)
        simp only [hok, not_true_eq_false, if_false]
        refine ⟨(hkept₁.mono hleft hleft).trans (hkept₃.mono hright hright),
          ⟨hopened₃.modify false, hopened₃.cached, fun herr => ?_⟩, ⟨false, fp.buf, fp.sect, false, rfl⟩, ?_,
          fun herr => (hcontent₃ herr).trans (hcontent₁ herr), hno, fun _ _ => ⟨rfl, rfl⟩,
          fun _ _ => hentry, fun j hj => ?_⟩
        · have hat := hopened₃.place herr
          exact ⟨hat.limit, hat.fptr, hat.clust, hat.cache⟩
        · refine (syncFs_res g _).imp_right fun hfail => ⟨hfail, fun hd => ?_⟩
          exact absurd ((hworks (hkept₁.works hd)).symm.trans hfail) nofun
        · exact (congrFun hentry j).trans (putEntry_of_ne tm (s.view fp.dirSect) hj)
      · simp only [hok, not_false_eq_true, if_true]
        obtain ⟨hopened₂, hcontent₂⟩ := hopened₁.of_directory hg hdir hkept₂
        exact ⟨(hkept₁.mono hleft hleft).trans (hkept₂.mono hright hright), hopened₂,
          ⟨false, fp.buf, fp.sect, fp.modified, rfl⟩,
          .inr ⟨(moveWindow_res g _ s₁).resolve_left hok,
            fun hd => hok (moveWindow_works (hkept₁.works hd))⟩,
          fun herr => (hcontent₂ herr).trans (hcontent₁ herr), hno, fun h => absurd h hok,
          fun h => absurd h hok, fun j _ => congrFun (((kept_moveWindow hg hopened₁.sound hdir.lt).view _
            hdir.shadow (Set.notMem_empty _)).trans hbefore) j⟩
    · simp only [ne_eq, hok, not_false_eq_true, if_true]
      exact ⟨hkept₁.mono hleft hleft, hopened₁, ⟨dirty, fp.buf, fp.sect, fp.modified, rfl⟩, hflush.res,
        hcontent₁, hno, fun h => absurd h hok, fun h => absurd h hok,
        fun j _ => congrFun (hkept₁.view _ hdir.shadow hout) j⟩
  · have hno : fp.modified = false := Bool.not_eq_true _ ▸ hmodified
    rw [if_pos hno]
    exact ⟨.refl h.sound, h, ⟨fp.dirty, fp.buf, fp.sect, fp.modified, rfl⟩, .inl rfl, fun _ => rfl,
      fun _ => rfl, fun _ hyes => absurd hyes hmodified, fun _ hyes => absurd hyes hmodified,
      fun _ _ => rfl⟩

theorem wflag_fSync (hattached : fp.attached = true) (hmodified : fp.modified = true) {tm : Nat}
    (hok : (fSync g tm fp s).1 = .ok) : (fSync g tm fp s).2.2.wflag = false := by
  unfold fSync at hok ⊢
  rw [if_neg (hattached ▸ Bool.false_ne_true.symm), if_neg (hmodified ▸ Bool.false_ne_true.symm)] at hok ⊢
  simp only at hok ⊢
  split at hok
  · next hflush => exact absurd hok hflush
  · next hflush =>
    rw [if_neg hflush]
    split at hok
    · next hmove => exact absurd hok hmove
    · next hmove =>
      rw [if_neg hmove]
      exact wflag_syncFs hok

end Sync

/-! ## `f_open` -/

section Open

variable {as bs : List (List Nat)} {cs : List Nat} {fp : Fil} {s : Fs}

/-- The directory has a file with the chain `cs`, in the entry at `dir` of the sector `sect`. -/
structure Listed (g : Geometry) (as : List (List Nat)) (cs : List Nat) (bs : List (List Nat))
    (sect dir : Nat) (s : Fs) : Prop extends InDirectory g as bs sect where
  sound : s.Sound g
  untorn : s.Untorn g
  forest : s.Forest g (as ++ cs :: bs)
  sclust : ldClust g (s.view sect) dir = cs.headD 0
  objsize : ldDword (s.view sect) (dir + 28) ≤ cs.length * g.csize * g.ssize

/-- The bytes of the file on the drive. -/
def stored (g : Geometry) (cs : List Nat) (sect dir : Nat) (s : Fs) : List UInt8 :=
  chunk (g.bytes cs s.drive.sectors) 0 (ldDword (s.view sect) (dir + 28))

theorem owned_validFil (hg : g.Valid) {dir : Nat} (h : Listed g as cs bs s.winsect dir s) (mode : UInt8)
    (fp : Fil) : Owned g as cs bs (validFil g mode dir fp s) s where
  sound := h.sound
  untorn := h.untorn
  forest := h.forest
  aside := h.aside
  sclust := by
    have hsclust := h.sclust
    rwa [s.view_winsect] at hsclust
  sect h0 := absurd h0 (Nat.not_le.mpr hg.database_pos)
  dirty h0 := absurd h0 nofun
  size := by
    have hsize := h.objsize
    rwa [s.view_winsect] at hsize
  mapped _ htbl := absurd htbl nofun

/-- What an object has whose sector is not dirty is on the drive. -/
theorem content_of_clean (hg : g.Valid) (h : Owned g as cs bs fp s) (hcached : Cached g cs fp s)
    (hclean : fp.dirty = false) :
    fp.content g cs s = chunk (g.bytes cs s.drive.sectors) 0 fp.objsize := by
  have hview : Set.EqOn (fp.view s) s.drive.sectors (g.sectorsOf cs)ᶜᶜ :=
    Held.view_eqOn_store (h := fp.held s) hcached hclean
  refine chunk_congr fun ofs _ hofs => bytes_congr hg h.clusters (fun k hk => hview (not_not.mpr hk)) ?_
  exact Nat.lt_of_lt_of_le (by omega) h.size

theorem endLoop_spec (hg : g.Valid) {fuel ofs clst k : Nat} {s : Fs} (h : Owned g as cs bs fp s)
    (hcur : cs[k]? = some clst) (hofs : 0 < ofs)
    (hend : k * (g.csize * g.ssize) + ofs ≤ cs.length * (g.csize * g.ssize)) (hfuel : ofs < fuel) :
    ∃ r, endLoop g fuel ofs clst s = some r ∧ Kept g g.fatSectors ∅ s r.2.2.2 ∧
      (r.1 = .diskErr ∧ ¬ s.drive.Works ∨ r.1 = .ok ∧ ∃ k', cs[k']? = some r.2.2.1 ∧
        k' * (g.csize * g.ssize) + r.2.1 = k * (g.csize * g.ssize) + ofs ∧ 0 < r.2.1 ∧
          r.2.1 ≤ g.csize * g.ssize) := by
  induction fuel generalizing ofs clst k s with
  | zero => exact absurd hfuel ofs.not_lt_zero
  | succ fuel ih =>
    have hpos := hg.bcs_pos
    rw [endLoop]
    by_cases hin : ofs ≤ g.csize * g.ssize
    · simp only [if_pos hin]
      exact ⟨_, rfl, .refl h.sound, .inr ⟨rfl, k, hcur, rfl, hofs, hin⟩⟩
    · simp only [if_neg hin]
      have hlt : k + 1 < cs.length := by
        have hmul : (k + 1) * (g.csize * g.ssize) < cs.length * (g.csize * g.ssize) := by
          rw [Nat.succ_mul]
          omega
        exact Nat.lt_of_mul_lt_mul_right hmul
      have hd : cs[k + 1]? = some cs[k + 1] := List.getElem?_eq_getElem hlt
      have hlink := next_of_getElem? (Lib.Forest.chain h.forest) hcur hd
      have hmem := h.clusters _ (List.getElem_mem hlt)
      have hfollowed := followed hg h.sound (h.clusters _ (List.mem_of_getElem? hcur))
      revert hfollowed
      generalize getFat g clst s = r
      obtain ⟨nxt, s₁⟩ := r
      rintro ⟨hkept, -, ⟨rfl, hworks⟩ | hval⟩
      · simp only [if_true]
        exact ⟨_, rfl, hkept, .inl ⟨rfl, hworks⟩⟩
      · obtain rfl : nxt = cs[k + 1] := hval.trans (entry_of_next hlink).1
        have h2 := (mem_clusters.mp hmem).1
        have hne : cs[k + 1] ≠ 0xFFFFFFFF := fun heq => notMem_clusters_fail hg (heq ▸ hmem)
        simp only [if_neg hne, if_neg (show ¬ cs[k + 1] ≤ 1 by omega)]
        have hsum : (k + 1) * (g.csize * g.ssize) + (ofs - g.csize * g.ssize) =
            k * (g.csize * g.ssize) + ofs := by
          rw [Nat.succ_mul]
          omega
        have hpos' : 0 < ofs - g.csize * g.ssize := by omega
        obtain ⟨r, hr, hkept', hres⟩ := ih (h.of_get hg hkept) hd hpos' (hsum ▸ hend) (by omega)
        refine ⟨r, hr, hkept.trans hkept', ?_⟩
        rw [hsum] at hres
        exact hres.imp_left (And.imp_right fun hfail hd => hfail (hkept.works hd))

/-- What `f_open` leaves behind of a file that is there. -/
structure OpenedAt (g : Geometry) (as : List (List Nat)) (cs : List Nat) (bs : List (List Nat))
    (pos : Nat) (fp : Fil) (s : Fs) (r : FResult × Fil × Fs) : Prop where
  kept : Kept g g.fatSectors ∅ s r.2.2
  res : r.1 = .ok ∨ r.1 = .diskErr ∧ ¬ s.drive.Works
  opened : r.1 = .ok → Opened g as cs bs r.2.1 r.2.2
  same : r.1 = .ok → ∃ clust sect buf, r.2.1 = fp.moved pos clust fp.dirty buf sect
  content : r.1 = .ok →
    r.2.1.content g cs r.2.2 = chunk (g.bytes cs s.drive.sectors) 0 fp.objsize

/-- An object that has not read anything yet. -/
theorem cached_unread (hg : g.Valid) (hsect : fp.sect = 0) : Cached g cs fp s := by
  intro _ hkey
  obtain ⟨hlo, -⟩ := not_not.mp hkey
  have hpos := hg.database_pos
  have hlo : g.database ≤ fp.sect := hlo
  omega

theorem seekToEnd_spec (hg : g.Valid) (h : Owned g as cs bs fp s) (hclean : fp.dirty = false)
    (hsect : fp.sect = 0) (hsize : 0 < fp.objsize) (hlimit : fp.objsize < 0x100000000) :
    ∃ r, seekToEnd g fp s = some r ∧ OpenedAt g as cs bs fp.objsize fp s r := by
  have hfits := h.size
  rw [Nat.mul_assoc] at hfits
  have hlen : 0 < cs.length := by
    refine Nat.pos_of_ne_zero fun h0 => ?_
    rw [h0, Nat.zero_mul] at hfits
    omega
  have hcur : cs[0]? = some fp.sclust := by
    rw [h.sclust, List.headD_eq_head?_getD, List.head?_eq_getElem?, List.getElem?_eq_getElem hlen,
      Option.getD_some]
  obtain ⟨⟨res, ofs, clst, s₁⟩, hr, hkept, hres⟩ := endLoop_spec hg h hcur hsize
    (by rw [Nat.zero_mul, Nat.zero_add]; exact hfits) (Nat.lt_succ_self fp.objsize)
  unfold seekToEnd
  rw [hr]
  refine ⟨_, rfl, ?_⟩
  have hkept : Kept g g.fatSectors ∅ s s₁ := hkept
  rcases hres with ⟨rfl, hworks⟩ | ⟨rfl, k, hcur', hsum, hpos, hin⟩
  · exact ⟨hkept, .inr ⟨rfl, hworks⟩, nofun, nofun, nofun⟩
  · have hcur' : cs[k]? = some clst := hcur'
    have hsum : k * (g.csize * g.ssize) + ofs = fp.objsize := by
      rw [Nat.zero_mul, Nat.zero_add] at hsum
      exact hsum
    have hseek : Seeking g cs { fp with fptr := k * (g.csize * g.ssize), clust := clst } k clst :=
      ⟨rfl, hcur', rfl⟩
    have hclust : cs[(fp.objsize - 1) / g.ssize / g.csize]? = some clst := by
      rw [← hsum]
      exact (congrArg (cs[·]?) (hseek.behind hg ofs hpos hin)).trans hcur'
    have howned := (h.of_get hg hkept).moved fp.objsize clst fp.err
    have hstored : ∀ {fp' : Fil} {s' : Fs}, Owned g as cs bs fp' s' → Cached g cs fp' s' →
        fp'.dirty = false → s'.drive.sectors = s₁.drive.sectors → fp'.objsize = fp.objsize →
        fp'.content g cs s' = chunk (g.bytes cs s.drive.sectors) 0 fp.objsize := by
      intro fp' s' howned' hcached' hclean' hdrive hobj
      rw [content_of_clean hg howned' hcached' hclean', hobj, hdrive]
      refine chunk_congr fun ofs _ hofs => bytes_congr hg h.clusters (h.drive_of_table hg hkept) ?_
      exact Nat.lt_of_lt_of_le (by omega) h.size
    simp only [ne_eq, not_true_eq_false, if_false]
    by_cases hmod : ofs % g.ssize = 0
    · simp only [hmod, not_true_eq_false, if_false]
      have hmod' : fp.objsize % g.ssize = 0 := by rw [← hsum, hseek.mod ofs, hmod]
      have hcached : Cached g cs { fp with fptr := fp.objsize, clust := clst } s₁ := cached_unread hg hsect
      exact ⟨hkept, .inl rfl, fun _ => ⟨howned, fun _ => hcached, fun _ => ⟨hlimit, le_refl _,
        fun _ => hclust, fun hne => absurd hmod' hne⟩⟩, fun _ => ⟨clst, fp.sect, fp.buf, rfl⟩,
        fun _ => hstored howned hcached hclean rfl rfl⟩
    · obtain ⟨hne, hsector⟩ := hseek.sector hg h.clusters hin hmod
      rw [show k * (g.csize * g.ssize) + ofs = fp.objsize from hsum] at hsector
      simp only [hmod, hne, hsector, not_false_eq_true, if_true, if_false]
      have hmem : g.sector cs (fp.objsize / g.ssize) ∈ g.sectorsOf cs := by
        refine sector_mem hg h.clusters ((Nat.div_lt_iff_lt_mul hg.ssize_pos).mpr ?_)
        refine lt_of_le_of_ne h.size fun heq => hmod ?_
        rw [← hseek.mod ofs, show k * (g.csize * g.ssize) + ofs = fp.objsize from hsum, heq,
          Nat.mul_mod_left]
      have hread := kept_disk_read hkept.sound g.fatSectors ∅
      have howned' := (howned.of_get hg hread).hold (s₁.drive.read.2.1 (g.sector cs (fp.objsize / g.ssize)))
        (fun _ => hmem) (fun h => absurd (hclean.symm.trans h) nofun)
      by_cases hok : s₁.drive.read.1
      · simp only [hok, if_true]
        have hcached : Cached g cs (Fil.hold { fp with fptr := fp.objsize, clust := clst } fp.dirty
            (s₁.drive.read.2.1 (g.sector cs (fp.objsize / g.ssize))) (g.sector cs (fp.objsize / g.ssize)))
            { s₁ with drive := s₁.drive.read.2.2 } := fun _ _ =>
          (congrFun (Drive.sectors_read s₁.drive) _).trans (congrFun (Drive.read_ok hok) _).symm
        exact ⟨hkept.trans hread, .inl rfl, fun _ => ⟨howned', fun _ => hcached,
          fun _ => ⟨hlimit, le_refl _, fun _ => hclust, fun _ => rfl⟩⟩, fun _ => ⟨clst, _, _, rfl⟩,
          fun _ => hstored howned' hcached hclean (Drive.sectors_read s₁.drive) rfl⟩
      · simp only [hok]
        exact ⟨hkept.trans hread, .inr ⟨rfl, fun hd => hok (hkept.works hd).read.1⟩, nofun, nofun, nofun⟩

theorem openFil_spec (hg : g.Valid) {dir : Nat} (h : Listed g as cs bs s.winsect dir s) (mode : UInt8)
    (fp : Fil) : ∃ r, openFil g mode dir fp s = some r ∧ (r.2.1.attached = true ↔ r.1 = .ok) ∧
      OpenedAt g as cs bs (if mode &&& faSeekEnd ≠ 0 then (validFil g mode dir fp s).objsize else 0)
        (validFil g mode dir fp s) s r := by
  have howned := owned_validFil hg h mode fp
  have hlimit : (validFil g mode dir fp s).objsize < 0x100000000 := ldDword_lt ..
  unfold openFil
  by_cases hend : mode &&& faSeekEnd ≠ 0 ∧ 0 < (validFil g mode dir fp s).objsize
  · obtain ⟨⟨res, fp', s'⟩, hr, hopened⟩ := seekToEnd_spec hg howned rfl rfl hend.2 hlimit
    simp only [if_pos hend, if_pos hend.1]
    rw [hr]
    refine ⟨_, rfl, ?_⟩
    by_cases hok : res = .ok
    · subst hok
      obtain ⟨clust, sect, buf, rfl⟩ : ∃ clust sect buf, fp' = Fil.moved _ _ clust _ buf sect :=
        hopened.same rfl
      exact ⟨⟨fun _ => rfl, fun _ => rfl⟩, hopened⟩
    · simp only [ne_eq, hok, not_false_eq_true, if_true]
      exact ⟨⟨nofun, fun h => h.elim⟩, hopened.kept, hopened.res, fun h => absurd h hok,
        fun h => absurd h hok, fun h => absurd h hok⟩
  · have hpos : (if mode &&& faSeekEnd ≠ 0 then (validFil g mode dir fp s).objsize else 0) = 0 := by
      split
      · next hseek => exact Nat.le_zero.mp (Nat.not_lt.mp fun h => hend ⟨hseek, h⟩)
      · rfl
    have hcached : Cached g cs (validFil g mode dir fp s) s := cached_unread hg rfl
    simp only [if_neg hend]
    rw [hpos]
    exact ⟨_, rfl, ⟨fun _ => rfl, fun _ => rfl⟩, .refl h.sound, .inl rfl, fun _ => ⟨howned,
      fun _ => hcached, fun _ => ⟨hlimit, Nat.zero_le _, fun h => absurd h (Nat.lt_irrefl 0),
      fun h => absurd (Nat.zero_mod _) h⟩⟩, fun _ => ⟨_, _, _, rfl⟩,
      fun _ => content_of_clean hg howned hcached rfl⟩

/-- `f_open` of a file that is there and stays as it is. -/
theorem fOpen_spec (hg : g.Valid) {dir : Nat} (h : Listed g as cs bs s.winsect dir s) (tm : Nat)
    {mode : UInt8} (hfound : openFound (mode &&& 0x3F) (s.win (dir + 11)) = .ok)
    (hkeep : mode &&& 0x3F &&& faCreateAlways = 0) (fp : Fil) :
    ∃ r, fOpen g tm mode dir fp s = some r ∧ (r.2.1.attached = true ↔ r.1 = .ok) ∧
      OpenedAt g as cs bs
        (if mode &&& 0x3F &&& faSeekEnd ≠ 0 then (validFil g (mode &&& 0x3F) dir fp s).objsize else 0)
        (validFil g (mode &&& 0x3F) dir fp s) s r := by
  have hmade : ¬ (openFound (mode &&& 0x3F) (s.win (dir + 11)) = .ok ∧
      creates (mode &&& 0x3F) = true ∧ mode &&& 0x3F &&& faCreateAlways ≠ 0) :=
    fun hcond => hcond.2.2 hkeep
  unfold fOpen
  simp only [if_neg hmade]
  rw [if_neg (not_not.mpr hfound)]
  exact openFil_spec hg h _ fp

/-! ## `FA_CREATE_ALWAYS` -/

theorem ldClust_markEntry (tm dir : Nat) (win : Sector) :
    ldClust g (markEntry tm dir win) dir = ldClust g win dir := by
  have hother : ∀ j, (j < 11 ∨ 12 ≤ j) → (j < 14 ∨ 18 ≤ j) → (j < 22 ∨ 26 ≤ j) →
      markEntry tm dir win (dir + j) = win (dir + j) := by
    intro j h11 h14 h22
    unfold markEntry
    rw [stByte_of_ne (by omega), stDword_of_ne (by omega), stDword_of_ne (by omega)]
  refine ldClust_congr (fun j hj => ?_) fun j hj => ?_
  · rw [Nat.add_assoc]
    exact hother _ (by omega) (by omega) (by omega)
  · rw [Nat.add_assoc]
    exact hother _ (by omega) (by omega) (by omega)

theorem ldClust_cleanEntry (tm dir : Nat) (win : Sector) : ldClust g (cleanEntry g tm dir win) dir = 0 := by
  refine Eq.trans ?_ (ldClust_stClust (markEntry tm dir win) dir (Nat.two_pow_pos g.fsType.width))
  exact ldClust_congr (fun j hj => stDword_of_ne (by omega)) fun j hj => stDword_of_ne (by omega)

theorem ldDword_cleanEntry (tm dir : Nat) (win : Sector) :
    ldDword (cleanEntry g tm dir win) (dir + 28) = 0 := ldDword_stDword _ _ (by decide)

/-- What becomes of a file that `f_open` empties: its clusters are free. -/
structure Emptied (g : Geometry) (as bs : List (List Nat)) (tm dir : Nat) (s : Fs) (r : FResult × Fs) :
    Prop where
  kept : Kept g (g.fatSectors ∪ {s.winsect}) (g.fatSectors ∪ {s.winsect}) s r.2
  res : r.1 = .ok ∨ r.1 = .diskErr ∧ ¬ s.drive.Works
  forest : ∃ lost, r.2.Forest g (as ++ lost ++ bs)
  ok : r.1 = .ok → r.2.Forest g (as ++ [] :: bs) ∧ r.2.winsect = s.winsect ∧
    r.2.win = cleanEntry g tm dir s.win

theorem emptyEntry_spec (hg : g.Valid) {dir : Nat} (h : Listed g as cs bs s.winsect dir s) (tm : Nat) :
    ∃ r, emptyEntry g tm dir s = some r ∧ Emptied g as bs tm dir s r := by
  have hedit := kept_edit h.sound h.shadow (cleanEntry g tm dir)
  have hwin : (s.edit (cleanEntry g tm dir)).view s.winsect = cleanEntry g tm dir s.win := by
    rw [view_edit, Function.update_self]
  have hforest : (s.edit (cleanEntry g tm dir)).Forest g (as ++ cs :: bs) := by
    refine Lib.Forest.congr h.forest fun _ hc => cell_congr (hedit.entry hg ?_ (mem_clusters.mp hc).2)
    rintro k hk rfl
    exact h.table hk
  have hsclust := h.sclust
  rw [s.view_winsect] at hsclust
  have hleft := Set.subset_union_left (s := g.fatSectors) (t := {s.winsect})
  have hright := Set.subset_union_right (s := g.fatSectors) (t := {s.winsect})
  have hkept₁ := hedit.mono hright hright
  unfold emptyEntry
  simp only [ldClust_markEntry, hsclust]
  cases cs with
  | nil =>
    rw [if_neg (by simp)]
    exact ⟨_, rfl, hkept₁, .inl rfl, ⟨[[]], by simpa using hforest⟩, fun _ => ⟨hforest, rfl, rfl⟩⟩
  | cons c l =>
    have h2 := (mem_clusters.mp (Lib.Forest.subset h.forest (List.mem_cons_self))).1
    rw [List.headD_cons, if_pos (show c ≠ 0 by omega)]
    have hf : (s.edit (cleanEntry g tm dir)).Forest g (as ++ ([] ++ c :: l) :: bs) := hforest
    obtain ⟨⟨res, s₂⟩, hr, hcut⟩ := removeChain_spec hg hedit.sound (hedit.untorn h.untorn) hf
    have hr : removeChain g c 0 (s.edit (cleanEntry g tm dir)) = some (res, s₂) := hr
    have hkept₂ : Kept g (g.fatSectors ∪ {s.winsect}) (g.fatSectors ∪ {s.winsect}) s s₂ :=
      hkept₁.trans (hcut.kept.mono hleft hleft)
    obtain ⟨l', rest, -, -, hlost⟩ := hcut.forest
    have hlost : s₂.Forest g (as ++ [l', rest] ++ bs) := by simpa using hlost
    rw [hr]
    refine ⟨_, rfl, ?_⟩
    by_cases hok : res = .ok
    · subst hok
      have hf₂ : s₂.Forest g (as ++ [] :: bs) := hcut.ok rfl
      have hmove := kept_moveWindow hg hkept₂.sound h.lt
      have hwin₃ := win_moveWindow hg hkept₂.sound h.lt h.shadow
      have hwinsect : (moveWindow g s.winsect s₂).1 = .ok →
          (moveWindow g s.winsect s₂).2.winsect = s.winsect := winsect_moveWindow
      have hres := moveWindow_res g s.winsect s₂
      have hworks : s₂.drive.Works → (moveWindow g s.winsect s₂).1 = .ok := moveWindow_works
      simp only [if_true]
      revert hmove hwin₃ hwinsect hres hworks
      generalize moveWindow g s.winsect s₂ = r
      obtain ⟨res, s₃⟩ := r
      intro hmove hwin₃ hwinsect hres hworks
      have hf₃ : s₃.Forest g (as ++ [] :: bs) := Lib.Forest.congr hf₂ fun _ hc =>
        cell_congr (hmove.entry hg g.notMem_empty (mem_clusters.mp hc).2)
      have hview : s₂.view s.winsect = cleanEntry g tm dir s.win :=
        (hcut.kept.view _ h.shadow h.table).trans hwin
      have hlost₃ : s₃.Forest g (as ++ [[]] ++ bs) := by simpa using hf₃
      have hkept₃ := hkept₂.trans (hmove.mono hright (Set.empty_subset _))
      exact ⟨hkept₃.setInfo _ _ _, hres.imp_right fun hfail => ⟨hfail, fun hd =>
        absurd ((hworks (hkept₂.works hd)).symm.trans hfail) nofun⟩, ⟨[[]], hlost₃⟩,
        fun hok => ⟨hf₃, hwinsect hok, (hwin₃ hok).trans hview⟩⟩
    · simp only [hok, if_false]
      exact ⟨hkept₂, .inr ⟨hcut.res.resolve_left hok, fun hd => hok (hcut.works (hedit.works hd))⟩,
        ⟨_, hlost⟩, fun h => absurd h hok⟩

/-- What `f_open` leaves behind of a file that it empties. -/
structure OpenedEmpty (g : Geometry) (as bs : List (List Nat)) (mode : UInt8) (dir : Nat) (fp : Fil)
    (s : Fs) (r : FResult × Fil × Fs) : Prop where
  kept : Kept g (g.fatSectors ∪ {s.winsect}) (g.fatSectors ∪ {s.winsect}) s r.2.2
  res : r.1 = .ok ∨ r.1 = .diskErr ∧ ¬ s.drive.Works
  attached : r.2.1.attached = true ↔ r.1 = .ok
  forest : ∃ lost, r.2.2.Forest g (as ++ lost ++ bs)
  opened : r.1 = .ok → Opened g as [] bs r.2.1 r.2.2
  same : r.1 = .ok → ∃ clust buf sect, r.2.1 = { validFil g mode dir fp s with
    sclust := 0, objsize := 0, clust := clust, buf := buf, sect := sect }
  content : r.1 = .ok → r.2.1.content g [] r.2.2 = []

/-- `f_open` of a file that is to be a new one. -/
theorem fOpen_empty (hg : g.Valid) {dir : Nat} (h : Listed g as cs bs s.winsect dir s) (tm : Nat)
    {mode : UInt8} (hfound : openFound (mode &&& 0x3F) (s.win (dir + 11)) = .ok)
    (hcreates : creates (mode &&& 0x3F) = true) (hempty : mode &&& 0x3F &&& faCreateAlways ≠ 0)
    (fp : Fil) : ∃ r, fOpen g tm mode dir fp s = some r ∧
      OpenedEmpty g as bs (mode &&& 0x3F) dir fp s r := by
  obtain ⟨⟨res, s₁⟩, hr, hemptied⟩ := emptyEntry_spec hg h tm
  unfold fOpen
  simp only [if_pos (And.intro hfound (And.intro hcreates hempty)), hr]
  by_cases hok : res = .ok
  · subst hok
    obtain ⟨hforest, hwinsect, hwin⟩ := hemptied.ok rfl
    have hforest : s₁.Forest g (as ++ [] :: bs) := hforest
    have hwin : s₁.win = cleanEntry g tm dir s.win := hwin
    have hwinsect : s₁.winsect = s.winsect := hwinsect
    have hlisted : Listed g as [] bs s₁.winsect dir s₁ := by
      refine ⟨hwinsect ▸ h.toInDirectory, hemptied.kept.sound, hemptied.kept.untorn h.untorn, hforest,
        ?_, ?_⟩
      · rw [s₁.view_winsect, hwin, ldClust_cleanEntry]
        rfl
      · rw [s₁.view_winsect, hwin, ldDword_cleanEntry]
        exact Nat.zero_le _
    obtain ⟨⟨res, fp', s₂⟩, hr, hattached, hopened⟩ := openFil_spec hg hlisted (mode &&& 0x3F) fp
    have hclust : ldClust g s₁.win dir = 0 := by rw [hwin, ldClust_cleanEntry]
    have hobjsize : ldDword s₁.win (dir + 28) = 0 := by rw [hwin, ldDword_cleanEntry]
    have hvalid : validFil g (mode &&& 0x3F) dir fp s₁ =
        { validFil g (mode &&& 0x3F) dir fp s with sclust := 0, objsize := 0 } := by
      simp only [validFil, hclust, hobjsize, hwinsect]
    have hforest₂ : s₂.Forest g (as ++ [] :: bs) := hforest.of_kept hg hopened.kept
    have hzero : (validFil g (mode &&& 0x3F) dir fp s₁).objsize = 0 := hobjsize
    rw [hzero, ite_self] at hopened
    rw [if_neg (not_not.mpr rfl)]
    refine ⟨_, hr, hemptied.kept.trans (hopened.kept.mono Set.subset_union_left (Set.empty_subset _)), ?_,
      hattached, ⟨[[]], by simpa using hforest₂⟩, hopened.opened, fun hok => ?_, fun hok => ?_⟩
    · exact hopened.res.imp_right (And.imp_right fun hfail hd => hfail (hemptied.kept.works hd))
    · obtain ⟨clust, sect, buf, heq⟩ := hopened.same hok
      rw [hvalid] at heq
      exact ⟨clust, buf, sect, heq⟩
    · have hcontent := hopened.content hok
      rwa [hzero, chunk_zero] at hcontent
  · simp only [ne_eq, hok, not_false_eq_true, if_true]
    exact ⟨_, rfl, hemptied.kept, hemptied.res, ⟨nofun, fun h => absurd h hok⟩, hemptied.forest,
      fun h => absurd h hok, fun h => absurd h hok, fun h => absurd h hok⟩

/-! ## Another day -/

/-- The first cluster of a chain has a number that an entry holds. -/
theorem Owned.sclust_lt (hg : g.Valid) (h : Owned g as cs bs fp s) : fp.sclust < 2 ^ g.fsType.width := by
  rw [h.sclust]
  cases cs with
  | nil => exact Nat.two_pow_pos _
  | cons c l =>
    have hc := (mem_clusters.mp (h.clusters c List.mem_cons_self)).2
    exact hc.trans hg.clusters

/-- What nothing is to be written of is what who mounts the volume has. -/
theorem Settled.listed (hg : g.Valid) (hsettled : Settled g cs fp s) (h : Opened g as cs bs fp s)
    (hdir : InDirectory g as bs fp.dirSect) (herr : fp.err = .ok) {s₁ : Fs} (hmounted : s₁.Mounted g)
    (huntorn : s₁.Untorn g) (hdrive : s₁.drive.sectors = s.drive.sectors) :
    Listed g as cs bs fp.dirSect fp.dirPtr s₁ ∧
      stored g cs fp.dirSect fp.dirPtr s₁ = fp.content g cs s ∧ s₁.view fp.dirSect = s.view fp.dirSect := by
  have hview : ∀ k ∉ g.shadow, s₁.view k = s.view k := fun k hk =>
    (hmounted.view hg hk).trans ((congrFun hdrive k).trans (h.sound.sectors_of_clean hsettled.wflag k hk))
  have hentry := hview _ hdir.shadow
  have hsize : ldDword (s₁.view fp.dirSect) (fp.dirPtr + 28) = fp.objsize := by
    rw [hentry, hsettled.objsize]
  refine ⟨⟨hdir, hmounted.sound hg, huntorn, ?_, ?_, ?_⟩, ?_, hentry⟩
  · refine Lib.Forest.congr h.forest fun _ hc => cell_congr (Geometry.entry_congr fun k hk => ?_)
    have hmem := hg.mem_fatSectors (hk.lt (mem_clusters.mp hc).2)
    exact congrFun (hview _ (hg.fatSectors_notMem hmem)) _
  · rw [hentry, hsettled.sclust]
  · rw [hsize]
    exact h.size
  · rw [stored, hsize, hdrive]
    exact (content_of_clean hg h.toOwned (h.cached herr) hsettled.dirty).symm

/-- After `f_sync`, nothing of the file is to be written. -/
theorem fSync_settled (hg : g.Valid) (h : Opened g as cs bs fp s) (hdir : InDirectory g as bs fp.dirSect)
    (hattached : fp.attached = true) (herr : fp.err = .ok)
    (hsettled : fp.modified = false → Settled g cs fp s) {tm : Nat} (hok : (fSync g tm fp s).1 = .ok) :
    Settled g cs (fSync g tm fp s).2.1 (fSync g tm fp s).2.2 := by
  have hsync := fSync_spec hg h hdir hattached tm
  by_cases hmodified : fp.modified = true
  · have hwflag := wflag_fSync hattached hmodified hok
    have hentry := hsync.entry hok hmodified
    have hclean := (hsync.clean hok hmodified).2
    obtain ⟨dirty, buf, sect, modified, heq⟩ := hsync.same
    have hdirSect : (fSync g tm fp s).2.1.dirSect = fp.dirSect := (congrArg Fil.dirSect heq).trans rfl
    have hdirPtr : (fSync g tm fp s).2.1.dirPtr = fp.dirPtr := (congrArg Fil.dirPtr heq).trans rfl
    refine ⟨hclean, hwflag, ?_, ?_⟩
    · rw [hdirSect, hdirPtr, hentry, ldClust_putEntry tm _ (h.sclust_lt hg), h.sclust]
    · rw [hdirSect, hdirPtr, hentry, ldDword_putEntry tm _ (h.place herr).limit]
      exact (congrArg Fil.objsize heq).symm
  · have hno : fp.modified = false := Bool.not_eq_true _ ▸ hmodified
    rw [hsync.still hno]
    exact hsettled hno

/-- `AM_ARC` says nothing about whether a file is opened. -/
theorem openFound_archive (mode attr : UInt8) : openFound mode (attr ||| 0x20) = openFound mode attr := by
  have hbits : ∀ m : UInt8, 0x20 &&& m = 0 → (attr ||| 0x20) &&& m = attr &&& m := by
    intro m hm
    rw [Platform.FatFs.or_and_distrib, hm, UInt8.or_zero]
  unfold openFound
  rw [hbits 0x11 rfl, hbits 0x10 rfl, hbits 0x01 rfl]

/-- `f_sync` lets the file be opened as before. -/
theorem Synced.openFound {tm : Nat} {r : FResult × Fil × Fs} (h : Synced g as cs bs tm fp s r)
    (hok : r.1 = .ok) (mode : UInt8) :
    openFound mode (r.2.2.view fp.dirSect (fp.dirPtr + 11)) =
      openFound mode (s.view fp.dirSect (fp.dirPtr + 11)) := by
  by_cases hmodified : fp.modified = true
  · rw [h.entry hok hmodified, putEntry_attr, openFound_archive]
  · rw [h.still (Bool.not_eq_true _ ▸ hmodified)]

/-- After `f_sync`, who mounts the volume has the file. -/
theorem fSync_listed (hg : g.Valid) (h : Opened g as cs bs fp s) (hdir : InDirectory g as bs fp.dirSect)
    (hattached : fp.attached = true) (herr : fp.err = .ok)
    (hsettled : fp.modified = false → Settled g cs fp s) {tm : Nat} (hok : (fSync g tm fp s).1 = .ok)
    {s₁ : Fs} (hmounted : s₁.Mounted g) (huntorn : s₁.Untorn g)
    (hdrive : s₁.drive.sectors = (fSync g tm fp s).2.2.drive.sectors) :
    Listed g as cs bs fp.dirSect fp.dirPtr s₁ ∧
      stored g cs fp.dirSect fp.dirPtr s₁ = fp.content g cs s ∧
      s₁.view fp.dirSect = (fSync g tm fp s).2.2.view fp.dirSect := by
  have hsync := fSync_spec hg h hdir hattached tm
  have hsettled' := fSync_settled hg h hdir hattached herr hsettled hok
  revert hsync hsettled' hdrive
  generalize fSync g tm fp s = r
  obtain ⟨res, fp', s'⟩ := r
  intro hdrive hsync hsettled'
  obtain ⟨dirty, buf, sect, modified, rfl⟩ : ∃ dirty buf sect modified,
    fp' = { fp.hold dirty buf sect with modified := modified } := hsync.same
  obtain ⟨hlisted, hstored, hentry⟩ :=
    hsettled'.listed hg hsync.opened hdir herr hmounted huntorn hdrive
  exact ⟨hlisted, hstored.trans (hsync.content herr), hentry⟩

/-- The window of a mount is on no cluster. -/
theorem Fs.Mounted.notMem (hg : g.Valid) (h : s.Mounted g) (hcs : ∀ c ∈ cs, c ∈ g.clusters) :
    s.winsect ∉ g.sectorsOf cs := by
  intro hmem
  have hlo : g.database ≤ s.winsect := hmem.1
  have hdata := hg.volbase_lt_database
  have hlast := hg.sectors
  rcases h.winsect with heq | heq | heq
  · exact (sectorsOf_notMem hg hcs hmem).1 (.inl heq)
  · omega
  · rw [dword_of_lt (by omega)] at heq
    omega

/-- What the directory has is found by those who look for it. -/
theorem Listed.of_kept (hg : g.Valid) {sect dir : Nat} (h : Listed g as cs bs sect dir s) {s' : Fs}
    (hkept : Kept g {sect} ∅ s s') (hwinsect : s.winsect ∉ g.sectorsOf cs) :
    Listed g as cs bs sect dir s' ∧ stored g cs sect dir s' = stored g cs sect dir s := by
  have hin : ∀ c ∈ cs, c ∈ g.clusters := fun _ => Lib.Forest.subset h.forest
  have hview := hkept.view sect h.shadow (Set.notMem_empty _)
  refine ⟨⟨h.toInDirectory, hkept.sound, hkept.untorn h.untorn, ?_, ?_, ?_⟩, ?_⟩
  · exact Lib.Forest.congr h.forest fun _ hc =>
      cell_congr (hkept.entry hg g.notMem_empty (mem_clusters.mp hc).2)
  · rw [hview, h.sclust]
  · rw [hview]
    exact h.objsize
  · unfold stored
    rw [hview]
    refine chunk_congr fun ofs _ hofs => bytes_congr hg hin (fun k hk => ?_) ?_
    · obtain ⟨hshadow, -, -⟩ := sectorsOf_notMem hg hin hk
      refine hkept.drive k hshadow ?_ fun heq => hwinsect (heq ▸ hk)
      rintro rfl
      obtain ⟨l, hl, hcl⟩ := List.mem_flatten.mp (h.aside hk.1 (hin _ hk.2))
      exact Lib.Forest.notMem h.forest hk.2 hl hcl
    · exact Nat.lt_of_lt_of_le (by omega) h.objsize

/-- `follow_path` and `f_open`, for a file that has its entry at `dir` in the sector `sect`. -/
def reopen (g : Geometry) (tm : Nat) (mode : UInt8) (sect dir : Nat) (fp : Fil) (s : Fs) :
    Option (FResult × Fil × Fs) :=
  let (res, s) := moveWindow g sect s
  if res ≠ .ok then some (res, { fp with attached := false }, s) else fOpen g tm mode dir fp s

theorem Listed.notMem {sect dir : Nat} (h : Listed g as cs bs sect dir s) : sect ∉ g.sectorsOf cs := by
  rintro ⟨hlo, hmem⟩
  obtain ⟨k, hk, hck⟩ := List.mem_flatten.mp (h.aside hlo (Lib.Forest.subset h.forest hmem))
  exact Lib.Forest.notMem h.forest hmem hk hck

/-- The window comes to the entry. -/
theorem Listed.moved (hg : g.Valid) {sect dir : Nat} (h : Listed g as cs bs sect dir s)
    (haway : s.winsect ∉ g.sectorsOf cs) {s₂ : Fs} (hmove : moveWindow g sect s = (.ok, s₂)) :
    Listed g as cs bs s₂.winsect dir s₂ ∧ s₂.winsect = sect ∧ s₂.win = s.view sect ∧
      stored g cs s₂.winsect dir s₂ = stored g cs sect dir s := by
  have hkept := kept_moveWindow hg h.sound h.lt
  have hwinsect : (moveWindow g sect s).1 = .ok → (moveWindow g sect s).2.winsect = sect :=
    winsect_moveWindow
  have hwin := win_moveWindow hg h.sound h.lt h.shadow
  rw [hmove] at hkept hwinsect hwin
  have hat : s₂.winsect = sect := hwinsect rfl
  obtain ⟨hlisted, hstored⟩ := h.of_kept hg hkept haway
  exact ⟨hat ▸ hlisted, hat, hwin rfl, hat ▸ hstored⟩

/-- What `reopen` leaves behind of a file that is there. -/
structure Reopened (g : Geometry) (as : List (List Nat)) (cs : List Nat) (bs : List (List Nat))
    (mode : UInt8) (sect dir : Nat) (fp : Fil) (s : Fs) (r : FResult × Fil × Fs) : Prop where
  kept : Kept g (g.fatSectors ∪ {sect}) ∅ s r.2.2
  res : r.1 = .ok ∨ r.1 = .diskErr ∧ ¬ s.drive.Works
  opened : r.1 = .ok → Opened g as cs bs r.2.1 r.2.2
  same : r.1 = .ok → ∃ s₂ clust k buf, s₂.winsect = sect ∧ s₂.win = s.view sect ∧
    r.2.1 = (validFil g mode dir fp s₂).moved
      (if mode &&& faSeekEnd ≠ 0 then ldDword (s.view sect) (dir + 28) else 0) clust false buf k
  content : r.1 = .ok → r.2.1.content g cs r.2.2 = stored g cs sect dir s

theorem reopen_spec (hg : g.Valid) {sect dir : Nat} (h : Listed g as cs bs sect dir s)
    (haway : s.winsect ∉ g.sectorsOf cs) (tm : Nat) {mode : UInt8}
    (hfound : openFound (mode &&& 0x3F) (s.view sect (dir + 11)) = .ok)
    (hkeep : mode &&& 0x3F &&& faCreateAlways = 0) (fp : Fil) :
    ∃ r, reopen g tm mode sect dir fp s = some r ∧
      Reopened g as cs bs (mode &&& 0x3F) sect dir fp s r := by
  obtain ⟨⟨res, s₂⟩, hmove⟩ : ∃ r, moveWindow g sect s = r := ⟨_, rfl⟩
  have hkept := kept_moveWindow hg h.sound h.lt
  have hres := moveWindow_res g sect s
  have hworks : s.drive.Works → (moveWindow g sect s).1 = .ok := moveWindow_works
  rw [hmove] at hkept hres hworks
  unfold reopen
  rw [hmove]
  have hleft := Set.subset_union_left (s := g.fatSectors) (t := {sect})
  have hright := Set.subset_union_right (s := g.fatSectors) (t := {sect})
  by_cases hok : res = .ok
  · subst hok
    obtain ⟨hlisted₂, hwinsect, hwin, hstored⟩ := h.moved hg haway hmove
    have hfound : openFound (mode &&& 0x3F) (s₂.win (dir + 11)) = .ok := by
      rw [hwin]
      exact hfound
    obtain ⟨r, hr, -, hopened⟩ := fOpen_spec hg hlisted₂ tm hfound hkeep fp
    simp only [ne_eq, not_true_eq_false, if_false]
    refine ⟨r, hr, (hkept.mono hright (le_refl _)).trans (hopened.kept.mono hleft (le_refl _)),
      hopened.res.imp_right (And.imp_right fun hfail hd => hfail (hkept.works hd)), hopened.opened,
      fun hok => ?_, fun hok => ?_⟩
    · obtain ⟨clust, k, buf, heq⟩ := hopened.same hok
      have hsize : (validFil g (mode &&& 0x3F) dir fp s₂).objsize = ldDword (s.view sect) (dir + 28) :=
        congrArg (ldDword · (dir + 28)) hwin
      rw [hsize] at heq
      exact ⟨s₂, clust, k, buf, hwinsect, hwin, heq⟩
    · rw [hopened.content hok, ← hstored, stored, s₂.view_winsect]
      rfl
  · simp only [ne_eq, hok, not_false_eq_true, if_true]
    exact ⟨_, rfl, hkept.mono hright (le_refl _), .inr ⟨hres.resolve_left hok, fun hd => hok (hworks hd)⟩,
      fun h => absurd h hok, fun h => absurd h hok, fun h => absurd h hok⟩

/-- A file that was written back is the same one on any later day. -/
theorem fSync_reopen (hg : g.Valid) (h : Opened g as cs bs fp s) (hdir : InDirectory g as bs fp.dirSect)
    (hattached : fp.attached = true) (herr : fp.err = .ok)
    (hsettled : fp.modified = false → Settled g cs fp s) {tm : Nat} (hok : (fSync g tm fp s).1 = .ok)
    {s₁ : Fs} (hmounted : s₁.Mounted g) (huntorn : s₁.Untorn g)
    (hdrive : s₁.drive.sectors = (fSync g tm fp s).2.2.drive.sectors) {mode : UInt8}
    (hmode : openFound (mode &&& 0x3F) (s.view fp.dirSect (fp.dirPtr + 11)) = .ok)
    (hkeep : mode &&& 0x3F &&& faCreateAlways = 0) (tm' : Nat) (fp₀ : Fil) :
    ∃ r, reopen g tm' mode fp.dirSect fp.dirPtr fp₀ s₁ = some r ∧
      (r.1 = .diskErr ∧ ¬ s₁.drive.Works ∨ r.1 = .ok ∧ Opened g as cs bs r.2.1 r.2.2 ∧
        r.2.1.content g cs r.2.2 = fp.content g cs s) := by
  obtain ⟨hlisted, hstored, hentry⟩ :=
    fSync_listed hg h hdir hattached herr hsettled hok hmounted huntorn hdrive
  have hfound : openFound (mode &&& 0x3F) (s₁.view fp.dirSect (fp.dirPtr + 11)) = .ok := by
    rw [hentry, (fSync_spec hg h hdir hattached tm).openFound hok]
    exact hmode
  obtain ⟨r, hr, hopened⟩ :=
    reopen_spec hg hlisted (hmounted.notMem hg h.clusters) tm' hfound hkeep fp₀
  exact ⟨r, hr, hopened.res.symm.imp_right fun hok =>
    ⟨hok, hopened.opened hok, (hopened.content hok).trans hstored⟩⟩

end Open

end GenLogger.Fat
