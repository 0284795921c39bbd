import GenLogger.Fat.File

/-!
# The sector of an open file

A `FIL` has a sector of its own in front of the drive (`Fil.held`), next to the window of the volume. Both
hold blocks of one drive, and neither may hide what the other has.

* `Owned` always holds of an object: its chain is one of the volume, its size is within, and the sector in
  its buffer is on the chain or none.
* `Cached` and `At` hold until a transfer fails: the buffer and the drive together have the bytes of the
  file, and the object is on the cluster and the sector of its pointer. An object with an error has only
  `Owned` (`Opened` is the three of them).
* A change in the table, in a directory or in another file keeps them (`Owned.of_kept`, `Owned.of_window`,
  `Cached.congr`).

Results:
* `flush_still`, `loadSector_still`: writing the sector back and loading another one change no byte of the
  file and nothing else; a failure keeps what was not written yet.
* `Entered.sector`, `clip_spec`: the sectors that a round is about.
* `At.advance`: the object behind a round.
-/

namespace GenLogger.Fat

open GenLogger.Lib

variable {g : Geometry}

/-- The sectors that a file with the chain `cs` has to do with. -/
def Geometry.own (g : Geometry) (cs : List Nat) : Set Nat := g.fatSectors ∪ g.sectorsOf cs

/-- The sector of the file as a block in front of the drive. -/
def Fil.held (fp : Fil) (s : Fs) : Held Nat Sector := ⟨s.drive.sectors, fp.sect, fp.buf, fp.dirty⟩

/-- The sectors as the file has them. -/
def Fil.view (fp : Fil) (s : Fs) : Nat → Sector := (fp.held s).view

/-- The file has the chain `cs`, between `as` and `bs`. -/
structure Owned (g : Geometry) (as : List (List Nat)) (cs : List Nat) (bs : List (List Nat)) (fp : Fil)
    (s : Fs) : Prop where
  sound : s.Sound g
  untorn : s.Untorn g
  forest : s.Forest g (as ++ cs :: bs)
  /-- The window is on no cluster but those of others. -/
  aside : g.database ≤ s.winsect → g.clusterOf s.winsect ∈ g.clusters →
    g.clusterOf s.winsect ∈ (as ++ bs).flatten
  sclust : fp.sclust = cs.headD 0
  sect : g.database ≤ fp.sect → fp.sect ∈ g.sectorsOf cs
  dirty : fp.dirty = true → fp.sect ∈ g.sectorsOf cs
  size : fp.objsize ≤ cs.length * g.csize * g.ssize
  mapped : ∀ tbl, fp.cltbl = some tbl → ∀ ofs, clmtClust g tbl ofs = cs[ofs / g.ssize / g.csize]?.getD 0

/-- A sector that is not dirty is what the drive has. -/
def Cached (g : Geometry) (cs : List Nat) (fp : Fil) (s : Fs) : Prop :=
  (fp.held s).Coherent (g.sectorsOf cs)ᶜ

/-- The file is where its pointer says. -/
structure At (g : Geometry) (cs : List Nat) (fp : Fil) : Prop where
  limit : fp.objsize < 0x100000000
  fptr : fp.fptr ≤ fp.objsize
  clust : 0 < fp.fptr → cs[(fp.fptr - 1) / g.ssize / g.csize]? = some fp.clust
  cache : fp.fptr % g.ssize ≠ 0 → fp.sect = g.sector cs (fp.fptr / g.ssize)

/-- The members that a transfer changes. -/
def Fil.hold (fp : Fil) (dirty : Bool) (buf : Sector) (sect : Nat) : Fil :=
  { fp with dirty := dirty, buf := buf, sect := sect }

/-- A transfer that leaves the file as it was. -/
structure Still (g : Geometry) (as : List (List Nat)) (cs : List Nat) (bs : List (List Nat)) (fp : Fil)
    (s : Fs) (r : FResult × Fil × Fs) : Prop where
  kept : Kept g (g.own cs) (g.own cs) s r.2.2
  owned : Owned g as cs bs r.2.1 r.2.2
  same : ∃ dirty buf sect, r.2.1 = fp.hold dirty buf sect
  res : r.1 = .ok ∨ r.1 = .diskErr ∧ ¬ s.drive.Works
  clean : fp.dirty = false → r.2.1.dirty = false
  cached : r.1 = .ok → Cached g cs fp s →
    Cached g cs r.2.1 r.2.2 ∧ Set.EqOn (r.2.1.view r.2.2) (fp.view s) (g.sectorsOf cs)

section Hold

variable {as bs : List (List Nat)} {cs : List Nat} {fp : Fil} {s : Fs}

namespace Owned

theorem clusters (h : Owned g as cs bs fp s) : ∀ c ∈ cs, c ∈ g.clusters :=
  fun _ => Lib.Forest.subset h.forest

theorem nodup (h : Owned g as cs bs fp s) : cs.Nodup := Lib.Forest.nodup_chain h.forest

theorem winsect (h : Owned g as cs bs fp s) : s.winsect ∉ g.sectorsOf cs := by
  rintro ⟨hlo, hmem⟩
  obtain ⟨k, hk, hck⟩ := List.mem_flatten.mp (h.aside hlo (h.clusters _ hmem))
  exact Lib.Forest.notMem h.forest hmem hk hck

/-- What is done to the sectors of the file does not concern its chain. -/
theorem of_kept (hg : g.Valid) (h : Owned g as cs bs fp s) {s' : Fs}
    (hkept : Kept g (g.sectorsOf cs) (g.sectorsOf cs) s s') (hwinsect : s'.winsect = s.winsect) :
    Owned g as cs bs fp s' where
  sound := hkept.sound
  untorn := hkept.untorn h.untorn
  forest := Lib.Forest.congr h.forest fun _ hc => cell_congr (hkept.entry hg
    (fun _ hk hown => (sectorsOf_notMem hg h.clusters hown).2.1 hk) (mem_clusters.mp hc).2)
  aside := hwinsect ▸ h.aside
  sclust := h.sclust
  sect := h.sect
  dirty := h.dirty
  size := h.size
  mapped := h.mapped

/-- Another sector is held. -/
theorem hold (h : Owned g as cs bs fp s) {dirty : Bool} {sect : Nat} (buf : Sector)
    (hsect : g.database ≤ sect → sect ∈ g.sectorsOf cs) (hdirty : dirty = true → sect ∈ g.sectorsOf cs) :
    Owned g as cs bs (fp.hold dirty buf sect) s :=
  ⟨h.sound, h.untorn, h.forest, h.aside, h.sclust, hsect, hdirty, h.size, h.mapped⟩

end Owned

theorem Still.refl (h : Owned g as cs bs fp s) : Still g as cs bs fp s (.ok, fp, s) where
  kept := .refl h.sound
  owned := h
  same := ⟨_, _, _, rfl⟩
  res := .inl rfl
  clean := id
  cached _ hcached := ⟨hcached, fun _ _ => rfl⟩

theorem Still.trans {fp' : Fil} {s' : Fs} {r : FResult × Fil × Fs}
    (h : Still g as cs bs fp s (.ok, fp', s')) (h' : Still g as cs bs fp' s' r) :
    Still g as cs bs fp s r where
  kept := h.kept.trans h'.kept
  owned := h'.owned
  same := by
    obtain ⟨_, _, _, heq⟩ := h.same
    obtain ⟨dirty, buf, sect, heq'⟩ := h'.same
    refine ⟨dirty, buf, sect, ?_⟩
    rw [heq', show fp' = _ from heq]
    rfl
  res := h'.res.imp_right (And.imp_right fun hfail hd => hfail (h.kept.works hd))
  clean hclean := h'.clean (h.clean hclean)
  cached hok hcached := by
    obtain ⟨hcached₁, hview₁⟩ := h.cached rfl hcached
    obtain ⟨hcached₂, hview₂⟩ := h'.cached hok hcached₁
    exact ⟨hcached₂, hview₂.trans hview₁⟩

theorem Kept.own {s' : Fs} (h : Kept g (g.sectorsOf cs) (g.sectorsOf cs) s s') :
    Kept g (g.own cs) (g.own cs) s s' :=
  h.mono Set.subset_union_right Set.subset_union_right

/-- Writing the sector back concerns no other one. -/
theorem flush_kept (hg : g.Valid) (h : Owned g as cs bs fp s) :
    Kept g (g.sectorsOf cs) (g.sectorsOf cs) s (flush fp s).2.2 ∧
      (flush fp s).2.2.winsect = s.winsect := by
  unfold flush
  by_cases hdirty : fp.dirty = true
  · rw [if_pos hdirty]
    have hrange : ∀ k, fp.sect ≤ k → k < fp.sect + 1 → k ∈ g.sectorsOf cs := by
      intro k hlo hhi
      obtain rfl : fp.sect = k := by omega
      exact h.dirty hdirty
    have hkept := kept_data hg h.sound h.winsect (fun _ => fp.buf) hrange
    by_cases hok : (s.drive.write (fun _ => fp.buf) fp.sect 1).1
    · simp only [hok, if_true]
      exact ⟨hkept, trivial⟩
    · simp only [hok]
      exact ⟨hkept, rfl⟩
  · rw [if_neg hdirty]
    exact ⟨.refl h.sound, rfl⟩

theorem flush_same (fp : Fil) (s : Fs) :
    ∃ dirty, (flush fp s).2.1 = fp.hold dirty fp.buf fp.sect := by
  unfold flush
  by_cases hdirty : fp.dirty = true
  · rw [if_pos hdirty]
    by_cases hok : (s.drive.write (fun _ => fp.buf) fp.sect 1).1
    · simp only [hok, if_true]
      exact ⟨false, rfl⟩
    · simp only [hok]
      exact ⟨fp.dirty, rfl⟩
  · rw [if_neg hdirty]
    exact ⟨fp.dirty, rfl⟩

/-- Where it fails, the object still has what it was to write. -/
theorem flush_view (h : Cached g cs fp s) :
    Cached g cs (flush fp s).2.1 (flush fp s).2.2 ∧
      Set.EqOn ((flush fp s).2.1.view (flush fp s).2.2) (fp.view s) (g.sectorsOf cs) := by
  unfold flush
  by_cases hdirty : fp.dirty = true
  · rw [if_pos hdirty]
    have hstore : ∀ k ∉ (∅ : Set Nat), k ≠ fp.sect →
        (s.drive.write (fun _ => fp.buf) fp.sect 1).2.sectors k = s.drive.sectors k :=
      fun k _ hne => Drive.sectors_write_of_notMem (by omega)
    by_cases hok : (s.drive.write (fun _ => fp.buf) fp.sect 1).1
    · simp only [hok, if_true]
      refine ⟨fun _ _ => ?_, ?_⟩
      · exact (Drive.sectors_write_of_ok hok _).trans (if_pos ⟨le_refl _, Nat.lt_succ_self _⟩)
      · have hview : Set.EqOn ((fp.hold false fp.buf fp.sect).view
            { s with drive := (s.drive.write (fun _ => fp.buf) fp.sect 1).2 }) (fp.view s) ∅ᶜ :=
          Held.view_stored rfl rfl hstore
        exact fun k _ => hview (Set.notMem_empty k)
    · simp only [hok]
      refine ⟨fun hclean => absurd (hdirty.symm.trans hclean) nofun, ?_⟩
      have hview : Set.EqOn (fp.view { s with
          drive := (s.drive.write (fun _ => fp.buf) fp.sect 1).2 }) (fp.view s) ∅ᶜ :=
        Held.view_stored rfl rfl hstore
      exact fun k _ => hview (Set.notMem_empty k)
  · rw [if_neg hdirty]
    exact ⟨h, fun _ _ => rfl⟩

/-- Writing the sector back. -/
theorem flush_still (hg : g.Valid) (h : Owned g as cs bs fp s) :
    Still g as cs bs fp s (flush fp s) ∧ ((flush fp s).1 = .ok → (flush fp s).2.1.dirty = false) := by
  have hview : Cached g cs fp s → Cached g cs (flush fp s).2.1 (flush fp s).2.2 ∧
      Set.EqOn ((flush fp s).2.1.view (flush fp s).2.2) (fp.view s) (g.sectorsOf cs) := flush_view
  obtain ⟨hkept, hwinsect⟩ := flush_kept hg h
  have howned := h.of_kept hg hkept hwinsect
  unfold flush at hview hkept howned ⊢
  by_cases hdirty : fp.dirty = true
  · rw [if_pos hdirty] at hview hkept howned ⊢
    by_cases hok : (s.drive.write (fun _ => fp.buf) fp.sect 1).1
    · simp only [hok, if_true] at hview hkept howned ⊢
      exact ⟨⟨hkept.own, howned.hold _ h.sect nofun, ⟨_, _, _, rfl⟩, .inl rfl, fun _ => rfl,
        fun _ => hview⟩, fun _ => trivial⟩
    · simp only [hok] at hview hkept howned ⊢
      exact ⟨⟨hkept.own, howned, ⟨_, _, _, rfl⟩, .inr ⟨rfl, fun hd => hok (hd.write _ _ _).1⟩, id, nofun⟩,
        nofun⟩
  · rw [if_neg hdirty]
    exact ⟨.refl h, fun _ => Bool.not_eq_true _ ▸ hdirty⟩

/-- The buffer of the object is not the window of the volume. -/
theorem wflag_flush (fp : Fil) (s : Fs) : (flush fp s).2.2.wflag = s.wflag := by
  unfold flush
  split
  · simp only
    split <;> rfl
  · rfl

theorem wflag_loadSector (sect : Nat) (fp : Fil) (s : Fs) : (loadSector sect fp s).2.2.wflag = s.wflag := by
  unfold loadSector
  split
  · simp only
    split_ifs <;> exact wflag_flush fp s
  · rfl

/-- The sector at the place where `f_read` and `f_lseek` need it. -/
theorem loadSector_still (hg : g.Valid) (h : Owned g as cs bs fp s) {sect : Nat}
    (hsect : sect ∈ g.sectorsOf cs) : Still g as cs bs fp s (loadSector sect fp s) ∧
      ((loadSector sect fp s).1 = .ok → (loadSector sect fp s).2.1.sect = sect) := by
  unfold loadSector
  by_cases hne : fp.sect ≠ sect
  · rw [if_pos hne]
    have hflush := flush_still hg h
    revert hflush
    generalize flush fp s = r
    rintro ⟨hstill, hclean⟩
    by_cases hok : r.1 = .ok
    · obtain ⟨res, fp', s'⟩ := r
      obtain rfl : res = .ok := hok
      have hclean' : fp'.dirty = false := hclean rfl
      have hkept := kept_disk_read hstill.owned.sound (g.sectorsOf cs) (g.sectorsOf cs)
      have howned := hstill.owned.of_kept hg hkept rfl
      by_cases hread : s'.drive.read.1
      · simp only [hread, if_true]
        refine ⟨hstill.trans ⟨hkept.own, howned.hold _ (fun _ => hsect) fun _ => hsect,
          ⟨fp'.dirty, _, _, rfl⟩, .inl rfl, id, fun _ hcached => ⟨fun _ _ => ?_, ?_⟩⟩, fun _ => rfl⟩
        · exact (congrFun (Drive.sectors_read s'.drive) sect).trans
            (congrFun (Drive.read_ok hread) sect).symm
        · have hview : Set.EqOn ((fp'.hold fp'.dirty (s'.drive.read.2.1 sect) sect).view
              { s' with drive := s'.drive.read.2.2 }) (fp'.view s') (g.sectorsOf cs)ᶜᶜ :=
            Held.view_fetched hcached hclean' (Drive.sectors_read s'.drive)
              (fun _ => congrFun (Drive.read_ok hread) sect)
          exact fun k hk => hview (not_not.mpr hk)
      · simp only [hread]
        refine ⟨hstill.trans ⟨hkept.own, howned.hold _ hstill.owned.sect hstill.owned.dirty,
          ⟨fp'.dirty, _, _, rfl⟩, .inr ⟨rfl, fun hd => hread hd.read.1⟩, id, nofun⟩, nofun⟩
    · simp only [if_pos hok]
      exact ⟨hstill, fun h => absurd h hok⟩
  · rw [if_neg hne]
    exact ⟨.refl h, fun _ => not_not.mp hne⟩

/-! ## The table and the file -/

/-- What the table does is not done to the sectors of the file. -/
theorem Owned.drive_of_table (hg : g.Valid) (h : Owned g as cs bs fp s) {written : Set Nat} {s' : Fs}
    (hkept : Kept g g.fatSectors written s s') :
    ∀ k ∈ g.sectorsOf cs, s'.drive.sectors k = s.drive.sectors k := by
  intro k hk
  obtain ⟨hshadow, hfat, -⟩ := sectorsOf_notMem hg h.clusters hk
  exact hkept.drive k hshadow hfat fun heq => h.winsect (heq ▸ hk)

/-- The window stays where it was, or comes to where the file has nothing. -/
theorem Owned.aside_of_kept (hg : g.Valid) (h : Owned g as cs bs fp s) {seen written : Set Nat} {s' : Fs}
    (hkept : Kept g seen written s s') (hseen : ∀ k ∈ seen, g.database ≤ k →
      g.clusterOf k ∈ g.clusters → g.clusterOf k ∈ (as ++ bs).flatten) (hlo : g.database ≤ s'.winsect)
    (hmem : g.clusterOf s'.winsect ∈ g.clusters) : g.clusterOf s'.winsect ∈ (as ++ bs).flatten := by
  have hone : ∀ c ∈ [g.clusterOf s'.winsect], c ∈ g.clusters := by
    intro c hc
    rwa [List.mem_singleton.mp hc]
  obtain ⟨hshadow, -, -⟩ := sectorsOf_notMem hg hone ⟨hlo, List.mem_singleton_self _⟩
  rcases hkept.winsect with heq | hmem' | hmem'
  · rw [heq] at hlo hmem ⊢
    exact h.aside hlo hmem
  · exact hseen _ hmem' hlo hmem
  · exact absurd hmem' hshadow

/-- The table has nothing of any file. -/
theorem aside_of_mem_fatSectors (hg : g.Valid) {others : List Nat} {k : Nat} (hk : k ∈ g.fatSectors)
    (hlo : g.database ≤ k) (hmem : g.clusterOf k ∈ g.clusters) : g.clusterOf k ∈ others := by
  have hone : ∀ c ∈ [g.clusterOf k], c ∈ g.clusters := by
    intro c hc
    rwa [List.mem_singleton.mp hc]
  exact absurd hk (sectorsOf_notMem hg hone ⟨hlo, List.mem_singleton_self _⟩).2.1

/-- What is done to other sectors than those of the table. -/
theorem Owned.of_window (hg : g.Valid) (h : Owned g as cs bs fp s) {seen written : Set Nat} {s' : Fs}
    (hkept : Kept g seen written s s') (hwritten : ∀ k ∈ g.fatSectors, k ∉ written)
    (hseen : ∀ k ∈ seen, g.database ≤ k → g.clusterOf k ∈ g.clusters →
      g.clusterOf k ∈ (as ++ bs).flatten) : Owned g as cs bs fp s' where
  sound := hkept.sound
  untorn := hkept.untorn h.untorn
  forest := Lib.Forest.congr h.forest fun _ hc =>
    cell_congr (hkept.entry hg hwritten (mem_clusters.mp hc).2)
  aside := h.aside_of_kept hg hkept hseen
  sclust := h.sclust
  sect := h.sect
  dirty := h.dirty
  size := h.size
  mapped := h.mapped

theorem Owned.of_get (hg : g.Valid) (h : Owned g as cs bs fp s) {s' : Fs}
    (hkept : Kept g g.fatSectors ∅ s s') : Owned g as cs bs fp s' :=
  h.of_window hg hkept g.notMem_empty fun _ => aside_of_mem_fatSectors hg

theorem Cached.congr {s' : Fs} (h : Cached g cs fp s)
    (hdrive : ∀ k ∈ g.sectorsOf cs, s'.drive.sectors k = s.drive.sectors k) :
    Cached g cs fp s' ∧ Set.EqOn (fp.view s') (fp.view s) (g.sectorsOf cs) := by
  refine ⟨fun hclean hkey => (hdrive _ (not_not.mp hkey)).trans (h hclean hkey), fun k hk => ?_⟩
  by_cases hkey : k = fp.sect
  · subst hkey
    exact ((fp.held s').view_key).trans ((fp.held s).view_key).symm
  · exact (Held.view_of_ne hkey).trans ((hdrive k hk).trans (Held.view_of_ne (h := fp.held s) hkey).symm)

/-! ## Positions -/

theorem csect_eq (hg : g.Valid) (fp : Fil) : csect g fp = fp.fptr / g.ssize % g.csize := by
  obtain ⟨k, hk⟩ := hg.csize
  rw [csect, hk, Nat.and_two_pow_sub_one_eq_mod]

/-- The one before `q`, in parts of `n`. -/
theorem pred_div {n q : Nat} (hq : 0 < q) :
    (q % n = 0 → (q - 1) / n + 1 = q / n) ∧ (q % n ≠ 0 → (q - 1) / n = q / n) := by
  obtain ⟨p, rfl⟩ := Nat.exists_eq_add_of_le' hq
  rw [Nat.add_sub_cancel, Nat.succ_div]
  constructor
  · intro h
    rw [if_pos (Nat.dvd_of_mod_eq_zero h)]
  · intro h
    rw [if_neg (mt Nat.mod_eq_zero_of_dvd h), Nat.add_zero]

/-- The file is at the cluster of its pointer. -/
def Entered (g : Geometry) (cs : List Nat) (fp : Fil) : Prop :=
  cs[fp.fptr / g.ssize / g.csize]? = some fp.clust

/-- Within a sector, and within a cluster, it is at the cluster of the byte before. -/
theorem At.entered (hg : g.Valid) (h : At g cs fp)
    (hin : fp.fptr % g.ssize ≠ 0 ∨ csect g fp ≠ 0) : Entered g cs fp := by
  have hpos : 0 < fp.fptr := by
    refine Nat.pos_of_ne_zero fun h0 => ?_
    rw [csect_eq hg, h0, Nat.zero_div, Nat.zero_mod, Nat.zero_mod] at hin
    exact hin.elim (absurd rfl) (absurd rfl)
  have hclust := h.clust hpos
  have hdiv := pred_div (n := g.ssize) hpos
  unfold Entered
  by_cases hmod : fp.fptr % g.ssize = 0
  · rw [csect_eq hg] at hin
    have hq := hin.resolve_left (not_not.mpr hmod)
    have hqpos : 0 < fp.fptr / g.ssize := Nat.pos_of_ne_zero fun h0 => by simp [h0] at hq
    rwa [← hdiv.1 hmod, ← (pred_div (by omega)).2 (by rwa [hdiv.1 hmod]),
      Nat.add_sub_cancel]
  · rwa [← hdiv.2 hmod]

/-- The pointer behind some bytes of one cluster. -/
theorem At.advance (hent : Entered g cs fp) {n : Nat} (hsame : (fp.fptr + n - 1) / g.ssize / g.csize =
      fp.fptr / g.ssize / g.csize) (hcache : (fp.fptr + n) % g.ssize ≠ 0 →
      fp.sect = g.sector cs ((fp.fptr + n) / g.ssize)) {objsize : Nat} (hlimit : objsize < 0x100000000)
    (hle : fp.fptr + n ≤ objsize) :
    At g cs { fp with fptr := fp.fptr + n, objsize := objsize } where
  limit := hlimit
  fptr := hle
  clust _ := hsame ▸ hent
  cache := hcache

/-- The bytes of one sector. -/
theorem within_sector {ss p n : Nat} (hn : 0 < n) (hle : n ≤ ss - p % ss) :
    (p + n - 1) / ss = p / ss ∧ ((p + n) % ss ≠ 0 → (p + n) / ss = p / ss) := by
  constructor
  · rw [Nat.add_sub_assoc hn]
    exact (div_mod_add (by omega)).1
  · intro hmod
    rcases Nat.lt_or_ge (p % ss + n) ss with hlt | hge
    · exact (div_mod_add hlt).1
    · -- the sector ends there
      have hsum : p + n = ss * (p / ss + 1) := by
        have hsplit := Nat.div_add_mod p ss
        rw [Nat.mul_succ]
        omega
      rw [hsum, Nat.mul_mod_right] at hmod
      exact absurd rfl hmod

/-- Whole sectors of one cluster. -/
theorem within_cluster (hg : g.Valid) {p cc : Nat} (hp : p % g.ssize = 0) (hcc : 0 < cc)
    (hfits : p / g.ssize % g.csize + cc ≤ g.csize) :
    (p + g.ssize * cc - 1) / g.ssize / g.csize = p / g.ssize / g.csize ∧
      (p + g.ssize * cc) % g.ssize = 0 := by
  have hss := hg.ssize_pos
  have hmod : (p + g.ssize * cc) % g.ssize = 0 := by rw [Nat.add_mul_mod_self_left, hp]
  have hpos : 0 < p + g.ssize * cc := by
    have hmul := Nat.mul_pos hss hcc
    omega
  have hdiv := (pred_div hpos).1 hmod
  rw [Nat.add_mul_div_left p cc hss] at hdiv
  have hpred : (p + g.ssize * cc - 1) / g.ssize = p / g.ssize + (cc - 1) := by omega
  refine ⟨?_, hmod⟩
  rw [hpred]
  exact (div_mod_add (by omega)).1

/-! ## Where it is -/

/-- What becomes of the object: where it is, and the sector it has. -/
def Fil.moved (fp : Fil) (fptr clust : Nat) (dirty : Bool) (buf : Sector) (sect : Nat) : Fil :=
  { fp with fptr := fptr, clust := clust, dirty := dirty, buf := buf, sect := sect }

theorem Owned.moved (h : Owned g as cs bs fp s) (fptr clust : Nat) (err : FResult) :
    Owned g as cs bs { fp with fptr := fptr, clust := clust, err := err } s :=
  ⟨h.sound, h.untorn, h.forest, h.aside, h.sclust, h.sect, h.dirty, h.size, h.mapped⟩

/-- A cluster and the next one of a chain. -/
theorem next_of_getElem? {t : Nat → Cell Nat} {l : List Nat} (h : Linked t l) {i c d : Nat}
    (hc : l[i]? = some c) (hd : l[i + 1]? = some d) : t c = .next d := by
  obtain ⟨hi, rfl⟩ := List.getElem?_eq_some_iff.mp hd
  obtain ⟨hi', rfl⟩ := List.getElem?_eq_some_iff.mp hc
  exact List.isChain_iff_getElem.mp h.links i hi

/-- The bytes of a file. -/
def Fil.bytes (g : Geometry) (cs : List Nat) (fp : Fil) (s : Fs) : Nat → UInt8 :=
  g.bytes cs (fp.view s)

theorem Owned.sect_lt (hg : g.Valid) (h : Owned g as cs bs fp s) : fp.sect < 0x100000000 := by
  by_cases hlo : g.database ≤ fp.sect
  · exact (sectorsOf_notMem hg h.clusters (h.sect hlo)).2.2
  · have hsectors := hg.sectors
    omega

/-- Whether the sector of the file is one of `cc` from the `q`-th on. -/
theorem Owned.dwordSub_lt (hg : g.Valid) (h : Owned g as cs bs fp s) {q cc : Nat} (hcc : 0 < cc)
    (hfits : q % g.csize + cc ≤ g.csize) (hlast : q + cc ≤ cs.length * g.csize) :
    dwordSub fp.sect (g.sector cs q) < cc ↔
      g.sector cs q ≤ fp.sect ∧ fp.sect < g.sector cs q + cc := by
  refine dwordSub_lt_iff (h.sect_lt hg) ?_
  have hend := sector_mem (q := q + (cc - 1)) hg h.clusters (by omega)
  have hlt := (sectorsOf_notMem hg h.clusters hend).2.2
  rw [sector_add (by omega)] at hlt
  omega

theorem Entered.sector (hg : g.Valid) (hcs : ∀ c ∈ cs, c ∈ g.clusters) (hent : Entered g cs fp) :
    clust2sect g fp.clust ≠ 0 ∧
      clust2sect g fp.clust + csect g fp = g.sector cs (fp.fptr / g.ssize) := by
  have hpos := hg.database_pos
  obtain ⟨hi, hc⟩ := List.getElem?_eq_some_iff.mp hent
  rw [clust2sect_eq hg (hcs _ (hc ▸ List.getElem_mem hi)), csect_eq hg, Geometry.sector,
    List.getD_eq_getElem _ _ hi, hc]
  exact ⟨by omega, rfl⟩

/-- As many sectors as there are in the cluster. -/
theorem clip_spec (hg : g.Valid) (hent : Entered g cs fp) {cc : Nat} (hcc : 0 < cc) :
    0 < clip g (csect g fp) cc ∧ clip g (csect g fp) cc ≤ cc ∧
      fp.fptr / g.ssize % g.csize + clip g (csect g fp) cc ≤ g.csize ∧
      fp.fptr / g.ssize + clip g (csect g fp) cc ≤ cs.length * g.csize := by
  obtain ⟨hi, -⟩ := List.getElem?_eq_some_iff.mp hent
  have hlt := Nat.mod_lt (fp.fptr / g.ssize) hg.csize_pos
  have hmul := Nat.mul_le_mul_right g.csize (Nat.succ_le_of_lt hi)
  have hsplit := Nat.div_add_mod (fp.fptr / g.ssize) g.csize
  rw [Nat.succ_mul, Nat.mul_comm] at hmul
  rw [csect_eq hg, clip]
  split <;> omega

/-- A file that is open: it has its chain, and until a transfer fails, it knows where it is. -/
structure Opened (g : Geometry) (as : List (List Nat)) (cs : List Nat) (bs : List (List Nat)) (fp : Fil)
    (s : Fs) : Prop extends Owned g as cs bs fp s where
  cached : fp.err = .ok → Cached g cs fp s
  place : fp.err = .ok → At g cs fp

end Hold

end GenLogger.Fat
