import GenLogger.Fat.FileCache

/-!
# What `f_read` gives

The bytes of the file from its pointer on, also where they are in no sector of the drive yet, and no
change to the file or to anything else. A failure of the drive is the only one there is.

* A round gets a part of a sector from the buffer, or whole sectors from the drive with the newer one of
  the buffer put over them (`readStep`).
* The bytes that were got before a failure are given to the caller.

Results:
* `readStep_spec`, `readLoop_spec`: a round, and all of them.
* `fRead_spec`: the call, for every number of bytes.
* `wflag_fRead`: it leaves nothing to be written in the window.
-/

namespace GenLogger.Fat

open GenLogger.Lib

variable {g : Geometry} {as bs : List (List Nat)} {cs : List Nat} {fp : Fil} {s : Fs}

/-! ## A round -/

/-- The object at the cluster of its pointer, for a round of `f_read`. -/
structure EnteredRead (g : Geometry) (as : List (List Nat)) (cs : List Nat) (bs : List (List Nat))
    (fp : Fil) (s : Fs) (r : FResult × Fil × Fs) : Prop where
  kept : Kept g g.fatSectors ∅ s r.2.2
  owned : Owned g as cs bs r.2.1 r.2.2
  same : ∃ clust, r.2.1 = { fp with clust := clust }
  res : r.1 = .ok ∨ r.1 = .diskErr ∧ ¬ s.drive.Works
  entered : r.1 = .ok → Entered g cs r.2.1

/-- Where there is something to read, there is a cluster. -/
theorem Owned.cluster_at (hg : g.Valid) (h : Owned g as cs bs fp s) (hlt : fp.fptr < fp.objsize) :
    ∃ c ∈ g.clusters, cs[fp.fptr / g.ssize / g.csize]? = some c := by
  have hsize := h.size
  have hq : fp.fptr / g.ssize < cs.length * g.csize :=
    (Nat.div_lt_iff_lt_mul hg.ssize_pos).mpr (hlt.trans_le hsize)
  have hi := div_csize_lt hq
  exact ⟨_, h.clusters _ (List.getElem_mem hi), List.getElem?_eq_getElem hi⟩

theorem enterRead_spec (hg : g.Valid) (h : Owned g as cs bs fp s) (hat : At g cs fp)
    (hlt : fp.fptr < fp.objsize) (hmod : fp.fptr % g.ssize = 0) :
    EnteredRead g as cs bs fp s (enterRead g fp s) := by
  obtain ⟨c, hc, hnext⟩ := h.cluster_at hg hlt
  obtain ⟨h2, hcn⟩ := mem_clusters.mp hc
  have hfail : c ≠ 0xFFFFFFFF := fun heq => notMem_clusters_fail hg (heq ▸ hc)
  unfold enterRead
  by_cases hin : csect g fp = 0
  · rw [if_pos hin]
    -- what `f_read` goes on with is the next cluster, or the drive failed
    have hclust : Kept g g.fatSectors ∅ s (readClust g fp s).2 ∧
        ((readClust g fp s).1 = c ∨ (readClust g fp s).1 = 0xFFFFFFFF ∧ ¬ s.drive.Works) := by
      unfold readClust
      by_cases h0 : fp.fptr = 0
      · rw [if_pos h0]
        refine ⟨.refl h.sound, .inl ?_⟩
        rw [h0, Nat.zero_div, Nat.zero_div] at hnext
        rw [h.sclust, List.headD_eq_head?_getD, List.head?_eq_getElem?, hnext, Option.getD_some]
      · rw [if_neg h0]
        have hpos := Nat.pos_of_ne_zero h0
        cases htbl : fp.cltbl with
        | some tbl =>
          refine ⟨.refl h.sound, .inl ?_⟩
          show clmtClust g tbl fp.fptr = c
          rw [h.mapped tbl htbl, hnext, Option.getD_some]
        | none =>
          have hcur := hat.clust hpos
          have hqpos : 0 < fp.fptr / g.ssize := by
            rw [← (pred_div hpos).1 hmod]
            exact Nat.succ_pos _
          have hprev : (fp.fptr - 1) / g.ssize = fp.fptr / g.ssize - 1 := by
            rw [← (pred_div hpos).1 hmod, Nat.add_sub_cancel]
          rw [csect_eq hg] at hin
          rw [hprev] at hcur
          rw [← (pred_div hqpos).1 hin] at hnext
          have hlink := next_of_getElem? (Lib.Forest.chain h.forest) hcur hnext
          have hcl := h.clusters _ (List.mem_of_getElem? hcur)
          have hget := getFat_spec hg h.sound (mem_clusters.mp hcl).1 (mem_clusters.mp hcl).2
          have hentry := (entry_of_next hlink).1
          refine ⟨hget.kept, ?_⟩
          rcases hget.val with hbad | hval
          · refine .inr ⟨hbad, fun hd => ?_⟩
            exact entry_ne_fail g _ _ ((hget.works hd).symm.trans hbad)
          · exact .inl (hval.trans hentry)
    revert hclust
    generalize readClust g fp s = r
    rintro ⟨hkept, hval | ⟨hbad, hworks⟩⟩
    · simp only [hval, if_neg (Nat.not_lt.mpr h2), if_neg hfail]
      exact ⟨hkept, (h.of_get hg hkept).moved _ _ _, ⟨c, rfl⟩, .inl rfl, fun _ => hnext⟩
    · simp only [hbad]
      exact ⟨hkept, h.of_get hg hkept, ⟨_, rfl⟩, .inr ⟨rfl, hworks⟩, nofun⟩
  · rw [if_neg hin]
    exact ⟨.refl h.sound, h, ⟨_, rfl⟩, .inl rfl, fun _ => hat.entered hg (.inr hin)⟩

/-- A round of `f_read`, or all of them. -/
structure GotBytes (g : Geometry) (as : List (List Nat)) (cs : List Nat) (bs : List (List Nat))
    (fp : Fil) (s : Fs) (r : FResult × List UInt8 × Fil × Fs) : Prop where
  kept : Kept g (g.own cs) (g.own cs) s r.2.2.2
  owned : Owned g as cs bs r.2.2.1 r.2.2.2
  same : ∃ fptr clust dirty buf sect, r.2.2.1 = fp.moved fptr clust dirty buf sect
  res : r.1 = .ok ∨ r.1 = .diskErr ∧ ¬ s.drive.Works
  clean : fp.dirty = false → r.2.2.1.dirty = false
  got : r.1 = .ok → r.2.1 = chunk (fp.bytes g cs s) fp.fptr r.2.1.length
  cached : r.1 = .ok → Cached g cs r.2.2.1 r.2.2.2 ∧
    Set.EqOn (r.2.2.1.view r.2.2.2) (fp.view s) (g.sectorsOf cs)

/-- Whole sectors, one of which may be in the buffer. -/
theorem readDirect_spec (hg : g.Valid) (h : Owned g as cs bs fp s) (hcached : Cached g cs fp s)
    {cc : Nat} (hcc : 0 < cc) (hmod : fp.fptr % g.ssize = 0)
    (hfits : fp.fptr / g.ssize % g.csize + cc ≤ g.csize)
    (hlast : fp.fptr / g.ssize + cc ≤ cs.length * g.csize) :
    GotBytes g as cs bs fp s (readDirect g (g.sector cs (fp.fptr / g.ssize)) cc fp s) ∧
      ((readDirect g (g.sector cs (fp.fptr / g.ssize)) cc fp s).1 = .ok →
        (readDirect g (g.sector cs (fp.fptr / g.ssize)) cc fp s).2.1.length = g.ssize * cc) ∧
      (readDirect g (g.sector cs (fp.fptr / g.ssize)) cc fp s).2.2.1 = fp := by
  have hkept := kept_disk_read h.sound (g.sectorsOf cs) (g.sectorsOf cs)
  have howned := h.of_kept hg hkept rfl
  have hstay : Cached g cs fp { s with drive := s.drive.read.2.2 } ∧
      Set.EqOn (fp.view { s with drive := s.drive.read.2.2 }) (fp.view s) (g.sectorsOf cs) :=
    hcached.congr fun k _ => congrFun (Drive.sectors_read s.drive) k
  unfold readDirect
  by_cases hok : s.drive.read.1
  · simp only [hok, if_true]
    refine ⟨⟨hkept.own, howned, ⟨_, _, _, _, _, rfl⟩, .inl rfl, id, fun _ => ?_, fun _ => hstay⟩,
      fun _ => length_chunk .., trivial⟩
    simp only [length_chunk]
    have hrange := h.dwordSub_lt hg hcc hfits hlast
    have hbuffer : ∀ k, g.sector cs (fp.fptr / g.ssize) ≤ k →
        k < g.sector cs (fp.fptr / g.ssize) + cc →
        (if fp.dirty = true ∧ dwordSub fp.sect (g.sector cs (fp.fptr / g.ssize)) < cc then
          Function.update s.drive.read.2.1 fp.sect fp.buf else s.drive.read.2.1) k = fp.view s k := by
      intro k hlo hhi
      have hread := congrFun (Drive.read_ok hok) k
      by_cases hkey : k = fp.sect
      · subst hkey
        rw [show fp.view s fp.sect = fp.buf from (fp.held s).view_key]
        split
        · rw [Function.update_self]
        · next hclean =>
          have hnot : fp.dirty = false := by
            rw [hrange] at hclean
            exact Bool.eq_false_iff.mpr fun hdirty => hclean ⟨hdirty, hlo, hhi⟩
          refine hread.trans (hcached hnot (not_not.mpr (h.sect ?_)))
          unfold Geometry.sector at hlo
          omega
      · rw [show fp.view s k = s.drive.sectors k from Held.view_of_ne hkey]
        split
        · rw [Function.update_of_ne hkey, hread]
        · exact hread
    refine chunk_eq_chunk fun i hi => ?_
    have hdiv : i / g.ssize < cc := Nat.div_lt_of_lt_mul hi
    have hptr : fp.fptr + i = g.ssize * (fp.fptr / g.ssize) + i := by
      have hsplit := Nat.div_add_mod fp.fptr g.ssize
      omega
    rw [Nat.zero_add, hbuffer _ (Nat.le_add_right _ _) (by omega), Fil.bytes, Geometry.bytes, hptr,
      Nat.mul_add_div hg.ssize_pos, Nat.mul_add_mod, sector_add (by omega)]
  · simp only [hok]
    exact ⟨⟨hkept.own, howned, ⟨_, _, _, _, _, rfl⟩, .inr ⟨rfl, fun hd => hok hd.read.1⟩, id, nofun,
      nofun⟩,
      nofun, rfl⟩

theorem readBuffer_eq (hsect : fp.sect = g.sector cs (fp.fptr / g.ssize)) (btr : Nat) :
    readBuffer g btr fp = chunk (fp.bytes g cs s) fp.fptr (min (g.ssize - fp.fptr % g.ssize) btr) := by
  refine chunk_eq_chunk fun i hi => ?_
  obtain ⟨hdiv, hmod⟩ := div_mod_add (show fp.fptr % g.ssize + i < g.ssize by omega)
  rw [Fil.bytes, Geometry.bytes, hdiv, hmod, ← hsect]
  exact congrFun (fp.held s).view_key.symm _

/-- A round of `f_read` gets something, and leaves the object behind it. -/
structure ReadRound (g : Geometry) (as : List (List Nat)) (cs : List Nat) (bs : List (List Nat))
    (btr : Nat) (fp : Fil) (s : Fs) (r : FResult × List UInt8 × Fil × Fs) : Prop
    extends GotBytes g as cs bs fp s r where
  fptr : r.2.2.1.fptr = fp.fptr
  pos : r.1 = .ok → 0 < r.2.1.length
  le : r.1 = .ok → r.2.1.length ≤ btr
  at_end : r.1 = .ok → At g cs { r.2.2.1 with fptr := fp.fptr + r.2.1.length }

/-- The bytes in the buffer, once it has the sector. -/
theorem ReadRound.of_buffer (hg : g.Valid) {btr : Nat} (hat : At g cs fp) (hbtr : 0 < btr)
    (hle : fp.fptr + btr ≤ fp.objsize) {clust : Nat} {dirty : Bool} {buf : Sector} {sect : Nat} {s' : Fs}
    (hkept : Kept g (g.own cs) (g.own cs) s s')
    (howned : Owned g as cs bs (fp.moved fp.fptr clust dirty buf sect) s')
    (hcached : Cached g cs (fp.moved fp.fptr clust dirty buf sect) s')
    (hview : Set.EqOn ((fp.moved fp.fptr clust dirty buf sect).view s') (fp.view s) (g.sectorsOf cs))
    (hent : Entered g cs (fp.moved fp.fptr clust dirty buf sect))
    (hclean : fp.dirty = false → dirty = false) (hsect : sect = g.sector cs (fp.fptr / g.ssize)) :
    ReadRound g as cs bs btr fp s (.ok, readBuffer g btr (fp.moved fp.fptr clust dirty buf sect),
      fp.moved fp.fptr clust dirty buf sect, s') := by
  have hmod := Nat.mod_lt fp.fptr hg.ssize_pos
  have heq : readBuffer g btr (fp.moved fp.fptr clust dirty buf sect) =
      chunk ((fp.moved fp.fptr clust dirty buf sect).bytes g cs s') fp.fptr
        (min (g.ssize - fp.fptr % g.ssize) btr) := readBuffer_eq hsect btr
  have hlength : (readBuffer g btr (fp.moved fp.fptr clust dirty buf sect)).length =
      min (g.ssize - fp.fptr % g.ssize) btr := length_chunk ..
  have hn : 0 < min (g.ssize - fp.fptr % g.ssize) btr := by omega
  obtain ⟨hsame, hcache⟩ := within_sector hn (Nat.min_le_left _ _)
  refine ⟨⟨hkept, howned, ⟨_, _, _, _, _, rfl⟩, .inl rfl, hclean, fun _ => ?_,
    fun _ => ⟨hcached, hview⟩⟩, rfl,
    fun _ => by simp only [hlength]; omega, fun _ => by simp only [hlength]; omega, fun _ => ?_⟩
  · simp only [hlength]
    rw [heq]
    refine chunk_congr fun k _ hk => bytes_congr hg howned.clusters hview ?_
    exact Nat.lt_of_lt_of_le (by omega) (hle.trans howned.size)
  · simp only [hlength]
    refine At.advance hent (by rw [show (fp.moved fp.fptr clust dirty buf sect).fptr = fp.fptr from rfl,
      hsame]) (fun hne => ?_) hat.limit (by
        change fp.fptr + _ ≤ fp.objsize
        omega)
    exact hsect.trans (congrArg _ (hcache hne).symm)

theorem ReadRound.of_fail {btr : Nat} {res : FResult} {clust : Nat} {dirty : Bool} {buf : Sector}
    {sect : Nat} {s' : Fs} (hkept : Kept g (g.own cs) (g.own cs) s s')
    (howned : Owned g as cs bs (fp.moved fp.fptr clust dirty buf sect) s')
    (hclean : fp.dirty = false → dirty = false) (hres : res ≠ .ok)
    (hfail : res = .diskErr ∧ ¬ s.drive.Works) :
    ReadRound g as cs bs btr fp s (res, [], fp.moved fp.fptr clust dirty buf sect, s') :=
  ⟨⟨hkept, howned, ⟨_, _, _, _, _, rfl⟩, .inr hfail, hclean, fun h => absurd h hres,
    fun h => absurd h hres⟩, rfl, fun h => absurd h hres, fun h => absurd h hres, fun h => absurd h hres⟩

/-- Whole sectors, once the cluster is known. -/
theorem ReadRound.of_direct (hg : g.Valid) {btr : Nat} (hat : At g cs fp)
    (hle : fp.fptr + btr ≤ fp.objsize) {clust cc : Nat} {s' : Fs}
    (hkept : Kept g (g.own cs) (g.own cs) s s')
    (howned : Owned g as cs bs { fp with clust := clust } s')
    (hcached : Cached g cs { fp with clust := clust } s')
    (hview : Set.EqOn (fp.view s') (fp.view s) (g.sectorsOf cs)) (hmod : fp.fptr % g.ssize = 0)
    (hent : Entered g cs { fp with clust := clust }) (hcc : 0 < cc) (hbtr : cc ≤ btr / g.ssize)
    (hfits : fp.fptr / g.ssize % g.csize + cc ≤ g.csize)
    (hlast : fp.fptr / g.ssize + cc ≤ cs.length * g.csize) :
    ReadRound g as cs bs btr fp s
      (readDirect g (g.sector cs (fp.fptr / g.ssize)) cc { fp with clust := clust } s') := by
  obtain ⟨hgot, hlength, hfp⟩ := readDirect_spec hg howned hcached hcc hmod hfits hlast
  have hmul : g.ssize * cc ≤ btr := by
    rw [Nat.mul_comm]
    exact (Nat.le_div_iff_mul_le hg.ssize_pos).mp hbtr
  have hpos := Nat.mul_pos hg.ssize_pos hcc
  revert hgot hlength hfp
  generalize readDirect g _ cc _ s' = r
  intro hgot hlength hfp
  obtain ⟨res, got, fp', s''⟩ := r
  obtain rfl : fp' = { fp with clust := clust } := hfp
  refine ⟨⟨hkept.trans hgot.kept, hgot.owned, ⟨_, _, _, _, _, rfl⟩, ?_, id, fun hok => ?_, fun hok => ?_⟩,
    rfl, fun hok => hlength hok ▸ hpos, fun hok => hlength hok ▸ hmul, fun hok => ?_⟩
  · exact hgot.res.imp_right (And.imp_right fun hfail hd => hfail (hkept.works hd))
  · refine (hgot.got hok).trans (chunk_congr fun k _ hk => bytes_congr hg howned.clusters hview ?_)
    rw [hlength hok] at hk
    exact Nat.lt_of_lt_of_le hk (Nat.le_trans (by
      change fp.fptr + _ ≤ fp.objsize
      omega) howned.size)
  · obtain ⟨hcached', hview'⟩ := hgot.cached hok
    exact ⟨hcached', hview'.trans hview⟩
  · obtain ⟨hsame, hmod'⟩ := within_cluster hg hmod hcc hfits
    rw [hlength hok]
    exact At.advance hent hsame (fun hne => absurd hmod' hne) hat.limit (by
      change fp.fptr + _ ≤ fp.objsize
      omega)

theorem readStep_spec (hg : g.Valid) (h : Owned g as cs bs fp s) (hcached : Cached g cs fp s)
    (hat : At g cs fp) {btr : Nat} (hbtr : 0 < btr) (hle : fp.fptr + btr ≤ fp.objsize) :
    ReadRound g as cs bs btr fp s (readStep g btr fp s) := by
  unfold readStep
  by_cases hmod : fp.fptr % g.ssize = 0
  · rw [if_pos hmod]
    have henter := enterRead_spec hg h hat (by omega) hmod
    revert henter
    generalize enterRead g fp s = r
    obtain ⟨res, fp₁, s₁⟩ := r
    intro henter
    have hkept₁ : Kept g (g.own cs) (g.own cs) s s₁ :=
      henter.kept.mono Set.subset_union_left (Set.empty_subset _)
    obtain ⟨clust, rfl⟩ : ∃ clust, fp₁ = { fp with clust := clust } := henter.same
    obtain ⟨hcached₁, hview₁⟩ := hcached.congr (h.drive_of_table hg henter.kept)
    have hcached₁ : Cached g cs { fp with clust := clust } s₁ := hcached₁
    by_cases hok : res = .ok
    · subst hok
      have hent : Entered g cs { fp with clust := clust } := henter.entered rfl
      obtain ⟨hne, hsector⟩ := hent.sector hg h.clusters
      have hsector : clust2sect g clust + csect g { fp with clust := clust } =
        g.sector cs (fp.fptr / g.ssize) := hsector
      have hne : clust2sect g clust ≠ 0 := hne
      simp only [ne_eq, not_true_eq_false, if_false, hne]
      rw [hsector]
      by_cases hcc : btr / g.ssize = 0
      · -- the rest is in one sector
        rw [if_neg (not_not.mpr hcc)]
        obtain ⟨hi, -⟩ := List.getElem?_eq_some_iff.mp hent
        have hq : fp.fptr / g.ssize < cs.length * g.csize :=
          (Nat.div_lt_iff_lt_mul hg.csize_pos).mp hi
        obtain ⟨hload, hsect⟩ := loadSector_still hg henter.owned (sector_mem hg h.clusters hq)
        revert hload hsect
        simp only
        generalize loadSector (g.sector cs (fp.fptr / g.ssize)) { fp with clust := clust } s₁ = r
        obtain ⟨res₂, fp₂, s₂⟩ := r
        intro hload hsect
        obtain ⟨dirty, buf, sect, rfl⟩ : ∃ dirty buf sect,
          fp₂ = Fil.hold { fp with clust := clust } dirty buf sect := hload.same
        have hkept₂ := hkept₁.trans hload.kept
        by_cases hok₂ : res₂ = .ok
        · subst hok₂
          obtain ⟨hcached₂, hview₂⟩ := hload.cached rfl hcached₁
          exact ReadRound.of_buffer hg hat hbtr hle hkept₂ hload.owned hcached₂ (hview₂.trans hview₁)
            hent hload.clean (hsect rfl)
        · have hfail := hload.res.resolve_left hok₂
          rw [if_pos hok₂]
          exact ReadRound.of_fail hkept₂ hload.owned hload.clean hok₂
            ⟨hfail.1, fun hd => hfail.2 (hkept₁.works hd)⟩
      · rw [if_pos hcc]
        obtain ⟨hpos, hclip, hfits, hlast⟩ := clip_spec hg hent (Nat.pos_of_ne_zero hcc)
        exact ReadRound.of_direct hg hat hle hkept₁ henter.owned hcached₁ hview₁ hmod hent hpos hclip
          hfits hlast
    · have hfail := henter.res.resolve_left hok
      simp only [ne_eq, hok, not_false_eq_true, if_true]
      exact ReadRound.of_fail hkept₁ henter.owned id hok hfail
  · rw [if_neg hmod]
    exact ReadRound.of_buffer hg hat hbtr hle (.refl h.sound) h hcached (fun _ _ => rfl)
      (hat.entered hg (.inl hmod)) id (hat.cache hmod)

/-! ## All rounds -/

/-- What `f_read` makes of an object: `n` bytes of `btr` are read, all of them unless the drive fails,
which the object then remembers. -/
structure ReadDone (g : Geometry) (as : List (List Nat)) (cs : List Nat) (bs : List (List Nat))
    (rbuff : List UInt8) (btr : Nat) (fp : Fil) (s : Fs) (r : FResult × List UInt8 × Fil × Fs) :
    Prop where
  kept : Kept g (g.own cs) (g.own cs) s r.2.2.2
  owned : Owned g as cs bs r.2.2.1 r.2.2.2
  same : ∃ clust dirty buf sect err,
    r.2.2.1 = { fp.moved r.2.2.1.fptr clust dirty buf sect with err := err }
  res : r.1 = .ok ∨ r.1 = .diskErr ∧ ¬ s.drive.Works
  err : r.2.2.1.err = if r.1 = .ok then fp.err else r.1
  clean : fp.dirty = false → r.2.2.1.dirty = false
  got : ∃ n ≤ btr, r.2.1 = rbuff ++ chunk (fp.bytes g cs s) fp.fptr n ∧
    r.2.2.1.fptr = fp.fptr + n ∧ (r.1 = .ok → n = btr)
  after : r.1 = .ok → Cached g cs r.2.2.1 r.2.2.2 ∧ At g cs r.2.2.1 ∧
    Set.EqOn (r.2.2.1.view r.2.2.2) (fp.view s) (g.sectorsOf cs)

theorem readLoop_spec (hg : g.Valid) {fuel btr : Nat} {rbuff : List UInt8} {fp : Fil} {s : Fs}
    (h : Owned g as cs bs fp s) (hcached : Cached g cs fp s) (hat : At g cs fp)
    (hle : fp.fptr + btr ≤ fp.objsize) (hfuel : btr < fuel) :
    ∃ r, readLoop g fuel btr rbuff fp s = some r ∧ ReadDone g as cs bs rbuff btr fp s r := by
  induction fuel generalizing btr rbuff fp s with
  | zero => exact absurd hfuel btr.not_lt_zero
  | succ fuel ih =>
    rw [readLoop]
    by_cases h0 : btr = 0
    · rw [if_pos h0]
      exact ⟨_, rfl, .refl h.sound, h, ⟨_, _, _, _, _, rfl⟩, .inl rfl, rfl, id,
        ⟨0, Nat.zero_le _, (List.append_nil _).symm, rfl, fun _ => h0.symm⟩,
        fun _ => ⟨hcached, hat, fun _ _ => rfl⟩⟩
    · rw [if_neg h0]
      have hround := readStep_spec hg h hcached hat (Nat.pos_of_ne_zero h0) hle
      revert hround
      generalize readStep g btr fp s = r
      obtain ⟨res, got, fp₁, s₁⟩ := r
      intro hround
      obtain ⟨fptr, clust, dirty, buf, sect, rfl⟩ : ∃ fptr clust dirty buf sect,
        fp₁ = fp.moved fptr clust dirty buf sect := hround.same
      obtain rfl : fptr = fp.fptr := hround.fptr
      by_cases hok : res = .ok
      · subst hok
        have hpos : 0 < got.length := hround.pos rfl
        have hgot_le : got.length ≤ btr := hround.le rfl
        have hgot : got = chunk (fp.bytes g cs s) fp.fptr got.length := hround.got rfl
        obtain ⟨hcached₁, hview₁⟩ := hround.cached rfl
        simp only [ne_eq, not_true_eq_false, if_false]
        obtain ⟨r, hr, hdone⟩ := ih (hround.owned.moved (fp.fptr + got.length) clust fp.err) hcached₁
          (hround.at_end rfl)
          (by
            change fp.fptr + got.length + (btr - got.length) ≤ fp.objsize
            omega) (by omega)
        have hkept : Kept g (g.own cs) (g.own cs) s s₁ := hround.kept
        refine ⟨r, hr, hkept.trans hdone.kept, hdone.owned, ?_, ?_, hdone.err,
          fun hclean => hdone.clean (hround.clean hclean), ?_, fun hok => ?_⟩
        · obtain ⟨clust, dirty, buf, sect, err, heq⟩ := hdone.same
          exact ⟨clust, dirty, buf, sect, err, heq⟩
        · exact hdone.res.imp_right (And.imp_right fun hfail hd => hfail (hkept.works hd))
        · obtain ⟨n, hn, hlist, hptr, hall⟩ := hdone.got
          refine ⟨got.length + n, by omega, ?_, hptr.trans (Nat.add_assoc _ _ _), fun hok => ?_⟩
          · have hrest : chunk (Fil.bytes g cs (fp.moved (fp.fptr + got.length) clust dirty buf sect) s₁)
                (fp.fptr + got.length) n = chunk (fp.bytes g cs s) (fp.fptr + got.length) n := by
              refine chunk_congr fun k _ hk => bytes_congr hg h.clusters hview₁ ?_
              exact Nat.lt_of_lt_of_le (by omega) (hle.trans h.size)
            rw [chunk_add, ← hgot, ← hrest, ← List.append_assoc]
            exact hlist
          · have hn' := hall hok
            omega
        · obtain ⟨hcached₂, hat₂, hview₂⟩ := hdone.after hok
          exact ⟨hcached₂, hat₂, hview₂.trans hview₁⟩
      · simp only [ne_eq, hok, not_false_eq_true, if_true]
        refine ⟨_, rfl, hround.kept, hround.owned.moved _ _ _, ⟨_, _, _, _, _, rfl⟩, hround.res,
          (if_neg hok).symm, hround.clean,
          ⟨0, Nat.zero_le _, (List.append_nil _).symm, rfl, fun h => absurd h hok⟩,
          fun h => absurd h hok⟩

/-- What is read is not to be written back. -/
theorem wflag_readStep (btr : Nat) (fp : Fil) {s : Fs} (hclean : s.wflag = false) :
    (readStep g btr fp s).2.2.2.wflag = false := by
  have henter : (enterRead g fp s).2.2.wflag = false := by
    have hclust : (readClust g fp s).2.wflag = false := by
      unfold readClust
      split
      · exact hclean
      · split
        · exact hclean
        · exact wflag_getFat fp.clust hclean
    unfold enterRead
    split
    · simp only
      split_ifs <;> exact hclust
    · exact hclean
  have hdirect : ∀ (sect cc : Nat) (fp : Fil) (s : Fs),
      (readDirect g sect cc fp s).2.2.2.wflag = s.wflag := by
    intro sect cc fp s
    unfold readDirect
    simp only
    split <;> rfl
  have hload : ∀ (sect : Nat) (fp : Fil) (s : Fs), (loadSector sect fp s).2.2.wflag = s.wflag :=
    wflag_loadSector
  unfold readStep
  split
  · simp only
    split
    · exact henter
    · split
      · exact henter
      · split
        · exact (hdirect ..).trans henter
        · split <;> exact (hload ..).trans henter
  · exact hclean

theorem wflag_readLoop {fuel btr : Nat} {rbuff : List UInt8} {fp : Fil} {s : Fs}
    {r : FResult × List UInt8 × Fil × Fs} (hclean : s.wflag = false)
    (hr : readLoop g fuel btr rbuff fp s = some r) : r.2.2.2.wflag = false := by
  induction fuel generalizing btr rbuff fp s with
  | zero => cases hr
  | succ fuel ih =>
    have hstep := wflag_readStep (g := g) btr fp hclean
    rw [readLoop] at hr
    simp only at hr
    split at hr
    · exact Option.some.inj hr ▸ hclean
    · split at hr
      · exact Option.some.inj hr ▸ hstep
      · exact ih hstep hr

theorem wflag_fRead {btr : Nat} {fp : Fil} {s : Fs} {r : FResult × List UInt8 × Fil × Fs}
    (hclean : s.wflag = false) (hr : fRead g btr fp s = some r) : r.2.2.2.wflag = false := by
  unfold fRead at hr
  split at hr
  · exact Option.some.inj hr ▸ hclean
  · split at hr
    · exact Option.some.inj hr ▸ hclean
    · split at hr
      · exact Option.some.inj hr ▸ hclean
      · exact wflag_readLoop hclean hr

/-! ## `f_read` -/

theorem ReadDone.opened {rbuff : List UInt8} {btr : Nat} {r : FResult × List UInt8 × Fil × Fs}
    (h : ReadDone g as cs bs rbuff btr fp s r) : Opened g as cs bs r.2.2.1 r.2.2.2 := by
  have hok : r.2.2.1.err = .ok → r.1 = .ok := by
    intro herr
    by_contra hne
    rw [h.err, if_neg hne] at herr
    exact hne herr
  exact ⟨h.owned, fun herr => (h.after (hok herr)).1, fun herr => (h.after (hok herr)).2.1⟩

/-- `f_read` gives the bytes of the file from its pointer on, and leaves it as it was. -/
theorem fRead_spec (hg : g.Valid) (h : Opened g as cs bs fp s) (hattached : fp.attached = true)
    (herr : fp.err = .ok) (hread : fp.canRead = true) (btr : Nat) :
    ∃ r, fRead g btr fp s = some r ∧
      ReadDone g as cs bs [] (min btr (fp.objsize - fp.fptr)) fp s r := by
  have hat := h.place herr
  have hfptr := hat.fptr
  have hlimit := hat.limit
  have hremain : dwordSub fp.objsize fp.fptr = fp.objsize - fp.fptr := by
    unfold dwordSub
    omega
  have hmin : (if fp.objsize - fp.fptr < btr then fp.objsize - fp.fptr else btr) =
      min btr (fp.objsize - fp.fptr) := by
    split <;> omega
  unfold fRead
  simp only [hattached, herr, hread, hremain, hmin, ne_eq, not_true_eq_false, Bool.true_eq_false,
    if_false]
  exact readLoop_spec hg h.toOwned (h.cached herr) hat (by omega) (by omega)

end GenLogger.Fat
