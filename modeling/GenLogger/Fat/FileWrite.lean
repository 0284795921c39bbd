import GenLogger.Fat.FileCache

/-!
# What `f_write` does

The bytes are laid over those of the file at its pointer, as many of them as there is room for on the
volume, and the file ends behind them if it ended before. Its chain is stretched and nothing else is
changed, however the drive does.

* The room is that of the free clusters, or with a link map that of the mapped chain (`Fil.capacity`). A
  write that comes to its end writes less than it was to and succeeds.
* A round ends at the end of a sector, or of a cluster for whole sectors (`writeStep`).
* A file ends at 4 GiB - 1: what is to go behind is not written.
* Behind a failure the object has an error, and the chain may have a cluster more.

Results:
* `writeClust_spec`: the cluster that a round goes on with, which may be a new one.
* `writeStep_spec`, `writeLoop_spec`: a round, and all of them.
* `fWrite_spec`: the call, with the bytes of the file behind it.
-/

namespace GenLogger.Fat

open GenLogger.Lib

variable {g : Geometry} {as bs : List (List Nat)} {cs cs' : List Nat} {bs' : List (List Nat)} {fp : Fil}
  {s : Fs}

/-! ## The next cluster -/

theorem sectorsOf_mono {k : Nat} (h : cs <+: cs') (hk : k ∈ g.sectorsOf cs) : k ∈ g.sectorsOf cs' :=
  ⟨hk.1, h.subset hk.2⟩

/-- The `i`-th cluster of the chain, for a file with the link map `tbl`: there is none, or it is in the
chain, which may have been stretched for it. `quiet` is that a chain which was not needs no writing. -/
structure NextClust (g : Geometry) (as : List (List Nat)) (cs : List Nat) (bs : List (List Nat))
    (tbl : Option (List Nat)) (s : Fs) (i : Nat) (r : Nat × Fs) (cs' : List Nat)
    (bs' : List (List Nat)) : Prop where
  kept : Kept g g.fatSectors g.fatSectors s r.2
  grown : cs <+: cs'
  rest : bs <:+ bs'
  forest : r.2.Forest g (as ++ cs' :: bs')
  map : tbl ≠ none → cs' = cs
  within : i < cs.length → cs' = cs
  quiet : r.1 ≠ 0xFFFFFFFF → cs' = cs → s.wflag = false → r.2.wflag = false
  val : (r.1 = 0 ∧ cs' = cs ∧ bs' = bs ∧ cs.length ≤ i ∧
      (tbl = none → ∀ c ∈ g.clusters, g.cell s.view c ≠ .free)) ∨
    (r.1 ∈ g.clusters ∧ bs' = bs ∧ cs'[i]? = some r.1) ∨
    (r.1 = 0xFFFFFFFF ∧ ¬ s.drive.Works ∧ cs' = cs)

/-- At the end of the chain. -/
theorem NextClust.of_grown {r : Nat × Fs} (h : Grown g as bs cs s r)
    (hquiet : s.wflag = false → r.1 = 0 → r.2.wflag = false) :
    ∃ cs' bs', NextClust g as cs bs none s cs.length r cs' bs' := by
  have hend : ∀ {cs' : List Nat}, cs.length < cs.length → cs' = cs := fun hlt =>
    absurd hlt (Nat.lt_irrefl _)
  rcases h.val with ⟨h0, hfull⟩ | ⟨hmem, -⟩ | ⟨hfail, hworks⟩
  · exact ⟨cs, bs, h.kept, List.prefix_rfl, List.suffix_rfl, h.full h0, fun hne => absurd rfl hne, hend,
      fun _ _ hclean => hquiet hclean h0, .inl ⟨h0, rfl, rfl, le_refl _, fun _ => hfull⟩⟩
  · exact ⟨cs ++ [r.1], bs, h.kept, List.prefix_append _ _, List.suffix_rfl, h.grown hmem,
      fun hne => absurd rfl hne, hend, fun _ hsame => absurd hsame (by simp),
      .inr (.inl ⟨hmem, rfl, List.getElem?_concat_length ..⟩)⟩
  · obtain ⟨lost, -, hforest⟩ := h.failed hfail
    exact ⟨cs, lost :: bs, h.kept, List.prefix_rfl, List.suffix_cons lost bs, hforest, fun _ => rfl, hend,
      fun hne => absurd hfail hne, .inr (.inr ⟨hfail, hworks, rfl⟩)⟩

/-- Within the chain. -/
theorem NextClust.of_chain {tbl : Option (List Nat)} {i : Nat} {r : Nat × Fs}
    (h : Owned g as cs bs fp s) (hkept : Kept g g.fatSectors ∅ s r.2) (hg : g.Valid) {d : Nat}
    (hd : cs[i]? = some d) (hquiet : s.wflag = false → r.2.wflag = false)
    (hval : r.1 = d ∨ r.1 = 0xFFFFFFFF ∧ ¬ s.drive.Works) : NextClust g as cs bs tbl s i r cs bs where
  kept := hkept.mono (le_refl _) (Set.empty_subset _)
  grown := List.prefix_rfl
  rest := List.suffix_rfl
  forest := h.forest.of_kept hg hkept
  map _ := rfl
  within _ := rfl
  quiet _ _ := hquiet
  val := by
    rcases hval with rfl | ⟨hfail, hworks⟩
    · exact .inr (.inl ⟨h.clusters _ (List.mem_of_getElem? hd), rfl, hd⟩)
    · exact .inr (.inr ⟨hfail, hworks, rfl⟩)

/-- `create_chain` for a file without clusters. -/
theorem createChain_first (hg : g.Valid) (h : Owned g as [] bs fp s) :
    ∃ r cs' bs', createChain g 0 s = some r ∧ NextClust g as [] bs none s 0 r cs' bs' := by
  obtain ⟨r, hr, hgrown⟩ := createChain_spec hg h.sound h.untorn h.forest
  obtain ⟨cs', bs', hnext⟩ := NextClust.of_grown hgrown fun hclean => wflag_createChain hclean hr
  exact ⟨r, cs', bs', hr, hnext⟩

/-- `create_chain` from a cluster of the file on. -/
theorem createChain_behind (hg : g.Valid) (h : Owned g as cs bs fp s) {i c : Nat}
    (hcur : cs[i]? = some c) :
    ∃ r cs' bs', createChain g c s = some r ∧ NextClust g as cs bs none s (i + 1) r cs' bs' := by
  obtain ⟨hlt, hc⟩ := List.getElem?_eq_some_iff.mp hcur
  cases hd : cs[i + 1]? with
  | none =>
    have hend : i + 1 = cs.length :=
      Nat.le_antisymm hlt (List.getElem?_eq_none_iff.mp hd)
    have hlast : cs.getLast?.getD 0 = c := by
      rw [List.getLast?_eq_getElem?, ← hend, Nat.add_sub_cancel, hcur, Option.getD_some]
    obtain ⟨r, hr, hgrown⟩ := createChain_spec hg h.sound h.untorn h.forest
    obtain ⟨cs', bs', hnext⟩ := NextClust.of_grown hgrown fun hclean => wflag_createChain hclean hr
    rw [hlast] at hr
    exact ⟨r, cs', bs', hr, hend ▸ hnext⟩
  | some d =>
    have hlink := next_of_getElem? (Lib.Forest.chain h.forest) hcur hd
    obtain ⟨r, hr, hkept, -, hquiet, hval⟩ := createChain_next hg h.sound
      (h.clusters _ (List.mem_of_getElem? hcur)) (h.clusters _ (List.mem_of_getElem? hd)) hlink
    exact ⟨r, cs, bs, hr, .of_chain h hkept hg hd hquiet hval⟩

theorem writeClust_spec (hg : g.Valid) (h : Owned g as cs bs fp s) (hat : At g cs fp)
    (hmod : fp.fptr % g.ssize = 0) (hin : csect g fp = 0) (hmap : fp.cltbl ≠ none → cs ≠ []) :
    ∃ r cs' bs', writeClust g fp s = some r ∧
      NextClust g as cs bs fp.cltbl s (fp.fptr / g.ssize / g.csize) r cs' bs' := by
  unfold writeClust
  by_cases h0 : fp.fptr = 0
  · rw [if_pos h0, h0, Nat.zero_div, Nat.zero_div]
    cases cs with
    | nil =>
      have hnone : fp.cltbl = none := by
        by_contra hne
        exact hmap hne rfl
      rw [if_pos (show fp.sclust = 0 from h.sclust), hnone]
      exact createChain_first hg h
    | cons c cs =>
      have hc := (mem_clusters.mp (h.clusters c List.mem_cons_self)).1
      have hsclust : fp.sclust = c := h.sclust
      rw [if_neg (by omega)]
      exact ⟨_, _, _, rfl, .of_chain h (.refl h.sound) hg rfl id (.inl hsclust)⟩
  · rw [if_neg h0]
    have hpos := Nat.pos_of_ne_zero h0
    have hcur := hat.clust hpos
    have hq := (pred_div hpos).1 hmod
    have hqpos : 0 < fp.fptr / g.ssize := hq ▸ Nat.succ_pos _
    have hi := (pred_div hqpos).1 (csect_eq hg fp ▸ hin)
    have hprev : (fp.fptr - 1) / g.ssize = fp.fptr / g.ssize - 1 := by
      rw [← hq, Nat.add_sub_cancel]
    rw [hprev] at hcur
    cases htbl : fp.cltbl with
    | some tbl =>
      have hclmt := h.mapped tbl htbl fp.fptr
      refine ⟨_, cs, bs, rfl, ?_⟩
      cases hd : cs[fp.fptr / g.ssize / g.csize]? with
      | none =>
        rw [hd, Option.getD_none] at hclmt
        exact ⟨.refl h.sound, List.prefix_rfl, List.suffix_rfl, h.forest, fun _ => rfl, fun _ => rfl,
          fun _ _ => id, .inl ⟨hclmt, rfl, rfl, List.getElem?_eq_none_iff.mp hd, nofun⟩⟩
      | some d =>
        rw [hd, Option.getD_some] at hclmt
        exact .of_chain h (.refl h.sound) hg hd id (.inl hclmt)
    | none =>
      rw [← hi]
      exact createChain_behind hg h hcur

/-- The object in that cluster, for a round of `f_write`. -/
structure EnteredWrite (g : Geometry) (as : List (List Nat)) (cs : List Nat) (bs : List (List Nat))
    (fp : Fil) (s : Fs) (r : FResult × Bool × Fil × Fs) (cs' : List Nat) (bs' : List (List Nat)) :
    Prop where
  kept : Kept g g.fatSectors g.fatSectors s r.2.2.2
  grown : cs <+: cs'
  rest : bs <:+ bs'
  map : fp.cltbl ≠ none → cs' = cs
  owned : Owned g as cs' bs' r.2.2.1 r.2.2.2
  same : ∃ clust sclust, r.2.2.1 = { fp with clust := clust, sclust := sclust }
  res : r.1 = .ok ∨ r.1 = .diskErr ∧ ¬ s.drive.Works
  rest_eq : r.1 = .ok → bs' = bs
  full : r.2.1 = false → r.1 = .ok ∧ r.2.2.1 = fp ∧ cs' = cs ∧
    cs.length ≤ fp.fptr / g.ssize / g.csize ∧
    (fp.cltbl = none → ∀ c ∈ g.clusters, g.cell s.view c ≠ .free)
  entered : r.1 = .ok → r.2.1 = true → Entered g cs' r.2.2.1

theorem NextClust.owned (hg : g.Valid) (h : Owned g as cs bs fp s) {r : Nat × Fs}
    {i : Nat} (hnext : NextClust g as cs bs fp.cltbl s i r cs' bs') {clust sclust : Nat}
    (hsclust : sclust = cs'.headD 0) :
    Owned g as cs' bs' { fp with clust := clust, sclust := sclust } r.2 where
  sound := hnext.kept.sound
  untorn := hnext.kept.untorn h.untorn
  forest := hnext.forest
  aside hlo hmem := by
    obtain ⟨k, hk, hck⟩ := List.mem_flatten.mp
      (h.aside_of_kept hg hnext.kept (fun _ => aside_of_mem_fatSectors hg) hlo hmem)
    refine List.mem_flatten_of_mem (List.mem_append.mpr ?_) hck
    exact (List.mem_append.mp hk).imp_right fun hk => hnext.rest.subset hk
  sclust := hsclust
  sect hlo := sectorsOf_mono hnext.grown (h.sect hlo)
  dirty hdirty := sectorsOf_mono hnext.grown (h.dirty hdirty)
  size := by
    have hlen := hnext.grown.length_le
    exact h.size.trans (Nat.mul_le_mul_right _ (Nat.mul_le_mul_right _ hlen))
  mapped tbl htbl ofs := by
    rw [hnext.map (by rw [show fp.cltbl = _ from htbl]; nofun)]
    exact h.mapped tbl htbl ofs

theorem enterWrite_spec (hg : g.Valid) (h : Owned g as cs bs fp s) (hat : At g cs fp)
    (hmod : fp.fptr % g.ssize = 0) (hmap : fp.cltbl ≠ none → cs ≠ []) :
    ∃ r cs' bs', enterWrite g fp s = some r ∧ EnteredWrite g as cs bs fp s r cs' bs' := by
  unfold enterWrite
  by_cases hin : csect g fp = 0
  · rw [if_pos hin]
    obtain ⟨⟨clst, s₁⟩, cs', bs', hr, hnext⟩ := writeClust_spec hg h hat hmod hin hmap
    have hval : (clst = 0 ∧ _) ∨ (clst ∈ g.clusters ∧ _) ∨ (clst = 0xFFFFFFFF ∧ _) := hnext.val
    rw [hr]
    refine ⟨_, cs', bs', rfl, ?_⟩
    rcases hval with ⟨rfl, rfl, rfl, hend, hfull⟩ | ⟨hmem, rfl, hd⟩ | ⟨rfl, hworks, rfl⟩
    · exact ⟨hnext.kept, hnext.grown, hnext.rest, hnext.map, hnext.owned hg h h.sclust, ⟨_, _, rfl⟩, .inl rfl,
        fun _ => rfl, fun _ => ⟨rfl, rfl, rfl, hend, hfull⟩, fun _ h => absurd h nofun⟩
    · obtain ⟨h2, hlt⟩ := mem_clusters.mp hmem
      have hne : clst ≠ 0xFFFFFFFF := fun heq => notMem_clusters_fail hg (heq ▸ hmem)
      simp only [if_neg (show clst ≠ 0 by omega), if_neg (show clst ≠ 1 by omega), if_neg hne]
      refine ⟨hnext.kept, hnext.grown, hnext.rest, hnext.map, hnext.owned hg h ?_, ⟨_, _, rfl⟩, .inl rfl,
        fun _ => rfl, fun h => absurd h nofun, fun _ _ => hd⟩
      -- the first cluster of a file is its `sclust`
      cases cs with
      | nil =>
        have hsize : fp.objsize ≤ 0 * g.csize * g.ssize := h.size
        rw [Nat.zero_mul, Nat.zero_mul] at hsize
        have h0 : fp.fptr = 0 := Nat.le_zero.mp (hat.fptr.trans hsize)
        rw [h0, Nat.zero_div, Nat.zero_div] at hd
        rw [if_pos (show fp.sclust = 0 from h.sclust), List.headD_eq_head?_getD,
          List.head?_eq_getElem?, hd, Option.getD_some]
      | cons c cs =>
        have hc := (mem_clusters.mp (h.clusters c List.mem_cons_self)).1
        have hsclust : fp.sclust = c := h.sclust
        obtain ⟨tail, rfl⟩ := hnext.grown
        rw [if_neg (by omega), hsclust]
        rfl
    · exact ⟨hnext.kept, hnext.grown, hnext.rest, hnext.map, hnext.owned hg h h.sclust, ⟨_, _, rfl⟩,
        .inr ⟨rfl, hworks⟩, nofun, nofun, nofun⟩
  · rw [if_neg hin]
    exact ⟨_, cs, bs, rfl, .refl h.sound, List.prefix_rfl, List.suffix_rfl, fun _ => rfl, h, ⟨_, _, rfl⟩,
      .inl rfl,
      fun _ => rfl, fun h => absurd h nofun, fun _ _ => hat.entered hg (.inr hin)⟩

/-! ## A round -/

/-- What becomes of the object. -/
def Fil.written (fp : Fil) (clust sclust : Nat) (dirty : Bool) (buf : Sector) (sect : Nat) : Fil :=
  { fp with clust := clust, sclust := sclust, dirty := dirty, buf := buf, sect := sect }

theorem objsize_advance (fp : Fil) (n : Nat) :
    (fp.advance n).objsize = max fp.objsize (fp.fptr + n) := by
  simp only [Fil.advance]
  split <;> omega

/-- A round of `f_write`: `n` bytes are laid over those of the file, none where there is no room. -/
structure WriteRound (g : Geometry) (as : List (List Nat)) (cs : List Nat) (bs : List (List Nat))
    (wbuff : List UInt8) (fp : Fil) (s : Fs) (r : FResult × Nat × Fil × Fs) (cs' : List Nat)
    (bs' : List (List Nat)) : Prop where
  kept : Kept g (g.own cs') (g.own cs') s r.2.2.2
  grown : cs <+: cs'
  rest : bs <:+ bs'
  map : fp.cltbl ≠ none → cs' = cs
  owned : Owned g as cs' bs' (r.2.2.1.advance r.2.1) r.2.2.2
  same : ∃ clust sclust dirty buf sect, r.2.2.1 = fp.written clust sclust dirty buf sect
  res : r.1 = .ok ∨ r.1 = .diskErr ∧ ¬ s.drive.Works
  stop : r.1 ≠ .ok → r.2.1 = 0
  rest_eq : r.1 = .ok → bs' = bs
  le : r.2.1 ≤ wbuff.length
  full : r.1 = .ok → r.2.1 = 0 → cs' = cs ∧ cs.length ≤ fp.fptr / g.ssize / g.csize ∧
    (fp.cltbl = none → ∀ c ∈ g.clusters, g.cell s.view c ≠ .free)
  cached : r.1 = .ok → Cached g cs' r.2.2.1 r.2.2.2
  place : r.1 = .ok → At g cs' (r.2.2.1.advance r.2.1)
  bytes : r.1 = .ok → ∀ ofs < (r.2.2.1.advance r.2.1).objsize,
    r.2.2.1.bytes g cs' r.2.2.2 ofs = splice (fp.bytes g cs s) fp.fptr (wbuff.take r.2.1) ofs

/-- Behind what is written, the object is at the same cluster. -/
theorem Owned.advance (hg : g.Valid) (h : Owned g as cs bs fp s) (hent : Entered g cs fp) {n : Nat}
    (hn : 0 < n) (hsame : (fp.fptr + n - 1) / g.ssize / g.csize = fp.fptr / g.ssize / g.csize) :
    Owned g as cs bs (fp.advance n) s := by
  refine ⟨h.sound, h.untorn, h.forest, h.aside, h.sclust, h.sect, h.dirty, ?_, h.mapped⟩
  obtain ⟨hi, -⟩ := List.getElem?_eq_some_iff.mp hent
  rw [← hsame] at hi
  have hq := (Nat.div_lt_iff_lt_mul hg.csize_pos).mp hi
  have hlt := (Nat.div_lt_iff_lt_mul hg.ssize_pos).mp hq
  have hsize := h.size
  rw [objsize_advance]
  omega

theorem At.advance_write (hent : Entered g cs fp) {n : Nat}
    (hsame : (fp.fptr + n - 1) / g.ssize / g.csize = fp.fptr / g.ssize / g.csize)
    (hcache : (fp.fptr + n) % g.ssize ≠ 0 → fp.sect = g.sector cs ((fp.fptr + n) / g.ssize))
    (hlimit : fp.objsize < 0x100000000) (hn : fp.fptr + n < 0x100000000) :
    At g cs (fp.advance n) := by
  refine At.advance hent hsame hcache ?_ ?_
  · split <;> omega
  · split <;> omega

/-- The bytes that go to the buffer. -/
theorem WriteRound.of_buffer (hg : g.Valid) {wbuff : List UInt8} (hat : At g cs fp)
    (hw : 0 < wbuff.length) (hlimit : fp.fptr + wbuff.length < 0x100000000) {clust sclust : Nat}
    {dirty : Bool} {buf : Sector} {sect : Nat} {s' : Fs} {v : Nat → Sector}
    (hkept : Kept g (g.own cs') (g.own cs') s s') (hgrown : cs <+: cs')
    (hmap : fp.cltbl ≠ none → cs' = cs)
    (howned : Owned g as cs' bs (fp.written clust sclust dirty buf sect) s')
    (hent : Entered g cs' (fp.written clust sclust dirty buf sect))
    (hsect : sect = g.sector cs' (fp.fptr / g.ssize))
    (hv : ∀ k ∈ g.sectorsOf cs', k ≠ sect → (fp.written clust sclust dirty buf sect).view s' k = v k)
    (hbuf : fp.fptr < fp.objsize ∨ fp.fptr % g.ssize ≠ 0 → buf = v sect)
    (hbytes : ∀ ofs < cs.length * g.csize * g.ssize, g.bytes cs' v ofs = fp.bytes g cs s ofs)
    (hsize : fp.objsize ≤ cs.length * g.csize * g.ssize) :
    WriteRound g as cs bs wbuff fp s
      (.ok, (writeBuffer g wbuff (fp.written clust sclust dirty buf sect)).1,
        (writeBuffer g wbuff (fp.written clust sclust dirty buf sect)).2, s') cs' bs := by
  have hmod := Nat.mod_lt fp.fptr hg.ssize_pos
  obtain ⟨n, hn⟩ : ∃ n, n = min (g.ssize - fp.fptr % g.ssize) wbuff.length := ⟨_, rfl⟩
  have hfptr : (fp.written clust sclust dirty buf sect).fptr = fp.fptr := rfl
  have heq : writeBuffer g wbuff (fp.written clust sclust dirty buf sect) =
      (n, fp.written clust sclust true (splice buf (fp.fptr % g.ssize) (wbuff.take n)) sect) := by
    rw [hn]
    rfl
  have hn0 : 0 < n := by omega
  have hnle : n ≤ g.ssize - fp.fptr % g.ssize := by omega
  have hnw : n ≤ wbuff.length := by omega
  obtain ⟨hsame, hcache⟩ := within_sector hn0 hnle
  have hsame' : (fp.fptr + n - 1) / g.ssize / g.csize = fp.fptr / g.ssize / g.csize :=
    congrArg (· / g.csize) hsame
  obtain ⟨hi, -⟩ := List.getElem?_eq_some_iff.mp hent
  have hq : fp.fptr / g.ssize < cs'.length * g.csize := (Nat.div_lt_iff_lt_mul hg.csize_pos).mp hi
  have hmem : sect ∈ g.sectorsOf cs' := hsect ▸ sector_mem hg howned.clusters hq
  have hlast : Owned g as cs' bs (fp.written clust sclust true
      (splice buf (fp.fptr % g.ssize) (wbuff.take n)) sect) s' :=
    howned.hold _ (fun _ => hmem) fun _ => hmem
  have hadvanced := hlast.advance hg hent hn0 hsame'
  have hlength : (wbuff.take n).length = n := List.length_take_of_le hnw
  rw [heq]
  refine ⟨hkept, hgrown, List.suffix_rfl, hmap, hadvanced, ⟨_, _, _, _, _, rfl⟩, .inl rfl, fun h => absurd rfl h,
    fun _ => rfl, hnw, fun _ h => absurd h hn0.ne', fun _ => nofun, fun _ => ?_, fun _ ofs hofs => ?_⟩
  · have hent' : Entered g cs' (fp.written clust sclust true
        (splice buf (fp.fptr % g.ssize) (wbuff.take n)) sect) := hent
    exact At.advance_write hent' hsame' (fun hne => hsect.trans (congrArg _ (hcache hne).symm))
      hat.limit (by
        change fp.fptr + n < _
        omega)
  · have hofs' := Nat.lt_of_lt_of_le hofs hadvanced.size
    simp only at hofs
    rw [objsize_advance, lt_max_iff] at hofs
    have hofs : ofs < fp.objsize ∨ ofs < fp.fptr + n := hofs
    have hsplit := Nat.div_add_mod fp.fptr g.ssize
    have hfptr_le := hat.fptr
    have hupdate : g.bytes cs' ((fp.written clust sclust true
        (splice buf (fp.fptr % g.ssize) (wbuff.take n)) sect).view s') ofs =
        splice (g.bytes cs' v) (g.ssize * (fp.fptr / g.ssize) + fp.fptr % g.ssize) (wbuff.take n)
          ofs := by
      refine bytes_update hg howned.clusters howned.nodup hq (by omega) buf (fun k hk => ?_) hofs'
        (fun hdiv hout => ?_)
      · split
        · next hkey =>
          rw [hkey, ← hsect]
          exact (Fil.held _ s').view_key
        · next hkey =>
          rw [← hsect] at hkey
          have hbefore := hv k hk hkey
          rw [Fil.view, Held.view_of_ne hkey] at hbefore
          exact (Held.view_of_ne hkey).trans hbefore
      · by_cases hcond : fp.fptr < fp.objsize ∨ fp.fptr % g.ssize ≠ 0
        · rw [hbuf hcond, hsect]
        · -- nothing of the sector is part of the file yet
          have hstart : g.ssize * (ofs / g.ssize) ≤ ofs := Nat.mul_div_le ofs g.ssize
          rw [hdiv] at hstart
          omega
    rw [hsplit] at hupdate
    refine hupdate.trans (splice_congr fun hout => hbytes ofs ?_)
    omega

theorem advance_zero (h : fp.fptr ≤ fp.objsize) : fp.advance 0 = fp := by
  simp only [Fil.advance, Nat.add_zero, if_neg (Nat.not_lt.mpr h)]

/-- A round that the drive ends. -/
theorem WriteRound.of_fail {wbuff : List UInt8} {res : FResult} (hat : At g cs fp) {clust sclust : Nat}
    {dirty : Bool} {buf : Sector} {sect : Nat} {s' : Fs}
    (hkept : Kept g (g.own cs') (g.own cs') s s') (hgrown : cs <+: cs') (hrest : bs <:+ bs')
    (hmap : fp.cltbl ≠ none → cs' = cs)
    (howned : Owned g as cs' bs' (fp.written clust sclust dirty buf sect) s') (hres : res ≠ .ok)
    (hfail : res = .diskErr ∧ ¬ s.drive.Works) :
    WriteRound g as cs bs wbuff fp s (res, 0, fp.written clust sclust dirty buf sect, s') cs' bs' where
  kept := hkept
  grown := hgrown
  rest := hrest
  map := hmap
  owned := by
    rw [advance_zero (show (fp.written clust sclust dirty buf sect).fptr ≤ _ from hat.fptr)]
    exact howned
  same := ⟨_, _, _, _, _, rfl⟩
  res := .inr hfail
  stop _ := rfl
  rest_eq h := absurd h hres
  le := Nat.zero_le _
  full h := absurd h hres
  cached h := absurd h hres
  place h := absurd h hres
  bytes h := absurd h hres

/-- What `disk_write` and the refilled buffer make of the sectors of the file. -/
theorem view_writeDirect (hg : g.Valid) (h : Owned g as cs bs fp s) {q cc : Nat} (hcc : 0 < cc)
    (hfits : q % g.csize + cc ≤ g.csize) (hlast : q + cc ≤ cs.length * g.csize) {data : Nat → Sector}
    (hok : (s.drive.write data (g.sector cs q) cc).1 = true) {buf : Sector}
    (hbuf : buf = if dwordSub fp.sect (g.sector cs q) < cc then data fp.sect else fp.buf) (k : Nat) :
    (fp.hold false buf fp.sect).view
        { s with drive := (s.drive.write data (g.sector cs q) cc).2 } k =
      if g.sector cs q ≤ k ∧ k < g.sector cs q + cc then data k else fp.view s k := by
  have hrange := h.dwordSub_lt hg hcc hfits hlast
  by_cases hkey : k = fp.sect
  · subst hkey
    rw [show (fp.hold false buf fp.sect).view _ fp.sect = buf from Held.view_key _, hbuf,
      show fp.view s fp.sect = fp.buf from (fp.held s).view_key]
    exact if_congr hrange rfl rfl
  · rw [show (fp.hold false buf fp.sect).view _ k = _ from Held.view_of_ne hkey,
      show fp.view s k = s.drive.sectors k from Held.view_of_ne hkey]
    exact Drive.sectors_write_of_ok hok k

/-- Whole sectors. -/
theorem WriteRound.of_direct (hg : g.Valid) {wbuff : List UInt8} (hat : At g cs fp)
    (hlimit : fp.fptr + wbuff.length < 0x100000000) {clust sclust : Nat} {buf : Sector}
    {sect cc : Nat} {s' : Fs} (hkept : Kept g (g.own cs') (g.own cs') s s') (hgrown : cs <+: cs')
    (hmap : fp.cltbl ≠ none → cs' = cs)
    (howned : Owned g as cs' bs (fp.written clust sclust false buf sect) s')
    (hcached : Cached g cs' (fp.written clust sclust false buf sect) s')
    (hmod : fp.fptr % g.ssize = 0) (hent : Entered g cs' (fp.written clust sclust false buf sect))
    (hbytes : ∀ ofs < cs.length * g.csize * g.ssize,
      (fp.written clust sclust false buf sect).bytes g cs' s' ofs = fp.bytes g cs s ofs)
    (hsize : fp.objsize ≤ cs.length * g.csize * g.ssize) (hcc : 0 < cc)
    (hbtw : cc ≤ wbuff.length / g.ssize) (hfits : fp.fptr / g.ssize % g.csize + cc ≤ g.csize)
    (hlast : fp.fptr / g.ssize + cc ≤ cs'.length * g.csize) :
    WriteRound g as cs bs wbuff fp s
      (writeDirect g wbuff (g.sector cs' (fp.fptr / g.ssize)) cc
        (fp.written clust sclust false buf sect) s') cs' bs := by
  have hmul : g.ssize * cc ≤ wbuff.length := by
    rw [Nat.mul_comm]
    exact (Nat.le_div_iff_mul_le hg.ssize_pos).mp hbtw
  have hpos := Nat.mul_pos hg.ssize_pos hcc
  obtain ⟨data, hdata⟩ : ∃ data : Nat → Sector, data = fun k i =>
    wbuff.getD ((k - g.sector cs' (fp.fptr / g.ssize)) * g.ssize + i) 0 := ⟨_, rfl⟩
  have hin : ∀ k, g.sector cs' (fp.fptr / g.ssize) ≤ k →
      k < g.sector cs' (fp.fptr / g.ssize) + cc → k ∈ g.sectorsOf cs' := by
    intro k hlo hhi
    obtain ⟨j, rfl⟩ := Nat.exists_eq_add_of_le hlo
    rw [← sector_add (by omega)]
    exact sector_mem hg howned.clusters (by omega)
  have hkept₂ := kept_data hg howned.sound howned.winsect data hin
  have howned₂ := howned.of_kept hg hkept₂ rfl
  unfold writeDirect
  rw [← hdata]
  by_cases hok : (s'.drive.write data (g.sector cs' (fp.fptr / g.ssize)) cc).1
  · simp only [hok, if_true]
    obtain ⟨buf₂, hbuf₂⟩ : ∃ buf₂, buf₂ = if dwordSub sect (g.sector cs' (fp.fptr / g.ssize)) < cc then
      data sect else buf := ⟨_, rfl⟩
    have hfp : (if dwordSub (fp.written clust sclust false buf sect).sect
          (g.sector cs' (fp.fptr / g.ssize)) < cc then
          { fp.written clust sclust false buf sect with
            buf := data (fp.written clust sclust false buf sect).sect, dirty := false }
        else fp.written clust sclust false buf sect) = fp.written clust sclust false buf₂ sect := by
      rw [hbuf₂, show (fp.written clust sclust false buf sect).sect = sect from rfl]
      split <;> rfl
    rw [hfp]
    have hview := fun k => view_writeDirect hg howned hcc hfits hlast hok hbuf₂ k
    obtain ⟨hsame, hmod'⟩ := within_cluster hg hmod hcc hfits
    have hent₂ : Entered g cs' (fp.written clust sclust false buf₂ sect) := hent
    have hlast₂ : Owned g as cs' bs (fp.written clust sclust false buf₂ sect) _ :=
      howned₂.hold buf₂ howned₂.sect nofun
    have hadvanced := hlast₂.advance hg hent₂ hpos hsame
    have hlength : (wbuff.take (g.ssize * cc)).length = g.ssize * cc := List.length_take_of_le hmul
    have hfptr : g.ssize * (fp.fptr / g.ssize) = fp.fptr := by
      have hsplit := Nat.div_add_mod fp.fptr g.ssize
      omega
    refine ⟨hkept.trans hkept₂.own, hgrown, List.suffix_rfl, hmap, hadvanced, ⟨_, _, _, _, _, rfl⟩, .inl rfl,
      fun h => absurd rfl h, fun _ => rfl, hmul, fun _ h => absurd h hpos.ne', fun _ _ hkey => ?_,
      fun _ => ?_, fun _ ofs hofs => ?_⟩
    · -- the buffer got what the drive got
      have hrange : dwordSub sect (g.sector cs' (fp.fptr / g.ssize)) < cc ↔
          g.sector cs' (fp.fptr / g.ssize) ≤ sect ∧ sect < g.sector cs' (fp.fptr / g.ssize) + cc :=
        howned.dwordSub_lt hg hcc hfits hlast
      have hstore := Drive.sectors_write_of_ok hok sect
      refine hstore.trans ?_
      change _ = buf₂
      rw [hbuf₂]
      by_cases hsect : dwordSub sect (g.sector cs' (fp.fptr / g.ssize)) < cc
      · rw [if_pos (hrange.mp hsect), if_pos hsect]
      · rw [if_neg (mt hrange.mpr hsect), if_neg hsect]
        exact hcached rfl hkey
    · exact At.advance_write hent₂ hsame (fun hne => absurd hmod' hne) hat.limit (by
        change fp.fptr + g.ssize * cc < _
        omega)
    · have hofs' := Nat.lt_of_lt_of_le hofs hadvanced.size
      simp only at hofs
      rw [objsize_advance, lt_max_iff] at hofs
      have hofs : ofs < fp.objsize ∨ ofs < fp.fptr + g.ssize * cc := hofs
      have hfptr_le := hat.fptr
      have htransfer := bytes_transfer hg howned.clusters howned.nodup hfits hlast hlength
        (fun i j hj hlt => ?_) (fun k _ => hview k) hofs'
      · rw [hfptr] at htransfer
        refine htransfer.trans (splice_congr fun hout => hbytes ofs ?_)
        omega
      · rw [List.getElem_take, hdata]
        have hidx : (g.sector cs' (fp.fptr / g.ssize) + i - g.sector cs' (fp.fptr / g.ssize)) * g.ssize + j =
            g.ssize * i + j := by rw [Nat.add_sub_cancel_left, Nat.mul_comm]
        simp only [hidx]
        exact List.getD_eq_getElem _ _ (by omega)
  · simp only [hok]
    refine WriteRound.of_fail hat (hkept.trans hkept₂.own) hgrown List.suffix_rfl hmap howned₂ nofun
      ⟨rfl, fun hd => hok ((hkept.works hd).write _ _ _).1⟩

/-- A sector of the file that is there, or that need not be. -/
structure Placed (g : Geometry) (as : List (List Nat)) (cs : List Nat) (bs : List (List Nat))
    (sect : Nat) (fp : Fil) (s : Fs) (r : FResult × Fil × Fs) : Prop where
  kept : Kept g (g.own cs) (g.own cs) s r.2.2
  owned : Owned g as cs bs r.2.1 r.2.2
  same : ∃ buf sect, r.2.1 = fp.hold fp.dirty buf sect
  res : r.1 = .ok ∨ r.1 = .diskErr ∧ ¬ s.drive.Works
  sect_eq : r.1 = .ok → r.2.1.sect = sect
  others : r.1 = .ok → Cached g cs fp s →
    ∀ k ∈ g.sectorsOf cs, k ≠ sect → r.2.1.view r.2.2 k = fp.view s k
  loaded : r.1 = .ok → Cached g cs fp s → fp.fptr < fp.objsize → r.2.1.buf = fp.view s sect

theorem placeSector_spec (hg : g.Valid) (h : Owned g as cs bs fp s) {sect : Nat}
    (hsect : sect ∈ g.sectorsOf cs) (hclean : fp.dirty = false) :
    Placed g as cs bs sect fp s (placeSector sect fp s) := by
  have hview : Cached g cs fp s → ∀ k ∈ g.sectorsOf cs, fp.view s k = s.drive.sectors k :=
    fun hcached k hk => Held.view_eqOn_store hcached hclean (not_not.mpr hk)
  unfold placeSector
  by_cases hload : fp.sect ≠ sect ∧ fp.fptr < fp.objsize
  · rw [if_pos hload]
    have hkept := kept_disk_read h.sound (g.sectorsOf cs) (g.sectorsOf cs)
    have howned := h.of_kept hg hkept rfl
    by_cases hread : s.drive.read.1
    · simp only [hread, if_true]
      refine ⟨hkept.own, howned.hold _ (fun _ => hsect) fun _ => hsect, ⟨_, _, rfl⟩, .inl rfl,
        fun _ => rfl, fun _ hcached k hk hne => ?_, fun _ hcached _ => ?_⟩
      · rw [hview hcached k hk]
        exact (Held.view_of_ne hne).trans (congrFun (Drive.sectors_read s.drive) k)
      · rw [hview hcached sect hsect]
        exact congrFun (Drive.read_ok hread) sect
    · simp only [hread]
      exact ⟨hkept.own, howned.hold _ h.sect h.dirty, ⟨_, _, rfl⟩,
        .inr ⟨rfl, fun hd => hread hd.read.1⟩, nofun, nofun, nofun⟩
  · rw [if_neg hload]
    refine ⟨.refl h.sound, h.hold _ (fun _ => hsect) fun _ => hsect, ⟨_, _, rfl⟩, .inl rfl,
      fun _ => rfl, fun _ hcached k hk hne => ?_, fun _ _ hlt => ?_⟩
    · rw [hview hcached k hk]
      exact Held.view_of_ne hne
    · obtain rfl : fp.sect = sect := by
        by_contra hne
        exact hload ⟨hne, hlt⟩
      exact (fp.held s).view_key.symm

theorem Cached.mono (hcached : Cached g cs fp s)
    (hsect : g.database ≤ fp.sect → fp.sect ∈ g.sectorsOf cs) (cs' : List Nat) :
    Cached g cs' fp s := by
  intro hclean hkey
  obtain ⟨hlo, -⟩ := not_not.mp hkey
  exact hcached hclean (not_not.mpr (hsect hlo))

/-- A longer chain has the same bytes at its beginning. -/
theorem bytes_grown (hgrown : cs <+: cs') (hg : g.Valid) (v : Nat → Sector) {ofs : Nat}
    (hofs : ofs < cs.length * g.csize * g.ssize) : g.bytes cs' v ofs = g.bytes cs v ofs := by
  obtain ⟨tail, rfl⟩ := hgrown
  unfold Geometry.bytes
  rw [sector_append ((Nat.div_lt_iff_lt_mul hg.ssize_pos).mpr hofs)]

/-- A round that finds no room. -/
theorem WriteRound.of_full (hg : g.Valid) {wbuff : List UInt8} (h : Owned g as cs bs fp s)
    (hat : At g cs fp) {s' : Fs} (hkept : Kept g (g.own cs) (g.own cs) s s')
    (howned : Owned g as cs bs fp s') (hcached : Cached g cs fp s')
    (hview : Set.EqOn (fp.view s') (fp.view s) (g.sectorsOf cs))
    (hend : cs.length ≤ fp.fptr / g.ssize / g.csize)
    (hfull : fp.cltbl = none → ∀ c ∈ g.clusters, g.cell s.view c ≠ .free) :
    WriteRound g as cs bs wbuff fp s (.ok, 0, fp, s') cs bs where
  kept := hkept
  grown := List.prefix_rfl
  rest := List.suffix_rfl
  map _ := rfl
  owned := by
    rw [advance_zero hat.fptr]
    exact howned
  same := ⟨_, _, _, _, _, rfl⟩
  res := .inl rfl
  stop _ := rfl
  rest_eq _ := rfl
  le := Nat.zero_le _
  full _ _ := ⟨rfl, hend, hfull⟩
  cached _ := hcached
  place _ := by
    rw [advance_zero hat.fptr]
    exact hat
  bytes _ ofs hofs := by
    simp only [advance_zero hat.fptr] at hofs
    rw [List.take_zero, splice_nil]
    exact bytes_congr hg h.clusters hview (hofs.trans_le h.size)

/-- A round on a sector boundary. -/
theorem putSector_spec (hg : g.Valid) {wbuff : List UInt8} (hat : At g cs fp)
    (hw : 0 < wbuff.length) (hlimit : fp.fptr + wbuff.length < 0x100000000) {clust sclust : Nat}
    {buf : Sector} {sect : Nat} {s' : Fs} (hkept : Kept g (g.own cs') (g.own cs') s s')
    (hgrown : cs <+: cs')
    (hmap : fp.cltbl ≠ none → cs' = cs) (howned : Owned g as cs' bs (fp.written clust sclust false buf sect) s')
    (hcached : Cached g cs' (fp.written clust sclust false buf sect) s')
    (hmod : fp.fptr % g.ssize = 0) (hent : Entered g cs' (fp.written clust sclust false buf sect))
    (hbytes : ∀ ofs < cs.length * g.csize * g.ssize,
      (fp.written clust sclust false buf sect).bytes g cs' s' ofs = fp.bytes g cs s ofs)
    (hsize : fp.objsize ≤ cs.length * g.csize * g.ssize) :
    WriteRound g as cs bs wbuff fp s
      (putSector g wbuff (fp.written clust sclust false buf sect) s') cs' bs := by
  obtain ⟨hne, hsector⟩ := hent.sector hg howned.clusters
  have hsector : clust2sect g (fp.written clust sclust false buf sect).clust +
      csect g (fp.written clust sclust false buf sect) = g.sector cs' (fp.fptr / g.ssize) := hsector
  unfold putSector
  simp only [if_neg hne]
  rw [hsector]
  by_cases hcc : wbuff.length / g.ssize = 0
  · -- the rest is less than a sector
    rw [if_neg (not_not.mpr hcc)]
    obtain ⟨hi, -⟩ := List.getElem?_eq_some_iff.mp hent
    have hq : fp.fptr / g.ssize < cs'.length * g.csize := (Nat.div_lt_iff_lt_mul hg.csize_pos).mp hi
    have hplaced := placeSector_spec hg howned (sector_mem hg howned.clusters hq) rfl
    revert hplaced
    generalize placeSector (g.sector cs' (fp.fptr / g.ssize)) _ s' = r
    obtain ⟨res, fp₂, s₂⟩ := r
    intro hplaced
    obtain ⟨buf₂, sect₂, rfl⟩ : ∃ buf₂ sect₂, fp₂ = fp.written clust sclust false buf₂ sect₂ :=
      hplaced.same
    have hkept₂ : Kept g (g.own cs') (g.own cs') s s₂ := hkept.trans hplaced.kept
    by_cases hok : res = .ok
    · subst hok
      obtain rfl : sect₂ = g.sector cs' (fp.fptr / g.ssize) := hplaced.sect_eq rfl
      refine WriteRound.of_buffer hg hat hw hlimit hkept₂ hgrown hmap hplaced.owned hent rfl
        (hplaced.others rfl hcached) (fun hcond => ?_) hbytes hsize
      exact hplaced.loaded rfl hcached (hcond.resolve_right (not_not.mpr hmod))
    · have hfail := hplaced.res.resolve_left hok
      simp only [ne_eq, hok, not_false_eq_true, if_true]
      exact WriteRound.of_fail hat hkept₂ hgrown List.suffix_rfl hmap hplaced.owned hok
        ⟨hfail.1, fun hd => hfail.2 (hkept.works hd)⟩
  · rw [if_pos hcc]
    obtain ⟨hpos, hclip, hfits, hlast⟩ := clip_spec hg hent (Nat.pos_of_ne_zero hcc)
    exact WriteRound.of_direct hg hat hlimit hkept hgrown hmap howned hcached hmod hent hbytes hsize
      hpos hclip hfits hlast

theorem writeSector_spec (hg : g.Valid) {wbuff : List UInt8} (hat : At g cs fp)
    (hw : 0 < wbuff.length) (hlimit : fp.fptr + wbuff.length < 0x100000000) {clust sclust : Nat}
    {s' : Fs} (hkept : Kept g (g.own cs') (g.own cs') s s') (hgrown : cs <+: cs')
    (hmap : fp.cltbl ≠ none → cs' = cs)
    (howned : Owned g as cs' bs { fp with clust := clust, sclust := sclust } s')
    (hcached : Cached g cs' { fp with clust := clust, sclust := sclust } s')
    (hmod : fp.fptr % g.ssize = 0) (hent : Entered g cs' { fp with clust := clust, sclust := sclust })
    (hbytes : ∀ ofs < cs.length * g.csize * g.ssize,
      g.bytes cs' (fp.view s') ofs = fp.bytes g cs s ofs)
    (hsize : fp.objsize ≤ cs.length * g.csize * g.ssize) :
    WriteRound g as cs bs wbuff fp s
      (writeSector g wbuff { fp with clust := clust, sclust := sclust } s') cs' bs := by
  obtain ⟨hflush, hclean⟩ := flush_still hg howned
  unfold writeSector
  revert hflush hclean
  generalize flush { fp with clust := clust, sclust := sclust } s' = r
  obtain ⟨res, fp₁, s₁⟩ := r
  intro hflush hclean
  obtain ⟨dirty, buf, sect, rfl⟩ : ∃ dirty buf sect, fp₁ = fp.written clust sclust dirty buf sect :=
    hflush.same
  have hkept₁ : Kept g (g.own cs') (g.own cs') s s₁ := hkept.trans hflush.kept
  by_cases hok : res = .ok
  · subst hok
    obtain rfl : dirty = false := hclean rfl
    obtain ⟨hcached₁, hview₁⟩ := hflush.cached rfl hcached
    simp only [ne_eq, not_true_eq_false, if_false]
    refine putSector_spec hg hat hw hlimit hkept₁ hgrown hmap hflush.owned hcached₁ hmod hent
      (fun ofs hofs => ?_) hsize
    refine (bytes_congr hg howned.clusters hview₁ ?_).trans (hbytes ofs hofs)
    exact hofs.trans_le (Nat.mul_le_mul_right _ (Nat.mul_le_mul_right _ hgrown.length_le))
  · have hfail := hflush.res.resolve_left hok
    simp only [ne_eq, hok, not_false_eq_true, if_true]
    exact WriteRound.of_fail hat hkept₁ hgrown List.suffix_rfl hmap hflush.owned hok
      ⟨hfail.1, fun hd => hfail.2 (hkept.works hd)⟩

theorem writeStep_spec (hg : g.Valid) (h : Owned g as cs bs fp s) (hcached : Cached g cs fp s)
    (hat : At g cs fp) (hmap : fp.cltbl ≠ none → cs ≠ []) {wbuff : List UInt8}
    (hw : 0 < wbuff.length) (hlimit : fp.fptr + wbuff.length < 0x100000000) :
    ∃ r cs' bs', writeStep g wbuff fp s = some r ∧ WriteRound g as cs bs wbuff fp s r cs' bs' := by
  unfold writeStep
  by_cases hmod : fp.fptr % g.ssize = 0
  · rw [if_pos hmod]
    obtain ⟨⟨res, more, fp₁, s₁⟩, cs', bs', hr, henter⟩ := enterWrite_spec hg h hat hmod hmap
    rw [hr]
    refine ⟨_, cs', bs', rfl, ?_⟩
    have hkept₁ : Kept g (g.own cs') (g.own cs') s s₁ :=
      henter.kept.mono Set.subset_union_left Set.subset_union_left
    obtain ⟨hstay, hview₁⟩ := hcached.congr (h.drive_of_table hg henter.kept)
    cases more with
    | false =>
      obtain ⟨hres, hfp, hcs, hend, hfull⟩ := henter.full rfl
      obtain rfl : res = .ok := hres
      obtain rfl : fp₁ = fp := hfp
      subst hcs
      obtain rfl := henter.rest_eq rfl
      exact WriteRound.of_full hg h hat hkept₁ henter.owned hstay hview₁ hend hfull
    | true =>
      obtain ⟨clust, sclust, rfl⟩ : ∃ clust sclust, fp₁ = { fp with clust := clust, sclust := sclust } :=
        henter.same
      by_cases hok : res = .ok
      · subst hok
        obtain rfl : bs' = bs := henter.rest_eq rfl
        exact writeSector_spec hg hat hw hlimit hkept₁ henter.grown henter.map henter.owned
          (hstay.mono h.sect cs') hmod (henter.entered rfl rfl) (fun ofs hofs =>
            (bytes_grown henter.grown hg _ hofs).trans (bytes_congr hg h.clusters hview₁ hofs)) h.size
      · have hfail := henter.res.resolve_left hok
        simp only [Bool.true_eq_false, if_false, ne_eq, hok, not_false_eq_true, if_true]
        exact WriteRound.of_fail hat hkept₁ henter.grown henter.rest henter.map henter.owned hok hfail
  · rw [if_neg hmod]
    have hent := hat.entered hg (.inl hmod)
    refine ⟨_, cs, bs, rfl, ?_⟩
    refine WriteRound.of_buffer hg hat hw hlimit (.refl h.sound) List.prefix_rfl (fun _ => rfl) h hent
      (hat.cache hmod)
      (fun _ _ _ => rfl) (fun _ => (fp.held s).view_key.symm) (fun _ _ => rfl) h.size

/-! ## All rounds -/

/-- The bytes that there can be in a chain between `as` and `bs`. -/
def Geometry.room (g : Geometry) (as bs : List (List Nat)) : Nat :=
  (g.nFatent - 2 - (as ++ bs).flatten.length) * g.csize * g.ssize

/-- The bytes that there can be in a file. One with a link map is not stretched. -/
def Fil.capacity (g : Geometry) (as : List (List Nat)) (cs : List Nat) (bs : List (List Nat))
    (fp : Fil) : Nat :=
  if fp.cltbl = none then g.room as bs else cs.length * g.csize * g.ssize

theorem Owned.card (h : Owned g as cs bs fp s) :
    (g.clusters.filter fun c => g.cell s.view c = .free).card + cs.length +
      (as ++ bs).flatten.length = g.nFatent - 2 := by
  have hcard := h.forest.card_free
  have hperm : (as ++ cs :: bs).flatten.length = cs.length + (as ++ bs).flatten.length := by
    simp only [List.flatten_append, List.flatten_cons, List.length_append]
    omega
  omega

theorem Owned.length_le_capacity (h : Owned g as cs bs fp s) :
    cs.length * g.csize * g.ssize ≤ fp.capacity g as cs bs := by
  have hcard := h.card
  unfold Fil.capacity Geometry.room
  split
  · exact Nat.mul_le_mul_right _ (Nat.mul_le_mul_right _ (by omega))
  · exact le_refl _

/-- A round finds no room at the end of what there is. -/
theorem WriteRound.room {wbuff : List UInt8} {r : FResult × Nat × Fil × Fs} (hg : g.Valid)
    (h : Owned g as cs bs fp s) (hat : At g cs fp)
    (hround : WriteRound g as cs bs wbuff fp s r cs' bs') (hok : r.1 = .ok) (h0 : r.2.1 = 0) :
    fp.fptr = fp.capacity g as cs bs := by
  obtain ⟨-, hend, hfull⟩ := hround.full hok h0
  have hle : cs.length * g.csize * g.ssize ≤ fp.fptr :=
    (Nat.le_div_iff_mul_le hg.ssize_pos).mp ((Nat.le_div_iff_mul_le hg.csize_pos).mp hend)
  have hfptr : fp.fptr = cs.length * g.csize * g.ssize :=
    Nat.le_antisymm (hat.fptr.trans h.size) hle
  rw [hfptr, Fil.capacity, Geometry.room]
  split
  · next hnone =>
    have hcard := h.card
    have hempty : g.clusters.filter (fun c => g.cell s.view c = .free) = ∅ :=
      Finset.filter_eq_empty_iff.mpr fun c hc => hfull hnone c hc
    rw [hempty, Finset.card_empty] at hcard
    congr 2
    omega
  · rfl

/-- What `f_write` makes of a file: `n` bytes are laid over those it has, all of them or as many as
there is room for, unless the drive fails, which the object then remembers. -/
structure WriteDone (g : Geometry) (as : List (List Nat)) (cs : List Nat) (bs : List (List Nat))
    (wbuff : List UInt8) (bw : Nat) (fp : Fil) (s : Fs) (r : FResult × Nat × Fil × Fs)
    (cs' : List Nat) (bs' : List (List Nat)) (n : Nat) : Prop where
  kept : Kept g (g.own cs') (g.own cs') s r.2.2.2
  grown : cs <+: cs'
  rest : bs <:+ bs'
  map : fp.cltbl ≠ none → cs' = cs
  owned : Owned g as cs' bs' r.2.2.1 r.2.2.2
  same : ∃ clust sclust dirty buf sect err, r.2.2.1 =
    { (fp.advance n).written clust sclust dirty buf sect with err := err }
  res : r.1 = .ok ∨ r.1 = .diskErr ∧ ¬ s.drive.Works
  err : r.2.2.1.err = if r.1 = .ok then fp.err else r.1
  le : n ≤ min wbuff.length (fp.capacity g as cs bs - fp.fptr)
  bw : r.2.1 = bw + n
  rest_eq : r.1 = .ok → bs' = bs
  all : r.1 = .ok → n = min wbuff.length (fp.capacity g as cs bs - fp.fptr)
  cached : r.1 = .ok → Cached g cs' r.2.2.1 r.2.2.2
  place : r.1 = .ok → At g cs' r.2.2.1
  bytes : r.1 = .ok → ∀ ofs < r.2.2.1.objsize,
    r.2.2.1.bytes g cs' r.2.2.2 ofs = splice (fp.bytes g cs s) fp.fptr (wbuff.take n) ofs

theorem own_mono (h : cs <+: cs') : g.own cs ⊆ g.own cs' :=
  Set.union_subset_union_right _ fun _ hk => sectorsOf_mono h hk

theorem advance_advance (fp : Fil) (m n : Nat) : fp.advance (m + n) = (fp.advance m).advance n := by
  simp only [Fil.advance, Nat.add_assoc]
  congr 1
  split_ifs <;> omega

/-- There is nothing to write. -/
theorem WriteDone.nothing {wbuff : List UInt8} (h : Owned g as cs bs fp s) (hcached : Cached g cs fp s)
    (hat : At g cs fp) (h0 : wbuff.length = 0) (bw : Nat) :
    WriteDone g as cs bs wbuff bw fp s (.ok, bw, fp, s) cs bs 0 := by
  refine ⟨.refl h.sound, List.prefix_rfl, List.suffix_rfl, fun _ => rfl, h, ?_, .inl rfl, rfl,
    Nat.zero_le _, rfl, fun _ => rfl, fun _ => ?_, fun _ => hcached, fun _ => hat, fun _ ofs _ => ?_⟩
  · rw [advance_zero hat.fptr]
    exact ⟨_, _, _, _, _, _, rfl⟩
  · rw [h0, Nat.zero_min]
  · rw [List.take_zero, splice_nil]

section Round

variable {wbuff : List UInt8} {fp₁ : Fil} {s₁ : Fs} {cs₁ : List Nat} {bs₁ : List (List Nat)}

/-- The drive has failed in a round, which the object remembers. -/
theorem WriteRound.failed {res : FResult} {wcnt : Nat} (hat : At g cs fp)
    (hround : WriteRound g as cs bs wbuff fp s (res, wcnt, fp₁, s₁) cs₁ bs₁) (hok : res ≠ .ok) (bw : Nat) :
    WriteDone g as cs bs wbuff bw fp s (res, bw, { fp₁ with err := res }, s₁) cs₁ bs₁ 0 := by
  obtain rfl : wcnt = 0 := hround.stop hok
  obtain ⟨clust, sclust, dirty, buf, sect, rfl⟩ : ∃ clust sclust dirty buf sect,
    fp₁ = fp.written clust sclust dirty buf sect := hround.same
  have howned := hround.owned
  have hzero : (fp.written clust sclust dirty buf sect).advance 0 =
      fp.written clust sclust dirty buf sect := advance_zero hat.fptr
  simp only [hzero] at howned
  refine ⟨hround.kept, hround.grown, hround.rest, hround.map, howned.moved _ _ _, ?_, hround.res,
    (if_neg hok).symm, Nat.zero_le _, rfl, fun h => absurd h hok, fun h => absurd h hok,
    fun h => absurd h hok, fun h => absurd h hok, fun h => absurd h hok⟩
  rw [advance_zero hat.fptr]
  exact ⟨_, _, _, _, _, _, rfl⟩

/-- A round has found no room. -/
theorem WriteRound.noRoom (hg : g.Valid) (h : Owned g as cs bs fp s) (hat : At g cs fp)
    (hround : WriteRound g as cs bs wbuff fp s (.ok, 0, fp₁, s₁) cs₁ bs₁) (bw : Nat) :
    WriteDone g as cs bs wbuff bw fp s (.ok, bw, fp₁, s₁) cs₁ bs₁ 0 := by
  obtain ⟨clust, sclust, dirty, buf, sect, rfl⟩ : ∃ clust sclust dirty buf sect,
    fp₁ = fp.written clust sclust dirty buf sect := hround.same
  have hroom := hround.room hg h hat rfl rfl
  have howned := hround.owned
  have hplace := hround.place rfl
  have hbytes := hround.bytes rfl
  have hzero : (fp.written clust sclust dirty buf sect).advance 0 =
      fp.written clust sclust dirty buf sect := advance_zero hat.fptr
  simp only [hzero] at howned hplace hbytes
  refine ⟨hround.kept, hround.grown, hround.rest, hround.map, howned, ?_, .inl rfl, rfl, Nat.zero_le _, rfl,
    hround.rest_eq, fun _ => ?_, hround.cached, fun _ => hplace, fun _ => hbytes⟩
  · rw [advance_zero hat.fptr]
    exact ⟨clust, sclust, dirty, buf, sect, fp.err, rfl⟩
  · rw [← hroom, Nat.sub_self, Nat.min_zero]

/-- A round does not change the room that there is, and stays within it. -/
theorem WriteRound.capacity {wcnt : Nat}
    (hround : WriteRound g as cs bs wbuff fp s (.ok, wcnt, fp₁, s₁) cs₁ bs) :
    (fp₁.advance wcnt).capacity g as cs₁ bs = fp.capacity g as cs bs ∧
      fp.fptr + wcnt ≤ fp.capacity g as cs bs := by
  obtain ⟨clust, sclust, dirty, buf, sect, rfl⟩ : ∃ clust sclust dirty buf sect,
    fp₁ = fp.written clust sclust dirty buf sect := hround.same
  have hcap : ((fp.written clust sclust dirty buf sect).advance wcnt).capacity g as cs₁ bs =
      fp.capacity g as cs bs := by
    show (if fp.cltbl = none then g.room as bs else cs₁.length * g.csize * g.ssize) = _
    unfold Fil.capacity
    by_cases hnone : fp.cltbl = none
    · rw [if_pos hnone, if_pos hnone]
    · rw [if_neg hnone, if_neg hnone, hround.map hnone]
  have hsize := hround.owned.size
  simp only [objsize_advance] at hsize
  exact ⟨hcap, hcap ▸ (le_trans (le_max_right _ _) hsize).trans hround.owned.length_le_capacity⟩

/-- A round, and what `f_write` makes of the file from there. -/
theorem WriteRound.trans {wcnt : Nat} {bw n : Nat} {r : FResult × Nat × Fil × Fs}
    (hround : WriteRound g as cs bs wbuff fp s (.ok, wcnt, fp₁, s₁) cs₁ bs)
    (hdone : WriteDone g as cs₁ bs (wbuff.drop wcnt) (bw + wcnt) (fp₁.advance wcnt) s₁ r cs' bs' n) :
    WriteDone g as cs bs wbuff bw fp s r cs' bs' (wcnt + n) := by
  obtain ⟨hcap, hbound⟩ := hround.capacity
  obtain ⟨clust, sclust, dirty, buf, sect, rfl⟩ : ∃ clust sclust dirty buf sect,
    fp₁ = fp.written clust sclust dirty buf sect := hround.same
  have hle : wcnt ≤ wbuff.length := hround.le
  have hdrop : (wbuff.drop wcnt).length = wbuff.length - wcnt := List.length_drop
  have hkept : Kept g (g.own cs') (g.own cs') s s₁ :=
    hround.kept.mono (own_mono hdone.grown) (own_mono hdone.grown)
  have hn := hdone.le
  rw [hcap, hdrop] at hn
  have hn : n ≤ min (wbuff.length - wcnt) (fp.capacity g as cs bs - (fp.fptr + wcnt)) := hn
  refine ⟨hkept.trans hdone.kept, hround.grown.trans hdone.grown, hdone.rest,
    fun hne => (hdone.map hne).trans (hround.map hne), hdone.owned, ?_, ?_, hdone.err, by omega,
    by rw [hdone.bw, Nat.add_assoc], hdone.rest_eq, fun hok => ?_, hdone.cached, hdone.place,
    fun hok ofs hofs => ?_⟩
  · obtain ⟨clust, sclust, dirty, buf, sect, err, heq⟩ := hdone.same
    refine ⟨clust, sclust, dirty, buf, sect, err, ?_⟩
    rw [heq, ← advance_advance]
    rfl
  · exact hdone.res.imp_right (And.imp_right fun hfail hd => hfail (hkept.works hd))
  · have hall := hdone.all hok
    rw [hcap, hdrop] at hall
    have hall : n = min (wbuff.length - wcnt) (fp.capacity g as cs bs - (fp.fptr + wcnt)) := hall
    omega
  · have hlength : (wbuff.take wcnt).length = wcnt := List.length_take_of_le hle
    have hobj : r.2.2.1.objsize = max (max fp.objsize (fp.fptr + wcnt)) (fp.fptr + wcnt + n) := by
      obtain ⟨clust, sclust, dirty, buf, sect, err, heq⟩ := hdone.same
      rw [heq]
      exact (objsize_advance _ n).trans (congrArg (max · _) (objsize_advance _ wcnt))
    rw [hobj, lt_max_iff] at hofs
    rw [hdone.bytes hok ofs (by rw [hobj]; exact lt_max_iff.mpr hofs), List.take_add, splice_append,
      hlength]
    refine splice_congr fun hout => ?_
    refine hround.bytes rfl ofs ?_
    have hn' : ((wbuff.drop wcnt).take n).length = n := List.length_take_of_le (by omega)
    have hout : ofs < fp.fptr + wcnt ∨
      fp.fptr + wcnt + ((wbuff.drop wcnt).take n).length ≤ ofs := hout
    simp only [objsize_advance]
    change ofs < max fp.objsize (fp.fptr + wcnt)
    omega

end Round

theorem writeLoop_spec (hg : g.Valid) {fuel : Nat} (bw : Nat) {wbuff : List UInt8} {cs : List Nat}
    {fp : Fil} {s : Fs} (h : Owned g as cs bs fp s) (hcached : Cached g cs fp s) (hat : At g cs fp)
    (hmap : fp.cltbl ≠ none → cs ≠ []) (hlimit : fp.fptr + wbuff.length < 0x100000000)
    (hfuel : wbuff.length < fuel) :
    ∃ r cs' bs' n, writeLoop g fuel wbuff bw fp s = some r ∧
      WriteDone g as cs bs wbuff bw fp s r cs' bs' n := by
  induction fuel generalizing bw wbuff cs fp s with
  | zero => exact absurd hfuel (Nat.not_lt_zero _)
  | succ fuel ih =>
    rw [writeLoop]
    by_cases h0 : wbuff.length = 0
    · rw [if_pos h0]
      exact ⟨_, cs, bs, 0, rfl, .nothing h hcached hat h0 bw⟩
    · rw [if_neg h0]
      obtain ⟨⟨res, wcnt, fp₁, s₁⟩, cs₁, bs₁, hr, hround⟩ :=
        writeStep_spec hg h hcached hat hmap (Nat.pos_of_ne_zero h0) hlimit
      rw [hr]
      by_cases hok : res = .ok
      · subst hok
        obtain rfl : bs₁ = bs := hround.rest_eq rfl
        by_cases hw0 : wcnt = 0
        · subst hw0
          exact ⟨_, cs₁, bs₁, 0, rfl, hround.noRoom hg h hat bw⟩
        · obtain ⟨clust, sclust, dirty, buf, sect, rfl⟩ : ∃ clust sclust dirty buf sect,
            fp₁ = fp.written clust sclust dirty buf sect := hround.same
          have hle : wcnt ≤ wbuff.length := hround.le
          have hdrop : (wbuff.drop wcnt).length = wbuff.length - wcnt := List.length_drop
          have hlimit' : fp.fptr + wcnt + (wbuff.drop wcnt).length < 0x100000000 := by omega
          have hmap' : fp.cltbl ≠ none → cs₁ ≠ [] := fun hne => hround.map hne ▸ hmap hne
          obtain ⟨r, cs', bs', n, hr, hdone⟩ := ih (bw + wcnt) hround.owned (hround.cached rfl)
            (hround.place rfl) hmap' hlimit' (by omega)
          simp only [ne_eq, not_true_eq_false, if_false, hw0]
          exact ⟨r, cs', bs', wcnt + n, hr, hround.trans hdone⟩
      · simp only [ne_eq, hok, not_false_eq_true, if_true]
        exact ⟨_, cs₁, bs₁, 0, rfl, hround.failed hat hok bw⟩

/-! ## `f_write` -/

/-- The bytes of `buff` that `f_write` tries to write. -/
def btwOf (buff : List UInt8) (fp : Fil) : Nat := min buff.length (0xFFFFFFFF - fp.fptr)

/-- The bytes of a file. -/
def Fil.content (g : Geometry) (cs : List Nat) (fp : Fil) (s : Fs) : List UInt8 :=
  chunk (fp.bytes g cs s) 0 fp.objsize

@[simp] theorem length_content (g : Geometry) (cs : List Nat) (fp : Fil) (s : Fs) :
    (fp.content g cs s).length = fp.objsize := length_chunk ..

theorem Owned.modify (h : Owned g as cs bs fp s) (modified : Bool) :
    Owned g as cs bs { fp with modified := modified } s :=
  ⟨h.sound, h.untorn, h.forest, h.aside, h.sclust, h.sect, h.dirty, h.size, h.mapped⟩

/-- What `f_write` leaves behind. -/
structure Written (g : Geometry) (as : List (List Nat)) (cs : List Nat) (bs : List (List Nat))
    (buff : List UInt8) (fp : Fil) (s : Fs) (r : FResult × Nat × Fil × Fs) (cs' : List Nat)
    (bs' : List (List Nat)) : Prop where
  kept : Kept g (g.own cs') (g.own cs') s r.2.2.2
  grown : cs <+: cs'
  rest : bs <:+ bs'
  map : fp.cltbl ≠ none → cs' = cs
  opened : Opened g as cs' bs' r.2.2.1 r.2.2.2
  same : ∃ clust sclust dirty buf sect err modified, r.2.2.1 =
    { (fp.advance r.2.1).written clust sclust dirty buf sect with err := err, modified := modified }
  res : r.1 = .ok ∨ r.1 = .diskErr ∧ ¬ s.drive.Works
  err : r.2.2.1.err = r.1
  modified : r.2.2.1.modified = if r.1 = .ok then true else fp.modified
  rest_eq : r.1 = .ok → bs' = bs
  all : r.1 = .ok → r.2.1 = min (btwOf buff fp) (fp.capacity g as cs bs - fp.fptr)
  content : r.1 = .ok → r.2.2.1.content g cs' r.2.2.2 = (fp.content g cs s).take fp.fptr ++
    buff.take r.2.1 ++ (fp.content g cs s).drop (fp.fptr + r.2.1)

theorem fWrite_spec (hg : g.Valid) (h : Opened g as cs bs fp s) (hattached : fp.attached = true)
    (herr : fp.err = .ok) (hwrite : fp.canWrite = true) (hmap : fp.cltbl ≠ none → cs ≠ [])
    {buff : List UInt8} (hbuff : buff.length < 0x100000000) :
    ∃ r cs' bs', fWrite g buff fp s = some r ∧ Written g as cs bs buff fp s r cs' bs' := by
  have hat := h.place herr
  have hfptr := hat.fptr
  have hlimit := hat.limit
  have hbtw : (if (fp.fptr + buff.length) % 0x100000000 < fp.fptr then 0xFFFFFFFF - fp.fptr
      else buff.length) = btwOf buff fp := by
    unfold btwOf
    split <;> omega
  have hlength : (buff.take (btwOf buff fp)).length = btwOf buff fp :=
    List.length_take_of_le (Nat.min_le_left _ _)
  have hle : btwOf buff fp ≤ 0xFFFFFFFF - fp.fptr := Nat.min_le_right _ _
  have hbelow : fp.fptr + (buff.take (btwOf buff fp)).length < 0x100000000 := by omega
  obtain ⟨r, cs', bs', n, hr, hdone⟩ := writeLoop_spec hg 0 h.toOwned (h.cached herr) hat hmap hbelow
    (Nat.lt_succ_of_le hlength.le)
  unfold fWrite
  simp only [hattached, herr, hwrite, ne_eq, not_true_eq_false, Bool.true_eq_false, if_false, hbtw, hr,
    Option.map_some]
  refine ⟨_, cs', bs', rfl, ?_⟩
  obtain ⟨res, bw, fp', s'⟩ := r
  obtain rfl : n = bw := (Nat.zero_add n).symm.trans hdone.bw.symm
  obtain ⟨clust, sclust, dirty, buf, sect, err, rfl⟩ : ∃ clust sclust dirty buf sect err, fp' =
    { (fp.advance n).written clust sclust dirty buf sect with err := err } := hdone.same
  have hn := hdone.le
  rw [hlength] at hn
  by_cases hok : res = .ok
  · subst hok
    simp only [not_true_eq_false, if_false]
    obtain rfl : err = .ok := hdone.err.trans herr
    have hplace := hdone.place rfl
    refine ⟨hdone.kept, hdone.grown, hdone.rest, hdone.map, ⟨hdone.owned.modify true, fun _ => hdone.cached rfl,
      fun _ => ⟨hplace.limit, hplace.fptr, hplace.clust, hplace.cache⟩⟩, ⟨_, _, _, _, _, _, _, rfl⟩,
      .inl rfl, rfl, rfl, hdone.rest_eq, fun _ => ?_, fun _ => ?_⟩
    · exact (hdone.all rfl).trans (by rw [hlength])
    · have htake : (buff.take (btwOf buff fp)).take n = buff.take n := by
        rw [List.take_take, Nat.min_eq_left (by omega)]
      have hlen : (buff.take n).length = n := by
        rw [← htake]
        exact List.length_take_of_le (by omega)
      have hsplice := chunk_splice (l := buff.take n) (fp.bytes g cs s) hfptr
      rw [hlen] at hsplice
      refine Eq.trans ?_ hsplice
      change chunk _ 0 (fp.advance n).objsize = _
      rw [objsize_advance]
      refine chunk_congr fun k _ hk => ?_
      rw [← htake]
      refine hdone.bytes rfl k ?_
      change k < (fp.advance n).objsize
      rw [objsize_advance]
      omega
  · have hfail := hdone.res.resolve_left hok
    obtain rfl : err = res := hdone.err.trans (if_neg hok)
    simp only [hok, not_false_eq_true, if_true]
    exact ⟨hdone.kept, hdone.grown, hdone.rest, hdone.map, ⟨hdone.owned, fun h => absurd h hok,
      fun h => absurd h hok⟩, ⟨_, _, _, _, _, _, fp.modified, rfl⟩, .inr hfail, rfl, (if_neg hok).symm,
      fun h => absurd h hok, fun h => absurd h hok, fun h => absurd h hok⟩

end GenLogger.Fat
