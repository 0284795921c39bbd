import GenLogger.Fat.FileWrite

/-!
# Where `f_lseek` goes

The pointer is where it was to be, and the file has the bytes that it had. A file that is open to be
written is as long as that afterwards, or as long as there is room for; one that is not stays as it is.
With a link map it comes to the same place without the table, but never behind the end.

* Without one, the walk starts at the first cluster or at the current one (`seekStart`), and goes a cluster
  at a time, with `create_chain` if the file may be written (`seekLoop`).
* What is in a stretch that was added is not said: the code does not write it.
* A walk within the file allocates nothing (`Walked.settled`).

Results:
* `seekWalk_spec`: the walk, which ends where it was to or where the volume is full.
* `fastSeek_spec`: the same with a link map.
* `fLseek_spec`: the call, for every offset.
-/

namespace GenLogger.Fat

open GenLogger.Lib

variable {g : Geometry} {as bs : List (List Nat)} {cs cs' : List Nat} {bs' : List (List Nat)} {fp : Fil}
  {s : Fs} {k clst : Nat}

/-! ## Clusters and offsets -/

theorem Geometry.Valid.ssize_pow (hg : g.Valid) : ∃ k, g.ssize = 2 ^ k := by
  have h := hg.ssize
  simp only [List.mem_cons, List.not_mem_nil, or_false] at h
  rcases h with h | h | h | h
  · exact ⟨9, h⟩
  · exact ⟨10, h⟩
  · exact ⟨11, h⟩
  · exact ⟨12, h⟩

theorem Geometry.Valid.bcs_pos (hg : g.Valid) : 0 < g.csize * g.ssize :=
  Nat.mul_pos hg.csize_pos hg.ssize_pos

/-- `x & ~(bcs - 1)`. -/
theorem sub_and_bcs (hg : g.Valid) (x : Nat) :
    x - (x &&& (g.csize * g.ssize - 1)) = x / (g.csize * g.ssize) * (g.csize * g.ssize) := by
  obtain ⟨a, ha⟩ := hg.csize
  obtain ⟨b, hb⟩ := hg.ssize_pow
  have hsplit := Nat.div_add_mod x (g.csize * g.ssize)
  rw [Nat.mul_comm] at hsplit
  have hand : x &&& (g.csize * g.ssize - 1) = x % (g.csize * g.ssize) := by
    rw [ha, hb, ← Nat.pow_add, Nat.and_two_pow_sub_one_eq_mod]
  omega

theorem div_bcs (g : Geometry) (x : Nat) : x / g.ssize / g.csize = x / (g.csize * g.ssize) := by
  rw [Nat.div_div_eq_div_mul, Nat.mul_comm]

/-- The object on the `k`-th cluster of its chain. -/
structure Seeking (g : Geometry) (cs : List Nat) (fp : Fil) (k clst : Nat) : Prop where
  fptr : fp.fptr = k * (g.csize * g.ssize)
  cur : cs[k]? = some clst
  clust : fp.clust = clst

/-- The object behind its last cluster, with none that is free. -/
structure Stuck (g : Geometry) (as : List (List Nat)) (cs : List Nat) (bs : List (List Nat)) (fp : Fil)
    (target : Nat) : Prop where
  fptr : fp.fptr = g.room as bs
  size : fp.fptr = cs.length * g.csize * g.ssize
  clust : 0 < fp.fptr → cs[(fp.fptr - 1) / g.ssize / g.csize]? = some fp.clust
  target : g.room as bs ≤ target

/-- What there is to say on the way of `f_lseek` to `target`, on a file without a link map. -/
structure OnTheWay (g : Geometry) (as : List (List Nat)) (cs : List Nat) (bs : List (List Nat))
    (target : Nat) (fp : Fil) (s : Fs) (r : FResult × Nat × Nat × Fil × Fs) (cs' : List Nat)
    (bs' : List (List Nat)) : Prop where
  kept : Kept g g.fatSectors g.fatSectors s r.2.2.2.2
  grown : cs <+: cs'
  rest : bs <:+ bs'
  owned : Owned g as cs' bs' r.2.2.2.1 r.2.2.2.2
  same : ∃ fptr clust sclust, r.2.2.2.1 = { fp with fptr := fptr, clust := clust, sclust := sclust }
  res : r.1 = .ok ∨ r.1 = .diskErr ∧ ¬ s.drive.Works
  rest_eq : r.1 = .ok → bs' = bs
  within : target ≤ cs.length * g.csize * g.ssize → cs' = cs
  quiet : r.1 = .ok → cs' = cs → s.wflag = false → r.2.2.2.2.wflag = false
  there : r.1 = .ok → (∃ k, Seeking g cs' r.2.2.2.1 k r.2.2.1 ∧ 0 < r.2.1 ∧
      r.2.2.2.1.fptr + r.2.1 = target) ∨ (r.2.2.1 = 0 ∧ Stuck g as cs' bs r.2.2.2.1 target)

/-- Without a free cluster, the room is what there is. -/
theorem Owned.room_of_full (h : Owned g as cs bs fp s)
    (hfull : ∀ c ∈ g.clusters, g.cell s.view c ≠ .free) :
    g.room as bs = cs.length * g.csize * g.ssize := by
  have hcard := h.card
  have hempty : g.clusters.filter (fun c => g.cell s.view c = .free) = ∅ :=
    Finset.filter_eq_empty_iff.mpr fun c hc => hfull c hc
  rw [hempty, Finset.card_empty] at hcard
  unfold Geometry.room
  congr 2
  omega

theorem seekStart_spec (hg : g.Valid) (h : Owned g as cs bs fp s) (hat : At g cs fp)
    (htbl : fp.cltbl = none) {ofs : Nat} (hofs : 0 < ofs) :
    ∃ r cs' bs', seekStart g fp.fptr ofs { fp with fptr := 0 } s = some r ∧
      OnTheWay g as cs bs ofs fp s r cs' bs' := by
  unfold seekStart
  by_cases hnear : 0 < fp.fptr ∧ (fp.fptr - 1) / (g.csize * g.ssize) ≤ (ofs - 1) / (g.csize * g.ssize)
  · simp only [if_pos hnear]
    have hclust := hat.clust hnear.1
    rw [div_bcs] at hclust
    have hle : (fp.fptr - 1) / (g.csize * g.ssize) * (g.csize * g.ssize) ≤ ofs - 1 :=
      (Nat.mul_le_mul_right _ hnear.2).trans (Nat.div_mul_le_self _ _)
    refine ⟨_, cs, bs, rfl, .refl h.sound, List.prefix_rfl, List.suffix_rfl, h.moved _ _ _,
      ⟨_, _, _, rfl⟩, .inl rfl, fun _ => rfl, fun _ => rfl, fun _ _ => id,
      fun _ => .inl ⟨_, ⟨sub_and_bcs hg _, hclust, rfl⟩, ?_, ?_⟩⟩
    · simp only [sub_and_bcs hg]
      omega
    · simp only [sub_and_bcs hg]
      omega
  · simp only [if_neg hnear]
    cases cs with
    | nil =>
      obtain ⟨⟨clst, s₁⟩, cs', bs', hr, hnext⟩ := createChain_first hg h
      rw [if_pos (show fp.sclust = 0 from h.sclust), hr]
      have hval : (clst = 0 ∧ _) ∨ (clst ∈ g.clusters ∧ _) ∨ (clst = 0xFFFFFFFF ∧ _) := hnext.val
      have hnext' : NextClust g as [] bs fp.cltbl s 0 (clst, s₁) cs' bs' := htbl.symm ▸ hnext
      have howned : ∀ clust sclust, sclust = cs'.headD 0 →
          Owned g as cs' bs' { fp with fptr := 0, clust := clust, sclust := sclust } s₁ := by
        intro clust sclust hsclust
        have hown : Owned g as cs' bs' { fp with clust := clust, sclust := sclust } s₁ :=
          hnext'.owned hg h hsclust
        exact hown.moved 0 clust fp.err
      have hzero : ([] : List Nat).length * g.csize * g.ssize = 0 := by simp
      have hwithin : ofs ≤ ([] : List Nat).length * g.csize * g.ssize → cs' = [] := fun hle =>
        absurd (hle.trans_eq hzero) (Nat.not_le.mpr hofs)
      refine ⟨_, cs', bs', rfl, ?_⟩
      rcases hval with ⟨rfl, rfl, rfl, -, hfull⟩ | ⟨hmem, rfl, hd⟩ | ⟨rfl, hworks, rfl⟩
      · have hquiet := hnext.quiet (show (0 : Nat) ≠ 0xFFFFFFFF by decide)
        have hroom : g.room as bs' = 0 := (h.room_of_full (hfull rfl)).trans hzero
        exact ⟨hnext.kept, hnext.grown, hnext.rest, howned 0 0 rfl, ⟨_, _, _, rfl⟩, .inl rfl, fun _ => rfl,
          hwithin, fun _ => hquiet, fun _ => .inr ⟨rfl, hroom.symm, hzero.symm,
            fun h => absurd h (Nat.lt_irrefl 0), hroom ▸ Nat.zero_le _⟩⟩
      · have h2 := (mem_clusters.mp hmem).1
        have hne : clst ≠ 0xFFFFFFFF := fun heq => notMem_clusters_fail hg (heq ▸ hmem)
        have hhead : clst = cs'.headD 0 := by
          rw [List.headD_eq_head?_getD, List.head?_eq_getElem?, hd, Option.getD_some]
        simp only [if_neg (show clst ≠ 1 by omega), if_neg hne]
        exact ⟨hnext.kept, hnext.grown, hnext.rest, howned clst clst hhead, ⟨_, _, _, rfl⟩, .inl rfl,
          fun _ => rfl, hwithin, fun _ => hnext.quiet hne,
          fun _ => .inl ⟨0, ⟨(Nat.zero_mul _).symm, hd, rfl⟩, hofs, Nat.zero_add _⟩⟩
      · exact ⟨hnext.kept, hnext.grown, hnext.rest, howned fp.clust fp.sclust h.sclust, ⟨_, _, _, rfl⟩,
          .inr ⟨rfl, hworks⟩, nofun, hwithin, nofun, nofun⟩
    | cons c cs =>
      have hc := (mem_clusters.mp (h.clusters c List.mem_cons_self)).1
      have hsclust : fp.sclust = c := h.sclust
      rw [if_neg (show ¬ fp.sclust = 0 by omega)]
      exact ⟨_, c :: cs, bs, rfl, .refl h.sound, List.prefix_rfl, List.suffix_rfl, h.moved _ _ _,
        ⟨_, _, _, rfl⟩, .inl rfl, fun _ => rfl, fun _ => rfl, fun _ _ => id, fun _ => .inl ⟨0,
          ⟨(Nat.zero_mul _).symm, congrArg some hsclust.symm, rfl⟩, hofs, Nat.zero_add _⟩⟩

theorem OnTheWay.trans {target ofs clst : Nat} {cs₁ : List Nat} {fp₁ : Fil} {s₁ : Fs}
    {r : FResult × Nat × Nat × Fil × Fs}
    (h : OnTheWay g as cs bs target fp s (.ok, ofs, clst, fp₁, s₁) cs₁ bs)
    (h' : OnTheWay g as cs₁ bs target fp₁ s₁ r cs' bs') : OnTheWay g as cs bs target fp s r cs' bs' where
  kept := h.kept.trans h'.kept
  grown := h.grown.trans h'.grown
  rest := h'.rest
  owned := h'.owned
  same := by
    obtain ⟨_, _, sclust, heq⟩ := h.same
    obtain ⟨fptr, clust, sclust', heq'⟩ := h'.same
    refine ⟨fptr, clust, sclust', ?_⟩
    rw [heq', show fp₁ = _ from heq]
  res := h'.res.imp_right (And.imp_right fun hfail hd => hfail (h.kept.works hd))
  rest_eq := h'.rest_eq
  within hle := by
    obtain rfl := h.within hle
    exact h'.within hle
  quiet hok hsame hclean := by
    obtain rfl : cs = cs₁ :=
      h.grown.eq_of_length_le (h'.grown.length_le.trans (hsame ▸ le_refl _))
    exact h'.quiet hok hsame (h.quiet rfl rfl hclean)
  there := h'.there

theorem head_kept (hgrown : cs <+: cs') {i c : Nat} (hcur : cs[i]? = some c) :
    cs'.headD 0 = cs.headD 0 := by
  obtain ⟨tail, rfl⟩ := hgrown
  cases cs with
  | nil => simp at hcur
  | cons => rfl

/-- The cluster behind the `k`-th one. -/
theorem seekNext_spec (hg : g.Valid) (h : Owned g as cs bs fp s) {k clst : Nat}
    (hcur : cs[k]? = some clst) (hread : fp.canWrite = false → k + 1 < cs.length) :
    ∃ r cs' bs', (if fp.canWrite then createChain g clst s else some (getFat g clst s)) = some r ∧
      NextClust g as cs bs none s (k + 1) r cs' bs' ∧ (r.1 = 0 → fp.canWrite = true) := by
  by_cases hwrite : fp.canWrite = true
  · obtain ⟨r, cs', bs', hr, hnext⟩ := createChain_behind hg h hcur
    rw [if_pos hwrite]
    exact ⟨r, cs', bs', hr, hnext, fun _ => hwrite⟩
  · rw [if_neg hwrite]
    have hlt := hread (Bool.not_eq_true _ ▸ hwrite)
    have hd : cs[k + 1]? = some cs[k + 1] := List.getElem?_eq_getElem hlt
    have hlink := next_of_getElem? (Lib.Forest.chain h.forest) hcur hd
    have hfollowed := followed hg h.sound (h.clusters _ (List.mem_of_getElem? hcur))
    have hval : (getFat g clst s).1 = cs[k + 1] ∨ (getFat g clst s).1 = 0xFFFFFFFF ∧ ¬ s.drive.Works :=
      hfollowed.val.symm.imp_left fun hval => hval.trans (entry_of_next hlink).1
    refine ⟨_, cs, bs, rfl, .of_chain h hfollowed.kept hg hd (wflag_getFat clst) hval,
      fun h0 => absurd h0 ?_⟩
    have h2 := (mem_clusters.mp (h.clusters _ (List.getElem_mem hlt))).1
    rcases hval with hval | ⟨hval, -⟩ <;> omega

/-- A boundary of clusters, in sectors and clusters. -/
theorem Seeking.behind (hg : g.Valid) (h : Seeking g cs fp k clst) :
    ∀ n, 0 < n → n ≤ g.csize * g.ssize → (fp.fptr + n - 1) / g.ssize / g.csize = k := by
  intro n hpos hle
  rw [div_bcs, h.fptr]
  have hsub : k * (g.csize * g.ssize) + n - 1 = g.csize * g.ssize * k + (n - 1) := by
    rw [Nat.mul_comm]
    omega
  rw [hsub, Nat.mul_add_div hg.bcs_pos, Nat.div_eq_of_lt (by omega), Nat.add_zero]

/-- The rest of the way, in bytes and within a sector. -/
theorem Seeking.mod (h : Seeking g cs fp k clst) (ofs : Nat) :
    (fp.fptr + ofs) % g.ssize = ofs % g.ssize := by
  rw [h.fptr, ← Nat.mul_assoc, Nat.mul_comm _ g.ssize, Nat.mul_add_mod]

/-- The sector in the cluster. -/
theorem Seeking.sector (hg : g.Valid) (h : Seeking g cs fp k clst) (hcs : ∀ c ∈ cs, c ∈ g.clusters)
    {ofs : Nat} (hin : ofs ≤ g.csize * g.ssize) (hmod : ofs % g.ssize ≠ 0) :
    clust2sect g clst ≠ 0 ∧
      clust2sect g clst + ofs / g.ssize = g.sector cs ((fp.fptr + ofs) / g.ssize) := by
  have hpos := hg.database_pos
  have hdiv : (fp.fptr + ofs) / g.ssize = g.csize * k + ofs / g.ssize := by
    rw [h.fptr, Nat.mul_comm, Nat.mul_comm g.csize, Nat.mul_assoc, Nat.mul_add_div hg.ssize_pos]
  have hlt : ofs / g.ssize < g.csize := by
    refine (Nat.div_lt_iff_lt_mul hg.ssize_pos).mpr (lt_of_le_of_ne hin fun heq => hmod ?_)
    rw [heq, Nat.mul_mod_left]
  rw [hdiv, clust2sect_eq hg (hcs _ (List.mem_of_getElem? h.cur)), Geometry.sector,
    Nat.mul_add_div hg.csize_pos, Nat.div_eq_of_lt hlt, Nat.add_zero, Nat.mul_add_mod,
    Nat.mod_eq_of_lt hlt, List.getD_eq_getElem?_getD, h.cur, Option.getD_some]
  exact ⟨by omega, rfl⟩

theorem seekLoop_spec (hg : g.Valid) {target fuel ofs clst k : Nat} {cs : List Nat} {fp : Fil} {s : Fs}
    (h : Owned g as cs bs fp s) (hseek : Seeking g cs fp k clst) (htbl : fp.cltbl = none)
    (hofs : 0 < ofs) (htarget : fp.fptr + ofs = target)
    (hread : fp.canWrite = false → target ≤ fp.objsize) (hfuel : ofs < fuel) :
    ∃ r cs' bs', seekLoop g fuel ofs clst fp s = some r ∧ OnTheWay g as cs bs target fp s r cs' bs' ∧
      (r.1 = .ok → r.2.1 ≤ g.csize * g.ssize ∧ (r.2.2.1 = 0 → r.2.1 = 0)) := by
  induction fuel generalizing ofs clst k cs fp s with
  | zero => exact absurd hfuel ofs.not_lt_zero
  | succ fuel ih =>
    have hpos := hg.bcs_pos
    have hclst := mem_clusters.mp (h.clusters _ (List.mem_of_getElem? hseek.cur))
    obtain ⟨hk, -⟩ := List.getElem?_eq_some_iff.mp hseek.cur
    rw [seekLoop]
    by_cases hin : ofs ≤ g.csize * g.ssize
    · simp only [if_pos hin]
      exact ⟨_, cs, bs, rfl, ⟨.refl h.sound, List.prefix_rfl, List.suffix_rfl, h, ⟨_, _, _, rfl⟩, .inl rfl,
        fun _ => rfl, fun _ => rfl, fun _ _ => id, fun _ => .inl ⟨k, hseek, hofs, htarget⟩⟩,
        fun _ => ⟨hin, fun h0 => by
          change clst = 0 at h0
          omega⟩⟩
    · simp only [if_neg hin]
      have hfptr : fp.fptr + g.csize * g.ssize = (k + 1) * (g.csize * g.ssize) := by
        rw [hseek.fptr, Nat.succ_mul]
      have hbehind : target ≤ cs.length * g.csize * g.ssize → k + 1 < cs.length := by
        intro hle
        have hlt : (k + 1) * (g.csize * g.ssize) < cs.length * (g.csize * g.ssize) := by
          rw [Nat.mul_assoc] at hle
          omega
        exact Nat.lt_of_mul_lt_mul_right hlt
      have hlast : fp.canWrite = false → k + 1 < cs.length := fun hno => hbehind ((hread hno).trans h.size)
      obtain ⟨⟨clst', s₁⟩, cs₁, bs₁, hr, hnext, hfull⟩ := seekNext_spec hg h hseek.cur hlast
      have hval : (clst' = 0 ∧ _) ∨ (clst' ∈ g.clusters ∧ _) ∨ (clst' = 0xFFFFFFFF ∧ _) := hnext.val
      have hnext' : NextClust g as cs bs fp.cltbl s (k + 1) (clst', s₁) cs₁ bs₁ := htbl.symm ▸ hnext
      have howned : ∀ clust, Owned g as cs₁ bs₁
          { fp with fptr := fp.fptr + g.csize * g.ssize, clust := clust } s₁ := by
        intro clust
        have hown : Owned g as cs₁ bs₁ { fp with clust := clust, sclust := fp.sclust } s₁ :=
          hnext'.owned hg h (h.sclust.trans (head_kept hnext.grown hseek.cur).symm)
        exact hown.moved _ clust fp.err
      simp only [hr]
      rcases hval with ⟨rfl, rfl, rfl, hend, hnone⟩ | ⟨hmem, rfl, hd⟩ | ⟨rfl, hworks, rfl⟩
      · -- the volume is full
        have hlength : cs₁.length = k + 1 := Nat.le_antisymm hend hk
        have hroom := h.room_of_full (hnone rfl)
        rw [Nat.mul_assoc, hlength, ← hfptr] at hroom
        rw [if_pos ⟨hfull rfl, rfl⟩]
        refine ⟨_, cs₁, bs₁, rfl, ⟨hnext.kept, hnext.grown, hnext.rest, howned fp.clust, ⟨_, _, _, rfl⟩,
          .inl rfl, fun _ => rfl, fun hle => hnext.within (hbehind hle),
          fun _ => hnext.quiet (show (0 : Nat) ≠ 0xFFFFFFFF by decide),
          fun _ => .inr ⟨rfl, hroom.symm, ?_, fun _ => ?_, ?_⟩⟩,
          fun _ => ⟨Nat.zero_le _, fun _ => rfl⟩⟩
        · rw [Nat.mul_assoc, hlength, ← hfptr]
        · simp only
          rw [hseek.behind hg _ hpos (le_refl _), hseek.cur, hseek.clust]
        · omega
      · have h2 := mem_clusters.mp hmem
        have hne : clst' ≠ 0xFFFFFFFF := fun heq => notMem_clusters_fail hg (heq ▸ hmem)
        simp only [if_neg (show ¬ (fp.canWrite = true ∧ clst' = 0) by omega), if_neg hne,
          if_neg (show ¬ (clst' ≤ 1 ∨ g.nFatent ≤ clst') by omega)]
        have hseek' : Seeking g cs₁ { fp with fptr := fp.fptr + g.csize * g.ssize, clust := clst' }
          (k + 1) clst' := ⟨hfptr, hd, rfl⟩
        obtain ⟨r, cs', bs', hr, hway, hstop⟩ := ih (howned clst') hseek' htbl (by omega)
          (show fp.fptr + g.csize * g.ssize + (ofs - g.csize * g.ssize) = target by omega) hread (by omega)
        have hstep : OnTheWay g as cs bs₁ target fp s (.ok, ofs - g.csize * g.ssize, clst',
            { fp with fptr := fp.fptr + g.csize * g.ssize, clust := clst' }, s₁) cs₁ bs₁ :=
          ⟨hnext.kept, hnext.grown, hnext.rest, howned clst', ⟨_, _, _, rfl⟩, .inl rfl, fun _ => rfl,
            fun hle => hnext.within (hbehind hle), fun _ => hnext.quiet hne,
            fun _ => .inl ⟨k + 1, hseek', Nat.sub_pos_of_lt (Nat.lt_of_not_le hin), by
              change fp.fptr + g.csize * g.ssize + (ofs - g.csize * g.ssize) = target
              omega⟩⟩
        exact ⟨r, cs', bs', hr, hstep.trans hway, hstop⟩
      · simp only [if_neg (show ¬ (fp.canWrite = true ∧ 0xFFFFFFFF = 0) by omega), if_true]
        exact ⟨_, cs₁, bs₁, rfl, ⟨hnext.kept, hnext.grown, hnext.rest, howned fp.clust, ⟨_, _, _, rfl⟩,
          .inr ⟨rfl, hworks⟩, nofun, fun hle => hnext.within (hbehind hle), nofun, nofun⟩, nofun⟩

/-- The object where `f_lseek` ends, on a file without a link map. -/
structure Walked (g : Geometry) (as : List (List Nat)) (cs : List Nat) (bs : List (List Nat))
    (target : Nat) (fp : Fil) (s : Fs) (r : FResult × Nat × Fil × Fs) (cs' : List Nat)
    (bs' : List (List Nat)) : Prop where
  kept : Kept g g.fatSectors g.fatSectors s r.2.2.2
  grown : cs <+: cs'
  rest : bs <:+ bs'
  owned : Owned g as cs' bs' r.2.2.1 r.2.2.2
  same : ∃ fptr clust sclust, r.2.2.1 = { fp with fptr := fptr, clust := clust, sclust := sclust }
  res : r.1 = .ok ∨ r.1 = .diskErr ∧ ¬ s.drive.Works
  rest_eq : r.1 = .ok → bs' = bs
  within : target ≤ cs.length * g.csize * g.ssize → cs' = cs
  quiet : r.1 = .ok → cs' = cs → s.wflag = false → r.2.2.2.wflag = false
  fptr : r.1 = .ok → r.2.2.1.fptr = min target (g.room as bs)
  size : r.1 = .ok → r.2.2.1.fptr ≤ cs'.length * g.csize * g.ssize
  clust : r.1 = .ok → 0 < r.2.2.1.fptr →
    cs'[(r.2.2.1.fptr - 1) / g.ssize / g.csize]? = some r.2.2.1.clust
  sect : r.1 = .ok → r.2.2.1.fptr % g.ssize ≠ 0 → r.2.1 = g.sector cs' (r.2.2.1.fptr / g.ssize)

theorem OnTheWay.failed {target ofs clst : Nat} {res : FResult} {fp' : Fil} {s' : Fs}
    (h : OnTheWay g as cs bs target fp s (res, ofs, clst, fp', s') cs' bs') (hok : res ≠ .ok) :
    Walked g as cs bs target fp s (res, 0, fp', s') cs' bs' :=
  ⟨h.kept, h.grown, h.rest, h.owned, h.same, h.res, fun h => absurd h hok, h.within, fun h => absurd h hok,
    fun h => absurd h hok, fun h => absurd h hok, fun h => absurd h hok, fun h => absurd h hok⟩

/-- It is stuck on a boundary. -/
theorem OnTheWay.stuck {target ofs clst : Nat} {fp' : Fil} {s' : Fs}
    (h : OnTheWay g as cs bs target fp s (.ok, ofs, clst, fp', s') cs' bs')
    (hstuck : Stuck g as cs' bs fp' target) :
    Walked g as cs bs target fp s (.ok, 0, fp', s') cs' bs' where
  kept := h.kept
  grown := h.grown
  rest := h.rest
  owned := h.owned
  same := h.same
  res := .inl rfl
  rest_eq := h.rest_eq
  within := h.within
  quiet := h.quiet
  fptr _ := hstuck.fptr.trans (Nat.min_eq_right hstuck.target).symm
  size _ := hstuck.size.le
  clust _ := hstuck.clust
  sect _ hmod := absurd (by rw [hstuck.size, Nat.mul_mod_left]) hmod

/-- It is in the cluster that it was to come to. -/
theorem OnTheWay.arrived (hg : g.Valid) {target ofs clst k : Nat} {fp' : Fil} {s' : Fs}
    (h : OnTheWay g as cs bs target fp s (.ok, ofs, clst, fp', s') cs' bs') (htbl : fp.cltbl = none)
    (hseek : Seeking g cs' fp' k clst) (hofs : 0 < ofs) (hin : ofs ≤ g.csize * g.ssize)
    (htarget : fp'.fptr + ofs = target) {nsect : Nat}
    (hsect : ofs % g.ssize ≠ 0 → nsect = clust2sect g clst + ofs / g.ssize) :
    Walked g as cs bs target fp s (.ok, nsect, { fp' with fptr := fp'.fptr + ofs }, s') cs' bs' := by
  obtain rfl : bs' = bs := h.rest_eq rfl
  obtain ⟨fptr, clust, sclust, rfl⟩ : ∃ fptr clust sclust,
    fp' = { fp with fptr := fptr, clust := clust, sclust := sclust } := h.same
  obtain rfl : clust = clst := hseek.clust
  obtain rfl : fptr = k * (g.csize * g.ssize) := hseek.fptr
  obtain ⟨hk, -⟩ := List.getElem?_eq_some_iff.mp hseek.cur
  have hend : k * (g.csize * g.ssize) + ofs ≤ cs'.length * g.csize * g.ssize := by
    have hmul := Nat.mul_le_mul_right (g.csize * g.ssize) (Nat.succ_le_of_lt hk)
    rw [Nat.succ_mul] at hmul
    rw [Nat.mul_assoc]
    omega
  have hroom : cs'.length * g.csize * g.ssize ≤ g.room as bs' := by
    have hcap := h.owned.length_le_capacity
    rwa [Fil.capacity, if_pos htbl] at hcap
  have htarget : k * (g.csize * g.ssize) + ofs = target := htarget
  refine ⟨h.kept, h.grown, h.rest, h.owned.moved _ _ fp.err, ⟨_, _, _, rfl⟩, .inl rfl, fun _ => rfl,
    h.within, h.quiet, fun _ => ?_, fun _ => hend, fun _ _ => ?_, fun _ hmod => ?_⟩
  · change k * (g.csize * g.ssize) + ofs = _
    omega
  · exact (congrArg (cs'[·]?) (hseek.behind hg _ hofs hin)).trans hseek.cur
  · have hmod' : ofs % g.ssize ≠ 0 := fun h0 => hmod ((hseek.mod ofs).trans h0)
    exact (hsect hmod').trans (hseek.sector hg h.owned.clusters hin hmod').2

theorem seekWalk_spec (hg : g.Valid) (h : Owned g as cs bs fp s) (hat : At g cs fp)
    (htbl : fp.cltbl = none) {ofs : Nat} (hofs : 0 < ofs)
    (hread : fp.canWrite = false → ofs ≤ fp.objsize) :
    ∃ r cs' bs', seekWalk g fp.fptr ofs { fp with fptr := 0 } s = some r ∧
      Walked g as cs bs ofs fp s r cs' bs' := by
  obtain ⟨⟨res, rest, clst, fp₁, s₁⟩, cs₁, bs₁, hr, hway⟩ := seekStart_spec hg h hat htbl hofs
  unfold seekWalk
  rw [hr]
  by_cases hok : res = .ok
  · subst hok
    obtain rfl : bs₁ = bs := hway.rest_eq rfl
    simp only [ne_eq, not_true_eq_false, if_false]
    rcases hway.there rfl with ⟨k, hseek, hrest, htarget⟩ | ⟨h0, hstuck⟩
    · have hseek : Seeking g cs₁ fp₁ k clst := hseek
      have hne : clst ≠ 0 := by
        have h2 := (mem_clusters.mp (hway.owned.clusters _ (List.mem_of_getElem? hseek.cur))).1
        omega
      rw [if_neg hne]
      obtain ⟨fptr, clust, sclust, rfl⟩ : ∃ fptr clust sclust,
        fp₁ = { fp with fptr := fptr, clust := clust, sclust := sclust } := hway.same
      obtain ⟨⟨res, ofs', clst', fp₂, s₂⟩, cs', bs', hr, hloop, hstop⟩ :=
        seekLoop_spec hg hway.owned hseek htbl hrest htarget hread (Nat.lt_succ_self rest)
      have hway := hway.trans hloop
      rw [hr]
      refine ⟨_, cs', bs', rfl, ?_⟩
      by_cases hok : res = .ok
      · subst hok
        obtain ⟨hin, hzero⟩ := hstop rfl
        simp only [not_true_eq_false, if_false]
        rcases hloop.there rfl with ⟨k, hseek, hrest, htarget⟩ | ⟨h0, hstuck⟩
        · by_cases hmod : ofs' % g.ssize = 0
          · simp only [hmod, not_true_eq_false, if_false]
            exact hway.arrived hg htbl hseek hrest hin htarget fun h => absurd hmod h
          · have hne := (hseek.sector hg hloop.owned.clusters hin hmod).1
            simp only [hmod, hne, not_false_eq_true, if_true, if_false]
            exact hway.arrived hg htbl hseek hrest hin htarget fun _ => rfl
        · obtain rfl : ofs' = 0 := hzero h0
          simp only [Nat.zero_mod, not_true_eq_false, if_false]
          exact hway.stuck hstuck
      · simp only [hok, not_false_eq_true, if_true]
        exact hway.failed hok
    · rw [if_pos h0]
      exact ⟨_, cs₁, bs₁, rfl, hway.stuck hstuck⟩
  · simp only [ne_eq, hok, not_false_eq_true, if_true]
    exact ⟨_, cs₁, bs₁, rfl, hway.failed hok⟩

/-! ## `f_lseek` -/

/-- What `f_lseek` leaves behind, where it comes to `pos`. -/
structure Sought (g : Geometry) (as : List (List Nat)) (cs : List Nat) (bs : List (List Nat)) (pos : Nat)
    (fp : Fil) (s : Fs) (r : FResult × Fil × Fs) (cs' : List Nat) (bs' : List (List Nat)) : Prop where
  kept : Kept g (g.own cs') (g.own cs') s r.2.2
  grown : cs <+: cs'
  rest : bs <:+ bs'
  map : fp.cltbl ≠ none → cs' = cs
  opened : Opened g as cs' bs' r.2.1 r.2.2
  same : ∃ sclust objsize modified fptr clust dirty buf sect err, r.2.1 =
    { fp.moved fptr clust dirty buf sect with
      sclust := sclust, objsize := objsize, modified := modified, err := err }
  res : r.1 = .ok ∨ r.1 = .diskErr ∧ ¬ s.drive.Works
  err : r.2.1.err = r.1
  clean : fp.dirty = false → r.2.1.dirty = false
  rest_eq : r.1 = .ok → bs' = bs
  fptr : r.1 = .ok → r.2.1.fptr = pos
  objsize : r.1 = .ok → r.2.1.objsize = max fp.objsize pos
  modified : r.1 = .ok → r.2.1.modified = (fp.modified || decide (fp.objsize < pos))
  settled : r.1 = .ok → pos ≤ fp.objsize → cs' = cs ∧ (s.wflag = false → r.2.2.wflag = false)
  content : r.1 = .ok → (r.2.1.content g cs' r.2.2).take fp.objsize = fp.content g cs s

/-- The file is longer. -/
theorem Owned.extend (h : Owned g as cs bs fp s) {objsize : Nat}
    (hsize : objsize ≤ cs.length * g.csize * g.ssize) (modified : Bool) :
    Owned g as cs bs { fp with objsize := objsize, modified := modified } s :=
  ⟨h.sound, h.untorn, h.forest, h.aside, h.sclust, h.sect, h.dirty, hsize, h.mapped⟩

/-- The bytes that there were, behind a walk and a transfer. -/
theorem content_take (hg : g.Valid) (h : Owned g as cs bs fp s) (hgrown : cs <+: cs') {s₁ s₂ : Fs}
    {fp₂ : Fil} (howned : ∀ c ∈ cs', c ∈ g.clusters)
    (hview₁ : Set.EqOn (fp.view s₁) (fp.view s) (g.sectorsOf cs))
    (hview₂ : Set.EqOn (fp₂.view s₂) (fp.view s₁) (g.sectorsOf cs')) (hle : fp.objsize ≤ fp₂.objsize) :
    (fp₂.content g cs' s₂).take fp.objsize = fp.content g cs s := by
  unfold Fil.content
  rw [take_chunk, Nat.min_eq_left hle]
  refine chunk_congr fun ofs _ hofs => ?_
  have hofs : ofs < cs.length * g.csize * g.ssize := Nat.lt_of_lt_of_le (by omega) h.size
  have hofs' : ofs < cs'.length * g.csize * g.ssize :=
    hofs.trans_le (Nat.mul_le_mul_right _ (Nat.mul_le_mul_right _ hgrown.length_le))
  exact (bytes_congr hg howned hview₂ hofs').trans
    ((bytes_grown hgrown hg _ hofs).trans (bytes_congr hg h.clusters hview₁ hofs))

/-- The object at the sector of its pointer. -/
structure Filled (g : Geometry) (as : List (List Nat)) (cs : List Nat) (bs : List (List Nat)) (fp : Fil)
    (s : Fs) (r : FResult × Fil × Fs) : Prop where
  kept : Kept g (g.own cs) (g.own cs) s r.2.2
  opened : Opened g as cs bs r.2.1 r.2.2
  same : ∃ dirty buf sect err, r.2.1 = { fp.hold dirty buf sect with err := err }
  res : r.1 = .ok ∨ r.1 = .diskErr ∧ ¬ s.drive.Works
  err : r.2.1.err = r.1
  clean : fp.dirty = false → r.2.1.dirty = false
  view : r.1 = .ok → Set.EqOn (r.2.1.view r.2.2) (fp.view s) (g.sectorsOf cs)

theorem fillCache_spec (hg : g.Valid) (h : Owned g as cs bs fp s) (hcached : Cached g cs fp s)
    (herr : fp.err = .ok) (hlimit : fp.objsize < 0x100000000) (hfptr : fp.fptr ≤ fp.objsize)
    (hclust : 0 < fp.fptr → cs[(fp.fptr - 1) / g.ssize / g.csize]? = some fp.clust) {sect : Nat}
    (hsect : fp.fptr % g.ssize ≠ 0 → sect = g.sector cs (fp.fptr / g.ssize)) :
    Filled g as cs bs fp s (fillCache g sect fp s) := by
  unfold fillCache
  by_cases hmod : fp.fptr % g.ssize = 0
  · rw [if_neg (not_not.mpr hmod)]
    exact ⟨.refl h.sound, ⟨h, fun _ => hcached, fun _ => ⟨hlimit, hfptr, hclust, fun h => absurd hmod h⟩⟩,
      ⟨_, _, _, _, rfl⟩, .inl rfl, herr, id, fun _ _ _ => rfl⟩
  · rw [if_pos hmod]
    have hq : fp.fptr / g.ssize < cs.length * g.csize := by
      refine (Nat.div_lt_iff_lt_mul hg.ssize_pos).mpr (lt_of_le_of_ne (hfptr.trans h.size) fun heq => ?_)
      rw [heq, Nat.mul_mod_left] at hmod
      exact hmod rfl
    have hmem := sector_mem hg h.clusters hq
    rw [← hsect hmod] at hmem
    obtain ⟨hload, hsect'⟩ := loadSector_still hg h hmem
    revert hload hsect'
    generalize loadSector sect fp s = r
    obtain ⟨res, fp', s'⟩ := r
    intro hload hsect'
    obtain ⟨dirty, buf, sect', rfl⟩ : ∃ dirty buf sect, fp' = fp.hold dirty buf sect := hload.same
    by_cases hok : res = .ok
    · subst hok
      obtain ⟨hcached', hview⟩ := hload.cached rfl hcached
      obtain rfl : sect' = sect := hsect' rfl
      simp only [ne_eq, not_true_eq_false, if_false]
      exact ⟨hload.kept, ⟨hload.owned, fun _ => hcached', fun _ => ⟨hlimit, hfptr, hclust, hsect⟩⟩,
        ⟨dirty, buf, sect', fp.err, rfl⟩, .inl rfl, herr, hload.clean, fun _ => hview⟩
    · simp only [ne_eq, hok, not_false_eq_true, if_true]
      exact ⟨hload.kept, ⟨hload.owned.moved _ _ res, fun h => absurd h hok, fun h => absurd h hok⟩,
        ⟨_, _, _, _, rfl⟩, .inr (hload.res.resolve_left hok), rfl, hload.clean, fun h => absurd h hok⟩

theorem wflag_fillCache (sect : Nat) (fp : Fil) (s : Fs) : (fillCache g sect fp s).2.2.wflag = s.wflag := by
  unfold fillCache
  split
  · simp only
    split <;> exact wflag_loadSector sect fp s
  · rfl

/-- A walk within the file finds its chain and leaves it as it is. -/
theorem Walked.settled (hg : g.Valid) (h : Owned g as cs bs fp s) (htbl : fp.cltbl = none)
    {target nsect : Nat} {fp₁ : Fil} {s₁ : Fs}
    (hwalk : Walked g as cs bs target fp s (.ok, nsect, fp₁, s₁) cs' bs')
    (hle : min target (g.room as bs) ≤ fp.objsize) :
    cs' = cs ∧ (s.wflag = false → s₁.wflag = false) := by
  have hsame : cs' = cs := by
    rcases min_le_iff.mp hle with hwithin | hfull
    · exact hwalk.within (hwithin.trans h.size)
    · -- there is no cluster that it could have been stretched by
      obtain rfl : bs' = bs := hwalk.rest_eq rfl
      have hplain : fp₁.cltbl = none := by
        obtain ⟨_, _, _, heq⟩ := hwalk.same
        exact (congrArg Fil.cltbl heq).trans htbl
      have hroom : cs'.length * g.csize * g.ssize ≤ cs.length * g.csize * g.ssize := by
        have hcap := hwalk.owned.length_le_capacity
        rw [Fil.capacity, if_pos hplain] at hcap
        exact hcap.trans (hfull.trans h.size)
      rw [Nat.mul_assoc, Nat.mul_assoc] at hroom
      exact (hwalk.grown.eq_of_length_le (Nat.le_of_mul_le_mul_right hroom hg.bcs_pos)).symm
  exact ⟨hsame, hwalk.quiet rfl hsame⟩

/-- `if (fp->fptr > fp->obj.objsize)`. -/
theorem extend_eq (fp : Fil) :
    (if fp.objsize < fp.fptr then { fp with objsize := fp.fptr, modified := true } else fp) =
      { fp with
        objsize := max fp.objsize fp.fptr
        modified := fp.modified || decide (fp.objsize < fp.fptr) } := by
  by_cases hlt : fp.objsize < fp.fptr
  · simp [hlt, Nat.max_eq_right hlt.le]
  · simp [hlt, Nat.max_eq_left (Nat.not_lt.mp hlt)]

theorem seekEnd_spec (hg : g.Valid) (h : Opened g as cs bs fp s) (herr : fp.err = .ok)
    (htbl : fp.cltbl = none) {target nsect : Nat} (htarget : target < 0x100000000) {fp₁ : Fil} {s₁ : Fs}
    (hwalk : Walked g as cs bs target fp s (.ok, nsect, fp₁, s₁) cs' bs') :
    Sought g as cs bs (min target (g.room as bs)) fp s (seekEnd g nsect fp₁ s₁) cs' bs' := by
  have hlimit := (h.place herr).limit
  obtain rfl : bs' = bs := hwalk.rest_eq rfl
  have hfptr : fp₁.fptr = min target (g.room as bs') := hwalk.fptr rfl
  have hsize : fp₁.fptr ≤ cs'.length * g.csize * g.ssize := hwalk.size rfl
  have hclust := hwalk.clust rfl
  have hsect := hwalk.sect rfl
  have howned : Owned g as cs' bs' fp₁ s₁ := hwalk.owned
  obtain ⟨hstay, hview₁⟩ := (h.cached herr).congr (h.drive_of_table hg hwalk.kept)
  have hkept₁ : Kept g (g.own cs') (g.own cs') s s₁ :=
    hwalk.kept.mono Set.subset_union_left Set.subset_union_left
  obtain ⟨fptr, clust, sclust, rfl⟩ : ∃ fptr clust sclust,
    fp₁ = { fp with fptr := fptr, clust := clust, sclust := sclust } := hwalk.same
  have hsettled := hwalk.settled hg h.toOwned htbl
  rw [← hfptr] at hsettled ⊢
  have hbelow : fptr < 0x100000000 := by
    have hfptr : fptr = min target (g.room as bs') := hfptr
    omega
  have howned' := howned.extend (max_le howned.size hsize)
    (fp.modified || decide (fp.objsize < fptr))
  have hfilled := fillCache_spec hg howned' (hstay.mono h.sect cs') herr (max_lt hlimit hbelow)
    (le_max_right _ _) hclust hsect
  have hflag := wflag_fillCache (g := g) nsect { fp with
    fptr := fptr
    clust := clust
    sclust := sclust
    objsize := max fp.objsize fptr
    modified := fp.modified || decide (fp.objsize < fptr) } s₁
  unfold seekEnd
  rw [extend_eq]
  revert hfilled hflag
  generalize fillCache g nsect _ s₁ = r
  obtain ⟨res, fp₂, s₂⟩ := r
  intro hfilled hflag
  obtain ⟨dirty, buf, sect, err, rfl⟩ : ∃ dirty buf sect err,
    fp₂ = { Fil.hold _ dirty buf sect with err := err } := hfilled.same
  exact ⟨hkept₁.trans hfilled.kept, hwalk.grown, hwalk.rest, fun hne => absurd htbl hne, hfilled.opened,
    ⟨_, _, _, _, _, _, _, _, _, rfl⟩,
    hfilled.res.imp_right (And.imp_right fun hfail hd => hfail (hkept₁.works hd)),
    hfilled.err, hfilled.clean, fun _ => rfl, fun _ => rfl, fun _ => rfl, fun _ => rfl,
    fun _ hle => (hsettled hle).imp_right fun hquiet hclean => hflag.trans (hquiet hclean),
    fun hok => content_take hg h.toOwned hwalk.grown howned.clusters hview₁ (hfilled.view hok)
      (le_max_left _ _)⟩

/-- Where the pointer comes to. -/
def Fil.reach (g : Geometry) (as bs : List (List Nat)) (fp : Fil) (ofs : Nat) : Nat :=
  if fp.cltbl = none ∧ fp.canWrite = true then min ofs (g.room as bs) else min ofs fp.objsize

theorem walked_zero (h : Owned g as cs bs fp s) :
    Walked g as cs bs 0 fp s (.ok, 0, { fp with fptr := 0 }, s) cs bs where
  kept := .refl h.sound
  grown := List.prefix_rfl
  rest := List.suffix_rfl
  owned := h.moved _ _ fp.err
  same := ⟨0, fp.clust, fp.sclust, rfl⟩
  res := .inl rfl
  rest_eq _ := rfl
  within _ := rfl
  quiet _ _ := id
  fptr _ := (Nat.zero_min _).symm
  size _ := Nat.zero_le _
  clust _ hpos := absurd hpos (Nat.lt_irrefl 0)
  sect _ hmod := absurd (Nat.zero_mod _) hmod

theorem fastSeek_spec (hg : g.Valid) (h : Opened g as cs bs fp s) (herr : fp.err = .ok) {tbl : List Nat}
    (htbl : fp.cltbl = some tbl) (ofs : Nat) :
    Sought g as cs bs (min ofs fp.objsize) fp s (fastSeek g tbl ofs fp s) cs bs := by
  have hat := h.place herr
  have hcached := h.cached herr
  have hmin : (if fp.objsize < ofs then fp.objsize else ofs) = min ofs fp.objsize := by
    split <;> omega
  obtain ⟨pos, hpos⟩ : ∃ pos, pos = min ofs fp.objsize := ⟨_, rfl⟩
  have hle : pos ≤ fp.objsize := by omega
  unfold fastSeek
  simp only [hmin, ← hpos]
  have hsame : (fp.content g cs s).take fp.objsize = fp.content g cs s :=
    List.take_of_length_le (length_content g cs fp s).le
  have hmodified : fp.modified = (fp.modified || decide (fp.objsize < pos)) := by
    rw [decide_eq_false (Nat.not_lt.mpr hle), Bool.or_false]
  by_cases h0 : pos = 0
  · rw [if_pos h0]
    have hplace : At g cs { fp with fptr := pos } := ⟨hat.limit, hle, fun hlt => absurd h0 hlt.ne',
      fun hmod => absurd (show pos % g.ssize = 0 by rw [h0, Nat.zero_mod]) hmod⟩
    exact ⟨.refl h.sound, List.prefix_rfl, List.suffix_rfl, fun _ => rfl,
      ⟨h.moved _ _ fp.err, fun _ => hcached, fun _ => hplace⟩,
      ⟨fp.sclust, fp.objsize, fp.modified, pos, fp.clust, fp.dirty, fp.buf, fp.sect, fp.err, rfl⟩, .inl rfl,
      herr, id, fun _ => rfl, fun _ => rfl, fun _ => (Nat.max_eq_left hle).symm, fun _ => hmodified,
      fun _ _ => ⟨rfl, id⟩, fun _ => hsame⟩
  · rw [if_neg h0]
    have hlt : (pos - 1) / g.ssize / g.csize < cs.length := by
      have hsize := h.size
      refine (Nat.div_lt_iff_lt_mul hg.csize_pos).mpr ((Nat.div_lt_iff_lt_mul hg.ssize_pos).mpr ?_)
      omega
    have hcur := List.getElem?_eq_getElem hlt
    have hclmt := h.mapped tbl htbl (pos - 1)
    rw [hcur, Option.getD_some] at hclmt
    obtain ⟨c, hc⟩ : ∃ c, c = cs[(pos - 1) / g.ssize / g.csize] := ⟨_, rfl⟩
    rw [← hc] at hcur hclmt
    have hsect := clust2sect_eq hg (h.clusters c (List.mem_of_getElem? hcur))
    have hne : clust2sect g c ≠ 0 := by
      have hdatabase := hg.database_pos
      omega
    simp only [hclmt, hne, if_false]
    obtain ⟨k, hk⟩ := hg.csize
    have hfilled : Filled g as cs bs { fp with fptr := pos, clust := c } s
        (fillCache g (clust2sect g c + ((pos - 1) / g.ssize &&& (g.csize - 1)))
          { fp with fptr := pos, clust := c } s) := by
      refine fillCache_spec hg (h.moved pos c fp.err) hcached herr hat.limit hle (fun _ => hcur)
        fun hmod => ?_
      have hdiv := (pred_div (n := g.ssize) (Nat.pos_of_ne_zero h0)).2 hmod
      rw [hdiv] at hcur ⊢
      rw [hsect, Geometry.sector, List.getD_eq_getElem?_getD, hcur, Option.getD_some, hk,
        Nat.and_two_pow_sub_one_eq_mod]
    have hflag := wflag_fillCache (g := g) (clust2sect g c + ((pos - 1) / g.ssize &&& (g.csize - 1)))
      { fp with fptr := pos, clust := c } s
    revert hfilled hflag
    generalize fillCache g _ _ s = r
    obtain ⟨res, fp', s'⟩ := r
    intro hfilled hflag
    obtain ⟨dirty, buf, sect, err, rfl⟩ : ∃ dirty buf sect err,
      fp' = { Fil.hold _ dirty buf sect with err := err } := hfilled.same
    exact ⟨hfilled.kept, List.prefix_rfl, List.suffix_rfl, fun _ => rfl, hfilled.opened,
      ⟨_, _, _, _, _, _, _, _, _, rfl⟩, hfilled.res, hfilled.err, hfilled.clean, fun _ => rfl, fun _ => rfl,
      fun _ => (Nat.max_eq_left hle).symm, fun _ => hmodified, fun _ _ => ⟨rfl, hflag.trans⟩, fun hok =>
        content_take hg h.toOwned List.prefix_rfl h.clusters (fun _ _ => rfl) (hfilled.view hok)
          (le_refl _)⟩

/-- `f_lseek` comes to the offset, or as near to it as the file or the volume reaches. -/
theorem fLseek_spec (hg : g.Valid) (h : Opened g as cs bs fp s) (hattached : fp.attached = true)
    (herr : fp.err = .ok) {ofs : Nat} (hofs : ofs < 0x100000000)
    (hmap : fp.cltbl ≠ none → ofs ≠ 0xFFFFFFFF) :
    ∃ r cs' bs', fLseek g ofs fp s = some r ∧
      Sought g as cs bs (fp.reach g as bs ofs) fp s r cs' bs' := by
  have hat := h.place herr
  have hlimit := hat.limit
  unfold fLseek
  rw [if_neg (by rw [hattached]; exact Bool.false_ne_true.symm), if_neg (not_not.mpr herr)]
  split
  · next tbl htbl =>
    have hne : fp.cltbl ≠ none := by
      rw [htbl]
      exact Option.some_ne_none tbl
    have hreach : fp.reach g as bs ofs = min ofs fp.objsize := if_neg fun hcond => hne hcond.1
    rw [if_neg (hmap hne), hreach]
    exact ⟨_, cs, bs, rfl, fastSeek_spec hg h herr htbl ofs⟩
  · next htbl =>
    have hcap : fp.objsize ≤ g.room as bs := by
      have hcap := h.length_le_capacity
      rw [Fil.capacity, if_pos htbl] at hcap
      exact h.size.trans hcap
    obtain ⟨target, htarget⟩ : ∃ target, target =
      if fp.objsize < ofs ∧ fp.canWrite = false then fp.objsize else ofs := ⟨_, rfl⟩
    have hvalue : (fp.canWrite = true ∧ target = ofs) ∨
        (fp.canWrite = false ∧ target = min ofs fp.objsize) := by
      rw [htarget]
      cases fp.canWrite with
      | true => exact .inl ⟨rfl, if_neg fun hcond => absurd hcond.2 Bool.false_ne_true.symm⟩
      | false =>
        refine .inr ⟨rfl, ?_⟩
        simp only [and_true]
        split <;> omega
    have hread : fp.canWrite = false → target ≤ fp.objsize := by
      intro hno
      rcases hvalue with ⟨hyes, -⟩ | ⟨-, heq⟩
      · exact absurd (hno.symm.trans hyes) Bool.false_ne_true
      · omega
    have hbelow : target < 0x100000000 := by
      rcases hvalue with ⟨-, heq⟩ | ⟨-, heq⟩ <;> omega
    have hreach : fp.reach g as bs ofs = min target (g.room as bs) := by
      unfold Fil.reach
      rcases hvalue with ⟨hwrite, rfl⟩ | ⟨hwrite, rfl⟩
      · rw [if_pos ⟨htbl, hwrite⟩]
      · have hno : ¬ (fp.cltbl = none ∧ fp.canWrite = true) := by
          rw [hwrite]
          exact fun hcond => absurd hcond.2 Bool.false_ne_true
        rw [if_neg hno]
        omega
    simp only [← htarget, hreach]
    by_cases h0 : target = 0
    · obtain rfl := h0
      rw [if_pos rfl]
      exact ⟨_, cs, bs, rfl, seekEnd_spec hg h herr htbl hbelow (walked_zero h.toOwned)⟩
    · rw [if_neg h0]
      obtain ⟨⟨res, nsect, fp₁, s₁⟩, cs', bs', hr, hwalk⟩ :=
        seekWalk_spec hg h.toOwned hat htbl (Nat.pos_of_ne_zero h0) hread
      rw [hr]
      refine ⟨_, cs', bs', rfl, ?_⟩
      by_cases hok : res = .ok
      · subst hok
        exact seekEnd_spec hg h herr htbl hbelow hwalk
      · have hkept₁ : Kept g (g.own cs') (g.own cs') s s₁ :=
          hwalk.kept.mono Set.subset_union_left Set.subset_union_left
        obtain ⟨fptr, clust, sclust, rfl⟩ : ∃ fptr clust sclust,
          fp₁ = { fp with fptr := fptr, clust := clust, sclust := sclust } := hwalk.same
        simp only [ne_eq, hok, not_false_eq_true, if_true]
        exact ⟨hkept₁, hwalk.grown, hwalk.rest, fun hne => absurd htbl hne,
          ⟨hwalk.owned.moved _ _ res, fun h => absurd h hok, fun h => absurd h hok⟩,
          ⟨sclust, fp.objsize, fp.modified, fptr, clust, fp.dirty, fp.buf, fp.sect, res, rfl⟩, hwalk.res,
          rfl, id, hwalk.rest_eq, fun h => absurd h hok, fun h => absurd h hok, fun h => absurd h hok,
          fun h => absurd h hok, fun h => absurd h hok⟩

end GenLogger.Fat
