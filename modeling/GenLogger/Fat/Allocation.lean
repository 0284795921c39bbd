import GenLogger.Fat.Chain
import GenLogger.Lib.Run

/-!
# The table over any run of allocations

What FatFs does to the table of a mounted volume, in any order (`AllocOp`): begin a chain, stretch one or
follow it, remove one, cut one, write all back. The callers see to it that the clusters they name are
theirs (`AllocOp.Allowed`).

* `Fs.Healthy` is kept whatever the drive does, but on FAT12, where an entry may be torn between two
  sectors, only while it works (`Fs.Untorn`).
* `Fs.Exact` is kept while the drive works, from a state in which the counter and the copies are right.

Results:
* `run_healthy`: the chains stay chains, and every next call returns.
* `run_exact`: `free_clst` is the number of free entries, and the copies of the table are equal.
* `run_untouched`: a chain that no call is about is still there.
-/

namespace GenLogger.Fat

open GenLogger.Lib

variable {g : Geometry}

/-- A call of a function of the table. -/
inductive AllocOp where
  /-- `create_chain(obj, 0)`. -/
  | create
  /-- `create_chain(obj, c)`, with a cluster of a chain. -/
  | stretch (c : Nat)
  /-- `remove_chain(obj, c, 0)`, with the first cluster of a chain. -/
  | remove (c : Nat)
  /-- `remove_chain(obj, c, p)`, with a cluster and the one behind it. -/
  | truncate (p c : Nat)
  /-- `sync_fs`. -/
  | sync
  deriving DecidableEq

/-- The cluster is on a chain. -/
def Fs.Used (g : Geometry) (s : Fs) (c : Nat) : Prop := c ∈ g.clusters ∧ g.cell s.view c ≠ .free

/-- What the callers of these functions see to: the cluster is one of theirs. -/
def AllocOp.Allowed (g : Geometry) (s : Fs) : AllocOp → Prop
  | .create => True
  | .stretch c => s.Used g c
  | .remove c => s.Used g c ∧ ∀ b ∈ g.clusters, g.cell s.view b ≠ .next c
  | .truncate p c => p ∈ g.clusters ∧ g.cell s.view p = .next c
  | .sync => True

/-- What a function of the table leaves behind, where it returns. -/
def AllocOp.run (g : Geometry) (s : Fs) : AllocOp → Option Fs
  | .create => (createChain g 0 s).map Prod.snd
  | .stretch c => (createChain g c s).map Prod.snd
  | .remove c => (removeChain g c 0 s).map Prod.snd
  | .truncate p c => (removeChain g c p s).map Prod.snd
  | .sync => some (syncFs g s).2

/-- A call that is allowed and returns. -/
def AllocStep (g : Geometry) (s : Fs) (op : AllocOp) (s' : Fs) : Prop :=
  op.Allowed g s ∧ op.run g s = some s'

/-- What holds of a mounted volume. -/
structure Fs.Healthy (g : Geometry) (s : Fs) : Prop where
  sound : s.Sound g
  untorn : s.Untorn g
  forest : ∃ chains, s.Forest g chains

/-- What holds of one as long as the drive works. -/
structure Fs.Exact (g : Geometry) (s : Fs) : Prop extends s.Healthy g where
  works : s.drive.Works
  counted : s.Counted g
  mirrored : s.drive.Mirrored g

/-- The clusters of the chain that an operation is about. -/
def AllocOp.targets : AllocOp → List Nat
  | .create => []
  | .stretch c => [c]
  | .remove c => [c]
  | .truncate p c => [p, c]
  | .sync => []

/-- What one operation does: it returns, and leaves chains, and those it is not about as they were. -/
structure Stepped (g : Geometry) (chains : List (List Nat)) (op : AllocOp) (s s' : Fs) : Prop where
  kept : Kept g g.fatSectors g.fatSectors s s'
  forest : ∃ chains', s'.Forest g chains' ∧
    ∀ k ∈ chains, (∀ x ∈ op.targets, x ∉ k) → k ∈ chains'
  counted : s.drive.Works → s.Counted g → s'.Counted g

/-- A used cluster is somewhere on a chain. -/
theorem Fs.Forest.chain_of_used {s : Fs} {chains : List (List Nat)} (hf : s.Forest g chains) {c : Nat}
    (hc : s.Used g c) : ∃ as bs l m, chains = as ++ (l ++ c :: m) :: bs := by
  obtain ⟨k, hk, hck⟩ := List.mem_flatten.mp ((hf.mem c).mpr hc)
  obtain ⟨as, bs, rfl⟩ := List.append_of_mem hk
  obtain ⟨l, m, rfl⟩ := List.append_of_mem hck
  exact ⟨as, bs, l, m, rfl⟩

section Step

variable {s : Fs} {as bs : List (List Nat)} {l m : List Nat} {op : AllocOp}

/-- A chain that was stretched. -/
theorem Grown.stepped (hg : g.Valid) {r : Nat × Fs} (h : Grown g as bs l s r)
    (htarget : l ≠ [] → ∃ x ∈ op.targets, x ∈ l) :
    Stepped g (as ++ l :: bs) op s r.2 where
  kept := h.kept
  forest := by
    have hother : ∀ k ∈ as ++ l :: bs, (∀ x ∈ op.targets, x ∉ k) → k = [] ∨ k ∈ as ++ bs := by
      intro k hk hout
      rcases List.mem_append.mp hk with hk | hk
      · exact .inr (List.mem_append_left bs hk)
      · rcases List.mem_cons.mp hk with rfl | hk
        · by_cases hnil : k = []
          · exact .inl hnil
          · obtain ⟨x, hx, hxk⟩ := htarget hnil
            exact absurd hxk (hout x hx)
        · exact .inr (List.mem_append_right as hk)
    -- an owner without clusters may be added at will
    have hadd : ∀ l' rest, r.2.Forest g (as ++ l' :: rest :: bs) → ∃ chains', r.2.Forest g chains' ∧
        ∀ k ∈ as ++ l :: bs, (∀ x ∈ op.targets, x ∉ k) → k ∈ chains' := by
      intro l' rest hf
      have hnil : r.2.Forest g ([] ++ [] :: (as ++ l' :: rest :: bs)) := Lib.Forest.nil_iff.mpr hf
      refine ⟨_, hnil, fun k hk hout => ?_⟩
      rcases hother k hk hout with rfl | hk
      · exact List.mem_cons_self
      · grind
    rcases h.val with ⟨h0, -⟩ | ⟨hmem, -⟩ | ⟨hfail, -⟩
    · exact hadd l [] (Lib.Forest.nil_behind_iff.mpr (h.full h0))
    · exact hadd (l ++ [r.1]) [] (Lib.Forest.nil_behind_iff.mpr (h.grown hmem))
    · obtain ⟨lost, -, hlost⟩ := h.failed hfail
      exact hadd l lost hlost
  counted hd hcounted := h.counted (fun hfail => by
    rcases h.val with ⟨h0, -⟩ | ⟨hmem, -⟩ | ⟨-, hworks⟩
    · exact absurd (h0.symm.trans hfail) (by decide)
    · exact notMem_clusters_fail hg (hfail ▸ hmem)
    · exact hworks hd) hcounted

/-- A chain that was cut. -/
theorem Cut.stepped {r : FResult × Fs} (h : Cut g as bs l m s r)
    (htarget : ∃ x ∈ op.targets, x ∈ l ++ m) :
    Stepped g (as ++ (l ++ m) :: bs) op s r.2 where
  kept := h.kept
  forest := by
    obtain ⟨l', rest, -, -, hf⟩ := h.forest
    refine ⟨_, hf, fun k hk hout => ?_⟩
    have hne : k ≠ l ++ m := by
      rintro rfl
      obtain ⟨x, hx, hxk⟩ := htarget
      exact hout x hx hxk
    grind
  counted _ := h.counted

theorem allocStep_spec (hg : g.Valid) (hs : s.Sound g) (huntorn : s.Untorn g)
    {chains : List (List Nat)} (hf : s.Forest g chains) (hallowed : op.Allowed g s) :
    ∃ s', op.run g s = some s' ∧ Stepped g chains op s s' := by
  cases op with
  | create =>
    have hnil : s.Forest g ([] ++ [] :: chains) := Lib.Forest.nil_iff.mpr hf
    obtain ⟨r, hr, hgrown⟩ := createChain_spec hg hs huntorn hnil
    have hstep : Stepped g ([] ++ [] :: chains) .create s r.2 :=
      hgrown.stepped hg fun h => absurd rfl h
    refine ⟨r.2, congrArg (Option.map Prod.snd) hr, hstep.kept, ?_, hstep.counted⟩
    obtain ⟨chains', hf', hkeep⟩ := hstep.forest
    exact ⟨chains', hf', fun k hk => hkeep k (List.mem_cons_of_mem [] hk)⟩
  | stretch c =>
    obtain ⟨as, bs, l, m, rfl⟩ := hf.chain_of_used hallowed
    have hin : ∀ x ∈ l ++ c :: m, x ∈ g.clusters := fun x => Lib.Forest.subset hf
    cases m with
    | nil =>
      obtain ⟨r, hr, hgrown⟩ := createChain_spec hg hs huntorn hf
      rw [List.getLast?_concat, Option.getD_some] at hr
      exact ⟨r.2, congrArg (Option.map Prod.snd) hr, hgrown.stepped hg fun _ =>
        ⟨c, List.mem_cons_self, List.mem_append_right l List.mem_cons_self⟩⟩
    | cons d m =>
      have hnext : g.cell s.view c = .next d := (Lib.Forest.chain hf).next
      obtain ⟨r, hr, hkept, hinfo, -⟩ :=
        createChain_next hg hs (hin c (by grind)) (hin d (by grind)) hnext
      exact ⟨r.2, congrArg (Option.map Prod.snd) hr, hkept.mono (le_refl _) (Set.empty_subset _),
        ⟨_, hf.of_kept hg hkept, fun k hk _ => hk⟩,
        fun _ hcounted => hcounted.of_kept hg hkept (Fs.freeClst_of_info hinfo)⟩
  | remove c =>
    obtain ⟨hused, hhead⟩ := hallowed
    obtain ⟨as, bs, l, m, rfl⟩ := hf.chain_of_used hused
    -- nothing is before a cluster that no link leads to
    obtain rfl : l = [] := by
      rcases List.eq_nil_or_concat' l with hnil | ⟨l, b, rfl⟩
      · exact hnil
      · have hchain := Lib.Forest.chain hf
        rw [List.append_assoc] at hchain
        exact absurd hchain.next (hhead b (Lib.Forest.subset hf (by grind)))
    obtain ⟨r, hr, hcut⟩ := removeChain_spec hg hs huntorn hf
    exact ⟨r.2, congrArg (Option.map Prod.snd) hr,
      hcut.stepped ⟨c, List.mem_cons_self, List.mem_cons_self⟩⟩
  | truncate p c =>
    obtain ⟨hp, hnext⟩ := hallowed
    have hused : s.Used g p := ⟨hp, by rw [hnext]; nofun⟩
    obtain ⟨as, bs, l, m, rfl⟩ := hf.chain_of_used hused
    have hchain := Lib.Forest.chain hf
    cases m with
    | nil => exact absurd (hchain.last.symm.trans hnext) nofun
    | cons d m =>
      obtain rfl := Cell.next.inj (hchain.next.symm.trans hnext)
      have hf' : s.Forest g (as ++ ((l ++ [p]) ++ d :: m) :: bs) := by
        rwa [List.append_assoc]
      obtain ⟨r, hr, hcut⟩ := removeChain_spec hg hs huntorn hf'
      rw [List.getLast?_concat, Option.getD_some] at hr
      have hstep : Stepped g (as ++ ((l ++ [p]) ++ d :: m) :: bs) (.truncate p d) s r.2 :=
        hcut.stepped ⟨p, List.mem_cons_self, by grind⟩
      rw [List.append_assoc] at hstep
      exact ⟨r.2, congrArg (Option.map Prod.snd) hr, hstep⟩
  | sync =>
    have hkept := (kept_syncFs hg hs).mono (Set.empty_subset g.fatSectors) (le_refl ∅)
    exact ⟨(syncFs g s).2, rfl, hkept.mono (le_refl _) (Set.empty_subset _),
      ⟨chains, hf.of_kept hg hkept, fun k hk _ => hk⟩,
      fun _ hcounted => hcounted.of_kept hg hkept (freeClst_syncFs g s)⟩

end Step

/-! ## The volume of four clusters -/

theorem forest_smallFs : smallFs.Forest smallGeometry [[2, 3, 5]] := by
  have hview : smallFs.view = smallFs.drive.sectors := Function.update_eq_self ..
  have hcells : smallGeometry.cell smallFs.view 2 = .next 3 ∧
      smallGeometry.cell smallFs.view 3 = .next 5 ∧ smallGeometry.cell smallFs.view 4 = .free ∧
      smallGeometry.cell smallFs.view 5 = .last := by
    rw [hview]
    decide
  obtain ⟨h2, h3, h4, h5⟩ := hcells
  refine ⟨fun l hl => ?_, by decide, fun c => ?_⟩
  · rw [List.mem_singleton.mp hl, Linked.cons_cons_iff, Linked.cons_cons_iff, Linked.singleton_iff]
    exact ⟨h2, h3, h5⟩
  · rw [mem_clusters]
    change c ∈ [2, 3, 5] ↔ _
    constructor
    · intro hc
      simp only [List.mem_cons, List.not_mem_nil, or_false] at hc
      rcases hc with rfl | rfl | rfl
      · exact ⟨by decide, by rw [h2]; nofun⟩
      · exact ⟨by decide, by rw [h3]; nofun⟩
      · exact ⟨by decide, by rw [h5]; nofun⟩
    · rintro ⟨hc, hused⟩
      obtain ⟨hlo, hhi⟩ : 2 ≤ c ∧ c < 6 := hc
      have hne : c ≠ 4 := fun heq => hused (heq ▸ h4)
      simp only [List.mem_cons, List.not_mem_nil, or_false]
      omega

theorem exact_smallFs : smallFs.Exact smallGeometry where
  sound := sound_smallFs
  untorn := fun _ => nofun
  forest := ⟨_, forest_smallFs⟩
  works := nofun
  counted := fun _ => (Nat.add_right_cancel (m := 3) forest_smallFs.card_free).symm
  mirrored := fun i (hi : i < 2) k (hk : k < 1) => by
    obtain rfl : k = 0 := Nat.lt_one_iff.mp hk
    obtain rfl | rfl : i = 0 ∨ i = 1 := by omega
    · rfl
    · rfl

/-- The free cluster is found. -/
theorem create_smallFs : ∃ s', AllocStep smallGeometry smallFs .create s' := by
  obtain ⟨s', hop, -⟩ := allocStep_spec valid_smallGeometry sound_smallFs (fun _ => nofun) forest_smallFs
    (show AllocOp.create.Allowed smallGeometry smallFs from trivial)
  exact ⟨s', trivial, hop⟩

/-! ## Runs -/

section Run

variable {s s' : Fs} {ts : List (Taken Fs AllocOp)}

theorem AllocStep.stepped (hg : g.Valid) (hs : s.Healthy g) {op : AllocOp} (h : AllocStep g s op s')
    {chains : List (List Nat)} (hf : s.Forest g chains) : Stepped g chains op s s' := by
  obtain ⟨s₁, hrun, hstep⟩ := allocStep_spec hg hs.sound hs.untorn hf h.1
  obtain rfl := Option.some.inj (hrun.symm.trans h.2)
  exact hstep

theorem preserved_healthy (hg : g.Valid) : Preserved (AllocStep g) (Fs.Healthy g) := by
  intro s op s' hs h
  obtain ⟨chains, hf⟩ := hs.forest
  have hstep := h.stepped hg hs hf
  obtain ⟨chains', hf', -⟩ := hstep.forest
  exact ⟨hstep.kept.sound, hstep.kept.untorn hs.untorn, ⟨chains', hf'⟩⟩

theorem preserved_exact (hg : g.Valid) : Preserved (AllocStep g) (Fs.Exact g) := by
  intro s op s' hs h
  obtain ⟨chains, hf⟩ := hs.forest
  have hstep := h.stepped hg hs.toHealthy hf
  exact ⟨preserved_healthy hg s op s' hs.toHealthy h, hstep.kept.works hs.works,
    hstep.counted hs.works hs.counted, hstep.kept.mirrored hs.works hs.mirrored⟩

/-- The table of a mounted volume stays chains, and its functions never loop forever. Of the drive nothing
is asked but what `Fs.Healthy.untorn` says of FAT12. -/
theorem run_healthy (hg : g.Valid) (hs : s.Healthy g) (hrun : Run (AllocStep g) s ts s') :
    (∃ chains, s'.Forest g chains) ∧
      ∀ op : AllocOp, op.Allowed g s' → ∃ s'', AllocStep g s' op s'' := by
  have hs' := hrun.invariant (preserved_healthy hg) hs
  obtain ⟨chains, hf⟩ := hs'.forest
  refine ⟨⟨chains, hf⟩, fun op hallowed => ?_⟩
  obtain ⟨s'', hop, -⟩ := allocStep_spec hg hs'.sound hs'.untorn hf hallowed
  exact ⟨s'', hallowed, hop⟩

theorem run_healthy_small : ∃ s', AllocStep smallGeometry smallFs .create s' ∧
    ∃ chains, s'.Forest smallGeometry chains := by
  have hs := exact_smallFs.toHealthy
  obtain ⟨s', hstep⟩ := (run_healthy valid_smallGeometry hs (.nil smallFs)).2 .create trivial
  exact ⟨s', hstep, (run_healthy valid_smallGeometry hs (.cons hstep (.nil s'))).1⟩

/-- While the drive works, the free clusters are counted and the copies of the table are equal. -/
theorem run_exact (hg : g.Valid) (hs : s.Exact g) (hrun : Run (AllocStep g) s ts s') :
    s'.Counted g ∧ s'.drive.Mirrored g := by
  have hs' := hrun.invariant (preserved_exact hg) hs
  exact ⟨hs'.counted, hs'.mirrored⟩

theorem run_exact_small : ∃ s', AllocStep smallGeometry smallFs .create s' ∧
    s'.Counted smallGeometry ∧ s'.drive.Mirrored smallGeometry := by
  obtain ⟨s', hstep⟩ := create_smallFs
  exact ⟨s', hstep, run_exact valid_smallGeometry exact_smallFs (.cons hstep (.nil s'))⟩

/-- The chain `k` is one of those of the volume. -/
def Fs.Owns (g : Geometry) (s : Fs) (k : List Nat) : Prop :=
  ∃ chains, s.Forest g chains ∧ k ∈ chains

/-- A chain that no operation is about is still there at the end, with the same exception for FAT12. -/
theorem run_untouched (hg : g.Valid) (hs : s.Healthy g) (hrun : Run (AllocStep g) s ts s')
    {k : List Nat} (hk : s.Owns g k) (hout : ∀ t ∈ ts, ∀ x ∈ t.input.targets, x ∉ k) :
    s'.Owns g k := by
  induction hrun with
  | nil => exact hk
  | @cons s s₁ s' op ts hstep _ ih =>
    rw [List.forall_mem_cons] at hout
    obtain ⟨chains, hf, hmem⟩ := hk
    obtain ⟨chains', hf', hkeep⟩ := (hstep.stepped hg hs hf).forest
    exact ih (preserved_healthy hg _ _ _ hs hstep) ⟨chains', hf', hkeep k hmem hout.1⟩ hout.2

theorem run_untouched_small : ∃ s', AllocStep smallGeometry smallFs .create s' ∧
    s'.Owns smallGeometry [2, 3, 5] := by
  obtain ⟨s', hstep⟩ := create_smallFs
  refine ⟨s', hstep, run_untouched valid_smallGeometry exact_smallFs.toHealthy (.cons hstep (.nil s'))
    ⟨_, forest_smallFs, List.mem_singleton_self _⟩ fun t ht x hx => ?_⟩
  rw [List.mem_singleton.mp ht] at hx
  exact absurd hx List.not_mem_nil

end Run

end GenLogger.Fat
