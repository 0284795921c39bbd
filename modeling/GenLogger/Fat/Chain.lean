import GenLogger.Fat.Table
import GenLogger.Lib.Chains
import Mathlib.Order.Interval.Finset.Nat

/-!
# Cluster chains (`remove_chain`, `create_chain`)

Model of the functions of `ff.c` that follow and change the chains of the table, with the search for a
free cluster and the counter `free_clst`.

* The entries of the table are links (`Geometry.cell`), and on a sound volume they are the chains of the
  files, each used cluster on one of them (`Fs.Forest`).
* Both functions walk the table with loops that no counter bounds. Here they have one, and where it would
  run out the model has no result; the results say that it does not.
* `create_chain(obj, clst)` allocates behind the end of a chain and follows the chain elsewhere.
* On FAT12 a failing drive may tear an entry, so that nothing is said of it there (`Fs.Untorn`).

Results:
* `removeChain_spec`: `remove_chain` frees what is behind, or a first part of it where the drive fails.
* `findFree_spec`: the search finds a free cluster, or there is none.
* `createChain_spec`: at the end of a chain a free cluster is put behind it, or there is none, or the drive
  has failed and at most one cluster is lost; `createChain_next`: inside of it, it is followed.
* `wflag_createChain`: where none is free, nothing is to be written either.
-/

namespace GenLogger.Fat

open GenLogger.Lib

variable {g : Geometry}

/-! ## `ff.c` -/

/-- `do .. while (clst < fs->n_fatent)` of `remove_chain`, for `fuel` rounds. -/
def removeLoop (g : Geometry) : Nat → Nat → Fs → Option (FResult × Fs)
  | 0, _, _ => none
  | fuel + 1, clst, s =>
    let (nxt, s) := getFat g clst s
    if nxt = 0 then some (.ok, s)
    else if nxt = 1 then some (.intErr, s)
    else if nxt = 0xFFFFFFFF then some (.diskErr, s)
    else
      let (res, s) := putFat g clst 0 s
      if res ≠ .ok then some (res, s)
      else
        let s := if s.freeClst < g.nFatent - 2 then
            { s with freeClst := s.freeClst + 1, fsiFlag := s.fsiFlag ||| 1 }
          else s
        if nxt < g.nFatent then removeLoop g fuel nxt s else some (.ok, s)

/-- `remove_chain`: from `clst` on, behind `pclst` unless it is `0`. -/
def removeChain (g : Geometry) (clst pclst : Nat) (s : Fs) : Option (FResult × Fs) :=
  if clst < 2 ∨ g.nFatent ≤ clst then some (.intErr, s)
  else
    let (res, s) := if pclst ≠ 0 then putFat g pclst 0xFFFFFFFF s else (.ok, s)
    if res ≠ .ok then some (res, s) else removeLoop g g.nFatent clst s

/-- `for (;;)` of `create_chain`, for `fuel` rounds: a free cluster, or what `create_chain` returns. -/
def findFree (g : Geometry) (scl : Nat) : Nat → Nat → Fs → Option (Except Nat Nat × Fs)
  | 0, _, _ => none
  | fuel + 1, ncl, s =>
    if g.nFatent ≤ ncl + 1 ∧ scl < 2 then some (.error 0, s)
    else
      let ncl := if g.nFatent ≤ ncl + 1 then 2 else ncl + 1
      let (cs, s) := getFat g ncl s
      if cs = 0 then some (.ok ncl, s)
      else if cs = 1 ∨ cs = 0xFFFFFFFF then some (.error cs, s)
      else if ncl = scl then some (.error 0, s)
      else findFree g scl fuel ncl s

/-- `create_chain` from the free cluster on: `ncl` is put behind `clst` unless that is `0`. -/
def linkChain (g : Geometry) (clst ncl : Nat) (s : Fs) : Nat × Fs :=
  let (res, s) := putFat g ncl 0xFFFFFFFF s
  let (res, s) := if res = .ok ∧ clst ≠ 0 then putFat g clst ncl s else (res, s)
  if res = .ok then
    (ncl, { s with
      lastClst := ncl
      freeClst := if s.freeClst ≤ g.nFatent - 2 then dwordSub s.freeClst 1 else s.freeClst
      fsiFlag := s.fsiFlag ||| 1 })
  else (if res = .diskErr then 0xFFFFFFFF else 1, s)

/-- `create_chain` from `scl` on. -/
def allocate (g : Geometry) (clst scl : Nat) (s : Fs) : Option (Nat × Fs) :=
  (findFree g scl g.nFatent scl s).map fun (found, s) =>
    match found with
    | .error v => (v, s)
    | .ok ncl => linkChain g clst ncl s

/-- `create_chain`: `0` where there is no free cluster, `1` and `0xFFFFFFFF` for an error. -/
def createChain (g : Geometry) (clst : Nat) (s : Fs) : Option (Nat × Fs) :=
  if clst = 0 then
    allocate g 0 (if s.lastClst = 0 ∨ g.nFatent ≤ s.lastClst then 1 else s.lastClst) s
  else
    let (cs, s) := getFat g clst s
    if cs < 2 then some (1, s)
    else if cs = 0xFFFFFFFF then some (cs, s)
    else if cs < g.nFatent then some (cs, s)
    else allocate g clst clst s

/-! ## The table as links -/

/-- The numbers of the clusters. -/
def Geometry.clusters (g : Geometry) : Finset Nat := Finset.Ico 2 g.nFatent

/-- What the entry of a cluster means. -/
def Geometry.cell (g : Geometry) (v : Nat → Sector) (c : Nat) : Cell Nat :=
  if g.entry v c = 0 then .free else if g.entry v c < g.nFatent then .next (g.entry v c) else .last

/-- The used clusters are these chains, each of them once. -/
def Fs.Forest (g : Geometry) (s : Fs) (chains : List (List Nat)) : Prop :=
  Lib.Forest (g.cell s.view) g.clusters chains

/-- A failure of the drive does not tear an entry. -/
def Fs.Untorn (g : Geometry) (s : Fs) : Prop := g.fsType = .fat12 → s.drive.Works

theorem Kept.untorn {seen written : Set Nat} {s s' : Fs} (h : Kept g seen written s s')
    (hs : s.Untorn g) : s'.Untorn g :=
  fun hfs => h.works (hs hfs)

/-- The members that the window is not about. -/
theorem Kept.setInfo {seen written : Set Nat} {s s' : Fs} (h : Kept g seen written s s')
    (lastClst freeClst : Nat) (fsiFlag : UInt8) : Kept g seen written s
      { s' with lastClst := lastClst, freeClst := freeClst, fsiFlag := fsiFlag } :=
  ⟨⟨h.sound.winsect, h.sound.coherent, h.sound.dirty⟩, h.view, h.drive, h.winsect, h.works, h.mirrored⟩

theorem mem_clusters {c : Nat} : c ∈ g.clusters ↔ 2 ≤ c ∧ c < g.nFatent := Finset.mem_Ico

theorem cell_congr {v v' : Nat → Sector} {c : Nat} (h : g.entry v' c = g.entry v c) :
    g.cell v' c = g.cell v c := by
  unfold Geometry.cell
  rw [h]

theorem cell_eq_free_iff {v : Nat → Sector} {c : Nat} : g.cell v c = .free ↔ g.entry v c = 0 := by
  unfold Geometry.cell
  split
  · next h => exact iff_of_true rfl h
  · next h => split <;> exact iff_of_false nofun h

theorem cell_eq_last_iff (hg : g.Valid) {v : Nat → Sector} {c : Nat} :
    g.cell v c = .last ↔ g.nFatent ≤ g.entry v c := by
  have hpos := hg.nFatent
  unfold Geometry.cell
  split
  · exact iff_of_false nofun (by omega)
  · split
    · exact iff_of_false nofun (by omega)
    · exact iff_of_true rfl (by omega)

theorem entry_of_next {v : Nat → Sector} {c d : Nat} (h : g.cell v c = .next d) :
    g.entry v c = d ∧ d ≠ 0 ∧ d < g.nFatent := by
  unfold Geometry.cell at h
  split at h
  · cases h
  · split at h
    · next h₀ h₁ =>
      cases h
      exact ⟨rfl, h₀, h₁⟩
    · cases h

theorem cell_eq_next {v : Nat → Sector} {c d : Nat} (h : g.entry v c = d) (hd : d ∈ g.clusters) :
    g.cell v c = .next d := by
  obtain ⟨h2, hlt⟩ := mem_clusters.mp hd
  unfold Geometry.cell
  rw [h, if_neg (by omega), if_pos hlt]

/-- The mark of the end is beyond the clusters. -/
theorem eoc_le (hg : g.Valid) : g.nFatent ≤ 0xFFFFFFFF % 2 ^ g.fsType.width ∧
    0xFFFFFFFF % 2 ^ g.fsType.width ≠ 0 := by
  have hclusters := hg.clusters
  cases hfs : g.fsType <;> rw [hfs] at hclusters <;> simp only [FsType.width] at hclusters ⊢ <;> omega

theorem entry_ne_fail (g : Geometry) (v : Nat → Sector) (c : Nat) : g.entry v c ≠ 0xFFFFFFFF := by
  have hlt := g.entry_lt v c
  have hwidth : 2 ^ g.fsType.width ≤ 2 ^ 28 := Nat.pow_le_pow_right (by decide) (by
    cases g.fsType <;> decide)
  omega

/-! ## `remove_chain` -/

section Remove

variable {s : Fs}

/-- What the loop of `remove_chain` does to the chain `l`: the clusters `m` at its head are freed and
counted, and no other entry is changed. It stops before the end when the drive fails. -/
structure Removed (g : Geometry) (l : List Nat) (s : Fs) (r : FResult × Fs) (m : List Nat) : Prop where
  kept : Kept g g.fatSectors g.fatSectors s r.2
  isPrefix : m <+: l
  freed : ∀ c ∈ m, g.cell r.2.view c = .free
  others : ∀ c ∈ g.clusters, c ∉ m → g.cell r.2.view c = g.cell s.view c
  ok : r.1 = .ok → m = l
  res : r.1 = .ok ∨ r.1 = .diskErr
  works : s.drive.Works → r.1 = .ok
  lastClst : r.2.lastClst = s.lastClst
  freeClst : r.2.freeClst =
    if s.freeClst ≤ g.nFatent - 2 then min (s.freeClst + m.length) (g.nFatent - 2) else s.freeClst

/-- It stops at once. -/
theorem Removed.none {l : List Nat} {r : FResult × Fs}
    (hkept : Kept g g.fatSectors g.fatSectors s r.2) (hinfo : r.2.info = s.info)
    (hcells : ∀ c ∈ g.clusters, g.cell r.2.view c = g.cell s.view c) (hres : r.1 = .diskErr)
    (hworks : ¬ s.drive.Works) : Removed g l s r [] where
  kept := hkept
  isPrefix := List.nil_prefix
  freed := nofun
  others c hc _ := hcells c hc
  ok h := absurd (hres.symm.trans h) nofun
  res := .inr hres
  works hd := absurd hd hworks
  lastClst := congrArg Prod.fst hinfo
  freeClst := by
    have hfree : r.2.freeClst = s.freeClst := congrArg (fun i => i.2.1) hinfo
    rw [hfree, List.length_nil, Nat.add_zero]
    split
    · next h => exact (Nat.min_eq_left h).symm
    · rfl

/-- One round that frees the cluster `c`. -/
structure Freed (g : Geometry) (c : Nat) (s s' : Fs) : Prop where
  kept : Kept g g.fatSectors g.fatSectors s s'
  freed : g.cell s'.view c = .free
  others : ∀ c' ∈ g.clusters, c' ≠ c → g.cell s'.view c' = g.cell s.view c'
  lastClst : s'.lastClst = s.lastClst
  freeClst : s'.freeClst = if s.freeClst < g.nFatent - 2 then s.freeClst + 1 else s.freeClst

theorem Freed.done {c : Nat} {s' : Fs} (h : Freed g c s s') : Removed g [c] s (.ok, s') [c] where
  kept := h.kept
  isPrefix := List.prefix_rfl
  freed x hx := (List.mem_singleton.mp hx) ▸ h.freed
  others x hx hne := h.others x hx (fun heq => hne (List.mem_singleton.mpr heq))
  ok _ := rfl
  res := .inl rfl
  works _ := rfl
  lastClst := h.lastClst
  freeClst := by
    rw [h.freeClst, List.length_singleton]
    split_ifs <;> omega

theorem Freed.cons {c : Nat} {l m : List Nat} {s' : Fs} {r : FResult × Fs} (h : Freed g c s s')
    (hr : Removed g l s' r m) (hc : c ∈ g.clusters) (hnotMem : c ∉ l) :
    Removed g (c :: l) s r (c :: m) where
  kept := h.kept.trans hr.kept
  isPrefix := List.cons_prefix_cons.mpr ⟨rfl, hr.isPrefix⟩
  freed x hx := by
    rcases List.mem_cons.mp hx with rfl | hx
    · rw [hr.others x hc (fun hm => hnotMem (hr.isPrefix.subset hm)), h.freed]
    · exact hr.freed x hx
  others x hx hne := by
    obtain ⟨hxc, hxm⟩ := not_or.mp (mt List.mem_cons.mpr hne)
    rw [hr.others x hx hxm, h.others x hx hxc]
  ok hok := congrArg (c :: ·) (hr.ok hok)
  res := hr.res
  works hd := hr.works (h.kept.works hd)
  lastClst := hr.lastClst.trans h.lastClst
  freeClst := by
    rw [hr.freeClst, h.freeClst, List.length_cons]
    split_ifs <;> omega

/-- A round either frees its cluster or is the last, with nothing done. -/
theorem removeLoop_succ (hg : g.Valid) (hs : s.Sound g) (huntorn : s.Untorn g) {c : Nat}
    (hc : c ∈ g.clusters) (h0 : g.entry s.view c ≠ 0) (h1 : g.entry s.view c ≠ 1) (fuel : Nat)
    (l : List Nat) :
    (∃ r, removeLoop g (fuel + 1) c s = some r ∧ Removed g l s r []) ∨
      ∃ s', Freed g c s s' ∧ removeLoop g (fuel + 1) c s =
        if g.entry s.view c < g.nFatent then removeLoop g fuel (g.entry s.view c) s'
        else some (.ok, s') := by
  obtain ⟨h2, hlt⟩ := mem_clusters.mp hc
  have hget := getFat_spec hg hs h2 hlt
  have hentry := fun c' (hc' : c' < g.nFatent) => hget.kept.entry hg g.notMem_empty hc'
  rw [removeLoop]
  revert hget hentry
  generalize getFat g c s = r₁
  intro hget hentry
  have hkept₁ := hget.kept.mono (le_refl _) (Set.empty_subset g.fatSectors)
  have hcells₁ : ∀ c' ∈ g.clusters, g.cell r₁.2.view c' = g.cell s.view c' := fun c' hc' =>
    cell_congr (hentry c' (mem_clusters.mp hc').2)
  rcases hget.val with hfail | hval
  · refine .inl ⟨(.diskErr, r₁.2), ?_, .none hkept₁ hget.info hcells₁ rfl fun hd => ?_⟩
    · simp only [hfail]
      rfl
    · exact entry_ne_fail g s.view c ((hget.works hd).symm.trans hfail)
  · have hput := putFat_spec hg hget.kept.sound h2 hlt 0
    simp only [hval, if_neg h0, if_neg h1, if_neg (entry_ne_fail g s.view c)]
    revert hput
    generalize putFat g c 0 r₁.2 = r₂
    intro hput
    have hkept₂ := hkept₁.trans hput.kept
    by_cases hok : r₂.1 = .ok
    · have hcell : g.cell r₂.2.view c = .free := by
        rw [cell_eq_free_iff, hput.val hok, Nat.zero_mod]
      have hothers : ∀ c' ∈ g.clusters, c' ≠ c → g.cell r₂.2.view c' = g.cell s.view c' :=
        fun c' hc' hne =>
          (cell_congr (hput.others c' (mem_clusters.mp hc').2 hne)).trans (hcells₁ c' hc')
      have hinfo := hput.info.trans hget.info
      have hlast : r₂.2.lastClst = s.lastClst := congrArg Prod.fst hinfo
      have hfree : r₂.2.freeClst = s.freeClst := congrArg (fun i => i.2.1) hinfo
      rw [if_neg (not_not.mpr hok)]
      refine .inr ⟨_, ?_, rfl⟩
      by_cases hcount : r₂.2.freeClst < g.nFatent - 2
      · rw [if_pos hcount]
        refine ⟨hkept₂.setInfo _ _ _, hcell, hothers, hlast, ?_⟩
        rw [if_pos (hfree ▸ hcount), hfree]
      · rw [if_neg hcount]
        refine ⟨hkept₂, hcell, hothers, hlast, ?_⟩
        rw [if_neg (hfree ▸ hcount), hfree]
    · rw [if_pos hok]
      have hworks : ¬ s.drive.Works := fun hd => hok (hput.works (hkept₁.works hd))
      refine .inl ⟨r₂, rfl, .none hkept₂ (hput.info.trans hget.info) (fun c' hc' => ?_)
        (hput.res.resolve_left hok) hworks⟩
      by_cases hne : c' = c
      · subst hne
        rw [cell_congr (hput.failed hok fun hfs => hworks (huntorn hfs)), hcells₁ c' hc']
      · rw [cell_congr (hput.others c' (mem_clusters.mp hc').2 hne), hcells₁ c' hc']

theorem removeLoop_spec (hg : g.Valid) {l : List Nat} {fuel c : Nat} (hs : s.Sound g)
    (huntorn : s.Untorn g) (hlinked : Linked (g.cell s.view) (c :: l))
    (hclusters : ∀ x ∈ c :: l, x ∈ g.clusters) (hnodup : (c :: l).Nodup)
    (hfuel : (c :: l).length ≤ fuel) :
    ∃ r m, removeLoop g fuel c s = some r ∧ Removed g (c :: l) s r m := by
  obtain ⟨fuel, rfl⟩ := Nat.exists_eq_add_of_le' (Nat.lt_of_lt_of_le (Nat.succ_pos _) hfuel)
  have hc := hclusters c List.mem_cons_self
  induction l generalizing fuel c s with
  | nil =>
    have hlast := (cell_eq_last_iff hg).mp (Linked.singleton_iff.mp hlinked)
    have hn := hg.nFatent
    rcases removeLoop_succ hg hs huntorn hc (by omega) (by omega) fuel [c] with
      ⟨r, hr, hnone⟩ | ⟨s', hfreed, hstep⟩
    · exact ⟨r, [], hr, hnone⟩
    · rw [if_neg (by omega)] at hstep
      exact ⟨_, [c], hstep, hfreed.done⟩
  | cons d l ih =>
    obtain ⟨hnext, hlinked'⟩ := Linked.cons_cons_iff.mp hlinked
    obtain ⟨hentry, h0, hlt⟩ := entry_of_next hnext
    have hd : d ∈ g.clusters := hclusters d (List.mem_cons_of_mem c List.mem_cons_self)
    have h2 := (mem_clusters.mp hd).1
    rcases removeLoop_succ hg hs huntorn hc (by omega) (by omega) fuel (c :: d :: l) with
      ⟨r, hr, hnone⟩ | ⟨s', hfreed, hstep⟩
    · exact ⟨r, [], hr, hnone⟩
    · obtain ⟨hnotMem, hnodup'⟩ := List.nodup_cons.mp hnodup
      rw [hentry, if_pos hlt] at hstep
      have hlinked'' : Linked (g.cell s'.view) (d :: l) := hlinked'.congr fun x hx =>
        hfreed.others x (hclusters x (List.mem_cons_of_mem c hx)) fun heq => hnotMem (heq ▸ hx)
      have hlength : (d :: l).length ≤ fuel := Nat.le_of_succ_le_succ hfuel
      obtain ⟨fuel, rfl⟩ := Nat.exists_eq_add_of_le' (Nat.lt_of_lt_of_le (Nat.succ_pos _) hlength)
      obtain ⟨r, m, hr, hremoved⟩ := ih hfreed.kept.sound (hfreed.kept.untorn huntorn) hlinked''
        (fun x hx => hclusters x (List.mem_cons_of_mem c hx)) hnodup' fuel hlength hd
      exact ⟨r, c :: m, hstep.trans hr, hfreed.cons hremoved hc hnotMem⟩

/-- `fs->free_clst` is the number of free clusters where it is a number of clusters. -/
def Fs.Counted (g : Geometry) (s : Fs) : Prop :=
  s.freeClst ≤ g.nFatent - 2 →
    s.freeClst = (g.clusters.filter fun c => g.cell s.view c = .free).card

theorem Fs.Forest.card_free {chains : List (List Nat)} (h : s.Forest g chains) :
    (g.clusters.filter fun c => g.cell s.view c = .free).card + chains.flatten.length =
      g.nFatent - 2 := by
  have hcard := Lib.Forest.card_free h
  rwa [Geometry.clusters, Nat.card_Ico] at hcard

/-- What `remove_chain` makes of a chain `l ++ m` that it is to cut behind `l`. -/
structure Cut (g : Geometry) (as bs : List (List Nat)) (l m : List Nat) (s : Fs) (r : FResult × Fs) :
    Prop where
  kept : Kept g g.fatSectors g.fatSectors s r.2
  ok : r.1 = .ok → r.2.Forest g (as ++ l :: bs)
  forest : ∃ l' rest, (l' = l ∨ l' = l ++ m) ∧ rest <:+ m ∧ r.2.Forest g (as ++ l' :: rest :: bs)
  res : r.1 = .ok ∨ r.1 = .diskErr
  works : s.drive.Works → r.1 = .ok
  counted : s.Counted g → r.2.Counted g
  lastClst : r.2.lastClst = s.lastClst

/-- The entry of the cluster before, marked as the end. -/
theorem removeLoop_cut (hg : g.Valid) {s₁ : Fs} {as bs : List (List Nat)} {l m : List Nat} {c : Nat}
    (hf : s.Forest g (as ++ (l ++ c :: m) :: bs)) (hkept : Kept g g.fatSectors g.fatSectors s s₁)
    (hinfo : s₁.info = s.info) (huntorn : s.Untorn g)
    (hends : ∀ x ∈ l.getLast?, g.cell s₁.view x = .last)
    (hother : ∀ y ∈ g.clusters, y ∉ l.getLast? → g.cell s₁.view y = g.cell s.view y) :
    ∃ r, removeLoop g g.nFatent c s₁ = some r ∧ Cut g as bs l (c :: m) s r := by
  have hin : ∀ x ∈ l ++ c :: m, x ∈ g.clusters := fun x => Lib.Forest.subset hf
  have hnodup := Lib.Forest.nodup_chain hf
  obtain ⟨-, hnodup', hdisjoint⟩ := List.nodup_append'.mp hnodup
  have hchain : Linked (g.cell s₁.view) (c :: m) := by
    refine (Lib.Forest.chain hf).right.congr fun x hx => hother x (hin x (by grind)) fun hend => ?_
    exact hdisjoint (List.mem_of_getLast? hend) hx
  have hlength : (c :: m).length ≤ g.nFatent := by
    have hcard := hf.card_free
    have hle : (c :: m).length ≤ (as ++ (l ++ c :: m) :: bs).flatten.length := by
      simp only [List.flatten_append, List.flatten_cons, List.length_append]
      omega
    omega
  obtain ⟨r, m', hr, hremoved⟩ := removeLoop_spec hg hkept.sound (hkept.untorn huntorn) hchain
    (fun x hx => hin x (by grind)) hnodup' hlength
  obtain ⟨rest, hsplit⟩ := hremoved.isPrefix
  have hforest : r.2.Forest g (as ++ l :: rest :: bs) := by
    rw [Fs.Forest, ← hsplit, ← List.append_assoc] at hf
    refine Lib.Forest.cut hf hremoved.freed (fun x hx => ?_) fun y hy hym hend => ?_
    · have hxl := List.mem_of_getLast? hx
      rw [hremoved.others x (hin x (by grind)) (fun hxm => hdisjoint hxl (hsplit ▸ by grind)),
        hends x hx]
    · rw [hremoved.others y hy hym, hother y hy hend]
  refine ⟨r, hr, hkept.trans hremoved.kept, fun hok => ?_, ⟨l, rest, .inl rfl, ⟨m', hsplit⟩, hforest⟩,
    hremoved.res, fun hd => hremoved.works (hkept.works hd), fun hcounted hle => ?_,
    hremoved.lastClst.trans (congrArg Prod.fst hinfo)⟩
  · have hrest : rest = [] := by
      have h := hremoved.ok hok
      rw [h, List.append_right_eq_self] at hsplit
      exact hsplit
    subst hrest
    exact Lib.Forest.nil_behind_iff.mp hforest
  · have hfree : s₁.freeClst = s.freeClst := congrArg (fun i => i.2.1) hinfo
    have hcard := hf.card_free
    have hcard' := hforest.card_free
    have hsum : (as ++ (l ++ c :: m) :: bs).flatten.length =
        (as ++ l :: rest :: bs).flatten.length + m'.length := by
      rw [← hsplit]
      simp only [List.flatten_append, List.flatten_cons, List.length_append]
      omega
    have hcount := hremoved.freeClst
    rw [hfree] at hcount
    by_cases hknown : s.freeClst ≤ g.nFatent - 2
    · have h := hcounted hknown
      rw [if_pos hknown] at hcount
      omega
    · rw [if_neg hknown] at hcount
      omega

/-- `remove_chain` cuts a chain behind the cluster it is given, or frees all of it. -/
theorem removeChain_spec (hg : g.Valid) (hs : s.Sound g) (huntorn : s.Untorn g)
    {as bs : List (List Nat)} {l m : List Nat} {c : Nat}
    (hf : s.Forest g (as ++ (l ++ c :: m) :: bs)) :
    ∃ r, removeChain g c (l.getLast?.getD 0) s = some r ∧ Cut g as bs l (c :: m) s r := by
  have hin : ∀ x ∈ l ++ c :: m, x ∈ g.clusters := fun x => Lib.Forest.subset hf
  obtain ⟨h2, hlt⟩ := mem_clusters.mp (hin c (by grind))
  unfold removeChain
  rw [if_neg (by omega)]
  cases hlast : l.getLast? with
  | none =>
    have hcut := removeLoop_cut hg hf (.refl hs) rfl huntorn (by rw [hlast]; nofun) fun _ _ _ => rfl
    simpa using hcut
  | some x =>
    obtain ⟨h2x, hltx⟩ := mem_clusters.mp (hin x (by grind [List.mem_of_getLast? hlast]))
    have hput := putFat_spec hg hs h2x hltx 0xFFFFFFFF
    simp only [Option.getD_some, if_pos (show x ≠ 0 by omega)]
    revert hput
    generalize putFat g x 0xFFFFFFFF s = r₁
    intro hput
    by_cases hok : r₁.1 = .ok
    · rw [if_neg (not_not.mpr hok)]
      refine removeLoop_cut hg hf hput.kept hput.info huntorn ?_ ?_
      · intro y hy
        rw [hlast] at hy
        cases hy
        rw [cell_eq_last_iff hg, hput.val hok]
        exact (eoc_le hg).1
      · intro y hy hend
        refine cell_congr (hput.others y (mem_clusters.mp hy).2 fun heq => hend ?_)
        rw [heq, hlast]
        rfl
    · rw [if_pos hok]
      have hworks : ¬ s.drive.Works := fun hd => hok (hput.works hd)
      have hcells : ∀ y ∈ g.clusters, g.cell r₁.2.view y = g.cell s.view y := by
        intro y hy
        by_cases hne : y = x
        · subst hne
          exact cell_congr (hput.failed hok fun hfs => hworks (huntorn hfs))
        · exact cell_congr (hput.others y (mem_clusters.mp hy).2 hne)
      have hforest : r₁.2.Forest g (as ++ (l ++ c :: m) :: bs) := Lib.Forest.congr hf hcells
      have hfree : r₁.2.freeClst = s.freeClst := congrArg (fun i => i.2.1) hput.info
      refine ⟨r₁, rfl, hput.kept, fun h => absurd h hok, ⟨l ++ c :: m, [], .inr rfl, List.nil_suffix,
        Lib.Forest.nil_behind_iff.mpr hforest⟩, hput.res, fun hd => absurd hd hworks,
        fun hcounted hle => ?_, congrArg Prod.fst hput.info⟩
      have hcard := hf.card_free
      have hcard' := hforest.card_free
      have h := hcounted (hfree ▸ hle)
      omega

end Remove

/-! ## The search for a free cluster -/

section Search

variable {s : Fs} {scl : Nat}

/-- What the search comes to. `0` means that there is no free cluster, `1` that the table has an entry
which is none. -/
structure Found (g : Geometry) (s : Fs) (r : Except Nat Nat × Fs) : Prop where
  kept : Kept g g.fatSectors ∅ s r.2
  info : r.2.info = s.info
  found : ∀ c, r.1 = .ok c → c ∈ g.clusters ∧ g.entry s.view c = 0
  full : r.1 = .error 0 → ∀ c ∈ g.clusters, g.entry s.view c ≠ 0
  error : ∀ v, r.1 = .error v → v = 0 ∨ (v = 1 ∧ ∃ c ∈ g.clusters, g.entry s.view c = 1) ∨
    (v = 0xFFFFFFFF ∧ ¬ s.drive.Works)

/-- The clusters that the search from `scl` on has seen when it is at `ncl`. -/
def Seen (scl ncl c : Nat) : Prop := if scl ≤ ncl then scl < c ∧ c ≤ ncl else scl < c ∨ c ≤ ncl

/-- The rounds that are left. -/
def left (n scl ncl : Nat) : Nat := if scl ≤ ncl then n - 1 - ncl + scl else scl - ncl

/-- The cluster after `ncl`. -/
def after (n ncl : Nat) : Nat := if n ≤ ncl + 1 then 2 else ncl + 1

theorem after_mem {n ncl : Nat} (hscl : scl < n) (hpos : 1 ≤ ncl)
    (hend : ¬ (n ≤ ncl + 1 ∧ scl < 2)) : 2 ≤ after n ncl ∧ after n ncl < n := by
  unfold after
  split_ifs <;> omega

theorem seen_after {n ncl c : Nat} (hncl : ncl < n) (h2 : 2 ≤ c) (hc : c < n)
    (hseen : Seen scl (after n ncl) c) : Seen scl ncl c ∨ c = after n ncl := by
  unfold Seen after at *
  split_ifs at * <;> omega

/-- Back at `scl`, all clusters were seen. -/
theorem seen_all {n ncl c : Nat} (hncl : ncl < n) (h2 : 2 ≤ c) (hc : c < n)
    (heq : after n ncl = scl) : Seen scl ncl c ∨ c = after n ncl := by
  unfold Seen after at *
  split_ifs at * <;> omega

theorem left_after {n ncl : Nat} (h1 : 1 ≤ scl) (hscl : scl < n) (hncl : ncl < n)
    (hend : ¬ (n ≤ ncl + 1 ∧ scl < 2)) (hne : after n ncl ≠ scl) :
    left n scl (after n ncl) < left n scl ncl := by
  unfold left after at *
  split_ifs at * <;> omega

theorem Found.of_kept {s₁ : Fs} {r : Except Nat Nat × Fs} (hg : g.Valid)
    (hkept : Kept g g.fatSectors ∅ s s₁) (hinfo : s₁.info = s.info) (h : Found g s₁ r) :
    Found g s r := by
  have hentry : ∀ c ∈ g.clusters, g.entry s₁.view c = g.entry s.view c := fun c hc =>
    hkept.entry hg g.notMem_empty (mem_clusters.mp hc).2
  exact {
    kept := hkept.trans h.kept
    info := h.info.trans hinfo
    found := fun c hc => by
      obtain ⟨hmem, hzero⟩ := h.found c hc
      exact ⟨hmem, hentry c hmem ▸ hzero⟩
    full := fun hfull c hc => hentry c hc ▸ h.full hfull c hc
    error := fun v hv => by
      rcases h.error v hv with h0 | ⟨h1, c, hc, hentry1⟩ | ⟨hfail, hworks⟩
      · exact .inl h0
      · exact .inr (.inl ⟨h1, c, hc, hentry c hc ▸ hentry1⟩)
      · exact .inr (.inr ⟨hfail, fun hd => hworks (hkept.works hd)⟩) }

theorem findFree_from (hg : g.Valid) (h1 : 1 ≤ scl) (hscl : scl < g.nFatent) {fuel ncl : Nat}
    (hs : s.Sound g) (hpos : 1 ≤ ncl) (hncl : ncl < g.nFatent)
    (hseen : ∀ c ∈ g.clusters, Seen scl ncl c → g.entry s.view c ≠ 0)
    (hfuel : left g.nFatent scl ncl < fuel) :
    ∃ r, findFree g scl fuel ncl s = some r ∧ Found g s r := by
  induction fuel generalizing ncl s with
  | zero => exact absurd hfuel (Nat.not_lt_zero _)
  | succ fuel ih =>
    rw [findFree]
    by_cases hend : g.nFatent ≤ ncl + 1 ∧ scl < 2
    · -- a new chain without a hint: all clusters were seen
      rw [if_pos hend]
      refine ⟨_, rfl, .refl hs, rfl, nofun, fun _ c hc => hseen c hc ?_, fun v hv => .inl ?_⟩
      · have hmem := mem_clusters.mp hc
        rw [Seen, if_pos (by omega)]
        omega
      · cases hv
        rfl
    · have hmem := after_mem hscl hpos hend
      have hget := getFat_spec hg hs hmem.1 hmem.2
      have hentry : ∀ c ∈ g.clusters, g.entry (getFat g (after g.nFatent ncl) s).2.view c =
          g.entry s.view c := fun c hc => hget.kept.entry hg g.notMem_empty (mem_clusters.mp hc).2
      rw [if_neg hend]
      simp only
      rw [← after]
      revert hget hentry
      generalize getFat g (after g.nFatent ncl) s = r₁
      intro hget hentry
      by_cases h0 : r₁.1 = 0
      · rw [if_pos h0]
        refine ⟨_, rfl, hget.kept, hget.info, fun c hc => ?_, nofun, nofun⟩
        cases hc
        rcases hget.val with hfail | hval
        · exact absurd (h0.symm.trans hfail) (by decide)
        · exact ⟨mem_clusters.mpr hmem, hval.symm.trans h0⟩
      · rw [if_neg h0]
        by_cases herr : r₁.1 = 1 ∨ r₁.1 = 0xFFFFFFFF
        · rw [if_pos herr]
          refine ⟨_, rfl, hget.kept, hget.info, nofun, fun hfull => ?_, fun v hv => ?_⟩
          · exact absurd (Except.error.inj hfull) h0
          · obtain rfl := Except.error.inj hv
            rcases hget.val with hfail | hval
            · exact .inr (.inr ⟨hfail, fun hd => entry_ne_fail g _ _ ((hget.works hd).symm.trans hfail)⟩)
            · refine .inr (.inl ?_)
              have hone := herr.resolve_right fun hfail => entry_ne_fail g _ _ (hval.symm.trans hfail)
              exact ⟨hone, _, mem_clusters.mpr hmem, hval.symm.trans hone⟩
        · rw [if_neg herr]
          have hval := hget.val.resolve_left fun hfail => herr (.inr hfail)
          have hused : ∀ c ∈ g.clusters, Seen scl ncl c ∨ c = after g.nFatent ncl →
              g.entry s.view c ≠ 0 := by
            rintro c hc (hold | rfl)
            · exact hseen c hc hold
            · exact fun h => h0 (hval.trans h)
          by_cases hback : after g.nFatent ncl = scl
          · rw [if_pos hback]
            refine ⟨_, rfl, hget.kept, hget.info, nofun, fun _ c hc => hused c hc ?_, fun v hv => .inl ?_⟩
            · have hc' := mem_clusters.mp hc
              exact seen_all hncl hc'.1 hc'.2 hback
            · cases hv
              rfl
          · rw [if_neg hback]
            have hless := left_after h1 hscl hncl hend hback
            obtain ⟨r, hr, hfound⟩ := ih hget.kept.sound (by omega) hmem.2 (fun c hc hc' => by
              have hcluster := mem_clusters.mp hc
              rw [hentry c hc]
              exact hused c hc (seen_after hncl hcluster.1 hcluster.2 hc')) (by omega)
            exact ⟨r, hr, hfound.of_kept hg hget.kept hget.info⟩

theorem findFree_spec (hg : g.Valid) (hs : s.Sound g) (h1 : 1 ≤ scl) (hscl : scl < g.nFatent) :
    ∃ r, findFree g scl g.nFatent scl s = some r ∧ Found g s r := by
  refine findFree_from hg h1 hscl hs h1 hscl (fun c hc hseen => ?_) ?_
  · rw [Seen, if_pos (le_refl scl)] at hseen
    omega
  · rw [left, if_pos (le_refl scl)]
    omega

/-- The search has nothing to be written back, and finds no cluster with the number `0`. -/
theorem wflag_findFree {fuel ncl : Nat} {s : Fs} (hclean : s.wflag = false) {r : Except Nat Nat × Fs}
    (hr : findFree g scl fuel ncl s = some r) : r.2.wflag = false ∧ r.1 ≠ .ok 0 := by
  induction fuel generalizing ncl s with
  | zero => cases hr
  | succ fuel ih =>
    have hget := wflag_getFat (g := g) (if g.nFatent ≤ ncl + 1 then 2 else ncl + 1) hclean
    rw [findFree] at hr
    simp only at hr
    split_ifs at hr <;> grind

end Search

/-! ## `create_chain` -/

section Create

variable {s : Fs}

/-- What `create_chain` makes of a chain `l` that it is to stretch: a cluster that was free is put at
its end, or there is none. Where the drive fails, the cluster may be on its own. -/
structure Grown (g : Geometry) (as bs : List (List Nat)) (l : List Nat) (s : Fs) (r : Nat × Fs) :
    Prop where
  kept : Kept g g.fatSectors g.fatSectors s r.2
  val : (r.1 = 0 ∧ ∀ c ∈ g.clusters, g.cell s.view c ≠ .free) ∨
    (r.1 ∈ g.clusters ∧ g.cell s.view r.1 = .free) ∨ (r.1 = 0xFFFFFFFF ∧ ¬ s.drive.Works)
  full : r.1 = 0 → r.2.Forest g (as ++ l :: bs)
  grown : r.1 ∈ g.clusters → r.2.Forest g (as ++ (l ++ [r.1]) :: bs)
  failed : r.1 = 0xFFFFFFFF → ∃ lost, lost.length ≤ 1 ∧ r.2.Forest g (as ++ l :: lost :: bs)
  counted : r.1 ≠ 0xFFFFFFFF → s.Counted g → r.2.Counted g

theorem notMem_clusters_zero (g : Geometry) : 0 ∉ g.clusters := fun h =>
  absurd (mem_clusters.mp h).1 (by decide)

theorem notMem_clusters_fail (hg : g.Valid) : 0xFFFFFFFF ∉ g.clusters := by
  intro h
  have hlt := (mem_clusters.mp h).2
  have hclusters := hg.clusters
  have hwidth : 2 ^ g.fsType.width ≤ 2 ^ 28 := Nat.pow_le_pow_right (by decide) (by
    cases g.fsType <;> decide)
  omega

/-- The entries that put the cluster `c` behind `l`, written or not. -/
structure PutBehind (g : Geometry) (as bs : List (List Nat)) (l : List Nat) (c : Nat) (s : Fs)
    (r : FResult × Fs) : Prop where
  kept : Kept g g.fatSectors g.fatSectors s r.2
  info : r.2.info = s.info
  ok : r.1 = .ok → r.2.Forest g (as ++ (l ++ [c]) :: bs)
  failed : r.1 ≠ .ok → ∃ lost, lost.length ≤ 1 ∧ r.2.Forest g (as ++ l :: lost :: bs)
  res : r.1 = .ok ∨ r.1 = .diskErr
  works : s.drive.Works → r.1 = .ok

theorem PutBehind.grown (hg : g.Valid) {as bs : List (List Nat)} {l : List Nat} {c : Nat}
    (hf : s.Forest g (as ++ l :: bs)) (hc : c ∈ g.clusters) (hfree : g.cell s.view c = .free)
    {r : FResult × Fs} (h : PutBehind g as bs l c s r) : Grown g as bs l s
      (if r.1 = .ok then
        (c, { r.2 with
          lastClst := c
          freeClst := if r.2.freeClst ≤ g.nFatent - 2 then dwordSub r.2.freeClst 1 else r.2.freeClst
          fsiFlag := r.2.fsiFlag ||| 1 })
      else (if r.1 = .diskErr then 0xFFFFFFFF else 1, r.2)) := by
  have hc0 : c ≠ 0 := fun h0 => notMem_clusters_zero g (h0 ▸ hc)
  have hcfail : c ≠ 0xFFFFFFFF := fun hfail => notMem_clusters_fail hg (hfail ▸ hc)
  by_cases hok : r.1 = .ok
  · rw [if_pos hok]
    refine ⟨h.kept.setInfo _ _ _, .inr (.inl ⟨hc, hfree⟩), fun h0 => absurd h0 hc0,
      fun _ => h.ok hok, fun hfail => absurd hfail hcfail, fun _ hcounted hle => ?_⟩
    have hcard := hf.card_free
    have hcard' := (h.ok hok).card_free
    have hcount : r.2.freeClst = s.freeClst := congrArg (fun i => i.2.1) h.info
    have hlength : (as ++ (l ++ [c]) :: bs).flatten.length = (as ++ l :: bs).flatten.length + 1 := by
      simp only [List.flatten_append, List.flatten_cons, List.length_append, List.length_singleton]
      omega
    have hsectors := hg.sectors
    have hn : g.nFatent - 2 < 0x100000000 :=
      Nat.lt_of_le_of_lt (Nat.le_mul_of_pos_right _ hg.csize_pos) (by omega)
    simp only [hcount] at hle ⊢
    show _ = (g.clusters.filter fun c => g.cell r.2.view c = .free).card
    by_cases hknown : s.freeClst ≤ g.nFatent - 2
    · have hexact := hcounted hknown
      rw [if_pos hknown, dwordSub]
      omega
    · rw [if_neg hknown] at hle
      exact absurd hle hknown
  · have hdisk := h.res.resolve_left hok
    rw [if_neg hok, if_pos hdisk]
    refine ⟨h.kept, .inr (.inr ⟨rfl, fun hd => hok (h.works hd)⟩), nofun,
      fun hmem => absurd hmem (notMem_clusters_fail hg), fun _ => h.failed hok,
      fun hne => absurd rfl hne⟩

/-- The free cluster is marked as the end, and then linked. -/
theorem putBehind_spec (hg : g.Valid) (huntorn : s.Untorn g) {as bs : List (List Nat)} {l : List Nat}
    {c : Nat} (hf : s.Forest g (as ++ l :: bs)) (hc : c ∈ g.clusters)
    (hfree : g.cell s.view c = .free) {r₁ : FResult × Fs} (hput : PutFat g c 0xFFFFFFFF s r₁) :
    PutBehind g as bs l c s
      (if r₁.1 = .ok ∧ l.getLast?.getD 0 ≠ 0 then putFat g (l.getLast?.getD 0) c r₁.2 else r₁) := by
  obtain ⟨h2, hlt⟩ := mem_clusters.mp hc
  have hothers : ∀ y ∈ g.clusters, y ≠ c → g.cell r₁.2.view y = g.cell s.view y := fun y hy hne =>
    cell_congr (hput.others y (mem_clusters.mp hy).2 hne)
  by_cases hok : r₁.1 = .ok
  · have hlast : g.cell r₁.2.view c = .last := by
      rw [cell_eq_last_iff hg, hput.val hok]
      exact (eoc_le hg).1
    cases hend : l.getLast? with
    | none =>
      obtain rfl := List.getLast?_eq_none_iff.mp hend
      have hforest : r₁.2.Forest g (as ++ ([] ++ [c]) :: bs) :=
        Lib.Forest.grow hf hc hfree hlast nofun fun y hy hne _ => hothers y hy hne
      rw [if_neg fun h => h.2 rfl]
      exact ⟨hput.kept, hput.info, fun _ => hforest, fun h => absurd hok h, hput.res, hput.works⟩
    | some x =>
      have hxl := List.mem_of_getLast? hend
      have hx := Lib.Forest.subset hf hxl
      obtain ⟨h2x, hltx⟩ := mem_clusters.mp hx
      have hxc : x ≠ c := fun heq => (Lib.Forest.chain hf).ne_free hxl (heq ▸ hfree)
      have hx0 : x ≠ 0 := by omega
      simp only [Option.getD_some]
      rw [if_pos ⟨hok, hx0⟩]
      have hput₂ := putFat_spec hg hput.kept.sound h2x hltx c
      revert hput₂
      generalize putFat g x c r₁.2 = r₂
      intro hput₂
      have hkept := hput.kept.trans hput₂.kept
      refine ⟨hkept, hput₂.info.trans hput.info, fun hok₂ => ?_, fun hok₂ => ⟨[c], le_refl 1, ?_⟩,
        hput₂.res, fun hd => hput₂.works (hput.kept.works hd)⟩
      · have hnext : g.cell r₂.2.view x = .next c := by
          have hmod : c % 2 ^ g.fsType.width = c := Nat.mod_eq_of_lt (hlt.trans hg.clusters)
          exact cell_eq_next ((hput₂.val hok₂).trans hmod) hc
        refine Lib.Forest.grow hf hc hfree ?_ ?_ ?_
        · rw [cell_congr (hput₂.others c hlt hxc.symm), hlast]
        · intro y hy
          rw [hend] at hy
          cases hy
          exact hnext
        · intro y hy hne hyend
          have hyx : y ≠ x := fun heq => hyend (heq ▸ hend)
          rw [cell_congr (hput₂.others y (mem_clusters.mp hy).2 hyx), hothers y hy hne]
      · -- the cluster is marked, and nothing leads to it
        have hworks : ¬ r₁.2.drive.Works := fun hd => hok₂ (hput₂.works hd)
        have hcells : ∀ y ∈ g.clusters, g.cell r₂.2.view y = g.cell r₁.2.view y := by
          intro y hy
          by_cases hyx : y = x
          · subst hyx
            exact cell_congr (hput₂.failed hok₂ fun hfs => hworks (hput.kept.untorn huntorn hfs))
          · exact cell_congr (hput₂.others y (mem_clusters.mp hy).2 hyx)
        have hnil : s.Forest g ((as ++ [l]) ++ [] :: bs) := by
          rw [List.append_assoc]
          exact Lib.Forest.nil_behind_iff.mpr hf
        have hforest := Lib.Forest.grow hnil hc hfree ((hcells c hc).trans hlast) nofun
          fun y hy hne _ => (hcells y hy).trans (hothers y hy hne)
        rw [List.append_assoc] at hforest
        exact hforest
  · have hworks : ¬ s.drive.Works := fun hd => hok (hput.works hd)
    have hcells : ∀ y ∈ g.clusters, g.cell r₁.2.view y = g.cell s.view y := by
      intro y hy
      by_cases hyc : y = c
      · subst hyc
        exact cell_congr (hput.failed hok fun hfs => hworks (huntorn hfs))
      · exact hothers y hy hyc
    rw [if_neg fun h => hok h.1]
    exact ⟨hput.kept, hput.info, fun h => absurd h hok, fun _ => ⟨[], Nat.zero_le 1,
      Lib.Forest.nil_behind_iff.mpr (Lib.Forest.congr hf hcells)⟩, hput.res,
      fun hd => absurd hd hworks⟩

/-- What remains to be done with a free cluster. -/
theorem linkChain_spec (hg : g.Valid) (hs : s.Sound g) (huntorn : s.Untorn g)
    {as bs : List (List Nat)} {l : List Nat} {c : Nat} (hf : s.Forest g (as ++ l :: bs))
    (hc : c ∈ g.clusters) (hfree : g.cell s.view c = .free) :
    Grown g as bs l s (linkChain g (l.getLast?.getD 0) c s) := by
  obtain ⟨h2, hlt⟩ := mem_clusters.mp hc
  exact (putBehind_spec hg huntorn hf hc hfree (putFat_spec hg hs h2 hlt 0xFFFFFFFF)).grown hg hf hc
    hfree

theorem Fs.Forest.of_kept (hg : g.Valid) {s' : Fs} (hkept : Kept g g.fatSectors ∅ s s')
    {chains : List (List Nat)} (hf : s.Forest g chains) : s'.Forest g chains :=
  Lib.Forest.congr hf fun _ hc =>
    cell_congr (hkept.entry hg g.notMem_empty (mem_clusters.mp hc).2)

theorem Fs.freeClst_of_info {s' : Fs} (h : s'.info = s.info) : s'.freeClst = s.freeClst :=
  congrArg (fun i => i.2.1) h

theorem Fs.Counted.of_kept (hg : g.Valid) {s' : Fs} (hkept : Kept g g.fatSectors ∅ s s')
    (hcount : s'.freeClst = s.freeClst) (hcounted : s.Counted g) : s'.Counted g := by
  intro hle
  rw [hcount] at hle ⊢
  rw [hcounted hle]
  refine congrArg Finset.card (Finset.filter_congr fun c hc => ?_)
  rw [cell_congr (hkept.entry hg g.notMem_empty (mem_clusters.mp hc).2)]

/-- What the search has read does not matter. -/
theorem Grown.of_kept (hg : g.Valid) {as bs : List (List Nat)} {l : List Nat} {s₁ : Fs} {r : Nat × Fs}
    (hkept : Kept g g.fatSectors ∅ s s₁) (hinfo : s₁.info = s.info) (h : Grown g as bs l s₁ r) :
    Grown g as bs l s r := by
  have hcells : ∀ c ∈ g.clusters, g.cell s₁.view c = g.cell s.view c := fun c hc =>
    cell_congr (hkept.entry hg g.notMem_empty (mem_clusters.mp hc).2)
  exact {
    kept := (hkept.mono (le_refl _) (Set.empty_subset _)).trans h.kept
    val := by
      rcases h.val with ⟨h0, hfull⟩ | ⟨hc, hfree⟩ | ⟨hfail, hworks⟩
      · exact .inl ⟨h0, fun c hc => hcells c hc ▸ hfull c hc⟩
      · exact .inr (.inl ⟨hc, hcells _ hc ▸ hfree⟩)
      · exact .inr (.inr ⟨hfail, fun hd => hworks (hkept.works hd)⟩)
    full := h.full
    grown := h.grown
    failed := h.failed
    counted := fun hne hcounted => h.counted hne (hcounted.of_kept hg hkept (Fs.freeClst_of_info hinfo)) }

/-- Nothing is allocated where the drive fails before. -/
theorem Grown.of_fail {as bs : List (List Nat)} {l : List Nat} {s₁ : Fs} (hg : g.Valid)
    (hkept : Kept g g.fatSectors ∅ s s₁) (hf : s.Forest g (as ++ l :: bs))
    (hworks : ¬ s.drive.Works) : Grown g as bs l s (0xFFFFFFFF, s₁) where
  kept := hkept.mono (le_refl _) (Set.empty_subset _)
  val := .inr (.inr ⟨rfl, hworks⟩)
  full := nofun
  grown hmem := absurd hmem (notMem_clusters_fail hg)
  failed _ := ⟨[], Nat.zero_le 1, Lib.Forest.nil_behind_iff.mpr (hf.of_kept hg hkept)⟩
  counted hne := absurd rfl hne

theorem allocate_spec (hg : g.Valid) (hs : s.Sound g) (huntorn : s.Untorn g)
    {as bs : List (List Nat)} {l : List Nat} {scl : Nat} (hf : s.Forest g (as ++ l :: bs))
    (h1 : 1 ≤ scl) (hscl : scl < g.nFatent) :
    ∃ r, allocate g (l.getLast?.getD 0) scl s = some r ∧ Grown g as bs l s r := by
  obtain ⟨⟨res, s₁⟩, hfind, hfound⟩ := findFree_spec hg hs h1 hscl
  unfold allocate
  rw [hfind]
  cases res with
  | error v =>
    refine ⟨(v, s₁), rfl, ?_⟩
    rcases hfound.error v rfl with rfl | ⟨-, c, hc, hone⟩ | ⟨rfl, hworks⟩
    · have hfull : ∀ c ∈ g.clusters, g.cell s.view c ≠ .free := fun c hc =>
        mt cell_eq_free_iff.mp (hfound.full rfl c hc)
      exact ⟨hfound.kept.mono (le_refl _) (Set.empty_subset _), .inl ⟨rfl, hfull⟩,
        fun _ => hf.of_kept hg hfound.kept, fun hmem => absurd hmem (notMem_clusters_zero g), nofun,
        fun _ hcounted => hcounted.of_kept hg hfound.kept
          (Fs.freeClst_of_info hfound.info)⟩
    · -- no link leads to the cluster 1
      have hn := hg.nFatent
      have hnext : g.cell s.view c = .next 1 := by
        unfold Geometry.cell
        rw [hone, if_neg (by decide), if_pos (by omega)]
      exact absurd (mem_clusters.mp (Lib.Forest.next_mem hf hc hnext)).1 (by decide)
    · exact .of_fail hg hfound.kept hf hworks
  | ok c =>
    obtain ⟨hc, hzero⟩ := hfound.found c rfl
    have hfree : g.cell s₁.view c = .free := by
      rw [cell_eq_free_iff, hfound.kept.entry hg g.notMem_empty (mem_clusters.mp hc).2, hzero]
    exact ⟨_, rfl, (linkChain_spec hg hfound.kept.sound (hfound.kept.untorn huntorn)
      (hf.of_kept hg hfound.kept) hc hfree).of_kept hg hfound.kept hfound.info⟩

/-- The search for a new chain begins behind a cluster, or at the first one. -/
theorem hint_pos {n : Nat} (k : Nat) : 1 ≤ if k = 0 ∨ n ≤ k then 1 else k := by
  split_ifs <;> omega

theorem hint_lt {n : Nat} (hn : 2 < n) (k : Nat) : (if k = 0 ∨ n ≤ k then 1 else k) < n := by
  split_ifs <;> omega

/-- `create_chain` at the end of a chain, or for a new one. -/
theorem createChain_spec (hg : g.Valid) (hs : s.Sound g) (huntorn : s.Untorn g)
    {as bs : List (List Nat)} {l : List Nat} (hf : s.Forest g (as ++ l :: bs)) :
    ∃ r, createChain g (l.getLast?.getD 0) s = some r ∧ Grown g as bs l s r := by
  have hn := hg.nFatent
  unfold createChain
  cases hend : l.getLast? with
  | none =>
    obtain ⟨r, hr, hgrown⟩ := allocate_spec hg hs huntorn hf
      (hint_pos s.lastClst) (hint_lt hn s.lastClst)
    rw [hend] at hr
    exact ⟨r, hr, hgrown⟩
  | some x =>
    have hxl := List.mem_of_getLast? hend
    obtain ⟨h2, hlt⟩ := mem_clusters.mp (Lib.Forest.subset hf hxl)
    have hlast := (cell_eq_last_iff hg).mp ((Lib.Forest.chain hf).ends x hend)
    have hget := getFat_spec hg hs h2 hlt
    have hx0 : x ≠ 0 := by omega
    simp only [Option.getD_some, if_neg hx0]
    revert hget
    generalize getFat g x s = r₁
    intro hget
    rcases hget.val with hfail | hval
    · simp only [hfail]
      exact ⟨_, rfl, .of_fail hg hget.kept hf fun hd =>
        entry_ne_fail g _ _ ((hget.works hd).symm.trans hfail)⟩
    · obtain ⟨r, hr, hgrown⟩ := allocate_spec hg hget.kept.sound (hget.kept.untorn huntorn)
        (hf.of_kept hg hget.kept) (by omega) hlt
      rw [hend] at hr
      simp only [hval, if_neg (show ¬ g.entry s.view x < 2 by omega),
        if_neg (entry_ne_fail g s.view x), if_neg (show ¬ g.entry s.view x < g.nFatent by omega)]
      exact ⟨r, hr, hgrown.of_kept hg hget.kept hget.info⟩

/-- Where `create_chain` finds no free cluster, it leaves nothing to be written back. -/
theorem wflag_createChain {clst : Nat} (hclean : s.wflag = false) {r : Nat × Fs}
    (hr : createChain g clst s = some r) (hfull : r.1 = 0) : r.2.wflag = false := by
  have hallocate : ∀ {clst scl : Nat} {s : Fs}, s.wflag = false → allocate g clst scl s = some r →
      r.2.wflag = false := by
    intro clst scl s hclean hr
    obtain ⟨⟨found, s₁⟩, hfind, rfl⟩ := Option.map_eq_some_iff.mp hr
    obtain ⟨hclean₁, hne⟩ := wflag_findFree hclean hfind
    cases found with
    | error v => exact hclean₁
    | ok ncl =>
      -- a cluster that was found has another number
      have hfull : (linkChain g clst ncl s₁).1 = 0 := hfull
      have hncl : ncl ≠ 0 := fun h0 => hne (congrArg Except.ok h0)
      refine absurd hfull ?_
      unfold linkChain
      simp only
      split_ifs <;> first | exact hncl | decide
  have hget := wflag_getFat (g := g) clst hclean
  unfold createChain at hr
  split at hr
  · exact hallocate hclean hr
  · simp only at hr
    split_ifs at hr
    · exact Option.some.inj hr ▸ hget
    · exact Option.some.inj hr ▸ hget
    · exact Option.some.inj hr ▸ hget
    · exact hallocate hget hr

/-- `create_chain` inside a chain follows it. -/
theorem createChain_next (hg : g.Valid) (hs : s.Sound g) {c d : Nat} (hc : c ∈ g.clusters)
    (hd : d ∈ g.clusters) (hnext : g.cell s.view c = .next d) :
    ∃ r, createChain g c s = some r ∧ Kept g g.fatSectors ∅ s r.2 ∧ r.2.info = s.info ∧
      (s.wflag = false → r.2.wflag = false) ∧ (r.1 = d ∨ r.1 = 0xFFFFFFFF ∧ ¬ s.drive.Works) := by
  obtain ⟨h2, hlt⟩ := mem_clusters.mp hc
  obtain ⟨h2d, hltd⟩ := mem_clusters.mp hd
  have hget := getFat_spec hg hs h2 hlt
  have hquiet : s.wflag = false → (getFat g c s).2.wflag = false := wflag_getFat c
  have hentry := (entry_of_next hnext).1
  unfold createChain
  rw [if_neg (by omega)]
  revert hget hquiet
  generalize getFat g c s = r₁
  intro hget hquiet
  rcases hget.val with hfail | hval
  · simp only [hfail]
    exact ⟨_, rfl, hget.kept, hget.info, hquiet, .inr ⟨rfl, fun hd =>
      entry_ne_fail g _ _ ((hget.works hd).symm.trans hfail)⟩⟩
  · have hne := hentry ▸ entry_ne_fail g s.view c
    simp only [hval, hentry, if_neg (show ¬ d < 2 by omega), if_neg hne, if_pos hltd]
    exact ⟨_, rfl, hget.kept, hget.info, hquiet, .inl rfl⟩

end Create

end GenLogger.Fat
