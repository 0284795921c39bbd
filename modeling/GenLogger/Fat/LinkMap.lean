import GenLogger.Fat.Allocation
import GenLogger.Lib.Fragments

/-!
# The link map of a file (`CREATE_LINKMAP` of `f_lseek`, `clmt_clust`)

Model of the branch of `f_lseek` that makes a link map, and of the function that reads one. With a link
map a seek does not follow the chain of a file. The map has the runs of clusters that follow one another,
the length and the first cluster of each, behind the number of items and in front of a `0`.

* The code finds the runs in two nested loops, which have counters here (`fragment`, `linkmapLoop`).
* What the runs say of a list is in `Lib.Fragments`.
* A table of the caller that is too short is not written behind its end, and its first item says how many
  there are to be.

Results:
* `createLinkmap_spec`: the map gives the chain back, for every offset, or the table is too short for it,
  or the drive has failed.
-/

namespace GenLogger.Fat

open GenLogger.Lib

variable {g : Geometry}

/-! ## `ff.c` -/

/-- `do .. while (cl == pcl + 1)`, for `fuel` rounds: the length of the run with `ncl` clusters before
`cl`, and what comes behind it. -/
def fragment (g : Geometry) : Nat → Nat → Nat → Fs → Option (Except FResult (Nat × Nat) × Fs)
  | 0, _, _, _ => none
  | fuel + 1, cl, ncl, s =>
    let (nxt, s) := getFat g cl s
    if nxt ≤ 1 then some (.error .intErr, s)
    else if nxt = 0xFFFFFFFF then some (.error .diskErr, s)
    else if nxt = cl + 1 then fragment g fuel nxt (ncl + 1) s
    else some (.ok (ncl + 1, nxt), s)

/-- `do .. while (cl < fs->n_fatent)`, for `fuel` rounds: the items that are needed, and those that were
written to a table of `tlen`. -/
def linkmapLoop (g : Geometry) (tlen : Nat) :
    Nat → Nat → Nat → List Nat → Fs → Option (Except FResult (Nat × List Nat) × Fs)
  | 0, _, _, _, _ => none
  | fuel + 1, cl, ulen, items, s =>
    match fragment g g.nFatent cl 0 s with
    | none => none
    | some (.error res, s) => some (.error res, s)
    | some (.ok (ncl, nxt), s) =>
      let items := if ulen + 2 ≤ tlen then items ++ [ncl, cl] else items
      if nxt < g.nFatent then linkmapLoop g tlen fuel nxt (ulen + 2) items s
      else some (.ok (ulen + 2, items), s)

/-- `f_lseek` with `CREATE_LINKMAP` for the chain from `sclust` on: what it writes to the head of a
table with `tlen` items. -/
def createLinkmap (g : Geometry) (tlen sclust : Nat) (s : Fs) :
    Option (FResult × List Nat × Fs) :=
  let made := if sclust = 0 then some (.ok (2, []), s)
    else linkmapLoop g tlen g.nFatent sclust 2 [] s
  made.map fun (r, s) =>
    match r with
    | .error res => (res, [], s)
    | .ok (ulen, items) =>
      if ulen ≤ tlen then (.ok, ulen :: items ++ [0], s) else (.notEnoughCore, ulen :: items, s)

/-- `for (;;)` of `clmt_clust`. -/
def clmtWalk : List Nat → Nat → Nat
  | ncl :: tcl :: tbl, cl =>
    if ncl = 0 then 0 else if cl < ncl then cl + tcl else clmtWalk tbl (cl - ncl)
  | _, _ => 0

/-- `clmt_clust`: the cluster of the offset `ofs`, `0` beyond the end. -/
def clmtClust (g : Geometry) (cltbl : List Nat) (ofs : Nat) : Nat :=
  clmtWalk cltbl.tail (ofs / g.ssize / g.csize)

/-! ## The table -/

/-- The runs as items. -/
def runItems (runs : List (Nat × Nat)) : List Nat := runs.flatMap fun run => [run.1, run.2]

theorem length_runItems (runs : List (Nat × Nat)) : (runItems runs).length = 2 * runs.length := by
  induction runs with
  | nil => rfl
  | cons run runs ih =>
    rw [runItems, List.flatMap_cons, List.length_append, List.length_cons, ← runItems, ih]
    simp only [List.length_cons, List.length_nil]
    omega

theorem clmtWalk_runItems {runs : List (Nat × Nat)} (hpos : ∀ run ∈ runs, 0 < run.1)
    (rest : List Nat) (i : Nat) :
    clmtWalk (runItems runs ++ 0 :: rest) i = (Fragments.expand runs)[i]?.getD 0 := by
  rw [← Fragments.lookup_eq]
  induction runs generalizing i with
  | nil =>
    cases rest with
    | nil => rfl
    | cons _ _ => rfl
  | cons run runs ih =>
    obtain ⟨n, top⟩ := run
    have hn : n ≠ 0 := (hpos _ List.mem_cons_self).ne'
    show clmtWalk (n :: top :: (runItems runs ++ 0 :: rest)) i = _
    rw [clmtWalk, if_neg hn, Fragments.lookup]
    by_cases hi : i < n
    · rw [if_pos hi, if_pos hi, Option.getD_some]
    · rw [if_neg hi, if_neg hi, ih fun run hrun => hpos run (List.mem_cons_of_mem _ hrun)]

/-! ## Making it -/

section Make

variable {s : Fs}

/-- What `get_fat` says of a cluster of a chain, with nothing changed for the next one. -/
structure Followed (g : Geometry) (c : Nat) (s : Fs) (r : Nat × Fs) : Prop where
  kept : Kept g g.fatSectors ∅ s r.2
  cells : ∀ x ∈ g.clusters, g.entry r.2.view x = g.entry s.view x
  val : r.1 = 0xFFFFFFFF ∧ ¬ s.drive.Works ∨ r.1 = g.entry s.view c

theorem followed (hg : g.Valid) (hs : s.Sound g) {c : Nat} (hc : c ∈ g.clusters) :
    Followed g c s (getFat g c s) := by
  obtain ⟨h2, hlt⟩ := mem_clusters.mp hc
  have hget := getFat_spec hg hs h2 hlt
  refine ⟨hget.kept, fun x hx => hget.kept.entry hg g.notMem_empty (mem_clusters.mp hx).2, ?_⟩
  refine hget.val.imp_left fun hfail => ⟨hfail, fun hd => ?_⟩
  exact entry_ne_fail g s.view c ((hget.works hd).symm.trans hfail)

/-- A chain that a link map can be made of. The number after the last cluster would pass for one that
follows it. -/
structure Mappable (g : Geometry) (s : Fs) (l : List Nat) : Prop where
  linked : Linked (g.cell s.view) l
  clusters : ∀ x ∈ l, x ∈ g.clusters
  mark : ∀ x ∈ l, g.entry s.view x ≠ g.nFatent

theorem Mappable.of_entries {l : List Nat} {s' : Fs} (h : Mappable g s l)
    (hcells : ∀ x ∈ g.clusters, g.entry s'.view x = g.entry s.view x) : Mappable g s' l where
  linked := h.linked.congr fun x hx => cell_congr (hcells x (h.clusters x hx))
  clusters := h.clusters
  mark x hx := by
    rw [hcells x (h.clusters x hx)]
    exact h.mark x hx

theorem Mappable.right {l m : List Nat} (h : Mappable g s (l ++ m)) : Mappable g s m where
  linked := h.linked.right
  clusters x hx := h.clusters x (List.mem_append_right l hx)
  mark x hx := h.mark x (List.mem_append_right l hx)

/-- What `fragment` returns for the chain `l`: the run it begins with, and what comes behind that. -/
structure FirstRun (g : Geometry) (c k : Nat) (l : List Nat) (s : Fs)
    (r : Except FResult (Nat × Nat) × Fs) : Prop where
  kept : Kept g g.fatSectors ∅ s r.2
  cells : ∀ x ∈ g.clusters, g.entry r.2.view x = g.entry s.view x
  val : r.1 = .error .diskErr ∧ ¬ s.drive.Works ∨
    ∃ n nxt rest, r.1 = .ok (k + n, nxt) ∧ Fragments.split l = (n, c) :: Fragments.split rest ∧
      (∃ head ≠ [], l = head ++ rest) ∧ (rest = [] ∧ g.nFatent ≤ nxt ∨ ∃ m, rest = nxt :: m)

theorem fragment_spec (hg : g.Valid) {l : List Nat} {fuel c k : Nat} (hs : s.Sound g)
    (hl : Mappable g s (c :: l)) (hfuel : (c :: l).length ≤ fuel) :
    ∃ r, fragment g fuel c k s = some r ∧ FirstRun g c k (c :: l) s r := by
  induction l generalizing fuel c k s with
  | nil =>
    obtain ⟨fuel, rfl⟩ := Nat.exists_eq_add_of_le' (Nat.lt_of_lt_of_le (Nat.succ_pos _) hfuel)
    have hc := hl.clusters c List.mem_cons_self
    have hget := followed hg hs hc
    have hend := (cell_eq_last_iff hg).mp (Linked.singleton_iff.mp hl.linked)
    have hmark := hl.mark c List.mem_cons_self
    have hlt := (mem_clusters.mp hc).2
    have hn := hg.nFatent
    rw [fragment]
    revert hget
    generalize getFat g c s = r
    intro hget
    rcases hget.val with ⟨hfail, hworks⟩ | hval
    · simp only [hfail]
      exact ⟨_, rfl, hget.kept, hget.cells, .inl ⟨rfl, hworks⟩⟩
    · simp only [hval, if_neg (show ¬ g.entry s.view c ≤ 1 by omega),
        if_neg (entry_ne_fail g s.view c), if_neg (show ¬ g.entry s.view c = c + 1 by omega)]
      exact ⟨_, rfl, hget.kept, hget.cells,
        .inr ⟨1, _, [], rfl, rfl, ⟨[c], nofun, rfl⟩, .inl ⟨rfl, hend⟩⟩⟩
  | cons d l ih =>
    obtain ⟨fuel, rfl⟩ := Nat.exists_eq_add_of_le' (Nat.lt_of_lt_of_le (Nat.succ_pos _) hfuel)
    have hget := followed hg hs (hl.clusters c List.mem_cons_self)
    obtain ⟨hentry, h0, hlt⟩ := entry_of_next (Linked.cons_cons_iff.mp hl.linked).1
    have hd := mem_clusters.mp (hl.clusters d (List.mem_cons_of_mem c List.mem_cons_self))
    have hne := hentry ▸ entry_ne_fail g s.view c
    have hright : Mappable g s (d :: l) := Mappable.right (l := [c]) hl
    rw [fragment]
    revert hget
    generalize getFat g c s = r
    intro hget
    rcases hget.val with ⟨hfail, hworks⟩ | hval
    · simp only [hfail]
      exact ⟨_, rfl, hget.kept, hget.cells, .inl ⟨rfl, hworks⟩⟩
    · simp only [hval, hentry, if_neg (show ¬ d ≤ 1 by omega), if_neg hne]
      by_cases hnext : d = c + 1
      · rw [if_pos hnext]
        obtain ⟨r', hr', hrun⟩ := ih (k := k + 1) hget.kept.sound (hright.of_entries hget.cells)
          (Nat.le_of_succ_le_succ hfuel)
        refine ⟨r', hr', hget.kept.trans hrun.kept,
          fun x hx => (hrun.cells x hx).trans (hget.cells x hx), ?_⟩
        rcases hrun.val with ⟨hfail, hworks⟩ | ⟨n, nxt, rest, hok, hsplit, ⟨head, -, hhead⟩, hrest⟩
        · exact .inl ⟨hfail, fun hd => hworks (hget.kept.works hd)⟩
        · subst hnext
          refine .inr ⟨n + 1, nxt, rest, ?_, Fragments.split_next hsplit,
            ⟨c :: head, nofun, congrArg (c :: ·) hhead⟩, hrest⟩
          rw [hok, Nat.add_assoc, Nat.add_comm 1 n]
      · rw [if_neg hnext]
        exact ⟨_, rfl, hget.kept, hget.cells,
          .inr ⟨1, d, d :: l, rfl, Fragments.split_jump hnext, ⟨[c], nofun, rfl⟩, .inr ⟨l, rfl⟩⟩⟩

/-- What `linkmapLoop` returns for the chain `l`: all its runs are counted, and those that fit are in
the table. -/
structure AllRuns (g : Geometry) (tlen ulen : Nat) (items l : List Nat) (s : Fs)
    (r : Except FResult (Nat × List Nat) × Fs) : Prop where
  kept : Kept g g.fatSectors ∅ s r.2
  cells : ∀ x ∈ g.clusters, g.entry r.2.view x = g.entry s.view x
  val : r.1 = .error .diskErr ∧ ¬ s.drive.Works ∨
    r.1 = .ok (ulen + 2 * (Fragments.split l).length,
      items ++ runItems ((Fragments.split l).take ((tlen - ulen) / 2)))

theorem linkmapLoop_spec (hg : g.Valid) (tlen ulen : Nat) (items : List Nat) {fuel c : Nat}
    {l : List Nat} (hs : s.Sound g) (hl : Mappable g s (c :: l)) (hfuel : (c :: l).length ≤ fuel)
    (hlength : (c :: l).length ≤ g.nFatent) :
    ∃ r, linkmapLoop g tlen fuel c ulen items s = some r ∧
      AllRuns g tlen ulen items (c :: l) s r := by
  induction fuel generalizing c l ulen items s with
  | zero => exact absurd hfuel (Nat.not_succ_le_zero _)
  | succ fuel ih =>
    obtain ⟨r, hr, hrun⟩ := fragment_spec hg (k := 0) hs hl hlength
    rw [linkmapLoop, hr]
    rcases hrun.val with ⟨hfail, hworks⟩ | ⟨n, nxt, rest, hok, hsplit, ⟨head, hne, hhead⟩, hrest⟩
    · obtain ⟨val, s'⟩ := r
      obtain rfl : val = .error .diskErr := hfail
      exact ⟨_, rfl, hrun.kept, hrun.cells, .inl ⟨rfl, hworks⟩⟩
    · obtain ⟨val, s'⟩ := r
      obtain rfl : val = .ok (0 + n, nxt) := hok
      have hstored : (if ulen + 2 ≤ tlen then items ++ [0 + n, c] else items) ++
            runItems ((Fragments.split rest).take ((tlen - (ulen + 2)) / 2)) =
          items ++ runItems ((Fragments.split (c :: l)).take ((tlen - ulen) / 2)) := by
        rw [hsplit]
        by_cases hfits : ulen + 2 ≤ tlen
        · have htake : (tlen - ulen) / 2 = (tlen - (ulen + 2)) / 2 + 1 := by omega
          rw [if_pos hfits, htake, List.take_succ_cons, List.append_assoc, Nat.zero_add]
          rfl
        · have htake : (tlen - ulen) / 2 = 0 := by omega
          have htake' : (tlen - (ulen + 2)) / 2 = 0 := by omega
          rw [if_neg hfits, htake, htake', List.take_zero, List.take_zero]
      rcases hrest with ⟨rfl, hend⟩ | ⟨m, rfl⟩
      · simp only [if_neg (Nat.not_lt.mpr hend)]
        refine ⟨_, rfl, hrun.kept, hrun.cells, .inr ?_⟩
        rw [← hstored, hsplit]
        simp [runItems, Fragments.split]
      · rw [hhead] at hl hfuel hlength
        have hright := hl.right
        have hlt := (mem_clusters.mp (hright.clusters nxt List.mem_cons_self)).2
        have hpos := List.length_pos_iff.mpr hne
        rw [List.length_append] at hfuel hlength
        simp only [if_pos hlt]
        obtain ⟨r', hr', hall⟩ := ih (ulen + 2)
          (if ulen + 2 ≤ tlen then items ++ [0 + n, c] else items) hrun.kept.sound
          (hright.of_entries hrun.cells) (by omega) (by omega)
        refine ⟨r', hr', hrun.kept.trans hall.kept,
          fun x hx => (hall.cells x hx).trans (hrun.cells x hx), ?_⟩
        rcases hall.val with ⟨hfail, hworks⟩ | hok
        · exact .inl ⟨hfail, fun hd => hworks (hrun.kept.works hd)⟩
        · right
          rw [hok, hstored, hsplit, List.length_cons, Nat.mul_succ]
          congr 2
          omega

end Make

/-! ## What it is for -/

/-- The items of a link map of the chain `l`: two for each run, the number of them and the `0`. -/
def linkmapSize (l : List Nat) : Nat := 2 + 2 * (Fragments.split l).length

/-- What a caller of `f_lseek` finds in the table: the chain, if there was room for it, and the room
that it takes otherwise. What is behind the map in the table is not written, and not read. -/
structure Mapped (g : Geometry) (tlen : Nat) (l : List Nat) (s : Fs)
    (r : FResult × List Nat × Fs) : Prop where
  kept : Kept g g.fatSectors ∅ s r.2.2
  fits : linkmapSize l ≤ tlen → r.1 = .ok ∧ r.2.1.length = linkmapSize l ∧
    ∀ rest ofs, clmtClust g (r.2.1 ++ rest) ofs = l[ofs / g.ssize / g.csize]?.getD 0
  short : tlen < linkmapSize l → r.1 = .notEnoughCore ∧ r.2.1.head? = some (linkmapSize l) ∧
    r.2.1.length ≤ max 1 tlen

theorem mapped {s s' : Fs} (tlen : Nat) (l : List Nat) (hkept : Kept g g.fatSectors ∅ s s') :
    Mapped g tlen l s
      (if linkmapSize l ≤ tlen then
        (.ok, linkmapSize l :: runItems ((Fragments.split l).take ((tlen - 2) / 2)) ++ [0], s')
      else
        (.notEnoughCore, linkmapSize l :: runItems ((Fragments.split l).take ((tlen - 2) / 2)),
          s')) := by
  by_cases hfits : linkmapSize l ≤ tlen
  · rw [if_pos hfits]
    have hall : (Fragments.split l).length ≤ (tlen - 2) / 2 := by
      rw [linkmapSize] at hfits
      omega
    rw [List.take_of_length_le hall]
    refine ⟨hkept, fun _ => ⟨rfl, ?_, fun rest ofs => ?_⟩, fun h => absurd hfits (Nat.not_le.mpr h)⟩
    · rw [List.length_append, List.length_cons, length_runItems, List.length_singleton, linkmapSize]
      omega
    · rw [clmtClust, List.cons_append, List.cons_append, List.tail_cons, List.append_assoc,
        List.singleton_append, clmtWalk_runItems (fun run => Fragments.pos_of_mem_split),
        Fragments.expand_split]
  · rw [if_neg hfits]
    refine ⟨hkept, fun h => absurd h hfits, fun _ => ⟨rfl, rfl, ?_⟩⟩
    have hlength := List.length_take_le ((tlen - 2) / 2) (Fragments.split l)
    rw [List.length_cons, length_runItems]
    omega

theorem createLinkmap_spec {s : Fs} (hg : g.Valid) (hs : s.Sound g) {l : List Nat}
    (hl : Mappable g s l) (hnodup : l.Nodup) (tlen : Nat) :
    ∃ r, createLinkmap g tlen (l.headD 0) s = some r ∧
      (r.1 = .diskErr ∧ ¬ s.drive.Works ∨ Mapped g tlen l s r) := by
  unfold createLinkmap
  cases l with
  | nil =>
    have hmapped := mapped tlen [] (.refl hs)
    rw [Fragments.split, List.take_nil] at hmapped
    exact ⟨_, rfl, .inr hmapped⟩
  | cons c l =>
    have h2 := (mem_clusters.mp (hl.clusters c List.mem_cons_self)).1
    have hlength : (c :: l).length ≤ g.nFatent := by
      have hcard := Finset.card_le_card (fun x hx => hl.clusters x (List.mem_toFinset.mp hx))
      rw [List.toFinset_card_of_nodup hnodup, Geometry.clusters, Nat.card_Ico] at hcard
      omega
    obtain ⟨⟨val, s'⟩, hr, hall⟩ := linkmapLoop_spec hg tlen 2 [] hs hl hlength hlength
    rw [List.headD_cons, if_neg (show ¬ c = 0 by omega), hr]
    rcases hall.val with ⟨rfl, hworks⟩ | rfl
    · exact ⟨_, rfl, .inl ⟨rfl, hworks⟩⟩
    · exact ⟨_, rfl, .inr (mapped tlen (c :: l) hall.kept)⟩

/-- The runs of `[2, 3, 5]` take six items. -/
theorem createLinkmap_small : ∃ r, createLinkmap smallGeometry 6 2 smallFs = some r ∧ r.1 = .ok ∧
    r.2.1.length = 6 ∧ clmtClust smallGeometry r.2.1 1024 = 5 := by
  have hmappable : Mappable smallGeometry smallFs [2, 3, 5] := by
    refine ⟨forest_smallFs.linked _ (List.mem_singleton_self _), by decide, ?_⟩
    have hview : smallFs.view = smallFs.drive.sectors := Function.update_eq_self ..
    rw [hview]
    decide
  obtain ⟨r, hr, hmapped⟩ := createLinkmap_spec valid_smallGeometry sound_smallFs hmappable
    (by decide) 6
  rcases hmapped with ⟨-, hworks⟩ | hmapped
  · exact absurd (fun _ => nofun) hworks
  · obtain ⟨hok, hlength, hclust⟩ := hmapped.fits (by decide)
    exact ⟨r, hr, hok, hlength, List.append_nil r.2.1 ▸ hclust [] 1024⟩

end GenLogger.Fat
