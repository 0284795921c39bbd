import Mathlib.Data.Finset.Card
import Mathlib.Data.List.Chain
import Mathlib.Data.List.Nodup

/-!
# Chains in a table of links

A table says of each cell that it is free, that another one follows it or that it is the last of its
chain. `Forest t cells chains` says that the used cells are those of `chains`, each of them once. The
chains of an owner who has nothing are empty lists.

Results:
* `Linked.next`, `Linked.next_mem`: what follows in a chain is what the table says.
* `Forest.notMem`: a cell of one chain is in no other.
* `Forest.grow`: a free cell is put at the end of a chain.
* `Forest.cut`: a chain is cut in two, with the cells in between freed. Both say what the new table is
  only where it matters, so that any way to write it will do.
* `Forest.card_free`: how many cells are free.
-/

namespace GenLogger.Lib

/-- What a table says of a cell. -/
inductive Cell (κ : Type) where
  | free
  | last
  | next (k : κ)
  deriving DecidableEq

variable {κ : Type}

/-- The table links the cells of the list one to the next. -/
structure Linked (t : κ → Cell κ) (l : List κ) : Prop where
  links : l.IsChain fun a b => t a = .next b
  ends : ∀ x ∈ l.getLast?, t x = .last

/-- The cells that are used are on the chains, each of them once. -/
structure Forest (t : κ → Cell κ) (cells : Finset κ) (chains : List (List κ)) : Prop where
  linked : ∀ l ∈ chains, Linked t l
  nodup : chains.flatten.Nodup
  mem : ∀ c, c ∈ chains.flatten ↔ c ∈ cells ∧ t c ≠ .free

/-! ## One chain -/

namespace Linked

variable {t t' : κ → Cell κ} {l m : List κ} {a b x : κ}

theorem nil (t : κ → Cell κ) : Linked t [] := ⟨.nil, nofun⟩

theorem congr (h : Linked t l) (heq : ∀ c ∈ l, t' c = t c) : Linked t' l where
  links := h.links.imp_of_mem_imp fun a _ ha _ hab => (heq a ha).trans hab
  ends x hx := (heq x (List.mem_of_getLast? hx)).trans (h.ends x hx)

theorem cons_cons_iff : Linked t (a :: b :: l) ↔ t a = .next b ∧ Linked t (b :: l) := by
  constructor
  · intro h
    obtain ⟨hab, hlinks⟩ := List.isChain_cons_cons.mp h.links
    exact ⟨hab, hlinks, fun x hx => h.ends x (by rwa [List.getLast?_cons_cons])⟩
  · rintro ⟨hab, h⟩
    exact ⟨h.links.cons_cons hab, fun x hx => h.ends x (by rwa [List.getLast?_cons_cons] at hx)⟩

theorem singleton_iff : Linked t [a] ↔ t a = .last :=
  ⟨fun h => h.ends a rfl, fun h => ⟨.singleton a, fun x hx => by cases hx; exact h⟩⟩

/-- The second part of a chain is a chain. -/
theorem right (h : Linked t (l ++ m)) : Linked t m where
  links := h.links.right_of_append
  ends x hx := h.ends x (List.mem_getLast?_append_of_mem_getLast? hx)

/-- What follows in a chain is what the table says. -/
theorem next (h : Linked t (l ++ a :: b :: m)) : t a = .next b :=
  (cons_cons_iff.mp h.right).1

theorem last (h : Linked t (l ++ [a])) : t a = .last := singleton_iff.mp h.right

/-- A cell of a chain is not free. -/
theorem ne_free (h : Linked t l) (hx : x ∈ l) : t x ≠ .free := by
  obtain ⟨as, bs, rfl⟩ := List.append_of_mem hx
  cases bs with
  | nil =>
    rw [h.last]
    nofun
  | cons b bs =>
    rw [h.next]
    nofun

/-- What follows a cell of a chain is in the chain. -/
theorem next_mem (h : Linked t l) (hx : x ∈ l) (hnext : t x = .next b) : b ∈ l := by
  obtain ⟨as, bs, rfl⟩ := List.append_of_mem hx
  cases bs with
  | nil => exact absurd (h.last.symm.trans hnext) nofun
  | cons c bs =>
    obtain rfl := Cell.next.inj (h.next.symm.trans hnext)
    exact List.mem_append_right as (List.mem_cons_of_mem x List.mem_cons_self)

end Linked

/-! ## All chains -/

namespace Forest

variable {t t' : κ → Cell κ} {cells : Finset κ} {as bs : List (List κ)} {l m r : List κ} {c x : κ}

/-- The same table, cell by cell. -/
theorem congr {chains : List (List κ)} (h : Forest t cells chains) (heq : ∀ c ∈ cells, t' c = t c) :
    Forest t' cells chains where
  linked l hl := (h.linked l hl).congr fun c hc =>
    heq c ((h.mem c).mp (List.mem_flatten_of_mem hl hc)).1
  nodup := h.nodup
  mem c := by
    rw [h.mem c]
    exact and_congr_right fun hc => by rw [heq c hc]

/-- An owner without cells does not matter. -/
theorem nil_iff : Forest t cells (as ++ [] :: bs) ↔ Forest t cells (as ++ bs) := by
  have hflatten : (as ++ [] :: bs).flatten = (as ++ bs).flatten := by
    rw [List.flatten_append, List.flatten_cons, List.nil_append, ← List.flatten_append]
  constructor
  · intro h
    exact ⟨fun l hl => h.linked l (by grind), hflatten ▸ h.nodup, hflatten ▸ h.mem⟩
  · intro h
    refine ⟨fun l hl => ?_, hflatten ▸ h.nodup, hflatten ▸ h.mem⟩
    by_cases hnil : l = []
    · exact hnil ▸ .nil t
    · exact h.linked l (by grind)

theorem nil_behind_iff : Forest t cells (as ++ l :: [] :: bs) ↔ Forest t cells (as ++ l :: bs) := by
  have h : Forest t cells ((as ++ [l]) ++ [] :: bs) ↔ Forest t cells ((as ++ [l]) ++ bs) := nil_iff
  rwa [List.append_assoc, List.append_assoc] at h

theorem subset (h : Forest t cells (as ++ l :: bs)) (hx : x ∈ l) : x ∈ cells :=
  ((h.mem x).mp (List.mem_flatten_of_mem (List.mem_append_right as List.mem_cons_self) hx)).1

theorem nodup_chain (h : Forest t cells (as ++ l :: bs)) : l.Nodup :=
  (List.nodup_flatten.mp h.nodup).1 l (List.mem_append_right as List.mem_cons_self)

theorem chain (h : Forest t cells (as ++ l :: bs)) : Linked t l :=
  h.linked l (List.mem_append_right as List.mem_cons_self)

/-- A link leads to a cell. -/
theorem next_mem {chains : List (List κ)} (h : Forest t cells chains) (hx : x ∈ cells)
    (hnext : t x = .next c) : c ∈ cells := by
  have hused : t x ≠ .free := by rw [hnext]; nofun
  obtain ⟨k, hk, hxk⟩ := List.mem_flatten.mp ((h.mem x).mpr ⟨hx, hused⟩)
  exact ((h.mem c).mp (List.mem_flatten_of_mem hk ((h.linked k hk).next_mem hxk hnext))).1

/-- A cell of one chain is in no other. -/
theorem notMem (h : Forest t cells (as ++ l :: bs)) (hx : x ∈ l) {k : List κ}
    (hk : k ∈ as ++ bs) : x ∉ k := by
  have hnodup := h.nodup
  rw [List.flatten_append, List.flatten_cons] at hnodup
  have hperm : (as.flatten ++ (l ++ bs.flatten)).Perm (l ++ (as.flatten ++ bs.flatten)) := by
    rw [← List.append_assoc, ← List.append_assoc]
    exact List.perm_append_comm.append_right bs.flatten
  have hdisjoint := (List.nodup_append'.mp (hperm.nodup_iff.mp hnodup)).2.2
  intro hxk
  refine hdisjoint hx ?_
  rw [← List.flatten_append]
  exact List.mem_flatten_of_mem hk hxk

/-- A free cell is put at the end of a chain. -/
theorem grow (h : Forest t cells (as ++ l :: bs)) (hc : c ∈ cells) (hfree : t c = .free)
    (hlast : t' c = .last) (hlink : ∀ x ∈ l.getLast?, t' x = .next c)
    (hother : ∀ y ∈ cells, y ≠ c → y ∉ l.getLast? → t' y = t y) :
    Forest t' cells (as ++ (l ++ [c]) :: bs) := by
  have hnotMem : c ∉ (as ++ l :: bs).flatten := fun hmem => ((h.mem c).mp hmem).2 hfree
  have hperm : (as ++ (l ++ [c]) :: bs).flatten.Perm (c :: (as ++ l :: bs).flatten) := by
    simp only [List.flatten_append, List.flatten_cons, List.append_assoc, List.singleton_append]
    rw [← List.append_assoc, ← List.append_assoc as.flatten l]
    exact List.perm_middle
  have hne : ∀ {k}, k ∈ as ++ l :: bs → c ∉ k := fun hk hmem =>
    hnotMem (List.mem_flatten_of_mem hk hmem)
  have hl : l ∈ as ++ l :: bs := List.mem_append_right as List.mem_cons_self
  refine ⟨fun k hk => ?_, hperm.nodup_iff.mpr (List.nodup_cons.mpr ⟨hnotMem, h.nodup⟩), fun y => ?_⟩
  · by_cases hkl : k = l ++ [c]
    · subst hkl
      -- the links of the chain stay, its last cell gets a new one
      have hlinks : l.IsChain fun a b => t' a = .next b := by
        refine h.chain.links.imp_of_mem_tail_imp fun a b ha hb hab => ?_
        rw [hother a (h.subset ha) (fun heq => hne hl (heq ▸ ha)), hab]
        intro hend
        exact absurd ((h.chain.ends a hend).symm.trans hab) nofun
      refine ⟨hlinks.append (.singleton c) fun x hx y hy => ?_, fun x hx => ?_⟩
      · cases hy
        exact hlink x hx
      · rw [List.getLast?_concat] at hx
        cases hx
        exact hlast
    · have hk' : k ∈ as ++ bs := by grind
      have hmem : k ∈ as ++ l :: bs := by grind
      refine (h.linked k hmem).congr fun y hy => hother y ?_ (fun heq => hne hmem (heq ▸ hy)) ?_
      · exact ((h.mem y).mp (List.mem_flatten_of_mem hmem hy)).1
      · exact fun hend => h.notMem (List.mem_of_getLast? hend) hk' hy
  · rw [hperm.mem_iff, List.mem_cons, h.mem y]
    by_cases hy : y = c
    · subst hy
      exact iff_of_true (.inl rfl) ⟨hc, by rw [hlast]; nofun⟩
    · by_cases hend : y ∈ l.getLast?
      · have hyl := List.mem_of_getLast? hend
        exact iff_of_true (.inr ⟨h.subset hyl, h.chain.ne_free hyl⟩)
          ⟨h.subset hyl, by rw [hlink y hend]; nofun⟩
      · rw [or_iff_right hy]
        exact and_congr_right fun hcell => by rw [hother y hcell hy hend]

/-- A chain is cut: the cells `m` are freed, and what is behind them is a chain of its own. -/
theorem cut (h : Forest t cells (as ++ (l ++ m ++ r) :: bs)) (hfreed : ∀ x ∈ m, t' x = .free)
    (hends : ∀ x ∈ l.getLast?, t' x = .last)
    (hother : ∀ y ∈ cells, y ∉ m → y ∉ l.getLast? → t' y = t y) :
    Forest t' cells (as ++ l :: r :: bs) := by
  have hperm : (as ++ (l ++ m ++ r) :: bs).flatten.Perm (m ++ (as ++ l :: r :: bs).flatten) := by
    simp only [List.flatten_append, List.flatten_cons, List.append_assoc]
    rw [← List.append_assoc as.flatten l, ← List.append_assoc as.flatten l]
    exact (List.perm_append_comm_assoc _ _ _)
  obtain ⟨-, hnodup, hdisjoint⟩ := List.nodup_append'.mp (hperm.nodup_iff.mp h.nodup)
  obtain ⟨hnodup', -, hr⟩ := List.nodup_append'.mp h.nodup_chain
  obtain ⟨-, -, hm⟩ := List.nodup_append'.mp hnodup'
  have hcell : ∀ {y}, y ∈ l ++ m ++ r → y ∈ cells := h.subset
  refine ⟨fun k hk => ?_, hnodup, fun y => ?_⟩
  · have hcase : k = l ∨ k = r ∨ k ∈ as ++ bs := by grind
    rcases hcase with rfl | rfl | hk
    · refine ⟨?_, hends⟩
      have hlinks : k.IsChain fun a b => t a = .next b := by
        have hall := h.chain.links
        rw [List.append_assoc] at hall
        exact hall.left_of_append
      refine hlinks.imp_of_mem_imp fun a b ha hb hab => ?_
      rw [hother a (hcell (by grind)) (fun ham => hm ha ham) fun hend => ?_, hab]
      -- the last cell is followed by one that is not in this part
      obtain ⟨k', rfl⟩ := List.getLast?_eq_some_iff.mp hend
      have hchain : Linked t (k' ++ a :: (m ++ r)) := by
        have hall := h.chain
        rwa [List.append_assoc, List.append_assoc] at hall
      cases hq : m ++ r with
      | nil =>
        rw [hq] at hchain
        exact absurd (hchain.last.symm.trans hab) nofun
      | cons b' q =>
        rw [hq] at hchain
        obtain rfl : b' = b := Cell.next.inj (hchain.next.symm.trans hab)
        have hmr : b' ∈ m ++ r := hq ▸ List.mem_cons_self
        rcases List.mem_append.mp hmr with hbm | hbr
        · exact hm hb hbm
        · exact hr (List.mem_append_left m hb) hbr
    · have hchain : Linked t k := h.chain.right
      refine hchain.congr fun y hy => hother y (hcell (by grind)) ?_ ?_
      · exact fun hym => hr (List.mem_append_right l hym) hy
      · exact fun hend => hr (List.mem_append_left m (List.mem_of_getLast? hend)) hy
    · have hmem : k ∈ as ++ (l ++ m ++ r) :: bs := by grind
      have hout : ∀ {y}, y ∈ k → y ∉ l ++ m ++ r := fun hy hy' => h.notMem hy' hk hy
      refine (h.linked k hmem).congr fun y hy => hother y ?_ ?_ ?_
      · exact ((h.mem y).mp (List.mem_flatten_of_mem hmem hy)).1
      · exact fun hym => hout hy (by grind)
      · exact fun hend => hout hy (by grind [List.mem_of_getLast? hend])
  · have hiff : y ∈ m ∨ y ∈ (as ++ l :: r :: bs).flatten ↔ y ∈ cells ∧ t y ≠ .free := by
      rw [← List.mem_append, ← hperm.mem_iff, h.mem y]
    by_cases hym : y ∈ m
    · exact iff_of_false (fun hy => hdisjoint hym hy) fun hy => hy.2 (hfreed y hym)
    · rw [or_iff_right hym] at hiff
      by_cases hend : y ∈ l.getLast?
      · have hyl := List.mem_of_getLast? hend
        refine iff_of_true (List.mem_flatten_of_mem (List.mem_append_right as List.mem_cons_self) hyl)
          ⟨hcell (by grind), by rw [hends y hend]; nofun⟩
      · rw [hiff]
        exact and_congr_right fun hy => by rw [hother y hy hym hend]

/-- How many cells are free. -/
theorem card_free {chains : List (List κ)} [DecidableEq κ] (h : Forest t cells chains) :
    (cells.filter fun c => t c = .free).card + chains.flatten.length = cells.card := by
  have hused : cells.filter (fun c => ¬ t c = .free) = chains.flatten.toFinset := by
    ext c
    rw [Finset.mem_filter, List.mem_toFinset, h.mem c]
  rw [← List.toFinset_card_of_nodup h.nodup, ← hused]
  exact Finset.card_filter_add_card_filter_not ..

end Forest

end GenLogger.Lib
