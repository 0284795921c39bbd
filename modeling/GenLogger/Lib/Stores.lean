import Mathlib.Logic.Function.Basic

/-!
# Stores into a memory

A memory is a function of the address, and what a program stored is a list of addresses with values. The
last store to an address is what it holds (`applyStores_storesFrom`), and an address that no store is to
keeps its value (`applyStores_of_forall_ne`).
-/

namespace GenLogger.Lib

variable {ι β : Type} [DecidableEq ι]

/-- The memory after `stores`. -/
def applyStores (before : ι → β) (stores : List (ι × β)) : ι → β :=
  stores.foldl (fun m st => Function.update m st.1 st.2) before

theorem applyStores_append (before : ι → β) (l m : List (ι × β)) :
    applyStores before (l ++ m) = applyStores (applyStores before l) m :=
  List.foldl_append

theorem applyStores_of_forall_ne {before : ι → β} {stores : List (ι × β)} {i : ι}
    (h : ∀ st ∈ stores, st.1 ≠ i) : applyStores before stores i = before i := by
  induction stores generalizing before with
  | nil => rfl
  | cons st stores ih =>
    have htail : applyStores (Function.update before st.1 st.2) stores i =
        Function.update before st.1 st.2 i := ih fun x hx => h x (List.mem_cons_of_mem _ hx)
    exact htail.trans (Function.update_of_ne (h st List.mem_cons_self).symm _ _)

/-! ## One address after the other -/

/-- `*p++ = …` for each of the values. -/
def storesFrom (p : Nat) : List β → List (Nat × β)
  | [] => []
  | b :: l => (p, b) :: storesFrom (p + 1) l

theorem mem_storesFrom {p : Nat} {l : List β} {st : Nat × β} (h : st ∈ storesFrom p l) :
    p ≤ st.1 ∧ st.1 < p + l.length := by
  induction l generalizing p with
  | nil => cases h
  | cons b l ih =>
    rw [List.length_cons]
    rcases List.mem_cons.mp h with rfl | h
    · exact ⟨Nat.le_refl p, Nat.lt_add_of_pos_right (Nat.succ_pos _)⟩
    · obtain ⟨hle, hlt⟩ := ih h
      omega

theorem map_snd_storesFrom (p : Nat) (l : List β) : (storesFrom p l).map Prod.snd = l := by
  induction l generalizing p with
  | nil => rfl
  | cons b l ih => exact congrArg (b :: ·) (ih (p + 1))

theorem applyStores_storesFrom {before : Nat → β} {p j : Nat} {l : List β} {b : β}
    (h : l[j]? = some b) : applyStores before (storesFrom p l) (p + j) = b := by
  induction l generalizing before p j with
  | nil => cases h
  | cons x l ih =>
    cases j with
    | zero =>
      obtain rfl : x = b := by simpa using h
      have hlater : ∀ st ∈ storesFrom (p + 1) l, st.1 ≠ p := fun st hst =>
        Nat.ne_of_gt (mem_storesFrom hst).1
      exact (applyStores_of_forall_ne hlater).trans (Function.update_self _ _ _)
    | succ j =>
      have hmove : p + (j + 1) = p + 1 + j := by omega
      rw [hmove]
      exact ih (by simpa using h)

end GenLogger.Lib
