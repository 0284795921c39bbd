import Mathlib.Data.List.Basic

/-!
# Lists of numbers by their runs

A list of numbers as runs of numbers that follow one another, each with its length and its first
number.
* `split` makes them, as long as they can be, and `expand` gives the list back;
* `lookup` is one of its numbers without doing so;
* `split_cons`, `split_next`: the first run is that of the first number, and a number that follows the
  one before it makes its run longer.
-/

namespace GenLogger.Lib.Fragments

/-- The numbers of the runs. -/
def expand (runs : List (Nat × Nat)) : List Nat := runs.flatMap fun run => List.range' run.2 run.1

/-- The runs of a list, as long as they can be. -/
def split : List Nat → List (Nat × Nat)
  | [] => []
  | c :: l =>
    match split l with
    | (n, top) :: runs => if top = c + 1 then (n + 1, c) :: runs else (1, c) :: (n, top) :: runs
    | [] => [(1, c)]

/-- The number at `i`. -/
def lookup : List (Nat × Nat) → Nat → Option Nat
  | [], _ => none
  | (n, top) :: runs, i => if i < n then some (i + top) else lookup runs (i - n)

variable {runs : List (Nat × Nat)} {c : Nat} {l : List Nat}

@[simp] theorem expand_nil : expand [] = [] := rfl

@[simp] theorem expand_cons (run : Nat × Nat) (runs : List (Nat × Nat)) :
    expand (run :: runs) = List.range' run.2 run.1 ++ expand runs :=
  List.flatMap_cons

theorem lookup_eq (runs : List (Nat × Nat)) (i : Nat) : lookup runs i = (expand runs)[i]? := by
  induction runs generalizing i with
  | nil => rfl
  | cons run runs ih =>
    obtain ⟨n, top⟩ := run
    rw [lookup, expand_cons]
    by_cases hi : i < n
    · have hlength : i < (List.range' top n).length := by rwa [List.length_range']
      rw [if_pos hi, List.getElem?_append_left hlength, List.getElem?_eq_getElem hlength,
        List.getElem_range', Nat.one_mul, Nat.add_comm]
    · have hlength : (List.range' top n).length ≤ i := by
        rw [List.length_range']
        exact Nat.le_of_not_lt hi
      rw [if_neg hi, List.getElem?_append_right hlength, List.length_range', ih]

/-! ## The runs of a list -/

/-- The first run is that of the first number. -/
theorem split_cons (c : Nat) (l : List Nat) : ∃ n runs, split (c :: l) = (n + 1, c) :: runs := by
  rw [split]
  split
  · split
    · exact ⟨_, _, rfl⟩
    · exact ⟨0, _, rfl⟩
  · exact ⟨0, _, rfl⟩

/-- A number that follows the one before it makes its run longer. -/
theorem split_next {n : Nat} (h : split ((c + 1) :: l) = (n, c + 1) :: runs) :
    split (c :: (c + 1) :: l) = (n + 1, c) :: runs := by
  rw [split, h]
  exact if_pos rfl

theorem split_jump {d : Nat} (h : d ≠ c + 1) : split (c :: d :: l) = (1, c) :: split (d :: l) := by
  obtain ⟨n, runs, hd⟩ := split_cons d l
  rw [split, hd]
  exact if_neg h

theorem expand_split (l : List Nat) : expand (split l) = l := by
  induction l with
  | nil => rfl
  | cons c l ih =>
    rw [split]
    split
    · next n top runs h =>
      rw [h, expand_cons] at ih
      split
      · next htop =>
        subst htop
        rw [expand_cons, List.range'_succ, List.cons_append, ih]
      · rw [expand_cons, expand_cons, ih]
        rfl
    · next h =>
      rw [h] at ih
      rw [← ih]
      rfl

theorem pos_of_mem_split {run : Nat × Nat} (h : run ∈ split l) : 0 < run.1 := by
  induction l with
  | nil => exact absurd h List.not_mem_nil
  | cons c l ih =>
    rw [split] at h
    split at h
    · next hsplit =>
      rw [hsplit] at ih
      split at h
      · rcases List.mem_cons.mp h with rfl | h
        · exact Nat.succ_pos _
        · exact ih (List.mem_cons_of_mem _ h)
      · rcases List.mem_cons.mp h with rfl | h
        · exact Nat.one_pos
        · exact ih h
    · rw [List.mem_singleton.mp h]
      exact Nat.one_pos

end GenLogger.Lib.Fragments
