import Mathlib.Data.List.Basic

/-!
# Stretches of a sequence

A sequence without an end, as a function on the indices. `chunk f i n` are `n` elements of it from `i`
on, and `splice f i l` is the sequence with `l` laid over it at `i`.

Results:
* `splice_append`: what a series of transfers does to a sequence is one splice.
* `chunk_splice`: what is left in a prefix of it is a list with a part replaced.
* `splice_congr`, `chunk_eq_chunk`: only what is laid over a sequence, and what is outside of it,
  matters.
-/

namespace GenLogger.Lib

variable {α : Type}

/-- `n` elements from `i` on. -/
def chunk (f : Nat → α) (i n : Nat) : List α := (List.range' i n).map f

/-- The sequence with `l` laid over it at `i`. -/
def splice (f : Nat → α) (i : Nat) (l : List α) (k : Nat) : α :=
  if i ≤ k then l[k - i]?.getD (f k) else f k

variable {f f' : Nat → α} {i k n : Nat} {l m : List α}

/-! ## `chunk` -/

@[simp] theorem length_chunk (f : Nat → α) (i n : Nat) : (chunk f i n).length = n := by
  simp [chunk]

@[simp] theorem chunk_zero (f : Nat → α) (i : Nat) : chunk f i 0 = [] := rfl

theorem chunk_add (f : Nat → α) (i m n : Nat) :
    chunk f i (m + n) = chunk f i m ++ chunk f (i + m) n := by
  simp [chunk, ← List.range'_append_1]

theorem chunk_congr (h : ∀ k, i ≤ k → k < i + n → f' k = f k) : chunk f' i n = chunk f i n := by
  refine List.map_congr_left fun k hk => ?_
  obtain ⟨hlo, hhi⟩ := List.mem_range'_1.mp hk
  exact h k hlo hhi

/-- Two stretches are equal when their elements are. -/
theorem chunk_eq_chunk {j : Nat} (h : ∀ k < n, f' (i + k) = f (j + k)) :
    chunk f' i n = chunk f j n := by
  refine List.ext_getElem (by simp) fun k hk _ => ?_
  rw [length_chunk] at hk
  simp [chunk, h k hk]

theorem take_chunk (f : Nat → α) (i k n : Nat) : (chunk f i n).take k = chunk f i (min k n) := by
  rcases Nat.le_total k n with h | h
  · obtain ⟨d, rfl⟩ := Nat.exists_eq_add_of_le h
    rw [Nat.min_eq_left h, chunk_add, List.take_left' (length_chunk ..)]
  · rw [Nat.min_eq_right h, List.take_of_length_le (by simpa using h)]

theorem drop_chunk (f : Nat → α) (i : Nat) (h : k ≤ n) :
    (chunk f i n).drop k = chunk f (i + k) (n - k) := by
  obtain ⟨d, rfl⟩ := Nat.exists_eq_add_of_le h
  rw [chunk_add, List.drop_left' (length_chunk ..), Nat.add_sub_cancel_left]

/-! ## `splice` -/

theorem splice_of_lt (h : k < i) : splice f i l k = f k := if_neg (Nat.not_le.mpr h)

theorem splice_of_ge (h : i + l.length ≤ k) : splice f i l k = f k := by
  have hlength : l.length ≤ k - i := by omega
  unfold splice
  split
  · rw [List.getElem?_eq_none hlength, Option.getD_none]
  · rfl

theorem splice_add (h : k < l.length) : splice f i l (i + k) = l[k] := by
  unfold splice
  rw [if_pos (Nat.le_add_right i k), Nat.add_sub_cancel_left, List.getElem?_eq_getElem h,
    Option.getD_some]

@[simp] theorem splice_nil (f : Nat → α) (i : Nat) : splice f i [] = f := by
  funext k
  simp [splice]

/-- One stretch laid over a sequence, and the next one behind it. -/
theorem splice_append (f : Nat → α) (i : Nat) (l m : List α) :
    splice f i (l ++ m) = splice (splice f i l) (i + l.length) m := by
  funext k
  by_cases hlt : k < i + l.length
  · rw [splice_of_lt hlt]
    unfold splice
    split
    · rw [List.getElem?_append_left (by omega)]
    · rfl
  · have hle := Nat.not_lt.mp hlt
    have hnone : l[k - i]? = none := List.getElem?_eq_none (by omega)
    have hi : i ≤ k := by omega
    unfold splice
    rw [if_pos hle, if_pos hi, List.getElem?_append_right (by omega), hnone, Option.getD_none,
      ite_self, Nat.sub_sub]

/-- What is laid over a sequence matters, and what is outside of it. -/
theorem splice_congr (h : k < i ∨ i + l.length ≤ k → f' k = f k) :
    splice f' i l k = splice f i l k := by
  by_cases hlt : k < i
  · rw [splice_of_lt hlt, splice_of_lt hlt, h (.inl hlt)]
  · by_cases hge : i + l.length ≤ k
    · rw [splice_of_ge hge, splice_of_ge hge, h (.inr hge)]
    · obtain ⟨j, rfl⟩ := Nat.exists_eq_add_of_le (Nat.not_lt.mp hlt)
      rw [splice_add (by omega), splice_add (by omega)]

@[simp] theorem chunk_splice_self (f : Nat → α) (i : Nat) (l : List α) :
    chunk (splice f i l) i l.length = l := by
  refine List.ext_getElem (length_chunk ..) fun k hk hk' => ?_
  simp [chunk, splice_add hk']

/-- The first `max n (i + l.length)` elements, when `l` begins within the first `n`. -/
theorem chunk_splice (f : Nat → α) (h : i ≤ n) :
    chunk (splice f i l) 0 (max n (i + l.length)) =
      (chunk f 0 n).take i ++ l ++ (chunk f 0 n).drop (i + l.length) := by
  have hbefore : chunk (splice f i l) 0 i = chunk f 0 i :=
    chunk_congr fun k _ hk => splice_of_lt (by omega)
  have hself := chunk_splice_self f i l
  rw [take_chunk, Nat.min_eq_left h, ← hbefore]
  rcases Nat.le_total n (i + l.length) with hle | hle
  · rw [Nat.max_eq_right hle, List.drop_eq_nil_of_le (by simpa using hle), List.append_nil, chunk_add,
      Nat.zero_add, hself]
  · obtain ⟨d, rfl⟩ := Nat.exists_eq_add_of_le hle
    rw [Nat.max_eq_left hle, chunk_add f 0 (i + l.length), List.drop_left' (length_chunk ..), chunk_add,
      chunk_add, Nat.zero_add, Nat.zero_add, hself]
    congr 1
    exact chunk_congr fun k hk _ => splice_of_ge hk

end GenLogger.Lib
