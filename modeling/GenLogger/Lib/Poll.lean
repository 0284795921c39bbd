import Mathlib.Data.List.Basic

/-!
# Polling loops

`do i = next(); while (again(i));` over the inputs that will come. A program that polls is a function
of these inputs: `none` says that they do not suffice for it to return.

Results:
* `poll_answer`: a loop over an input list split where the loop ends.
* `poll_polls`, `poll_cases`: the split of a loop that returned.
* `poll_isSome`: an input that ends the loop wherever it comes lets it return.
-/

namespace GenLogger.Lib

variable {ι σ : Type}

/-- `do i = next(); while (again(i));`. The state absorbs every input before the test. -/
def poll (absorb : σ → ι → σ) (again : σ → ι → Bool) : σ → List ι → Option (ι × σ × List ι)
  | _, [] => none
  | s, i :: is =>
    if again (absorb s i) i then poll absorb again (absorb s i) is else some (i, absorb s i, is)

/-- The loop goes on after each input of `waiting`, and ends with `last`. -/
structure Polls (absorb : σ → ι → σ) (again : σ → ι → Bool) (s : σ) (waiting : List ι) (last : ι) :
    Prop where
  waits : ∀ l i m, waiting = l ++ i :: m → again (absorb (l.foldl absorb s) i) i = true
  ends : again (absorb (waiting.foldl absorb s) last) last = false

variable {absorb : σ → ι → σ} {again : σ → ι → Bool}

theorem poll_answer {s : σ} {waiting : List ι} {last : ι} (h : Polls absorb again s waiting last)
    (rest : List ι) : poll absorb again s (waiting ++ last :: rest) =
      some (last, absorb (waiting.foldl absorb s) last, rest) := by
  induction waiting generalizing s with
  | nil => exact if_neg (Bool.eq_false_iff.mp h.ends)
  | cons i waiting ih =>
    have hagain := h.waits [] i waiting rfl
    have htail : Polls absorb again (absorb s i) waiting last :=
      ⟨fun l j m hl => h.waits (i :: l) j m (by rw [hl]; rfl), h.ends⟩
    exact (if_pos hagain).trans (ih htail)

/-- Where a loop that returned has ended. -/
theorem poll_polls {s s' : σ} {inputs rest : List ι} {last : ι}
    (h : poll absorb again s inputs = some (last, s', rest)) : ∃ waiting,
      inputs = waiting ++ last :: rest ∧ Polls absorb again s waiting last := by
  induction inputs generalizing s with
  | nil => cases h
  | cons i is ih =>
    by_cases hagain : again (absorb s i) i = true
    · obtain ⟨waiting, rfl, hwaits, hends⟩ := ih ((if_pos hagain).symm.trans h)
      refine ⟨i :: waiting, rfl, fun l j m hl => ?_, hends⟩
      cases l with
      | nil => cases hl; exact hagain
      | cons k l => cases hl; exact hwaits l j m rfl
    · cases (if_neg hagain).symm.trans h
      refine ⟨[], rfl, fun l j m hl => ?_, Bool.eq_false_iff.mpr hagain⟩
      simp at hl

theorem poll_cases {s s' : σ} {inputs rest : List ι} {last : ι}
    (h : poll absorb again s inputs = some (last, s', rest)) : ∃ waiting,
      inputs = waiting ++ last :: rest ∧ s' = absorb (waiting.foldl absorb s) last := by
  induction inputs generalizing s with
  | nil => cases h
  | cons i is ih =>
    unfold poll at h
    split at h
    · obtain ⟨waiting, rfl, hs⟩ := ih h
      exact ⟨i :: waiting, rfl, hs⟩
    · cases h
      exact ⟨[], rfl, rfl⟩

/-- An input that ends the loop wherever it comes lets it return. -/
theorem poll_isSome {i : ι} (hi : ∀ s, again (absorb s i) i = false) {inputs : List ι}
    (h : i ∈ inputs) (s : σ) : (poll absorb again s inputs).isSome := by
  induction inputs generalizing s with
  | nil => cases h
  | cons j is ih =>
    by_cases hagain : again (absorb s j) j = true
    · have hne : i ≠ j := by
        rintro rfl
        rw [hi] at hagain
        cases hagain
      exact (congrArg Option.isSome (if_pos hagain)).trans
        (ih ((List.mem_cons.mp h).resolve_left hne) (absorb s j))
    · exact Option.isSome_of_eq_some (if_neg hagain)

end GenLogger.Lib
