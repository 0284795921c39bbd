import Mathlib.Data.List.Basic

/-!
# Runs of a step relation

A step relation `step : σ → ι → σ → Prop` says how an input takes a state to the next one. `Run`
collects the transitions a run took, so that a property of a run is a property of each of them.

An invariant is proved once, for one step (`Preserved`, `Run.invariant`, `Run.taken`). The `iff`
rules turn what is known of one transition into an equivalence about a run:
* `Run.forall_iff`: `P` and `Q` agree on every transition that starts in the invariant;
* `Run.forall_after_iff`: the same for a property of states, where one transition may also use
  that the property held before it;
* `Run.settled_iff`: `Q` is needed now and `P` fails later. A transition without `Q` leaves a doomed
  state, and a doomed state stays one until `P` fails, so in a run that ends in no doomed state `P`
  and `Q` agree.
-/

namespace GenLogger.Lib

/-- One transition of a run. -/
structure Taken (σ ι : Type) where
  before : σ
  input : ι
  after : σ

variable {σ ι : Type} {step : σ → ι → σ → Prop}

/-- Every step keeps `I`. -/
def Preserved (step : σ → ι → σ → Prop) (I : σ → Prop) : Prop :=
  ∀ s i s', I s → step s i s' → I s'

/-- `Run step s ts s'`: the transitions `ts` lead from `s` to `s'`. -/
inductive Run (step : σ → ι → σ → Prop) : σ → List (Taken σ ι) → σ → Prop
  | nil (s : σ) : Run step s [] s
  | cons {s s' s'' : σ} {i : ι} {ts : List (Taken σ ι)} (h : step s i s') (hr : Run step s' ts s'') :
      Run step s (⟨s, i, s'⟩ :: ts) s''

namespace Run

variable {s s' : σ} {ts : List (Taken σ ι)} {I : σ → Prop}

/-- One run after another. -/
theorem append {s₁ : σ} {us : List (Taken σ ι)} (h : Run step s ts s₁) (h' : Run step s₁ us s') :
    Run step s (ts ++ us) s' := by
  induction h with
  | nil s => exact h'
  | cons hs _ ih => exact .cons hs (ih h')

/-- A run can be cut in two. -/
theorem split {us : List (Taken σ ι)} (h : Run step s (ts ++ us) s') :
    ∃ s₁, Run step s ts s₁ ∧ Run step s₁ us s' := by
  induction ts generalizing s with
  | nil => exact ⟨s, .nil s, h⟩
  | cons t ts ih =>
    cases h with
    | cons hs hr =>
      obtain ⟨s₁, hr₁, hr₂⟩ := ih hr
      exact ⟨s₁, .cons hs hr₁, hr₂⟩

/-- A run without inputs stays where it is. -/
theorem of_inputs_nil (h : Run step s ts s') (hinputs : ts.map Taken.input = []) : s' = s := by
  cases h with
  | nil => rfl
  | cons => cases hinputs

/-- The first step of a run, by its input. -/
theorem of_inputs_cons {i : ι} {is : List ι} (h : Run step s ts s') (hinputs : ts.map Taken.input = i :: is) :
    ∃ s₁ us, step s i s₁ ∧ Run step s₁ us s' ∧ us.map Taken.input = is := by
  cases h with
  | nil => cases hinputs
  | cons hs hr =>
    obtain ⟨rfl, hrest⟩ := List.cons.inj hinputs
    exact ⟨_, _, hs, hr, hrest⟩

/-- A run whose transitions all satisfy `R` is one of the steps that do. -/
theorem restrict {R : Taken σ ι → Prop} (h : Run step s ts s') (hR : ∀ t ∈ ts, R t) :
    Run (fun s i s' => step s i s' ∧ R ⟨s, i, s'⟩) s ts s' := by
  induction h with
  | nil s => exact .nil s
  | cons hs _ ih =>
    rw [List.forall_mem_cons] at hR
    exact .cons ⟨hs, hR.1⟩ (ih hR.2)

/-- What one step preserves, a run preserves. -/
theorem invariant (hstep : Preserved step I) (h : Run step s ts s') (h0 : I s) :
    I s' := by
  induction h with
  | nil s => exact h0
  | cons hs _ ih => exact ih (hstep _ _ _ h0 hs)

/-- Every transition of a run is a step that starts in the invariant. -/
theorem taken (hstep : Preserved step I) (h : Run step s ts s') (h0 : I s) :
    ∀ t ∈ ts, I t.before ∧ step t.before t.input t.after := by
  induction h with
  | nil s => intro t ht; cases ht
  | cons hs _ ih =>
    intro t ht
    rcases List.mem_cons.mp ht with rfl | ht
    · exact ⟨h0, hs⟩
    · exact ih (hstep _ _ _ h0 hs) t ht

/-- An equivalence about one transition is one about every run. -/
theorem forall_iff {P Q : Taken σ ι → Prop} (hstep : Preserved step I)
    (hiff : ∀ t : Taken σ ι, I t.before → step t.before t.input t.after → (P t ↔ Q t))
    (h : Run step s ts s') (h0 : I s) : (∀ t ∈ ts, P t) ↔ ∀ t ∈ ts, Q t := by
  have htaken := taken hstep h h0
  constructor
  · intro hP t ht
    exact (hiff t (htaken t ht).1 (htaken t ht).2).mp (hP t ht)
  · intro hQ t ht
    exact (hiff t (htaken t ht).1 (htaken t ht).2).mpr (hQ t ht)

/-- The same for a property of states, which one transition may assume before it. -/
theorem forall_after_iff {P : σ → Prop} {Q : Taken σ ι → Prop}
    (hstep : Preserved step I)
    (hiff : ∀ t : Taken σ ι, I t.before → P t.before → step t.before t.input t.after →
      (P t.after ↔ Q t))
    (h : Run step s ts s') (h0 : I s) (hP : P s) : (∀ t ∈ ts, P t.after) ↔ ∀ t ∈ ts, Q t := by
  induction h with
  | nil s =>
    constructor
    · intro _ t ht; cases ht
    · intro _ t ht; cases ht
  | @cons s s' s'' i ts hs _ ih =>
    have hhead := hiff ⟨s, i, s'⟩ h0 hP hs
    rw [List.forall_mem_cons, List.forall_mem_cons]
    constructor
    · rintro ⟨h1, h2⟩
      exact ⟨hhead.mp h1, (ih (hstep _ _ _ h0 hs) h1).mp h2⟩
    · rintro ⟨h1, h2⟩
      have h1 := hhead.mpr h1
      exact ⟨h1, (ih (hstep _ _ _ h0 hs) h1).mpr h2⟩

/-- An invariant that the transitions with `Q` keep, and the property it gives them. -/
theorem sound {P Q : Taken σ ι → Prop}
    (hgood : ∀ t : Taken σ ι, I t.before → step t.before t.input t.after → Q t → P t ∧ I t.after)
    (h : Run step s ts s') (h0 : I s) (hQ : ∀ t ∈ ts, Q t) : (∀ t ∈ ts, P t) ∧ I s' := by
  induction h with
  | nil s => exact ⟨nofun, h0⟩
  | @cons s s₁ s' i ts hs _ ih =>
    rw [List.forall_mem_cons] at hQ
    obtain ⟨hP, hI⟩ := hgood ⟨s, i, s₁⟩ h0 hs hQ.1
    obtain ⟨hPs, hend⟩ := ih hI hQ.2
    exact ⟨List.forall_mem_cons.mpr ⟨hP, hPs⟩, hend⟩

/-- A doomed state leads to a failure of `P`, or to a doomed end. -/
theorem doomed {P : Taken σ ι → Prop} {D : σ → Prop}
    (hdoom : ∀ t : Taken σ ι, D t.before → step t.before t.input t.after → ¬ P t ∨ D t.after)
    (h : Run step s ts s') (h0 : D s) : (∃ t ∈ ts, ¬ P t) ∨ D s' := by
  induction h with
  | nil s => exact Or.inr h0
  | @cons s s₁ s' i ts hs _ ih =>
    rcases hdoom ⟨s, i, s₁⟩ h0 hs with hP | hD
    · exact Or.inl ⟨_, List.mem_cons_self, hP⟩
    · rcases ih hD with ⟨t, ht, hP⟩ | hend
      · exact Or.inl ⟨t, List.mem_cons_of_mem _ ht, hP⟩
      · exact Or.inr hend

/-- The transition that misses `Q` and the failure of `P` may lie apart. -/
theorem settled_iff {P Q : Taken σ ι → Prop} {D : σ → Prop}
    (hgood : ∀ t : Taken σ ι, I t.before → step t.before t.input t.after → Q t → P t ∧ I t.after)
    (hbad : ∀ t : Taken σ ι, I t.before → step t.before t.input t.after → ¬ Q t →
      ¬ P t ∨ D t.after)
    (hdoom : ∀ t : Taken σ ι, D t.before → step t.before t.input t.after → ¬ P t ∨ D t.after)
    (h : Run step s ts s') (h0 : I s) (hend : ¬ D s') : (∀ t ∈ ts, P t) ↔ ∀ t ∈ ts, Q t := by
  refine ⟨fun hP => ?_, fun hQ => (sound hgood h h0 hQ).1⟩
  induction h with
  | nil s => exact nofun
  | @cons s s₁ s' i ts hs hr ih =>
    rw [List.forall_mem_cons] at hP ⊢
    by_cases hQ : Q ⟨s, i, s₁⟩
    · exact ⟨hQ, ih (hgood ⟨s, i, s₁⟩ h0 hs hQ).2 hend hP.2⟩
    · rcases hbad ⟨s, i, s₁⟩ h0 hs hQ with hno | hD
      · exact absurd hP.1 hno
      · rcases doomed hdoom hr hD with ⟨t, ht, hno⟩ | hD'
        · exact absurd (hP.2 t ht) hno
        · exact absurd hD' hend

end Run

end GenLogger.Lib
