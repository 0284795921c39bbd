import GenLogger.Lib.Interaction
import Mathlib.Data.Stream.Init

/-!
# Programs on endless inputs

A program that asks for inputs is run on an endless stream of them; it returns if a part of the stream is
enough (`Returns`). What it takes off the front of a stream leaves a stream (`Interacts.leads`), so that
a program is followed from one part to the next.

`Halts E f` says of a function that `Interacts E` that it returns on every stream whose inputs cost more
than any bound (`Effect.Fair`). A stream of answers is one if time does not stand still: what each loop
needs is a `budget` that the cost of an input is taken from, and which the loop does not outlast. The
rules are those of `Interacts`: one for each shape a program has, and `poll` and `doWhile` for loops.
-/

namespace GenLogger.Lib

variable {σ ι α β : Type}

/-! ## Cost -/

namespace Effect

variable (E : Effect σ ι)

/-- What some inputs cost. -/
def spent : List ι → Nat
  | [] => 0
  | i :: l => E.cost i + spent l

open Stream'

/-- There is no bound to what the inputs cost. -/
def Fair (ω : Stream' ι) : Prop := ∀ d, ∃ n, d ≤ E.spent (ω.take n)

variable {E}

theorem spent_cons (i : ι) (l : List ι) : E.spent (i :: l) = E.cost i + E.spent l := rfl

theorem spent_append (l m : List ι) : E.spent (l ++ m) = E.spent l + E.spent m := by
  induction l with
  | nil => exact (Nat.zero_add _).symm
  | cons i l ih =>
    rw [List.cons_append, spent_cons, spent_cons, ih, Nat.add_assoc]

theorem spent_congr {E' : Effect σ ι} (hcost : E'.cost = E.cost) (l : List ι) :
    E'.spent l = E.spent l := by
  induction l with
  | nil => rfl
  | cons i l ih => rw [spent_cons, spent_cons, ih, hcost]

theorem spent_le {l m : List ι} (h : l <+: m) : E.spent l ≤ E.spent m := by
  obtain ⟨l', rfl⟩ := h
  rw [spent_append]
  exact Nat.le_add_right _ _

theorem cost_le_spent {i : ι} {l : List ι} (h : i ∈ l) : E.cost i ≤ E.spent l := by
  obtain ⟨l₁, l₂, rfl⟩ := List.append_of_mem h
  rw [spent_append, spent_cons]
  omega

/-- What is left of a stream costs the difference. -/
theorem spent_take_append (l : List ι) (ω : Stream' ι) (n : Nat) :
    E.spent ((l ++ₛ ω).take (l.length + n)) = E.spent l + E.spent (ω.take n) := by
  rw [← append_take, spent_append]

theorem Fair.congr {E' : Effect σ ι} {ω : Stream' ι} (h : E.Fair ω) (hcost : E'.cost = E.cost) :
    E'.Fair ω := by
  intro d
  obtain ⟨n, hn⟩ := h d
  exact ⟨n, by rwa [spent_congr hcost]⟩

theorem Fair.later {l : List ι} {ω : Stream' ι} (h : E.Fair (l ++ₛ ω)) : E.Fair ω := by
  intro d
  obtain ⟨n, hn⟩ := h (E.spent l + d)
  refine ⟨n, ?_⟩
  have hle : E.spent ((l ++ₛ ω).take n) ≤ E.spent ((l ++ₛ ω).take (l.length + n)) :=
    spent_le (take_prefix_take_left _ _ _ (Nat.le_add_left _ _))
  rw [spent_take_append] at hle
  omega

end Effect

open Stream'

/-! ## Returning -/

/-- A part of the stream is enough for a result. -/
def Returns (g : List ι → Option β) (ω : Stream' ι) : Prop := ∃ n, (g (ω.take n)).isSome

theorem Returns.append {g : List ι → Option β} {l : List ι} {ω : Stream' ι}
    (h : Returns (fun is => g (l ++ is)) ω) : Returns g (l ++ₛ ω) := by
  obtain ⟨n, hn⟩ := h
  refine ⟨l.length + n, ?_⟩
  rwa [← append_take]

/-- Where more inputs keep a result, the first ones may be given beforehand. -/
theorem returns_append_iff {g : List ι → Option β}
    (hmore : ∀ is m, (g is).isSome → (g (is ++ m)).isSome) {l : List ι} {ω : Stream' ι} :
    Returns g (l ++ₛ ω) ↔ Returns (fun is => g (l ++ is)) ω := by
  refine ⟨?_, Returns.append⟩
  rintro ⟨n, hn⟩
  rcases Nat.le_total n l.length with hle | hle
  · refine ⟨0, ?_⟩
    rw [take_append_of_le_length _ _ _ hle] at hn
    have hl := hmore _ (l.drop n) hn
    rw [List.take_append_drop] at hl
    simpa using hl
  · obtain ⟨k, rfl⟩ := Nat.exists_eq_add_of_le hle
    rw [← append_take] at hn
    exact ⟨k, hn⟩

section

variable {g : List ι → Option α} {k : α → Option β}

/-- A sequence returns only if its first part does. -/
theorem Returns.of_bind {ω : Stream' ι} (h : Returns (fun is => g is >>= k) ω) : Returns g ω := by
  obtain ⟨n, hn⟩ := h
  obtain ⟨b, hb⟩ := Option.isSome_iff_exists.mp hn
  obtain ⟨a, ha, -⟩ := Option.bind_eq_some_iff.mp hb
  exact ⟨n, Option.isSome_of_eq_some ha⟩

end

namespace Interacts

variable {E : Effect σ ι} {f : σ → List ι → Option (α × σ × List ι)}

/-- What a run has not asked for may be anything. -/
theorem runs (h : Interacts E f) {s s' : σ} {a : α} {l : List ι}
    (hrun : f s (l ++ []) = some (a, s', [])) (m : List ι) : f s (l ++ m) = some (a, s', m) := by
  have hmore := h.append hrun m
  rwa [List.append_nil] at hmore

theorem more (h : Interacts E f) (s : σ) (is m : List ι) (hsome : (f s is).isSome) :
    (f s (is ++ m)).isSome := by
  obtain ⟨⟨a, s', rest⟩, hrun⟩ := Option.isSome_iff_exists.mp hsome
  rw [h.append hrun m]
  rfl

/-- What is taken off the front of a stream. -/
theorem leads (h : Interacts E f) {s : σ} {ω : Stream' ι} (hret : Returns (f s) ω) :
    ∃ l ω' a s', ω = l ++ₛ ω' ∧ E.rel s l s' ∧ ∀ m, f s (l ++ m) = some (a, s', m) := by
  obtain ⟨n, hsome⟩ := hret
  obtain ⟨⟨a, s', rest⟩, hrun⟩ := Option.isSome_iff_exists.mp hsome
  obtain ⟨l, htake, hrel, hl⟩ := h.takes hrun
  refine ⟨l, rest ++ₛ ω.drop n, a, s', ?_, hrel, hl⟩
  rw [← append_append_stream, ← htake, append_take_drop]

/-- A sequence whose first part returns, and whose second part does so from there. -/
theorem returns_bind (h : Interacts E f) {k : α × σ × List ι → Option β} {s : σ} {ω : Stream' ι}
    (hfair : E.Fair ω) (hret : Returns (f s) ω)
    (hk : ∀ a s' ω', E.Fair ω' → Returns (fun is => k (a, s', is)) ω') :
    Returns (fun is => f s is >>= k) ω := by
  obtain ⟨l, ω', a, s', rfl, -, hl⟩ := h.leads hret
  refine Returns.append ?_
  simp only [hl]
  exact hk a s' ω' hfair.later

end Interacts

/-! ## Functions that return on every fair stream -/

/-- `f` interacts, and returns where the inputs cost more than any bound. -/
structure Halts (E : Effect σ ι) (f : σ → List ι → Option (α × σ × List ι)) : Prop
    extends Interacts E f where
  halts : ∀ {s ω}, E.Fair ω → Returns (f s) ω

namespace Halts

variable {E E' : Effect σ ι} {f g : σ → List ι → Option (α × σ × List ι)}

/-- What `f` takes from a fair stream. -/
theorem leads (h : Halts E f) (s : σ) {ω : Stream' ι} (hfair : E.Fair ω) :
    ∃ l ω' a s', ω = l ++ₛ ω' ∧ E.Fair ω' ∧ E.rel s l s' ∧ ∀ m, f s (l ++ m) = some (a, s', m) := by
  obtain ⟨l, ω', a, s', rfl, hrel, hl⟩ := h.toInteracts.leads (h.halts (s := s) hfair)
  exact ⟨l, ω', a, s', rfl, hfair.later, hrel, hl⟩

/-- A wider effect of the same cost. -/
theorem mono (h : Halts E f) (hcost : E'.cost = E.cost)
    (hrel : ∀ {s l s'}, E.rel s l s' → E'.rel s l s') : Halts E' f where
  toInteracts := h.toInteracts.mono hcost hrel
  halts hfair := h.halts (hfair.congr hcost.symm)

theorem done {a : σ → α} {k : σ → σ} (h : ∀ s, E.rel s [] (k s)) :
    Halts E (fun s is => some (a s, k s, is)) where
  toInteracts := .done h
  halts _ := ⟨0, rfl⟩

theorem before {k : σ → σ} (h : ∀ s, E.rel s [] (k s)) (hf : Halts E f) :
    Halts E (fun s is => f (k s) is) where
  toInteracts := .before h hf.toInteracts
  halts hfair := hf.halts hfair

/-- What follows may use the state before `f`, too. -/
theorem bindFrom {k : σ → α × σ × List ι → Option (β × σ × List ι)} (hf : Halts E f)
    (hk : ∀ s₀ a, Halts E (fun s is => k s₀ (a, s, is))) :
    Halts E (fun s is => f s is >>= k s) where
  toInteracts := .bindFrom hf.toInteracts fun s₀ a => (hk s₀ a).toInteracts
  halts {s _} hfair := hf.toInteracts.returns_bind hfair (hf.halts hfair)
    fun a _ _ hfair' => (hk s a).halts hfair'

theorem bind {k : α × σ × List ι → Option (β × σ × List ι)} (hf : Halts E f)
    (hk : ∀ a, Halts E (fun s is => k (a, s, is))) : Halts E (fun s is => f s is >>= k) :=
  bindFrom hf fun _ => hk

/-- A function that depends on the state it starts in. -/
theorem atState {f : σ → σ → List ι → Option (α × σ × List ι)} (h : ∀ s₀, Halts E (f s₀)) :
    Halts E (fun s is => f s s is) where
  toInteracts := .atState fun s₀ => (h s₀).toInteracts
  halts {s _} hfair := (h s).halts hfair

/-- A condition on the state. -/
theorem test {c : σ → Prop} [∀ s, Decidable (c s)] (hf : Halts E f) (hg : Halts E g) :
    Halts E (fun s is => if c s then f s is else g s is) where
  toInteracts := .test hf.toInteracts hg.toInteracts
  halts {s ω} hfair := by
    by_cases hc : c s
    · simp only [if_pos hc]
      exact hf.halts hfair
    · simp only [if_neg hc]
      exact hg.halts hfair

theorem ite {c : Prop} [Decidable c] (hf : Halts E f) (hg : Halts E g) :
    Halts E (fun s is => if c then f s is else g s is) :=
  test hf hg

/-- A condition known on both sides. -/
theorem dite {c : Prop} [Decidable c] (hf : c → Halts E f) (hg : ¬ c → Halts E g) :
    Halts E (fun s is => if c then f s is else g s is) := by
  by_cases hc : c
  · simp only [if_pos hc]
    exact hf hc
  · simp only [if_neg hc]
    exact hg hc

/-- One input. -/
theorem next {absorb : σ → ι → σ} (value : ι → α) (habsorb : ∀ s i, E.rel s [i] (absorb s i))
    (hslow : ∀ d, ∃ i, d ≤ E.cost i)
    (hf : ∀ s is, f s is = is.head?.map fun i => (value i, absorb s i, is.tail)) :
    Halts E f where
  toInteracts := .next value habsorb hslow hf
  halts _ := ⟨1, by rw [hf]; rfl⟩

/-! A loop does not outlast a budget that the cost of its inputs is taken from. -/

section

variable {absorb : σ → ι → σ} {again : σ → ι → Bool}

theorem poll_returns {budget : σ → Nat}
    (hbudget : ∀ s i, budget (absorb s i) ≤ budget s - E.cost i)
    (hstop : ∀ s i, again s i = true → 0 < budget s) {s : σ} {ω : Stream' ι} {n : Nat}
    (hn : budget s ≤ E.spent (ω.take n)) : Returns (Lib.poll absorb again s) ω := by
  induction n generalizing s ω with
  | zero =>
    have hzero : budget s = 0 := Nat.eq_zero_of_le_zero hn
    have hends : ¬ again (absorb s ω.head) ω.head = true := by
      intro hagain
      have hpos := hstop _ _ hagain
      have hleft := hbudget s ω.head
      omega
    exact ⟨1, Option.isSome_of_eq_some (if_neg hends)⟩
  | succ n ih =>
    by_cases hagain : again (absorb s ω.head) ω.head = true
    · have hleft := hbudget s ω.head
      rw [take_succ, Effect.spent_cons] at hn
      obtain ⟨m, hm⟩ := ih (s := absorb s ω.head) (ω := ω.tail) (by omega)
      exact ⟨m + 1, (congrArg Option.isSome (if_pos hagain)).trans hm⟩
    · exact ⟨1, Option.isSome_of_eq_some (if_neg hagain)⟩

theorem poll (budget : σ → Nat) (habsorb : ∀ s i, E.rel s [i] (absorb s i))
    (hlast : ∀ d, ∃ i, d ≤ E.cost i ∧ ∀ s, again (absorb s i) i = false)
    (hbudget : ∀ s i, budget (absorb s i) ≤ budget s - E.cost i)
    (hstop : ∀ s i, again s i = true → 0 < budget s) :
    Halts E (fun s is => Lib.poll absorb again s is) where
  toInteracts := .poll habsorb hlast
  halts {s ω} hfair := by
    obtain ⟨n, hn⟩ := hfair (budget s)
    exact poll_returns hbudget hstop hn

end

section

variable {again : σ → α → Bool}

theorem doWhile_returns {budget : σ → Nat} (h : Halts E f)
    (hprogress : ∀ {s is a s' rest}, f s is = some (a, s', rest) → rest.length < is.length)
    (hbudget : ∀ {s l s'}, E.rel s l s' → budget s' ≤ budget s - E.spent l)
    (hstop : ∀ s a, again s a = true → 0 < budget s) {n : Nat} {s : σ} {ω : Stream' ι}
    (hfair : E.Fair ω) (hn : budget s ≤ E.spent (ω.take n)) :
    Returns (fun is => Lib.doWhile f again is.length s is) ω := by
  induction n using Nat.strongRecOn generalizing s ω with
  | ind n ih =>
  obtain ⟨l, ω', a, s', rfl, hfair', hrel, hl⟩ := h.leads s hfair
  have hround (m : List ι) : Lib.doWhile f again (l ++ m).length s (l ++ m) =
      if again s' a then Lib.doWhile f again ((l ++ m).length - 1) s' m else some (a, s', m) :=
    Interacts.doWhile_round (hl m) (hprogress (hl m))
  refine Returns.append ?_
  by_cases hagain : again s' a = true
  · have hpos := hstop s' a hagain
    have hleft := hbudget hrel
    -- what this round took was less than the budget, so it ended within the first `n` inputs
    have hle : l.length ≤ n := by
      by_contra hlt
      have hspent : E.spent ((l ++ₛ ω').take n) ≤ E.spent l := by
        rw [take_append_of_le_length _ _ _ (by omega)]
        exact Effect.spent_le (List.take_prefix _ _)
      omega
    obtain ⟨k, rfl⟩ := Nat.exists_eq_add_of_le hle
    rw [Effect.spent_take_append] at hn
    have htook := hprogress (hl [])
    rw [List.append_nil] at htook
    have hpart : k < l.length + k := Nat.lt_add_of_pos_left htook
    obtain ⟨m, hm⟩ := ih k hpart hfair' (show budget s' ≤ _ by omega)
    obtain ⟨⟨b, s'', rest⟩, hloop⟩ := Option.isSome_iff_exists.mp hm
    obtain ⟨l', htake, -, hl'⟩ := h.toInteracts.doWhile_takes hprogress hloop
    refine ⟨m, ?_⟩
    have hlen := congrArg List.length htake
    rw [List.length_append] at hlen
    refine (congrArg Option.isSome ((hround _).trans (if_pos hagain))).trans ?_
    rw [htake, hl' rest]
    · rfl
    · rw [List.length_append, List.length_append]
      rw [List.length_nil] at htook
      omega
  · exact ⟨0, congrArg Option.isSome ((hround _).trans (if_neg hagain))⟩

theorem doWhile (budget : σ → Nat) (h : Halts E f)
    (hprogress : ∀ {s is a s' rest}, f s is = some (a, s', rest) → rest.length < is.length)
    (hbudget : ∀ {s l s'}, E.rel s l s' → budget s' ≤ budget s - E.spent l)
    (hstop : ∀ s a, again s a = true → 0 < budget s) :
    Halts E (fun s is => Lib.doWhile f again is.length s is) where
  toInteracts := by
    refine .doWhile budget h.toInteracts hprogress fun {s l s' i} hrel hi hcost a => ?_
    have hspent := Effect.cost_le_spent (E := E) hi
    have hleft := hbudget hrel
    refine Bool.eq_false_iff.mpr fun hagain => ?_
    have hpos := hstop s' a hagain
    omega
  halts {s ω} hfair := by
    obtain ⟨n, hn⟩ := hfair (budget s)
    exact doWhile_returns h hprogress hbudget hstop hfair hn

end

end Halts

end GenLogger.Lib
