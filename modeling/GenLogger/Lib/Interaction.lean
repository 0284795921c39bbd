import GenLogger.Lib.Poll

/-!
# Programs that ask for inputs

A program that asks for inputs is a function of the state and of the inputs that will come; it returns
with the inputs it did not ask for, or `none` if there are too few of them. `Interacts E f` says of such
a function that
* it takes some inputs off the front, has the effect `E` on the state, and gives the same result
  whatever comes after these inputs;
* it can always be brought to return, by inputs that are as slow as we like.

An effect is a relation that chains (`Effect`), so that the rules compose: `bind`, `bindFrom`, `ite`,
`dite`, `test`, `atState`, `before`, `done`, `next` for one input, and `poll` and `doWhile` for loops. Each is
stated for the term that `do` notation makes, and the proof about a function follows its text.

`Ends f s P` is the same for one start: from `s`, `f` returns with `P` if it returns, and can be brought to.
-/

namespace GenLogger.Lib

variable {σ ι α β : Type}

/-- `do a = body(); while (again(a));`, in at most `n` rounds. -/
def doWhile (body : σ → List ι → Option (α × σ × List ι)) (again : σ → α → Bool) :
    Nat → σ → List ι → Option (α × σ × List ι)
  | 0, _, _ => none
  | n + 1, s, is => do
    let (a, s, is) ← body s is
    if again s a then doWhile body again n s is else some (a, s, is)

/-- A run that returns another value comes from a run. -/
theorem run_of_map {o : Option (α × σ × List ι)} {b : α → β} {c : β} {s' : σ} {rest : List ι}
    (h : (o >>= fun r => some (b r.1, r.2.1, r.2.2)) = some (c, s', rest)) :
    ∃ a, o = some (a, s', rest) ∧ c = b a := by
  obtain ⟨⟨a, s₁, mid⟩, hrun, heq⟩ := Option.bind_eq_some_iff.mp h
  cases heq
  exact ⟨a, hrun, rfl⟩

/-- What may happen to a state while some inputs are taken, and what an input costs. -/
structure Effect (σ ι : Type) where
  cost : ι → Nat
  rel : σ → List ι → σ → Prop
  refl : ∀ s, rel s [] s
  trans : ∀ {s s' s'' l m}, rel s l s' → rel s' m s'' → rel s (l ++ m) s''

/-- `f` takes inputs with the effect `E`, and never waits for an input that cannot come. -/
structure Interacts (E : Effect σ ι) (f : σ → List ι → Option (α × σ × List ι)) : Prop where
  takes : ∀ {s is a s' rest}, f s is = some (a, s', rest) →
    ∃ l, is = l ++ rest ∧ E.rel s l s' ∧ ∀ m, f s (l ++ m) = some (a, s', m)
  answers : ∀ d s is, ∃ more, (∀ i ∈ more, d ≤ E.cost i) ∧ (f s (is ++ more)).isSome

namespace Interacts

variable {E E' : Effect σ ι} {f g : σ → List ι → Option (α × σ × List ι)}

/-- The effect of a run over known inputs. -/
theorem rel_of_run (h : Interacts E f) {s s' : σ} {a : α} {l rest : List ι}
    (hrun : f s (l ++ rest) = some (a, s', rest)) : E.rel s l s' := by
  obtain ⟨l', hl, hrel, -⟩ := h.takes hrun
  rwa [List.append_cancel_right hl]

/-- More inputs at the end stay there. -/
theorem append (h : Interacts E f) {s s' : σ} {a : α} {is rest : List ι}
    (hrun : f s is = some (a, s', rest)) (m : List ι) : f s (is ++ m) = some (a, s', rest ++ m) := by
  obtain ⟨l, rfl, -, hl⟩ := h.takes hrun
  rw [List.append_assoc]
  exact hl (rest ++ m)

/-- A wider effect of the same cost. -/
theorem mono (h : Interacts E f) (hcost : E'.cost = E.cost)
    (hrel : ∀ {s l s'}, E.rel s l s' → E'.rel s l s') : Interacts E' f := by
  refine ⟨fun hrun => ?_, fun d s is => ?_⟩
  · obtain ⟨l, his, hl, hm⟩ := h.takes hrun
    exact ⟨l, his, hrel hl, hm⟩
  · rw [hcost]
    exact h.answers d s is

/-- A result without inputs. -/
theorem done {a : σ → α} {k : σ → σ} (h : ∀ s, E.rel s [] (k s)) :
    Interacts E (fun s is => some (a s, k s, is)) := by
  refine ⟨fun hrun => ?_, fun d s is => ⟨[], nofun, rfl⟩⟩
  cases hrun
  exact ⟨[], rfl, h _, fun m => rfl⟩

/-- A change of the state, then `f`. -/
theorem before {k : σ → σ} (h : ∀ s, E.rel s [] (k s)) (hf : Interacts E f) :
    Interacts E (fun s is => f (k s) is) := by
  refine ⟨fun hrun => ?_, fun d s is => hf.answers d (k s) is⟩
  obtain ⟨l, his, hl, hm⟩ := hf.takes hrun
  exact ⟨l, his, E.trans (h _) hl, hm⟩

/-- What follows may use the state before `f`, too. -/
theorem bindFrom {k : σ → α × σ × List ι → Option (β × σ × List ι)} (hf : Interacts E f)
    (hk : ∀ s₀ a, Interacts E (fun s is => k s₀ (a, s, is))) :
    Interacts E (fun s is => f s is >>= k s) := by
  refine ⟨fun {s is b s'' rest} hrun => ?_, fun d s is => ?_⟩
  · obtain ⟨⟨a, s', mid⟩, h₁, h₂⟩ := Option.bind_eq_some_iff.mp hrun
    obtain ⟨l, rfl, hl, hl'⟩ := hf.takes h₁
    obtain ⟨m, rfl, hm, hm'⟩ := (hk s a).takes h₂
    refine ⟨l ++ m, (List.append_assoc _ _ _).symm, E.trans hl hm, fun n => ?_⟩
    rw [List.append_assoc]
    exact Option.bind_eq_some_iff.mpr ⟨_, hl' (m ++ n), hm' n⟩
  · obtain ⟨more, hcost, hsome⟩ := hf.answers d s is
    obtain ⟨⟨a, s', rest⟩, h₁⟩ := Option.isSome_iff_exists.mp hsome
    obtain ⟨more', hcost', hsome'⟩ := (hk s a).answers d s' rest
    obtain ⟨b, h₂⟩ := Option.isSome_iff_exists.mp hsome'
    refine ⟨more ++ more', fun i hi => ?_, ?_⟩
    · rcases List.mem_append.mp hi with hi | hi
      · exact hcost i hi
      · exact hcost' i hi
    · rw [← List.append_assoc]
      exact Option.isSome_of_eq_some
        (Option.bind_eq_some_iff.mpr ⟨_, hf.append h₁ more', h₂⟩)

theorem bind {k : α × σ × List ι → Option (β × σ × List ι)} (hf : Interacts E f)
    (hk : ∀ a, Interacts E (fun s is => k (a, s, is))) : Interacts E (fun s is => f s is >>= k) :=
  bindFrom hf fun _ => hk

/-- A function that depends on the state it starts in. -/
theorem atState {f : σ → σ → List ι → Option (α × σ × List ι)} (h : ∀ s₀, Interacts E (f s₀)) :
    Interacts E (fun s is => f s s is) :=
  ⟨fun {s} => (h s).takes, fun d s => (h s).answers d s⟩

/-- A condition on the state. -/
theorem test {c : σ → Prop} [∀ s, Decidable (c s)] (hf : Interacts E f) (hg : Interacts E g) :
    Interacts E (fun s is => if c s then f s is else g s is) := by
  refine ⟨fun {s is a s' rest} hrun => ?_, fun d s is => ?_⟩
  · by_cases hc : c s
    · simp only [if_pos hc] at hrun ⊢
      exact hf.takes hrun
    · simp only [if_neg hc] at hrun ⊢
      exact hg.takes hrun
  · by_cases hc : c s
    · simp only [if_pos hc]
      exact hf.answers d s is
    · simp only [if_neg hc]
      exact hg.answers d s is

/-- A condition known on both sides. -/
theorem dite {c : Prop} [Decidable c] (hf : c → Interacts E f) (hg : ¬ c → Interacts E g) :
    Interacts E (fun s is => if c then f s is else g s is) := by
  by_cases hc : c
  · simp only [if_pos hc]
    exact hf hc
  · simp only [if_neg hc]
    exact hg hc

theorem ite {c : Prop} [Decidable c] (hf : Interacts E f) (hg : Interacts E g) :
    Interacts E (fun s is => if c then f s is else g s is) :=
  dite (fun _ => hf) fun _ => hg

/-- A loop that ends with `i`, which may be as slow as we like. -/
theorem poll {absorb : σ → ι → σ} {again : σ → ι → Bool} (habsorb : ∀ s i, E.rel s [i] (absorb s i))
    (hlast : ∀ d, ∃ i, d ≤ E.cost i ∧ ∀ s, again (absorb s i) i = false) :
    Interacts E (fun s is => poll absorb again s is) := by
  refine ⟨fun {s is a s' rest} hrun => ?_, fun d s is => ?_⟩
  · induction is generalizing s with
    | nil => cases hrun
    | cons i is ih =>
      by_cases hagain : again (absorb s i) i = true
      · obtain ⟨l, rfl, hl, hm⟩ := ih ((if_pos hagain).symm.trans hrun)
        exact ⟨i :: l, rfl, E.trans (habsorb s i) hl, fun m => (if_pos hagain).trans (hm m)⟩
      · cases (if_neg hagain).symm.trans hrun
        exact ⟨[a], rfl, habsorb s a, fun m => if_neg hagain⟩
  · obtain ⟨i, hcost, hends⟩ := hlast d
    exact ⟨[i], by simpa using hcost, poll_isSome hends (by simp) s⟩

/-- One input. -/
theorem next {absorb : σ → ι → σ} (value : ι → α) (habsorb : ∀ s i, E.rel s [i] (absorb s i))
    (hslow : ∀ d, ∃ i, d ≤ E.cost i)
    (hf : ∀ s is, f s is = is.head?.map fun i => (value i, absorb s i, is.tail)) :
    Interacts E f := by
  refine ⟨fun {s is a s' rest} hrun => ?_, fun d s is => ?_⟩
  · cases is with
    | nil => rw [hf] at hrun; cases hrun
    | cons i is =>
      rw [hf] at hrun
      cases hrun
      exact ⟨[i], rfl, habsorb s i, fun m => hf s (i :: m)⟩
  · obtain ⟨i, hi⟩ := hslow d
    refine ⟨[i], by simpa using hi, ?_⟩
    rw [hf]
    cases is with
    | nil => rfl
    | cons j is => rfl

/-- A number of inputs, at once. -/
theorem nextN (n : Nat) (absorb : σ → List ι → σ) (value : List ι → α)
    (habsorb : ∀ s l, l.length = n → E.rel s l (absorb s l)) (hslow : ∀ d, ∃ i, d ≤ E.cost i)
    (hf : ∀ s is, f s is = if n ≤ is.length then
      some (value (is.take n), absorb s (is.take n), is.drop n) else none) : Interacts E f := by
  refine ⟨fun {s is a s' rest} hrun => ?_, fun d s is => ?_⟩
  · rw [hf] at hrun
    split at hrun
    case isTrue hn =>
      cases hrun
      have hlen : (is.take n).length = n := List.length_take_of_le hn
      refine ⟨is.take n, (List.take_append_drop n is).symm, habsorb s _ hlen, fun m => ?_⟩
      have hle : n ≤ (is.take n ++ m).length := by
        rw [List.length_append, hlen]
        exact Nat.le_add_right _ _
      rw [hf, if_pos hle, List.take_left' hlen, List.drop_left' hlen]
    case isFalse => cases hrun
  · obtain ⟨i, hi⟩ := hslow d
    refine ⟨List.replicate n i, fun j hj => ?_, ?_⟩
    · rw [List.eq_of_mem_replicate hj]
      exact hi
    · have hle : n ≤ (is ++ List.replicate n i).length := by
        rw [List.length_append, List.length_replicate]
        exact Nat.le_add_left _ _
      rw [hf, if_pos hle]
      rfl

/-! A loop whose body takes one input is a polling loop. -/

section

variable {absorb : σ → ι → σ} {again : σ → α → Bool}

/-- In the states that `I` describes. -/
theorem doWhile_eq_poll {I : σ → Prop} (absorb : σ → ι → σ) (value : σ → ι → α)
    (hI : ∀ s i, I s → I (absorb s i))
    (hf : ∀ s is, I s → f s is = is.head?.map fun i => (value (absorb s i) i, absorb s i, is.tail))
    {s : σ} (hs : I s) (is : List ι) : doWhile f again is.length s is =
      (Lib.poll absorb (fun s i => again s (value s i)) s is).map fun r =>
        (value r.2.1 r.1, r.2.1, r.2.2) := by
  induction is generalizing s with
  | nil => rfl
  | cons i is ih =>
    have hround : doWhile f again (i :: is).length s (i :: is) =
        if again (absorb s i) (value (absorb s i) i) then doWhile f again is.length (absorb s i) is
        else some (value (absorb s i) i, absorb s i, is) := by
      show (f s (i :: is) >>= _) = _
      rw [hf s _ hs]
      rfl
    rw [hround, ih (hI s i hs), Lib.poll]
    split
    · rfl
    · rfl

theorem pollWhile {value : ι → α} (habsorb : ∀ s i, E.rel s [i] (absorb s i))
    (hlast : ∀ d, ∃ i, d ≤ E.cost i ∧ ∀ s, again (absorb s i) (value i) = false)
    (hf : ∀ s is, f s is = is.head?.map fun i => (value i, absorb s i, is.tail)) :
    Interacts E (fun s is => doWhile f again is.length s is) := by
  have hpoll : Interacts E fun s is => Lib.poll absorb (fun s i => again s (value i)) s is :=
    poll habsorb hlast
  have heq (s : σ) (is : List ι) : Lib.doWhile f again is.length s is =
      (Lib.poll absorb (fun s i => again s (value i)) s is).map fun r => (value r.1, r.2.1, r.2.2) :=
    doWhile_eq_poll (I := fun _ => True) absorb (fun _ => value) (fun _ _ h => h) (fun s is _ => hf s is)
      trivial is
  refine ⟨fun {s is a s' rest} hrun => ?_, fun d s is => ?_⟩
  · rw [heq] at hrun
    obtain ⟨⟨i, s₁, rest₁⟩, hloop, heq⟩ := Option.map_eq_some_iff.mp hrun
    cases heq
    obtain ⟨l, his, hl, hm⟩ := hpoll.takes hloop
    refine ⟨l, his, hl, fun m => ?_⟩
    rw [heq]
    exact Option.map_eq_some_iff.mpr ⟨_, hm m, rfl⟩
  · obtain ⟨more, hcost, hsome⟩ := hpoll.answers d s is
    refine ⟨more, hcost, ?_⟩
    rw [heq, Option.isSome_map]
    exact hsome

end

/-! A loop whose rounds take inputs, with as much fuel as there are inputs. -/

section

variable {again : σ → α → Bool}

/-- A run of the loop takes inputs, and any fuel from their number on will do. -/
theorem doWhile_takes (h : Interacts E f)
    (hprogress : ∀ {s is a s' rest}, f s is = some (a, s', rest) → rest.length < is.length) {n : Nat}
    {s s' : σ} {a : α} {is rest : List ι} (hrun : doWhile f again n s is = some (a, s', rest)) :
    ∃ l, is = l ++ rest ∧ E.rel s l s' ∧
      ∀ m k, l.length ≤ k → doWhile f again k s (l ++ m) = some (a, s', m) := by
  induction n generalizing s is with
  | zero => cases hrun
  | succ n ih =>
    obtain ⟨⟨b, s₁, mid⟩, hbody, hrest⟩ := Option.bind_eq_some_iff.mp hrun
    obtain ⟨l, rfl, hl, hl'⟩ := h.takes hbody
    have hlen := hprogress hbody
    rw [List.length_append] at hlen
    by_cases hagain : again s₁ b = true
    · obtain ⟨l', rfl, hr, hr'⟩ := ih ((if_pos hagain).symm.trans hrest)
      refine ⟨l ++ l', (List.append_assoc _ _ _).symm, E.trans hl hr, fun m k hk => ?_⟩
      rw [List.length_append] at hk
      obtain ⟨k, rfl⟩ := Nat.exists_eq_add_of_le' (show 1 ≤ k by omega)
      rw [List.append_assoc]
      exact Option.bind_eq_some_iff.mpr
        ⟨_, hl' (l' ++ m), (if_pos hagain).trans (hr' m k (by omega))⟩
    · cases (if_neg hagain).symm.trans hrest
      refine ⟨l, rfl, hl, fun m k hk => ?_⟩
      obtain ⟨k, rfl⟩ := Nat.exists_eq_add_of_le' (show 1 ≤ k by omega)
      exact Option.bind_eq_some_iff.mpr ⟨_, hl' m, if_neg hagain⟩

/-- The first round. -/
theorem doWhile_round {s s' : σ} {a : α} {is rest : List ι} (hbody : f s is = some (a, s', rest))
    (hlen : rest.length < is.length) : doWhile f again is.length s is =
      if again s' a then doWhile f again (is.length - 1) s' rest else some (a, s', rest) := by
  obtain ⟨k, hk⟩ := Nat.exists_eq_add_of_le' (Nat.one_le_of_lt hlen)
  rw [hk]
  exact (congrArg (· >>= _) hbody : _)

/-- If `f` waits, it takes one of the inputs that are added. -/
theorem exists_mem_of_none {s s' : σ} {a : α} {is more l rest : List ι}
    (hnone : f s is = none) (hl : is ++ more = l ++ rest)
    (hrun : ∀ m, f s (l ++ m) = some (a, s', m)) : ∃ i ∈ l, i ∈ more := by
  rcases List.append_eq_append_iff.mp hl with ⟨as, rfl, rfl⟩ | ⟨bs, rfl, rfl⟩
  · cases as with
    | nil =>
      rw [← List.append_nil is, ← List.append_nil (is ++ []), hrun] at hnone
      cases hnone
    | cons i as => exact ⟨i, by simp, by simp⟩
  · rw [hrun] at hnone
    cases hnone

/-- A loop that an input of cost `budget s` brings to an end. -/
theorem doWhile (budget : σ → Nat) (h : Interacts E f)
    (hprogress : ∀ {s is a s' rest}, f s is = some (a, s', rest) → rest.length < is.length)
    (hstop : ∀ {s l s' i}, E.rel s l s' → i ∈ l → budget s ≤ E.cost i → ∀ a, again s' a = false) :
    Interacts E (fun s is => doWhile f again is.length s is) := by
  constructor
  · intro s is a s' rest hrun
    obtain ⟨l, his, hl, hl'⟩ := doWhile_takes h hprogress hrun
    refine ⟨l, his, hl, fun m => hl' m _ ?_⟩
    rw [List.length_append]
    exact Nat.le_add_right _ _
  · intro d s is
    induction hn : is.length using Nat.strongRecOn generalizing s is with
    | ind n ih =>
    cases hbody : f s is with
    | some r =>
      obtain ⟨a, s₁, rest⟩ := r
      have hlen := hprogress hbody
      by_cases hagain : again s₁ a = true
      · obtain ⟨more, hcost, hsome⟩ := ih rest.length (hn ▸ hlen) s₁ rest rfl
        obtain ⟨⟨b, s', rest'⟩, hloop⟩ := Option.isSome_iff_exists.mp hsome
        obtain ⟨l, hl, -, hl'⟩ := doWhile_takes h hprogress hloop
        refine ⟨more, hcost, ?_⟩
        have hround := h.append hbody more
        rw [doWhile_round hround (hprogress hround), if_pos hagain, hl, hl' rest']
        · rfl
        · have hlens := congrArg List.length hl
          simp only [List.length_append] at hlens ⊢
          omega
      · refine ⟨[], nofun, ?_⟩
        rw [List.append_nil, doWhile_round hbody hlen, if_neg hagain]
        rfl
    | none =>
      obtain ⟨more, hcost, hsome⟩ := h.answers (max d (budget s)) s is
      obtain ⟨⟨a, s', rest⟩, hrun⟩ := Option.isSome_iff_exists.mp hsome
      obtain ⟨l, hl, hrel, hl'⟩ := h.takes hrun
      obtain ⟨i, hil, him⟩ := exists_mem_of_none hbody hl hl'
      have hends := hstop hrel hil (Nat.le_trans (Nat.le_max_right _ _) (hcost i him)) a
      refine ⟨more, fun i hi => Nat.le_trans (Nat.le_max_left _ _) (hcost i hi), ?_⟩
      rw [doWhile_round hrun (hprogress hrun), if_neg (Bool.eq_false_iff.mp hends)]
      rfl

end

end Interacts

/-- From `s`, `f` can always be brought to return, and `P` holds when it does. -/
structure Ends (f : σ → List ι → Option (α × σ × List ι)) (s : σ) (P : α → σ → Prop) : Prop where
  holds : ∀ {is a s' rest}, f s is = some (a, s', rest) → P a s'
  returns : ∀ is, ∃ more, (f s (is ++ more)).isSome

namespace Ends

variable {f : σ → List ι → Option (α × σ × List ι)} {s : σ} {P Q : α → σ → Prop}

theorem mono (h : Ends f s P) (hPQ : ∀ a s', P a s' → Q a s') : Ends f s Q where
  holds hrun := hPQ _ _ (h.holds hrun)
  returns := h.returns

theorem before (k : σ → σ) (h : Ends f (k s) P) : Ends (fun s is => f (k s) is) s P :=
  ⟨h.holds, h.returns⟩

/-- What returns at once. -/
theorem done {a : α} {s' : σ} (hrun : ∀ is, f s is = some (a, s', is)) (h : P a s') : Ends f s P where
  holds {is b s'' rest} hf := by
    cases (hrun is).symm.trans hf
    exact h
  returns is := ⟨[], Option.isSome_of_eq_some (hrun (is ++ []))⟩

/-- Another value is returned. -/
theorem map (h : Ends f s P) (b : α → β) :
    Ends (fun s is => f s is >>= fun r => some (b r.1, r.2.1, r.2.2)) s
      (fun c s' => ∃ a, c = b a ∧ P a s') := by
  refine ⟨fun hrun => ?_, fun is => ?_⟩
  · obtain ⟨a, hf, rfl⟩ := run_of_map hrun
    exact ⟨a, rfl, h.holds hf⟩
  · obtain ⟨more, hsome⟩ := h.returns is
    obtain ⟨r, hf⟩ := Option.isSome_iff_exists.mp hsome
    exact ⟨more, Option.isSome_of_eq_some (Option.bind_eq_some_iff.mpr ⟨_, hf, rfl⟩)⟩

/-- Both of two results hold of some return. -/
theorem both (hP : Ends f s P) (hQ : Ends f s Q) : ∃ a s', P a s' ∧ Q a s' := by
  obtain ⟨more, hsome⟩ := hP.returns []
  obtain ⟨⟨a, s', rest⟩, hrun⟩ := Option.isSome_iff_exists.mp hsome
  exact ⟨a, s', hP.holds hrun, hQ.holds hrun⟩

end Ends

end GenLogger.Lib
