import GenLogger.Lib.Interaction

/-!
# What was said

What a program that asks for inputs returns is often settled by the inputs it takes and by a small part of
its state, such as a timer. `View` is this part and how the inputs change it. `Follows V f D` says that
`f` is the recognizer of the relation `D`, between the view, the inputs and the result: it returns `a` on
the inputs `l` exactly if `D v l a`.

A relation can be stated about the other party alone, and the rules (`bind`, `ite`, `test`, `before`,
`done`, `doWhile`) carry it over to the program. `congr` exchanges the relation that the rules make for
one that reads better.
-/

namespace GenLogger.Lib

variable {σ ι α β γ : Type} {E : Effect σ ι}

/-- A part of the state that changes with the inputs alone. -/
structure View (E : Effect σ ι) (γ : Type) where
  see : σ → γ
  pass : γ → List ι → γ
  see_of_rel : ∀ {s l s'}, E.rel s l s' → see s' = pass (see s) l

/-- `f` returns `a` after the inputs `l` exactly if `D v l a`, `v` being the view of the state. -/
structure Follows (V : View E γ) (f : σ → List ι → Option (α × σ × List ι))
    (D : γ → List ι → α → Prop) : Prop where
  cases : ∀ {s is a s' rest}, f s is = some (a, s', rest) → ∃ l, is = l ++ rest ∧ D (V.see s) l a
  runs : ∀ {s l a}, D (V.see s) l a → ∀ rest, ∃ s', f s (l ++ rest) = some (a, s', rest)

/-- The rounds of a loop, `again` being asked after each. -/
inductive Rounds (V : View E γ) (D : γ → List ι → α → Prop) (again : γ → α → Bool) :
    γ → List ι → α → Prop
  | last {v : γ} {l : List ι} {a : α} (h : D v l a) (hends : again (V.pass v l) a = false) :
      Rounds V D again v l a
  | more {v : γ} {l m : List ι} {a b : α} (h : D v l a) (hagain : again (V.pass v l) a = true)
      (hrounds : Rounds V D again (V.pass v l) m b) : Rounds V D again v (l ++ m) b

namespace Follows

variable {V : View E γ} {f g : σ → List ι → Option (α × σ × List ι)} {D D' : γ → List ι → α → Prop}

theorem congr (h : Follows V f D) (hiff : ∀ v l a, D v l a ↔ D' v l a) : Follows V f D' := by
  refine ⟨fun hrun => ?_, fun hD rest => h.runs ((hiff _ _ _).mpr hD) rest⟩
  obtain ⟨l, his, hD⟩ := h.cases hrun
  exact ⟨l, his, (hiff _ _ _).mp hD⟩

theorem done {a : α} {k : σ → σ} :
    Follows V (fun s is => some (a, k s, is)) (fun _ l b => l = [] ∧ b = a) := by
  refine ⟨fun hrun => ?_, ?_⟩
  · cases hrun
    exact ⟨[], rfl, rfl, rfl⟩
  · rintro s l b ⟨rfl, rfl⟩ rest
    exact ⟨k s, rfl⟩

theorem before {k : σ → σ} {w : γ → γ} (h : Follows V f D) (hk : ∀ s, V.see (k s) = w (V.see s)) :
    Follows V (fun s is => f (k s) is) (fun v => D (w v)) := by
  refine ⟨fun hrun => ?_, fun hD rest => ?_⟩
  · obtain ⟨l, his, hD⟩ := h.cases hrun
    exact ⟨l, his, hk _ ▸ hD⟩
  · exact h.runs ((hk _).symm ▸ hD) rest

theorem test {c : σ → Prop} [∀ s, Decidable (c s)] (c' : γ → Prop) (hc : ∀ s, c s ↔ c' (V.see s))
    (hf : Follows V f D) (hg : Follows V g D') :
    Follows V (fun s is => if c s then f s is else g s is)
      (fun v l a => c' v ∧ D v l a ∨ ¬ c' v ∧ D' v l a) := by
  refine ⟨fun {s is a s' rest} hrun => ?_, fun {s l a} hD rest => ?_⟩
  · by_cases h : c s
    · obtain ⟨l, his, hD⟩ := hf.cases ((if_pos h).symm.trans hrun)
      exact ⟨l, his, Or.inl ⟨(hc s).mp h, hD⟩⟩
    · obtain ⟨l, his, hD⟩ := hg.cases ((if_neg h).symm.trans hrun)
      exact ⟨l, his, Or.inr ⟨mt (hc s).mpr h, hD⟩⟩
  · rcases hD with ⟨h, hD⟩ | ⟨h, hD⟩
    · obtain ⟨s', hrun⟩ := hf.runs hD rest
      exact ⟨s', (if_pos ((hc s).mpr h)).trans hrun⟩
    · obtain ⟨s', hrun⟩ := hg.runs hD rest
      exact ⟨s', (if_neg (mt (hc s).mp h)).trans hrun⟩

theorem ite {c : Prop} [Decidable c] (hf : Follows V f D) (hg : Follows V g D') :
    Follows V (fun s is => if c then f s is else g s is)
      (fun v l a => c ∧ D v l a ∨ ¬ c ∧ D' v l a) :=
  test (fun _ => c) (fun _ => Iff.rfl) hf hg

theorem bind {k : α × σ × List ι → Option (β × σ × List ι)} {F : α → γ → List ι → β → Prop}
    (hf : Follows V f D) (hE : Interacts E f) (hk : ∀ a, Follows V (fun s is => k (a, s, is)) (F a)) :
    Follows V (fun s is => f s is >>= k)
      (fun v n b => ∃ l a m, n = l ++ m ∧ D v l a ∧ F a (V.pass v l) m b) := by
  refine ⟨fun {s is b s'' rest} hrun => ?_, ?_⟩
  · obtain ⟨⟨a, s', mid⟩, h₁, h₂⟩ := Option.bind_eq_some_iff.mp hrun
    obtain ⟨l, rfl, hD⟩ := hf.cases h₁
    obtain ⟨m, rfl, hF⟩ := (hk a).cases h₂
    rw [V.see_of_rel (hE.rel_of_run h₁)] at hF
    exact ⟨l ++ m, (List.append_assoc _ _ _).symm, l, a, m, rfl, hD, hF⟩
  · rintro s n b ⟨l, a, m, rfl, hD, hF⟩ rest
    obtain ⟨s', h₁⟩ := hf.runs hD (m ++ rest)
    rw [← V.see_of_rel (hE.rel_of_run h₁)] at hF
    obtain ⟨s'', h₂⟩ := (hk a).runs hF rest
    rw [List.append_assoc]
    exact ⟨s'', Option.bind_eq_some_iff.mpr ⟨_, h₁, h₂⟩⟩

section

variable {again : σ → α → Bool} {again' : γ → α → Bool}

theorem doWhile_cases (hf : Follows V f D) (hE : Interacts E f)
    (hagain : ∀ s a, again s a = again' (V.see s) a) {n : Nat} {s s' : σ} {a : α} {is rest : List ι}
    (hrun : doWhile f again n s is = some (a, s', rest)) :
    ∃ l, is = l ++ rest ∧ Rounds V D again' (V.see s) l a := by
  induction n generalizing s is with
  | zero => cases hrun
  | succ n ih =>
    obtain ⟨⟨b, s₁, mid⟩, hbody, hrest⟩ := Option.bind_eq_some_iff.mp hrun
    obtain ⟨l, rfl, hD⟩ := hf.cases hbody
    have hsee := V.see_of_rel (hE.rel_of_run hbody)
    have hnext := hagain s₁ b
    rw [hsee] at hnext
    by_cases hb : again s₁ b = true
    · obtain ⟨m, rfl, hrounds⟩ := ih ((if_pos hb).symm.trans hrest)
      rw [hsee] at hrounds
      exact ⟨l ++ m, (List.append_assoc _ _ _).symm, .more hD (hnext.symm.trans hb) hrounds⟩
    · cases (if_neg hb).symm.trans hrest
      exact ⟨l, rfl, .last hD (hnext.symm.trans (Bool.eq_false_iff.mpr hb))⟩

theorem doWhile_runs (hf : Follows V f D) (hE : Interacts E f)
    (hprogress : ∀ {s is a s' rest}, f s is = some (a, s', rest) → rest.length < is.length)
    (hagain : ∀ s a, again s a = again' (V.see s) a) {v : γ} {l : List ι} {a : α}
    (hrounds : Rounds V D again' v l a) {s : σ} (hv : V.see s = v) (n : Nat) (hn : l.length ≤ n)
    (rest : List ι) : ∃ s', doWhile f again n s (l ++ rest) = some (a, s', rest) := by
  induction hrounds generalizing s n with
  | @last v l a hD hends =>
    subst hv
    obtain ⟨s', hbody⟩ := hf.runs hD rest
    rw [← V.see_of_rel (hE.rel_of_run hbody), ← hagain] at hends
    have hlen := hprogress hbody
    rw [List.length_append] at hlen
    obtain ⟨n, rfl⟩ := Nat.exists_eq_add_of_le' (show 1 ≤ n by omega)
    exact ⟨s', Option.bind_eq_some_iff.mpr ⟨_, hbody, if_neg (Bool.eq_false_iff.mp hends)⟩⟩
  | @more v l m a b hD hb hrounds ih =>
    subst hv
    obtain ⟨s₁, hbody⟩ := hf.runs hD (m ++ rest)
    have hsee := V.see_of_rel (hE.rel_of_run hbody)
    rw [← hsee, ← hagain] at hb
    have hlen := hprogress hbody
    simp only [List.length_append] at hlen hn
    obtain ⟨n, rfl⟩ := Nat.exists_eq_add_of_le' (show 1 ≤ n by omega)
    obtain ⟨s', hloop⟩ := ih hsee n (by omega)
    rw [List.append_assoc]
    exact ⟨s', Option.bind_eq_some_iff.mpr ⟨_, hbody, (if_pos hb).trans hloop⟩⟩

theorem doWhile (hf : Follows V f D) (hE : Interacts E f)
    (hprogress : ∀ {s is a s' rest}, f s is = some (a, s', rest) → rest.length < is.length)
    (hagain : ∀ s a, again s a = again' (V.see s) a) :
    Follows V (fun s is => doWhile f again is.length s is) (Rounds V D again') := by
  refine ⟨doWhile_cases hf hE hagain, fun hrounds rest => ?_⟩
  refine doWhile_runs hf hE hprogress hagain hrounds rfl _ ?_ rest
  rw [List.length_append]
  exact Nat.le_add_right _ _

end

end Follows

end GenLogger.Lib
