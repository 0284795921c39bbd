import GenLogger.Lib.CString
import Mathlib.Tactic.SplitIfs

/-!
# `strtok` with one delimiter

`strtok` scans from its saved position: it skips delimiters, and where the next byte is no NUL it
takes the token up to the next delimiter or NUL, overwriting a delimiter with a NUL. Here the
array is seen from the saved position on. A `Token` carries the token, the bytes passed over as
the call leaves them, and what stands from the new saved position on. A scan that meets the end of
the array reads outside it.

`tokens` is the loop over `strtok(nullptr, …)`. Its specification is `fields`: the non-empty
pieces between delimiters.

* `tokens_text`: on an array that holds the text `t` and a NUL, the loop yields `fields d t`,
  stays inside the array and keeps its length.
* `tokens_fault`: on an array without a NUL it always leaves the array.
-/

namespace GenLogger.Lib

/-- A token, the bytes passed over as `strtok` leaves them, and the bytes from the saved pointer
on. -/
structure Token where
  text : List Byte
  left : List Byte
  rest : List Byte

/-- Neither the delimiter nor the terminator. -/
def inToken (d b : Byte) : Bool := b != d && b != 0

/-- One call of `strtok`; `none` is the null pointer. -/
def strtok (d : Byte) (s : List Byte) : Except Fault (Option Token) :=
  match s.dropWhile (· == d) with
  | [] => .error .outOfBounds
  | b :: t =>
    if b = 0 then .ok none
    else
      let skipped := s.takeWhile (· == d)
      let tok := (b :: t).takeWhile (inToken d)
      match (b :: t).dropWhile (inToken d) with
      | [] => .error .outOfBounds
      | c :: r =>
        if c = 0 then .ok (some ⟨tok, skipped ++ tok, c :: r⟩)
        else .ok (some ⟨tok, skipped ++ tok ++ [0], r⟩)

/-- The loop over `strtok`: the tokens, and the array as the calls leave it. The first argument
bounds the number of calls. -/
def tokens (d : Byte) : Nat → List Byte → Except Fault (List (List Byte) × List Byte)
  | 0, s => .ok ([], s)
  | k + 1, s => do
    match ← strtok d s with
    | none => .ok ([], s)
    | some t =>
      let (ts, out) ← tokens d k t.rest
      .ok (t.text :: ts, t.left ++ out)

/-- The non-empty pieces of `t` between delimiters. -/
def fields (d : Byte) (t : List Byte) : List (List Byte) := (t.splitOn d).filter (· ≠ [])

/-! ## The pieces -/

variable {d : Byte}

@[simp] theorem fields_nil : fields d [] = [] := by simp [fields]

theorem fields_delim (t : List Byte) : fields d (d :: t) = fields d t := by
  unfold fields
  have := List.splitOn_append_cons_self (a := d) [] t
  rw [List.nil_append] at this
  rw [this]
  simp

theorem fields_delims {s : List Byte} (hs : ∀ b ∈ s, b = d) (t : List Byte) :
    fields d (s ++ t) = fields d t := by
  induction s with
  | nil => rfl
  | cons b s ih =>
    rw [hs b List.mem_cons_self, List.cons_append, fields_delim,
      ih fun c hc => hs c (List.mem_cons_of_mem _ hc)]

/-- A text without delimiters is one piece. -/
theorem fields_single {t : List Byte} (hne : t ≠ []) (h : d ∉ t) : fields d t = [t] := by
  unfold fields
  rw [List.splitOn_eq_singleton h]
  simp [hne]

/-- A piece that ends at a delimiter. -/
theorem fields_cons {p : List Byte} (hne : p ≠ []) (h : d ∉ p) (t : List Byte) :
    fields d (p ++ d :: t) = p :: fields d t := by
  unfold fields
  rw [List.splitOn_append_cons_self_of_not_mem h]
  simp [hne]

theorem fields_append_delim (s t : List Byte) :
    fields d (s ++ d :: t) = fields d s ++ fields d t := by
  unfold fields
  rw [List.splitOn_append_cons_self, List.filter_append]

/-- No piece contains the delimiter. -/
theorem notMem_of_mem_fields {t p : List Byte} (h : p ∈ fields d t) : d ∉ p := by
  have hp : p ∈ t.splitOn d := (List.mem_filter.mp h).1
  clear h
  induction t generalizing p with
  | nil =>
    rw [List.splitOn_nil, List.mem_singleton] at hp
    rw [hp]; exact List.not_mem_nil
  | cons b t ih =>
    rw [List.splitOn_cons_eq_if_modifyHead] at hp
    split_ifs at hp with hb
    · rcases List.mem_cons.mp hp with rfl | hp
      · exact List.not_mem_nil
      · exact ih hp
    · obtain ⟨q, qs, hq⟩ := List.exists_cons_of_ne_nil (List.splitOn_ne_nil d t)
      rw [hq, List.modifyHead_cons] at hp
      rcases List.mem_cons.mp hp with rfl | hp
      · intro hm
        rcases List.mem_cons.mp hm with rfl | hm
        · exact hb (by simp)
        · exact ih (p := q) (by rw [hq]; exact List.mem_cons_self) hm
      · exact ih (by rw [hq]; exact List.mem_cons_of_mem _ hp)

/-- A piece is part of the text. -/
theorem mem_of_mem_fields {t p : List Byte} (h : p ∈ fields d t) {b : Byte} (hb : b ∈ p) :
    b ∈ t := by
  have hp : p ∈ t.splitOn d := (List.mem_filter.mp h).1
  have := List.mem_flatten_of_mem hp hb
  clear h hp
  induction t with
  | nil => simp at this
  | cons c t ih =>
    rw [List.splitOn_cons_eq_if_modifyHead] at this
    split_ifs at this with hc
    · exact List.mem_cons_of_mem _ (ih (by simpa using this))
    · obtain ⟨q, qs, hq⟩ := List.exists_cons_of_ne_nil (List.splitOn_ne_nil d t)
      rw [hq] at this ih
      simp only [List.modifyHead_cons, List.flatten_cons, List.cons_append, List.mem_cons] at this ⊢
      rcases this with rfl | h
      · exact Or.inl rfl
      · exact Or.inr (ih (by simpa using h))

/-! ## The loop -/

/-- Where `strtok` finds a token: delimiters, the token, and the delimiter or NUL that ends it. -/
theorem strtok_some {s p r : List Byte} {c : Byte} (hs : ∀ b ∈ s, b = d)
    (hne : p ≠ []) (hp : ∀ b ∈ p, inToken d b = true) (hc : inToken d c = false) :
    strtok d (s ++ (p ++ c :: r)) =
      .ok (some (if c = 0 then ⟨p, s ++ p, c :: r⟩ else ⟨p, s ++ p ++ [0], r⟩)) := by
  obtain ⟨b, t, rfl⟩ := List.exists_cons_of_ne_nil hne
  have hb := hp b List.mem_cons_self
  simp only [inToken, Bool.and_eq_true, bne_iff_ne, ne_eq] at hb
  have hskip : (s ++ ((b :: t) ++ c :: r)).dropWhile (· == d) = (b :: t) ++ c :: r := by
    rw [List.dropWhile_append_of_pos fun x hx => by simp [hs x hx], List.cons_append,
      List.dropWhile_cons_of_neg (by simpa using hb.1)]
  have htake : (s ++ ((b :: t) ++ c :: r)).takeWhile (· == d) = s := by
    rw [List.takeWhile_append_of_pos fun x hx => by simp [hs x hx], List.cons_append,
      List.takeWhile_cons_of_neg (by simpa using hb.1), List.append_nil]
  have hdrop : ((b :: t) ++ c :: r).dropWhile (inToken d) = c :: r := by
    rw [List.dropWhile_append_of_pos hp, List.dropWhile_cons_of_neg (by simpa using hc)]
  have htok : ((b :: t) ++ c :: r).takeWhile (inToken d) = b :: t := by
    rw [List.takeWhile_append_of_pos hp, List.takeWhile_cons_of_neg (by simpa using hc),
      List.append_nil]
  unfold strtok
  rw [hskip, htake]
  simp only [List.cons_append] at hdrop htok ⊢
  rw [if_neg hb.2, hdrop, htok]
  simp only
  split_ifs <;> rfl

/-- Where `strtok` finds none: delimiters up to the NUL. -/
theorem strtok_none {s r : List Byte} (hs : ∀ b ∈ s, b = d) (hd : d ≠ 0) :
    strtok d (s ++ 0 :: r) = .ok none := by
  unfold strtok
  rw [List.dropWhile_append_of_pos fun x hx => by simp [hs x hx],
    List.dropWhile_cons_of_neg (by simpa using Ne.symm hd)]
  simp

/-- A token has no NUL in it and a NUL behind it, and stands where the delimiters end. The call keeps
the length of the array. -/
theorem strtok_cut {s : List Byte} {t : Token} (h : strtok d s = .ok (some t)) :
    (0 : Byte) ∉ t.text ∧ (t.left ++ t.rest).length = s.length ∧
      ∃ r, t.left ++ t.rest = s.takeWhile (· == d) ++ (t.text ++ 0 :: r) := by
  have hnul : ∀ l : List Byte, (0 : Byte) ∉ l.takeWhile (inToken d) := by
    intro l hmem
    have := List.mem_takeWhile_imp hmem
    simp [inToken] at this
  have hsplit := List.takeWhile_append_dropWhile (p := (· == d)) (l := s)
  unfold strtok at h
  cases hskip : s.dropWhile (· == d) with
  | nil => rw [hskip] at h; cases h
  | cons b u =>
    have hsplit' := List.takeWhile_append_dropWhile (p := inToken d) (l := b :: u)
    rw [hskip] at h hsplit
    simp only at h
    split at h
    · cases h
    · split at h
      · cases h
      · rename_i c r hend
        rw [hend] at hsplit'
        have hlen := congrArg List.length hsplit
        have hlen' := congrArg List.length hsplit'
        simp only [List.length_append, List.length_cons] at hlen hlen'
        split at h
        · rename_i hc
          cases h
          refine ⟨hnul _, ?_, r, by rw [hc, List.append_assoc]⟩
          simp only [List.length_append, List.length_cons]
          omega
        · cases h
          refine ⟨hnul _, ?_, r, by simp only [List.append_assoc, List.singleton_append]⟩
          simp only [List.length_append, List.length_cons, List.length_nil]
          omega

/-- A text is delimiters only, or delimiters, a piece and either nothing more or a delimiter. -/
theorem text_cases (d : Byte) {t : List Byte} (ht : (0 : Byte) ∉ t) :
    ∃ s p, (∀ b ∈ s, b = d) ∧ (∀ b ∈ p, inToken d b = true) ∧
      ((t = s ∧ p = []) ∨ (p ≠ [] ∧ t = s ++ p) ∨ (p ≠ [] ∧ ∃ t', t = s ++ (p ++ d :: t'))) := by
  have hs : ∀ b ∈ t.takeWhile (· == d), b = d := fun b hb => by
    simpa using List.mem_takeWhile_imp hb
  have hsplit : t = t.takeWhile (· == d) ++ t.dropWhile (· == d) :=
    List.takeWhile_append_dropWhile.symm
  cases hrest : t.dropWhile (· == d) with
  | nil =>
    rw [hrest, List.append_nil] at hsplit
    exact ⟨_, [], hs, by simp, Or.inl ⟨hsplit, rfl⟩⟩
  | cons b u =>
    have hbd : inToken d b = true := by
      have h0 : b ≠ 0 := by
        rintro rfl
        exact ht (by rw [hsplit, hrest]; simp)
      have hd' : (b == d) = false := by
        have := List.head?_dropWhile_not (· == d) t
        rw [hrest] at this
        simpa using this
      simp only [inToken, Bool.and_eq_true, bne_iff_ne, ne_eq]
      exact ⟨by simpa using hd', h0⟩
    have hp : ∀ x ∈ (b :: u).takeWhile (inToken d), inToken d x = true :=
      fun x hx => List.mem_takeWhile_imp hx
    have hne : (b :: u).takeWhile (inToken d) ≠ [] := by
      rw [List.takeWhile_cons_of_pos hbd]; exact List.cons_ne_nil _ _
    have hsplit' : b :: u = (b :: u).takeWhile (inToken d) ++ (b :: u).dropWhile (inToken d) :=
      List.takeWhile_append_dropWhile.symm
    rw [hrest] at hsplit
    cases hend : (b :: u).dropWhile (inToken d) with
    | nil =>
      rw [hend, List.append_nil] at hsplit'
      have hall : t = t.takeWhile (· == d) ++ (b :: u).takeWhile (inToken d) :=
        hsplit.trans (congrArg (_ ++ ·) hsplit')
      exact ⟨_, _, hs, hp, Or.inr (Or.inl ⟨hne, hall⟩)⟩
    | cons c w =>
      have hc : c = d := by
        have h0 : c ≠ 0 := by
          rintro rfl
          exact ht (by rw [hsplit, hsplit', hend]; simp)
        have := List.head?_dropWhile_not (inToken d) (b :: u)
        rw [hend] at this
        simp only [List.head?_cons, inToken] at this
        by_contra hcd
        simp [hcd, h0] at this
      rw [hend, hc] at hsplit'
      have hall : t = t.takeWhile (· == d) ++ ((b :: u).takeWhile (inToken d) ++ d :: w) :=
        hsplit.trans (congrArg (_ ++ ·) hsplit')
      exact ⟨_, _, hs, hp, Or.inr (Or.inr ⟨hne, w, hall⟩)⟩

theorem inToken_delim (d : Byte) : inToken d d = false := by simp [inToken]

theorem inToken_nul (d : Byte) : inToken d 0 = false := by simp [inToken]

theorem delim_notMem {p : List Byte} (hp : ∀ b ∈ p, inToken d b = true) : d ∉ p := fun h => by
  have := hp d h
  rw [inToken_delim] at this
  exact absurd this (by simp)

/-- **The loop yields the pieces of the text**, stays inside the array and keeps its length. -/
theorem tokens_text (hd : d ≠ 0) (r : List Byte) : ∀ (k : Nat) (t : List Byte),
    (0 : Byte) ∉ t → t.length < k → ∃ out, tokens d k (t ++ 0 :: r) = .ok (fields d t, out) ∧
      out.length = (t ++ 0 :: r).length := by
  intro k
  induction k with
  | zero => intro t _ hk; omega
  | succ k ih =>
    intro t ht hk
    obtain ⟨s, p, hs, hp, hcase⟩ := text_cases d ht
    rcases hcase with ⟨rfl, -⟩ | ⟨hne, rfl⟩ | ⟨hne, t', rfl⟩
    · -- delimiters only: the null pointer
      refine ⟨t ++ 0 :: r, ?_, rfl⟩
      have hf : fields d t = [] := by rw [← List.append_nil t, fields_delims hs, fields_nil]
      rw [hf, tokens, strtok_none hs hd]
      rfl
    · -- the last piece, ended by the NUL
      refine ⟨s ++ p ++ 0 :: r, ?_, rfl⟩
      rw [fields_delims hs, fields_single hne (delim_notMem hp),
        List.append_assoc, tokens, strtok_some hs hne hp (inToken_nul d)]
      have hk' : 0 < k := by
        cases p with
        | nil => exact absurd rfl hne
        | cons => simp at hk; omega
      obtain ⟨j, rfl⟩ := Nat.exists_eq_succ_of_ne_zero (Nat.pos_iff_ne_zero.mp hk')
      have hnone := strtok_none (d := d) (s := []) (r := r) (by simp) hd
      simp only [if_true]
      show (do
        let (ts, out) ← tokens d (j + 1) (0 :: r)
        Except.ok (p :: ts, (s ++ p) ++ out)) = _
      rw [List.nil_append] at hnone
      rw [tokens, hnone]
      show Except.ok ([p], (s ++ p) ++ 0 :: r) = _
      rw [List.append_assoc]
    · -- a piece ended by a delimiter, which becomes a NUL
      have ht' : (0 : Byte) ∉ t' := fun h => ht (by simp [h])
      obtain ⟨out, hout, hlen⟩ := ih t' ht' (by simp at hk; omega)
      refine ⟨s ++ p ++ [0] ++ out, ?_, by simp [hlen]⟩
      rw [fields_delims hs, fields_cons hne (delim_notMem hp)]
      simp only [List.append_assoc, List.cons_append]
      rw [tokens, strtok_some hs hne hp (inToken_delim d), if_neg hd]
      show (do
        let (ts, out) ← tokens d k (t' ++ 0 :: r)
        Except.ok (p :: ts, (s ++ p ++ [0]) ++ out)) = _
      rw [hout]
      simp only [List.append_assoc]
      rfl

/-- **Without a NUL the loop leaves the array.** -/
theorem tokens_fault : ∀ (k : Nat) (s : List Byte), (0 : Byte) ∉ s → s.length < k →
    tokens d k s = .error .outOfBounds := by
  intro k
  induction k with
  | zero => intro s _ hk; omega
  | succ k ih =>
    intro s hs hk
    rw [tokens]
    have hmem : ∀ b ∈ s.dropWhile (· == d), b ≠ 0 := by
      rintro b hb rfl
      exact hs (List.dropWhile_subset _ hb)
    unfold strtok
    cases hrest : s.dropWhile (· == d) with
    | nil => rfl
    | cons b t =>
      rw [hrest] at hmem
      simp only [if_neg (hmem b List.mem_cons_self)]
      cases hend : (b :: t).dropWhile (inToken d) with
      | nil => rfl
      | cons c r =>
        have hc : c ≠ 0 := hmem c (List.dropWhile_subset _ (by rw [hend]; exact List.mem_cons_self))
        have hr : (0 : Byte) ∉ r := fun h =>
          hmem 0 (List.dropWhile_subset _ (by rw [hend]; exact List.mem_cons_of_mem _ h)) rfl
        have hlen : r.length < k := by
          have h1 := List.length_dropWhile_le (inToken d) (b :: t)
          have h2 := List.length_dropWhile_le (· == d) s
          rw [hend] at h1
          rw [hrest] at h2
          simp only [List.length_cons] at h1 h2
          omega
        simp only [if_neg hc]
        show (do
          let (ts, out) ← tokens d k r
          Except.ok _) = _
        rw [ih r hr hlen]
        rfl

end GenLogger.Lib
