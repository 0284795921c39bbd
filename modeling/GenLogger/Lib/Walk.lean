import GenLogger.Lib.Decimal
import GenLogger.Lib.Strtok

/-!
# C string functions by position

`strtok` and `strtoul` are modelled on the list of bytes behind a pointer. Here they walk over the arrays
themselves, one byte at a time, and a `Walk` carries the positions they examine or overwrite beside what
they return. A walk that leaves an array ends there, and the position outside is the last one it carries.

* `Guarded`: a walk returns exactly where every position it carries lies in its array. `peek`, `poke` and
  `scan` are guarded, and so is what is built from guarded walks (`Guarded.bind`).
* `Only`: a walk keeps to one array, as `strtok` does (`strtokAt_only`).
* The walks return what the functions on lists do: `strtokAt_result`, `strlenAt_result`,
  `strtoulAt_result`, `memcpyAt_result`.
-/

namespace GenLogger.Lib

variable {α β γ : Type}

/-- What is returned, and the positions of the arrays `α` that were examined or overwritten for it. -/
structure Walk (α β : Type) where
  result : Except Fault β
  touched : List (α × Nat)

namespace Walk

/-- Nothing is touched after a fault. -/
instance : Monad (Walk α) where
  pure b := ⟨.ok b, []⟩
  bind w f := match w.result with
    | .ok b => ⟨(f b).result, w.touched ++ (f b).touched⟩
    | .error e => ⟨.error e, w.touched⟩

theorem bind_of_ok {w : Walk α β} {b : β} (h : w.result = .ok b) (f : β → Walk α γ) :
    w >>= f = ⟨(f b).result, w.touched ++ (f b).touched⟩ := by
  show (match w.result with | .ok b => _ | .error e => _) = _
  rw [h]

theorem bind_of_error {w : Walk α β} {e : Fault} (h : w.result = .error e) (f : β → Walk α γ) :
    w >>= f = ⟨.error e, w.touched⟩ := by
  show (match w.result with | .ok b => _ | .error e => _) = _
  rw [h]

/-- What a sequence returns does not depend on what it touches. -/
theorem bind_result (w : Walk α β) (f : β → Walk α γ) :
    (w >>= f).result = w.result >>= fun b => (f b).result := by
  cases h : w.result with
  | ok b => rw [bind_of_ok h]; rfl
  | error e => rw [bind_of_error h]; rfl

theorem bind_result_of_ok {w : Walk α β} {b : β} (h : w.result = .ok b) (f : β → Walk α γ) :
    (w >>= f).result = (f b).result := by
  rw [bind_of_ok h]

theorem bind_result_of_error {w : Walk α β} {e : Fault} (h : w.result = .error e)
    (f : β → Walk α γ) : (w >>= f).result = .error e := by
  rw [bind_of_error h]

/-- What a sequence touches is touched by its first part, or by the second from where the first
ends. -/
theorem mem_bind_touched {w : Walk α β} {f : β → Walk α γ} {x : α × Nat}
    (hx : x ∈ (w >>= f).touched) :
    x ∈ w.touched ∨ ∃ b, w.result = .ok b ∧ x ∈ (f b).touched := by
  cases h : w.result with
  | ok b =>
    rw [bind_of_ok h] at hx
    exact (List.mem_append.mp hx).imp_right fun hx => ⟨b, rfl, hx⟩
  | error e =>
    rw [bind_of_error h] at hx
    exact Or.inl hx

/-- The walk touches the array `a` and no other. -/
def Only (a : α) (w : Walk α β) : Prop := ∀ x ∈ w.touched, x.1 = a

theorem only_pure (a : α) (b : β) : Only a (pure b : Walk α β) := nofun

theorem Only.bind {a : α} {w : Walk α β} {f : β → Walk α γ} (hw : Only a w) (hf : ∀ b, Only a (f b)) :
    Only a (w >>= f) := by
  intro x hx
  rcases mem_bind_touched hx with hx | ⟨b, -, hx⟩
  · exact hw x hx
  · exact hf b x hx

theorem Only.ite {a : α} {c : Prop} [Decidable c] {w w' : Walk α β} (hw : Only a w)
    (hw' : Only a w') : Only a (if c then w else w') := by
  split
  · exact hw
  · exact hw'

/-! ## Guarded walks -/

/-- The walk returns exactly where every position it touches is in its array. -/
def Guarded (size : α → Nat) (w : Walk α β) : Prop :=
  (∃ b, w.result = .ok b) ↔ ∀ x ∈ w.touched, x.2 < size x.1

variable {size : α → Nat}

theorem guarded_pure (b : β) : Guarded size (pure b : Walk α β) := iff_of_true ⟨b, rfl⟩ nofun

theorem Guarded.bind {w : Walk α β} {f : β → Walk α γ} (hw : Guarded size w)
    (hf : ∀ b, Guarded size (f b)) : Guarded size (w >>= f) := by
  unfold Guarded
  cases h : w.result with
  | ok b =>
    have hinside := hw.mp ⟨b, h⟩
    rw [bind_of_ok h]
    refine (hf b).trans ⟨fun hrest x hx => ?_, fun hall x hx => hall x (List.mem_append_right _ hx)⟩
    exact (List.mem_append.mp hx).elim (hinside x) (hrest x)
  | error e =>
    rw [bind_of_error h]
    refine iff_of_false nofun fun hall => ?_
    obtain ⟨b, hb⟩ := hw.mpr hall
    cases h.symm.trans hb

theorem Guarded.ite {c : Prop} [Decidable c] {w w' : Walk α β} (hw : Guarded size w)
    (hw' : Guarded size w') : Guarded size (if c then w else w') := by
  split
  · exact hw
  · exact hw'

/-- One access, that returns exactly where it is inside. -/
theorem guarded_access {w : Walk α β} {a : α} {p : Nat} (htouched : w.touched = [(a, p)])
    (h : (∃ b, w.result = .ok b) ↔ p < size a) : Guarded size w := by
  unfold Guarded
  rw [htouched, h]
  constructor
  · intro hp x hx
    rw [List.mem_singleton.mp hx]
    exact hp
  · intro hall
    exact hall (a, p) List.mem_cons_self

end Walk

/-! ## The functions -/

section

variable {n : Nat}

/-- `b[p]`, where it is examined. -/
def peek (a : α) (b : CBuf n) (p : Nat) : Walk α Byte :=
  ⟨match b.bytes[p]? with
    | some v => .ok v
    | none => .error .outOfBounds, [(a, p)]⟩

/-- `b[p] = v`. -/
def poke (a : α) (b : CBuf n) (p : Nat) (v : Byte) : Walk α (CBuf n) := ⟨b.store p v, [(a, p)]⟩

/-- `while (test(b[p])) p++;`, with the bytes from `p` on. -/
def scanFrom (a : α) (test : Byte → Bool) : List Byte → Nat → Walk α Nat
  | [], p => ⟨.error .outOfBounds, [(a, p)]⟩
  | v :: rest, p =>
    if test v then
      ⟨(scanFrom a test rest (p + 1)).result, (a, p) :: (scanFrom a test rest (p + 1)).touched⟩
    else ⟨.ok p, [(a, p)]⟩

/-- `while (test(b[p])) p++;`. -/
def scan (a : α) (b : CBuf n) (test : Byte → Bool) (p : Nat) : Walk α Nat :=
  scanFrom a test (b.bytes.drop p) p

/-- A token that `strtok` has cut: where it begins, the pointer that is saved, and the array. -/
structure Cut (n : Nat) where
  token : Nat
  saved : Nat
  buffer : CBuf n

/-- `strtok`, from the saved pointer `p`; `none` is the null pointer. -/
def strtokAt (a : α) (d : Byte) (b : CBuf n) (p : Nat) : Walk α (Option (Cut n)) := do
  let token ← scan a b (· == d) p
  let first ← peek a b token
  if first = 0 then pure none
  else do
    let stop ← scan a b (inToken d) token
    let last ← peek a b stop
    if last = 0 then pure (some ⟨token, stop, b⟩)
    else do
      let b ← poke a b stop 0
      pure (some ⟨token, stop + 1, b⟩)

/-- `strlen(b + p)`. -/
def strlenAt (a : α) (b : CBuf n) (p : Nat) : Walk α Nat := do
  let stop ← scan a b (· != 0) p
  pure (stop - p)

/-- `strtoul(b + p, nullptr, 10)` with `ULONG_MAX = max`. -/
def strtoulAt (a : α) (max : Nat) (b : CBuf n) (p : Nat) : Walk α Nat := do
  let p ← scan a b isSpace p
  let sign ← peek a b p
  let digits := if sign = 45 ∨ sign = 43 then p + 1 else p
  let stop ← scan a b isDigit digits
  let v := digitsVal ((b.bytes.drop digits).take (stop - digits))
  pure (if max < v then max else if sign = 45 then (max + 1 - v) % (max + 1) else v)

/-- `memcpy(dest, b + p, k)`, `k` bytes of it after the first `i`. -/
def memcpyAt {m : Nat} (dst src : α) (b : CBuf n) (p : Nat) : Nat → Nat → CBuf m → Walk α (CBuf m)
  | 0, _, dest => pure dest
  | k + 1, i, dest => do
    let v ← peek src b (p + i)
    let dest ← poke dst dest i v
    memcpyAt dst src b p k (i + 1) dest

/-! ## They are guarded -/

variable {size : α → Nat} {a : α}

theorem peek_guarded (ha : size a = n) (b : CBuf n) (p : Nat) : (peek a b p).Guarded size := by
  have hsize : p < size a ↔ p < b.bytes.length := by rw [ha, b.size]
  refine Walk.guarded_access rfl (Iff.trans ?_ hsize.symm)
  unfold peek
  cases h : b.bytes[p]? with
  | none => exact iff_of_false nofun (Nat.not_lt.mpr (List.getElem?_eq_none_iff.mp h))
  | some v => exact iff_of_true ⟨v, rfl⟩ (List.getElem?_eq_some_iff.mp h).1

theorem poke_guarded (ha : size a = n) (b : CBuf n) (p : Nat) (v : Byte) :
    (poke a b p v).Guarded size := by
  refine Walk.guarded_access rfl ?_
  rw [ha]
  unfold poke CBuf.store
  split
  · exact iff_of_true ⟨_, rfl⟩ ‹_›
  · refine iff_of_false ?_ ‹_›
    rintro ⟨b', h⟩
    cases h

/-- On the suffix: a scan that meets the end has examined the position behind the array. -/
theorem scanFrom_guarded (ha : size a = n) (b : CBuf n) (test : Byte → Bool) :
    ∀ (s : List Byte) (p : Nat), b.bytes.drop p = s → (scanFrom a test s p).Guarded size
  | [], p, hs => by
    refine Walk.guarded_access rfl (iff_of_false nofun ?_)
    rw [ha, ← b.size]
    exact Nat.not_lt.mpr (List.drop_eq_nil_iff.mp hs)
  | v :: rest, p, hs => by
    have hp : p < size a := by
      rw [ha, ← b.size]
      by_contra hout
      rw [List.drop_eq_nil_iff.mpr (Nat.not_lt.mp hout)] at hs
      cases hs
    have hrest : b.bytes.drop (p + 1) = rest := by rw [← List.drop_drop, hs]; rfl
    unfold scanFrom
    split
    · have ih := scanFrom_guarded ha b test rest (p + 1) hrest
      refine ih.trans ⟨fun hall x hx => ?_, fun hall x hx => hall x (List.mem_cons_of_mem _ hx)⟩
      rcases List.mem_cons.mp hx with rfl | hx
      · exact hp
      · exact hall x hx
    · exact Walk.guarded_access rfl (iff_of_true ⟨p, rfl⟩ hp)

theorem scan_guarded (ha : size a = n) (b : CBuf n) (test : Byte → Bool) (p : Nat) :
    (scan a b test p).Guarded size := scanFrom_guarded ha b test _ p rfl

theorem strtokAt_guarded (ha : size a = n) (d : Byte) (b : CBuf n) (p : Nat) :
    (strtokAt a d b p).Guarded size := by
  refine (scan_guarded ha b _ p).bind fun token => (peek_guarded ha b token).bind fun _ => ?_
  refine .ite (Walk.guarded_pure _) ?_
  refine (scan_guarded ha b _ token).bind fun stop => (peek_guarded ha b stop).bind fun _ => ?_
  exact .ite (Walk.guarded_pure _) ((poke_guarded ha b stop 0).bind fun _ => Walk.guarded_pure _)

theorem strlenAt_guarded (ha : size a = n) (b : CBuf n) (p : Nat) :
    (strlenAt a b p).Guarded size :=
  (scan_guarded ha b _ p).bind fun _ => Walk.guarded_pure _

theorem strtoulAt_guarded (ha : size a = n) (max : Nat) (b : CBuf n) (p : Nat) :
    (strtoulAt a max b p).Guarded size :=
  (scan_guarded ha b _ p).bind fun q => (peek_guarded ha b q).bind fun _ =>
    (scan_guarded ha b _ _).bind fun _ => Walk.guarded_pure _

theorem memcpyAt_guarded {m : Nat} {dst : α} (hdst : size dst = m) (ha : size a = n) (b : CBuf n)
    (p : Nat) : ∀ (k i : Nat) (dest : CBuf m), (memcpyAt dst a b p k i dest).Guarded size
  | 0, _, dest => Walk.guarded_pure dest
  | k + 1, i, dest =>
    (peek_guarded ha b (p + i)).bind fun v => (poke_guarded hdst dest i v).bind fun dest =>
      memcpyAt_guarded hdst ha b p k (i + 1) dest

/-! ## `strtok` touches its array only -/

theorem peek_only (a : α) (b : CBuf n) (p : Nat) : (peek a b p).Only a := fun _ hx => by
  rw [List.mem_singleton.mp hx]

theorem poke_only (a : α) (b : CBuf n) (p : Nat) (v : Byte) : (poke a b p v).Only a := fun _ hx => by
  rw [List.mem_singleton.mp hx]

theorem scanFrom_only (a : α) (test : Byte → Bool) : ∀ (s : List Byte) (p : Nat),
    (scanFrom a test s p).Only a
  | [], p => fun _ hx => by rw [List.mem_singleton.mp hx]
  | v :: rest, p => by
    unfold scanFrom
    split
    · intro x hx
      rcases List.mem_cons.mp hx with rfl | hx
      · rfl
      · exact scanFrom_only a test rest (p + 1) x hx
    · exact fun _ hx => by rw [List.mem_singleton.mp hx]

theorem strtokAt_only (a : α) (d : Byte) (b : CBuf n) (p : Nat) : (strtokAt a d b p).Only a := by
  refine (scanFrom_only a _ _ p).bind fun token => (peek_only a b token).bind fun _ => ?_
  refine .ite (Walk.only_pure a _) ?_
  refine (scanFrom_only a _ _ token).bind fun stop => (peek_only a b stop).bind fun _ => ?_
  exact .ite (Walk.only_pure a _) ((poke_only a b stop 0).bind fun _ => Walk.only_pure a _)

/-! ## They return what the functions on lists do -/

theorem drop_takeWhile_length (test : Byte → Bool) (s : List Byte) :
    s.drop (s.takeWhile test).length = s.dropWhile test := by
  have hsplit : s.takeWhile test ++ s.dropWhile test = s := List.takeWhile_append_dropWhile
  conv_lhs => arg 2; rw [← hsplit]
  exact List.drop_left

theorem take_takeWhile_length (test : Byte → Bool) (s : List Byte) :
    s.take (s.takeWhile test).length = s.takeWhile test := by
  have hsplit : s.takeWhile test ++ s.dropWhile test = s := List.takeWhile_append_dropWhile
  conv_lhs => arg 2; rw [← hsplit]
  exact List.take_left

theorem peek_drop {b : CBuf n} {p : Nat} {v : Byte} {s : List Byte} (h : b.bytes.drop p = v :: s) :
    (peek a b p).result = .ok v := by
  have hv : b.bytes[p]? = some v := by
    rw [← Nat.add_zero p, ← List.getElem?_drop, h]
    rfl
  unfold peek
  rw [hv]

theorem scanFrom_result (test : Byte → Bool) : ∀ (s : List Byte) (p : Nat),
    (scanFrom a test s p).result = match s.dropWhile test with
      | [] => .error .outOfBounds
      | _ :: _ => .ok (p + (s.takeWhile test).length)
  | [], _ => rfl
  | v :: rest, p => by
    unfold scanFrom
    split
    · rename_i hv
      rw [List.dropWhile_cons_of_pos hv, List.takeWhile_cons_of_pos hv, List.length_cons]
      refine (scanFrom_result test rest (p + 1)).trans ?_
      rw [Nat.add_right_comm, ← Nat.add_assoc]
    · rename_i hv
      rw [List.dropWhile_cons_of_neg hv, List.takeWhile_cons_of_neg hv]
      rfl

/-- A scan stops in front of the first byte that fails the test. -/
theorem scan_ok {b : CBuf n} {test : Byte → Bool} {p : Nat} {v : Byte} {s : List Byte}
    (h : (b.bytes.drop p).dropWhile test = v :: s) :
    (scan a b test p).result = .ok (p + ((b.bytes.drop p).takeWhile test).length) ∧
      b.bytes.drop (p + ((b.bytes.drop p).takeWhile test).length) = v :: s := by
  refine ⟨?_, ?_⟩
  · refine (scanFrom_result test _ p).trans ?_
    rw [h]
  · rw [← List.drop_drop, drop_takeWhile_length, h]

theorem scan_error {b : CBuf n} {test : Byte → Bool} {p : Nat}
    (h : (b.bytes.drop p).dropWhile test = []) : (scan a b test p).result = .error .outOfBounds := by
  refine (scanFrom_result test _ p).trans ?_
  rw [h]

/-- **`strtok`** cuts the token that the function on lists finds from the saved pointer on. -/
theorem strtokAt_result (d : Byte) (b : CBuf n) (p : Nat) :
    (strtokAt a d b p).result = (strtok d (b.bytes.drop p)).map (Option.map fun t =>
      ⟨p + ((b.bytes.drop p).takeWhile (· == d)).length, p + t.left.length,
        CBuf.ofList (b.bytes.take p ++ (t.left ++ t.rest))⟩) := by
  have hsplit := List.takeWhile_append_dropWhile (p := (· == d)) (l := b.bytes.drop p)
  unfold strtokAt strtok
  cases hskip : (b.bytes.drop p).dropWhile (· == d) with
  | nil => exact Walk.bind_result_of_error (scan_error hskip) _
  | cons v s =>
    obtain ⟨htoken, hdrop⟩ := scan_ok (a := a) hskip
    rw [hskip] at hsplit
    generalize (b.bytes.drop p).takeWhile (· == d) = skipped at htoken hdrop hsplit ⊢
    refine (Walk.bind_result_of_ok htoken _).trans ?_
    refine (Walk.bind_result_of_ok (peek_drop hdrop) _).trans ?_
    show (if v = 0 then _ else _ : Walk α (Option (Cut n))).result =
      Except.map _ (if v = 0 then _ else _)
    by_cases hv : v = 0
    · rw [if_pos hv, if_pos hv]
      rfl
    · rw [if_neg hv, if_neg hv]
      have hsplit' := List.takeWhile_append_dropWhile (p := inToken d) (l := v :: s)
      cases hend : (v :: s).dropWhile (inToken d) with
      | nil => exact Walk.bind_result_of_error (scan_error (by rw [hdrop, hend])) _
      | cons c r =>
        obtain ⟨hstop, hdrop'⟩ := scan_ok (a := a) (b := b) (p := p + skipped.length)
          (by rw [hdrop]; exact hend)
        rw [hend] at hsplit'
        rw [hdrop] at hstop hdrop'
        generalize (v :: s).takeWhile (inToken d) = tok at hstop hdrop' hsplit' ⊢
        refine (Walk.bind_result_of_ok hstop _).trans ?_
        refine (Walk.bind_result_of_ok (peek_drop hdrop') _).trans ?_
        -- the array, around the byte the token ends at
        have hb : b.bytes = b.bytes.take p ++ (skipped ++ tok) ++ c :: r := by
          rw [List.append_assoc, List.append_assoc, hsplit', hsplit, List.take_append_drop]
        have hp : p ≤ b.bytes.length := by
          by_contra hout
          rw [List.drop_eq_nil_iff.mpr (by omega)] at hsplit
          exact absurd (List.append_eq_nil_iff.mp hsplit).2 (List.cons_ne_nil v s)
        have hstop' : p + skipped.length + tok.length = p + (skipped ++ tok).length := by
          rw [List.length_append, Nat.add_assoc]
        have hlen : (b.bytes.take p ++ (skipped ++ tok)).length = p + (skipped ++ tok).length := by
          rw [List.length_append, List.length_take, Nat.min_eq_left hp]
        show (if c = 0 then _ else _ : Walk α (Option (Cut n))).result =
          Except.map _ (if c = 0 then _ else _)
        rw [hstop']
        by_cases hc : c = 0
        · rw [if_pos hc, if_pos hc]
          show _ = Except.ok (some (Cut.mk _ _ (CBuf.ofList (_ ++ (skipped ++ tok ++ c :: r)))))
          rw [← List.append_assoc, ← hb, CBuf.ofList_bytes]
          rfl
        · rw [if_neg hc, if_neg hc]
          have hstore := CBuf.store_append hb 0
          rw [hlen] at hstore
          refine (Walk.bind_result_of_ok hstore _).trans ?_
          have hlast : (skipped ++ tok ++ [0]).length = (skipped ++ tok).length + 1 :=
            List.length_append
          show _ = Except.ok (some (Cut.mk _ (p + (skipped ++ tok ++ [0]).length)
            (CBuf.ofList (_ ++ (skipped ++ tok ++ [0] ++ r)))))
          rw [hlast, List.append_assoc (skipped ++ tok), List.append_assoc]
          rfl

/-- The token stands in the array with a NUL behind it. From the saved pointer on the array holds what
is left to be cut. -/
theorem strtokAt_cut {d : Byte} {b : CBuf n} {p : Nat} {t : Token}
    (h : strtok d (b.bytes.drop p) = .ok (some t)) :
    ∃ c : Cut n, (strtokAt a d b p).result = .ok (some c) ∧
      (0 : Byte) ∉ t.text ∧ (∃ r, c.buffer.bytes.drop c.token = t.text ++ 0 :: r) ∧
      c.buffer.bytes.take c.saved = b.bytes.take p ++ t.left ∧
      c.buffer.bytes.drop c.saved = t.rest := by
  obtain ⟨htext, hlen, r, hcut⟩ := strtok_cut h
  have hcall := strtokAt_result (a := a) d b p
  rw [h] at hcall
  refine ⟨_, hcall, htext, ?_⟩
  have hp : (b.bytes.take p).length = p := by
    rw [hcut, List.length_append, List.length_append, List.length_cons, List.length_drop] at hlen
    rw [List.length_take]
    omega
  have hbytes : (CBuf.ofList (b.bytes.take p ++ (t.left ++ t.rest)) : CBuf n).bytes =
      b.bytes.take p ++ (t.left ++ t.rest) := by
    refine CBuf.bytes_ofList ?_
    rw [List.length_append, hlen, ← List.length_append, List.take_append_drop, b.size]
  have hleft : (b.bytes.take p ++ t.left).length = p + t.left.length := by
    rw [List.length_append, hp]
  refine ⟨⟨r, ?_⟩, ?_, ?_⟩
  · rw [hbytes, hcut, ← List.append_assoc]
    exact List.drop_left' (by rw [List.length_append, hp])
  · rw [hbytes, ← List.append_assoc]
    exact List.take_left' hleft
  · rw [hbytes, ← List.append_assoc]
    exact List.drop_left' hleft

theorem strtokAt_token {d : Byte} {b : CBuf n} {p : Nat} {c : Cut n}
    (h : (strtokAt a d b p).result = .ok (some c)) :
    ∃ t r, (0 : Byte) ∉ t ∧ c.buffer.bytes.drop c.token = t ++ 0 :: r := by
  rw [strtokAt_result] at h
  obtain ⟨o, hs, ho⟩ := map_eq_ok.mp h
  cases o with
  | none => cases ho
  | some t =>
    obtain ⟨c', hc, htext, ⟨r, htoken⟩, -⟩ := strtokAt_cut (a := a) hs
    rw [strtokAt_result, hs] at hc
    cases ho
    cases hc
    exact ⟨t.text, r, htext, htoken⟩

/-! ### On a terminated text -/

theorem takeWhile_text (test : Byte → Bool) (h0 : test 0 = false) (t r : List Byte) :
    (t ++ 0 :: r).takeWhile test = t.takeWhile test := by
  rw [List.takeWhile_append, List.takeWhile_cons_of_neg (by rw [h0]; decide), List.append_nil]
  split
  · rename_i hall
    exact ((List.takeWhile_prefix test).eq_of_length hall).symm
  · rfl

theorem dropWhile_text (test : Byte → Bool) (h0 : test 0 = false) (t r : List Byte) :
    (t ++ 0 :: r).dropWhile test = t.dropWhile test ++ 0 :: r := by
  rw [← drop_takeWhile_length, takeWhile_text test h0,
    List.drop_append_of_le_length (List.takeWhile_prefix test).length_le, drop_takeWhile_length]

variable {b : CBuf n} {p : Nat} {t r : List Byte}

/-- A scan that the NUL stops. -/
theorem scan_text (h : b.bytes.drop p = t ++ 0 :: r) (test : Byte → Bool) (h0 : test 0 = false) :
    (scan a b test p).result = .ok (p + (t.takeWhile test).length) ∧
      b.bytes.drop (p + (t.takeWhile test).length) = t.dropWhile test ++ 0 :: r := by
  have hdrop := dropWhile_text test h0 t r
  obtain ⟨v, s, hs⟩ := List.exists_cons_of_ne_nil (l := t.dropWhile test ++ 0 :: r) (by simp)
  have hscan := scan_ok (a := a) (b := b) (p := p) (by rw [h, hdrop, hs])
  rw [h, takeWhile_text test h0, ← hs] at hscan
  exact hscan

theorem strlenAt_result (h : b.bytes.drop p = t ++ 0 :: r) (ht : (0 : Byte) ∉ t) :
    (strlenAt a b p).result = .ok t.length := by
  obtain ⟨hstop, -⟩ := scan_text (a := a) h ((· != 0)) (by decide)
  refine (Walk.bind_result_of_ok hstop _).trans ?_
  have hall : t.takeWhile (· != 0) = t := upToNul_eq_self ht
  rw [hall]
  exact congrArg Except.ok (Nat.add_sub_cancel_left p t.length)

theorem strtoulAt_result (max : Nat) (h : b.bytes.drop p = t ++ 0 :: r) :
    (strtoulAt a max b p).result = .ok (strtoul max t) := by
  obtain ⟨hspace, hsigned⟩ := scan_text (a := a) h isSpace (by decide)
  refine (Walk.bind_result_of_ok hspace _).trans ?_
  generalize p + (t.takeWhile isSpace).length = q at hsigned ⊢
  unfold strtoul
  generalize t.dropWhile isSpace = s at hsigned ⊢
  obtain ⟨sign, s', hs'⟩ := List.exists_cons_of_ne_nil (l := s ++ 0 :: r) (by simp)
  refine (Walk.bind_result_of_ok (peek_drop (hsigned.trans hs')) _).trans ?_
  obtain ⟨hsign, hdigits⟩ : (sign = 45 ↔ (takeSign s).1 = true) ∧
      b.bytes.drop (if sign = 45 ∨ sign = 43 then q + 1 else q) = (takeSign s).2 ++ 0 :: r := by
    have hnext : b.bytes.drop (q + 1) = s' := by
      rw [← List.drop_drop, hsigned, hs']
      rfl
    cases s with
    | nil =>
      cases hs'
      exact ⟨by decide, hsigned⟩
    | cons c s =>
      cases hs'
      have htake : takeSign (sign :: s) = if sign = 45 then (true, s)
          else if sign = 43 then (false, s) else (false, sign :: s) := rfl
      rw [htake]
      by_cases hminus : sign = 45
      · rw [if_pos hminus, if_pos (Or.inl hminus)]
        exact ⟨iff_of_true hminus rfl, hnext⟩
      · by_cases hplus : sign = 43
        · rw [if_neg hminus, if_pos hplus, if_pos (Or.inr hplus)]
          exact ⟨iff_of_false hminus nofun, hnext⟩
        · rw [if_neg hminus, if_neg hplus, if_neg (not_or.mpr ⟨hminus, hplus⟩)]
          exact ⟨iff_of_false hminus nofun, hsigned⟩
  generalize (if sign = 45 ∨ sign = 43 then q + 1 else q) = digits at hdigits ⊢
  obtain ⟨hstop, -⟩ := scan_text (a := a) hdigits isDigit (by decide)
  refine (Walk.bind_result_of_ok hstop _).trans (congrArg Except.ok ?_)
  have htaken : ((takeSign s).2 ++ 0 :: r).take ((takeSign s).2.takeWhile isDigit).length =
      leadingDigits (takeSign s).2 := by
    rw [← takeWhile_text isDigit (by decide) _ r, take_takeWhile_length]
    exact takeWhile_text isDigit (by decide) _ r
  rw [hdigits, Nat.add_sub_cancel_left, htaken]
  simp only [hsign]

/-- `memcpy` from within the array copies the bytes that stand there. -/
theorem memcpyAt_result {m : Nat} {dst : α} : ∀ (l : List Byte) (i : Nat) (dest : CBuf m), i ≤ m →
    b.bytes.drop (p + i) = l ++ r → (memcpyAt dst a b p l.length i dest).result = dest.memcpyAt i l
  | [], i, dest, hi, _ => by
    refine Eq.trans ?_ (dif_pos hi).symm
    refine congrArg Except.ok (CBuf.ext ?_)
    show dest.bytes = dest.bytes.take i ++ [] ++ dest.bytes.drop (i + 0)
    rw [List.append_nil, Nat.add_zero, List.take_append_drop]
  | v :: l, i, dest, hi, h => by
    refine (Walk.bind_result_of_ok (peek_drop h) _).trans ?_
    rw [Walk.bind_result, ← CBuf.memcpyAt_cons]
    show (dest.store i v >>= _) = _
    cases hstore : dest.store i v with
    | error e => rfl
    | ok dest' =>
      have hrest : b.bytes.drop (p + (i + 1)) = l ++ r := by
        rw [← Nat.add_assoc, ← List.drop_drop, h]
        rfl
      exact memcpyAt_result l (i + 1) dest' (CBuf.store_eq_ok.mp hstore).1 hrest

end

end GenLogger.Lib
