import Mathlib.Data.List.Basic
import Mathlib.Data.List.TakeWhile

/-!
# C strings and character arrays

The bytes a C program moves around.

* A `char[n]` is `CBuf n`, whose length is a field, so an array of the wrong size cannot be built.
* A pointer to a terminated string is a `CStr`, the bytes before the terminator, whose field says that
  no terminator is among them.
* Reading a string out of an array scans for the terminator. Where the array holds none the scan
  leaves the array, which is `Fault.outOfBounds`.

Results:
* `cstr_ok_iff`: reading a string fails only where no terminator stands in the array.
* `fill_zero_bytes`, `strncpy_bytes`, `snprintf_bytes`, `memcpy_store`: what each way to fill an array
  leaves, and that a text with its terminator survives it.
* `cstr_snprintf`: a printed text is read back, cut to what the array takes.
* `bind_eq_ok`, `bind_eq_error`: a sequence of steps that may fail, taken apart.
-/

namespace GenLogger.Lib

/-- The ways a C program stops having a meaning, and `while (1);`. -/
inductive Fault where
  /-- A read or a write outside an array. -/
  | outOfBounds
  /-- A result outside the range of a signed type. -/
  | signedOverflow
  | divideByZero
  /-- An endless loop. -/
  | hang
  deriving Repr, DecidableEq

/-- A sequence that ends well: so does its first part, and the second from there. -/
theorem bind_eq_ok {α β : Type} {x : Except Fault α} {f : α → Except Fault β} {b : β} :
    x >>= f = .ok b ↔ ∃ a, x = .ok a ∧ f a = .ok b := by
  cases x with
  | error e =>
    constructor
    · intro h; cases h
    · rintro ⟨_, h, _⟩; cases h
  | ok a =>
    constructor
    · intro h; exact ⟨a, rfl, h⟩
    · rintro ⟨_, h, h'⟩; cases h; exact h'

theorem map_eq_ok {α β : Type} {x : Except Fault α} {f : α → β} {b : β} :
    x.map f = .ok b ↔ ∃ a, x = .ok a ∧ f a = b := by
  cases x with
  | error e =>
    constructor
    · intro h; cases h
    · rintro ⟨_, h, _⟩; cases h
  | ok a =>
    constructor
    · intro h; cases h; exact ⟨a, rfl, rfl⟩
    · rintro ⟨_, h, h'⟩; cases h; exact congrArg _ h'

theorem map_eq_error {α β : Type} {x : Except Fault α} {f : α → β} {e : Fault} :
    x.map f = .error e ↔ x = .error e := by
  cases x with
  | error e' =>
    constructor
    · intro h; cases h; rfl
    · intro h; cases h; rfl
  | ok a =>
    constructor
    · intro h; cases h
    · intro h; cases h

/-- A sequence that fails: its first part does, or the second from where the first ends. -/
theorem bind_eq_error {α β : Type} {x : Except Fault α} {f : α → Except Fault β} {e : Fault} :
    x >>= f = .error e ↔ x = .error e ∨ ∃ a, x = .ok a ∧ f a = .error e := by
  cases x with
  | error e' =>
    constructor
    · intro h; cases h; exact Or.inl rfl
    · rintro (h | ⟨_, h, _⟩)
      · cases h; rfl
      · cases h
  | ok a =>
    constructor
    · intro h; exact Or.inr ⟨a, rfl, h⟩
    · rintro (h | ⟨_, h, h'⟩)
      · cases h
      · cases h; exact h'

/-- A `char`. -/
abbrev Byte := UInt8

/-- The bytes of a string literal (ASCII). -/
def ascii (s : String) : List Byte := s.toList.map fun c => UInt8.ofNat c.toNat

/-- The bytes before the first NUL. -/
def upToNul (l : List Byte) : List Byte := l.takeWhile (· != 0)

/-- A terminated string: the bytes before the terminator. -/
structure CStr where
  bytes : List Byte
  noNul : (0 : Byte) ∉ bytes
  deriving DecidableEq

/-- A `char[n]`. -/
structure CBuf (n : Nat) where
  bytes : List Byte
  size : bytes.length = n
  deriving DecidableEq

theorem nul_notMem_upToNul (l : List Byte) : (0 : Byte) ∉ upToNul l := by
  intro h
  have := List.mem_takeWhile_imp h
  simp at this

theorem upToNul_append {t : List Byte} (ht : (0 : Byte) ∉ t) (r : List Byte) :
    upToNul (t ++ 0 :: r) = t := by
  unfold upToNul
  rw [List.takeWhile_append_of_pos (fun b hb => by
    simp only [bne_iff_ne, ne_eq]; rintro rfl; exact ht hb)]
  simp

theorem upToNul_eq_self {t : List Byte} (ht : (0 : Byte) ∉ t) : upToNul t = t := by
  unfold upToNul
  rw [List.takeWhile_eq_self_iff]
  intro b hb
  simp only [bne_iff_ne, ne_eq]
  rintro rfl
  exact ht hb

/-- An array that holds a NUL is its text, the NUL, and what follows. -/
theorem split_at_nul {l : List Byte} (h : (0 : Byte) ∈ l) : ∃ r, l = upToNul l ++ 0 :: r := by
  obtain ⟨s, r, rfl, hs⟩ := List.eq_append_cons_of_mem h
  exact ⟨r, by rw [upToNul_append hs]⟩

/-! ## Strings -/

namespace CStr

@[ext] theorem ext {s t : CStr} (h : s.bytes = t.bytes) : s = t := by
  cases s; cases t; cases h; rfl

/-- The string a pointer to `l`, followed by a NUL, denotes. -/
def ofBytes (l : List Byte) : CStr := ⟨upToNul l, nul_notMem_upToNul l⟩

@[simp] theorem ofBytes_bytes (l : List Byte) : (ofBytes l).bytes = upToNul l := rfl

/-- The first `k` bytes. -/
def truncate (s : CStr) (k : Nat) : CStr :=
  ⟨s.bytes.take k, fun h => s.noNul (List.mem_of_mem_take h)⟩

@[simp] theorem truncate_bytes (s : CStr) (k : Nat) : (s.truncate k).bytes = s.bytes.take k := rfl

/-- `s[0]`: the terminator for an empty string. -/
def first (s : CStr) : Byte := s.bytes.headD 0

end CStr

/-! ## Arrays -/

namespace CBuf

variable {n : Nat}

@[ext] theorem ext {a b : CBuf n} (h : a.bytes = b.bytes) : a = b := by
  cases a; cases b; cases h; rfl

/-- `char x[n] = {'\0'}`. -/
def zero (n : Nat) : CBuf n := ⟨List.replicate n 0, List.length_replicate⟩

/-- `l` in the first bytes, the others as they were. -/
def fill (b : CBuf n) (l : List Byte) (h : l.length ≤ n) : CBuf n :=
  ⟨l ++ b.bytes.drop l.length, by rw [List.length_append, List.length_drop, b.size]; omega⟩

/-- `memcpy(b, l, |l|)`. -/
def memcpy (b : CBuf n) (l : List Byte) : Except Fault (CBuf n) :=
  if h : l.length ≤ n then .ok (b.fill l h) else .error .outOfBounds

/-- `memcpy(b + k, l, |l|)`. -/
def memcpyAt (b : CBuf n) (k : Nat) (l : List Byte) : Except Fault (CBuf n) :=
  if h : k + l.length ≤ n then .ok ⟨b.bytes.take k ++ l ++ b.bytes.drop (k + l.length), by
    rw [List.length_append, List.length_append, List.length_take, List.length_drop, b.size]; omega⟩
  else .error .outOfBounds

/-- `b[i] = v`. -/
def store (b : CBuf n) (i : Nat) (v : Byte) : Except Fault (CBuf n) :=
  if i < n then .ok ⟨b.bytes.set i v, by rw [List.length_set, b.size]⟩ else .error .outOfBounds

/-- `strncpy(b, s, sizeof(b))`: padded with NULs, and not terminated when `s` fills the array. -/
def strncpy (_ : CBuf n) (s : CStr) : CBuf n :=
  ⟨(s.bytes ++ List.replicate n 0).take n, by simp⟩

/-- `snprintf(b, sizeof(b), …)` of the formatted text `t`: at most `n - 1` bytes and a NUL. -/
def snprintf (b : CBuf n) (t : List Byte) : CBuf n :=
  if h : 0 < n then
    b.fill (t.take (n - 1) ++ [0]) (by
      rw [List.length_append, List.length_take, List.length_singleton]; omega)
  else b

/-- The string at the start of the array. -/
def cstr (b : CBuf n) : Except Fault CStr :=
  if (0 : Byte) ∈ b.bytes then .ok (CStr.ofBytes b.bytes) else .error .outOfBounds

/-- `strcpy(b, a)`: the string of `a` with its terminator. -/
def strcpy {m : Nat} (b : CBuf n) (a : CBuf m) : Except Fault (CBuf n) := do
  let s ← a.cstr
  b.memcpy (s.bytes ++ [0])

/-- The array that holds `l`, cut or padded to size. -/
def ofList (l : List Byte) : CBuf n := ⟨(l ++ List.replicate n 0).take n, by simp⟩

theorem bytes_ofList {l : List Byte} (h : l.length = n) : (ofList l : CBuf n).bytes = l := by
  show (l ++ List.replicate n 0).take n = l
  rw [List.take_append_of_le_length h.ge, List.take_of_length_le h.le]

theorem ofList_bytes (b : CBuf n) : ofList b.bytes = b := ext (bytes_ofList b.size)

/-- A store, on the array around its position. -/
theorem store_append {b : CBuf n} {l r : List Byte} {c : Byte} (h : b.bytes = l ++ c :: r)
    (v : Byte) : b.store l.length v = .ok (ofList (l ++ v :: r)) := by
  have hsize := b.size
  rw [h, List.length_append, List.length_cons] at hsize
  have hset : b.bytes.set l.length v = l ++ v :: r := by
    rw [h, List.set_append_right _ _ (Nat.le_refl _), Nat.sub_self, List.set_cons_zero]
  refine (if_pos (by omega)).trans (congrArg Except.ok ?_)
  rw [← hset, ← ofList_bytes ⟨b.bytes.set l.length v, by rw [List.length_set, b.size]⟩]

@[simp] theorem fill_bytes (b : CBuf n) (l : List Byte) (h : l.length ≤ n) :
    (b.fill l h).bytes = l ++ b.bytes.drop l.length := rfl

/-- A text with its terminator survives being read into an array it fits in. -/
theorem fill_take_bytes (b : CBuf n) {t r : List Byte} (h : t.length < n) :
    ∃ r', (b.fill ((t ++ 0 :: r).take n) (List.length_take_le _ _)).bytes = t ++ 0 :: r' := by
  refine ⟨r.take (n - t.length - 1) ++ b.bytes.drop ((t ++ 0 :: r).take n).length, ?_⟩
  have hn : n - t.length = (n - t.length - 1) + 1 := by omega
  have htake : (t ++ 0 :: r).take n = t ++ 0 :: r.take (n - t.length - 1) := by
    rw [List.take_append, List.take_of_length_le (Nat.le_of_lt h), hn, List.take_succ_cons,
      Nat.add_sub_cancel]
  rw [fill_bytes]
  conv_lhs => arg 1; rw [htake]
  rw [List.append_assoc, List.cons_append]

/-- A text read into a zeroed array is terminated by it. -/
theorem fill_zero_bytes {t : List Byte} (h : t.length < n) :
    ∃ r, ((zero n).fill (t.take n) (List.length_take_le _ _)).bytes = t ++ 0 :: r := by
  have hn : n - t.length = (n - t.length - 1) + 1 := by omega
  refine ⟨List.replicate (n - t.length - 1) 0, ?_⟩
  rw [fill_bytes]
  simp only [List.take_of_length_le (Nat.le_of_lt h)]
  show t ++ (List.replicate n 0).drop t.length = _
  rw [List.drop_replicate, hn, List.replicate_succ, Nat.add_sub_cancel]

/-- **Reading a string fails only where no terminator stands in the array.** -/
theorem cstr_ok_iff (b : CBuf n) (s : CStr) :
    b.cstr = .ok s ↔ (0 : Byte) ∈ b.bytes ∧ s = CStr.ofBytes b.bytes := by
  unfold cstr
  split
  · rename_i h
    simp only [Except.ok.injEq, h, true_and]
    exact eq_comm
  · rename_i h
    simp [h]

theorem cstr_error {b : CBuf n} {e : Fault} (h : b.cstr = .error e) : e = .outOfBounds := by
  unfold cstr at h
  split at h
  · cases h
  · cases h; rfl

theorem cstr_of_bytes {b : CBuf n} {t r : List Byte} (ht : (0 : Byte) ∉ t)
    (h : b.bytes = t ++ 0 :: r) : b.cstr = .ok ⟨t, ht⟩ := by
  rw [cstr_ok_iff]
  refine ⟨by rw [h]; simp, CStr.ext ?_⟩
  rw [CStr.ofBytes_bytes, h, upToNul_append ht]

/-- The copy reads as the original. -/
theorem upToNul_strcpy {m : Nat} {b b' : CBuf n} {a : CBuf m} (h : b.strcpy a = .ok b') :
    upToNul b'.bytes = upToNul a.bytes := by
  obtain ⟨s, hs, h⟩ := bind_eq_ok.mp h
  obtain ⟨-, rfl⟩ := (cstr_ok_iff a s).mp hs
  unfold memcpy at h
  split at h
  · simp only [Except.ok.injEq] at h
    rw [← h, fill_bytes, List.append_assoc]
    exact upToNul_append (nul_notMem_upToNul a.bytes) _
  · cases h

/-- A string shorter than the array survives `strncpy` with its terminator. -/
theorem strncpy_bytes (b : CBuf n) {s : CStr} (h : s.bytes.length < n) :
    ∃ r, (b.strncpy s).bytes = s.bytes ++ 0 :: r := by
  refine ⟨List.replicate (n - s.bytes.length - 1) 0, ?_⟩
  have hn : n - s.bytes.length = (n - s.bytes.length - 1) + 1 := by omega
  show (s.bytes ++ List.replicate n 0).take n = _
  rw [List.take_append, List.take_of_length_le (Nat.le_of_lt h), List.take_replicate,
    Nat.min_eq_left (by omega), hn, List.replicate_succ, Nat.add_sub_cancel]

/-- The string in an array leaves room for its terminator. -/
theorem cstr_length {b : CBuf n} {s : CStr} (h : b.cstr = .ok s) : s.bytes.length < n := by
  obtain ⟨h0, rfl⟩ := (cstr_ok_iff b s).mp h
  obtain ⟨r, hr⟩ := split_at_nul h0
  have hsize := b.size
  rw [hr, List.length_append, List.length_cons] at hsize
  rw [CStr.ofBytes_bytes]
  omega

theorem cstr_strncpy (b : CBuf n) {s : CStr} (h : s.bytes.length < n) :
    (b.strncpy s).cstr = .ok s := by
  obtain ⟨r, hr⟩ := strncpy_bytes b h
  exact cstr_of_bytes s.noNul hr

/-- A text shorter than the array is printed whole, with its terminator. -/
theorem snprintf_bytes (b : CBuf n) {t : List Byte} (h : t.length < n) :
    ∃ r, (b.snprintf t).bytes = t ++ 0 :: r := by
  refine ⟨b.bytes.drop (t.length + 1), ?_⟩
  unfold snprintf
  rw [dif_pos (by omega), fill_bytes, List.take_of_length_le (by omega)]
  simp

/-- A printed text is read back, cut to what the array takes. -/
theorem cstr_snprintf (b : CBuf n) (hn : 0 < n) (t : CStr) :
    (b.snprintf t.bytes).cstr = .ok (t.truncate (n - 1)) := by
  have hbytes : (b.snprintf t.bytes).bytes = (t.truncate (n - 1)).bytes ++
      0 :: b.bytes.drop (t.bytes.take (n - 1) ++ [0]).length := by
    unfold snprintf
    rw [dif_pos hn, fill_bytes, List.append_assoc]
    rfl
  exact cstr_of_bytes (t.truncate (n - 1)).noNul hbytes

theorem store_eq_ok {b b' : CBuf n} {i : Nat} {v : Byte} :
    b.store i v = .ok b' ↔ i < n ∧ b'.bytes = b.bytes.set i v := by
  unfold store
  split
  · rename_i hi
    simp only [Except.ok.injEq, hi, true_and, CBuf.ext_iff]
    exact eq_comm
  · rename_i hi
    exact iff_of_false nofun fun h => hi h.1

theorem memcpyAt_zero (b : CBuf n) (l : List Byte) : b.memcpyAt 0 l = b.memcpy l := by
  unfold memcpyAt memcpy fill
  simp only [Nat.zero_add, List.take_zero, List.nil_append]

/-- A copy is a store of its first byte and a copy of the others. -/
theorem memcpyAt_cons (b : CBuf n) (i : Nat) (v : Byte) (l : List Byte) :
    (b.store i v >>= fun b₁ => b₁.memcpyAt (i + 1) l) = b.memcpyAt i (v :: l) := by
  have hlen : i + 1 + l.length = i + (v :: l).length := by rw [List.length_cons]; omega
  cases hstore : b.store i v with
  | error e =>
    have hi : ¬ i < n := fun hi => by
      rw [store, if_pos hi] at hstore
      cases hstore
    rw [store, if_neg hi] at hstore
    cases hstore
    have hout : ¬ i + (v :: l).length ≤ n := by omega
    show Except.error Fault.outOfBounds = b.memcpyAt i (v :: l)
    rw [memcpyAt, dif_neg hout]
  | ok b₁ =>
    obtain ⟨hi, hb⟩ := store_eq_ok.mp hstore
    show b₁.memcpyAt (i + 1) l = _
    unfold memcpyAt
    simp only [hlen]
    split
    · refine congrArg Except.ok (ext ?_)
      show b₁.bytes.take (i + 1) ++ l ++ b₁.bytes.drop (i + (v :: l).length) = _
      have hib : i < b.bytes.length := by rw [b.size]; exact hi
      have htake : (b.bytes.take i).length = i := by
        rw [List.length_take, Nat.min_eq_left (Nat.le_of_lt hib)]
      rw [hb, List.take_set, List.drop_set_of_lt (by rw [← hlen]; omega),
        List.take_succ_eq_append_getElem hib, List.set_append_right _ _ htake.le, htake,
        Nat.sub_self, List.set_cons_zero, List.append_assoc (b.bytes.take i), List.singleton_append]
    · rfl

/-- The array with the string `l` and its terminator at the start. -/
def putStr (b : CBuf n) (l : List Byte) (h : l.length < n) : CBuf n :=
  ⟨l ++ 0 :: b.bytes.drop (l.length + 1), by
    rw [List.length_append, List.length_cons, List.length_drop, b.size]; omega⟩

/-- `memcpy` of `l` and a NUL stored after it put the string `l` at the start. -/
theorem memcpy_store (b : CBuf n) {l : List Byte} (h : l.length < n) :
    (do let b₁ ← b.memcpy l; b₁.store l.length 0) = .ok (b.putStr l h) := by
  have hlb : l.length < b.bytes.length := by rw [b.size]; exact h
  have hd := List.drop_eq_getElem_cons hlb
  have hmem : b.memcpy l = .ok (b.fill l (Nat.le_of_lt h)) := dif_pos (Nat.le_of_lt h)
  have hset : (l ++ b.bytes.drop l.length).set l.length 0 =
      l ++ 0 :: b.bytes.drop (l.length + 1) := by
    rw [hd, List.set_append_right _ _ (Nat.le_refl _), Nat.sub_self, List.set_cons_zero]
  rw [hmem]
  refine (if_pos h).trans (congrArg Except.ok (ext ?_))
  exact hset

theorem cstr_putStr (b : CBuf n) {l : List Byte} (h : l.length < n) (hl : (0 : Byte) ∉ l) :
    (b.putStr l h).cstr = .ok ⟨l, hl⟩ :=
  cstr_of_bytes hl rfl

end CBuf

end GenLogger.Lib
