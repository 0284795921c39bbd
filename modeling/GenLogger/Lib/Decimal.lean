import GenLogger.Lib.CString
import Mathlib.Algebra.Group.Nat.Defs
import Mathlib.Data.List.DropRight

/-!
# Decimal numbers: `%d`, `strtoul`, `std::from_chars`, `sscanf`

`decimal n` is what `%d` prints for a non-negative `int`, and `padded w n` what `%0wd` prints. The
readers differ in what they accept before the digits and in what they do with a value that does not
fit:
* `strtoul` skips white space, takes a sign, saturates at `ULONG_MAX` and gives `0` when there is no
  digit;
* `fromChars` (`std::from_chars` into an `int`) takes a minus sign only and refuses an empty numeral
  or a value outside `int`;
* `scanInt w` (`sscanf` with `%wd`) skips white space and reads at most `w` bytes, the sign included.

Results:
* `padded_length`: a number of at most `w` digits takes `w`.
* `strtoul_decimal`: reading back a printed number gives that number, whatever non-digit follows.
* `scanInt_iff`: what `%wd` takes, as a grammar (`Numeral`); `Numeral.unique`: in one way.
* `fromChars_ne_none_iff`, `fromChars_digits`: in at most seven bytes no number is refused, and digits
  are read as their value.
-/

namespace GenLogger.Lib

/-- `isspace` in the C locale. -/
def isSpace (b : Byte) : Bool := b == 32 || (9 ≤ b && b ≤ 13)

/-- `isdigit`. -/
def isDigit (b : Byte) : Bool := 48 ≤ b && b ≤ 57

/-- What `%d` prints for a non-negative number. -/
def decimal (n : Nat) : List Byte := (Nat.toDigits 10 n).map fun c => UInt8.ofNat c.toNat

/-- What `%0wd` prints for a non-negative number. -/
def padded (w n : Nat) : List Byte := List.replicate (w - (decimal n).length) 48 ++ decimal n

/-- The value of a digit string. -/
def digitsVal (l : List Byte) : Nat := l.foldl (fun v b => 10 * v + (b.toNat - 48)) 0

/-- The digits at the start of `s`. -/
def leadingDigits (s : List Byte) : List Byte := s.takeWhile isDigit

/-- An optional `-` or `+`: whether it was a minus, and the bytes after it. -/
def takeSign : List Byte → Bool × List Byte
  | [] => (false, [])
  | b :: t => if b = 45 then (true, t) else if b = 43 then (false, t) else (false, b :: t)

/-- `strtoul(s, nullptr, 10)` with `ULONG_MAX = max`. -/
def strtoul (max : Nat) (s : List Byte) : Nat :=
  let signed := takeSign (s.dropWhile isSpace)
  let v := digitsVal (leadingDigits signed.2)
  if max < v then max else if signed.1 then (max + 1 - v) % (max + 1) else v

/-- `std::from_chars(first, last, value)` into an `int`; `none` where `ec != std::errc()`. -/
def fromChars (s : List Byte) : Option Int :=
  let signed := match s with
    | [] => (false, [])
    | b :: t => if b = 45 then (true, t) else (false, b :: t)
  let digits := leadingDigits signed.2
  let v : Int := if signed.1 then -(digitsVal digits : Int) else digitsVal digits
  if digits = [] then none else if -2147483648 ≤ v ∧ v ≤ 2147483647 then some v else none

/-- `%wd` of `sscanf`: the value and the bytes left, or `none` on a matching failure. -/
def scanInt (w : Nat) (s : List Byte) : Option (Int × List Byte) :=
  let s := s.dropWhile isSpace
  let signed := takeSign s
  let room := w - (s.length - signed.2.length)
  let digits := leadingDigits (signed.2.take room)
  if digits = [] then none
  else
    let v : Int := if signed.1 then -(digitsVal digits : Int) else digitsVal digits
    some (v, signed.2.drop digits.length)

/-! ## Printed numbers -/

theorem decimal_ne_nil (n : Nat) : decimal n ≠ [] := by
  unfold decimal
  rw [ne_eq, List.map_eq_nil_iff]
  exact Nat.toDigits_ne_nil

theorem isDigit_byte {c : Char} (h : c.isDigit = true) : isDigit (UInt8.ofNat c.toNat) = true := by
  have hc : 48 ≤ c.toNat ∧ c.toNat ≤ 57 := by
    simp only [Char.isDigit, ge_iff_le, Bool.and_eq_true, decide_eq_true_eq] at h
    exact ⟨UInt32.le_iff_toNat_le.mp h.1, UInt32.le_iff_toNat_le.mp h.2⟩
  unfold isDigit
  simp only [Bool.and_eq_true, decide_eq_true_eq, UInt8.le_iff_toNat_le, UInt8.toNat_ofNat']
  have : c.toNat % 256 = c.toNat := Nat.mod_eq_of_lt (by omega)
  constructor <;> (simp; omega)

theorem isDigit_of_mem_decimal {n : Nat} {b : Byte} (h : b ∈ decimal n) : isDigit b = true := by
  obtain ⟨c, hc, rfl⟩ := List.mem_map.mp h
  exact isDigit_byte (Nat.isDigit_of_mem_toDigits (by omega) (by omega) hc)

/-- A byte that is no digit does not occur in a printed number. -/
theorem notMem_decimal {b : Byte} (h : isDigit b = false) (n : Nat) : b ∉ decimal n := by
  intro hb
  rw [isDigit_of_mem_decimal hb] at h
  exact absurd h (by simp)

theorem decimal_length_le {n k : Nat} (hk : 0 < k) (h : n < 10 ^ k) : (decimal n).length ≤ k := by
  unfold decimal
  rw [List.length_map]
  exact (Nat.length_toDigits_le_iff (by omega) hk).mpr h

theorem isDigit_of_mem_padded {w n : Nat} {b : Byte} (h : b ∈ padded w n) : isDigit b = true := by
  rcases List.mem_append.mp h with h | h
  · rw [List.eq_of_mem_replicate h]
    decide
  · exact isDigit_of_mem_decimal h

theorem notMem_padded {b : Byte} (h : isDigit b = false) (w n : Nat) : b ∉ padded w n := by
  intro hb
  rw [isDigit_of_mem_padded hb] at h
  exact absurd h (by simp)

/-- A number of at most `w` digits takes `w`. -/
theorem padded_length {w n : Nat} (hw : 0 < w) (h : n < 10 ^ w) : (padded w n).length = w := by
  have hle := decimal_length_le hw h
  unfold padded
  rw [List.length_append, List.length_replicate]
  omega

/-! ## Reading them back -/

theorem foldl_digits {l : List Char} (h : ∀ c ∈ l, c.isDigit = true) (v : Nat) :
    (l.map fun c => UInt8.ofNat c.toNat).foldl (fun v (b : Byte) => 10 * v + (b.toNat - 48)) v =
      Nat.ofDigitChars 10 l v := by
  induction l generalizing v with
  | nil => simp
  | cons c l ih =>
    have hc := h c List.mem_cons_self
    have hlt : c.toNat < 256 := by
      simp only [Char.isDigit, ge_iff_le, Bool.and_eq_true, decide_eq_true_eq] at hc
      have := UInt32.le_iff_toNat_le.mp hc.2
      exact Nat.lt_of_le_of_lt this (by decide)
    rw [List.map_cons, List.foldl_cons, ih fun d hd => h d (List.mem_cons_of_mem _ hd),
      Nat.ofDigitChars_cons, UInt8.toNat_ofNat', Nat.mod_eq_of_lt hlt]
    rfl

@[simp] theorem digitsVal_decimal (n : Nat) : digitsVal (decimal n) = n := by
  unfold digitsVal decimal
  rw [foldl_digits fun c hc => Nat.isDigit_of_mem_toDigits (by omega) (by omega) hc,
    Nat.ofDigitChars_ten_toDigits]

/-- Zeros before a number do not count. -/
@[simp] theorem digitsVal_padded (w n : Nat) : digitsVal (padded w n) = n := by
  have hzeros : ∀ k, (List.replicate k (48 : Byte)).foldl (fun v b => 10 * v + (b.toNat - 48)) 0 = 0 := by
    intro k
    induction k with
    | zero => rfl
    | succ k ih => rw [List.replicate_succ]; exact ih
  have hval := digitsVal_decimal n
  unfold digitsVal at hval ⊢
  rw [padded, List.foldl_append, hzeros, hval]

theorem padded_inj {w n m : Nat} (h : padded w n = padded w m) : n = m := by
  rw [← digitsVal_padded w n, h, digitsVal_padded]

/-- The digits of a printed number end where a non-digit follows it. -/
theorem leadingDigits_decimal (n : Nat) {r : List Byte} (hr : isDigit (r.headD 0) = false) :
    leadingDigits (decimal n ++ r) = decimal n := by
  unfold leadingDigits
  rw [List.takeWhile_append_of_pos fun b hb => isDigit_of_mem_decimal hb]
  cases r with
  | nil => simp
  | cons b r => rw [List.takeWhile_cons_of_neg (by simpa using hr), List.append_nil]

/-- A digit is neither white space nor a sign. -/
theorem isSpace_digit {b : Byte} (h : isDigit b = true) : isSpace b = false := by
  simp only [isDigit, Bool.and_eq_true, decide_eq_true_eq, UInt8.le_iff_toNat_le] at h
  have h32 : b ≠ 32 := by rintro rfl; exact absurd h.1 (by decide)
  have h13 : ¬ b ≤ 13 := by
    rw [UInt8.le_iff_toNat_le]
    have := h.1
    simp at this ⊢
    omega
  simp [isSpace, h32, h13]

theorem takeSign_digit {b : Byte} (h : isDigit b = true) (t : List Byte) :
    takeSign (b :: t) = (false, b :: t) := by
  have h1 : b ≠ 45 := by rintro rfl; exact absurd h (by decide)
  have h2 : b ≠ 43 := by rintro rfl; exact absurd h (by decide)
  simp only [takeSign, if_neg h1, if_neg h2]

/-- **A printed number is read back**, whatever non-digit follows it. -/
theorem strtoul_decimal {max n : Nat} (hn : n ≤ max) {r : List Byte}
    (hr : isDigit (r.headD 0) = false) : strtoul max (decimal n ++ r) = n := by
  obtain ⟨b, t, hbt⟩ := List.exists_cons_of_ne_nil (decimal_ne_nil n)
  have hb : isDigit b = true :=
    isDigit_of_mem_decimal (n := n) (by rw [hbt]; exact List.mem_cons_self)
  have hdrop : (decimal n ++ r).dropWhile isSpace = decimal n ++ r := by
    rw [hbt, List.cons_append, List.dropWhile_cons_of_neg (by rw [isSpace_digit hb]; simp)]
  have hsign : takeSign (decimal n ++ r) = (false, decimal n ++ r) := by
    rw [hbt, List.cons_append, takeSign_digit hb]
  unfold strtoul
  simp only [hdrop, hsign, leadingDigits_decimal n hr, digitsVal_decimal]
  rw [if_neg (by omega)]
  simp

/-! ## What `%wd` takes -/

/-- `text` is what `%wd` takes in front of `rest`: white space, a sign, and digits. Sign and digits are at
most `w` bytes, and as many as there are. -/
def Numeral (w : Nat) (text : List Byte) (v : Int) (rest : List Byte) : Prop :=
  ∃ blanks sign digits, text = blanks ++ (sign ++ digits) ∧ (∀ b ∈ blanks, isSpace b = true) ∧
    (sign = [] ∨ sign = [43] ∨ sign = [45]) ∧ digits ≠ [] ∧ (∀ b ∈ digits, isDigit b = true) ∧
    v = (if sign = [45] then -(digitsVal digits : Int) else digitsVal digits) ∧
    sign.length + digits.length ≤ w ∧
    (sign.length + digits.length = w ∨ isDigit (rest.headD 0) = false)

theorem isDigit_of_mem_leadingDigits {l : List Byte} {b : Byte} (h : b ∈ leadingDigits l) :
    isDigit b = true :=
  List.mem_takeWhile_imp h

/-- The digits among the first `n` bytes end there or at a byte that is no digit. -/
theorem leadingDigits_take (l : List Byte) (n : Nat) :
    l = leadingDigits (l.take n) ++ l.drop (leadingDigits (l.take n)).length ∧
      (leadingDigits (l.take n)).length ≤ n ∧ ((leadingDigits (l.take n)).length = n ∨
        isDigit ((l.drop (leadingDigits (l.take n)).length).headD 0) = false) := by
  induction l generalizing n with
  | nil =>
    rw [List.take_nil]
    exact ⟨rfl, Nat.zero_le n, Or.inr rfl⟩
  | cons b l ih =>
    cases n with
    | zero => exact ⟨rfl, Nat.le_refl 0, Or.inl rfl⟩
    | succ n =>
      rw [List.take_succ_cons]
      by_cases hb : isDigit b = true
      · have hcons : leadingDigits (b :: l.take n) = b :: leadingDigits (l.take n) :=
          List.takeWhile_cons_of_pos hb
        obtain ⟨hsplit, hle, hend⟩ := ih n
        rw [hcons, List.length_cons, List.drop_succ_cons, List.cons_append, ← hsplit]
        exact ⟨rfl, Nat.succ_le_succ hle, hend.imp_left (congrArg Nat.succ)⟩
      · have hnil : leadingDigits (b :: l.take n) = [] := List.takeWhile_cons_of_neg hb
        rw [hnil]
        exact ⟨rfl, Nat.zero_le _, Or.inr (Bool.not_eq_true _ ▸ hb)⟩

/-- Digits that fill the room, or that a non-digit follows. -/
theorem leadingDigits_room {digits rest : List Byte} {n : Nat} (hd : ∀ b ∈ digits, isDigit b = true)
    (hle : digits.length ≤ n) (hend : digits.length = n ∨ isDigit (rest.headD 0) = false) :
    leadingDigits ((digits ++ rest).take n) = digits := by
  have hstop : leadingDigits (rest.take (n - digits.length)) = [] := by
    cases rest with
    | nil => rw [List.take_nil]; rfl
    | cons b rest =>
      rcases hend with h | h
      · rw [h, Nat.sub_self]
        rfl
      · cases n - digits.length with
        | zero => rfl
        | succ k =>
          rw [List.take_succ_cons]
          exact List.takeWhile_cons_of_neg (by simpa using h)
  rw [List.take_append, List.take_of_length_le hle]
  unfold leadingDigits at hstop ⊢
  rw [List.takeWhile_append_of_pos hd, hstop, List.append_nil]

/-- The sign is the bytes `takeSign` takes. -/
theorem takeSign_spec (s : List Byte) : ∃ sign, (sign = [] ∨ sign = [43] ∨ sign = [45]) ∧
    s = sign ++ (takeSign s).2 ∧ ((takeSign s).1 = true ↔ sign = [45]) := by
  cases s with
  | nil => exact ⟨[], Or.inl rfl, rfl, by decide⟩
  | cons b t =>
    have htake : takeSign (b :: t) =
      if b = 45 then (true, t) else if b = 43 then (false, t) else (false, b :: t) := rfl
    rw [htake]
    by_cases h45 : b = 45
    · rw [if_pos h45]
      exact ⟨[45], Or.inr (Or.inr rfl), by rw [h45]; rfl, iff_of_true rfl rfl⟩
    rw [if_neg h45]
    by_cases h43 : b = 43
    · rw [if_pos h43]
      exact ⟨[43], Or.inr (Or.inl rfl), by rw [h43]; rfl, iff_of_false Bool.false_ne_true (by decide)⟩
    · rw [if_neg h43]
      exact ⟨[], Or.inl rfl, rfl, iff_of_false Bool.false_ne_true (by decide)⟩

theorem takeSign_append {sign digits : List Byte} (hs : sign = [] ∨ sign = [43] ∨ sign = [45])
    (hne : digits ≠ []) (hd : ∀ b ∈ digits, isDigit b = true) (rest : List Byte) :
    takeSign (sign ++ (digits ++ rest)) = (decide (sign = [45]), digits ++ rest) := by
  obtain ⟨b, t, rfl⟩ := List.exists_cons_of_ne_nil hne
  rcases hs with rfl | rfl | rfl
  · exact takeSign_digit (hd b List.mem_cons_self) (t ++ rest)
  · rfl
  · rfl

/-- Neither a sign nor a digit is white space. -/
theorem dropWhile_numeral {blanks sign digits : List Byte} (hb : ∀ b ∈ blanks, isSpace b = true)
    (hs : sign = [] ∨ sign = [43] ∨ sign = [45]) (hne : digits ≠ [])
    (hd : ∀ b ∈ digits, isDigit b = true) (rest : List Byte) :
    (blanks ++ (sign ++ (digits ++ rest))).dropWhile isSpace = sign ++ (digits ++ rest) := by
  rw [List.dropWhile_append_of_pos hb]
  obtain ⟨b, t, rfl⟩ := List.exists_cons_of_ne_nil hne
  rcases hs with rfl | rfl | rfl
  · exact List.dropWhile_cons_of_neg (by rw [isSpace_digit (hd b List.mem_cons_self)]; simp)
  · exact List.dropWhile_cons_of_neg (by decide)
  · exact List.dropWhile_cons_of_neg (by decide)

/-- **What `%wd` takes**, and its value. -/
theorem scanInt_iff {w : Nat} {s rest : List Byte} {v : Int} :
    scanInt w s = some (v, rest) ↔ ∃ text, s = text ++ rest ∧ Numeral w text v rest := by
  constructor
  · intro h
    obtain ⟨sign, hs, hsplit, hneg⟩ := takeSign_spec (s.dropWhile isSpace)
    have hblank := List.takeWhile_append_dropWhile (p := isSpace) (l := s)
    unfold scanInt at h
    dsimp only at h
    generalize hsigned : takeSign (s.dropWhile isSpace) = signed at h hsplit hneg
    have hlen := congrArg List.length hsplit
    rw [List.length_append] at hlen
    have hroom : (s.dropWhile isSpace).length - signed.2.length = sign.length := by omega
    rw [hroom] at h
    obtain ⟨hdigits, hle, hend⟩ := leadingDigits_take signed.2 (w - sign.length)
    generalize hds : leadingDigits (signed.2.take (w - sign.length)) = digits at h hdigits hle hend
    by_cases hne : digits = []
    · rw [if_pos hne] at h
      cases h
    rw [if_neg hne] at h
    obtain ⟨rfl, rfl⟩ := Prod.mk.inj (Option.some.inj h)
    have hpos := List.length_pos_of_ne_nil hne
    refine ⟨s.takeWhile isSpace ++ (sign ++ digits), ?_, s.takeWhile isSpace, sign, digits, rfl,
      fun b hb => List.mem_takeWhile_imp hb, hs, hne, ?_, ?_, by omega, ?_⟩
    · rw [List.append_assoc, List.append_assoc, ← hdigits, ← hsplit, hblank]
    · intro b hb
      rw [← hds] at hb
      exact isDigit_of_mem_leadingDigits hb
    · by_cases hminus : sign = [45]
      · rw [if_pos hminus, if_pos (hneg.mpr hminus)]
      · rw [if_neg hminus, if_neg fun h => hminus (hneg.mp h)]
    · exact hend.imp_left fun h => by omega
  · rintro ⟨text, rfl, blanks, sign, digits, rfl, hb, hs, hne, hd, rfl, hle, hend⟩
    have hdrop := dropWhile_numeral hb hs hne hd rest
    have hsign := takeSign_append hs hne hd rest
    have hroom : (sign ++ (digits ++ rest)).length - (digits ++ rest).length = sign.length := by
      rw [List.length_append]
      omega
    have hlead : leadingDigits ((digits ++ rest).take (w - sign.length)) = digits :=
      leadingDigits_room hd (by omega) (hend.imp_left fun h => by omega)
    unfold scanInt
    dsimp only
    rw [List.append_assoc, List.append_assoc, hdrop, hsign]
    dsimp only
    rw [hroom, hlead, if_neg hne, List.drop_left]
    simp only [decide_eq_true_eq]

/-- White space before a number is skipped once. -/
theorem scanInt_dropWhile (w : Nat) (s : List Byte) :
    scanInt w (s.dropWhile isSpace) = scanInt w s := by
  unfold scanInt
  rw [List.dropWhile_idempotent]

/-- Only the first byte after it matters. -/
theorem Numeral.congr {w : Nat} {text rest rest' : List Byte} {v : Int} (h : Numeral w text v rest)
    (hhead : rest'.headD 0 = rest.headD 0) : Numeral w text v rest' := by
  obtain ⟨blanks, sign, digits, htext, hb, hs, hne, hd, hv, hle, hend⟩ := h
  exact ⟨blanks, sign, digits, htext, hb, hs, hne, hd, hv, hle, by rwa [hhead]⟩

/-- There is one way to take a number. -/
theorem Numeral.unique {w : Nat} {text text' rest rest' : List Byte} {v v' : Int}
    (h : Numeral w text v rest) (h' : Numeral w text' v' rest') (hsame : text ++ rest = text' ++ rest') :
    text = text' ∧ rest = rest' ∧ v = v' := by
  have hscan : scanInt w (text ++ rest) = some (v, rest) := scanInt_iff.mpr ⟨text, rfl, h⟩
  have hscan' : scanInt w (text ++ rest) = some (v', rest') := scanInt_iff.mpr ⟨text', hsame, h'⟩
  obtain ⟨hv, hrest⟩ := Prod.mk.inj (Option.some.inj (hscan.symm.trans hscan'))
  rw [hrest] at hsame
  exact ⟨List.append_cancel_right hsame, hrest, hv⟩

/-! ## What `from_chars` takes -/

/-- A digit, or a minus sign and a digit. -/
def StartsNumber : List Byte → Prop
  | [] => False
  | b :: t => isDigit b = true ∨ b = 45 ∧ ∃ d u, t = d :: u ∧ isDigit d = true

theorem startsNumber_cons {b : Byte} {t : List Byte} : StartsNumber (b :: t) ↔
    isDigit b = true ∨ b = 45 ∧ ∃ d u, t = d :: u ∧ isDigit d = true := Iff.rfl

theorem foldl_digits_le {l : List Byte} (h : ∀ b ∈ l, isDigit b = true) (v : Nat) :
    l.foldl (fun v (b : Byte) => 10 * v + (b.toNat - 48)) v + 1 ≤ (v + 1) * 10 ^ l.length := by
  induction l generalizing v with
  | nil => simp
  | cons b l ih =>
    have hdigit := h b List.mem_cons_self
    simp only [isDigit, Bool.and_eq_true, decide_eq_true_eq, UInt8.le_iff_toNat_le] at hdigit
    have hle : b.toNat ≤ 57 := hdigit.2
    have hstep : 10 * v + (b.toNat - 48) + 1 ≤ (v + 1) * 10 := by omega
    have hmul := Nat.mul_le_mul_right (10 ^ l.length) hstep
    rw [List.foldl_cons, List.length_cons, Nat.pow_succ, Nat.mul_comm (10 ^ l.length) 10,
      ← Nat.mul_assoc]
    exact Nat.le_trans (ih (fun c hc => h c (List.mem_cons_of_mem _ hc)) _) hmul

/-- A number of `k` digits is below `10 ^ k`. -/
theorem digitsVal_lt {l : List Byte} (h : ∀ b ∈ l, isDigit b = true) : digitsVal l < 10 ^ l.length := by
  have hle := foldl_digits_le h 0
  unfold digitsVal
  omega

/-- A minus sign takes one of the places. -/
theorem Numeral.lower {w : Nat} {text rest : List Byte} {v : Int} (h : Numeral (w + 1) text v rest) :
    -(10 ^ w : Nat) < v := by
  obtain ⟨blanks, sign, digits, -, -, -, -, hdigits, hv, hroom, -⟩ := h
  have hlt := digitsVal_lt hdigits
  split at hv
  · rename_i hminus
    subst hminus
    have hpow : 10 ^ digits.length ≤ 10 ^ w := by
      refine Nat.pow_le_pow_right (by decide) ?_
      have hlength : [45].length + digits.length ≤ w + 1 := hroom
      simp only [List.length_singleton] at hlength
      omega
    omega
  · have hpos := Nat.pow_pos (n := w) (by decide : 0 < 10)
    omega

theorem foldl_digits_shift (l : List Byte) (v : Nat) :
    l.foldl (fun v (b : Byte) => 10 * v + (b.toNat - 48)) v =
      v * 10 ^ l.length + l.foldl (fun v (b : Byte) => 10 * v + (b.toNat - 48)) 0 := by
  induction l generalizing v with
  | nil => simp
  | cons b l ih =>
    rw [List.foldl_cons, List.foldl_cons, ih (10 * v + (b.toNat - 48)), ih (10 * 0 + (b.toNat - 48)),
      List.length_cons, Nat.pow_succ]
    grind

/-- The digits after the first ones count below them. -/
theorem digitsVal_append (l r : List Byte) :
    digitsVal (l ++ r) = digitsVal l * 10 ^ r.length + digitsVal r := by
  unfold digitsVal
  rw [List.foldl_append]
  exact foldl_digits_shift r _

theorem leadingDigits_ne_nil_iff {l : List Byte} :
    leadingDigits l ≠ [] ↔ ∃ d u, l = d :: u ∧ isDigit d = true := by
  cases l with
  | nil => exact iff_of_false (fun h => h rfl) nofun
  | cons b t =>
    unfold leadingDigits
    by_cases hb : isDigit b = true
    · rw [List.takeWhile_cons_of_pos hb]
      exact iff_of_true (List.cons_ne_nil _ _) ⟨b, t, rfl, hb⟩
    · rw [List.takeWhile_cons_of_neg hb]
      refine iff_of_false (fun h => h rfl) ?_
      rintro ⟨d, u, heq, hd⟩
      rw [(List.cons.inj heq).1] at hb
      exact hb hd

/-- The value of the digits at the start of a text of at most seven bytes fits an `int`. -/
theorem leadingDigits_lt {l : List Byte} (h : l.length ≤ 7) :
    digitsVal (leadingDigits l) < 10000000 := by
  have hlt := digitsVal_lt (l := leadingDigits l) fun b hb => isDigit_of_mem_leadingDigits hb
  have hlen : (leadingDigits l).length ≤ 7 :=
    Nat.le_trans (List.takeWhile_prefix isDigit).length_le h
  exact Nat.lt_of_lt_of_le hlt (Nat.pow_le_pow_right (by decide) hlen)

/-- What `from_chars` does after the sign. -/
def readInt (minus : Bool) (s : List Byte) : Option Int :=
  let v : Int := if minus then -(digitsVal (leadingDigits s) : Int) else digitsVal (leadingDigits s)
  if leadingDigits s = [] then none else if -2147483648 ≤ v ∧ v ≤ 2147483647 then some v else none

theorem fromChars_minus (s : List Byte) : fromChars (45 :: s) = readInt true s := rfl

theorem fromChars_cons {b : Byte} (h : b ≠ 45) (s : List Byte) :
    fromChars (b :: s) = readInt false (b :: s) := by
  unfold fromChars readInt
  simp only [if_neg h]

theorem readInt_ne_none_iff {s : List Byte} (hs : s.length ≤ 7) (minus : Bool) :
    readInt minus s ≠ none ↔ ∃ d u, s = d :: u ∧ isDigit d = true := by
  rw [← leadingDigits_ne_nil_iff]
  have hlt := leadingDigits_lt hs
  unfold readInt
  by_cases hne : leadingDigits s = []
  · rw [if_pos hne]
    exact iff_of_false (fun h => h rfl) (fun h => h hne)
  · rw [if_neg hne, if_pos (by cases minus <;> simp <;> omega)]
    exact iff_of_true (Option.some_ne_none _) hne

/-- In a text of at most seven bytes `from_chars` refuses no number. -/
theorem fromChars_ne_none_iff {s : List Byte} (hs : s.length ≤ 7) :
    fromChars s ≠ none ↔ StartsNumber s := by
  cases s with
  | nil => exact iff_of_false (fun h => h rfl) id
  | cons b t =>
    rw [startsNumber_cons]
    by_cases h45 : b = 45
    · have ht : t.length ≤ 7 := by
        rw [List.length_cons] at hs
        omega
      have hminus : isDigit b ≠ true := by rw [h45]; decide
      rw [or_iff_right hminus, and_iff_right h45, h45, fromChars_minus, readInt_ne_none_iff ht]
    · rw [fromChars_cons h45, readInt_ne_none_iff hs]
      simp [h45]

/-- Digits are read as their value. -/
theorem fromChars_digits {s : List Byte} (hs : s.length ≤ 7) (hne : s ≠ [])
    (hd : ∀ b ∈ s, isDigit b = true) : fromChars s = some (digitsVal s : Int) := by
  have hlead : leadingDigits s = s := List.takeWhile_eq_self_iff.mpr hd
  have hlt := leadingDigits_lt hs
  rw [hlead] at hlt
  obtain ⟨b, t, rfl⟩ := List.exists_cons_of_ne_nil hne
  have h45 : b ≠ 45 := by
    rintro rfl
    exact absurd (hd 45 List.mem_cons_self) (by decide)
  rw [fromChars_cons h45]
  unfold readInt
  rw [hlead, if_neg hne]
  exact if_pos (by simp; omega)

end GenLogger.Lib
