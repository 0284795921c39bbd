import Mathlib.Data.List.Basic
import Mathlib.Data.Nat.Bitwise
import Mathlib.Logic.Function.Iterate

/-!
# Cyclic redundancy checks

A register of `w` bits, the most significant one first, and a generator `poly` without its highest
bit. A word is absorbed by `w` shifts.

Results:
* `crc_xor`: what is absorbed is linear, so two messages of one length have the same check as one
  another exactly if the check of their difference, from `0`, is `0`.
* `crc_seal`: a message with its own check behind it leaves `0`, and one with another check does not.
* `crc_burst`: an error of at most `w` bits in a row is found, wherever it starts, for any generator
  whose lowest bit is set.
-/

namespace GenLogger.Lib.Crc

variable {w : Nat} {poly : BitVec w}

/-- One shift of the register. -/
def shift (poly r : BitVec w) : BitVec w := if r.msb then r <<< 1 ^^^ poly else r <<< 1

/-- A word is added, and shifted through. -/
def absorb (poly r b : BitVec w) : BitVec w := (shift poly)^[w] (r ^^^ b)

/-- The register after the words of `l`. -/
def crc (poly init : BitVec w) (l : List (BitVec w)) : BitVec w := l.foldl (absorb poly) init

/-! ## The register -/

@[simp] theorem shift_zero (poly : BitVec w) : shift poly 0#w = 0#w := by
  simp [shift]

theorem xor_xor_xor_comm (a b c d : BitVec w) : a ^^^ b ^^^ (c ^^^ d) = a ^^^ c ^^^ (b ^^^ d) := by
  ac_rfl

theorem shift_xor (a b : BitVec w) : shift poly (a ^^^ b) = shift poly a ^^^ shift poly b := by
  have hshift : (a ^^^ b) <<< 1 = a <<< 1 ^^^ b <<< 1 := BitVec.shiftLeft_xor_distrib a b 1
  unfold shift
  rw [BitVec.msb_xor, hshift]
  cases a.msb <;> cases b.msb
  · simp
  · simp [BitVec.xor_assoc]
  · simp
    ac_rfl
  · have hcancel := xor_xor_xor_comm (a <<< 1) poly (b <<< 1) poly
    simp [hcancel]

theorem iterate_shift_zero (n : Nat) : (shift poly)^[n] 0#w = 0#w :=
  Function.iterate_fixed (shift_zero poly) n

theorem iterate_shift_xor (n : Nat) (a b : BitVec w) :
    (shift poly)^[n] (a ^^^ b) = (shift poly)^[n] a ^^^ (shift poly)^[n] b := by
  induction n generalizing a b with
  | zero => rfl
  | succ n ih => rw [Function.iterate_succ_apply, shift_xor, ih, ← Function.iterate_succ_apply,
      ← Function.iterate_succ_apply]

/-- With a generator that has a lowest bit nothing is lost. -/
theorem shift_eq_zero_iff (hodd : poly.getLsbD 0 = true) {r : BitVec w} : shift poly r = 0#w ↔ r = 0#w := by
  refine ⟨fun h => ?_, fun h => h ▸ shift_zero poly⟩
  unfold shift at h
  split at h
  · have hbit := congrArg (BitVec.getLsbD · 0) h
    simp [hodd] at hbit
  · next hmsb =>
    have hlt := BitVec.msb_eq_false_iff_two_mul_lt.mp (Bool.not_eq_true _ ▸ hmsb)
    have hzero := congrArg BitVec.toNat h
    rw [BitVec.toNat_shiftLeft, Nat.shiftLeft_eq, Nat.pow_one, Nat.mul_comm,
      Nat.mod_eq_of_lt hlt] at hzero
    replace hzero : 2 * r.toNat = 0 := hzero
    refine BitVec.eq_of_toNat_eq ?_
    change r.toNat = 0
    omega

theorem iterate_shift_eq_zero_iff (hodd : poly.getLsbD 0 = true) (n : Nat) {r : BitVec w} :
    (shift poly)^[n] r = 0#w ↔ r = 0#w := by
  induction n generalizing r with
  | zero => rfl
  | succ n ih => rw [Function.iterate_succ_apply, ih, shift_eq_zero_iff hodd]

/-- As long as the highest bits are not set, a register is only shifted. -/
theorem iterate_shift_of_lt {n : Nat} {r : BitVec w} (h : r.toNat * 2 ^ n < 2 ^ w) :
    (shift poly)^[n] r = r <<< n := by
  induction n with
  | zero => rw [BitVec.shiftLeft_zero, Function.iterate_zero_apply]
  | succ n ih =>
    rw [Nat.pow_succ, ← Nat.mul_assoc] at h
    have hlt : r.toNat * 2 ^ n < 2 ^ w := by omega
    have hmsb : (r <<< n).msb = false := by
      rw [BitVec.msb_eq_false_iff_two_mul_lt, BitVec.toNat_shiftLeft, Nat.shiftLeft_eq, Nat.mod_eq_of_lt hlt]
      omega
    rw [Function.iterate_succ_apply', ih hlt, shift, hmsb, BitVec.shiftLeft_add]
    rfl

theorem absorb_zero_right (r : BitVec w) : absorb poly r 0#w = (shift poly)^[w] r := by
  rw [absorb, BitVec.xor_zero]

/-! ## Messages -/

variable {init : BitVec w} {l m : List (BitVec w)}

@[simp] theorem crc_nil (poly init : BitVec w) : crc poly init [] = init := rfl

@[simp] theorem crc_cons (poly init b : BitVec w) (l : List (BitVec w)) :
    crc poly init (b :: l) = crc poly (absorb poly init b) l := rfl

theorem crc_append (poly init : BitVec w) (l m : List (BitVec w)) :
    crc poly init (l ++ m) = crc poly (crc poly init l) m := List.foldl_append

/-- The check of a difference. -/
theorem crc_xor (init init' : BitVec w) (h : l.length = m.length) :
    crc poly (init ^^^ init') (List.zipWith (· ^^^ ·) l m) = crc poly init l ^^^ crc poly init' m := by
  induction l generalizing m init init' with
  | nil =>
    obtain rfl := List.length_eq_zero_iff.mp h.symm
    rfl
  | cons a l ih =>
    obtain ⟨b, m, rfl⟩ := List.exists_cons_of_length_eq_add_one h.symm
    rw [List.zipWith_cons_cons, crc_cons, crc_cons, crc_cons, ← ih _ _ (Nat.succ.inj h)]
    unfold absorb
    rw [xor_xor_xor_comm, iterate_shift_xor]

/-- A message is as long as it is with zeros before it. -/
theorem crc_replicate (poly : BitVec w) (n : Nat) : crc poly 0#w (List.replicate n 0#w) = 0#w := by
  induction n with
  | zero => rfl
  | succ n ih => rw [List.replicate_succ, crc_cons, absorb_zero_right, iterate_shift_zero, ih]

theorem crc_replicate_eq_zero_iff (hodd : poly.getLsbD 0 = true) (n : Nat) :
    crc poly init (List.replicate n 0#w) = 0#w ↔ init = 0#w := by
  induction n generalizing init with
  | zero => rfl
  | succ n ih =>
    rw [List.replicate_succ, crc_cons, ih, absorb_zero_right, iterate_shift_eq_zero_iff hodd]

/-- A message with its own check behind it, and with no other one, leaves `0`. -/
theorem crc_seal (hodd : poly.getLsbD 0 = true) {c : BitVec w} :
    crc poly init (l ++ [c]) = 0#w ↔ crc poly init l = c := by
  rw [crc_append, crc_cons, crc_nil, absorb, iterate_shift_eq_zero_iff hodd, BitVec.xor_eq_zero_iff]

/-! ## Errors -/

/-- The bits of `p` from the bit `k` of the word `i` on, in a message of `i + n + 2` words. -/
def burst (i k n : Nat) (p : BitVec w) : List (BitVec w) :=
  List.replicate i 0#w ++ p >>> k :: p <<< (w - k) :: List.replicate n 0#w

@[simp] theorem length_burst (i k n : Nat) (p : BitVec w) : (burst i k n p).length = i + n + 2 := by
  simp only [burst, List.length_append, List.length_replicate, List.length_cons]
  omega

/-- The bits of a word, and those below them. -/
theorem shifts_xor {k : Nat} (hk : k ≤ w) (p : BitVec w) :
    p >>> k <<< k ^^^ p <<< (w - k) >>> (w - k) = p := by
  refine BitVec.eq_of_getLsbD_eq fun i hi => ?_
  simp only [BitVec.getLsbD_xor, BitVec.getLsbD_shiftLeft, BitVec.getLsbD_ushiftRight]
  by_cases hik : i < k
  · have hin : w - k + i < w := by omega
    simp [hi, hik, hin]
  · have hin : ¬ w - k + i < w := by omega
    have hki : k + (i - k) = i := by omega
    simp [hi, hik, hin, hki]

/-- The two words of a burst are shifted in as one. -/
theorem absorb_burst {k : Nat} (hk : k ≤ w) (p : BitVec w) :
    absorb poly (absorb poly 0#w (p >>> k)) (p <<< (w - k)) = (shift poly)^[w + (w - k)] p := by
  have hhigh : (shift poly)^[k] (p >>> k) = p >>> k <<< k := by
    refine iterate_shift_of_lt ?_
    rw [BitVec.toNat_ushiftRight, Nat.shiftRight_eq_div_pow]
    exact Nat.lt_of_le_of_lt (Nat.div_mul_le_self _ _) p.isLt
  have hlow : (shift poly)^[w - k] (p <<< (w - k) >>> (w - k)) = p <<< (w - k) := by
    rw [iterate_shift_of_lt]
    · refine BitVec.eq_of_getLsbD_eq fun i hi => ?_
      simp only [BitVec.getLsbD_shiftLeft, BitVec.getLsbD_ushiftRight]
      by_cases hik : i < w - k
      · simp [hik]
      · have hki : w - k + (i - (w - k)) = i := by omega
        simp [hi, hik, hki]
    · rw [BitVec.toNat_ushiftRight, Nat.shiftRight_eq_div_pow]
      exact Nat.lt_of_le_of_lt (Nat.div_mul_le_self _ _) (BitVec.isLt _)
  have hsplit : w = w - k + k := (Nat.sub_add_cancel hk).symm
  have hword : absorb poly 0#w (p >>> k) = (shift poly)^[w - k] (p >>> k <<< k) := by
    rw [absorb, BitVec.zero_xor, ← hhigh, ← Function.iterate_add_apply, ← hsplit]
  rw [hword, absorb, ← hlow, ← iterate_shift_xor, shifts_xor hk, ← Function.iterate_add_apply]

/-- An error of at most `w` bits in a row does not go unseen. -/
theorem crc_burst (hodd : poly.getLsbD 0 = true) {i k n : Nat} (hk : k ≤ w) {p : BitVec w} :
    crc poly 0#w (burst i k n p) = 0#w ↔ p = 0#w := by
  rw [burst, crc_append, crc_replicate, crc_cons, crc_cons, absorb_burst hk,
    crc_replicate_eq_zero_iff hodd, iterate_shift_eq_zero_iff hodd]

end GenLogger.Lib.Crc
