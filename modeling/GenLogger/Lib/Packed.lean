import Mathlib.Data.Nat.Bitwise
import Mathlib.Logic.Function.Basic

/-!
# Tables of numbers packed in bytes

Numbers of 12, 16 or 28 bits one behind the other in bytes (`b`), little-endian. Two numbers of 12
bits share the byte between them, and a number of 28 bits has four bits above it that are not its own.

Results:
* `entry12_put`, and its likes for the other widths: what the bytes of one number are to be for it to
  be `v`, and that the other numbers do not notice.
* `entry12_put_first`, `entry12_put_second`: one byte of a number of 12 bits is written, and the other
  is not; only this number notices.
* `replace_low28`: the four bits above a number stay when it is replaced.
-/

namespace GenLogger.Lib.Packed

variable {b : Nat → UInt8} {c c' v : Nat}

/-- The `c`-th number of 12 bits: one of two that share three bytes. -/
def entry12 (b : Nat → UInt8) (c : Nat) : Nat :=
  if c % 2 = 1 then (b (c + c / 2)).toNat / 16 + 16 * (b (c + c / 2 + 1)).toNat
  else (b (c + c / 2)).toNat + 256 * ((b (c + c / 2 + 1)).toNat % 16)

/-- The `c`-th number of 16 bits. -/
def entry16 (b : Nat → UInt8) (c : Nat) : Nat := (b (2 * c)).toNat + 256 * (b (2 * c + 1)).toNat

/-- The four bytes at `i` as a number. -/
def word32 (b : Nat → UInt8) (i : Nat) : Nat :=
  (b i).toNat + 256 * (b (i + 1)).toNat + 65536 * (b (i + 2)).toNat + 16777216 * (b (i + 3)).toNat

/-- The `c`-th number of 28 bits, in four bytes. -/
def entry28 (b : Nat → UInt8) (c : Nat) : Nat := word32 b (4 * c) % 268435456

/-! ## Bits -/

/-- A low part below a shifted high part. -/
theorem shiftLeft_or_eq {lo k : Nat} (hi : Nat) (hlo : lo < 2 ^ k) :
    hi <<< k ||| lo = lo + 2 ^ k * hi := by
  rw [← Nat.shiftLeft_add_eq_or_of_lt hlo, Nat.shiftLeft_eq, Nat.add_comm, Nat.mul_comm]

theorem and_low (x k : Nat) : x &&& (2 ^ k - 1) = x % 2 ^ k := Nat.and_two_pow_sub_one_eq_mod x k

/-- A mask of the `m` bits from `k` on, where there are no bits above them. -/
theorem and_high {x k m : Nat} (hx : x / 2 ^ k < 2 ^ m) :
    x &&& (2 ^ m - 1) <<< k = (x / 2 ^ k) <<< k := by
  have hsplit : x = x % 2 ^ k ||| (x / 2 ^ k) <<< k := by
    rw [Nat.or_comm, shiftLeft_or_eq _ (Nat.mod_lt x (Nat.two_pow_pos k)), Nat.mod_add_div]
  have hlow : x % 2 ^ k &&& (2 ^ m - 1) <<< k = 0 := by
    rw [← and_low, Nat.and_assoc, Nat.and_comm (2 ^ k - 1), and_low, Nat.shiftLeft_eq,
      Nat.mul_mod_left, Nat.and_zero]
  conv_lhs => rw [hsplit, Nat.and_or_distrib_right, hlow, Nat.zero_or]
  rw [← Nat.shiftLeft_and_distrib, and_low, Nat.mod_eq_of_lt hx]

/-- The high four bits of a byte and four bits below them. -/
theorem high_or_low {x y : Nat} (hx : x < 256) (hy : y < 16) :
    x &&& 0xF0 ||| y = x / 16 * 16 + y := by
  have hhigh : x &&& 0xF0 = (x / 2 ^ 4) <<< 4 := and_high (show x / 2 ^ 4 < 2 ^ 4 by omega)
  rw [hhigh, shiftLeft_or_eq _ (show y < 2 ^ 4 from hy)]
  omega

/-- The low four bits of a byte and bits above them. -/
theorem low_or_high (x y : Nat) : x &&& 0x0F ||| y <<< 4 = x % 16 + 16 * y := by
  have hlow : x &&& 0x0F = x % 16 := and_low x 4
  rw [hlow, Nat.or_comm]
  exact shiftLeft_or_eq y (Nat.mod_lt x (by decide))

/-- Four bytes, one shifted over the other. -/
theorem shifts_eq (b : Nat → UInt8) (i : Nat) :
    (((b (i + 3)).toNat <<< 8 ||| (b (i + 2)).toNat) <<< 8 ||| (b (i + 1)).toNat) <<< 8 |||
      (b i).toNat = word32 b i := by
  have hlt := fun i => (b i).toNat_lt
  rw [shiftLeft_or_eq _ (hlt _), shiftLeft_or_eq _ (hlt _), shiftLeft_or_eq _ (hlt _), word32]
  omega

/-- The four bits above a number stay when it is replaced. -/
theorem replace_low28 {d : Nat} (hd : d < 4294967296) (v : Nat) :
    v &&& 0x0FFFFFFF ||| d &&& 0xF0000000 = v % 268435456 + 268435456 * (d / 268435456) := by
  have hlow : v &&& 0x0FFFFFFF = v % 2 ^ 28 := and_low v 28
  have hhigh : d &&& 0xF0000000 = (d / 2 ^ 28) <<< 28 :=
    and_high (show d / 2 ^ 28 < 2 ^ 4 by omega)
  rw [hlow, hhigh, Nat.or_comm]
  exact shiftLeft_or_eq _ (Nat.mod_lt v (by decide))

/-! ## Writing one number -/

/-- The first byte of the number `c` is written. Only `c` notices. -/
theorem entry12_put_first {x : UInt8} (hc : c' ≠ c)
    (hx : c % 2 = 1 → x.toNat % 16 = (b (c + c / 2)).toNat % 16) :
    entry12 (Function.update b (c + c / 2) x) c' = entry12 b c' := by
  unfold entry12
  by_cases hodd : c' % 2 = 1
  · have h₁ : c' + c' / 2 ≠ c + c / 2 := by omega
    have h₂ : c' + c' / 2 + 1 ≠ c + c / 2 := by omega
    rw [if_pos hodd, if_pos hodd, Function.update_of_ne h₁, Function.update_of_ne h₂]
  · have h₁ : c' + c' / 2 ≠ c + c / 2 := by omega
    rw [if_neg hodd, if_neg hodd, Function.update_of_ne h₁]
    by_cases h₂ : c' + c' / 2 + 1 = c + c / 2
    · rw [h₂, Function.update_self, hx (by omega)]
    · rw [Function.update_of_ne h₂]

/-- The second byte. -/
theorem entry12_put_second {x : UInt8} (hc : c' ≠ c)
    (hx : c % 2 = 0 → x.toNat / 16 = (b (c + c / 2 + 1)).toNat / 16) :
    entry12 (Function.update b (c + c / 2 + 1) x) c' = entry12 b c' := by
  unfold entry12
  by_cases hodd : c' % 2 = 1
  · have h₂ : c' + c' / 2 + 1 ≠ c + c / 2 + 1 := by omega
    rw [if_pos hodd, if_pos hodd, Function.update_of_ne h₂]
    by_cases h₁ : c' + c' / 2 = c + c / 2 + 1
    · rw [h₁, Function.update_self, hx (by omega)]
    · rw [Function.update_of_ne h₁]
  · have h₁ : c' + c' / 2 ≠ c + c / 2 + 1 := by omega
    have h₂ : c' + c' / 2 + 1 ≠ c + c / 2 + 1 := by omega
    rw [if_neg hodd, if_neg hodd, Function.update_of_ne h₁, Function.update_of_ne h₂]

/-- Both bytes. -/
theorem entry12_put {b' : Nat → UInt8}
    (hfirst : (b' (c + c / 2)).toNat =
      if c % 2 = 1 then (b (c + c / 2)).toNat % 16 + 16 * (v % 16) else v % 256)
    (hsecond : (b' (c + c / 2 + 1)).toNat =
      if c % 2 = 1 then v / 16 % 256 else (b (c + c / 2 + 1)).toNat / 16 * 16 + v / 256 % 16) :
    entry12 b' c = v % 4096 := by
  unfold entry12
  rw [hfirst, hsecond]
  by_cases hodd : c % 2 = 1
  · simp only [if_pos hodd]
    omega
  · simp only [if_neg hodd]
    omega

theorem entry16_put {b' : Nat → UInt8} (h₀ : (b' (2 * c)).toNat = v % 256)
    (h₁ : (b' (2 * c + 1)).toNat = v / 256 % 256) : entry16 b' c = v % 65536 := by
  unfold entry16
  omega

/-- Numbers in other bytes do not notice. -/
theorem entry16_congr {b' : Nat → UInt8} (h : ∀ j < 2, b' (2 * c + j) = b (2 * c + j)) :
    entry16 b' c = entry16 b c := by
  unfold entry16
  rw [h 1 (by decide), show b' (2 * c) = b (2 * c) from h 0 (by decide)]

theorem word32_put {b' : Nat → UInt8} {i : Nat} (hv : v < 4294967296)
    (h₀ : (b' i).toNat = v % 256) (h₁ : (b' (i + 1)).toNat = v / 256 % 256)
    (h₂ : (b' (i + 2)).toNat = v / 65536 % 256) (h₃ : (b' (i + 3)).toNat = v / 16777216 % 256) :
    word32 b' i = v := by
  unfold word32
  omega

theorem word32_congr {b' : Nat → UInt8} {i : Nat} (h : ∀ j < 4, b' (i + j) = b (i + j)) :
    word32 b' i = word32 b i := by
  unfold word32
  rw [h 1 (by decide), h 2 (by decide), h 3 (by decide), show b' i = b i from h 0 (by decide)]

theorem word32_lt (b : Nat → UInt8) (i : Nat) : word32 b i < 4294967296 := by
  have hlt := fun i => (b i).toNat_lt
  have h₀ := hlt i
  have h₁ := hlt (i + 1)
  have h₂ := hlt (i + 2)
  have h₃ := hlt (i + 3)
  unfold word32
  omega

end GenLogger.Lib.Packed
