import GenLogger.SdCard.Initialize
import GenLogger.SdCard.Read
import Mathlib.Tactic.Ring

/-!
# The capacity of a card

`GET_SECTOR_COUNT` asks for the CSD register and computes the number of sectors from its fields.

* `Csd.capacity` is what the register says, by the standard's fields; `Csd.Standard` are the registers
  of version 2, and those of version 1 with a block length that the standard allows.
* `Csd.NoOverflow` is that the sums of the code fit their variables.
* `CsdAnswer` is a card that sends the register in time and intact.

The code takes the size of a version 2 card from bytes 8 and 9, and leaves out the six bits of it that
are in byte 7. The sum with `1` is kept in a `WORD` too.

Results:
* `sectorCount_one`, `sectorCount_two`: what the code computes for the two versions.
* `getCount_answer`: the register is received, and what is computed from it stored.
* `sectorCount_iff`: the capacity is stored, without an overflow on the way, except for the cards of
  version 2 whose `C_SIZE + 1` does not fit 16 bits, which are those of 32 GiB and more.
-/

namespace GenLogger.SdCard

open GenLogger.Lib

/-! ## The register -/

/-- A CSD register. -/
structure Csd where
  bytes : List UInt8
  hbytes : bytes.length = 16

namespace Csd

/-- The value of a byte. -/
def reg (c : Csd) (i : Nat) : Nat := (c.bytes.getD i 0).toNat

theorem reg_lt (c : Csd) (i : Nat) : c.reg i < 256 := (c.bytes.getD i 0).toNat_lt

/-- `CSD_STRUCTURE`: `0` for version 1, `1` for version 2. -/
def structureField (c : Csd) : Nat := c.reg 0 / 2 ^ 6

/-- `READ_BL_LEN`. -/
def readBlLen (c : Csd) : Nat := c.reg 5 % 2 ^ 4

/-- `C_SIZE` of version 1. -/
def cSize₁ (c : Csd) : Nat := c.reg 6 % 2 ^ 2 * 2 ^ 10 + c.reg 7 * 2 ^ 2 + c.reg 8 / 2 ^ 6

/-- `C_SIZE_MULT` of version 1. -/
def cSizeMult (c : Csd) : Nat := c.reg 9 % 2 ^ 2 * 2 + c.reg 10 / 2 ^ 7

/-- `C_SIZE` of version 2. -/
def cSize₂ (c : Csd) : Nat := c.reg 7 % 2 ^ 6 * 2 ^ 16 + c.reg 8 * 2 ^ 8 + c.reg 9

/-- The number of sectors. -/
def capacity (c : Csd) : Nat :=
  if c.structureField = 1 then (c.cSize₂ + 1) * 1024
  else (c.cSize₁ + 1) * 2 ^ (c.cSizeMult + 2) * 2 ^ c.readBlLen / 512

/-- A register of version 2, or one of version 1 with a block length that the standard allows. -/
def Standard (c : Csd) : Prop :=
  c.structureField = 1 ∨ c.structureField = 0 ∧ 9 ≤ c.readBlLen ∧ c.readBlLen ≤ 11

/-- What the code adds up fits the variable it is kept in: `csize`, of 16 bits, and `n`, of 8. -/
def NoOverflow (c : Csd) : Prop :=
  if c.structureField = 1 then c.reg 9 + c.reg 8 * 2 ^ 8 + 1 < 2 ^ 16
  else c.readBlLen + c.reg 10 / 2 ^ 7 + c.reg 9 % 2 ^ 2 * 2 + 2 < 2 ^ 8 ∧
    c.reg 8 / 2 ^ 6 + c.reg 7 * 2 ^ 2 + c.reg 6 % 2 ^ 2 * 2 ^ 10 + 1 < 2 ^ 16

/-- `C_SIZE + 1` fits the `WORD` that the code has for it. -/
def Fits (c : Csd) : Prop := c.structureField = 1 → c.cSize₂ + 1 < 2 ^ 16

instance (c : Csd) : Decidable c.Standard := inferInstanceAs (Decidable (_ ∨ _))
instance (c : Csd) : Decidable c.Fits := inferInstanceAs (Decidable (_ → _))

theorem cSize₁_lt (c : Csd) : c.cSize₁ < 2 ^ 12 := by
  have h₇ := c.reg_lt 7
  have h₈ := c.reg_lt 8
  unfold cSize₁
  omega

theorem cSizeMult_lt (c : Csd) : c.cSizeMult < 2 ^ 3 := by
  have h₁₀ := c.reg_lt 10
  unfold cSizeMult
  omega

/-- The sectors of a card of version 1, in the code's order: `512` is divided out first. -/
theorem capacity_old {c : Csd} (h : c.structureField ≠ 1) (hlen : 9 ≤ c.readBlLen) :
    c.capacity = (c.cSize₁ + 1) * 2 ^ (c.readBlLen + c.cSizeMult + 2 - 9) := by
  obtain ⟨k, hk⟩ := Nat.exists_eq_add_of_le hlen
  have hpow : 2 ^ (c.cSizeMult + 2) * 2 ^ c.readBlLen = 2 ^ (c.cSizeMult + 2 + k) * 512 := by
    rw [hk, ← Nat.pow_add, show c.cSizeMult + 2 + (9 + k) = c.cSizeMult + 2 + k + 9 by omega, Nat.pow_add _ _ 9]
  have hexp : c.readBlLen + c.cSizeMult + 2 - 9 = c.cSizeMult + 2 + k := by omega
  rw [capacity, if_neg h, Nat.mul_assoc, hpow, ← Nat.mul_assoc, Nat.mul_div_cancel _ (by decide), hexp]

end Csd

/-! ## What the code computes -/

theorem toNat_and_low (x : UInt8) :
    (x &&& 15).toNat = x.toNat % 2 ^ 4 ∧ (x &&& 3).toNat = x.toNat % 2 ^ 2 :=
  ⟨(UInt8.toNat_and _ _).trans (Nat.and_two_pow_sub_one_eq_mod _ 4),
    (UInt8.toNat_and _ _).trans (Nat.and_two_pow_sub_one_eq_mod _ 2)⟩

theorem toNat_high (x : UInt8) :
    (x >>> 6).toNat = x.toNat / 2 ^ 6 ∧ ((x &&& 128) >>> 7).toNat = x.toNat / 2 ^ 7 := by
  have hbits : ∀ x : BitVec 8, ((UInt8.ofBitVec x) >>> 6).toNat = (UInt8.ofBitVec x).toNat / 2 ^ 6 ∧
      ((UInt8.ofBitVec x &&& 128) >>> 7).toNat = (UInt8.ofBitVec x).toNat / 2 ^ 7 := by
    decide +kernel
  exact hbits x.toBitVec

/-- A byte that is shifted in a `WORD` and fits it. -/
theorem toNat_shifted {x : UInt8} {k : UInt16} (hk : k.toNat < 16) (hfits : x.toNat * 2 ^ k.toNat < 2 ^ 16) :
    (x.toUInt16 <<< k).toNat = x.toNat * 2 ^ k.toNat := by
  rw [UInt16.toNat_shiftLeft, UInt8.toNat_toUInt16, Nat.mod_eq_of_lt hk, Nat.shiftLeft_eq,
    Nat.mod_eq_of_lt hfits]

theorem version_iff (c : Csd) : c.bytes.getD 0 0 >>> 6 = 1 ↔ c.structureField = 1 := by
  rw [← UInt8.toNat_inj, (toNat_high _).1]
  rfl

/-- Version 2: the low 16 bits of `C_SIZE`, and `1`, in 16 bits. -/
theorem sectorCount_two {c : Csd} (h : c.structureField = 1) :
    (sectorCount c.bytes).toNat = (c.cSize₂ + 1) % 2 ^ 16 * 1024 := by
  have hlt₈ := c.reg_lt 8
  have h₈ : ((c.bytes.getD 8 0).toUInt16 <<< 8).toNat = c.reg 8 * 2 ^ 8 :=
    toNat_shifted (by decide) (by show c.reg 8 * 2 ^ 8 < 2 ^ 16; omega)
  have hsum : ((c.bytes.getD 9 0).toUInt16 + ((c.bytes.getD 8 0).toUInt16 <<< 8) + 1).toNat =
      (c.cSize₂ + 1) % 2 ^ 16 := by
    rw [UInt16.toNat_add, UInt16.toNat_add, h₈, UInt8.toNat_toUInt16]
    show ((c.reg 9 + c.reg 8 * 2 ^ 8) % 2 ^ 16 + 1) % 2 ^ 16 = _
    unfold Csd.cSize₂
    omega
  unfold sectorCount
  simp only [if_pos ((version_iff c).mpr h)]
  rw [UInt32.toNat_shiftLeft, UInt16.toNat_toUInt32, hsum, Nat.shiftLeft_eq]
  show _ * 2 ^ 10 % 2 ^ 32 = _
  omega

/-- `n` of version 1. -/
theorem toNat_shiftCount (c : Csd) :
    ((c.bytes.getD 5 0 &&& 15 : UInt8) + ((c.bytes.getD 10 0 &&& 128 : UInt8) >>> 7) +
      ((c.bytes.getD 9 0 &&& 3 : UInt8) <<< 1) + 2).toNat = c.readBlLen + c.cSizeMult + 2 := by
  have hlen := (toNat_and_low (c.bytes.getD 5 0)).1
  have hmult := (toNat_and_low (c.bytes.getD 9 0)).2
  have hbit := (toNat_high (c.bytes.getD 10 0)).2
  have h₁₀ := c.reg_lt 10
  rw [UInt8.toNat_add, UInt8.toNat_add, UInt8.toNat_add, UInt8.toNat_shiftLeft, hlen, hmult, hbit,
    Nat.shiftLeft_eq]
  unfold Csd.readBlLen Csd.cSizeMult Csd.reg at *
  show (((_ + _) % 2 ^ 8 + _ * 2 ^ 1 % 2 ^ 8) % 2 ^ 8 + 2) % 2 ^ 8 = _
  omega

/-- `csize` of version 1. -/
theorem toNat_size (c : Csd) :
    ((c.bytes.getD 8 0 >>> 6).toUInt16 + ((c.bytes.getD 7 0).toUInt16 <<< 2) +
      ((c.bytes.getD 6 0 &&& 3 : UInt8).toUInt16 <<< 10) + 1).toNat = c.cSize₁ + 1 := by
  have hlow : (c.bytes.getD 6 0 &&& 3 : UInt8).toNat = c.reg 6 % 2 ^ 2 := (toNat_and_low _).2
  have hlt₇ := c.reg_lt 7
  have hlt₈ := c.reg_lt 8
  have h₆ : ((c.bytes.getD 6 0 &&& 3 : UInt8).toUInt16 <<< 10).toNat = c.reg 6 % 2 ^ 2 * 2 ^ 10 := by
    rw [toNat_shifted (by decide) (by rw [hlow]; show c.reg 6 % 2 ^ 2 * 2 ^ 10 < 2 ^ 16; omega), hlow]
    rfl
  have h₇ : ((c.bytes.getD 7 0).toUInt16 <<< 2).toNat = c.reg 7 * 2 ^ 2 :=
    toNat_shifted (by decide) (by show c.reg 7 * 2 ^ 2 < 2 ^ 16; omega)
  have h₈ : (c.bytes.getD 8 0 >>> 6).toNat = c.reg 8 / 2 ^ 6 := (toNat_high _).1
  rw [UInt16.toNat_add, UInt16.toNat_add, UInt16.toNat_add, h₆, h₇, UInt8.toNat_toUInt16, h₈]
  show (((_ + _) % 2 ^ 16 + _) % 2 ^ 16 + 1) % 2 ^ 16 = _
  unfold Csd.cSize₁
  omega

/-- Version 1: the capacity. -/
theorem sectorCount_one {c : Csd} (h : c.structureField ≠ 1)
    (hlen : 9 ≤ c.readBlLen ∧ c.readBlLen ≤ 11) : (sectorCount c.bytes).toNat = c.capacity := by
  have hmult := c.cSizeMult_lt
  have hsize := c.cSize₁_lt
  have hcount : ((c.bytes.getD 5 0 &&& 15 : UInt8) + ((c.bytes.getD 10 0 &&& 128 : UInt8) >>> 7) +
      ((c.bytes.getD 9 0 &&& 3 : UInt8) <<< 1) + 2 - 9).toNat = c.readBlLen + c.cSizeMult + 2 - 9 := by
    rw [UInt8.toNat_sub, toNat_shiftCount]
    show (2 ^ 8 - 9 + _) % 2 ^ 8 = _
    omega
  have hfits : (c.cSize₁ + 1) * 2 ^ (c.readBlLen + c.cSizeMult + 2 - 9) < 2 ^ 32 :=
    calc (c.cSize₁ + 1) * 2 ^ (c.readBlLen + c.cSizeMult + 2 - 9) ≤ 2 ^ 12 * 2 ^ 11 :=
          Nat.mul_le_mul (by omega) (Nat.pow_le_pow_right (by decide) (by omega))
      _ < 2 ^ 32 := by decide
  have hshift : (c.readBlLen + c.cSizeMult + 2 - 9) % 32 = c.readBlLen + c.cSizeMult + 2 - 9 :=
    Nat.mod_eq_of_lt (by omega)
  unfold sectorCount
  simp only [if_neg (mt (version_iff c).mp h)]
  rw [if_pos (UInt8.lt_iff_toNat_lt.mpr (by rw [hcount]; show _ < 32; omega)), UInt32.toNat_shiftLeft,
    UInt16.toNat_toUInt32, toNat_size, UInt8.toNat_toUInt32, hcount, hshift, Nat.shiftLeft_eq,
    Nat.mod_eq_of_lt hfits, Csd.capacity_old h hlen.1]

/-! ## What is stored -/

/-- A card that sends its register in time: a token and 16 bytes, two more for the CRC, and what the
driver takes after them. -/
structure CsdAnswer where
  command : CmdAnswer cmd9
  idle : List Rx
  token : Rx
  csd : List Rx
  crc₁ : Rx
  crc₂ : Rx
  next : Rx
  last : Rx
  hres : command.res = 0
  hidle : ∀ r ∈ idle, r.byte = 0xFF
  htime : ticksOf idle < 200
  htoken : token.byte = 0xFE
  hcsd : csd.length = 16

namespace CsdAnswer

/-- What is received, up to the idle byte at the end. -/
def bytes (a : CsdAnswer) : List Rx :=
  a.command.bytes ++ (a.idle ++ a.token :: (a.csd ++ [a.crc₁, a.crc₂, a.next, a.last]))

/-- The register as it was sent. -/
def register (a : CsdAnswer) : Csd where
  bytes := a.csd.map Rx.byte
  hbytes := by rw [List.length_map, a.hcsd]

end CsdAnswer

/-- The `DWORD` at `p`. -/
def dwordAt (m : Nat → UInt8) (p : Nat) : Nat :=
  (m p).toNat + 2 ^ 8 * (m (p + 1)).toNat + 2 ^ 16 * (m (p + 2)).toNat + 2 ^ 24 * (m (p + 3)).toNat

/-- `SD_disk_ioctl` returns `RES_OK`, and leaves the card's capacity at `buff`. -/
def CountsSectors (s : Sd) (mode : UInt8) (a : CsdAnswer) (rest : List Rx) : Prop :=
  ∃ s' stores, diskIoctl 0 getSectorCount mode s (a.bytes ++ rest) = some (.ok, s', rest) ∧
    s'.stores = s.stores ++ stores ∧
    (∀ before : Nat → UInt8, dwordAt (applyStores before stores) 0 = a.register.capacity) ∧
    a.register.NoOverflow

/-- The four bytes of a `DWORD`. -/
def dwordBytes (count : UInt32) : List UInt8 :=
  [count.toUInt8, (count >>> 8).toUInt8, (count >>> 16).toUInt8, (count >>> 24).toUInt8]

theorem dwordAt_stores (before : Nat → UInt8) (count : UInt32) :
    dwordAt (applyStores before (storesFrom 0 (dwordBytes count))) 0 = count.toNat := by
  have hcount := count.toNat_lt
  have hbyte (j : Nat) (b : UInt8) (hj : (dwordBytes count)[j]? = some b) :
      applyStores before (storesFrom 0 (dwordBytes count)) j = b := by
    have hat : applyStores before (storesFrom 0 (dwordBytes count)) (0 + j) = b :=
      applyStores_storesFrom hj
    rwa [Nat.zero_add] at hat
  unfold dwordAt
  rw [hbyte 0 _ rfl, hbyte 1 _ rfl, hbyte 2 _ rfl, hbyte 3 _ rfl]
  simp only [UInt32.toNat_toUInt8, UInt32.toNat_shiftRight, Nat.shiftRight_eq_div_pow]
  show _ % 2 ^ 8 + 2 ^ 8 * (_ / 2 ^ 8 % 2 ^ 8) + 2 ^ 16 * (_ / 2 ^ 16 % 2 ^ 8) +
    2 ^ 24 * (_ / 2 ^ 24 % 2 ^ 8) = _
  omega

/-- **The register is received**, and what is computed from it stored. -/
theorem getCount_answer (a : CsdAnswer) (s : Sd) (rest : List Rx) : ∃ s',
    getCount s (a.bytes ++ rest) = some (.ok, s', a.last :: rest) ∧
      s'.stores = s.stores ++ storesFrom 0 (dwordBytes (sectorCount a.register.bytes)) := by
  obtain ⟨s₁, hs₁, hdid⟩ := sendCmd_answer a.command 0 { s with stores := [] }
    (a.idle ++ a.token :: (a.csd ++ [a.crc₁, a.crc₂, a.next, a.last]) ++ rest)
  have hdata : (a.csd ++ [a.crc₁]).length = 16 + 1 := by
    rw [List.length_append, a.hcsd, List.length_singleton]
  obtain ⟨s₂, hs₂, hstores⟩ := rxDataBlock_received a.hidle a.htime a.htoken hdata a.crc₂ a.next 0 s₁
    (a.last :: rest)
  have hblock : rxDataBlock 0 16 s₁
      (a.idle ++ a.token :: (a.csd ++ [a.crc₁, a.crc₂, a.next, a.last]) ++ rest) =
      some (true, s₂, a.last :: rest) := by
    simpa using hs₂
  have hread : readRegister cmd9 { s with stores := [] } (a.bytes ++ rest) =
      some (true, s₂, a.last :: rest) := by
    unfold readRegister CsdAnswer.bytes
    rw [List.append_assoc]
    exact Option.bind_eq_some_iff.mpr ⟨_, hs₁, (if_pos a.hres).trans hblock⟩
  have hregister : (s₂.stores.take 16).map Prod.snd = a.register.bytes := by
    rw [hstores, hdid.stores, List.nil_append, List.map_take, map_snd_storesFrom, List.map_append]
    exact List.take_left' (by rw [List.length_map, a.hcsd])
  refine ⟨storeAll 0 (dwordBytes (sectorCount a.register.bytes)) { s₂ with stores := s.stores }, ?_, rfl⟩
  rw [← hregister]
  exact Option.bind_eq_some_iff.mpr ⟨_, hread, rfl⟩

theorem diskIoctl_answer {s : Sd} (hinit : s.stat &&& staNoinit = 0) (mode : UInt8) (a : CsdAnswer)
    (rest : List Rx) : ∃ s',
    diskIoctl 0 getSectorCount mode s (a.bytes ++ rest) = some (.ok, s', rest) ∧
      s'.stores = s.stores ++ storesFrom 0 (dwordBytes (sectorCount a.register.bytes)) := by
  obtain ⟨s₁, hs₁, hstores⟩ := getCount_answer a (select s) rest
  refine ⟨elapse (deselect s₁) a.last, ?_, hstores⟩
  unfold diskIoctl
  refine (if_neg (not_not.mpr rfl)).trans ((if_neg (by decide)).trans ?_)
  refine (if_neg (not_not.mpr hinit)).trans ?_
  exact Option.bind_eq_some_iff.mpr ⟨_, hs₁, rfl⟩

/-- The capacity is stored exactly if it is what was computed. -/
theorem countsSectors_iff {s : Sd} (hinit : s.stat &&& staNoinit = 0) (mode : UInt8) (a : CsdAnswer)
    (rest : List Rx) : CountsSectors s mode a rest ↔
      (sectorCount a.register.bytes).toNat = a.register.capacity ∧ a.register.NoOverflow := by
  obtain ⟨s₁, hs₁, hstores₁⟩ := diskIoctl_answer hinit mode a rest
  constructor
  · rintro ⟨s', stores, hs', hstores, hcapacity, hno⟩
    cases hs₁.symm.trans hs'
    obtain rfl := List.append_cancel_left (hstores₁.symm.trans hstores)
    exact ⟨(dwordAt_stores (fun _ => 0) _).symm.trans (hcapacity _), hno⟩
  · rintro ⟨hcapacity, hno⟩
    exact ⟨s₁, _, hs₁, hstores₁, fun before => (dwordAt_stores before _).trans hcapacity, hno⟩

/-- **The capacity of every card** is stored, without an overflow, if and only if it is one of version 1
or has at most 65535 times 512 KiB. -/
theorem sectorCount_iff {s : Sd} (hinit : s.stat &&& staNoinit = 0) (mode : UInt8) (a : CsdAnswer)
    (hstandard : a.register.Standard) (rest : List Rx) :
    CountsSectors s mode a rest ↔ a.register.Fits := by
  rw [countsSectors_iff hinit]
  have h₈ := a.register.reg_lt 8
  have h₉ := a.register.reg_lt 9
  by_cases hversion : a.register.structureField = 1
  · rw [sectorCount_two hversion]
    unfold Csd.capacity Csd.NoOverflow Csd.Fits
    rw [if_pos hversion, if_pos hversion]
    unfold Csd.cSize₂
    constructor
    · rintro ⟨hcapacity, -⟩ -
      omega
    · intro hfits
      have hlt := hfits hversion
      omega
  · obtain ⟨-, hlen⟩ := hstandard.resolve_left hversion
    refine iff_of_true ⟨sectorCount_one hversion hlen, ?_⟩ fun h => absurd h hversion
    have h₇ := a.register.reg_lt 7
    have h₁₀ := a.register.reg_lt 10
    unfold Csd.NoOverflow
    rw [if_neg hversion]
    omega

theorem cmd9_ne_cmd12 : cmd9 ≠ cmd12 := by decide

/-- A card that sends its register at once. -/
def promptCsd (csd : List UInt8) (hcsd : csd.length = 16) : CsdAnswer where
  command := promptCmd cmd9 cmd9_ne_cmd12
  idle := promptData.idle
  token := promptData.token
  csd := csd.map fun b => ⟨b, 1⟩
  crc₁ := promptData.crc₁
  crc₂ := promptData.crc₂
  next := ⟨0xFF, 1⟩
  last := ⟨0xFF, 1⟩
  hres := promptCmd_res _ _
  hidle := promptData.hidle
  htime := promptData.htime
  htoken := promptData.htoken
  hcsd := (List.length_map _).trans hcsd

/-- A card of 16 GiB. -/
def csd16GiB : CsdAnswer :=
  promptCsd [0x40, 0x0E, 0, 0x32, 0x5B, 0x59, 0, 0, 0x7F, 0xFF, 0x7F, 0x80, 0x0A, 0x40, 0, 1] rfl

/-- A card of 32 GiB. -/
def csd32GiB : CsdAnswer :=
  promptCsd [0x40, 0x0E, 0, 0x32, 0x5B, 0x59, 0, 0, 0xFF, 0xFF, 0x7F, 0x80, 0x0A, 0x40, 0, 1] rfl

theorem sectorCount_csd16GiB : CountsSectors sd2 0 csd16GiB [] :=
  (sectorCount_iff (by decide) 0 csd16GiB (by decide) []).mpr (by decide)

/-- The sum of `0xFFFF` and `1` is `0`, and so is the capacity that is stored. -/
theorem sectorCount_csd32GiB : ¬ CountsSectors sd2 0 csd32GiB [] := by
  rw [countsSectors_iff (by decide)]
  rintro ⟨hcapacity, -⟩
  rw [sectorCount_two (by decide)] at hcapacity
  exact absurd hcapacity (by decide)

end GenLogger.SdCard
