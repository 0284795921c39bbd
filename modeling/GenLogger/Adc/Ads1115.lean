import Mathlib.Algebra.Order.Field.Basic
import Mathlib.Data.Rat.Defs
import Mathlib.Tactic.IntervalCases
import Mathlib.Tactic.NormNum
import Mathlib.Tactic.Ring
import GenLogger.Lib.Run

/-!
# The analog-to-digital converter (`ADS1115.c`)

The configuration register of the ADS1115 exists twice, in the device and in `configReg`, and the
scale that its gain bits stand for a third time, in `FS`. The setters change `configReg` and `FS`
first and write the register to the device then.

* How `HAL_I2C_Mem_Write` ends is an input, and the device keeps what was written last with `HAL_OK`;
  `i2c_write_mem` only tells of `HAL_ERROR`.
* `Converter` is the driver with the register in the device, `AdcStep` a call of a setter or a
  measurement.
* Voltages are rational numbers.

Results:
* `next_device`, `next_scale`, `next_range`: what a call writes, and what it does to the scale.
* `ads_scale_iff`: in a run of the setters `FS` stays the scale of the device exactly as long as no
  register with another scale reaches it, and none whose scale `FS` took fails to.
* `voltage_monotone_iff`: what `ADS1115_Get_Volt` returns for two readings, one of them at most the
  other; the reading that is its own negation takes the whole scale.

Out of scope: the rounding of `float`.
-/

namespace GenLogger.Adc

open GenLogger.Lib

/-! ## The driver -/

/-- Two bytes of a register, the most significant one first. -/
structure HalfWord where
  msb : UInt8
  lsb : UInt8
  deriving Repr, DecidableEq

/-- `ADS1115_handler`. -/
structure Handler where
  address : UInt8
  configReg : HalfWord
  conversionRegBuff : HalfWord
  fs : Rat
  deriving Repr, DecidableEq

/-- `HAL_StatusTypeDef`. -/
inductive HalStatus where
  | ok
  | error
  | busy
  | timeout
  deriving Repr, DecidableEq

/-- The driver, and the configuration register in the device. -/
structure Converter where
  ads : Handler
  device : HalfWord
  deriving Repr, DecidableEq

/-- `x |= (1 << n)`. -/
def setBit (n x : UInt8) : UInt8 := x ||| (1 <<< n)

/-- `x &= ~(1 << n)`. -/
def clearBit (n x : UInt8) : UInt8 := x &&& ~~~(1 <<< n)

/-- `i2c_write_mem` and `i2c_read_mem`: only `HAL_ERROR` is told. -/
def i2cResult (hal : HalStatus) : Int := if hal = .error then -1 else 1

/-- `_ADS1115_I2C_reg_write` and `_ADS1115_I2C_reg_read`. -/
def regResult (hal : HalStatus) : UInt8 := if i2cResult hal = -1 then 0 else 1

/-- `_ADS1115_write_config_reg`. -/
def writeConfigReg (hal : HalStatus) (a : Converter) : UInt8 × Converter :=
  (regResult hal, if hal = .ok then { a with device := a.ads.configReg } else a)

/-- An assignment to `configReg[0]`. -/
def editMsb (f : UInt8 → UInt8) (a : Converter) : Converter :=
  { a with ads := { a.ads with configReg := { a.ads.configReg with msb := f a.ads.configReg.msb } } }

/-- `ADS1115_init`. -/
def adsInit (address : UInt8) : Handler where
  address := address
  configReg := ⟨0b00000101, 0b10000011⟩
  conversionRegBuff := ⟨0, 0⟩
  fs := 2.048

/-- `ADS1115_Set_Mode`. -/
def setMode (mode : UInt8) (hal : HalStatus) (a : Converter) : UInt8 × Converter :=
  writeConfigReg hal (editMsb (if mode = 1 then setBit 0 else clearBit 0) a)

/-- The bits that `ADS1115_Set_Volt_Range` sets and clears. -/
def rangeBits (mode : UInt8) (x : UInt8) : UInt8 :=
  match mode.toNat with
  | 0 => clearBit 3 (clearBit 2 (clearBit 1 x))
  | 1 => clearBit 3 (clearBit 2 (setBit 1 x))
  | 2 => clearBit 3 (setBit 2 (clearBit 1 x))
  | 3 => clearBit 3 (setBit 2 (setBit 1 x))
  | 4 => setBit 3 (clearBit 2 (clearBit 1 x))
  | 5 => setBit 3 (clearBit 2 (setBit 1 x))
  | _ => clearBit 3 (clearBit 2 (clearBit 1 x))

/-- And the scale. -/
def rangeScale (mode : UInt8) : Rat :=
  match mode.toNat with
  | 0 => 6.144
  | 1 => 4.096
  | 2 => 2.048
  | 3 => 1.024
  | 4 => 0.512
  | 5 => 0.256
  | _ => 2.048

/-- `ADS1115_Set_Volt_Range`. -/
def setVoltRange (mode : UInt8) (hal : HalStatus) (a : Converter) : UInt8 × Converter :=
  let a := editMsb (rangeBits mode) a
  writeConfigReg hal { a with ads := { a.ads with fs := rangeScale mode } }

/-- The bits that `ADS1115_Set_Compare_Channel` sets and clears. -/
def channelBits (channel : UInt8) (x : UInt8) : UInt8 :=
  match channel.toNat with
  | 0 => setBit 6 (clearBit 5 (clearBit 4 x))
  | 1 => setBit 6 (clearBit 5 (setBit 4 x))
  | 2 => setBit 6 (setBit 5 (clearBit 4 x))
  | 3 => setBit 6 (setBit 5 (setBit 4 x))
  | _ => x

/-- `ADS1115_Set_Compare_Channel`. -/
def setCompareChannel (channel : UInt8) (hal : HalStatus) (a : Converter) : UInt8 × Converter :=
  writeConfigReg hal (editMsb (channelBits channel) a)

/-- `ADS1115_Start_Single_Measurement`; `read` and `buff` are how `HAL_I2C_Mem_Read` ends and what it
leaves in the buffer. -/
def startSingleMeasurement (hal read : HalStatus) (buff : HalfWord) (a : Converter) : UInt8 × Converter :=
  let (retVal, a) := writeConfigReg hal (editMsb (setBit 7) a)
  if retVal = 0 then (0, a)
  else (regResult read, { a with ads := { a.ads with conversionRegBuff := buff } })

/-- `ADS1115_Get_Volt`. -/
def getVolt (ads : Handler) : Rat :=
  let vps := ads.fs / 32768
  let val := (ads.conversionRegBuff.msb.toUInt32 <<< 8) ||| ads.conversionRegBuff.lsb.toUInt32
  let val := if val > 32768 then 0 else val
  val.toNat * vps

/-! ## The scale -/

/-- The gain bits in the most significant byte of a configuration register. -/
def gain (msb : UInt8) : UInt8 := (msb >>> 1) &&& 7

/-- The full-scale voltage that they stand for in the device. -/
def fullScale (reg : HalfWord) : Rat :=
  match (gain reg.msb).toNat with
  | 0 => 6.144
  | 1 => 4.096
  | 2 => 2.048
  | 3 => 1.024
  | 4 => 0.512
  | _ => 0.256

/-- `FS` is the scale of the device. -/
def ScaleMatches (a : Converter) : Prop := a.ads.fs = fullScale a.device

instance (a : Converter) : Decidable (ScaleMatches a) := inferInstanceAs (Decidable (_ = _))

/-- A call of a setter or a measurement. -/
inductive AdcCall where
  | setMode (mode : UInt8)
  | setVoltRange (mode : UInt8)
  | setCompareChannel (channel : UInt8)
  | startSingleMeasurement (read : HalStatus) (buff : HalfWord)
  deriving Repr, DecidableEq

/-- A call, and how its write to the device ends. -/
structure AdcInput where
  call : AdcCall
  hal : HalStatus
  deriving Repr, DecidableEq

/-- The driver and the device after a call. -/
def Converter.next (i : AdcInput) (a : Converter) : Converter :=
  match i.call with
  | .setMode mode => (setMode mode i.hal a).2
  | .setVoltRange mode => (setVoltRange mode i.hal a).2
  | .setCompareChannel channel => (setCompareChannel channel i.hal a).2
  | .startSingleMeasurement read buff => (startSingleMeasurement i.hal read buff a).2

/-- A call of the driver. -/
def AdcStep (a : Converter) (i : AdcInput) (a' : Converter) : Prop := a' = a.next i

/-- After `ADS1115_init`, with the device as it powers on. -/
def adcStart (address : UInt8) : Converter where
  ads := adsInit address
  device := ⟨0b10000101, 0b10000011⟩

/-- No register with another scale is written, and no scale is set in vain. -/
def KeepsScale (t : Taken Converter AdcInput) : Prop :=
  match t.input.call with
  | .setVoltRange mode =>
    if t.input.hal = .ok then mode ≤ 5 else rangeScale mode = fullScale t.before.device
  | _ => t.input.hal = .ok → fullScale t.before.ads.configReg = fullScale t.before.device

/-! ### The gain bits -/

/-- What holds of every byte holds of one. -/
theorem forall_byte {P : UInt8 → Prop} (h : ∀ b : BitVec 8, P (UInt8.ofBitVec b)) (x : UInt8) : P x :=
  h x.toBitVec

/-- The other bits are not among them, -/
theorem gain_other {n : UInt8} (hn : n ∈ [0, 4, 5, 6, 7]) (x : UInt8) :
    gain (setBit n x) = gain x ∧ gain (clearBit n x) = gain x := by
  have hbits : ∀ x : UInt8, ∀ n ∈ [0, 4, 5, 6, 7],
      gain (setBit n x) = gain x ∧ gain (clearBit n x) = gain x :=
    forall_byte (by decide +kernel)
  exact hbits x n hn

theorem gain_channel (channel x : UInt8) : gain (channelBits channel x) = gain x := by
  have h4 := gain_other (n := 4) (by decide)
  have h5 := gain_other (n := 5) (by decide)
  have h6 := gain_other (n := 6) (by decide)
  unfold channelBits
  split
  · rw [(h6 _).1, (h5 _).2, (h4 _).2]
  · rw [(h6 _).1, (h5 _).2, (h4 _).1]
  · rw [(h6 _).1, (h5 _).1, (h4 _).2]
  · rw [(h6 _).1, (h5 _).1, (h4 _).1]
  · rfl

/-- and a range sets all three. -/
theorem gain_range (mode x : UInt8) :
    (gain (rangeBits mode x)).toNat = if mode.toNat ≤ 5 then mode.toNat else 0 := by
  have hbits : ∀ x : UInt8,
      gain (clearBit 3 (clearBit 2 (clearBit 1 x))) = 0 ∧
      gain (clearBit 3 (clearBit 2 (setBit 1 x))) = 1 ∧
      gain (clearBit 3 (setBit 2 (clearBit 1 x))) = 2 ∧
      gain (clearBit 3 (setBit 2 (setBit 1 x))) = 3 ∧
      gain (setBit 3 (clearBit 2 (clearBit 1 x))) = 4 ∧
      gain (setBit 3 (clearBit 2 (setBit 1 x))) = 5 :=
    forall_byte (by decide +kernel)
  obtain ⟨h0, h1, h2, h3, h4, h5⟩ := hbits x
  by_cases hmode : mode.toNat ≤ 5
  · rw [if_pos hmode]
    unfold rangeBits
    interval_cases mode.toNat
    exacts [congrArg UInt8.toNat h0, congrArg UInt8.toNat h1, congrArg UInt8.toNat h2,
      congrArg UInt8.toNat h3, congrArg UInt8.toNat h4, congrArg UInt8.toNat h5]
  · have hlast : rangeBits mode x = clearBit 3 (clearBit 2 (clearBit 1 x)) := by
      unfold rangeBits
      split <;> first | omega | rfl
    rw [if_neg hmode, hlast, h0]
    rfl

/-- The scale of a range is that of its bits, up to the last range. -/
theorem rangeScale_iff (mode x y : UInt8) :
    rangeScale mode = fullScale ⟨rangeBits mode x, y⟩ ↔ mode ≤ 5 := by
  have hgain := gain_range mode x
  rw [UInt8.le_iff_toNat_le]
  unfold fullScale
  rw [hgain]
  by_cases hmode : mode.toNat ≤ 5
  · refine iff_of_true ?_ hmode
    unfold rangeScale
    interval_cases mode.toNat <;> rfl
  · refine iff_of_false ?_ hmode
    have hscale : rangeScale mode = 2.048 := by
      unfold rangeScale
      split <;> first | omega | rfl
    rw [if_neg hmode, hscale]
    norm_num

/-! ### Calls -/

theorem fullScale_congr {reg reg' : HalfWord} (h : gain reg.msb = gain reg'.msb) :
    fullScale reg = fullScale reg' := by
  unfold fullScale
  rw [h]

/-- What a call writes: `configReg` after its edit. -/
theorem next_device (i : AdcInput) (a : Converter) :
    (a.next i).device = if i.hal = .ok then (a.next i).ads.configReg else a.device := by
  obtain ⟨call, hal⟩ := i
  cases call with
  | setMode mode => cases hal <;> rfl
  | setVoltRange mode => cases hal <;> rfl
  | setCompareChannel channel => cases hal <;> rfl
  | startSingleMeasurement read buff => cases hal <;> rfl

/-- Only the range touches the scale. -/
theorem next_scale (i : AdcInput) (a : Converter) (h : ∀ mode, i.call ≠ .setVoltRange mode) :
    (a.next i).ads.fs = a.ads.fs ∧ gain (a.next i).ads.configReg.msb = gain a.ads.configReg.msb := by
  obtain ⟨call, hal⟩ := i
  cases call with
  | setVoltRange mode => exact absurd rfl (h mode)
  | setMode mode =>
    have hbit := gain_other (n := 0) (by decide) a.ads.configReg.msb
    have hedit : gain ((if mode = 1 then setBit 0 else clearBit 0) a.ads.configReg.msb) =
        gain a.ads.configReg.msb := by
      split
      · exact hbit.1
      · exact hbit.2
    cases hal <;> exact ⟨rfl, hedit⟩
  | setCompareChannel channel => cases hal <;> exact ⟨rfl, gain_channel channel _⟩
  | startSingleMeasurement read buff =>
    have hbit := (gain_other (n := 7) (by decide) a.ads.configReg.msb).1
    cases hal <;> exact ⟨rfl, hbit⟩

/-- And the range sets it. -/
theorem next_range (mode : UInt8) (hal : HalStatus) (a : Converter) :
    (a.next ⟨.setVoltRange mode, hal⟩).ads.fs = rangeScale mode ∧
      (a.next ⟨.setVoltRange mode, hal⟩).ads.configReg =
        ⟨rangeBits mode a.ads.configReg.msb, a.ads.configReg.lsb⟩ := by
  cases hal <;> exact ⟨rfl, rfl⟩

/-- **A call** that starts with the right scale ends with it exactly if it keeps it. -/
theorem scaleMatches_next_iff {a : Converter} (h : ScaleMatches a) (i : AdcInput) :
    ScaleMatches (a.next i) ↔ KeepsScale ⟨a, i, a.next i⟩ := by
  have hdevice := next_device i a
  unfold ScaleMatches at h ⊢
  rw [hdevice]
  by_cases hrange : ∃ mode, i.call = .setVoltRange mode
  · obtain ⟨mode, hcall⟩ := hrange
    obtain ⟨call, hal⟩ := i
    obtain rfl : call = .setVoltRange mode := hcall
    obtain ⟨hfs, hreg⟩ := next_range mode hal a
    unfold KeepsScale
    rw [hfs, hreg]
    dsimp only
    by_cases hok : hal = .ok
    · rw [if_pos hok, if_pos hok]
      exact rangeScale_iff mode _ _
    · rw [if_neg hok, if_neg hok]
  · have hother := not_exists.mp hrange
    obtain ⟨hfs, hgain⟩ := next_scale i a hother
    have hkeeps : KeepsScale ⟨a, i, a.next i⟩ ↔
        (i.hal = .ok → fullScale a.ads.configReg = fullScale a.device) := by
      unfold KeepsScale
      dsimp only
      split
      case h_1 mode hcall => exact absurd hcall (hother mode)
      case h_2 => rfl
    rw [hkeeps, hfs, h]
    by_cases hok : i.hal = .ok
    · rw [if_pos hok, fullScale_congr hgain, forall_prop_of_true hok]
      exact eq_comm
    · rw [if_neg hok]
      exact iff_of_true rfl fun hyes => absurd hyes hok

theorem gain_adcStart (address : UInt8) : gain (adcStart address).device.msb = 2 := by
  show gain 0b10000101 = 2
  decide

theorem fullScale_adcStart (address : UInt8) : fullScale (adcStart address).device = 2.048 := by
  unfold fullScale
  rw [gain_adcStart]
  rfl

theorem scaleMatches_adcStart (address : UInt8) : ScaleMatches (adcStart address) :=
  (fullScale_adcStart address).symm

/-- **The scale over a run.** -/
theorem ads_scale_iff (address : UInt8) {ts : List (Taken Converter AdcInput)} {a : Converter}
    (h : Run AdcStep (adcStart address) ts a) :
    (∀ t ∈ ts, ScaleMatches t.after) ↔ ∀ t ∈ ts, KeepsScale t := by
  refine h.forall_after_iff (I := fun _ => True) (fun _ _ _ _ _ => trivial) ?_ trivial
    (scaleMatches_adcStart address)
  rintro ⟨a, i, a'⟩ - hbefore hstep
  obtain rfl : a' = a.next i := hstep
  exact scaleMatches_next_iff hbefore i

/-- The start-up of the wrapper, with writes that succeed. -/
theorem ads_scale_initImpl : ∃ ts a, Run AdcStep (adcStart 0x90) ts a ∧
    ts.map Taken.input = [⟨.setMode 1, .ok⟩, ⟨.setVoltRange 0, .ok⟩, ⟨.setCompareChannel 0, .ok⟩] ∧
    ∀ t ∈ ts, ScaleMatches t.after := by
  have hrun : Run AdcStep (adcStart 0x90) _ _ :=
    .cons (i := ⟨.setMode 1, .ok⟩) rfl (.cons (i := ⟨.setVoltRange 0, .ok⟩) rfl
      (.cons (i := ⟨.setCompareChannel 0, .ok⟩) rfl (.nil _)))
  refine ⟨_, _, hrun, rfl, (ads_scale_iff 0x90 hrun).mpr ?_⟩
  have hrange : (0 : UInt8) ≤ 5 := by decide
  exact List.forall_mem_cons.mpr ⟨fun _ => rfl, List.forall_mem_cons.mpr ⟨hrange,
    List.forall_mem_cons.mpr ⟨fun _ => rfl, List.forall_mem_nil _⟩⟩⟩

/-- A mode that is no range leaves the device at 6.144 V and `FS` at 2.048 V; a range whose write fails
leaves the device at 2.048 V and `FS` at 6.144 V. -/
theorem ads_scale_fails :
    (∃ a, Run AdcStep (adcStart 0x90) [⟨adcStart 0x90, ⟨.setVoltRange 6, .ok⟩, a⟩] a ∧
      ¬ ScaleMatches a) ∧
    ∃ a, Run AdcStep (adcStart 0x90) [⟨adcStart 0x90, ⟨.setVoltRange 0, .error⟩, a⟩] a ∧
      ¬ ScaleMatches a := by
  have hiff := scaleMatches_next_iff (scaleMatches_adcStart 0x90)
  refine ⟨⟨_, .cons rfl (.nil _), mt (hiff _).mp ?_⟩, ⟨_, .cons rfl (.nil _), mt (hiff _).mp ?_⟩⟩
  · show ¬ (6 : UInt8) ≤ 5
    decide
  · show ¬ (6.144 : Rat) = fullScale (adcStart 0x90).device
    rw [fullScale_adcStart]
    norm_num

/-! ## The voltage -/

/-- The reading in the conversion register, in two's complement. -/
def reading (reg : HalfWord) : Int :=
  let raw : Int := 256 * reg.msb.toNat + reg.lsb.toNat
  if raw < 32768 then raw else raw - 65536

/-- What `ADS1115_Get_Volt` returns for a reading on a scale. -/
def voltage (fs : Rat) (reg : HalfWord) : Rat := getVolt ⟨0, ⟨0, 0⟩, reg, fs⟩

/-- **The law of the voltage**: a negative reading is `0`, any other its share of the scale, which is
not reached. -/
structure VoltageLaw (fs : Rat) (reg : HalfWord) : Prop where
  negative : reading reg < 0 → voltage fs reg = 0
  scaled : 0 ≤ reading reg → voltage fs reg = reading reg * fs / 32768
  below : voltage fs reg < fs

/-- And the larger reading has the larger voltage. -/
structure VoltagesMonotone (fs : Rat) (reg reg' : HalfWord) : Prop where
  le : voltage fs reg ≤ voltage fs reg'
  first : VoltageLaw fs reg
  second : VoltageLaw fs reg'

/-- Shifted and joined, the two bytes are the unsigned reading. -/
theorem raw_eq (reg : HalfWord) :
    ((reg.msb.toUInt32 <<< 8) ||| reg.lsb.toUInt32).toNat = 256 * reg.msb.toNat + reg.lsb.toNat := by
  have hmsb := reg.msb.toNat_lt
  have hlsb := reg.lsb.toNat_lt
  have h8 : UInt32.toNat 8 % 32 = 8 := rfl
  have hshift : (reg.msb.toUInt32 <<< 8).toNat = 2 ^ 8 * reg.msb.toNat := by
    rw [UInt32.toNat_shiftLeft, h8, Nat.shiftLeft_eq, UInt8.toNat_toUInt32]
    omega
  rw [UInt32.toNat_or, hshift, UInt8.toNat_toUInt32, ← Nat.two_pow_add_eq_or_of_lt hlsb]

/-- The voltage in terms of the unsigned reading, which is compared with `32768`. -/
theorem voltage_eq (fs : Rat) (reg : HalfWord) : voltage fs reg =
    (if 256 * reg.msb.toNat + reg.lsb.toNat > 32768 then 0
      else 256 * reg.msb.toNat + reg.lsb.toNat : Nat) * (fs / 32768) := by
  have hgt : ((reg.msb.toUInt32 <<< 8) ||| reg.lsb.toUInt32) > 32768 ↔
      256 * reg.msb.toNat + reg.lsb.toNat > 32768 := by
    rw [gt_iff_lt, UInt32.lt_iff_toNat_lt, raw_eq]
    exact Iff.rfl
  show ((if ((reg.msb.toUInt32 <<< 8) ||| reg.lsb.toUInt32) > 32768 then 0
    else ((reg.msb.toUInt32 <<< 8) ||| reg.lsb.toUInt32) : UInt32).toNat : Rat) * (fs / 32768) = _
  by_cases hraw : 256 * reg.msb.toNat + reg.lsb.toNat > 32768
  · rw [if_pos hraw, if_pos (hgt.mpr hraw)]
    rfl
  · rw [if_neg hraw, if_neg (mt hgt.mp hraw), raw_eq]


/-- The reading that is its own negation takes the whole scale. -/
inductive VoltageCase (fs : Rat) (reg : HalfWord) : Prop
  | positive (h0 : 0 ≤ reading reg) (hlt : reading reg < 32768)
      (hv : voltage fs reg = reading reg * (fs / 32768))
  | lowest (hr : reading reg = -32768) (hv : voltage fs reg = fs)
  | negative (hlt : reading reg < 0) (hr : reading reg ≠ -32768) (hv : voltage fs reg = 0)

theorem voltage_cases (fs : Rat) (reg : HalfWord) : VoltageCase fs reg := by
  have heq := voltage_eq fs reg
  have hmsb := reg.msb.toNat_lt
  have hlsb := reg.lsb.toNat_lt
  obtain ⟨n, hn⟩ : ∃ n, n = 256 * reg.msb.toNat + reg.lsb.toNat := ⟨_, rfl⟩
  have hraw : reading reg = if (n : Int) < 32768 then (n : Int) else n - 65536 := by
    unfold reading
    rw [hn]
    push_cast
    rfl
  rw [← hn] at heq
  rcases Nat.lt_trichotomy n 32768 with hlt | rfl | hgt
  · rw [if_pos (by exact_mod_cast hlt)] at hraw
    rw [if_neg (by omega)] at heq
    refine .positive (by omega) (by omega) ?_
    rw [heq, hraw]
    norm_num
  · refine .lowest (hraw.trans (by decide)) ?_
    rw [heq, if_neg (by decide)]
    push_cast
    ring
  · rw [if_neg (by omega)] at hraw
    rw [if_pos hgt] at heq
    refine .negative (by omega) (by omega) ?_
    rw [heq]
    norm_num

theorem voltageLaw_iff {fs : Rat} (hfs : 0 < fs) (reg : HalfWord) :
    VoltageLaw fs reg ↔ reading reg ≠ -32768 := by
  cases voltage_cases fs reg with
  | positive h0 hlt hv =>
    refine iff_of_true ⟨fun hneg => absurd h0 (not_le.mpr hneg), fun _ => ?_, ?_⟩ (by omega)
    · rw [hv, mul_div_assoc]
    · have hone : (reading reg : Rat) / 32768 < 1 := by
        rw [div_lt_one (by norm_num)]
        exact_mod_cast hlt
      calc voltage fs reg = reading reg / 32768 * fs := by rw [hv]; ring
        _ < 1 * fs := mul_lt_mul_of_pos_right hone hfs
        _ = fs := one_mul fs
  | lowest hr hv => exact iff_of_false (fun h => absurd hv (ne_of_lt h.below)) (not_not.mpr hr)
  | negative hlt hr hv =>
    exact iff_of_true ⟨fun _ => hv, fun h0 => absurd h0 (not_le.mpr hlt), hv ▸ hfs⟩ hr

/-- Away from the lowest reading the voltage is the positive part of the reading, scaled. -/
theorem voltage_of_ne {fs : Rat} {reg : HalfWord} (hr : reading reg ≠ -32768) :
    voltage fs reg = (max (reading reg) 0 : Int) * (fs / 32768) := by
  cases voltage_cases fs reg with
  | positive h0 hlt hv => rw [hv, max_eq_left h0]
  | lowest hl hv => exact absurd hl hr
  | negative hlt _ hv =>
    rw [hv, max_eq_right hlt.le, Int.cast_zero, zero_mul]

/-- **The voltages of two readings** obey the law and keep their order exactly if the smaller one is not
the lowest. -/
theorem voltage_monotone_iff {fs : Rat} (hfs : 0 < fs) {reg reg' : HalfWord}
    (hle : reading reg ≤ reading reg') : VoltagesMonotone fs reg reg' ↔ reading reg ≠ -32768 := by
  refine ⟨fun h => (voltageLaw_iff hfs reg).mp h.first, fun hr => ?_⟩
  have hr' : reading reg' ≠ -32768 := by
    have hlow : -32768 ≤ reading reg := by
      cases voltage_cases fs reg with
      | positive h0 _ _ => omega
      | lowest hl _ => omega
      | negative _ _ _ =>
        unfold reading
        dsimp only
        split <;> omega
    omega
  refine ⟨?_, (voltageLaw_iff hfs reg).mpr hr, (voltageLaw_iff hfs reg').mpr hr'⟩
  rw [voltage_of_ne hr, voltage_of_ne hr']
  have hmax : ((max (reading reg) 0 : Int) : Rat) ≤ (max (reading reg') 0 : Int) :=
    Int.cast_le.mpr (max_le_max hle le_rfl)
  exact mul_le_mul_of_nonneg_right hmax (div_nonneg hfs.le (by norm_num))

/-- Minus 256 and half the scale. -/
theorem voltage_monotone_half : VoltagesMonotone 6.144 ⟨0xFF, 0⟩ ⟨0x40, 0⟩ :=
  (voltage_monotone_iff (by norm_num) (by decide)).mpr (by decide)

/-- The lowest reading shows the whole scale, and more than the reading `0`. -/
theorem voltage_lowest_fails : reading ⟨0x80, 0⟩ < reading ⟨0, 0⟩ ∧ voltage 6.144 ⟨0x80, 0⟩ = 6.144 ∧
    voltage 6.144 ⟨0, 0⟩ = 0 ∧ ¬ VoltagesMonotone 6.144 ⟨0x80, 0⟩ ⟨0, 0⟩ := by
  have hlow : voltage 6.144 ⟨0x80, 0⟩ = 6.144 := by
    cases voltage_cases 6.144 ⟨0x80, 0⟩ with
    | positive h0 _ _ => exact absurd h0 (by decide)
    | lowest _ hv => exact hv
    | negative _ hr _ => exact absurd (by decide) hr
  have hzero : voltage 6.144 ⟨0, 0⟩ = 0 := by
    have h0 : max (reading ⟨0, 0⟩) 0 = 0 := by decide
    rw [voltage_of_ne (by decide), h0, Int.cast_zero, zero_mul]
  refine ⟨by decide, hlow, hzero, fun h => ?_⟩
  have hle := h.le
  rw [hlow, hzero] at hle
  norm_num at hle

end GenLogger.Adc
