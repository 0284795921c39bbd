import Mathlib.Data.List.Range
import GenLogger.Adc.Ads1115
import GenLogger.Lib.Crc
import GenLogger.Lib.Packed

/-!
# The thermometer (`driver_aht21.c`)

Model of the driver of the AHT21 and of its wrapper: `aht21_init` with the reset of the registers,
`aht21_deinit`, and the three functions that read a measurement.

* A measurement comes in seven bytes: the status, 20 bits of humidity, 20 bits of temperature and a
  check.
* How the transfers end and what the buffers have then is an input. Only `HAL_ERROR` is taken for a
  failure by `i2c_read` and `i2c_write`, so a transfer that was not made at all (`HAL_BUSY`) leaves in
  the buffer what was there.
* The percentage is computed in single precision, with its rounding (`round24`); the temperature in
  degrees is left as the raw value.
* `Bus` has the events that were done, so that a transfer on a bus that is not open can be seen.

Results:
* `read_sent`: what the driver returns is what the sensor sent, also where up to eight bits in a row
  were lost on the way. It returns something where nothing was lost.
* `readHumidityImpl_percent`: the percentage is that of the raw value rounded down, but for one raw
  value.
* `start_honest`: a handle says that the bus is open only while it is, after an initialisation that
  failed too.
* `run_opened`: in a run of calls nothing is transferred on a bus that is not open.
-/

namespace GenLogger.Thermometer

open GenLogger.Lib
open GenLogger.Adc (HalStatus)

/-! ## The driver -/

/-- How a call of the HAL ends, and the bytes that the buffer of a transfer has after it. -/
structure Transfer where
  res : HalStatus
  data : Nat → UInt8

/-- What the driver has its platform do. -/
inductive Event where
  | init (ok : Bool)
  | deinit (ok : Bool)
  | write (buf : List UInt8)
  | read (len : Nat)
  | delay (ms : Nat)
  | print (text : String)
  deriving Repr, DecidableEq

/-- The calls to come, and what was done. -/
structure Bus where
  transfers : List Transfer
  events : List Event

/-- How the next transfer goes; a bus that has no more to say answers with zeros. -/
def Bus.next (b : Bus) : Transfer := b.transfers.headD ⟨.ok, fun _ => 0⟩

/-- A transfer is done. -/
def Bus.done (b : Bus) (e : Event) : Bus := ⟨b.transfers.tail, b.events ++ [e]⟩

/-- `delay_ms`. -/
def delayMs (ms : Nat) (b : Bus) : Bus := { b with events := b.events ++ [.delay ms] }

/-- `debug_print`. -/
def debugPrint (text : String) (b : Bus) : Bus := { b with events := b.events ++ [.print text] }

/-- `i2c_init_adapter`: whether it failed. -/
def iicInit (b : Bus) : Bool × Bus := (b.next.res ≠ .ok, b.done (.init (b.next.res = .ok)))

/-- `i2c_deinit_adapter`. -/
def iicDeinit (b : Bus) : Bool × Bus := (b.next.res ≠ .ok, b.done (.deinit (b.next.res = .ok)))

/-- `a_aht21_iic_read`, with `i2c_read_adapter`: whether it failed, and the buffer. -/
def iicRead (len : Nat) (b : Bus) : Bool × List UInt8 × Bus :=
  (b.next.res = .error, (List.range len).map b.next.data, b.done (.read len))

/-- `a_aht21_iic_write`, with `i2c_write_adapter`. -/
def iicWrite (buf : List UInt8) (b : Bus) : Bool × Bus := (b.next.res = .error, b.done (.write buf))

/-- A round of the inner loop of `a_aht21_calc_crc`. -/
def crcBit (crc : UInt8) : UInt8 := if crc &&& 0x80 ≠ 0 then crc <<< 1 ^^^ 0x31 else crc <<< 1

/-- `a_aht21_calc_crc`. -/
def calcCrc (data : List UInt8) : UInt8 := data.foldl (fun crc byte => crcBit^[8] (crc ^^^ byte)) 0xFF

/-- `aht21_handle_t`: which functions are linked, and the flag. -/
structure Handle where
  debugPrint : Bool
  iicInit : Bool
  iicDeinit : Bool
  iicReadCmd : Bool
  iicWriteCmd : Bool
  delayMs : Bool
  inited : UInt8
  deriving Repr, DecidableEq

/-- `a_aht21_jh_reset_reg`. -/
def jhResetReg (addr : UInt8) (b : Bus) : UInt8 × Bus :=
  let (failed, b) := iicWrite [addr, 0x00, 0x00] b
  if failed then (1, b)
  else
    let (failed, regs, b) := iicRead 3 (delayMs 5 b)
    if failed then (1, b)
    else
      let (failed, b) := iicWrite [0xB0 ||| addr, regs.getD 1 0, regs.getD 2 0] (delayMs 10 b)
      if failed then (1, b) else (0, b)

/-- The registers that `aht21_init` resets one after the other: the first result that is not `0`. -/
def resetRegs : List UInt8 → Bus → UInt8 × Bus
  | [], b => (0, b)
  | addr :: addrs, b =>
    let (res, b) := jhResetReg addr b
    if res ≠ 0 then (res, b) else resetRegs addrs b

/-- `aht21_init` from `iic_init` on. -/
def start (handle : Handle) (b : Bus) : UInt8 × Handle × Bus :=
  let (failed, b) := iicInit b
  if failed then (1, handle, debugPrint "aht21: iic init failed.\n" b)
  else
    let (failed, status, b) := iicRead 1 (delayMs 500 b)
    if failed then (4, handle, (iicDeinit (debugPrint "aht21: read status failed.\n" b)).2)
    else
      let (res, b) := if status.getD 0 0 &&& 0x18 ≠ 0x18 then resetRegs [0x1B, 0x1C, 0x1E] b else (0, b)
      if res ≠ 0 then (5, handle, (iicDeinit (debugPrint "aht21: reset reg failed.\n" b)).2)
      else (0, { handle with inited := 1 }, delayMs 10 b)

/-- `aht21_init`. -/
def init (handle : Option Handle) (b : Bus) : UInt8 × Option Handle × Bus :=
  match handle with
  | none => (2, none, b)
  | some handle =>
    if handle.debugPrint = false then (3, some handle, b)
    else if handle.iicInit = false then (3, some handle, debugPrint "aht21: iic_init is null.\n" b)
    else if handle.iicDeinit = false then (3, some handle, debugPrint "aht21: iic_deinit is null.\n" b)
    else if handle.iicReadCmd = false then
      (3, some handle, debugPrint "aht21: iic_read_cmd is null.\n" b)
    else if handle.iicWriteCmd = false then
      (3, some handle, debugPrint "aht21: iic_write_cmd is null.\n" b)
    else if handle.delayMs = false then (3, some handle, debugPrint "aht21: delay_ms is null.\n" b)
    else
      let (res, handle, b) := start handle b
      (res, some handle, b)

/-- `aht21_deinit`. -/
def deinit (handle : Option Handle) (b : Bus) : UInt8 × Option Handle × Bus :=
  match handle with
  | none => (2, none, b)
  | some handle =>
    if handle.inited ≠ 1 then (3, some handle, b)
    else
      let (failed, b) := iicDeinit b
      if failed then (1, some handle, debugPrint "aht21: iic deinit failed.\n" b)
      else (0, some { handle with inited := 0 }, b)

/-- What the functions that read a measurement do before they take it apart: the result and the buffer. -/
def readFrame (handle : Option Handle) (b : Bus) : UInt8 × List UInt8 × Bus :=
  match handle with
  | none => (2, [], b)
  | some handle =>
    if handle.inited ≠ 1 then (3, [], b)
    else
      let (failed, b) := iicWrite [0xAC, 0x33, 0x00] b
      if failed then (1, [], debugPrint "aht21: send command failed.\n" b)
      else
        let (failed, status, b) := iicRead 1 (delayMs 85 b)
        if failed then (1, [], debugPrint "aht21: read status failed.\n" b)
        else if status.getD 0 0 &&& 0x80 = 0 then
          let (failed, buf, b) := iicRead 7 b
          if failed then (1, buf, debugPrint "aht21: read data failed.\n" b)
          else if calcCrc (buf.take 6) ≠ buf.getD 6 0 then (5, buf, debugPrint "aht21: crc is error.\n" b)
          else (0, buf, b)
        else (4, [], debugPrint "aht21: data is not ready.\n" b)

/-- `set the humidity`. -/
def humidityRaw (buf : List UInt8) : Nat :=
  ((buf.getD 1 0).toNat <<< 16 ||| (buf.getD 2 0).toNat <<< 8 ||| (buf.getD 3 0).toNat) >>> 4

/-- `set the temperature`. -/
def temperatureRaw (buf : List UInt8) : Nat :=
  ((buf.getD 3 0).toNat <<< 16 ||| (buf.getD 4 0).toNat <<< 8 ||| (buf.getD 5 0).toNat) &&& 0xFFFFF

/-- A product in single precision: 24 bits of `n`, to the nearest, and to the even one of two. -/
def round24 (n : Nat) : Nat :=
  let e := n.log2 - 23
  let q := n / 2 ^ e
  let r := n % 2 ^ e
  if 2 * r < 2 ^ e ∨ 2 * r = 2 ^ e ∧ q % 2 = 0 then q * 2 ^ e else (q + 1) * 2 ^ e

/-- `convert the humidity`. A raw value and its quotient by `1048576.0f` are exact. -/
def humidityS (raw : Nat) : UInt8 := UInt8.ofNat (round24 (raw * 100) / 1048576)

/-- What `aht21_read_temperature_humidity` stores, but for the temperature in degrees. -/
structure Measured where
  temperatureRaw : Nat
  humidityRaw : Nat
  humidityS : UInt8
  deriving Repr, DecidableEq

/-- `aht21_read_temperature_humidity`: the result, and what it stores. -/
def readTemperatureHumidity (handle : Option Handle) (b : Bus) : UInt8 × Option Measured × Bus :=
  let (res, buf, b) := readFrame handle b
  let m : Measured := ⟨temperatureRaw buf, humidityRaw buf, humidityS (humidityRaw buf)⟩
  (res, if res = 0 then some m else none, b)

/-- `aht21_read_temperature`. -/
def readTemperature (handle : Option Handle) (b : Bus) : UInt8 × Option Nat × Bus :=
  let (res, buf, b) := readFrame handle b
  (res, if res = 0 then some (temperatureRaw buf) else none, b)

/-- `aht21_read_humidity`. -/
def readHumidity (handle : Option Handle) (b : Bus) : UInt8 × Option (Nat × UInt8) × Bus :=
  let (res, buf, b) := readFrame handle b
  (res, if res = 0 then some (humidityRaw buf, humidityS (humidityRaw buf)) else none, b)

/-- The handle of `AHT21::initImpl`, before `aht21_init`. -/
def linked : Handle := ⟨true, true, true, true, true, true, 0⟩

/-- `AHT21::initImpl`. -/
def initImpl (b : Bus) : Bool × Option Handle × Bus :=
  let (res, handle, b) := init (some linked) b
  (res = 0, handle, b)

/-- `AHT21::readTemperatureImpl`, with the raw value for the `float`. -/
def readTemperatureImpl (handle : Option Handle) (b : Bus) : Option Nat × Bus :=
  let (res, stored, b) := readTemperature handle b
  (if res ≠ 0 then none else stored, b)

/-- `AHT21::readHumidityImpl`. -/
def readHumidityImpl (handle : Option Handle) (b : Bus) : Option UInt8 × Bus :=
  let (res, stored, b) := readHumidity handle b
  (if res ≠ 0 then none else stored.map Prod.snd, b)

/-! ## The check -/

theorem toBitVec_crcBit (crc : UInt8) : (crcBit crc).toBitVec = Crc.shift 0x31#8 crc.toBitVec := by
  have hbit : ∀ c : BitVec 8, c &&& 0x80#8 ≠ 0#8 ↔ c.msb = true := by decide
  have hiff : crc &&& 0x80 ≠ 0 ↔ crc.toBitVec.msb = true := by
    rw [← hbit, ne_eq, ne_eq, ← UInt8.toBitVec_inj]
    rfl
  unfold crcBit Crc.shift
  by_cases hmsb : crc.toBitVec.msb = true
  · rw [if_pos hmsb, if_pos (hiff.mpr hmsb)]
    rfl
  · rw [if_neg hmsb, if_neg (mt hiff.mp hmsb)]
    rfl

theorem toBitVec_calcCrc (data : List UInt8) :
    (calcCrc data).toBitVec = Crc.crc 0x31#8 0xFF#8 (data.map UInt8.toBitVec) := by
  have hbits : ∀ n (c : UInt8), (crcBit^[n] c).toBitVec = (Crc.shift 0x31#8)^[n] c.toBitVec := by
    intro n
    induction n with
    | zero => exact fun _ => rfl
    | succ n ih => exact fun c => by rw [Function.iterate_succ_apply, ih, toBitVec_crcBit,
        ← Function.iterate_succ_apply]
  have hfold : ∀ init : UInt8, (data.foldl (fun crc byte => crcBit^[8] (crc ^^^ byte)) init).toBitVec =
      Crc.crc 0x31#8 init.toBitVec (data.map UInt8.toBitVec) := by
    induction data with
    | nil => exact fun _ => rfl
    | cons byte data ih =>
      intro init
      rw [List.foldl_cons, ih, hbits, List.map_cons, Crc.crc_cons]
      rfl
  exact hfold 0xFF

/-- The check of a buffer is behind it. -/
def Sealed (buf : List UInt8) : Prop := calcCrc (buf.take 6) = buf.getD 6 0

instance (buf : List UInt8) : Decidable (Sealed buf) := inferInstanceAs (Decidable (_ = _))

theorem sealed_iff {buf : List UInt8} (hlength : buf.length = 7) :
    Sealed buf ↔ Crc.crc 0x31#8 0xFF#8 (buf.map UInt8.toBitVec) = 0#8 := by
  have hsplit : buf = buf.take 6 ++ [buf.getD 6 0] := by
    have hlast : buf.drop 6 = [buf.getD 6 0] := by
      rw [List.drop_eq_getElem_cons (by omega), List.drop_of_length_le (by omega),
        List.getD_eq_getElem _ _ (by omega)]
    rw [← hlast, List.take_append_drop]
  have hmap : buf.map UInt8.toBitVec = (buf.take 6).map UInt8.toBitVec ++ [(buf.getD 6 0).toBitVec] := by
    conv_lhs => rw [hsplit]
    rw [List.map_append]
    rfl
  rw [hmap, Crc.crc_seal (by decide), ← toBitVec_calcCrc, UInt8.toBitVec_inj]
  rfl

/-- The bytes of an error. -/
def lost (i k n : Nat) (p : BitVec 8) : List UInt8 := (Crc.burst i k n p).map UInt8.ofBitVec

theorem sealed_lost_iff {buf : List UInt8} (hlength : buf.length = 7) (hsealed : Sealed buf) {i k n : Nat}
    (hin : i + n + 2 = 7) (hk : k ≤ 8) {p : BitVec 8} :
    Sealed (List.zipWith (· ^^^ ·) buf (lost i k n p)) ↔ p = 0#8 := by
  have hlost : (lost i k n p).length = 7 := by
    rw [lost, List.length_map, Crc.length_burst, hin]
  have hbits : (lost i k n p).map UInt8.toBitVec = Crc.burst i k n p := by
    rw [lost, List.map_map]
    exact List.map_id _
  have hxor : (List.zipWith (· ^^^ ·) buf (lost i k n p)).map UInt8.toBitVec =
      List.zipWith (· ^^^ ·) (buf.map UInt8.toBitVec) (Crc.burst i k n p) := by
    rw [← hbits, List.map_zipWith, List.zipWith_map]
    rfl
  have hcrc : Crc.crc 0x31#8 0xFF#8 (List.zipWith (· ^^^ ·) (buf.map UInt8.toBitVec) (Crc.burst i k n p)) =
      Crc.crc 0x31#8 0#8 (Crc.burst i k n p) := by
    have hsum : Crc.crc 0x31#8 (0xFF#8 ^^^ 0#8) _ = _ :=
      Crc.crc_xor 0xFF#8 0#8 (show (buf.map UInt8.toBitVec).length = (Crc.burst i k n p).length by
        rw [List.length_map, hlength, Crc.length_burst, hin])
    rw [(sealed_iff hlength).mp hsealed, BitVec.zero_xor, BitVec.xor_zero] at hsum
    exact hsum
  have hgot : (List.zipWith (· ^^^ ·) buf (lost i k n p)).length = 7 := by
    rw [List.length_zipWith, hlength, hlost]
    rfl
  rw [sealed_iff hgot, hxor, hcrc, Crc.crc_burst (by decide) hk]

/-- Nothing is lost. -/
theorem zipWith_lost_zero {i k n : Nat} (buf : List UInt8) (hlength : buf.length = i + n + 2) :
    List.zipWith (· ^^^ ·) buf (lost i k n 0#8) = buf := by
  have hlost : lost i k n 0#8 = List.replicate (i + (1 + (1 + n))) 0 := by
    simp [lost, Crc.burst, List.replicate_add]
  refine List.ext_getElem ?_ fun j _ _ => ?_
  · rw [hlost, List.length_zipWith, List.length_replicate, hlength]
    omega
  · simp [hlost]

/-! ## The measurement -/

/-- What the sensor sends of a measurement. -/
def pack (status : UInt8) (humidity temperature : Nat) : List UInt8 :=
  [status, UInt8.ofNat (humidity / 4096), UInt8.ofNat (humidity / 16),
    UInt8.ofNat (humidity % 16 * 16 + temperature / 65536), UInt8.ofNat (temperature / 256),
    UInt8.ofNat temperature]

/-- The seven bytes of a measurement. -/
def frame (status : UInt8) (humidity temperature : Nat) : List UInt8 :=
  pack status humidity temperature ++ [calcCrc (pack status humidity temperature)]

theorem sealed_frame (status : UInt8) (humidity temperature : Nat) :
    Sealed (frame status humidity temperature) := by
  have htake : (frame status humidity temperature).take 6 = pack status humidity temperature := rfl
  have hlast : ∀ c, (pack status humidity temperature ++ [c]).getD 6 0 = c := fun _ => rfl
  rw [Sealed, htake, frame, hlast]

theorem threeBytes (a b c : UInt8) :
    a.toNat <<< 16 ||| b.toNat <<< 8 ||| c.toNat = 65536 * a.toNat + 256 * b.toNat + c.toNat := by
  have ha := a.toNat_lt
  have hb := b.toNat_lt
  have hc := c.toNat_lt
  have hhigh : a.toNat <<< 16 ||| b.toNat <<< 8 = (256 * a.toNat + b.toNat) <<< 8 := by
    rw [Packed.shiftLeft_or_eq, Nat.shiftLeft_eq, Nat.shiftLeft_eq]
    · omega
    · rw [Nat.shiftLeft_eq]
      omega
  rw [hhigh, Packed.shiftLeft_or_eq _ hc]
  omega

theorem humidityRaw_frame (status : UInt8) {h t : Nat} (hh : h < 1048576) (ht : t < 1048576) :
    humidityRaw (frame status h t) = h := by
  unfold humidityRaw
  rw [threeBytes, Nat.shiftRight_eq_div_pow]
  simp only [frame, pack, List.cons_append, List.getD_cons_succ, List.getD_cons_zero, UInt8.toNat_ofNat']
  omega

theorem temperatureRaw_frame (status : UInt8) {h t : Nat} (ht : t < 1048576) :
    temperatureRaw (frame status h t) = t := by
  unfold temperatureRaw
  rw [threeBytes, show 0xFFFFF = 2 ^ 20 - 1 from rfl, Packed.and_low]
  simp only [frame, pack, List.cons_append, List.getD_cons_succ, List.getD_cons_zero, UInt8.toNat_ofNat']
  omega

/-! ## The percentage -/

theorem round24_of_dvd {n : Nat} (h : 2 ^ (n.log2 - 23) ∣ n) : round24 n = n := by
  have hmod : n % 2 ^ (n.log2 - 23) = 0 := Nat.mod_eq_zero_of_dvd h
  have hpos := Nat.two_pow_pos (n.log2 - 23)
  unfold round24
  simp only [hmod, Nat.mul_zero, hpos, true_or, if_true]
  exact Nat.div_mul_cancel h

/-- With 27 bits three are rounded off. -/
theorem round24_of_ge {n : Nat} (hlow : 67108864 ≤ n) (hhigh : n < 134217728) :
    round24 n = if n % 8 < 4 ∨ n % 8 = 4 ∧ n / 8 % 2 = 0 then n / 8 * 8 else (n / 8 + 1) * 8 := by
  have hlog : n.log2 = 26 := (Nat.log2_eq_iff (by omega)).mpr ⟨hlow, hhigh⟩
  have hhalf : ∀ r, 2 * r < 8 ↔ r < 4 := by omega
  have htie : ∀ r, 2 * r = 8 ↔ r = 4 := by omega
  unfold round24
  simp only [hlog, Nat.reduceSub, Nat.reducePow, hhalf, htie]

theorem eights_div (q : Nat) : q * 8 / 1048576 = q / 131072 :=
  Nat.mul_div_mul_right q 131072 (show 0 < 8 by decide)

/-- The one raw value that is half of eight below a percent from 64 on. -/
theorem raw_of_percent {raw d : Nat} (h : 25 * raw + 1 = 262144 * d) (hlow : 64 ≤ d) (hhigh : d < 100) :
    raw = 828375 ∧ d = 79 := by
  have hmod : d % 25 = 4 := by omega
  have hd : d = 79 := by omega
  subst hd
  omega

theorem percent_of_tie {raw q d : Nat} (h : raw * 100 = q * 8 + 4) (hup : q + 1 = 131072 * d) :
    25 * raw + 1 = 262144 * d := by
  omega

/-- It is one below a percent. -/
theorem dvd_of_tie {q : Nat} (h : 828375 * 100 = q * 8 + 4) : q + 1 = 131072 * ((q + 1) / 131072) := by
  obtain rfl : q = 10354687 := by omega
  decide

theorem div_eq_of_not_dvd {q : Nat} (h : q + 1 ≠ 131072 * ((q + 1) / 131072)) :
    (q + 1) / 131072 = q / 131072 := by
  omega

/-- A product with `100.0f` is rounded up to the next percent for one raw value. -/
theorem humidity_rounded {raw : Nat} (hraw : raw < 1048576) :
    (humidityS raw).toNat = if raw = 828375 then 79 else raw * 100 / 1048576 := by
  unfold humidityS
  rw [UInt8.toNat_ofNat']
  by_cases hbig : 67108864 ≤ raw * 100
  · obtain ⟨q, r, hq, hr⟩ : ∃ q r, raw * 100 = q * 8 + r ∧ r < 8 :=
      ⟨raw * 100 / 8, raw * 100 % 8, (Nat.div_add_mod' _ _).symm, Nat.mod_lt _ (by decide)⟩
    have hdiv : raw * 100 / 8 = q := by rw [hq]; omega
    have hmod : raw * 100 % 8 = r := by rw [hq]; omega
    have hpercent : raw * 100 / 1048576 = q / 131072 := by
      rw [← hdiv, Nat.div_div_eq_div_mul]
    have hsmall : (q + 1) / 131072 < 100 := by
      rw [Nat.div_lt_iff_lt_mul (by decide)]
      omega
    have hlarge : 64 ≤ (q + 1) / 131072 := by
      rw [Nat.le_div_iff_mul_le (by decide)]
      omega
    rw [round24_of_ge hbig (by omega), hdiv, hmod, hpercent]
    by_cases hdown : r < 4 ∨ r = 4 ∧ q % 2 = 0
    · have hne : raw ≠ 828375 := by
        rintro rfl
        omega
      have hle : q / 131072 ≤ (q + 1) / 131072 := Nat.div_le_div_right (Nat.le_succ q)
      rw [if_pos hdown, if_neg hne, eights_div, Nat.mod_eq_of_lt (show q / 131072 < 256 by omega)]
    · -- `r` is `4`, so `100 * raw` is `4` below the number it is rounded to
      have hfour : r = 4 := by omega
      rw [if_neg hdown, eights_div, Nat.mod_eq_of_lt (show (q + 1) / 131072 < 256 by omega)]
      by_cases hup : q + 1 = 131072 * ((q + 1) / 131072)
      · obtain ⟨hat, hd⟩ := raw_of_percent (percent_of_tie (hfour ▸ hq) hup) hlarge hsmall
        rw [if_pos hat, hd]
      · have hne : raw ≠ 828375 := by
          rintro rfl
          exact hup (dvd_of_tie (hfour ▸ hq))
        rw [if_neg hne, div_eq_of_not_dvd hup]
  · have hexact : round24 (raw * 100) = raw * 100 := by
      refine round24_of_dvd ?_
      have hlog : (raw * 100).log2 - 23 ≤ 2 := by
        by_cases h0 : raw = 0
        · subst h0
          decide
        · have hlt : (raw * 100).log2 < 26 := (Nat.log2_lt (by omega)).mpr (by omega)
          omega
      exact (Nat.pow_dvd_pow 2 hlog).trans (Nat.dvd_mul_left_of_dvd (by decide) raw)
    rw [hexact, if_neg (by omega)]
    omega

theorem humidityRaw_lt (buf : List UInt8) : humidityRaw buf < 1048576 := by
  have h1 := (buf.getD 1 0).toNat_lt
  have h2 := (buf.getD 2 0).toNat_lt
  have h3 := (buf.getD 3 0).toNat_lt
  unfold humidityRaw
  rw [threeBytes, Nat.shiftRight_eq_div_pow]
  omega

/-! ## A measurement -/

/-- The transfer `j` of those to come. -/
def Bus.transfer (b : Bus) (j : Nat) : Transfer := b.transfers.getD j ⟨.ok, fun _ => 0⟩

/-- What is in the buffer behind the transfer of the measurement. -/
def Bus.buffer (b : Bus) : List UInt8 := (List.range 7).map (b.transfer 2).data

/-- Nothing keeps the driver from the measurement. -/
structure Ready (handle : Option Handle) (b : Bus) : Prop where
  inited : handle.map Handle.inited = some 1
  transfers : ∀ j < 3, (b.transfer j).res ≠ .error
  /-- The sensor is not busy. -/
  status : (b.transfer 1).data 0 &&& 0x80 = 0

theorem next_eq (b : Bus) : b.next = b.transfer 0 := by
  rcases b with ⟨_ | ⟨_, _⟩, _⟩ <;> rfl

theorem transfer_done (b : Bus) (e : Event) (j : Nat) : (b.done e).transfer j = b.transfer (j + 1) := by
  rcases b with ⟨_ | ⟨_, _⟩, _⟩ <;> rfl

theorem transfer_delayMs (ms : Nat) (b : Bus) (j : Nat) : (delayMs ms b).transfer j = b.transfer j := rfl

theorem readFrame_spec (handle : Option Handle) (b : Bus) :
    ((readFrame handle b).1 = 0 ↔ Ready handle b ∧ Sealed b.buffer) ∧
      ((readFrame handle b).1 = 0 → (readFrame handle b).2.1 = b.buffer) := by
  have hready : Ready handle b ↔ handle.map Handle.inited = some 1 ∧ (b.transfer 0).res ≠ .error ∧
      (b.transfer 1).res ≠ .error ∧ (b.transfer 1).data 0 &&& 0x80 = 0 ∧ (b.transfer 2).res ≠ .error := by
    refine ⟨fun h => ⟨h.inited, h.transfers 0 (by decide), h.transfers 1 (by decide), h.status,
      h.transfers 2 (by decide)⟩, fun ⟨hinited, h0, h1, hstatus, h2⟩ => ⟨hinited, fun j hj => ?_, hstatus⟩⟩
    obtain rfl | rfl | rfl : j = 0 ∨ j = 1 ∨ j = 2 := by omega
    · exact h0
    · exact h1
    · exact h2
  have hstatus : ((List.range 1).map (b.transfer 1).data).getD 0 0 = (b.transfer 1).data 0 := rfl
  have hbuffer : (List.range 7).map (b.transfer 2).data = b.buffer := rfl
  have hcrc : calcCrc (b.buffer.take 6) = b.buffer.getD 6 0 ↔ Sealed b.buffer := Iff.rfl
  rw [hready]
  cases handle with
  | none => simp [readFrame]
  | some handle =>
    simp only [Option.map_some, Option.some.injEq, readFrame, iicWrite, iicRead, next_eq, transfer_done,
      transfer_delayMs, hstatus, hbuffer, hcrc, ne_eq, Nat.zero_add]
    by_cases hinited : handle.inited = 1
    · by_cases h0 : (b.transfer 0).res = .error
      · simp [hinited, h0]
      · by_cases h1 : (b.transfer 1).res = .error
        · simp [hinited, h0, h1]
        · by_cases hbusy : (b.transfer 1).data 0 &&& 0x80 = 0
          · by_cases h2 : (b.transfer 2).res = .error
            · simp [hinited, h0, h1, hbusy, h2]
            · by_cases hsealed : Sealed b.buffer
              · simp [hinited, h0, h1, hbusy, h2, hsealed]
              · simp [hinited, h0, h1, hbusy, h2, hsealed]
          · simp [hinited, h0, h1, hbusy]
    · simp [hinited]

/-- A value is stored where the result is `0`. -/
theorem stored_iff {α : Type} {res : UInt8} {P : Prop} {v x : α} (hres : res = 0 ↔ P) :
    (if res = 0 then some v else none) = some x ↔ P ∧ x = v := by
  by_cases h : res = 0
  · rw [if_pos h, Option.some.injEq, eq_comm]
    exact (and_iff_right (hres.mp h)).symm
  · rw [if_neg h]
    exact ⟨fun heq => absurd heq.symm (Option.some_ne_none x), fun heq => absurd (hres.mpr heq.1) h⟩

section Sent

variable {status : UInt8} {h t i k n : Nat} {p : BitVec 8} {handle : Option Handle} {b : Bus}

/-- Where up to eight bits in a row of a measurement are wrong, the driver says so, wherever they are, and
where none is it returns what the sensor measured. -/
theorem read_sent (hh : h < 1048576) (ht : t < 1048576) (hin : i + n + 2 = 7) (hk : k ≤ 8)
    (hsent : b.buffer = List.zipWith (· ^^^ ·) (frame status h t) (lost i k n p)) :
    (∀ m, (readTemperatureHumidity handle b).2.1 = some m ↔
      Ready handle b ∧ p = 0#8 ∧ m = ⟨t, h, humidityS h⟩) ∧
    (∀ x, (readTemperature handle b).2.1 = some x ↔ Ready handle b ∧ p = 0#8 ∧ x = t) ∧
    ∀ x, (readHumidity handle b).2.1 = some x ↔ Ready handle b ∧ p = 0#8 ∧ x = (h, humidityS h) := by
  obtain ⟨hres, hbuf⟩ := readFrame_spec handle b
  have hsealed : Sealed b.buffer ↔ p = 0#8 := by
    rw [hsent]
    exact sealed_lost_iff rfl (sealed_frame status h t) hin hk
  have hframe : Ready handle b ∧ p = 0#8 → (readFrame handle b).2.1 = frame status h t := by
    rintro ⟨hready, rfl⟩
    have hlength : (frame status h t).length = i + n + 2 := hin.symm
    rw [hbuf (hres.mpr ⟨hready, hsealed.mpr rfl⟩), hsent, zipWith_lost_zero _ hlength]
  rw [hsealed] at hres
  have hhumidity := humidityRaw_frame status hh ht
  have htemperature : temperatureRaw (frame status h t) = t := temperatureRaw_frame status ht
  unfold readTemperatureHumidity readTemperature readHumidity
  clear hbuf
  revert hres hframe
  generalize readFrame handle b = r
  intro hres hframe
  refine ⟨fun m => ?_, fun x => ?_, fun x => ?_⟩ <;> rw [← and_assoc] <;>
    refine (stored_iff hres).trans (and_congr_right fun hgood => ?_)
  · rw [hframe hgood, hhumidity, htemperature]
  · rw [hframe hgood, htemperature]
  · rw [hframe hgood, hhumidity]

/-- Half of the range of humidity and a quarter of that of temperature. -/
def halfBus : Bus where
  transfers := [⟨.ok, fun _ => 0⟩, ⟨.ok, fun _ => 0x1C⟩,
    ⟨.ok, fun j => (frame 0x1C 524288 262144).getD j 0⟩]
  events := []

/-- A handle after a successful `aht21_init`. -/
def started : Option Handle := some { linked with inited := 1 }

theorem read_sent_half : (readTemperatureHumidity started halfBus).2.1 = some ⟨262144, 524288, 50⟩ := by
  have hsent : halfBus.buffer =
      List.zipWith (· ^^^ ·) (frame 0x1C 524288 262144) (lost 0 0 5 0#8) := by decide +kernel
  have hready : Ready started halfBus := ⟨rfl, by decide, by decide⟩
  have hpercent : humidityS 524288 = 50 :=
    UInt8.toNat_inj.mp ((humidity_rounded (by decide)).trans (by decide))
  have hread : (readTemperatureHumidity started halfBus).2.1 = some ⟨262144, 524288, humidityS 524288⟩ :=
    ((read_sent (by decide) (by decide) (by decide) (by decide) hsent).1 _).mpr ⟨hready, rfl, rfl⟩
  rw [hread, hpercent]

/-- What `readHumidityImpl` returns is the humidity in percent, rounded down, but for one raw value,
whatever the bus does. -/
theorem readHumidityImpl_percent {v : UInt8}
    (h : (readHumidityImpl handle b).1 = some v) :
    humidityRaw b.buffer < 1048576 ∧ Sealed b.buffer ∧
      v.toNat = if humidityRaw b.buffer = 828375 then 79 else humidityRaw b.buffer * 100 / 1048576 := by
  obtain ⟨hres, hbuf⟩ := readFrame_spec handle b
  have hraw := humidityRaw_lt b.buffer
  simp only [readHumidityImpl, readHumidity] at h
  by_cases h0 : (readFrame handle b).1 = 0
  · simp only [h0, ne_eq, not_true_eq_false, if_false, if_true, Option.map_some, Option.some.injEq,
      hbuf h0] at h
    exact ⟨hraw, (hres.mp h0).2, h ▸ humidity_rounded hraw⟩
  · simp [h0] at h

theorem readHumidityImpl_half : (readHumidityImpl started halfBus).1 = some 50 ∧
    (50 : UInt8).toNat =
      if humidityRaw halfBus.buffer = 828375 then 79 else humidityRaw halfBus.buffer * 100 / 1048576 := by
  have hread : (readHumidityImpl started halfBus).1 = some 50 := by decide +kernel
  exact ⟨hread, (readHumidityImpl_percent hread).2.2⟩

end Sent

/-! ## Runs -/

/-- Whether the bus is open after an event. -/
def Event.next (o : Bool) : Event → Bool
  | .init ok => ok
  | .deinit ok => o && !ok
  | _ => o

/-- Nothing is transferred on a bus that is not open. -/
def Event.Legal (o : Bool) : Event → Prop
  | .write _ => o = true
  | .read _ => o = true
  | _ => True

/-- Nothing is transferred while the bus is not open, from one that is open or not on. -/
def Legal : Bool → List Event → Prop
  | _, [] => True
  | o, e :: es => e.Legal o ∧ Legal (e.next o) es

/-- The bus is open or not, and nothing was transferred while it was not. -/
structure Bus.At (b : Bus) (o : Bool) : Prop where
  legal : Legal false b.events
  after : b.events.foldl Event.next false = o

theorem legal_append {o : Bool} {es : List Event} {e : Event} :
    Legal o (es ++ [e]) ↔ Legal o es ∧ e.Legal (es.foldl Event.next o) := by
  induction es generalizing o with
  | nil => simp [Legal]
  | cons e' es ih => simp only [List.cons_append, Legal, ih, List.foldl_cons, and_assoc]

section Run

variable {handle : Option Handle} {b : Bus} {o : Bool}

theorem Bus.At.event (h : b.At o) {e : Event} (he : e.Legal o) {b' : Bus}
    (hb : b'.events = b.events ++ [e]) : b'.At (e.next o) where
  legal := by
    rw [hb, legal_append, h.after]
    exact ⟨h.legal, he⟩
  after := by
    rw [hb, List.foldl_append, h.after]
    rfl

theorem Bus.At.write (h : b.At true) (buf : List UInt8) : (iicWrite buf b).2.At true :=
  h.event (e := .write buf) rfl rfl

theorem Bus.At.read (h : b.At true) (len : Nat) : (iicRead len b).2.2.At true :=
  h.event (e := .read len) rfl rfl

theorem Bus.At.delay (h : b.At o) (ms : Nat) : (delayMs ms b).At o :=
  h.event (e := .delay ms) trivial rfl

theorem Bus.At.print (h : b.At o) (text : String) : (debugPrint text b).At o :=
  h.event (e := .print text) trivial rfl

theorem Bus.At.init (h : b.At o) : (iicInit b).2.At (b.next.res = .ok) :=
  h.event (e := .init (b.next.res = .ok)) trivial rfl

theorem Bus.At.deinit (h : b.At o) : (iicDeinit b).2.At (o && !decide (b.next.res = .ok)) :=
  h.event (e := .deinit (b.next.res = .ok)) trivial rfl

theorem Bus.At.jhResetReg (h : b.At true) (addr : UInt8) : (jhResetReg addr b).2.At true := by
  unfold Thermometer.jhResetReg
  have hwrite := h.write [addr, 0x00, 0x00]
  revert hwrite
  generalize iicWrite [addr, 0x00, 0x00] b = r
  obtain ⟨failed, b₁⟩ := r
  intro hwrite
  have hread := (hwrite.delay 5).read 3
  dsimp only
  split
  · exact hwrite
  · revert hread
    generalize iicRead 3 (delayMs 5 b₁) = r
    obtain ⟨failed', regs, b₂⟩ := r
    intro hread
    have hback := (hread.delay 10).write [0xB0 ||| addr, regs.getD 1 0, regs.getD 2 0]
    dsimp only
    split
    · exact hread
    · split
      · exact hback
      · exact hback

theorem Bus.At.resetRegs (h : b.At true) (addrs : List UInt8) : (resetRegs addrs b).2.At true := by
  induction addrs generalizing b with
  | nil => exact h
  | cons addr addrs ih =>
    have hreset := h.jhResetReg addr
    unfold Thermometer.resetRegs
    dsimp only
    split
    · exact hreset
    · exact ih hreset

/-- A handle says that the bus is open only while it is. -/
structure Honest (handle : Option Handle) (b : Bus) : Prop where
  legal : Legal false b.events
  opened : handle.map Handle.inited = some 1 → b.events.foldl Event.next false = true

theorem Bus.At.honest (h : b.At o) {handle : Option Handle}
    (ho : handle.map Handle.inited = some 1 → o = true) : Honest handle b :=
  ⟨h.legal, fun hinited => h.after.trans (ho hinited)⟩

/-- `aht21_init` of a handle that does not say yet that the bus is open. -/
theorem start_honest (h : b.At o) {handle : Handle} (hinited : handle.inited ≠ 1) :
    Honest (some (start handle b).2.1) (start handle b).2.2 := by
  have hno : ∀ {o' : Bool}, (some handle).map Handle.inited = some 1 → o' = true :=
    fun heq => absurd (Option.some.inj heq) hinited
  have hinit := h.init
  have hfailed : (iicInit b).1 = true ↔ b.next.res ≠ .ok := decide_eq_true_iff
  unfold start
  by_cases hfail : (iicInit b).1 = true
  · simp only [hfail, if_true]
    exact (hinit.print _).honest hno
  · have hopen : (iicInit b).2.At true := by
      rwa [decide_eq_true (not_not.mp (mt hfailed.mpr hfail))] at hinit
    simp only [hfail]
    revert hopen
    generalize (iicInit b).2 = b₁
    intro hopen
    have hread := (hopen.delay 500).read 1
    revert hread
    generalize iicRead 1 (delayMs 500 b₁) = r
    obtain ⟨failed, status, b₂⟩ := r
    intro hread
    have hread : b₂.At true := hread
    have hreset : (if status.getD 0 0 &&& 0x18 ≠ 0x18 then resetRegs [0x1B, 0x1C, 0x1E] b₂
        else (0, b₂)).2.At true := by
      split
      · exact hread.resetRegs _
      · exact hread
    dsimp only
    revert hreset
    generalize (if status.getD 0 0 &&& 0x18 ≠ 0x18 then resetRegs [0x1B, 0x1C, 0x1E] b₂ else (0, b₂)) = r
    obtain ⟨res, b₃⟩ := r
    intro hreset
    have hreset : b₃.At true := hreset
    split
    · exact absurd ‹false = true› Bool.false_ne_true
    · split
      · exact ((hread.print _).deinit).honest hno
      · split
        · exact ((hreset.print _).deinit).honest hno
        · exact (hreset.delay 10).honest fun _ => rfl

theorem Bus.At.readFrame (h : b.At o) {handle : Option Handle}
    (ho : handle.map Handle.inited = some 1 → o = true) : (readFrame handle b).2.2.At o := by
  cases handle with
  | none => exact h
  | some handle =>
    unfold Thermometer.readFrame
    dsimp only
    by_cases hinited : handle.inited = 1
    · rw [if_neg (not_not.mpr hinited)]
      obtain rfl : o = true := ho (congrArg some hinited)
      have hwrite := h.write [0xAC, 0x33, 0x00]
      revert hwrite
      generalize iicWrite [0xAC, 0x33, 0x00] b = r
      obtain ⟨failed, b₁⟩ := r
      intro hwrite
      have hstatus := (Bus.At.delay hwrite 85).read 1
      dsimp only
      revert hstatus
      generalize iicRead 1 (delayMs 85 b₁) = r
      obtain ⟨failed', status, b₂⟩ := r
      intro hstatus
      have hread := Bus.At.read hstatus 7
      dsimp only
      revert hread
      generalize iicRead 7 b₂ = r
      obtain ⟨failed'', buf, b₃⟩ := r
      intro hread
      dsimp only
      split_ifs
      · exact Bus.At.print hwrite _
      · exact Bus.At.print hstatus _
      · exact Bus.At.print hread _
      · exact Bus.At.print hread _
      · exact hread
      · exact Bus.At.print hstatus _
    · rw [if_pos hinited]
      exact h

theorem Honest.at (h : Honest handle b) : b.At (b.events.foldl Event.next false) := ⟨h.legal, rfl⟩

theorem Honest.deinit (h : Honest handle b) : Honest (deinit handle b).2.1 (deinit handle b).2.2 := by
  cases handle with
  | none => exact h
  | some handle =>
    have hclose := h.at.deinit
    have hfailed : (iicDeinit b).1 = true ↔ b.next.res ≠ .ok := decide_eq_true_iff
    unfold Thermometer.deinit
    dsimp only
    by_cases hinited : handle.inited = 1
    · rw [if_neg (not_not.mpr hinited)]
      by_cases hfail : (iicDeinit b).1 = true
      · rw [if_pos hfail]
        -- the bus is as open as it was
        refine (hclose.print _).honest fun hflag => ?_
        rw [h.opened hflag, decide_eq_false (hfailed.mp hfail)]
        rfl
      · rw [if_neg hfail]
        exact hclose.honest fun hflag => absurd (Option.some.inj hflag) (show (0 : UInt8) ≠ 1 by decide)
    · rw [if_pos hinited]
      exact h

/-- One of the calls on a sensor. -/
inductive Call where
  | init
  | temperature
  | humidity
  | deinit
  deriving Repr, DecidableEq

/-- The handle of the driver, once it is linked, and the bus. -/
structure Sensor where
  handle : Option Handle
  bus : Bus

/-- What a call leaves behind. -/
def Call.run (st : Sensor) : Call → Sensor
  | .init => ⟨(initImpl st.bus).2.1, (initImpl st.bus).2.2⟩
  | .temperature => ⟨st.handle, (readTemperatureImpl st.handle st.bus).2⟩
  | .humidity => ⟨st.handle, (readHumidityImpl st.handle st.bus).2⟩
  | .deinit => ⟨(Thermometer.deinit st.handle st.bus).2.1, (Thermometer.deinit st.handle st.bus).2.2⟩

/-- A call on the sensor. -/
def SensorStep (st : Sensor) (c : Call) (st' : Sensor) : Prop := st' = c.run st

theorem preserved_honest : Preserved SensorStep fun st => Honest st.handle st.bus := by
  rintro ⟨handle, b⟩ c _ h rfl
  have h : Honest handle b := h
  have hread := h.at.readFrame h.opened
  cases c with
  | init => exact start_honest h.at (show linked.inited ≠ 1 by decide)
  | temperature => exact hread.honest h.opened
  | humidity => exact hread.honest h.opened
  | deinit => exact h.deinit

/-- In any run of calls on a sensor, whatever the bus does, nothing is transferred before `iic_init` has
succeeded or after `iic_deinit` has, and the flag of the handle does not say otherwise. -/
theorem run_opened {st st' : Sensor} {ts : List (Taken Sensor Call)}
    (hnew : st.handle.map Handle.inited ≠ some 1) (hempty : st.bus.events = [])
    (hrun : Run SensorStep st ts st') :
    Legal false st'.bus.events ∧
      (st'.handle.map Handle.inited = some 1 → st'.bus.events.foldl Event.next false = true) := by
  have hstart : Honest st.handle st.bus := by
    refine ⟨?_, fun h => absurd h hnew⟩
    rw [hempty]
    trivial
  have hend := hrun.invariant preserved_honest hstart
  exact ⟨hend.legal, hend.opened⟩

theorem run_opened_once : ∃ st', Run SensorStep ⟨none, ⟨[], []⟩⟩
    [⟨⟨none, ⟨[], []⟩⟩, .init, Call.run ⟨none, ⟨[], []⟩⟩ .init⟩] st' ∧
      st'.handle.map Handle.inited = some 1 ∧ st'.bus.events.foldl Event.next false = true := by
  have hrun : Run SensorStep ⟨none, ⟨[], []⟩⟩ _ (Call.run ⟨none, ⟨[], []⟩⟩ .init) :=
    .cons (i := Call.init) rfl (.nil _)
  have hinited : (Call.run ⟨none, ⟨[], []⟩⟩ .init).handle.map Handle.inited = some 1 := by decide
  exact ⟨_, hrun, hinited, (run_opened (show none.map Handle.inited ≠ some 1 by decide) rfl hrun).2 hinited⟩

end Run

end GenLogger.Thermometer
