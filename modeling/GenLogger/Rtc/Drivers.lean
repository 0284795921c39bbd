import GenLogger.Config.Terminal

/-!
# The clock drivers (`rtc_drv.c`, `stm429RTC`, `simulatedRTC`)

Model of the two implementations of `rtcInterface`.

* The HAL of the target is a parameter: what it answers and what it does with its 8-bit fields
  (`Hal.Stores`, `Hal.Apart`).
* On the host the getters print the system clock, and what the setters leave in `currentTime` is never
  read; `std::mktime` is a parameter too.
* No time passes between the calls of a statement.

Results:
* `readYear_storedYear_iff`: the register takes a year and gives it back from 1979 to 2234.
* `stm429_setTime`, `stm429_setDate`: a setter of the target is the call of the HAL.
* `stm429_givesBack_iff`, `simulated_givesBack_iff`, `rtc_givesBack_iff`: which settings a driver
  gives back.
-/

namespace GenLogger.Rtc

open GenLogger.Lib GenLogger.Config

variable {η : Type}

/-! ## The HAL and `rtc_drv.c` -/

/-- `RTC_TimeTypeDef`: the fields the driver uses. -/
structure RtcTime where
  hours : UInt8
  minutes : UInt8
  seconds : UInt8
  deriving Repr, DecidableEq

/-- `RTC_DateTypeDef`. -/
structure RtcDate where
  weekDay : UInt8
  month : UInt8
  date : UInt8
  year : UInt8
  deriving Repr, DecidableEq

/-- `HAL_RTC_SetTime` and its siblings over a state `η` of the peripheral, in `RTC_FORMAT_BIN`. A setter
answers `true` for `HAL_OK`. -/
structure Hal (η : Type) where
  setTime : RtcTime → η → Bool × η
  getTime : η → RtcTime
  setDate : RtcDate → η → Bool × η
  getDate : η → RtcDate

/-- The HAL stores and returns its fields unchanged, and a date leaves the time alone. -/
structure Hal.Stores (hal : Hal η) : Prop where
  time : ∀ t r r', hal.setTime t r = (true, r') → hal.getTime r' = t
  date : ∀ d r r', hal.setDate d r = (true, r') → (hal.getDate r').date = d.date ∧
    (hal.getDate r').month = d.month ∧ (hal.getDate r').year = d.year
  keeps : ∀ d r r', hal.setDate d r = (true, r') → hal.getTime r' = hal.getTime r

/-- The time and the date are registers of their own, whatever a setter answers. -/
structure Hal.Apart (hal : Hal η) : Prop where
  time : ∀ t r, hal.getDate (hal.setTime t r).2 = hal.getDate r
  date : ∀ d r, hal.getTime (hal.setDate d r).2 = hal.getTime r

/-- `rtc_set_time`. -/
def rtcSetTime (hal : Hal η) (hour minute second : UInt8) (r : η) : Int × η :=
  let (ok, r) := hal.setTime ⟨hour, minute, second⟩ r
  (if ok then 1 else -1, r)

/-- `rtc_get_time`. -/
def rtcGetTime (hal : Hal η) (r : η) : UInt8 × UInt8 × UInt8 :=
  let sTime := hal.getTime r
  (sTime.hours, sTime.minutes, sTime.seconds)

/-- `year = year - 1979; sDate.Year = year;` of `rtc_set_date`. -/
def storedYear (year : UInt16) : UInt8 := (year - 1979).toUInt8

/-- `sDate.Year + 1979` of `rtc_get_date`. -/
def readYear (year : UInt8) : UInt16 := year.toUInt16 + 1979

/-- `RTC_WEEKDAY_MONDAY`. -/
def rtcWeekdayMonday : UInt8 := 1

/-- `rtc_set_date`. -/
def rtcSetDate (hal : Hal η) (day month : UInt8) (year : UInt16) (r : η) : Int × η :=
  let (ok, r) := hal.setDate ⟨rtcWeekdayMonday, month, day, storedYear year⟩ r
  (if ok then 1 else -1, r)

/-- `rtc_get_date`. -/
def rtcGetDate (hal : Hal η) (r : η) : UInt8 × UInt8 × UInt16 :=
  let sDate := hal.getDate r
  (sDate.date, sDate.month, readYear sDate.year)

/-! ## The two clocks -/

/-- `"%02d:%02d:%02d"`. -/
def timeText (hour minute seconds : Nat) : List Byte :=
  padded 2 hour ++ 58 :: (padded 2 minute ++ 58 :: padded 2 seconds)

/-- `"%02d/%02d/%04d"`. -/
def dateText (day month year : Nat) : List Byte :=
  padded 2 day ++ 47 :: (padded 2 month ++ 47 :: padded 4 year)

/-- What `snprintf(buffer, bufferSize, …)` leaves of a text. -/
def printed (bufferSize : Nat) (text : List Byte) : CStr :=
  CStr.ofBytes (text.take (bufferSize - 1))

/-- `stm429RTC`, with the sizes of the buffers its getters are given. -/
def stm429Rtc (hal : Hal η) (timeBuff dateBuff : Nat) : RtcInterface η where
  setTime hour minute seconds r :=
    let (res, r) := rtcSetTime hal hour minute seconds r
    (if -1 = res then false else true, r)
  setDate day month year r :=
    let (res, r) := rtcSetDate hal day month year r
    (if -1 = res then false else true, r)
  getTime r :=
    let (hours, minutes, seconds) := rtcGetTime hal r
    printed timeBuff (timeText hours.toNat minutes.toNat seconds.toNat)
  getDate r :=
    let (day, month, year) := rtcGetDate hal r
    printed dateBuff (dateText day.toNat month.toNat year.toNat)

/-- `std::tm`: the fields the driver uses, and the one that tells `mktime` of daylight saving. -/
structure Tm where
  tmHour : Nat
  tmMin : Nat
  tmSec : Nat
  tmMday : Nat
  tmMon : Nat
  tmYear : Int
  tmIsdst : Int
  deriving Repr, DecidableEq

/-- `simulatedRTC::currentTime`, and the system clock as `std::localtime` shows it. -/
structure SimulatedRtc where
  currentTime : Tm
  systemTime : Tm
  deriving Repr, DecidableEq

/-- What `simulatedRTC::setTime` takes. -/
def simulatedTimeValid (hour minute seconds : UInt8) : Bool :=
  ¬ (hour > 23 ∨ minute > 59 ∨ seconds > 59)

/-- What `simulatedRTC::setDate` takes. -/
def simulatedDateValid (day month : UInt8) : Bool :=
  ¬ (day < 1 ∨ day > 31 ∨ month < 1 ∨ month > 12)

/-- `simulatedRTC`. The year the system clock shows is not negative. -/
def simulatedRtc (mktime : Tm → Tm) (timeBuff dateBuff : Nat) : RtcInterface SimulatedRtc where
  setTime hour minute seconds r :=
    if simulatedTimeValid hour minute seconds then
      (true, { r with currentTime := mktime { r.currentTime with
        tmHour := hour.toNat, tmMin := minute.toNat, tmSec := seconds.toNat } })
    else (false, r)
  setDate day month year r :=
    if simulatedDateValid day month then
      (true, { r with currentTime := mktime { r.currentTime with
        tmMday := day.toNat, tmMon := month.toNat - 1, tmYear := year.toNat - 1900 } })
    else (false, r)
  getTime r :=
    if timeBuff < 9 then CStr.ofBytes []
    else printed timeBuff (timeText r.systemTime.tmHour r.systemTime.tmMin r.systemTime.tmSec)
  getDate r :=
    if dateBuff < 11 then CStr.ofBytes []
    else printed dateBuff
      (dateText r.systemTime.tmMday (r.systemTime.tmMon + 1) (r.systemTime.tmYear + 1900).toNat)

/-! ## What a clock gives back -/

/-- The times and dates the terminal may ask for. -/
@[mk_iff]
structure Settable (t : TimeAndDate) : Prop where
  hour : 0 ≤ t.hour ∧ t.hour ≤ 23
  minute : 0 ≤ t.minute ∧ t.minute ≤ 59
  seconds : 0 ≤ t.seconds ∧ t.seconds ≤ 59
  day : 1 ≤ t.day ∧ t.day ≤ 31
  month : 1 ≤ t.month ∧ t.month ≤ 12
  year : 0 ≤ t.year ∧ t.year ≤ 9999

instance (t : TimeAndDate) : Decidable (Settable t) := decidable_of_iff' _ (settable_iff t)

/-- `HH:MM:SS`. -/
def timeOf (t : TimeAndDate) : List Byte := timeText t.hour.toNat t.minute.toNat t.seconds.toNat

/-- `DD/MM/YYYY`. -/
def dateOf (t : TimeAndDate) : List Byte := dateText t.day.toNat t.month.toNat t.year.toNat

section

variable {ρ : Type} (clock : RtcInterface ρ)

/-- `setTime` with the numbers of `t`, as the terminal calls it. -/
def callSetTime (t : TimeAndDate) (r : ρ) : Bool × ρ :=
  clock.setTime (UInt8.ofInt t.hour) (UInt8.ofInt t.minute) (UInt8.ofInt t.seconds) r

/-- `setDate` with the numbers of `t`. -/
def callSetDate (t : TimeAndDate) (r : ρ) : Bool × ρ :=
  clock.setDate (UInt8.ofInt t.day) (UInt8.ofInt t.month) (UInt16.ofInt t.year) r

/-- The clock shows the time and the date of `t`. -/
def Shows (t : TimeAndDate) (r : ρ) : Prop :=
  (clock.getTime r).bytes = timeOf t ∧ (clock.getDate r).bytes = dateOf t

/-- **Set and get.** After both setters took `t`, the getters show it; and a date that the clock cannot
show is refused. -/
structure GivesBack (t : TimeAndDate) (r : ρ) : Prop where
  shows : (callSetTime clock t r).1 = true →
    (callSetDate clock t (callSetTime clock t r).2).1 = true →
    Shows clock t (callSetDate clock t (callSetTime clock t r).2).2
  refuses : (∀ r' : ρ, (clock.getDate r').bytes ≠ dateOf t) →
    (callSetDate clock t (callSetTime clock t r).2).1 = false

end

/-! ### Texts -/

theorem ofInt_toNat8 {i : Int} (h0 : 0 ≤ i) (h : i < 256) : (UInt8.ofInt i).toNat = i.toNat := by
  show (UInt8.ofNat (i % 256).toNat).toNat = _
  rw [Int.emod_eq_of_lt h0 h, UInt8.toNat_ofNat']
  exact Nat.mod_eq_of_lt (by omega)

theorem ofInt_toNat16 {i : Int} (h0 : 0 ≤ i) (h : i < 65536) : (UInt16.ofInt i).toNat = i.toNat := by
  show (UInt16.ofNat (i % 65536).toNat).toNat = _
  rw [Int.emod_eq_of_lt h0 h, UInt16.toNat_ofNat']
  exact Nat.mod_eq_of_lt (by omega)

/-- The register takes a year and gives it back from 1979 to 2234. -/
theorem readYear_storedYear_iff (year : UInt16) :
    readYear (storedYear year) = year ↔ 1979 ≤ year.toNat ∧ year.toNat ≤ 2234 := by
  have hyear := year.toNat_lt
  have hread : (readYear (storedYear year)).toNat =
      ((65536 - 1979 + year.toNat) % 65536 % 256 + 1979) % 65536 := by
    unfold readYear storedYear
    rw [UInt16.toNat_add, UInt8.toNat_toUInt16, UInt16.toNat_toUInt8, UInt16.toNat_sub]
    rfl
  rw [← UInt16.toNat_inj, hread]
  omega

/-- The year a register gives. -/
theorem readYear_range (year : UInt8) :
    1979 ≤ (readYear year).toNat ∧ (readYear year).toNat ≤ 2234 := by
  have hyear := year.toNat_lt
  have hread : (readYear year).toNat = (year.toNat + 1979) % 65536 := by
    unfold readYear
    rw [UInt16.toNat_add, UInt8.toNat_toUInt16]
    rfl
  omega

theorem nul_notMem_padded (w n : Nat) : (0 : Byte) ∉ padded w n := notMem_padded rfl w n

theorem nul_notMem_timeText (hour minute seconds : Nat) : (0 : Byte) ∉ timeText hour minute seconds := by
  simp [timeText, nul_notMem_padded]

theorem nul_notMem_dateText (day month year : Nat) : (0 : Byte) ∉ dateText day month year := by
  simp [dateText, nul_notMem_padded]

/-- A text that fits is printed whole. -/
theorem printed_bytes {n : Nat} {text : List Byte} (h0 : (0 : Byte) ∉ text) :
    (printed n text).bytes = text.take (n - 1) :=
  upToNul_eq_self fun h => h0 (List.mem_of_mem_take h)

theorem timeOf_printed {n : Nat} (hn : 9 ≤ n) {t : TimeAndDate} (ht : Settable t) :
    (printed n (timeOf t)).bytes = timeOf t := by
  obtain ⟨hh, hm, hs, -⟩ := ht
  have hlen : (timeOf t).length = 8 := by
    unfold timeOf timeText
    simp only [List.length_append, List.length_cons]
    rw [padded_length (by decide) (by omega), padded_length (by decide) (by omega),
      padded_length (by decide) (by omega)]
  have hfits : (timeOf t).length ≤ n - 1 := by omega
  exact (printed_bytes (nul_notMem_timeText _ _ _)).trans (List.take_of_length_le hfits)

theorem dateOf_printed {n : Nat} (hn : 11 ≤ n) {t : TimeAndDate} (ht : Settable t) :
    (printed n (dateOf t)).bytes = dateOf t := by
  obtain ⟨-, -, -, hd, hm, hy⟩ := ht
  have hlen : (dateOf t).length = 10 := by
    unfold dateOf dateText
    simp only [List.length_append, List.length_cons]
    rw [padded_length (by decide) (by omega), padded_length (by decide) (by omega),
      padded_length (by decide) (by omega)]
  have hfits : (dateOf t).length ≤ n - 1 := by omega
  exact (printed_bytes (nul_notMem_dateText _ _ _)).trans (List.take_of_length_le hfits)

/-- Two numbers and what follows them behind a slash. -/
theorem padded_slash_inj {w n m : Nat} {l l' : List Byte}
    (h : padded w n ++ 47 :: l = padded w m ++ 47 :: l') : l = l' := by
  have hdigits : ∀ k (r : List Byte), leadingDigits (padded w k ++ 47 :: r) = padded w k := by
    intro k r
    unfold leadingDigits
    rw [List.takeWhile_append_of_pos fun b hb => isDigit_of_mem_padded hb,
      List.takeWhile_cons_of_neg (by decide), List.append_nil]
  have hpad := congrArg leadingDigits h
  rw [hdigits, hdigits] at hpad
  rw [hpad] at h
  exact (List.cons.inj (List.append_cancel_left h)).2

/-- A date that is printed, cut off or not, shows the year. -/
theorem dateText_year {day month year day' month' year' k : Nat} (hyear : year < 10000)
    (hyear' : year' < 10000)
    (h : (dateText day' month' year').take k = dateText day month year) : year' = year := by
  have hsplit := List.take_append_drop k (dateText day' month' year')
  rw [h] at hsplit
  generalize (dateText day' month' year').drop k = r at hsplit
  unfold dateText at hsplit
  rw [List.append_assoc, List.cons_append, List.append_assoc, List.cons_append] at hsplit
  have hrest := padded_slash_inj (padded_slash_inj hsplit)
  have hlen := congrArg List.length hrest
  rw [List.length_append, padded_length (by decide) hyear, padded_length (by decide) hyear'] at hlen
  rw [List.eq_nil_of_length_eq_zero (by omega : r.length = 0), List.append_nil] at hrest
  exact (padded_inj hrest).symm

/-! ### The target -/

/-- The call of the HAL in `rtc_set_time`. -/
def halSetTime (hal : Hal η) (t : TimeAndDate) (r : η) : Bool × η :=
  hal.setTime ⟨UInt8.ofInt t.hour, UInt8.ofInt t.minute, UInt8.ofInt t.seconds⟩ r

/-- The call of the HAL in `rtc_set_date`. -/
def halSetDate (hal : Hal η) (t : TimeAndDate) (r : η) : Bool × η :=
  hal.setDate ⟨rtcWeekdayMonday, UInt8.ofInt t.month, UInt8.ofInt t.day,
    storedYear (UInt16.ofInt t.year)⟩ r

section

variable {hal : Hal η} {timeBuff dateBuff : Nat} {t : TimeAndDate} {r : η}

theorem ok_of_result (ok : Bool) : (if (-1 : Int) = (if ok then 1 else -1) then false else true) = ok := by
  cases ok <;> rfl

theorem stm429_setTime :
    callSetTime (stm429Rtc hal timeBuff dateBuff) t r = halSetTime hal t r :=
  Prod.ext (ok_of_result _) rfl

theorem stm429_setDate :
    callSetDate (stm429Rtc hal timeBuff dateBuff) t r = halSetDate hal t r :=
  Prod.ext (ok_of_result _) rfl

/-- The years the register has. -/
def InRegister (year : Int) : Prop := 1979 ≤ year ∧ year ≤ 2234

theorem settable_year (ht : Settable t) : (UInt16.ofInt t.year).toNat = t.year.toNat :=
  ofInt_toNat16 ht.year.1 (by have := ht.year.2; omega)

/-- A date the HAL took is shown, if the register has its year. -/
theorem stm429_showsDate (hstores : hal.Stores) (ht : Settable t) (hdate : 11 ≤ dateBuff)
    (hyear : InRegister t.year) (h : (halSetDate hal t r).1 = true) :
    ((stm429Rtc hal timeBuff dateBuff).getDate (halSetDate hal t r).2).bytes = dateOf t := by
  obtain ⟨hd, hm, hy⟩ := hstores.date _ r (halSetDate hal t r).2 (Prod.ext h rfl)
  have hread : readYear (storedYear (UInt16.ofInt t.year)) = UInt16.ofInt t.year := by
    rw [readYear_storedYear_iff, settable_year ht]
    obtain ⟨h1, h2⟩ := hyear
    omega
  have hday := ht.day
  have hmonth := ht.month
  show (printed dateBuff (dateText (hal.getDate _).date.toNat (hal.getDate _).month.toNat
    (readYear (hal.getDate _).year).toNat)).bytes = _
  rw [hd, hm, hy, hread, settable_year ht]
  dsimp only
  rw [ofInt_toNat8 (by omega) (by omega), ofInt_toNat8 (by omega) (by omega)]
  exact dateOf_printed hdate ht

/-- A time the HAL took is shown, also after a date. -/
theorem stm429_showsTime (hstores : hal.Stores) (ht : Settable t) (htime : 9 ≤ timeBuff)
    (h : (halSetTime hal t r).1 = true)
    (hdate : (halSetDate hal t (halSetTime hal t r).2).1 = true) :
    ((stm429Rtc hal timeBuff dateBuff).getTime (halSetDate hal t (halSetTime hal t r).2).2).bytes =
      timeOf t := by
  have hset := hstores.time _ r (halSetTime hal t r).2 (Prod.ext h rfl)
  have hkeep := hstores.keeps _ (halSetTime hal t r).2 (halSetDate hal t (halSetTime hal t r).2).2
    (Prod.ext hdate rfl)
  have hh := ht.hour
  have hm := ht.minute
  have hs := ht.seconds
  show (printed timeBuff (timeText (hal.getTime _).hours.toNat (hal.getTime _).minutes.toNat
    (hal.getTime _).seconds.toNat)).bytes = _
  rw [hkeep, hset]
  dsimp only
  rw [ofInt_toNat8 (by omega) (by omega), ofInt_toNat8 (by omega) (by omega),
    ofInt_toNat8 (by omega) (by omega)]
  exact timeOf_printed htime ht

/-- No register shows a year it does not have. -/
theorem stm429_never_shows (ht : Settable t) (hyear : ¬ InRegister t.year) (r : η) :
    ((stm429Rtc hal timeBuff dateBuff).getDate r).bytes ≠ dateOf t := by
  intro h
  have hprint : (printed dateBuff (dateText (hal.getDate r).date.toNat (hal.getDate r).month.toNat
      (readYear (hal.getDate r).year).toNat)).bytes = dateOf t := h
  rw [printed_bytes (nul_notMem_dateText _ _ _)] at hprint
  obtain ⟨h1, h2⟩ := readYear_range (hal.getDate r).year
  obtain ⟨hy1, hy2⟩ := ht.year
  have heq := dateText_year (by omega) (by omega) hprint
  exact hyear ⟨by omega, by omega⟩

/-- **The target gives back** what the HAL refuses no part of, if the register has the year. -/
theorem stm429_givesBack_iff (hstores : hal.Stores) (ht : Settable t) (htime : 9 ≤ timeBuff)
    (hdate : 11 ≤ dateBuff) : GivesBack (stm429Rtc hal timeBuff dateBuff) t r ↔
      InRegister t.year ∨ (halSetDate hal t (halSetTime hal t r).2).1 = false := by
  constructor
  · intro h
    by_cases hyear : InRegister t.year
    · exact Or.inl hyear
    · have href := h.refuses (stm429_never_shows ht hyear)
      rw [stm429_setTime, stm429_setDate] at href
      exact Or.inr href
  · intro h
    constructor
    · rw [stm429_setTime, stm429_setDate]
      intro htaken hdtaken
      rcases h with hyear | href
      · exact ⟨stm429_showsTime hstores ht htime htaken hdtaken,
          stm429_showsDate hstores ht hdate hyear hdtaken⟩
      · exact absurd (hdtaken.symm.trans href) (by decide)
    · rw [stm429_setTime, stm429_setDate]
      intro hnone
      rcases h with hyear | href
      · by_contra hno
        exact hnone _ (stm429_showsDate hstores ht hdate hyear ((Bool.not_eq_false _).mp hno))
      · exact href

end

/-! ### The host -/

section

variable (mktime : Tm → Tm) (timeBuff dateBuff : Nat) {t : TimeAndDate} {r : SimulatedRtc}

/-- `simulatedRTC` takes what the terminal may ask for, and the system clock stays. -/
theorem simulated_setTime (ht : Settable t) (r : SimulatedRtc) :
    (callSetTime (simulatedRtc mktime timeBuff dateBuff) t r).1 = true ∧
      (callSetTime (simulatedRtc mktime timeBuff dateBuff) t r).2.systemTime = r.systemTime := by
  obtain ⟨hh, hm, hs, -⟩ := ht
  have hvalid : simulatedTimeValid (UInt8.ofInt t.hour) (UInt8.ofInt t.minute)
      (UInt8.ofInt t.seconds) = true := by
    simp only [simulatedTimeValid, gt_iff_lt, UInt8.lt_iff_toNat_lt, decide_eq_true_eq]
    rw [ofInt_toNat8 (by omega) (by omega), ofInt_toNat8 (by omega) (by omega),
      ofInt_toNat8 (by omega) (by omega)]
    show ¬ (23 < _ ∨ 59 < _ ∨ 59 < _)
    omega
  unfold callSetTime simulatedRtc
  dsimp only
  rw [if_pos hvalid]
  exact ⟨rfl, rfl⟩

theorem simulated_setDate (ht : Settable t) (r : SimulatedRtc) :
    (callSetDate (simulatedRtc mktime timeBuff dateBuff) t r).1 = true ∧
      (callSetDate (simulatedRtc mktime timeBuff dateBuff) t r).2.systemTime = r.systemTime := by
  obtain ⟨-, -, -, hd, hm, -⟩ := ht
  have hvalid : simulatedDateValid (UInt8.ofInt t.day) (UInt8.ofInt t.month) = true := by
    simp only [simulatedDateValid, gt_iff_lt, UInt8.lt_iff_toNat_lt, decide_eq_true_eq]
    rw [ofInt_toNat8 (by omega) (by omega), ofInt_toNat8 (by omega) (by omega)]
    show ¬ (_ < 1 ∨ 31 < _ ∨ _ < 1 ∨ 12 < _)
    omega
  unfold callSetDate simulatedRtc
  dsimp only
  rw [if_pos hvalid]
  exact ⟨rfl, rfl⟩

/-- What the clock shows is the system clock. -/
theorem simulated_shows_congr {r' : SimulatedRtc} (h : r'.systemTime = r.systemTime) :
    Shows (simulatedRtc mktime timeBuff dateBuff) t r' ↔
      Shows (simulatedRtc mktime timeBuff dateBuff) t r := by
  unfold Shows simulatedRtc
  dsimp only
  rw [h]

/-- Some system clock shows the date. -/
theorem simulated_can_show (ht : Settable t) (hdate : 11 ≤ dateBuff) : ∃ r' : SimulatedRtc,
    ((simulatedRtc mktime timeBuff dateBuff).getDate r').bytes = dateOf t := by
  let shown : Tm := ⟨0, 0, 0, t.day.toNat, t.month.toNat - 1, t.year - 1900, 0⟩
  refine ⟨⟨shown, shown⟩, ?_⟩
  have hmonth : t.month.toNat - 1 + 1 = t.month.toNat := by
    have := ht.month.1
    omega
  unfold simulatedRtc
  simp only [shown]
  rw [if_neg (by omega), hmonth, Int.sub_add_cancel]
  exact dateOf_printed hdate ht

/-- **The host gives back** what its system clock showed anyway. -/
theorem simulated_givesBack_iff (ht : Settable t) (hdate : 11 ≤ dateBuff) :
    GivesBack (simulatedRtc mktime timeBuff dateBuff) t r ↔
      Shows (simulatedRtc mktime timeBuff dateBuff) t r := by
  obtain ⟨htaken, hsys⟩ := simulated_setTime mktime timeBuff dateBuff ht r
  obtain ⟨hdtaken, hsys'⟩ := simulated_setDate mktime timeBuff dateBuff ht
    (callSetTime (simulatedRtc mktime timeBuff dateBuff) t r).2
  have hcongr := simulated_shows_congr mktime timeBuff dateBuff (t := t) (hsys'.trans hsys)
  constructor
  · intro h
    exact hcongr.mp (h.shows htaken hdtaken)
  · intro h
    refine ⟨fun _ _ => hcongr.mpr h, fun hnone => ?_⟩
    obtain ⟨r', hr'⟩ := simulated_can_show mktime timeBuff dateBuff ht hdate
    exact absurd hr' (hnone r')

end

/-! ### Both -/

/-- **Which settings are given back.** The target, over a HAL that stores its fields, gives back exactly
the years its register has, and refuses others only where the HAL does; the host gives back exactly
what its system clock shows. -/
theorem rtc_givesBack_iff (hal : Hal η) (hstores : hal.Stores) (mktime : Tm → Tm)
    (timeBuff dateBuff : Nat) (htime : 9 ≤ timeBuff) (hdate : 11 ≤ dateBuff) (t : TimeAndDate)
    (ht : Settable t) (r : η) (sim : SimulatedRtc) :
    (GivesBack (stm429Rtc hal timeBuff dateBuff) t r ↔
      InRegister t.year ∨ (halSetDate hal t (halSetTime hal t r).2).1 = false) ∧
    (GivesBack (simulatedRtc mktime timeBuff dateBuff) t sim ↔
      Shows (simulatedRtc mktime timeBuff dateBuff) t sim) :=
  ⟨stm429_givesBack_iff hstores ht htime hdate, simulated_givesBack_iff _ _ _ ht hdate⟩

/-- A HAL that takes everything: two registers. -/
def registers : Hal (RtcTime × RtcDate) where
  setTime t r := (true, (t, r.2))
  getTime r := r.1
  setDate d r := (true, (r.1, d))
  getDate r := r.2

theorem registers_stores : registers.Stores where
  time _ _ _ h := congrArg (fun p : Bool × RtcTime × RtcDate => p.2.1) h.symm
  date d r r' h := by
    cases h
    exact ⟨rfl, rfl, rfl⟩
  keeps _ r _ h := congrArg (fun p : Bool × RtcTime × RtcDate => p.2.1) h.symm

theorem registers_apart : registers.Apart := ⟨fun _ _ => rfl, fun _ _ => rfl⟩

/-- The registers after reset, and a host at noon of 1 January 2025. -/
def resetRegisters : RtcTime × RtcDate := (⟨0, 0, 0⟩, ⟨1, 1, 1, 0⟩)

/-- A host at noon of 1 January 2025. -/
def newYearHost : SimulatedRtc where
  currentTime := ⟨12, 0, 0, 1, 0, 125, 0⟩
  systemTime := ⟨12, 0, 0, 1, 0, 125, 0⟩

theorem settable_may : Settable ⟨14, 30, 45, 23, 5, 2025⟩ := by decide

theorem rtc_givesBack_may :
    GivesBack (stm429Rtc registers 9 15) ⟨14, 30, 45, 23, 5, 2025⟩ resetRegisters ∧
      ¬ GivesBack (simulatedRtc id 9 15) ⟨14, 30, 45, 23, 5, 2025⟩ newYearHost := by
  obtain ⟨hstm, hsim⟩ := rtc_givesBack_iff registers registers_stores id 9 15 (by decide) (by decide)
    ⟨14, 30, 45, 23, 5, 2025⟩ settable_may resetRegisters newYearHost
  have hshows : ¬ Shows (simulatedRtc id 9 15) ⟨14, 30, 45, 23, 5, 2025⟩ newYearHost := by
    unfold Shows
    decide
  exact ⟨hstm.mpr (Or.inl ⟨by decide, by decide⟩), fun h => hshows (hsim.mp h)⟩

/-- 1 January 1970: the target takes it and shows 2226, the host takes it and shows its own date. -/
theorem rtc_epoch_fails :
    ¬ GivesBack (stm429Rtc registers 9 15) ⟨12, 0, 0, 1, 1, 1970⟩ resetRegisters ∧
      ¬ GivesBack (simulatedRtc id 9 15) ⟨12, 0, 0, 1, 1, 1970⟩ newYearHost := by
  constructor
  · intro h
    have hdate := (h.shows rfl rfl).2
    exact absurd hdate (by decide)
  · intro h
    have hdate := (h.shows rfl rfl).2
    exact absurd hdate (by decide)

end GenLogger.Rtc
