import GenLogger.Config.Menu
import GenLogger.Config.RoundTrip
import GenLogger.Lib.Calendar
import GenLogger.Rtc.Drivers

/-!
# Setting the clock

The payload of `T` calls `setTime` and, where that takes the time, `setDate`. What the clock has
afterwards is read where the driver keeps it: in the registers of the peripheral on the target
(`targetNumbers`), in `currentTime` on the host (`hostNumbers`).

Two things go wrong. Where the time is taken and the date is not, the clock is half set and the
terminal only prints an error; the parser lets negative numbers through, so a day `-1` does this on
the host. And a date that is taken need not be the one that is stored: the register of the target has
the years 1979 to 2234, and `mktime` makes 3 March of 31 February.

* `SetWhole` is all or nothing as the user sees it, `DriverWhole` the same of the two calls of a
  driver.
* The HAL stores what it takes (`Hal.Stores`) and keeps its two registers apart (`Hal.Apart`), and may
  refuse anything; `mktime` is any function.
* `TargetWhole` and `HostWhole` are the conditions, on the payload, on what was there, and on what the
  HAL refuses or `mktime` makes of a time.

Results:
* `enterTime_whole_iff`: what a driver has to do for a payload to set the clock as a whole or not at
  all.
* `target_whole_iff`, `host_whole_iff`: for which payloads and clocks the two drivers do.
* `hostWhole_of_real`, `real_of_host_set`: where `mktime` leaves real times alone, these are the dates
  of the calendar.
* `clock_whole_iff`: both drivers, from the call of the handler.
-/

namespace GenLogger.Config

open GenLogger.Lib GenLogger.Platform GenLogger.Rtc

/-! ## What the setters are called with -/

/-- The arguments of `setTime`. -/
structure ClockTime where
  hour : UInt8
  minute : UInt8
  seconds : UInt8
  deriving Repr, DecidableEq

/-- The arguments of `setDate`. -/
structure ClockDate where
  day : UInt8
  month : UInt8
  year : UInt16
  deriving Repr, DecidableEq

/-- The arguments of the two. -/
structure ClockState where
  time : ClockTime
  date : ClockDate
  deriving Repr, DecidableEq

/-- The time and the date a payload asks for, after the casts. -/
def timeArgs (t : TimeAndDate) : ClockTime :=
  ⟨UInt8.ofInt t.hour, UInt8.ofInt t.minute, UInt8.ofInt t.seconds⟩

/-- The same of the date. -/
def dateArgs (t : TimeAndDate) : ClockDate :=
  ⟨UInt8.ofInt t.day, UInt8.ofInt t.month, UInt16.ofInt t.year⟩

/-- The arguments are the numbers of `t`. -/
structure ClockState.Holds (r : ClockState) (t : TimeAndDate) : Prop where
  hour : (r.time.hour.toNat : Int) = t.hour
  minute : (r.time.minute.toNat : Int) = t.minute
  seconds : (r.time.seconds.toNat : Int) = t.seconds
  day : (r.date.day.toNat : Int) = t.day
  month : (r.date.month.toNat : Int) = t.month
  year : (r.date.year.toNat : Int) = t.year

/-- No number of `t` is negative. -/
structure TimeAndDate.NonNegative (t : TimeAndDate) : Prop where
  hour : 0 ≤ t.hour
  minute : 0 ≤ t.minute
  seconds : 0 ≤ t.seconds
  day : 0 ≤ t.day
  month : 0 ≤ t.month
  year : 0 ≤ t.year

/-- A byte keeps a number of the parser exactly where it is not negative. -/
theorem cast8_iff {i : Int} (h : i < 256) : ((UInt8.ofInt i).toNat : Int) = i ↔ 0 ≤ i := by
  constructor
  · intro heq
    omega
  · intro h0
    rw [ofInt_toNat8 h0 h, Int.toNat_of_nonneg h0]

/-- The casts keep the numbers exactly where none is negative. -/
theorem holds_args_iff {t : TimeAndDate} (hin : t.InBounds) :
    (⟨timeArgs t, dateArgs t⟩ : ClockState).Holds t ↔ t.NonNegative := by
  obtain ⟨hh, hm, hs, hd, hmo, hy⟩ := hin
  constructor
  · rintro ⟨h1, h2, h3, h4, h5, h6⟩
    exact ⟨by omega, by omega, by omega, by omega, by omega, by omega⟩
  · rintro ⟨h1, h2, h3, h4, h5, h6⟩
    have hcast16 : ((UInt16.ofInt t.year).toNat : Int) = t.year := by
      rw [ofInt_toNat16 h6 (by omega), Int.toNat_of_nonneg h6]
    exact ⟨(cast8_iff (by omega)).mpr h1, (cast8_iff (by omega)).mpr h2, (cast8_iff (by omega)).mpr h3,
      (cast8_iff (by omega)).mpr h4, (cast8_iff (by omega)).mpr h5, hcast16⟩

/-! ## Any driver -/

variable {σ ρ η : Type}

/-- **All or nothing**: the terminal says so and the clock has the numbers of the payload, or it has what
it had. -/
def SetWhole (numbers : ρ → TimeAndDate) (b : CStr) (c c' : ConfigSubsystem σ ρ) : Prop :=
  (c'.console = c.console ++ [.text "RTC configured\r\n"] ∧
      parseTimeAndDate (some b) = some (numbers c'.rtc)) ∨
    numbers c'.rtc = numbers c.rtc

/-- The calls of the driver with the numbers of `t` set all of them, or change nothing. -/
structure DriverWhole (clock : RtcInterface ρ) (numbers : ρ → TimeAndDate) (t : TimeAndDate) (r : ρ) :
    Prop where
  noTime : (callSetTime clock t r).1 = false → numbers (callSetTime clock t r).2 = numbers r
  noDate : (callSetTime clock t r).1 = true →
    (callSetDate clock t (callSetTime clock t r).2).1 = false →
      numbers (callSetDate clock t (callSetTime clock t r).2).2 = numbers r
  both : (callSetTime clock t r).1 = true →
    (callSetDate clock t (callSetTime clock t r).2).1 = true →
      numbers (callSetDate clock t (callSetTime clock t r).2).2 = t ∨
        numbers (callSetDate clock t (callSetTime clock t r).2).2 = numbers r

section

variable {b : CStr} {c : ConfigSubsystem σ ρ} {t : TimeAndDate}

theorem enterTime_refused (clock : RtcInterface ρ) (c : ConfigSubsystem σ ρ)
    (h : parseTimeAndDate (some b) = none) : (enterTime clock b c).rtc = c.rtc := by
  unfold enterTime
  rw [h]
  rfl

/-- The two calls of a payload that is parsed. -/
theorem enterTime_calls (clock : RtcInterface ρ) (c : ConfigSubsystem σ ρ)
    (h : parseTimeAndDate (some b) = some t) : enterTime clock b c =
      if (callSetTime clock t c.rtc).1 then
        { c with rtc := (callSetDate clock t (callSetTime clock t c.rtc).2).2 }.print
          (if (callSetDate clock t (callSetTime clock t c.rtc).2).1 then "RTC configured\r\n"
            else "Error configuring RTC\r\n")
      else { c with rtc := (callSetTime clock t c.rtc).2 }.print "Error configuring RTC\r\n" := by
  unfold enterTime
  rw [h]
  rfl

/-- Printing appends. -/
theorem print_console_ne {s s' : String} (h : s ≠ s') (c : ConfigSubsystem σ ρ) :
    (c.print s).console ≠ c.console ++ [.text s'] := by
  intro heq
  have htext := List.append_cancel_left heq
  exact h (Output.text.inj (List.cons.inj htext).1)

/-- **The payload in the driver's hands.** -/
theorem enterTime_whole_iff (clock : RtcInterface ρ) (numbers : ρ → TimeAndDate) (b : CStr)
    (c : ConfigSubsystem σ ρ) : SetWhole numbers b c (enterTime clock b c) ↔
      ∀ t, parseTimeAndDate (some b) = some t → DriverWhole clock numbers t c.rtc := by
  cases hparse : parseTimeAndDate (some b) with
  | none =>
    have hkept : numbers (enterTime clock b c).rtc = numbers c.rtc := by
      rw [enterTime_refused clock c hparse]
    exact iff_of_true (Or.inr hkept) fun _ h => absurd h.symm (Option.some_ne_none _)
  | some t =>
    rw [enterTime_calls clock c hparse]
    unfold SetWhole
    rw [hparse]
    cases htime : (callSetTime clock t c.rtc).1 with
    | false =>
      constructor
      · rintro (⟨hprint, -⟩ | hkept) u hu
        · exact absurd hprint (print_console_ne (by decide) _)
        · cases hu
          exact ⟨fun _ => hkept, fun h => absurd (htime.symm.trans h) (by decide),
            fun h => absurd (htime.symm.trans h) (by decide)⟩
      · intro h
        exact Or.inr ((h t rfl).noTime htime)
    | true =>
      cases hdate : (callSetDate clock t (callSetTime clock t c.rtc).2).1 with
      | false =>
        constructor
        · rintro (⟨hprint, -⟩ | hkept) u hu
          · exact absurd hprint (print_console_ne (by decide) _)
          · cases hu
            exact ⟨fun h => absurd (htime.symm.trans h) (by decide), fun _ _ => hkept,
              fun _ h => absurd (hdate.symm.trans h) (by decide)⟩
        · intro h
          exact Or.inr ((h t rfl).noDate htime hdate)
      | true =>
        constructor
        · intro h u hu
          cases hu
          refine ⟨fun h => absurd (htime.symm.trans h) (by decide),
            fun _ h => absurd (hdate.symm.trans h) (by decide), fun _ _ => ?_⟩
          exact h.imp (fun hset => (Option.some.inj hset.2).symm) id
        · intro h
          exact ((h t rfl).both htime hdate).imp (fun hset => ⟨rfl, congrArg some hset.symm⟩) id

end

/-! ## The target -/

/-- What `rtc_get_time` and `rtc_get_date` read. -/
def targetNumbers (hal : Hal η) (r : η) : TimeAndDate where
  hour := (rtcGetTime hal r).1.toNat
  minute := (rtcGetTime hal r).2.1.toNat
  seconds := (rtcGetTime hal r).2.2.toNat
  day := (rtcGetDate hal r).1.toNat
  month := (rtcGetDate hal r).2.1.toNat
  year := (rtcGetDate hal r).2.2.toNat

/-- The time `setTime` would write is there already. -/
def TimeThere (hal : Hal η) (t : TimeAndDate) (r : η) : Prop :=
  rtcGetTime hal r = (UInt8.ofInt t.hour, UInt8.ofInt t.minute, UInt8.ofInt t.seconds)

/-- The date `setDate` would write is there already. -/
def DateThere (hal : Hal η) (t : TimeAndDate) (r : η) : Prop :=
  rtcGetDate hal r =
    (UInt8.ofInt t.day, UInt8.ofInt t.month, readYear (storedYear (UInt16.ofInt t.year)))

/-- A register the HAL refuses to set is left alone; where it refuses the date only, the time was there
before; and where it takes both, no number is negative and the register has the year, or both were there
before. -/
structure TargetWhole (hal : Hal η) (t : TimeAndDate) (r : η) : Prop where
  noTime : (halSetTime hal t r).1 = false →
    rtcGetTime hal (halSetTime hal t r).2 = rtcGetTime hal r
  noDate : (halSetTime hal t r).1 = true → (halSetDate hal t (halSetTime hal t r).2).1 = false →
    TimeThere hal t r ∧
      rtcGetDate hal (halSetDate hal t (halSetTime hal t r).2).2 = rtcGetDate hal r
  both : (halSetTime hal t r).1 = true → (halSetDate hal t (halSetTime hal t r).2).1 = true →
    t.NonNegative ∧ InRegister t.year ∨ TimeThere hal t r ∧ DateThere hal t r

section Target

variable {hal : Hal η} {t : TimeAndDate} {r r' : η}

/-- The numbers are those of the two getters. -/
theorem targetNumbers_inj : targetNumbers hal r' = targetNumbers hal r ↔
    rtcGetTime hal r' = rtcGetTime hal r ∧ rtcGetDate hal r' = rtcGetDate hal r := by
  constructor
  · intro h
    have hbyte : ∀ {a b : UInt8}, (a.toNat : Int) = b.toNat → a = b := fun heq =>
      UInt8.toNat_inj.mp (Int.ofNat_inj.mp heq)
    have hyear : (rtcGetDate hal r').2.2 = (rtcGetDate hal r).2.2 :=
      UInt16.toNat_inj.mp (Int.ofNat_inj.mp (congrArg TimeAndDate.year h))
    exact ⟨Prod.ext (hbyte (congrArg TimeAndDate.hour h)) (Prod.ext
        (hbyte (congrArg TimeAndDate.minute h)) (hbyte (congrArg TimeAndDate.seconds h))),
      Prod.ext (hbyte (congrArg TimeAndDate.day h)) (Prod.ext
        (hbyte (congrArg TimeAndDate.month h)) hyear)⟩
  · rintro ⟨htime, hdate⟩
    unfold targetNumbers
    rw [htime, hdate]

/-- The register gives a year of the parser back where it has it. -/
theorem register_year_iff {year : Int} (h : year ≤ 9999) :
    ((readYear (storedYear (UInt16.ofInt year))).toNat : Int) = year ↔ InRegister year := by
  constructor
  · intro heq
    obtain ⟨h1, h2⟩ := readYear_range (storedYear (UInt16.ofInt year))
    exact ⟨by omega, by omega⟩
  · rintro ⟨h1, h2⟩
    have hcast := ofInt_toNat16 (by omega : 0 ≤ year) (by omega)
    have hread := (readYear_storedYear_iff (UInt16.ofInt year)).mpr (by omega)
    rw [hread, hcast]
    omega

/-- A time the HAL took is what is read, and what it does with the date later does not matter. -/
theorem time_read (hstores : hal.Stores) (h : (halSetTime hal t r).1 = true) :
    rtcGetTime hal (halSetTime hal t r).2 =
      (UInt8.ofInt t.hour, UInt8.ofInt t.minute, UInt8.ofInt t.seconds) := by
  have hset := hstores.time _ r (halSetTime hal t r).2 (Prod.ext h rfl)
  unfold rtcGetTime
  rw [hset]

/-- A date the HAL took is what is read, but for the year. -/
theorem date_read (hstores : hal.Stores) (h : (halSetDate hal t r).1 = true) :
    rtcGetDate hal (halSetDate hal t r).2 =
      (UInt8.ofInt t.day, UInt8.ofInt t.month, readYear (storedYear (UInt16.ofInt t.year))) := by
  obtain ⟨hd, hm, hy⟩ := hstores.date _ r (halSetDate hal t r).2 (Prod.ext h rfl)
  exact Prod.ext hd (Prod.ext hm (congrArg readYear hy))

/-- What was written is the payload where no number is negative and the register has the year. -/
theorem target_set_iff (hin : t.InBounds)
    (htime : rtcGetTime hal r = (UInt8.ofInt t.hour, UInt8.ofInt t.minute, UInt8.ofInt t.seconds))
    (hdate : rtcGetDate hal r =
      (UInt8.ofInt t.day, UInt8.ofInt t.month, readYear (storedYear (UInt16.ofInt t.year)))) :
    targetNumbers hal r = t ↔ t.NonNegative ∧ InRegister t.year := by
  obtain ⟨hour, minute, seconds, day, month, year⟩ := t
  obtain ⟨hh, hm, hs, hd, hmo, hy⟩ := hin
  dsimp only at hh hm hs hd hmo hy
  unfold targetNumbers
  rw [htime, hdate]
  simp only [TimeAndDate.mk.injEq]
  rw [cast8_iff (by omega), cast8_iff (by omega), cast8_iff (by omega), cast8_iff (by omega),
    cast8_iff (by omega), register_year_iff hy]
  constructor
  · rintro ⟨h1, h2, h3, h4, h5, h6⟩
    exact ⟨⟨h1, h2, h3, h4, h5, Int.le_trans (by decide) h6.1⟩, h6⟩
  · rintro ⟨⟨h1, h2, h3, h4, h5, -⟩, h6⟩
    exact ⟨h1, h2, h3, h4, h5, h6⟩

/-- **The target sets all or nothing** exactly there. -/
theorem target_whole_iff (hstores : hal.Stores) (hapart : hal.Apart) (timeBuff dateBuff : Nat)
    (hin : t.InBounds) : DriverWhole (stm429Rtc hal timeBuff dateBuff) (targetNumbers hal) t r ↔
      TargetWhole hal t r := by
  have htimed : rtcGetDate hal (halSetTime hal t r).2 = rtcGetDate hal r := by
    unfold rtcGetDate
    rw [show hal.getDate (halSetTime hal t r).2 = hal.getDate r from hapart.time _ r]
  have hdated : rtcGetTime hal (halSetDate hal t (halSetTime hal t r).2).2 =
      rtcGetTime hal (halSetTime hal t r).2 := by
    unfold rtcGetTime
    rw [show hal.getTime (halSetDate hal t (halSetTime hal t r).2).2 =
      hal.getTime (halSetTime hal t r).2 from hapart.date _ _]
  constructor
  · rintro ⟨hnoTime, hnoDate, hboth⟩
    rw [stm429_setTime, stm429_setDate] at hnoDate hboth
    rw [stm429_setTime] at hnoTime
    refine ⟨fun h => (targetNumbers_inj.mp (hnoTime h)).1, fun ht hd => ?_, fun ht hd => ?_⟩
    · obtain ⟨hsame, hleft⟩ := targetNumbers_inj.mp (hnoDate ht hd)
      rw [hdated, time_read hstores ht] at hsame
      exact ⟨hsame.symm, hleft⟩
    · have htime := hdated.trans (time_read hstores ht)
      have hdate := date_read hstores hd
      refine (hboth ht hd).imp (target_set_iff hin htime hdate).mp fun hsame => ?_
      obtain ⟨hsameTime, hsameDate⟩ := targetNumbers_inj.mp hsame
      exact ⟨hsameTime.symm.trans htime, hsameDate.symm.trans hdate⟩
  · rintro ⟨hnoTime, hnoDate, hboth⟩
    constructor
    · rw [stm429_setTime]
      exact fun h => targetNumbers_inj.mpr ⟨hnoTime h, htimed⟩
    · rw [stm429_setTime, stm429_setDate]
      intro ht hd
      obtain ⟨hthere, hleft⟩ := hnoDate ht hd
      exact targetNumbers_inj.mpr ⟨(hdated.trans (time_read hstores ht)).trans hthere.symm, hleft⟩
    · rw [stm429_setTime, stm429_setDate]
      intro ht hd
      have htime := hdated.trans (time_read hstores ht)
      have hdate := date_read hstores hd
      refine (hboth ht hd).imp (target_set_iff hin htime hdate).mpr fun hthere => ?_
      exact targetNumbers_inj.mpr ⟨htime.trans hthere.1.symm, hdate.trans hthere.2.symm⟩

end Target

/-! ## The host -/

/-- `currentTime` in the numbers of a payload. -/
def tmNumbers (tm : Tm) : TimeAndDate :=
  ⟨tm.tmHour, tm.tmMin, tm.tmSec, tm.tmMday, tm.tmMon + 1, tm.tmYear + 1900⟩

/-- What the setters of `simulatedRTC` have set. -/
def hostNumbers (r : SimulatedRtc) : TimeAndDate := tmNumbers r.currentTime

/-- No number of the time is negative. -/
def TimeOfDay (t : TimeAndDate) : Prop := 0 ≤ t.hour ∧ 0 ≤ t.minute ∧ 0 ≤ t.seconds

/-- The fields `setTime` writes. -/
def writeTime (t : TimeAndDate) (tm : Tm) : Tm :=
  { tm with tmHour := t.hour.toNat, tmMin := t.minute.toNat, tmSec := t.seconds.toNat }

/-- The fields `setDate` writes, the year as it is cast. -/
def writeDate (t : TimeAndDate) (tm : Tm) : Tm :=
  { tm with
    tmMday := t.day.toNat, tmMon := t.month.toNat - 1, tmYear := (UInt16.ofInt t.year).toNat - 1900 }

/-- Where the time has no negative number: if the day or the month has, the time was there before; and if
not, `mktime` leaves what is written as it is, or makes of it what was there before. -/
structure HostWhole (mktime : Tm → Tm) (t : TimeAndDate) (tm : Tm) : Prop where
  noDate : TimeOfDay t → ¬ (0 ≤ t.day ∧ 0 ≤ t.month) →
    tmNumbers (mktime (writeTime t tm)) = tmNumbers tm
  both : TimeOfDay t → 0 ≤ t.day ∧ 0 ≤ t.month →
    tmNumbers (mktime (writeDate t (mktime (writeTime t tm)))) = t ∨
      tmNumbers (mktime (writeDate t (mktime (writeTime t tm)))) = tmNumbers tm

section Host

variable {b : CStr} {t : TimeAndDate}

/-- A negative number of two places is more than 200 as a byte. -/
theorem cast8_negative {i : Int} (h : -10 < i) (hneg : i < 0) : 200 < (UInt8.ofInt i).toNat := by
  have hmod : i % 256 = i + 256 := by omega
  show 200 < (UInt8.ofNat (i % 256).toNat).toNat
  rw [hmod, UInt8.toNat_ofNat', Nat.mod_eq_of_lt (by omega)]
  omega

/-- `simulatedRTC::setTime` refuses the negative numbers. -/
theorem simulatedTimeValid_iff (h : parseTimeAndDate (some b) = some t) :
    simulatedTimeValid (UInt8.ofInt t.hour) (UInt8.ofInt t.minute) (UInt8.ofInt t.seconds) = true ↔
      TimeOfDay t := by
  obtain ⟨hh, hm, hs, -⟩ := (parseTimeAndDate_iff.mp h).2
  obtain ⟨lh, lm, ls, -⟩ := parseTimeAndDate_lower h
  have hplace : ∀ {i : Int} {n : Nat}, -10 < i → i ≤ n → n < 200 →
      ((UInt8.ofInt i).toNat ≤ n ↔ 0 ≤ i) := by
    intro i n hlow hle hn
    constructor
    · intro hcast
      by_contra hneg
      have := cast8_negative hlow (by omega)
      omega
    · intro h0
      rw [ofInt_toNat8 h0 (by omega)]
      omega
  simp only [simulatedTimeValid, gt_iff_lt, UInt8.lt_iff_toNat_lt, decide_eq_true_eq, not_or,
    Nat.not_lt]
  rw [TimeOfDay, ← hplace lh hh (by decide), ← hplace lm hm (by decide), ← hplace ls hs (by decide)]
  rfl

/-- `simulatedRTC::setDate` too, but for the year. -/
theorem simulatedDateValid_iff (h : parseTimeAndDate (some b) = some t) :
    simulatedDateValid (UInt8.ofInt t.day) (UInt8.ofInt t.month) = true ↔
      0 ≤ t.day ∧ 0 ≤ t.month := by
  obtain ⟨-, -, -, hd, hmo, -⟩ := (parseTimeAndDate_iff.mp h).2
  obtain ⟨-, -, -, ld, lmo⟩ := parseTimeAndDate_lower h
  have hplace : ∀ {i : Int} {n : Nat}, -10 < i → i ≠ 0 ∧ i ≤ n → n < 200 →
      (1 ≤ (UInt8.ofInt i).toNat ∧ (UInt8.ofInt i).toNat ≤ n ↔ 0 ≤ i) := by
    intro i n hlow hle hn
    constructor
    · intro hcast
      by_contra hneg
      have := cast8_negative hlow (by omega)
      omega
    · intro h0
      rw [ofInt_toNat8 h0 (by omega)]
      omega
  rw [← hplace ld hd (by decide), ← hplace lmo hmo (by decide)]
  simp only [simulatedDateValid, gt_iff_lt, UInt8.lt_iff_toNat_lt, decide_eq_true_eq, not_or,
    Nat.not_lt]
  show 1 ≤ _ ∧ _ ≤ 31 ∧ 1 ≤ _ ∧ _ ≤ 12 ↔ _
  omega

/-- The call of `setTime`, where it is taken. -/
theorem host_setTime (mktime : Tm → Tm) (timeBuff dateBuff : Nat) (r : SimulatedRtc)
    (h : parseTimeAndDate (some b) = some t)
    (htime : TimeOfDay t) : callSetTime (simulatedRtc mktime timeBuff dateBuff) t r =
      (true, { r with currentTime := mktime (writeTime t r.currentTime) }) := by
  obtain ⟨hh, hm, hs, -⟩ := (parseTimeAndDate_iff.mp h).2
  have hvalid := (simulatedTimeValid_iff h).mpr htime
  obtain ⟨h1, h2, h3⟩ := htime
  unfold callSetTime simulatedRtc writeTime
  dsimp only
  rw [if_pos hvalid, ofInt_toNat8 h1 (by omega), ofInt_toNat8 h2 (by omega),
    ofInt_toNat8 h3 (by omega)]

/-- Where it is not. -/
theorem host_noTime (mktime : Tm → Tm) (timeBuff dateBuff : Nat) (r : SimulatedRtc)
    (h : parseTimeAndDate (some b) = some t)
    (htime : ¬ TimeOfDay t) :
    callSetTime (simulatedRtc mktime timeBuff dateBuff) t r = (false, r) :=
  if_neg fun hvalid => htime ((simulatedTimeValid_iff h).mp hvalid)

/-- The call of `setDate`, where it is taken. -/
theorem host_setDate (mktime : Tm → Tm) (timeBuff dateBuff : Nat) (r : SimulatedRtc)
    (h : parseTimeAndDate (some b) = some t)
    (hdate : 0 ≤ t.day ∧ 0 ≤ t.month) : callSetDate (simulatedRtc mktime timeBuff dateBuff) t r =
      (true, { r with currentTime := mktime (writeDate t r.currentTime) }) := by
  obtain ⟨-, -, -, hd, hmo, -⟩ := (parseTimeAndDate_iff.mp h).2
  have hvalid := (simulatedDateValid_iff h).mpr hdate
  obtain ⟨h1, h2⟩ := hdate
  unfold callSetDate simulatedRtc writeDate
  dsimp only
  rw [if_pos hvalid, ofInt_toNat8 h1 (by omega), ofInt_toNat8 h2 (by omega)]

theorem host_noDate (mktime : Tm → Tm) (timeBuff dateBuff : Nat) (r : SimulatedRtc)
    (h : parseTimeAndDate (some b) = some t)
    (hdate : ¬ (0 ≤ t.day ∧ 0 ≤ t.month)) :
    callSetDate (simulatedRtc mktime timeBuff dateBuff) t r = (false, r) :=
  if_neg fun hvalid => hdate ((simulatedDateValid_iff h).mp hvalid)

/-- **The host sets all or nothing** exactly there. -/
theorem host_whole_iff (mktime : Tm → Tm) (timeBuff dateBuff : Nat) (r : SimulatedRtc)
    (h : parseTimeAndDate (some b) = some t) :
    DriverWhole (simulatedRtc mktime timeBuff dateBuff) hostNumbers t r ↔
      HostWhole mktime t r.currentTime := by
  by_cases htime : TimeOfDay t
  · have hset := host_setTime mktime timeBuff dateBuff r h htime
    by_cases hdate : 0 ≤ t.day ∧ 0 ≤ t.month
    · have hset' := host_setDate mktime timeBuff dateBuff
        { r with currentTime := mktime (writeTime t r.currentTime) } h hdate
      constructor
      · rintro ⟨-, -, hboth⟩
        rw [hset, hset'] at hboth
        exact ⟨fun _ hno => absurd hdate hno, fun _ _ => hboth rfl rfl⟩
      · rintro ⟨-, hboth⟩
        constructor <;> rw [hset]
        · exact fun hno => absurd hno Bool.false_ne_true.symm
        · rw [hset']
          exact fun _ hno => absurd hno Bool.false_ne_true.symm
        · rw [hset']
          exact fun _ _ => hboth htime hdate
    · have hset' := host_noDate mktime timeBuff dateBuff
        { r with currentTime := mktime (writeTime t r.currentTime) } h hdate
      constructor
      · rintro ⟨-, hnoDate, -⟩
        rw [hset, hset'] at hnoDate
        exact ⟨fun _ _ => hnoDate rfl rfl, fun _ hyes => absurd hyes hdate⟩
      · rintro ⟨hnoDate, -⟩
        constructor <;> rw [hset]
        · exact fun hno => absurd hno Bool.false_ne_true.symm
        · rw [hset']
          exact fun _ _ => hnoDate htime hdate
        · rw [hset']
          exact fun _ hno => absurd hno Bool.false_ne_true
  · have hset := host_noTime mktime timeBuff dateBuff r h htime
    refine iff_of_true ?_ ⟨fun hyes => absurd hyes htime, fun hyes => absurd hyes htime⟩
    constructor <;> rw [hset]
    · exact fun _ => rfl
    · exact fun hno => absurd hno Bool.false_ne_true
    · exact fun hno => absurd hno Bool.false_ne_true

/-- A time of day and a date of the calendar. -/
structure Real (tm : Tm) : Prop where
  hour : tm.tmHour ≤ 23
  minute : tm.tmMin ≤ 59
  seconds : tm.tmSec ≤ 59
  date : gregorian.Valid ⟨(tm.tmYear + 1900).toNat, tm.tmMon + 1, tm.tmMday⟩

/-- **In a zone without daylight saving**, where `mktime` leaves real times alone, every date of the
calendar is set. -/
theorem host_set_of_real {mktime : Tm → Tm} (hkeeps : ∀ tm, Real tm → mktime tm = tm) {tm : Tm}
    (htm : Real tm) (hin : t.InBounds) (hnn : t.NonNegative)
    (hdate : gregorian.Valid ⟨t.year.toNat, t.month.toNat, t.day.toNat⟩) :
    tmNumbers (mktime (writeDate t (mktime (writeTime t tm)))) = t := by
  obtain ⟨hour, minute, seconds, day, month, year⟩ := t
  obtain ⟨hh, hm, hs, hd, hmo, hy⟩ := hin
  obtain ⟨h0, m0, s0, d0, mo0, y0⟩ := hnn
  dsimp only at hh hm hs hd hmo hy h0 m0 s0 d0 mo0 y0 hdate
  have hmonth : month.toNat - 1 + 1 = month.toNat := by omega
  have hyear : ((UInt16.ofInt year).toNat : Int) - 1900 + 1900 = year := by
    rw [ofInt_toNat16 y0 (by omega)]
    omega
  have htimed : Real (writeTime ⟨hour, minute, seconds, day, month, year⟩ tm) :=
    ⟨by show hour.toNat ≤ 23; omega, by show minute.toNat ≤ 59; omega,
      by show seconds.toNat ≤ 59; omega, htm.date⟩
  have hdated : Real (writeDate ⟨hour, minute, seconds, day, month, year⟩
      (writeTime ⟨hour, minute, seconds, day, month, year⟩ tm)) := by
    refine ⟨htimed.hour, htimed.minute, htimed.seconds, ?_⟩
    show gregorian.Valid ⟨(((UInt16.ofInt year).toNat : Int) - 1900 + 1900).toNat,
      month.toNat - 1 + 1, day.toNat⟩
    rw [hmonth, hyear]
    exact hdate
  rw [hkeeps _ htimed, hkeeps _ hdated]
  unfold tmNumbers writeDate writeTime
  simp only [TimeAndDate.mk.injEq]
  exact ⟨by omega, by omega, by omega, by omega, by omega, hyear⟩

theorem hostWhole_of_real {mktime : Tm → Tm} (hkeeps : ∀ tm, Real tm → mktime tm = tm) {tm : Tm}
    (htm : Real tm) (hin : t.InBounds) (hnn : t.NonNegative)
    (hdate : gregorian.Valid ⟨t.year.toNat, t.month.toNat, t.day.toNat⟩) : HostWhole mktime t tm :=
  ⟨fun _ hno => absurd ⟨hnn.day, hnn.month⟩ hno,
    fun _ _ => Or.inl (host_set_of_real hkeeps htm hin hnn hdate)⟩

/-- And no other date is: what `mktime` makes is a real one. -/
theorem real_of_host_set {mktime : Tm → Tm} (hreal : ∀ tm, Real (mktime tm)) {tm : Tm}
    (hset : tmNumbers (mktime tm) = t) :
    gregorian.Valid ⟨t.year.toNat, t.month.toNat, t.day.toNat⟩ := by
  subst hset
  exact (hreal tm).date

end Host

/-! ## The handler -/

/-- The terminal waits for the payload of `T`. -/
structure AfterPrompt (c : ConfigSubsystem σ ρ) : Prop where
  state : c.activeState = .basicDeviceConfig
  prompt : c.previousSignal = .pressedKeyT

/-- What the handler does then. -/
theorem handler_enterTime (pl : Platform) (fs : FileHandler σ) (clock : RtcInterface ρ) (b : CStr)
    (ticks : Ticks) {c : ConfigSubsystem σ ρ} (hc : AfterPrompt c) :
    Pressed pl fs clock c ⟨.pressedKeyEnter, some b, ticks⟩ (enterTime clock b c) := by
  have hpayload : enterPayload pl clock b c = enterTime clock b c := by
    unfold enterPayload
    rw [hc.prompt]
  unfold Pressed
  rw [handler_payload pl fs clock hc.state, hpayload]

/-- **Setting the clock is all or nothing** exactly there: for every payload after the `T` prompt, the
driver of the target over any HAL that stores what it takes, and the driver of the host with any
`mktime`. -/
theorem clock_whole_iff (pl : Platform) (fs : FileHandler σ) (hal : Hal η) (hstores : hal.Stores)
    (hapart : hal.Apart) (mktime : Tm → Tm) (timeBuff dateBuff : Nat) (b : CStr) (ticks : Ticks) :
    (∀ c c' : ConfigSubsystem σ η, AfterPrompt c →
      Pressed pl fs (stm429Rtc hal timeBuff dateBuff) c ⟨.pressedKeyEnter, some b, ticks⟩ c' →
        (SetWhole (targetNumbers hal) b c c' ↔
          ∀ t, parseTimeAndDate (some b) = some t → TargetWhole hal t c.rtc)) ∧
    ∀ c c' : ConfigSubsystem σ SimulatedRtc, AfterPrompt c →
      Pressed pl fs (simulatedRtc mktime timeBuff dateBuff) c ⟨.pressedKeyEnter, some b, ticks⟩ c' →
        (SetWhole hostNumbers b c c' ↔
          ∀ t, parseTimeAndDate (some b) = some t → HostWhole mktime t c.rtc.currentTime) := by
  constructor
  · intro c c' hc hcall
    obtain rfl := Except.ok.inj ((handler_enterTime pl fs _ b ticks hc).symm.trans hcall)
    rw [enterTime_whole_iff]
    exact forall₂_congr fun t ht =>
      target_whole_iff hstores hapart timeBuff dateBuff (parseTimeAndDate_iff.mp ht).2
  · intro c c' hc hcall
    obtain rfl := Except.ok.inj ((handler_enterTime pl fs _ b ticks hc).symm.trans hcall)
    rw [enterTime_whole_iff]
    exact forall₂_congr fun t ht => host_whole_iff mktime timeBuff dateBuff c.rtc ht

/-! ## Three payloads -/

/-- A terminal after the `T` prompt. -/
def clockMenu (rtc : ρ) : ConfigSubsystem CFile ρ where
  activeState := .basicDeviceConfig
  previousSignal := .pressedKeyT
  availableSignal := .pressedKeyT
  flagStreamDelay := false
  ticks := 0
  storage := hostStorage
  rtc := rtc
  console := []

theorem clockMenu_prompt (rtc : ρ) : AfterPrompt (clockMenu rtc) := ⟨rfl, rfl⟩

/-- `mktime` where the time zone is UTC, for the fields the driver writes: a day past the end of its
month is one of the next month. -/
def utcMktime (tm : Tm) : Tm :=
  let days := monthLength (gregorian.leap (tm.tmYear + 1900).toNat) (tm.tmMon + 1)
  if tm.tmMday ≤ days then tm
  else { tm with tmMon := tm.tmMon + 1, tmMday := tm.tmMday - days }

/-- A payload in the format, one whose year the register does not have, one whose day is `-1`, and one whose
day February does not have. -/
def mayPayload : CStr := CStr.ofBytes (ascii "14:30:45 23/05/2025")

/-- The year is none that the register has. -/
def epochPayload : CStr := CStr.ofBytes (ascii "12:00:00 01/01/1970")

/-- The day is `-1`. -/
def negativeDayPayload : CStr := CStr.ofBytes (ascii "12:00:00 -1/05/2025")

/-- February has no such day. -/
def februaryPayload : CStr := CStr.ofBytes (ascii "12:00:00 31/02/2025")

theorem mayPayload_parsed :
    parseTimeAndDate (some mayPayload) = some ⟨14, 30, 45, 23, 5, 2025⟩ := by decide

theorem negativeDayPayload_parsed :
    parseTimeAndDate (some negativeDayPayload) = some ⟨12, 0, 0, -1, 5, 2025⟩ := by decide

theorem epochPayload_parsed :
    parseTimeAndDate (some epochPayload) = some ⟨12, 0, 0, 1, 1, 1970⟩ := by decide

theorem februaryPayload_parsed :
    parseTimeAndDate (some februaryPayload) = some ⟨12, 0, 0, 31, 2, 2025⟩ := by decide

/-- A host at midnight of 1 January 2025. -/
def midnightHost : SimulatedRtc where
  currentTime := ⟨0, 0, 0, 1, 0, 125, 0⟩
  systemTime := ⟨0, 0, 0, 1, 0, 125, 0⟩

theorem utcMktime_real (tm : Tm) (h : Real tm) : utcMktime tm = tm := if_pos h.date.day.2

/-- In May both drivers set the clock. -/
theorem clock_whole_may :
    (∃ c', Pressed .target cFileHandler (stm429Rtc registers 9 15) (clockMenu resetRegisters)
        ⟨.pressedKeyEnter, some mayPayload, ⟨0, 0⟩⟩ c' ∧
      SetWhole (targetNumbers registers) mayPayload (clockMenu resetRegisters) c') ∧
    ∃ c', Pressed .host cFileHandler (simulatedRtc utcMktime 9 15) (clockMenu midnightHost)
        ⟨.pressedKeyEnter, some mayPayload, ⟨0, 0⟩⟩ c' ∧
      SetWhole hostNumbers mayPayload (clockMenu midnightHost) c' := by
  have hnn : TimeAndDate.NonNegative ⟨14, 30, 45, 23, 5, 2025⟩ :=
    ⟨by decide, by decide, by decide, by decide, by decide, by decide⟩
  obtain ⟨htarget, -⟩ := clock_whole_iff .target cFileHandler registers registers_stores
    registers_apart utcMktime 9 15 mayPayload ⟨0, 0⟩
  obtain ⟨-, hhost⟩ := clock_whole_iff .host cFileHandler registers registers_stores
    registers_apart utcMktime 9 15 mayPayload ⟨0, 0⟩
  have hpressed := handler_enterTime .target cFileHandler (stm429Rtc registers 9 15) mayPayload ⟨0, 0⟩
    (clockMenu_prompt resetRegisters)
  have hpressed' := handler_enterTime .host cFileHandler (simulatedRtc utcMktime 9 15) mayPayload
    ⟨0, 0⟩ (clockMenu_prompt midnightHost)
  refine ⟨⟨_, hpressed, (htarget _ _ (clockMenu_prompt _) hpressed).mpr fun t ht => ?_⟩,
    ⟨_, hpressed', (hhost _ _ (clockMenu_prompt _) hpressed').mpr fun t ht => ?_⟩⟩
  · cases mayPayload_parsed.symm.trans ht
    exact ⟨fun h => absurd h Bool.false_ne_true.symm, fun _ h => absurd h Bool.false_ne_true.symm,
      fun _ _ => Or.inl ⟨hnn, by decide, by decide⟩⟩
  · cases mayPayload_parsed.symm.trans ht
    refine hostWhole_of_real utcMktime_real ⟨by decide, by decide, by decide, ?_⟩
      (parseTimeAndDate_iff.mp mayPayload_parsed).2 hnn ⟨by decide, by decide⟩
    exact ⟨by decide, by decide⟩

/-- Other numbers than the clock had and the payload has. -/
theorem not_setWhole {numbers : ρ → TimeAndDate} {b : CStr} {t : TimeAndDate}
    {c c' : ConfigSubsystem σ ρ} (ht : parseTimeAndDate (some b) = some t)
    (hset : numbers c'.rtc ≠ t) (hkept : numbers c'.rtc ≠ numbers c.rtc) :
    ¬ SetWhole numbers b c c' := by
  rintro (⟨-, hparse⟩ | hsame)
  · exact hset (Option.some.inj (hparse.symm.trans ht))
  · exact hkept hsame

/-- The target makes 2226 of 1970 and says it is configured; on the host, day `-1` leaves the new time with
the old date; and 31 February is taken and becomes 3 March. -/
theorem clock_whole_fails :
    (∃ c', Pressed .target cFileHandler (stm429Rtc registers 9 15) (clockMenu resetRegisters)
        ⟨.pressedKeyEnter, some epochPayload, ⟨0, 0⟩⟩ c' ∧
      c'.console = [.text "RTC configured\r\n"] ∧
      targetNumbers registers c'.rtc = ⟨12, 0, 0, 1, 1, 2226⟩ ∧
      ¬ SetWhole (targetNumbers registers) epochPayload (clockMenu resetRegisters) c') ∧
    (∃ c', Pressed .host cFileHandler (simulatedRtc utcMktime 9 15) (clockMenu midnightHost)
        ⟨.pressedKeyEnter, some negativeDayPayload, ⟨0, 0⟩⟩ c' ∧
      c'.console = [.text "Error configuring RTC\r\n"] ∧
      hostNumbers c'.rtc = ⟨12, 0, 0, 1, 1, 2025⟩ ∧
      ¬ SetWhole hostNumbers negativeDayPayload (clockMenu midnightHost) c') ∧
    ∃ c', Pressed .host cFileHandler (simulatedRtc utcMktime 9 15) (clockMenu midnightHost)
        ⟨.pressedKeyEnter, some februaryPayload, ⟨0, 0⟩⟩ c' ∧
      c'.console = [.text "RTC configured\r\n"] ∧
      hostNumbers c'.rtc = ⟨12, 0, 0, 3, 3, 2025⟩ ∧
      ¬ SetWhole hostNumbers februaryPayload (clockMenu midnightHost) c' := by
  have htarget : enterTime (stm429Rtc registers 9 15) epochPayload (clockMenu resetRegisters) =
      { clockMenu resetRegisters with
        rtc := (⟨12, 0, 0⟩, ⟨1, 1, 1, 247⟩), console := [.text "RTC configured\r\n"] } := by
    rw [enterTime_calls _ _ epochPayload_parsed]
    rfl
  have hnegative : enterTime (simulatedRtc utcMktime 9 15) negativeDayPayload (clockMenu midnightHost) =
      { clockMenu midnightHost with
        rtc := { midnightHost with currentTime := ⟨12, 0, 0, 1, 0, 125, 0⟩ }
        console := [.text "Error configuring RTC\r\n"] } := by
    rw [enterTime_calls _ _ negativeDayPayload_parsed]
    rfl
  have hfebruary : enterTime (simulatedRtc utcMktime 9 15) februaryPayload (clockMenu midnightHost) =
      { clockMenu midnightHost with
        rtc := { midnightHost with currentTime := ⟨12, 0, 0, 3, 2, 125, 0⟩ }
        console := [.text "RTC configured\r\n"] } := by
    rw [enterTime_calls _ _ februaryPayload_parsed]
    rfl
  refine ⟨⟨_, handler_enterTime _ _ _ _ _ (clockMenu_prompt _), ?_⟩,
    ⟨_, handler_enterTime _ _ _ _ _ (clockMenu_prompt _), ?_⟩,
    ⟨_, handler_enterTime _ _ _ _ _ (clockMenu_prompt _), ?_⟩⟩
  · rw [htarget]
    exact ⟨rfl, rfl, not_setWhole epochPayload_parsed (by decide) (by decide)⟩
  · rw [hnegative]
    exact ⟨rfl, rfl, not_setWhole negativeDayPayload_parsed (by decide) (by decide)⟩
  · rw [hfebruary]
    exact ⟨rfl, rfl, not_setWhole februaryPayload_parsed (by decide) (by decide)⟩

end GenLogger.Config
