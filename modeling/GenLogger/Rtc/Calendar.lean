import GenLogger.Lib.Calendar
import GenLogger.Rtc.Drivers

/-!
# The target's calendar as days pass

The peripheral counts days in a two-digit year register, and its leap years are the registers that 4
divides (`twoDigit`). The driver puts 1979 at register `0`, so these are 1979, 1983, …, one year
before the Gregorian ones (`registerCalendar`). The two calendars part at the end of one February and
meet again at the end of the next.

* From 1 March of a year like 1979 to 28 February of the next (`Between`) the register has had a 29
  February too many.
* The peripheral counts days as its registers say (`Hal.CountsDays`), to the end of its century.

Results:
* `next_agree`, `next_lastOutside`, `next_lastBetween`: a day in both calendars, on either side and
  where they part and meet.
* `right_outside`, `right_between`: a clock set outside these spans is right outside them, one day
  behind in them; a clock set in one of them is right in them, and one day ahead outside.
* `rtc_date_right_iff`: which dates `rtc_get_date` returns `n` days after a date was set.
-/

namespace GenLogger.Rtc

open GenLogger.Lib

variable {η : Type}

/-! ## The peripheral -/

/-- The date in the registers, the year in two digits. -/
def registerDate (d : RtcDate) : Date := ⟨d.year.toNat, d.month.toNat, d.date.toNat⟩

/-- The calendar of the registers. -/
def twoDigit : Calendar where
  leap y := decide (y % 4 = 0)
  nextYear y := (y + 1) % 100

/-- `passDay` is a day going by in the peripheral. -/
def Hal.CountsDays (hal : Hal η) (passDay : η → η) : Prop :=
  ∀ r, registerDate (hal.getDate (passDay r)) = twoDigit.next (registerDate (hal.getDate r))

/-- What `rtc_get_date` returns, as a date. -/
def dateRead (hal : Hal η) (r : η) : Date :=
  ⟨(rtcGetDate hal r).2.2.toNat, (rtcGetDate hal r).2.1.toNat, (rtcGetDate hal r).1.toNat⟩

/-- The peripheral after `rtc_set_date` of `d` and `n` days. -/
def afterDays (hal : Hal η) (passDay : η → η) (d : Date) (n : Nat) (r : η) : η :=
  passDay^[n] (rtcSetDate hal (UInt8.ofNat d.day) (UInt8.ofNat d.month) (UInt16.ofNat d.year) r).2

/-- The calendar of the registers with the years `rtc_get_date` gives them. -/
def registerCalendar : Calendar where
  leap y := decide ((y - 1979) % 4 = 0)
  nextYear y := (y - 1979 + 1) % 100 + 1979

/-- A date in the registers, as it is read. -/
def asRead (d : Date) : Date := { d with year := d.year + 1979 }

theorem asRead_next (d : Date) : asRead (twoDigit.next d) = registerCalendar.next (asRead d) := by
  have hyear : d.year + 1979 - 1979 = d.year := by omega
  unfold asRead Calendar.next twoDigit registerCalendar
  simp only [hyear]
  split_ifs <;> rfl

/-! ## The two calendars -/

/-- From 1 March of a year like 1979 to 28 February of the next. -/
def Between (d : Date) : Prop :=
  d.year % 4 = 3 ∧ 3 ≤ d.month ∨ d.year % 4 = 0 ∧ (d.month = 1 ∨ d.month = 2 ∧ d.day ≤ 28)

/-- 29 February. -/
def LeapDay (d : Date) : Prop := d.month = 2 ∧ d.day = 29

/-- The last day before `Between`. -/
def LastOutside (d : Date) : Prop := d.year % 4 = 3 ∧ d.month = 2 ∧ d.day = 28

/-- The last day of `Between`. -/
def LastBetween (d : Date) : Prop := d.year % 4 = 0 ∧ d.month = 2 ∧ d.day = 28

instance (d : Date) : Decidable (Between d) := inferInstanceAs (Decidable (_ ∨ _))

instance (d : Date) : Decidable (LeapDay d) := inferInstanceAs (Decidable (_ ∧ _))

/-- A Gregorian date of the two-digit years. -/
structure InCentury (d : Date) : Prop where
  valid : gregorian.Valid d
  since : 1979 ≤ d.year
  until' : d.year ≤ 2078

section

variable {d : Date}

theorem gregorian_leap (h1 : 1979 ≤ d.year) (h2 : d.year ≤ 2078) :
    gregorian.leap d.year = decide (d.year % 4 = 0) := by
  unfold gregorian
  simp only [decide_eq_decide]
  omega

/-- The register's leap years. -/
theorem register_leap (h1 : 1979 ≤ d.year) :
    registerCalendar.leap d.year = decide (d.year % 4 = 3) := by
  unfold registerCalendar
  simp only [decide_eq_decide]
  omega

/-- The days the calendars agree on: 28 February in two years of four, and all others. -/
theorem next_agree (hd : InCentury d) (hnext : (gregorian.next d).year ≤ 2078) (ho : ¬ LastOutside d)
    (hb : ¬ LastBetween d) : registerCalendar.next d = gregorian.next d := by
  obtain ⟨⟨hm, hday⟩, h1, h2⟩ := hd
  refine (Calendar.next_congr ?_ fun hyear => ?_).symm
  · by_cases hfeb : d.month = 2
    · unfold LastOutside at ho
      unfold LastBetween at hb
      rw [gregorian_leap h1 h2, hfeb, Calendar.monthLength_february] at hday ⊢
      rw [register_leap h1, Calendar.monthLength_february]
      simp only [decide_eq_true_eq] at hday ⊢
      split_ifs at hday ⊢ <;> omega
    · rw [Calendar.monthLength_other hfeb]
  · rw [hyear] at hnext
    unfold registerCalendar gregorian at *
    dsimp only at *
    omega

/-- The day after `LastOutside`: the register has a 29 February first. -/
theorem next_lastOutside (h1 : 1979 ≤ d.year) (h2 : d.year ≤ 2078) (h : LastOutside d) :
    gregorian.next d = ⟨d.year, 3, 1⟩ ∧ registerCalendar.next d = ⟨d.year, 2, 29⟩ ∧
      registerCalendar.next ⟨d.year, 2, 29⟩ = ⟨d.year, 3, 1⟩ := by
  obtain ⟨hy, hm, hd⟩ := h
  have hgreg : gregorian.leap d.year = false := by
    rw [gregorian_leap h1 h2, decide_eq_false_iff_not]
    omega
  have hreg : registerCalendar.leap d.year = true := by
    rw [register_leap h1, decide_eq_true_eq]
    exact hy
  refine ⟨?_, ?_, ?_⟩
  · rw [Calendar.next_of_last (by rw [hm, hd, hgreg]; decide) (by omega), hm]
  · rw [Calendar.next_of_lt (by rw [hm, hd, hreg]; decide), hm, hd]
  · exact Calendar.next_of_last (by rw [hreg]; exact Nat.le_refl 29) (by decide : 2 < 12)

/-- The day after `LastBetween`: the Gregorian calendar has a 29 February first. -/
theorem next_lastBetween (h1 : 1979 ≤ d.year) (h2 : d.year ≤ 2078) (h : LastBetween d) :
    gregorian.next d = ⟨d.year, 2, 29⟩ ∧ registerCalendar.next d = ⟨d.year, 3, 1⟩ := by
  obtain ⟨hy, hm, hd⟩ := h
  have hgreg : gregorian.leap d.year = true := by
    rw [gregorian_leap h1 h2, decide_eq_true_eq]
    exact hy
  have hreg : registerCalendar.leap d.year = false := by
    rw [register_leap h1, decide_eq_false_iff_not]
    omega
  constructor
  · rw [Calendar.next_of_lt (by rw [hm, hd, hgreg]; decide), hm, hd]
  · rw [Calendar.next_of_last (by rw [hm, hd, hreg]; decide) (by omega), hm]

theorem LastOutside.outside (h : LastOutside d) : ¬ Between d := by
  unfold LastOutside at h
  unfold Between
  omega

theorem LastOutside.march (h : LastOutside d) : Between ⟨d.year, 3, 1⟩ := Or.inl ⟨h.1, Nat.le_refl 3⟩

theorem LastBetween.between (h : LastBetween d) : Between d :=
  Or.inr ⟨h.1, Or.inr ⟨h.2.1, by rw [h.2.2]⟩⟩

theorem LastBetween.leapDay (h : LastBetween d) : ¬ Between ⟨d.year, 2, 29⟩ := by
  have hy := h.1
  unfold Between
  dsimp only
  omega

/-- In the register, 1 March follows the two last days a February can have. -/
theorem next_february {y day : Nat} (h : registerCalendar.leap y = false) (hday : 28 ≤ day) :
    registerCalendar.next ⟨y, 2, day⟩ = ⟨y, 3, 1⟩ :=
  Calendar.next_of_last (by rw [h]; exact hday) (by decide : 2 < 12)

/-- A leap day is one of a Gregorian leap year, and 1 March follows it. -/
theorem leapDay_year (hd : InCentury d) (h : LeapDay d) :
    registerCalendar.leap d.year = false ∧ ¬ Between d ∧ gregorian.next d = ⟨d.year, 3, 1⟩ := by
  obtain ⟨⟨-, hday⟩, h1, h2⟩ := hd
  obtain ⟨hm, h29⟩ := h
  rw [gregorian_leap h1 h2, hm, h29, Calendar.monthLength_february] at hday
  have hy : d.year % 4 = 0 := by
    by_contra hno
    rw [if_neg (by rwa [decide_eq_true_eq])] at hday
    omega
  have hreg : registerCalendar.leap d.year = false := by
    rw [register_leap h1, decide_eq_false_iff_not]
    omega
  refine ⟨hreg, ?_, ?_⟩
  · unfold Between
    omega
  · have hleap : monthLength (gregorian.leap d.year) d.month = 29 := by
      rw [gregorian_leap h1 h2, hm, decide_eq_true hy]
      rfl
    rw [Calendar.next_of_last (by omega) (by omega), hm]

/-- 1 March of a Gregorian leap year is outside. -/
theorem march_outside (hd : InCentury d) (h : LeapDay d) :
    ¬ Between ⟨d.year, 3, 1⟩ ∧ ¬ LeapDay ⟨d.year, 3, 1⟩ := by
  have hreg := (leapDay_year hd h).1
  rw [register_leap hd.since, decide_eq_false_iff_not] at hreg
  unfold Between LeapDay
  dsimp only
  omega

/-- On all other days the next one is on the same side. -/
theorem between_next (hd : InCentury d) (ho : ¬ LastOutside d) (hb : ¬ LastBetween d)
    (hl : ¬ LeapDay d) : (Between (gregorian.next d) ↔ Between d) ∧ ¬ LeapDay (gregorian.next d) := by
  obtain ⟨⟨hm, hday⟩, h1, h2⟩ := hd
  unfold LastOutside at ho
  unfold LastBetween at hb
  unfold LeapDay at hl
  have hfeb : monthLength (gregorian.leap d.year) 2 = if d.year % 4 = 0 then 29 else 28 := by
    rw [gregorian_leap h1 h2, Calendar.monthLength_february]
    simp only [decide_eq_true_eq]
  by_cases hlt : d.day < monthLength (gregorian.leap d.year) d.month
  · rw [Calendar.next_of_lt hlt]
    unfold Between LeapDay
    dsimp only
    by_cases h : d.month = 2
    · rw [h, hfeb] at hlt
      split_ifs at hlt <;> omega
    · omega
  · by_cases hmonth : d.month < 12
    · rw [Calendar.next_of_last (Nat.not_lt.mp hlt) hmonth]
      unfold Between LeapDay
      dsimp only
      by_cases h : d.month = 2
      · rw [h, hfeb] at hlt hday
        split_ifs at hlt hday <;> omega
      · omega
    · have hnext : gregorian.next d = ⟨d.year + 1, 1, 1⟩ := (if_neg hlt).trans (if_neg hmonth)
      rw [hnext]
      unfold Between LeapDay
      dsimp only
      omega

end

/-! ## Runs -/

section

variable {g h : Date} {n : Nat}

/-- `n` days after a clock was set outside `Between`, the register at `h` and the date at `g`. -/
structure SetOutside (n : Nat) (g h : Date) : Prop where
  outside : ¬ Between g → ¬ LeapDay g → h = g
  behind : Between g → registerCalendar.next h = g
  leapDay : LeapDay g → h = g ∧ n = 0 ∨ h = ⟨g.year, 2, 28⟩

/-- The same for a clock set in `Between`. -/
structure SetBetween (g h : Date) : Prop where
  between : Between g → h = g
  ahead : ¬ Between g → h = registerCalendar.next g

/-- A day goes by in both calendars. -/
theorem setOutside_next (hg : InCentury g) (hnext : (gregorian.next g).year ≤ 2078)
    (hs : SetOutside n g h) : SetOutside (n + 1) (gregorian.next g) (registerCalendar.next h) := by
  by_cases hl : LeapDay g
  · obtain ⟨hreg, -, hmarch⟩ := leapDay_year hg hl
    obtain ⟨hb', hl'⟩ := march_outside hg hl
    have hday : ∃ day, 28 ≤ day ∧ h = ⟨g.year, 2, day⟩ := by
      rcases hs.leapDay hl with ⟨heq, -⟩ | heq
      · exact ⟨g.day, by rw [hl.2]; decide, by rw [heq, ← hl.1]⟩
      · exact ⟨28, Nat.le_refl _, heq⟩
    obtain ⟨day, hday, rfl⟩ := hday
    rw [hmarch, next_february hreg hday]
    exact ⟨fun _ _ => rfl, fun hb => absurd hb hb', fun hl => absurd hl hl'⟩
  by_cases ho : LastOutside g
  · obtain ⟨hmarch, hfeb, hnextFeb⟩ := next_lastOutside hg.since hg.until' ho
    rw [hs.outside ho.outside hl, hmarch, hfeb]
    refine ⟨fun hno => absurd ho.march hno, fun _ => hnextFeb, fun hl => ?_⟩
    exact absurd hl.1 (by decide : (3 : Nat) ≠ 2)
  by_cases hb : LastBetween g
  · obtain ⟨hleap, -⟩ := next_lastBetween hg.since hg.until' hb
    rw [hs.behind hb.between, hleap]
    refine ⟨fun _ hno => absurd ⟨rfl, rfl⟩ hno, fun hb' => absurd hb' hb.leapDay, fun _ => Or.inr ?_⟩
    obtain ⟨-, hm, hd⟩ := hb
    rw [← hm, ← hd]
  · have hagree := next_agree hg hnext ho hb
    obtain ⟨hside, hnl⟩ := between_next hg ho hb hl
    refine ⟨fun hout _ => ?_, fun hin => ?_, fun hl => absurd hl hnl⟩
    · rw [hs.outside (fun hin => hout (hside.mpr hin)) hl, hagree]
    · rw [hs.behind (hside.mp hin), hagree]

theorem setBetween_next (hg : InCentury g) (hnext : (gregorian.next g).year ≤ 2078)
    (hs : SetBetween g h) : SetBetween (gregorian.next g) (registerCalendar.next h) := by
  by_cases ho : LastOutside g
  · obtain ⟨hmarch, hfeb, hnextFeb⟩ := next_lastOutside hg.since hg.until' ho
    rw [hs.ahead ho.outside, hmarch, hfeb, hnextFeb]
    exact ⟨fun _ => rfl, fun hno => absurd ho.march hno⟩
  by_cases hb : LastBetween g
  · obtain ⟨hleap, hmarch⟩ := next_lastBetween hg.since hg.until' hb
    have hreg : registerCalendar.leap g.year = false := by
      rw [register_leap hg.since, decide_eq_false_iff_not]
      have := hb.1
      omega
    rw [hs.between hb.between, hleap, hmarch]
    exact ⟨fun hb' => absurd hb' hb.leapDay, fun _ => (next_february hreg (by decide)).symm⟩
  · have hagree := next_agree hg hnext ho hb
    by_cases hl : LeapDay g
    · obtain ⟨-, hout, hmarch⟩ := leapDay_year hg hl
      obtain ⟨hb', -⟩ := march_outside hg hl
      rw [hs.ahead hout, hagree]
      refine ⟨fun hin => ?_, fun _ => rfl⟩
      rw [hmarch] at hin
      exact absurd hin hb'
    · obtain ⟨hside, -⟩ := between_next hg ho hb hl
      refine ⟨fun hin => ?_, fun hout => ?_⟩
      · rw [hs.between (hside.mp hin), hagree]
      · rw [hs.ahead fun hin => hout (hside.mpr hin), hagree]

/-- The Gregorian dates of a run are in the century if the last one is. -/
theorem InCentury.advance (hd : InCentury g) (hn : (gregorian.advance n g).year ≤ 2078) :
    InCentury (gregorian.advance n g) := by
  have hmono := Calendar.advance_year_le (c := gregorian) (fun y => Nat.le_succ y) (Nat.zero_le n) g
  exact ⟨Calendar.advance_valid hd.valid n, hd.since.trans hmono, hn⟩

/-- The year does not pass the end before the last day. -/
theorem advance_year_of_succ (hn : (gregorian.advance (n + 1) g).year ≤ 2078) :
    (gregorian.advance n g).year ≤ 2078 :=
  (Calendar.advance_year_le (c := gregorian) (fun y => Nat.le_succ y) (Nat.le_succ n) g).trans hn

/-- The two calendars side by side, day by day to the end: what holds of the date set and is kept by a
day holds `n` days later. -/
theorem calendars_induct {P : Nat → Date → Date → Prop} (hd : InCentury g) (hzero : P 0 g g)
    (hnext : ∀ {n : Nat} {g h : Date}, InCentury g → (gregorian.next g).year ≤ 2078 → P n g h →
      P (n + 1) (gregorian.next g) (registerCalendar.next h))
    (hn : (gregorian.advance n g).year ≤ 2078) :
    P n (gregorian.advance n g) (registerCalendar.advance n g) := by
  induction n with
  | zero =>
    rw [Calendar.advance_zero, Calendar.advance_zero]
    exact hzero
  | succ n ih =>
    have hn' := advance_year_of_succ hn
    rw [Calendar.advance_succ] at hn
    rw [Calendar.advance_succ, Calendar.advance_succ]
    exact hnext (hd.advance hn') hn (ih hn')

theorem setOutside_run (hd : InCentury g) (hout : ¬ Between g)
    (hn : (gregorian.advance n g).year ≤ 2078) :
    SetOutside n (gregorian.advance n g) (registerCalendar.advance n g) :=
  calendars_induct hd ⟨fun _ _ => rfl, fun hin => absurd hin hout, fun _ => Or.inl ⟨rfl, rfl⟩⟩
    setOutside_next hn

theorem setBetween_run (hd : InCentury g) (hin : Between g)
    (hn : (gregorian.advance n g).year ≤ 2078) :
    SetBetween (gregorian.advance n g) (registerCalendar.advance n g) :=
  calendars_induct (P := fun _ => SetBetween) hd ⟨fun _ => rfl, fun hout => absurd hin hout⟩
    setBetween_next hn

/-- Set outside, the register is right outside and behind in between. -/
theorem right_outside (hd : InCentury g) (hout : ¬ Between g)
    (hn : (gregorian.advance n g).year ≤ 2078) :
    registerCalendar.advance n g = gregorian.advance n g ↔
      n = 0 ∨ ¬ LeapDay (gregorian.advance n g) ∧ ¬ Between (gregorian.advance n g) := by
  have hrun := setOutside_run hd hout hn
  constructor
  · intro heq
    by_cases h0 : n = 0
    · exact Or.inl h0
    refine Or.inr ⟨fun hl => ?_, fun hin => ?_⟩
    · rcases hrun.leapDay hl with ⟨-, h⟩ | h
      · exact h0 h
      · have hday := congrArg Date.day (heq.symm.trans h)
        rw [hl.2] at hday
        exact absurd hday (by decide : (29 : Nat) ≠ 28)
    · have hbehind := hrun.behind hin
      rw [heq] at hbehind
      exact Calendar.next_ne _ hbehind
  · rintro (rfl | ⟨hl, hin⟩)
    · rw [Calendar.advance_zero, Calendar.advance_zero]
    · exact hrun.outside hin hl

/-- Set in between, the register is right in between and ahead outside. -/
theorem right_between (hd : InCentury g) (hin : Between g)
    (hn : (gregorian.advance n g).year ≤ 2078) :
    registerCalendar.advance n g = gregorian.advance n g ↔ Between (gregorian.advance n g) := by
  have hrun := setBetween_run hd hin hn
  constructor
  · intro heq
    by_contra hout
    have hahead := hrun.ahead hout
    rw [heq] at hahead
    exact Calendar.next_ne _ hahead.symm
  · exact hrun.between

/-- The days on which the register is right. -/
theorem register_right_iff (hd : InCentury g) (hn : (gregorian.advance n g).year ≤ 2078) :
    registerCalendar.advance n g = gregorian.advance n g ↔ n = 0 ∨
      ¬ LeapDay (gregorian.advance n g) ∧ (Between g ↔ Between (gregorian.advance n g)) := by
  by_cases hin : Between g
  · rw [right_between hd hin hn]
    constructor
    · intro hin'
      refine Or.inr ⟨fun hl => ?_, iff_of_true hin hin'⟩
      exact (leapDay_year (hd.advance hn) hl).2.1 hin'
    · rintro (rfl | ⟨-, h⟩)
      · exact hin
      · exact h.mp hin
  · rw [right_outside hd hin hn]
    refine or_congr Iff.rfl (and_congr Iff.rfl ⟨iff_of_false hin, fun h hin' => hin (h.mpr hin')⟩)

end

/-! ## The driver -/

section

variable {hal : Hal η} {passDay : η → η} {d : Date}

theorem dateRead_eq (r : η) : dateRead hal r = asRead (registerDate (hal.getDate r)) := by
  have hlt := (hal.getDate r).year.toNat_lt
  have hyear : (readYear (hal.getDate r).year).toNat = (hal.getDate r).year.toNat + 1979 := by
    unfold readYear
    rw [UInt16.toNat_add, UInt8.toNat_toUInt16]
    show ((hal.getDate r).year.toNat + 1979) % 65536 = _
    omega
  unfold dateRead asRead registerDate rtcGetDate
  dsimp only
  rw [hyear]

/-- Days pass in the registers by their calendar. -/
theorem registerDate_days (hdays : hal.CountsDays passDay) (n : Nat) (r : η) :
    registerDate (hal.getDate (passDay^[n] r)) = twoDigit.advance n (registerDate (hal.getDate r)) := by
  induction n with
  | zero => rfl
  | succ n ih => rw [Function.iterate_succ_apply', hdays, ih, Calendar.advance_succ]

/-- `rtc_set_date` of a date of the century is read back. -/
theorem dateRead_set (hstores : hal.Stores) (hd : InCentury d) {r : η}
    (hset : (rtcSetDate hal (UInt8.ofNat d.day) (UInt8.ofNat d.month) (UInt16.ofNat d.year) r).1 = 1) :
    asRead (registerDate (hal.getDate (afterDays hal id d 0 r))) = d := by
  obtain ⟨⟨hm, hday⟩, h1, h2⟩ := hd
  have hlen := Calendar.monthLength_le (gregorian.leap d.year) d.month
  let fields : RtcDate := ⟨rtcWeekdayMonday, UInt8.ofNat d.month, UInt8.ofNat d.day,
    storedYear (UInt16.ofNat d.year)⟩
  have hok : (hal.setDate fields r).1 = true := by
    by_contra hno
    rw [Bool.not_eq_true] at hno
    have hres : (if (hal.setDate fields r).1 then (1 : Int) else -1) = 1 := hset
    rw [hno] at hres
    exact absurd hres (by decide)
  obtain ⟨hdate, hmonth, hyear⟩ := hstores.date fields r (hal.setDate fields r).2 (Prod.ext hok rfl)
  show (⟨(hal.getDate (hal.setDate fields r).2).year.toNat + 1979,
    (hal.getDate (hal.setDate fields r).2).month.toNat,
    (hal.getDate (hal.setDate fields r).2).date.toNat⟩ : Date) = d
  rw [hdate, hmonth, hyear]
  have hyearNat : (storedYear (UInt16.ofNat d.year)).toNat + 1979 = d.year := by
    unfold storedYear
    rw [UInt16.toNat_toUInt8, UInt16.toNat_sub, UInt16.toNat_ofNat']
    show (65536 - 1979 + d.year % 65536) % 65536 % 256 + 1979 = d.year
    omega
  show (⟨(storedYear (UInt16.ofNat d.year)).toNat + 1979, (UInt8.ofNat d.month).toNat,
    (UInt8.ofNat d.day).toNat⟩ : Date) = d
  rw [hyearNat, UInt8.toNat_ofNat', UInt8.toNat_ofNat', Nat.mod_eq_of_lt (by omega),
    Nat.mod_eq_of_lt (by omega)]

/-- What is read is the calendar of the registers. -/
theorem dateRead_afterDays (hstores : hal.Stores) (hdays : hal.CountsDays passDay) (hd : InCentury d)
    {r : η} (hset :
      (rtcSetDate hal (UInt8.ofNat d.day) (UInt8.ofNat d.month) (UInt16.ofNat d.year) r).1 = 1) (n : Nat) :
    dateRead hal (afterDays hal passDay d n r) = registerCalendar.advance n d := by
  unfold afterDays
  rw [dateRead_eq, registerDate_days hdays, Calendar.advance_map asRead_next]
  exact congrArg (registerCalendar.advance n) (dateRead_set hstores hd hset)

/-- **The date that is read** `n` days after a date was set is the Gregorian one exactly at once, or when
it is no 29 February and both dates lie in the spans `Between`, or both outside. -/
theorem rtc_date_right_iff (hal : Hal η) (hstores : hal.Stores) (passDay : η → η)
    (hdays : hal.CountsDays passDay) (d : Date) (hd : InCentury d) (r : η)
    (hset : (rtcSetDate hal (UInt8.ofNat d.day) (UInt8.ofNat d.month) (UInt16.ofNat d.year) r).1 = 1)
    (n : Nat) (hn : (gregorian.advance n d).year ≤ 2078) :
    dateRead hal (afterDays hal passDay d n r) = gregorian.advance n d ↔ n = 0 ∨
      ¬ LeapDay (gregorian.advance n d) ∧ (Between d ↔ Between (gregorian.advance n d)) := by
  rw [dateRead_afterDays hstores hdays hd hset, register_right_iff hd hn]

end

/-! A HAL of two registers, on which days pass. -/

/-- A day in the registers. -/
def registersDay (r : RtcTime × RtcDate) : RtcTime × RtcDate :=
  let d := twoDigit.next (registerDate r.2)
  (r.1, ⟨r.2.weekDay, UInt8.ofNat d.month, UInt8.ofNat d.day, UInt8.ofNat d.year⟩)

theorem registers_countDays : registers.CountsDays registersDay := by
  intro r
  have hy := r.2.year.toNat_lt
  have hm := r.2.month.toNat_lt
  have hsmall : (twoDigit.next (registerDate r.2)).year < 256 ∧
      (twoDigit.next (registerDate r.2)).month < 256 ∧
      (twoDigit.next (registerDate r.2)).day < 256 := by
    unfold Calendar.next
    have hlen := Calendar.monthLength_le (twoDigit.leap (registerDate r.2).year) (registerDate r.2).month
    split_ifs with hday hmonth
    · exact ⟨hy, hm, by dsimp only; omega⟩
    · exact ⟨hy, by dsimp only; omega, (by decide : 1 < 256)⟩
    · refine ⟨?_, (by decide : 1 < 256), (by decide : 1 < 256)⟩
      show (_ + 1) % 100 < 256
      omega
  show registerDate (registersDay r).2 = twoDigit.next (registerDate r.2)
  generalize hd : twoDigit.next (registerDate r.2) = d at hsmall
  show registerDate ⟨r.2.weekDay, UInt8.ofNat (twoDigit.next (registerDate r.2)).month,
    UInt8.ofNat (twoDigit.next (registerDate r.2)).day,
    UInt8.ofNat (twoDigit.next (registerDate r.2)).year⟩ = d
  rw [hd]
  unfold registerDate
  dsimp only
  rw [UInt8.toNat_ofNat', UInt8.toNat_ofNat', UInt8.toNat_ofNat', Nat.mod_eq_of_lt hsmall.1,
    Nat.mod_eq_of_lt hsmall.2.1, Nat.mod_eq_of_lt hsmall.2.2]

theorem inCentury_may : InCentury ⟨2025, 5, 31⟩ :=
  ⟨⟨by decide, by decide⟩, by decide, by decide⟩

theorem inCentury_february : InCentury ⟨2027, 2, 28⟩ :=
  ⟨⟨by decide, by decide⟩, by decide, by decide⟩

/-- Set on the last of May of 2025, the clock shows 1 June a day later. -/
theorem rtc_date_right_may :
    dateRead registers (afterDays registers registersDay ⟨2025, 5, 31⟩ 1 resetRegisters) =
      gregorian.advance 1 ⟨2025, 5, 31⟩ := by
  refine (rtc_date_right_iff registers registers_stores registersDay registers_countDays ⟨2025, 5, 31⟩
    inCentury_may resetRegisters rfl 1 (by decide)).mpr (Or.inr ⟨?_, iff_of_false ?_ ?_⟩)
  · decide
  · decide
  · decide

/-- Set on 28 February 2027, the clock shows the 29th a day later. -/
theorem rtc_date_february_fails :
    ¬ ∀ (d : Date) (n : Nat), InCentury d → (gregorian.advance n d).year ≤ 2078 →
      dateRead registers (afterDays registers registersDay d n resetRegisters) = gregorian.advance n d := by
  intro h
  have hfeb := h ⟨2027, 2, 28⟩ 1 inCentury_february (by decide)
  exact absurd hfeb (by decide)

end GenLogger.Rtc
