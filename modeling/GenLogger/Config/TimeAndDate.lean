import GenLogger.Lib.Decimal

/-!
# Parsing a time and a date (`utilities::parseTimeAndDate`)

`sscanf(buff, "%2d:%2d:%2d %2d/%2d/%4d", …)` and the checks after it.

* A conversion may take a sign and skips white space before it; the literal bytes have to match, and
  the blank matches any white space, none included.
* The six numbers are checked against their upper bounds, and day and month against `0`.

Results:
* `parseTimeAndDate_iff`: a string is taken when it is scanned and the numbers pass the checks.
* `parseTimeAndDate_lower`: how small they can be.
-/

namespace GenLogger.Config

open GenLogger.Lib

/-- The six numbers `parseTimeAndDate` writes. -/
structure TimeAndDate where
  hour : Int
  minute : Int
  seconds : Int
  day : Int
  month : Int
  year : Int
  deriving Repr, DecidableEq

/-- A literal byte of the format. -/
def matchByte (b : Byte) : List Byte → Option (List Byte)
  | [] => none
  | c :: s => if c = b then some s else none

/-- The six conversions; `none` where `sscanf` returns less than `6`. -/
def scanTimeAndDate (s : List Byte) : Option TimeAndDate := do
  let (hour, s) ← scanInt 2 s
  let s ← matchByte 58 s
  let (minute, s) ← scanInt 2 s
  let s ← matchByte 58 s
  let (seconds, s) ← scanInt 2 s
  let s := s.dropWhile isSpace
  let (day, s) ← scanInt 2 s
  let s ← matchByte 47 s
  let (month, s) ← scanInt 2 s
  let s ← matchByte 47 s
  let (year, _) ← scanInt 4 s
  some ⟨hour, minute, seconds, day, month, year⟩

/-- `parseTimeAndDate`: the six numbers, or `none` where it returns `false`. -/
def parseTimeAndDate (buff : Option CStr) : Option TimeAndDate :=
  match buff with
  | none => none
  | some s =>
    if s.bytes = [] then none
    else
      match scanTimeAndDate s.bytes with
      | none => none
      | some t =>
        if t.hour > 23 ∨ t.minute > 59 ∨ t.seconds > 59 ∨ t.day = 0 ∨ t.day > 31 ∨ t.month = 0 ∨
            t.month > 12 ∨ t.year > 9999 then none
        else some t

/-- The checks after the scan. -/
structure TimeAndDate.InBounds (t : TimeAndDate) : Prop where
  hour : t.hour ≤ 23
  minute : t.minute ≤ 59
  seconds : t.seconds ≤ 59
  day : t.day ≠ 0 ∧ t.day ≤ 31
  month : t.month ≠ 0 ∧ t.month ≤ 12
  year : t.year ≤ 9999

/-- A string is taken when it is scanned and the numbers pass the checks. -/
theorem parseTimeAndDate_iff {s : CStr} {t : TimeAndDate} :
    parseTimeAndDate (some s) = some t ↔ scanTimeAndDate s.bytes = some t ∧ t.InBounds := by
  have hempty : s.bytes = [] → scanTimeAndDate s.bytes = none := by
    intro h
    rw [h]
    rfl
  unfold parseTimeAndDate
  dsimp only
  by_cases h : s.bytes = []
  · rw [if_pos h, hempty h]
    simp
  rw [if_neg h]
  cases scanTimeAndDate s.bytes with
  | none => simp
  | some u =>
    dsimp only
    by_cases hbad : u.hour > 23 ∨ u.minute > 59 ∨ u.seconds > 59 ∨ u.day = 0 ∨ u.day > 31 ∨
        u.month = 0 ∨ u.month > 12 ∨ u.year > 9999
    · rw [if_pos hbad]
      constructor
      · exact nofun
      · rintro ⟨heq, hin⟩
        cases heq
        obtain ⟨h1, h2, h3, h4, h5, h6⟩ := hin
        omega
    · rw [if_neg hbad]
      constructor
      · intro heq
        cases heq
        exact ⟨rfl, by omega, by omega, by omega, by omega, by omega, by omega⟩
      · exact And.left

/-- Two places hold nothing below `-9`. -/
theorem parseTimeAndDate_lower {s : CStr} {t : TimeAndDate} (h : parseTimeAndDate (some s) = some t) :
    -10 < t.hour ∧ -10 < t.minute ∧ -10 < t.seconds ∧ -10 < t.day ∧ -10 < t.month := by
  have hlower : ∀ {s r : List Byte} {v : Int}, scanInt 2 s = some (v, r) → -10 < v := by
    intro s r v hscan
    obtain ⟨text, -, hnumeral⟩ := scanInt_iff.mp hscan
    exact hnumeral.lower
  have h := (parseTimeAndDate_iff.mp h).1
  obtain ⟨⟨hour, s₁⟩, hhour, h⟩ := Option.bind_eq_some_iff.mp h
  obtain ⟨s₂, -, h⟩ := Option.bind_eq_some_iff.mp h
  obtain ⟨⟨minute, s₃⟩, hminute, h⟩ := Option.bind_eq_some_iff.mp h
  obtain ⟨s₄, -, h⟩ := Option.bind_eq_some_iff.mp h
  obtain ⟨⟨seconds, s₅⟩, hseconds, h⟩ := Option.bind_eq_some_iff.mp h
  obtain ⟨⟨day, s₆⟩, hday, h⟩ := Option.bind_eq_some_iff.mp h
  obtain ⟨s₇, -, h⟩ := Option.bind_eq_some_iff.mp h
  obtain ⟨⟨month, s₈⟩, hmonth, h⟩ := Option.bind_eq_some_iff.mp h
  obtain ⟨s₉, -, h⟩ := Option.bind_eq_some_iff.mp h
  obtain ⟨⟨year, s₁₀⟩, -, h⟩ := Option.bind_eq_some_iff.mp h
  cases h
  exact ⟨hlower hhour, hlower hminute, hlower hseconds, hlower hday, hlower hmonth⟩

example : parseTimeAndDate (some (CStr.ofBytes (ascii "14:30:45 23/05/2025"))) =
    some ⟨14, 30, 45, 23, 5, 2025⟩ := by decide

end GenLogger.Config
