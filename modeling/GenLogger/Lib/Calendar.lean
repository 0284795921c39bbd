import Mathlib.Logic.Function.Iterate
import Mathlib.Tactic.SplitIfs

/-!
# Calendars

A calendar says which years are leap years and which year follows a year; `next` is the day after a
date. After a day at or past the end of its month comes the first of the next one, whatever the day
was. `gregorian` is the calendar everyone means.

Results:
* `advance_valid`: a valid date stays valid.
* `advance_year_le`: the years of a calendar that counts them do not decrease.
* `next_congr`: two calendars agree on a day that ends the month in both or in none.
* `advance_map`: a change of calendar that takes days to days takes whole stretches to stretches.
-/

namespace GenLogger.Lib

/-- A date of some calendar. -/
structure Date where
  year : Nat
  month : Nat
  day : Nat
  deriving Repr, DecidableEq

/-- The leap years, and the year after a year. -/
structure Calendar where
  leap : Nat → Bool
  nextYear : Nat → Nat

/-- The days of a month. -/
def monthLength (leap : Bool) (month : Nat) : Nat :=
  if month = 2 then if leap then 29 else 28
  else if month = 4 ∨ month = 6 ∨ month = 9 ∨ month = 11 then 30 else 31

namespace Calendar

variable (c : Calendar)

/-- The day after. -/
def next (d : Date) : Date :=
  if d.day < monthLength (c.leap d.year) d.month then { d with day := d.day + 1 }
  else if d.month < 12 then ⟨d.year, d.month + 1, 1⟩
  else ⟨c.nextYear d.year, 1, 1⟩

/-- `n` days later. -/
def advance (n : Nat) (d : Date) : Date := c.next^[n] d

/-- A date the calendar has. -/
structure Valid (d : Date) : Prop where
  month : 1 ≤ d.month ∧ d.month ≤ 12
  day : 1 ≤ d.day ∧ d.day ≤ monthLength (c.leap d.year) d.month

variable {c} {d : Date}

theorem monthLength_pos (leap : Bool) (month : Nat) : 28 ≤ monthLength leap month := by
  unfold monthLength
  split_ifs <;> decide

theorem monthLength_le (leap : Bool) (month : Nat) : monthLength leap month ≤ 31 := by
  unfold monthLength
  split_ifs <;> decide

@[simp] theorem advance_zero : c.advance 0 d = d := rfl

theorem advance_succ (n : Nat) : c.advance (n + 1) d = c.next (c.advance n d) :=
  Function.iterate_succ_apply' c.next n d

theorem next_of_lt (h : d.day < monthLength (c.leap d.year) d.month) :
    c.next d = { d with day := d.day + 1 } :=
  if_pos h

/-- The first of the next month. -/
theorem next_of_last (h : monthLength (c.leap d.year) d.month ≤ d.day) (hm : d.month < 12) :
    c.next d = ⟨d.year, d.month + 1, 1⟩ :=
  (if_neg (Nat.not_lt.mpr h)).trans (if_pos hm)

theorem monthLength_february (leap : Bool) : monthLength leap 2 = if leap then 29 else 28 := rfl

/-- Only February depends on the year. -/
theorem monthLength_other {month : Nat} (h : month ≠ 2) (leap leap' : Bool) :
    monthLength leap month = monthLength leap' month := by
  unfold monthLength
  rw [if_neg h, if_neg h]

/-- Two calendars agree on a day that ends the month in both or in none, and on the year after. -/
theorem next_congr {c' : Calendar}
    (hday : d.day < monthLength (c.leap d.year) d.month ↔ d.day < monthLength (c'.leap d.year) d.month)
    (hyear : (c.next d).year = c.nextYear d.year → c.nextYear d.year = c'.nextYear d.year) :
    c.next d = c'.next d := by
  unfold next at hyear ⊢
  by_cases h : d.day < monthLength (c.leap d.year) d.month
  · rw [if_pos h, if_pos (hday.mp h)]
  · rw [if_neg h] at hyear ⊢
    rw [if_neg fun h' => h (hday.mpr h')]
    by_cases hmonth : d.month < 12
    · rw [if_pos hmonth, if_pos hmonth]
    · rw [if_neg hmonth] at hyear ⊢
      rw [if_neg hmonth, hyear rfl]

theorem next_valid (h : c.Valid d) : c.Valid (c.next d) := by
  obtain ⟨hm, hd⟩ := h
  unfold next
  split_ifs with hday hmonth
  · exact ⟨hm, by dsimp only; omega, hday⟩
  · have hlen := monthLength_pos (c.leap d.year) (d.month + 1)
    exact ⟨by dsimp only; omega, Nat.le_refl 1, by dsimp only; omega⟩
  · have hlen := monthLength_pos (c.leap (c.nextYear d.year)) 1
    exact ⟨by dsimp only; omega, Nat.le_refl 1, by dsimp only; omega⟩

theorem advance_valid (h : c.Valid d) (n : Nat) : c.Valid (c.advance n d) := by
  induction n with
  | zero => exact h
  | succ n ih =>
    rw [advance_succ]
    exact next_valid ih

/-- No day follows itself. -/
theorem next_ne (d : Date) : c.next d ≠ d := by
  intro heq
  unfold next at heq
  split_ifs at heq with hday hmonth
  · have hd := congrArg Date.day heq
    dsimp only at hd
    omega
  · have hm := congrArg Date.month heq
    dsimp only at hm
    omega
  · have hm := congrArg Date.month heq
    dsimp only at hm
    omega

theorem next_year_le (hc : ∀ y, y ≤ c.nextYear y) (d : Date) : d.year ≤ (c.next d).year := by
  unfold next
  split_ifs
  · exact Nat.le_refl _
  · exact Nat.le_refl _
  · exact hc d.year

/-- The years do not decrease. -/
theorem advance_year_le (hc : ∀ y, y ≤ c.nextYear y) {m n : Nat} (h : m ≤ n) (d : Date) :
    (c.advance m d).year ≤ (c.advance n d).year := by
  induction n with
  | zero =>
    obtain rfl := Nat.le_zero.mp h
    exact Nat.le_refl _
  | succ n ih =>
    rcases Nat.lt_or_ge n m with hlt | hge
    · obtain rfl : m = n + 1 := Nat.le_antisymm h hlt
      exact Nat.le_refl _
    · rw [advance_succ]
      exact Nat.le_trans (ih hge) (next_year_le hc _)

/-- A change of calendar: `f` takes the dates of one to those of the other, day for day. -/
theorem advance_map {c' : Calendar} {f : Date → Date} (h : ∀ d, f (c.next d) = c'.next (f d)) (n : Nat)
    (d : Date) : f (c.advance n d) = c'.advance n (f d) := by
  induction n with
  | zero => rfl
  | succ n ih => rw [advance_succ, advance_succ, h, ih]

end Calendar

/-- The Gregorian calendar. -/
def gregorian : Calendar where
  leap y := decide (y % 4 = 0 ∧ (y % 100 ≠ 0 ∨ y % 400 = 0))
  nextYear y := y + 1

example : gregorian.advance 2 ⟨2000, 2, 28⟩ = ⟨2000, 3, 1⟩ := by decide

end GenLogger.Lib
