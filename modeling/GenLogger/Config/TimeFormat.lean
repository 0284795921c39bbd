import GenLogger.Config.SetClock

/-!
# The format of a time and a date

The terminal asks for `HH:MM:SS DD/MM/YYYY`, and `parseTimeAndDate` leaves the format to `sscanf`: a
number may have white space and a sign before it, the blank before the day is any white space or none,
and whatever follows the year is not looked at. The checks after it let negative numbers pass.

* `InFormat` is the format as it is asked for, with the ranges of a time and of a date of any month.
* `Pieces` are the six numbers of a string with what stands around them; `Pieces.Plain` are those
  without signs and with no white space but one blank.

Results:
* `scanTimeAndDate_iff`: what `sscanf` takes, piece by piece (`Pieces.Scans`); `scans_unique`: in one
  way.
* `inFormat_iff`: the format is what is taken in plain pieces.
* `time_format_iff`: a string is treated as the format says exactly where it is refused, or its pieces
  are plain.
-/

namespace GenLogger.Config

open GenLogger.Lib GenLogger.Rtc

/-! ## The format -/

/-- One to `w` digits of value `v`. -/
structure DigitField (w : Nat) (text : List Byte) (v : Int) : Prop where
  nonempty : text ≠ []
  length : text.length ≤ w
  digits : ∀ b ∈ text, isDigit b = true
  value : v = digitsVal text

/-- The six numbers of a string and what stands around them: the white space before the day is part of
its piece, `rest` follows the year. -/
structure Pieces where
  hour : List Byte
  minute : List Byte
  seconds : List Byte
  day : List Byte
  month : List Byte
  year : List Byte
  rest : List Byte

/-- The string of the pieces. -/
def Pieces.text (p : Pieces) : List Byte :=
  p.hour ++ 58 :: (p.minute ++ 58 :: (p.seconds ++ (p.day ++ 47 :: (p.month ++ 47 :: (p.year ++ p.rest)))))

/-- `HH:MM:SS DD/MM/YYYY` with the numbers of `t`, in their ranges. -/
def InFormat (s : List Byte) (t : TimeAndDate) : Prop :=
  ∃ hour minute seconds day month year,
    s = hour ++ 58 :: (minute ++ 58 :: (seconds ++ 32 :: (day ++ 47 :: (month ++ 47 :: year)))) ∧
    DigitField 2 hour t.hour ∧ DigitField 2 minute t.minute ∧ DigitField 2 seconds t.seconds ∧
    DigitField 2 day t.day ∧ DigitField 2 month t.month ∧ DigitField 4 year t.year ∧ Settable t

/-- What `sscanf` takes for `t`. -/
structure Pieces.Scans (p : Pieces) (s : List Byte) (t : TimeAndDate) : Prop where
  text : s = p.text
  hour : Numeral 2 p.hour t.hour [58]
  minute : Numeral 2 p.minute t.minute [58]
  seconds : Numeral 2 p.seconds t.seconds p.day
  day : Numeral 2 p.day t.day [47]
  month : Numeral 2 p.month t.month [47]
  year : Numeral 4 p.year t.year p.rest

/-- No signs, no white space but one blank before the day, nothing after the year. -/
structure Pieces.Plain (p : Pieces) : Prop where
  hour : ∀ b ∈ p.hour, isDigit b = true
  minute : ∀ b ∈ p.minute, isDigit b = true
  seconds : ∀ b ∈ p.seconds, isDigit b = true
  day : ∃ digits, p.day = 32 :: digits ∧ ∀ b ∈ digits, isDigit b = true
  month : ∀ b ∈ p.month, isDigit b = true
  year : ∀ b ∈ p.year, isDigit b = true
  rest : p.rest = []

/-- The string is taken exactly in the format, with its numbers, and the casts of the terminal keep
them. -/
structure Conforms (buff : Option CStr) : Prop where
  accepts : ∀ t, parseTimeAndDate buff = some t ↔ ∃ s, buff = some s ∧ InFormat s.bytes t
  casts : ∀ t, parseTimeAndDate buff = some t → (⟨timeArgs t, dateArgs t⟩ : ClockState).Holds t

/-! ## What `sscanf` takes -/

theorem matchByte_iff {b : Byte} {s r : List Byte} : matchByte b s = some r ↔ s = b :: r := by
  cases s with
  | nil => simp [matchByte]
  | cons c s =>
    have hmatch : matchByte b (c :: s) = if c = b then some s else none := rfl
    rw [hmatch]
    by_cases h : c = b
    · rw [if_pos h, h]
      simp
    · rw [if_neg h]
      simp [h]

theorem numeral_ne_nil {w : Nat} {text rest : List Byte} {v : Int} (h : Numeral w text v rest) :
    text ≠ [] := by
  obtain ⟨blanks, sign, digits, rfl, -, -, hne, -⟩ := h
  simp [hne]

theorem headD_append {l r : List Byte} (h : l ≠ []) : (l ++ r).headD 0 = l.headD 0 := by
  cases l with
  | nil => exact absurd rfl h
  | cons b l => rfl

/-- A number is scanned whatever else follows its first byte. -/
theorem numeral_scan {w : Nat} {text rest rest' : List Byte} {v : Int} (h : Numeral w text v rest)
    (hhead : rest'.headD 0 = rest.headD 0) : scanInt w (text ++ rest') = some (v, rest') :=
  scanInt_iff.mpr ⟨text, rfl, h.congr hhead⟩

/-- **`sscanf` takes the pieces**, and no other string. -/
theorem scanTimeAndDate_iff {s : List Byte} {t : TimeAndDate} :
    scanTimeAndDate s = some t ↔ ∃ p : Pieces, p.Scans s t := by
  constructor
  · intro h
    obtain ⟨⟨hour, s₁⟩, hhour, h⟩ := Option.bind_eq_some_iff.mp h
    obtain ⟨s₂, hcolon₁, h⟩ := Option.bind_eq_some_iff.mp h
    obtain ⟨⟨minute, s₃⟩, hminute, h⟩ := Option.bind_eq_some_iff.mp h
    obtain ⟨s₄, hcolon₂, h⟩ := Option.bind_eq_some_iff.mp h
    obtain ⟨⟨seconds, s₅⟩, hseconds, h⟩ := Option.bind_eq_some_iff.mp h
    obtain ⟨⟨day, s₆⟩, hday, h⟩ := Option.bind_eq_some_iff.mp h
    obtain ⟨s₇, hslash₁, h⟩ := Option.bind_eq_some_iff.mp h
    obtain ⟨⟨month, s₈⟩, hmonth, h⟩ := Option.bind_eq_some_iff.mp h
    obtain ⟨s₉, hslash₂, h⟩ := Option.bind_eq_some_iff.mp h
    obtain ⟨⟨year, rest⟩, hyear, h⟩ := Option.bind_eq_some_iff.mp h
    cases h
    rw [scanInt_dropWhile] at hday
    obtain rfl := matchByte_iff.mp hcolon₁
    obtain rfl := matchByte_iff.mp hcolon₂
    obtain rfl := matchByte_iff.mp hslash₁
    obtain rfl := matchByte_iff.mp hslash₂
    obtain ⟨th, rfl, nh⟩ := scanInt_iff.mp hhour
    obtain ⟨tm, rfl, nm⟩ := scanInt_iff.mp hminute
    obtain ⟨ts, rfl, ns⟩ := scanInt_iff.mp hseconds
    obtain ⟨td, rfl, nd⟩ := scanInt_iff.mp hday
    obtain ⟨tmo, rfl, nmo⟩ := scanInt_iff.mp hmonth
    obtain ⟨ty, rfl, ny⟩ := scanInt_iff.mp hyear
    exact ⟨⟨th, tm, ts, td, tmo, ty, rest⟩, rfl, nh.congr rfl, nm.congr rfl,
      ns.congr (headD_append (numeral_ne_nil nd)).symm, nd.congr rfl, nmo.congr rfl, ny⟩
  · rintro ⟨⟨th, tm, ts, td, tmo, ty, rest⟩, rfl, nh, nm, ns, nd, nmo, ny⟩
    have hgap := headD_append (r := 47 :: (tmo ++ 47 :: (ty ++ rest))) (numeral_ne_nil nd)
    refine Option.bind_eq_some_iff.mpr ⟨_, numeral_scan nh rfl, ?_⟩
    refine Option.bind_eq_some_iff.mpr ⟨_, matchByte_iff.mpr rfl, ?_⟩
    refine Option.bind_eq_some_iff.mpr ⟨_, numeral_scan nm rfl, ?_⟩
    refine Option.bind_eq_some_iff.mpr ⟨_, matchByte_iff.mpr rfl, ?_⟩
    refine Option.bind_eq_some_iff.mpr ⟨_, numeral_scan ns hgap, ?_⟩
    refine Option.bind_eq_some_iff.mpr ⟨_, (scanInt_dropWhile 2 _).trans (numeral_scan nd rfl), ?_⟩
    refine Option.bind_eq_some_iff.mpr ⟨_, matchByte_iff.mpr rfl, ?_⟩
    refine Option.bind_eq_some_iff.mpr ⟨_, numeral_scan nmo rfl, ?_⟩
    refine Option.bind_eq_some_iff.mpr ⟨_, matchByte_iff.mpr rfl, ?_⟩
    exact Option.bind_eq_some_iff.mpr ⟨_, numeral_scan ny rfl, rfl⟩

theorem numeral_unique {w : Nat} {text text' rest rest' r r' : List Byte} {v v' : Int}
    (hsame : text ++ rest = text' ++ rest') (h : Numeral w text v r) (hr : rest.headD 0 = r.headD 0)
    (h' : Numeral w text' v' r') (hr' : rest'.headD 0 = r'.headD 0) :
    text = text' ∧ rest = rest' ∧ v = v' :=
  (h.congr hr).unique (h'.congr hr') hsame

/-- There is one way to take a string. -/
theorem scans_unique {p p' : Pieces} {s : List Byte} {t t' : TimeAndDate} (h : p.Scans s t)
    (h' : p'.Scans s t') : p = p' ∧ t = t' := by
  obtain ⟨th, tm, ts, td, tmo, ty, rest⟩ := p
  obtain ⟨th', tm', ts', td', tmo', ty', rest'⟩ := p'
  obtain ⟨htext, nh, nm, ns, nd, nmo, ny⟩ := h
  obtain ⟨htext', nh', nm', ns', nd', nmo', ny'⟩ := h'
  have hsame := htext.symm.trans htext'
  dsimp only [Pieces.text] at hsame nh nm ns nd nmo ny nh' nm' ns' nd' nmo' ny'
  have hgap := fun r => headD_append (r := r) (numeral_ne_nil nd)
  have hgap' := fun r => headD_append (r := r) (numeral_ne_nil nd')
  obtain ⟨rfl, hsame, hhour⟩ := numeral_unique hsame nh rfl nh' rfl
  obtain ⟨rfl, hsame, hminute⟩ := numeral_unique (List.cons.inj hsame).2 nm rfl nm' rfl
  obtain ⟨rfl, hsame, hseconds⟩ := numeral_unique (List.cons.inj hsame).2 ns (hgap _) ns' (hgap' _)
  obtain ⟨rfl, hsame, hday⟩ := numeral_unique hsame nd rfl nd' rfl
  obtain ⟨rfl, hsame, hmonth⟩ := numeral_unique (List.cons.inj hsame).2 nmo rfl nmo' rfl
  obtain ⟨rfl, rfl, hyear⟩ := numeral_unique (List.cons.inj hsame).2 ny rfl ny' rfl
  refine ⟨rfl, ?_⟩
  obtain ⟨hour, minute, seconds, day, month, year⟩ := t
  obtain ⟨hour', minute', seconds', day', month', year'⟩ := t'
  cases hhour
  cases hminute
  cases hseconds
  cases hday
  cases hmonth
  cases hyear
  rfl

/-- A string is taken where its pieces pass the checks. -/
theorem parse_iff_scans {s : CStr} {t : TimeAndDate} :
    parseTimeAndDate (some s) = some t ↔ (∃ p : Pieces, p.Scans s.bytes t) ∧ t.InBounds := by
  rw [parseTimeAndDate_iff, scanTimeAndDate_iff]

/-! ## Plain pieces -/

/-- Digits are a number of their value. -/
theorem DigitField.numeral {w : Nat} {text : List Byte} {v : Int} (h : DigitField w text v)
    {rest : List Byte} (hrest : isDigit (rest.headD 0) = false) : Numeral w text v rest :=
  ⟨[], [], text, rfl, List.forall_mem_nil _, Or.inl rfl, h.nonempty, h.digits, h.value,
    by simpa using h.length, Or.inr hrest⟩

/-- Also behind a blank. -/
theorem DigitField.numeral_blank {w : Nat} {text : List Byte} {v : Int} (h : DigitField w text v)
    {rest : List Byte} (hrest : isDigit (rest.headD 0) = false) : Numeral w (32 :: text) v rest := by
  refine ⟨[32], [], text, rfl, ?_, Or.inl rfl, h.nonempty, h.digits, h.value, by simpa using h.length,
    Or.inr hrest⟩
  intro b hb
  rw [List.mem_singleton.mp hb]
  rfl

/-- A number that is all digits has no white space and no sign. -/
theorem numeral_digits {w : Nat} {text rest : List Byte} {v : Int} (h : Numeral w text v rest)
    (hd : ∀ b ∈ text, isDigit b = true) : DigitField w text v := by
  obtain ⟨blanks, sign, digits, rfl, hb, hs, hne, hdig, hv, hle, -⟩ := h
  have hblanks : blanks = [] := by
    cases blanks with
    | nil => rfl
    | cons b l =>
      have hspace := hb b List.mem_cons_self
      rw [isSpace_digit (hd b (by simp))] at hspace
      exact absurd hspace (by decide)
  have hsign : sign = [] := by
    rcases hs with rfl | rfl | rfl
    · rfl
    · exact absurd (hd 43 (by simp)) (by decide)
    · exact absurd (hd 45 (by simp)) (by decide)
  subst hblanks
  subst hsign
  exact ⟨hne, by simpa using hle, hdig, hv⟩

/-- A blank in front of a number does not change it. -/
theorem numeral_of_blank {w : Nat} {text rest : List Byte} {v : Int} (h : Numeral w (32 :: text) v rest) :
    Numeral w text v rest := by
  have hskip : scanInt w (32 :: (text ++ rest)) = scanInt w (text ++ rest) :=
    (scanInt_dropWhile w (32 :: (text ++ rest))).symm.trans (scanInt_dropWhile w (text ++ rest))
  have hscan : scanInt w (32 :: text ++ rest) = some (v, rest) := numeral_scan h rfl
  rw [List.cons_append, hskip] at hscan
  obtain ⟨text', hsame, h'⟩ := scanInt_iff.mp hscan
  rwa [List.append_cancel_right hsame]

/-- The ranges of the format are the checks, for numbers without a sign. -/
theorem settable_of_fields {p : Pieces} {t : TimeAndDate} (hin : t.InBounds)
    (h : DigitField 2 p.hour t.hour) (hm : DigitField 2 p.minute t.minute)
    (hs : DigitField 2 p.seconds t.seconds) {day : List Byte} (hd : DigitField 2 day t.day)
    (hmo : DigitField 2 p.month t.month) (hy : DigitField 4 p.year t.year) : Settable t := by
  obtain ⟨h1, h2, h3, h4, h5, h6⟩ := hin
  have hnonneg : ∀ n : Nat, 0 ≤ (n : Int) := Int.natCast_nonneg
  have n1 := hnonneg (digitsVal p.hour)
  have n2 := hnonneg (digitsVal p.minute)
  have n3 := hnonneg (digitsVal p.seconds)
  have n4 := hnonneg (digitsVal day)
  have n5 := hnonneg (digitsVal p.month)
  have n6 := hnonneg (digitsVal p.year)
  rw [← h.value] at n1
  rw [← hm.value] at n2
  rw [← hs.value] at n3
  rw [← hd.value] at n4
  rw [← hmo.value] at n5
  rw [← hy.value] at n6
  exact ⟨⟨n1, h1⟩, ⟨n2, h2⟩, ⟨n3, h3⟩, ⟨by omega, h4.2⟩, ⟨by omega, h5.2⟩, ⟨n6, h6⟩⟩

/-- **The format** is what is taken in plain pieces. -/
theorem inFormat_iff {s : List Byte} {t : TimeAndDate} :
    InFormat s t ↔ (∃ p : Pieces, p.Scans s t ∧ p.Plain) ∧ t.InBounds := by
  constructor
  · rintro ⟨hour, minute, seconds, day, month, year, rfl, h, hm, hs, hd, hmo, hy, hset⟩
    have hbounds : t.InBounds := by
      obtain ⟨h1, h2, h3, h4, h5, h6⟩ := hset
      exact ⟨h1.2, h2.2, h3.2, ⟨by omega, h4.2⟩, ⟨by omega, h5.2⟩, h6.2⟩
    refine ⟨⟨⟨hour, minute, seconds, 32 :: day, month, year, []⟩, ⟨?_, h.numeral rfl, hm.numeral rfl,
      hs.numeral rfl, hd.numeral_blank rfl, hmo.numeral rfl, hy.numeral rfl⟩, h.digits, hm.digits,
      hs.digits, ⟨day, rfl, hd.digits⟩, hmo.digits, hy.digits, rfl⟩, hbounds⟩
    unfold Pieces.text
    rw [List.append_nil]
    rfl
  · rintro ⟨⟨p, ⟨htext, nh, nm, ns, nd, nmo, ny⟩, hh, hm, hs, ⟨day, hday, hdd⟩, hmo, hy, hrest⟩, hin⟩
    rw [hday] at nd
    have fh := numeral_digits nh hh
    have fm := numeral_digits nm hm
    have fs := numeral_digits ns hs
    have fd := numeral_digits (numeral_of_blank nd) hdd
    have fmo := numeral_digits nmo hmo
    have fy := numeral_digits ny hy
    refine ⟨p.hour, p.minute, p.seconds, day, p.month, p.year, ?_, fh, fm, fs, fd, fmo, fy,
      settable_of_fields hin fh fm fs fd fmo fy⟩
    rw [htext, Pieces.text, hday, hrest, List.append_nil]
    rfl

/-! ## The parser -/

/-- **The parser keeps to the format** on exactly the strings it refuses and those with plain pieces. -/
theorem time_format_iff (buff : Option CStr) : Conforms buff ↔
    ∀ (s : CStr) (p : Pieces) (t : TimeAndDate), buff = some s → p.Scans s.bytes t → t.InBounds →
      p.Plain := by
  constructor
  · rintro ⟨haccepts, -⟩ s p t rfl hscans hin
    have hparse := parse_iff_scans.mpr ⟨⟨p, hscans⟩, hin⟩
    obtain ⟨s', hs', hformat⟩ := (haccepts t).mp hparse
    cases hs'
    obtain ⟨⟨p', hscans', hplain⟩, -⟩ := inFormat_iff.mp hformat
    rwa [(scans_unique hscans hscans').1]
  · intro hplain
    have haccepts : ∀ t, parseTimeAndDate buff = some t ↔ ∃ s, buff = some s ∧ InFormat s.bytes t := by
      intro t
      cases buff with
      | none => exact iff_of_false nofun fun ⟨s, hs, _⟩ => by cases hs
      | some s =>
        constructor
        · intro hparse
          obtain ⟨⟨p, hscans⟩, hin⟩ := parse_iff_scans.mp hparse
          exact ⟨s, rfl, inFormat_iff.mpr ⟨⟨p, hscans, hplain s p t rfl hscans hin⟩, hin⟩⟩
        · rintro ⟨s', hs', hformat⟩
          cases hs'
          obtain ⟨⟨p, hscans, -⟩, hin⟩ := inFormat_iff.mp hformat
          exact parse_iff_scans.mpr ⟨⟨p, hscans⟩, hin⟩
    refine ⟨haccepts, fun t hparse => ?_⟩
    obtain ⟨s, -, hformat⟩ := (haccepts t).mp hparse
    have hin := (inFormat_iff.mp hformat).2
    obtain ⟨-, -, -, -, -, -, -, -, -, -, -, -, -, hset⟩ := hformat
    obtain ⟨h1, h2, h3, h4, h5, h6⟩ := hset
    exact (holds_args_iff hin).mpr ⟨h1.1, h2.1, h3.1, by omega, by omega, h6.1⟩

/-- Every byte of a string in the format is a digit, a colon, a blank or a slash. -/
theorem inFormat_bytes {s : List Byte} {t : TimeAndDate} (h : InFormat s t) :
    ∀ b ∈ s, isDigit b = true ∨ b = 58 ∨ b = 32 ∨ b = 47 := by
  obtain ⟨hour, minute, seconds, day, month, year, rfl, h, hm, hs, hd, hmo, hy, -⟩ := h
  intro b hb
  simp only [List.mem_append, List.mem_cons] at hb
  rcases hb with hb | rfl | hb | rfl | hb | rfl | hb | rfl | hb | rfl | hb
  · exact Or.inl (h.digits b hb)
  · exact Or.inr (Or.inl rfl)
  · exact Or.inl (hm.digits b hb)
  · exact Or.inr (Or.inl rfl)
  · exact Or.inl (hs.digits b hb)
  · exact Or.inr (Or.inr (Or.inl rfl))
  · exact Or.inl (hd.digits b hb)
  · exact Or.inr (Or.inr (Or.inr rfl))
  · exact Or.inl (hmo.digits b hb)
  · exact Or.inr (Or.inr (Or.inr rfl))
  · exact Or.inl (hy.digits b hb)

/-- `12:00:00 -1/05/2025` is taken, with the day `-1`, and is not in the format. -/
theorem time_negativeDay_fails : ¬ ∀ buff, Conforms buff := by
  intro h
  obtain ⟨s, hs, hformat⟩ := ((h (some negativeDayPayload)).accepts _).mp negativeDayPayload_parsed
  cases hs
  have hminus := inFormat_bytes hformat 45 (by decide)
  exact absurd hminus (by decide)

end GenLogger.Config
