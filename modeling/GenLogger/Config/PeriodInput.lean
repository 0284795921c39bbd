import GenLogger.Config.Menu
import GenLogger.Config.RoundTrip

/-!
# The payload of a period

After `C` or `M` the payload is read by `std::from_chars` up to `buff + sizeof(buff) - 1`, and `buff`
is a pointer: at most seven bytes are read on the host and three on the target. What follows the
digits is not looked at, a minus sign is taken, and the result is cut to 16 bits.

* `scanBytes` are the bytes that are read; `PeriodNumeral` is a numeral that denotes a period.
* `ReadWhole` is the condition: a numeral is one of the bytes that are read, or zero, and anything
  else does not begin with a number.

Results:
* `fromChars_head`, `prefix_value_iff`: what is read of a numeral, and when that has its value.
* `enterPayload_period`: the payload after one of the two keys sets the period of that key.
* `period_input_iff`: a payload is taken as the number it denotes, or refused, exactly where it is
  read whole, after either prompt and on both builds.
-/

namespace GenLogger.Config

open GenLogger.Lib GenLogger.Platform

variable {σ ρ : Type}

/-- The bytes of a payload that `from_chars` is given. -/
def scanBytes (pl : Platform) : Nat := pl.sizeofPtr - 1

/-- Decimal digits that denote `n`, which fits a period. -/
structure PeriodNumeral (s : List Byte) (n : Nat) : Prop where
  nonempty : s ≠ []
  digits : ∀ b ∈ s, isDigit b = true
  value : digitsVal s = n
  fits : n ≤ 65535

/-- The period a prompt key asks for. -/
def setPeriod (key : TerminalSignal) (v : UInt16) (m : LoggerMetadata) : LoggerMetadata :=
  if key = .pressedKeyC then { m with fileTransmissionPeriod := v }
  else { m with generalMeasurementPeriod := v }

/-- **Taken exactly**: a numeral sets the prompted period, every other payload is refused. -/
structure TakenExactly (key : TerminalSignal) (b : CStr) (c c' : ConfigSubsystem σ ρ) : Prop where
  numeral : ∀ n, PeriodNumeral b.bytes n → c'.metadata = setPeriod key (UInt16.ofNat n) c.metadata
  other : (∀ n, ¬ PeriodNumeral b.bytes n) → c'.metadata = c.metadata ∧
    c'.console = c.console ++ [.text "Invalid data, please type again\r\n"]

/-- A numeral is one of the bytes that are read, or zero; anything else does not begin with a number. -/
def ReadWhole (pl : Platform) (s : List Byte) : Prop :=
  (∃ n, PeriodNumeral s n ∧ (s.length ≤ scanBytes pl ∨ n = 0)) ∨
    (∀ n, ¬ PeriodNumeral s n) ∧ ¬ StartsNumber s

/-! ## What is read -/

theorem scanBytes_le (pl : Platform) : 2 ≤ scanBytes pl ∧ scanBytes pl ≤ 7 := by
  cases pl <;> decide

/-- Two bytes show whether a number begins. -/
theorem startsNumber_take {k : Nat} (hk : 2 ≤ k) (s : List Byte) :
    StartsNumber (s.take k) ↔ StartsNumber s := by
  obtain ⟨k, rfl⟩ := Nat.exists_eq_add_of_le' hk
  cases s with
  | nil => rfl
  | cons b t =>
    cases t with
    | nil => rfl
    | cons d u =>
      rw [List.take_succ_cons, List.take_succ_cons, startsNumber_cons, startsNumber_cons]
      simp

section

variable {pl : Platform} {b : CStr} {c c' : ConfigSubsystem σ ρ} {key : TerminalSignal}

/-- The prefix of a numeral that is read. -/
theorem fromChars_head {s : List Byte} {n : Nat} (h : PeriodNumeral s n) :
    fromChars (s.take (scanBytes pl)) = some (digitsVal (s.take (scanBytes pl)) : Int) := by
  obtain ⟨h2, h7⟩ := scanBytes_le pl
  refine fromChars_digits ((List.length_take_le _ _).trans h7) ?_ fun x hx =>
    h.digits x (List.mem_of_mem_take hx)
  intro hnil
  rcases List.take_eq_nil_iff.mp hnil with h0 | h0
  · omega
  · exact h.nonempty h0

/-- It has the value of the numeral if it is the numeral, or that is zero. -/
theorem prefix_value_iff {s : List Byte} {n : Nat} (h : PeriodNumeral s n) (k : Nat) :
    digitsVal (s.take k) = n ↔ s.length ≤ k ∨ n = 0 := by
  by_cases hk : s.length ≤ k
  · rw [List.take_of_length_le hk]
    exact iff_of_true h.value (Or.inl hk)
  have hsplit := digitsVal_append (s.take k) (s.drop k)
  rw [List.take_append_drop, h.value] at hsplit
  have hdrop : 0 < (s.drop k).length := by
    rw [List.length_drop]
    omega
  have hten : 10 ≤ 10 ^ (s.drop k).length := Nat.le_self_pow (Nat.pos_iff_ne_zero.mp hdrop) 10
  have hmul := Nat.mul_le_mul_left (digitsVal (s.take k)) hten
  constructor
  · intro hval
    rw [hval] at hsplit hmul
    exact Or.inr (by omega)
  · rintro (hle | h0)
    · exact absurd hle hk
    · omega

/-- The value that is read fits a period as the numeral does. -/
theorem prefix_value_le {s : List Byte} {n : Nat} (h : PeriodNumeral s n) (k : Nat) :
    digitsVal (s.take k) ≤ n := by
  have hsplit := digitsVal_append (s.take k) (s.drop k)
  rw [List.take_append_drop, h.value] at hsplit
  have hpos : 1 ≤ 10 ^ (s.drop k).length := Nat.one_le_pow _ _ (by decide)
  have hmul := Nat.mul_le_mul_left (digitsVal (s.take k)) hpos
  omega

theorem enterPeriod_none (h : fromChars (b.bytes.take (scanBytes pl)) = none)
    (set : UInt16 → LoggerMetadata → LoggerMetadata) (done : String) :
    enterPeriod pl b set done c = c.print "Invalid data, please type again\r\n" := by
  unfold scanBytes at h
  unfold enterPeriod
  rw [h]

theorem enterPeriod_some {v : Int} (h : fromChars (b.bytes.take (scanBytes pl)) = some v)
    (set : UInt16 → LoggerMetadata → LoggerMetadata) (done : String) :
    enterPeriod pl b set done c = (c.edit (set (UInt16.ofInt v))).print done := by
  unfold scanBytes at h
  unfold enterPeriod
  rw [h]

/-- The payload after one of the two keys sets the period of that key. -/
theorem enterPayload_period (pl : Platform) (clock : RtcInterface ρ) (b : CStr)
    (hkey : key = .pressedKeyC ∨ key = .pressedKeyM) (hprompt : c.previousSignal = key) : ∃ done,
    done ≠ "Invalid data, please type again\r\n" ∧
      enterPayload pl clock b c = enterPeriod pl b (setPeriod key) done c := by
  unfold enterPayload
  rcases hkey with rfl | rfl
  · rw [hprompt]
    exact ⟨"File transmission period changed, input S to save it\r\n", by decide, rfl⟩
  · rw [hprompt]
    exact ⟨"Measurement period changed, input S to save it\r\n", by decide, rfl⟩

/-- Different values make different records. -/
theorem setPeriod_inj {v v' : UInt16} {m : LoggerMetadata} (h : setPeriod key v m = setPeriod key v' m) :
    v = v' := by
  unfold setPeriod at h
  split at h
  · exact congrArg LoggerMetadata.fileTransmissionPeriod h
  · exact congrArg LoggerMetadata.generalMeasurementPeriod h

theorem ofInt_natCast16 (n : Nat) : UInt16.ofInt (n : Int) = UInt16.ofNat n := by
  apply UInt16.toNat_inj.mp
  show (UInt16.ofNat ((n : Int) % 65536).toNat).toNat = _
  rw [UInt16.toNat_ofNat', UInt16.toNat_ofNat']
  show ((n : Int) % 65536).toNat % 65536 = n % 65536
  omega

/-- A numeral of a period sets what is read of it. -/
theorem numeral_taken_iff {n : Nat} (hnum : PeriodNumeral b.bytes n) {done : String} :
    TakenExactly key b c (enterPeriod pl b (setPeriod key) done c) ↔
      b.bytes.length ≤ scanBytes pl ∨ n = 0 := by
  rw [enterPeriod_some (fromChars_head hnum), ofInt_natCast16]
  have hle := prefix_value_le hnum (scanBytes pl)
  have hfits := hnum.fits
  have hmeta : ((c.edit (setPeriod key (UInt16.ofNat (digitsVal (b.bytes.take (scanBytes pl)))))).print
      done).metadata = setPeriod key (UInt16.ofNat (digitsVal (b.bytes.take (scanBytes pl))))
        c.metadata := rfl
  rw [← prefix_value_iff hnum (scanBytes pl)]
  constructor
  · intro h
    have hset := setPeriod_inj (hmeta.symm.trans (h.numeral n hnum))
    have hval := congrArg UInt16.toNat hset
    rw [UInt16.toNat_ofNat', UInt16.toNat_ofNat'] at hval
    omega
  · intro hval
    refine ⟨fun k hk => ?_, fun hno => absurd hnum (hno n)⟩
    rw [hmeta, hval, ← hnum.value, hk.value]

/-- Any other payload is refused where no number begins. -/
theorem other_taken_iff (hno : ∀ n, ¬ PeriodNumeral b.bytes n) {done : String}
    (hdone : done ≠ "Invalid data, please type again\r\n") :
    TakenExactly key b c (enterPeriod pl b (setPeriod key) done c) ↔ ¬ StartsNumber b.bytes := by
  obtain ⟨h2, h7⟩ := scanBytes_le pl
  rw [← startsNumber_take h2, ← fromChars_ne_none_iff ((List.length_take_le _ _).trans h7), not_not]
  constructor
  · intro h
    by_contra hsome
    obtain ⟨v, hv⟩ := Option.ne_none_iff_exists'.mp hsome
    have hprint := (h.other hno).2
    rw [enterPeriod_some hv] at hprint
    have htext := List.append_cancel_left hprint
    exact hdone (Output.text.inj (List.cons.inj htext).1)
  · intro hnone
    rw [enterPeriod_none hnone]
    exact ⟨fun n hn => absurd hn (hno n), fun _ => ⟨rfl, rfl⟩⟩

end

/-- **Period input is exact** for the payloads that are read whole, and for no other: after the `C` and the
`M` prompt, on both platforms. -/
theorem period_input_iff (pl : Platform) (fs : FileHandler σ) (clock : RtcInterface ρ)
    (key : TerminalSignal) (hkey : key = .pressedKeyC ∨ key = .pressedKeyM) (b : CStr) (ticks : Ticks)
    (c c' : ConfigSubsystem σ ρ) (hstate : c.activeState = .basicDeviceConfig)
    (hprompt : c.previousSignal = key)
    (hcall : Pressed pl fs clock c ⟨.pressedKeyEnter, some b, ticks⟩ c') :
    TakenExactly key b c c' ↔ ReadWhole pl b.bytes := by
  unfold Pressed at hcall
  rw [handler_payload pl fs clock hstate] at hcall
  obtain rfl := Except.ok.inj hcall
  obtain ⟨done, hdone, hpayload⟩ := enterPayload_period pl clock b hkey hprompt
  rw [hpayload]
  unfold ReadWhole
  by_cases hnum : ∃ n, PeriodNumeral b.bytes n
  · obtain ⟨n, hnum⟩ := hnum
    rw [numeral_taken_iff hnum]
    constructor
    · exact fun h => Or.inl ⟨n, hnum, h⟩
    · rintro (⟨k, hk, h⟩ | ⟨hno, -⟩)
      · rwa [← hnum.value, hk.value]
      · exact absurd hnum (hno n)
  · have hno : ∀ n, ¬ PeriodNumeral b.bytes n := fun n hn => hnum ⟨n, hn⟩
    rw [other_taken_iff hno hdone]
    constructor
    · exact fun h => Or.inr ⟨hno, h⟩
    · rintro (⟨k, hk, -⟩ | ⟨-, h⟩)
      · exact absurd hk (hno k)
      · exact h

/-- The terminal on the target after the `M` prompt. -/
def targetPrompted : ConfigSubsystem CFile Unit where
  activeState := .basicDeviceConfig
  previousSignal := .pressedKeyM
  availableSignal := .pressedKeyM
  flagStreamDelay := false
  ticks := 0
  storage := hostStorage
  rtc := ()
  console := []

/-- The payloads `60` and `1440`. -/
def hourPayload : CStr := CStr.ofBytes (ascii "60")

/-- A day. -/
def dayPayload : CStr := CStr.ofBytes (ascii "1440")

theorem hourPayload_numeral : PeriodNumeral hourPayload.bytes 60 :=
  ⟨by decide, List.all_eq_true.mp (by decide), by decide, by decide⟩

theorem dayPayload_numeral : PeriodNumeral dayPayload.bytes 1440 :=
  ⟨by decide, List.all_eq_true.mp (by decide), by decide, by decide⟩

theorem period_input_hour : ∃ c', Pressed .target cFileHandler blankClock targetPrompted
    ⟨.pressedKeyEnter, some hourPayload, ⟨0, 0⟩⟩ c' ∧ c'.metadata.generalMeasurementPeriod = 60 := by
  have hcall := handler_payload .target cFileHandler blankClock (c := targetPrompted) rfl hourPayload ⟨0, 0⟩
  have hexact := (period_input_iff .target cFileHandler blankClock .pressedKeyM (Or.inr rfl) hourPayload
    ⟨0, 0⟩ targetPrompted _ rfl rfl hcall).mpr (Or.inl ⟨60, hourPayload_numeral, Or.inl (by decide)⟩)
  exact ⟨_, hcall, congrArg LoggerMetadata.generalMeasurementPeriod (hexact.numeral 60 hourPayload_numeral)⟩

/-- A day in minutes, on the target: three of the four digits are read. -/
theorem period_input_day_fails : ∃ c', Pressed .target cFileHandler blankClock targetPrompted
    ⟨.pressedKeyEnter, some dayPayload, ⟨0, 0⟩⟩ c' ∧ c'.metadata.generalMeasurementPeriod = 144 ∧
      ¬ TakenExactly .pressedKeyM dayPayload targetPrompted c' := by
  have hcall := handler_payload .target cFileHandler blankClock (c := targetPrompted) rfl dayPayload ⟨0, 0⟩
  have hperiod : (enterPayload .target blankClock dayPayload
      targetPrompted).metadata.generalMeasurementPeriod = 144 := by decide
  refine ⟨_, hcall, hperiod, fun h => ?_⟩
  have hset := congrArg LoggerMetadata.generalMeasurementPeriod (h.numeral 1440 dayPayload_numeral)
  rw [hperiod] at hset
  exact absurd hset (by decide)

end GenLogger.Config
