import GenLogger.Measurement.Processing

/-!
# The timestamp of a record

`getTimestamp` is meant to write the time, a dash and the date as one string. The time is copied with
its terminator and the dash goes behind it, so every reader of the string sees the time only. What
reaches the record is settled for every reading:

* `Reading.Formatted` is a reading as the clock and `%f` print it.
* `TimestampWritten`, `RecordBegins` and `RecordDetermines` are what a timestamp is for.

Results:
* `recordOf_formatted`: the record of a formatted reading: the time is whole, and nothing is cut.
* `record_determines`: the time and the humidity can always be read off a record.
* `timestamp_reaches`: the timestamp is never the whole text, no record begins with it, and two
  records of readings that differ in the date alone are the same.
-/

namespace GenLogger.Measurement

open GenLogger.Lib ProcessingManager

/-- `TIMESTAMP_BUFF_SIZE`. -/
abbrev timestampBuffSize : Nat := timeBuffSize + dateBuffSize

/-- A reading as the clock and `%f` print it: `HH:MM:SS`, `DD/MM/YYYY`, and a `float`, which takes at
most a sign, 39 digits, a point and 6 digits. -/
structure Reading.Formatted (r : Reading) : Prop where
  time : r.time.bytes.length = 8
  date : r.date.bytes.length = 10
  temperature : ∀ t, r.temperature = some t → t.bytes.length ≤ 47

/-- `"HH:MM:SS-DD/MM/YYYY"`. -/
def timestampText (r : Reading) : List Byte := r.time.bytes ++ ascii "-" ++ r.date.bytes

/-- `getTimestamp` writes the text and its terminator, and nothing after `TIMESTAMP_BUFF_SIZE`. -/
def TimestampWritten (r : Reading) (buff : CBuf 50) : Prop :=
  ∃ b, getTimestamp r.time r.date buff = .ok b ∧
    b.bytes = timestampText r ++ 0 :: buff.bytes.drop timestampBuffSize

/-- The record a measurement leaves for the observers. -/
def Recorded (r : Reading) (p : ProcessingManager) (record : CStr) : Prop :=
  ∃ p', (do let p ← takeMeasurements r p; formatData p) = .ok p' ∧
    p'.sensorInfoBuff.cstr = .ok record

/-- The record of a measurement begins with the whole timestamp and a separator. -/
def RecordBegins (r : Reading) (p : ProcessingManager) : Prop :=
  ∃ record, Recorded r p record ∧ timestampText r ++ ascii ";" <+: record.bytes

/-- Equal records come from equal times, dates and humidities. -/
def RecordDetermines (r r' : Reading) : Prop :=
  ∀ p p' record, Recorded r p record → Recorded r' p' record →
    r.time = r'.time ∧ r.date = r'.date ∧ r.humidity.getD 255 = r'.humidity.getD 255

/-! ## What a record says -/

/-- The text of the temperature in the record. -/
def Reading.temperatureText (r : Reading) : CStr :=
  r.temperature.getD (CStr.ofBytes (ascii "255.000000"))

/-- A measurement leaves one record. -/
theorem recorded_iff {r : Reading} {p : ProcessingManager} {record : CStr} :
    Recorded r p record ↔ record.bytes = (recordOf r).take (msrdDataBuffSize - 1) := by
  obtain ⟨p', record', hrun, hcstr, hbytes, -⟩ := measured_record r p
  constructor
  · rintro ⟨p'', hrun', hcstr'⟩
    rw [hrun] at hrun'
    cases hrun'
    rw [hcstr] at hcstr'
    cases hcstr'
    exact hbytes
  · intro h
    have heq : record = record' := CStr.ext (h.trans hbytes.symm)
    exact ⟨p', hrun, heq ▸ hcstr⟩

theorem temperatureText_length {r : Reading} (h : r.Formatted) :
    r.temperatureText.bytes.length ≤ 47 := by
  unfold Reading.temperatureText
  cases ht : r.temperature with
  | none => decide
  | some t => exact h.temperature t ht

/-- The record of a formatted reading: the time is whole, and nothing is cut. -/
theorem recordOf_formatted {r : Reading} (h : r.Formatted) :
    (recordOf r).take (msrdDataBuffSize - 1) =
      recordText r.time r.temperatureText (r.humidity.getD 255) := by
  have htime : r.time.truncate (timeBuffSize - 1) = r.time := by
    refine CStr.ext ?_
    rw [CStr.truncate_bytes, List.take_of_length_le (by rw [h.time]; decide)]
  have hdigits : (decimal (r.humidity.getD 255).toNat).length ≤ 3 :=
    decimal_length_le (by decide) (Nat.lt_of_lt_of_le (r.humidity.getD 255).toNat_lt (by decide))
  have htemp := temperatureText_length h
  unfold recordOf
  rw [htime, List.take_of_length_le]
  · rfl
  · simp only [recordText, List.length_append, h.time]
    have : (ascii ";").length = 1 := rfl
    have : (ascii "\n").length = 1 := rfl
    show _ ≤ 1023
    unfold Reading.temperatureText at htemp
    omega

/-- Two texts with the same last separator are the same before and after it. -/
theorem append_cons_inj_right {a a' b b' : List Byte} {c : Byte} (hb : c ∉ b) (hb' : c ∉ b')
    (h : a ++ c :: b = a' ++ c :: b') : a = a' ∧ b = b' := by
  rcases List.append_eq_append_iff.mp h with ⟨d, rfl, hd⟩ | ⟨d, rfl, hd⟩
  · cases d with
    | nil =>
      cases hd
      exact ⟨(List.append_nil a).symm, rfl⟩
    | cons x d =>
      obtain ⟨rfl, rfl⟩ := List.cons.inj hd
      exact absurd (List.mem_append_right d List.mem_cons_self) hb
  · cases d with
    | nil =>
      cases hd
      exact ⟨List.append_nil a', rfl⟩
    | cons x d =>
      obtain ⟨rfl, rfl⟩ := List.cons.inj hd
      exact absurd (List.mem_append_right d List.mem_cons_self) hb'

/-- A record text can be taken apart: the time has 8 bytes, and no separator follows the last one. -/
theorem recordText_inj {t t' temp temp' : CStr} {hum hum' : UInt8}
    (ht : t.bytes.length = 8) (ht' : t'.bytes.length = 8)
    (h : recordText t temp hum = recordText t' temp' hum') : t = t' ∧ temp = temp' ∧ hum = hum' := by
  have hsplit : ∀ (t temp : CStr) (hum : UInt8), recordText t temp hum =
      t.bytes ++ ascii ";" ++ temp.bytes ++ 59 :: (decimal hum.toNat ++ ascii "\n") := by
    intro t temp hum
    simp only [recordText, List.append_assoc]
    rfl
  have hlast : ∀ n, (59 : Byte) ∉ decimal n ++ ascii "\n" := by
    intro n hmem
    rcases List.mem_append.mp hmem with hmem | hmem
    · exact notMem_decimal (by decide) _ hmem
    · exact absurd hmem (by decide)
  rw [hsplit, hsplit] at h
  obtain ⟨hfront, hback⟩ := append_cons_inj_right (hlast _) (hlast _) h
  rw [List.append_assoc, List.append_assoc] at hfront
  obtain ⟨htime, htemp⟩ := List.append_inj hfront (ht.trans ht'.symm)
  have hhum := List.append_cancel_right hback
  refine ⟨CStr.ext htime, CStr.ext (List.append_cancel_left htemp), UInt8.toNat_inj.mp ?_⟩
  rw [← digitsVal_decimal hum.toNat, hhum, digitsVal_decimal]

/-! ## What reaches a record -/

/-- The record of a formatted reading begins with the time and a separator. -/
theorem recorded_prefix {r : Reading} (h : r.Formatted) {p : ProcessingManager} {record : CStr}
    (hrec : Recorded r p record) : r.time.bytes ++ ascii ";" <+: record.bytes := by
  rw [recorded_iff.mp hrec, recordOf_formatted h]
  unfold recordText
  simp only [List.append_assoc]
  exact ⟨_, List.append_assoc _ _ _⟩

/-- No array holds the whole text where a reader sees the time only. -/
theorem timestamp_notWritten {r : Reading} (h : r.Formatted) (buff : CBuf 50) :
    ¬ TimestampWritten r buff := by
  rintro ⟨b, hb, hbytes⟩
  obtain ⟨b', hb', hcstr⟩ := getTimestamp_cstr r.time r.date buff
  rw [hb] at hb'
  cases hb'
  have hdash : (0 : Byte) ∉ ascii "-" := by decide
  have hnul : (0 : Byte) ∉ timestampText r := by
    simp only [timestampText, List.mem_append, not_or]
    exact ⟨⟨r.time.noNul, hdash⟩, r.date.noNul⟩
  have htext := CBuf.cstr_of_bytes hnul hbytes
  rw [hcstr] at htext
  have hlen := congrArg List.length (congrArg CStr.bytes (Except.ok.inj htext))
  rw [CStr.truncate_bytes, List.length_take] at hlen
  simp only [timestampText, List.length_append, h.time, h.date] at hlen
  omega

/-- The dash would stand where the separator stands. -/
theorem record_notBegins {r : Reading} (h : r.Formatted) (p : ProcessingManager) :
    ¬ RecordBegins r p := by
  rintro ⟨record, hrec, hpre⟩
  have htime := recorded_prefix h hrec
  have hdash : r.time.bytes ++ ascii "-" <+: record.bytes := by
    refine List.IsPrefix.trans ?_ hpre
    unfold timestampText
    rw [List.append_assoc]
    exact List.prefix_append _ _
  have heq := List.prefix_of_prefix_length_le hdash htime (Nat.le_of_eq (by
    rw [List.length_append, List.length_append]
    rfl))
  have hsame := List.append_cancel_left (heq.eq_of_length (by
    rw [List.length_append, List.length_append]
    rfl))
  exact absurd hsame (by decide)

/-- **What a record determines**: everything but the date. -/
theorem record_determines {r r' : Reading} (h : r.Formatted) (h' : r'.Formatted)
    {p p' : ProcessingManager} {record : CStr} (hrec : Recorded r p record) :
    Recorded r' p' record ↔ r.time = r'.time ∧ r.temperatureText = r'.temperatureText ∧
      r.humidity.getD 255 = r'.humidity.getD 255 := by
  rw [recorded_iff, recordOf_formatted h']
  have htext := recorded_iff.mp hrec
  rw [recordOf_formatted h] at htext
  rw [htext]
  constructor
  · exact recordText_inj h.time h'.time
  · rintro ⟨ht, htemp, hhum⟩
    rw [ht, htemp, hhum]

/-- **No timestamp reaches its record.** For every reading the timestamp written is not the whole
text, and the record does not begin with it; and equal records of two readings mean equal times, dates
and humidities exactly where the dates agree or something else in the records differs. -/
theorem timestamp_reaches (r r' : Reading) (h : r.Formatted) (h' : r'.Formatted) :
    (∀ buff, ¬ TimestampWritten r buff) ∧ (∀ p, ¬ RecordBegins r p) ∧
      (RecordDetermines r r' ↔ r.date = r'.date ∨ r.time ≠ r'.time ∨
        r.temperatureText ≠ r'.temperatureText ∨ r.humidity.getD 255 ≠ r'.humidity.getD 255) := by
  refine ⟨timestamp_notWritten h, record_notBegins h, ?_⟩
  constructor
  · intro hdet
    by_contra hno
    push Not at hno
    obtain ⟨hdate, htime, htemp, hhum⟩ := hno
    let record : CStr := ⟨recordOf r, nul_notMem_recordText _ _ _⟩
    have hrec : Recorded r .init (record.truncate (msrdDataBuffSize - 1)) := recorded_iff.mpr rfl
    exact hdate (hdet .init .init _ hrec
      ((record_determines h h' hrec).mpr ⟨htime, htemp, hhum⟩)).2.1
  · intro hor p p' record hrec hrec'
    obtain ⟨htime, htemp, hhum⟩ := (record_determines h h' hrec).mp hrec'
    refine ⟨htime, ?_, hhum⟩
    rcases hor with hdate | hne | hne | hne
    · exact hdate
    · exact absurd htime hne
    · exact absurd htemp hne
    · exact absurd hhum hne

/-- A reading at half past twelve on a day of March. -/
def marchReading (date : String) : Reading :=
  ⟨CStr.ofBytes (ascii "12:30:00"), CStr.ofBytes (ascii date),
    some (CStr.ofBytes (ascii "20.500000")), some 40⟩

theorem marchReading_formatted {date : String}
    (h : (CStr.ofBytes (ascii date)).bytes.length = 10) : (marchReading date).Formatted where
  time := rfl
  date := h
  temperature t ht := by
    cases ht
    decide

/-- Only the date depends on the date. -/
theorem marchReading_same (date date' : String) :
    (marchReading date).time = (marchReading date').time ∧
      (marchReading date).temperatureText = (marchReading date').temperatureText ∧
      (marchReading date).humidity.getD 255 = (marchReading date').humidity.getD 255 :=
  ⟨rfl, rfl, rfl⟩

theorem timestamp_reaches_march :
    (∀ buff, ¬ TimestampWritten (marchReading "01/03/2025") buff) ∧
      (∀ p, ¬ RecordBegins (marchReading "01/03/2025") p) ∧
      ¬ RecordDetermines (marchReading "01/03/2025") (marchReading "02/03/2025") := by
  obtain ⟨hw, hb, hd⟩ := timestamp_reaches (marchReading "01/03/2025") (marchReading "02/03/2025")
    (marchReading_formatted (by decide)) (marchReading_formatted (by decide))
  refine ⟨hw, hb, fun hdet => ?_⟩
  have hdate : (marchReading "01/03/2025").date ≠ (marchReading "02/03/2025").date := by decide
  obtain ⟨htime, htemp, hhum⟩ := marchReading_same "01/03/2025" "02/03/2025"
  rcases hd.mp hdet with h | h | h | h
  · exact hdate h
  · exact h htime
  · exact h htemp
  · exact h hhum

/-- A measurement at 12:30:00 on 01/03/2025: the timestamp reads `12:30:00`, the record begins
`12:30:00;`, and it is the record of the same reading a day later. -/
theorem timestamp_march_fails :
    ¬ TimestampWritten (marchReading "01/03/2025") (CBuf.zero 50) ∧
      ¬ RecordBegins (marchReading "01/03/2025") .init ∧
      ∃ record, Recorded (marchReading "01/03/2025") .init record ∧
        Recorded (marchReading "02/03/2025") .init record := by
  have hf : (marchReading "01/03/2025").Formatted := marchReading_formatted (by decide)
  refine ⟨timestamp_notWritten hf _, record_notBegins hf _,
    CStr.ofBytes (ascii "12:30:00;20.500000;40\n"), recorded_iff.mpr ?_, recorded_iff.mpr ?_⟩
  · decide
  · decide

end GenLogger.Measurement
