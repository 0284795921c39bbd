import GenLogger.Lib.Decimal

/-!
# The processing manager (`processing_manager.hpp`, `virtualRTC.hpp`)

Model of `processingManager`. A measurement is three calls: `takeMeasurements` reads the clock and the
two sensors, `formatData` prints what was read into the buffer both mailboxes point to, and
`notifyObservers` calls `update` of every observer.

* What is read is an input (`Reading`): the texts the clock shows, the text `%f` prints of the
  temperature, the humidity. The two sensors may fail, which the source replaces by `255`.
* The strings are arrays with their terminators where the source has arrays, so `getTimestamp` copies
  what it copies there.

Results:
* `getTimestamp_cstr`: the timestamp reads as the time, since its terminator is copied too.
* `measured_record`: a measurement cannot fail, and leaves the record of its reading in the buffer,
  cut to what the buffer takes; `record_ne_nil`: it is not empty.
-/

namespace GenLogger.Measurement

open GenLogger.Lib

/-- `TIME_BUFF_SIZE`. -/
abbrev timeBuffSize : Nat := 9

/-- `DATE_BUFF_SIZE`. -/
abbrev dateBuffSize : Nat := 11

/-- `MSRD_DATA_BUFF_SIZE`. -/
abbrev msrdDataBuffSize : Nat := 1024

/-- `MAX_NUM_OBSERVERS`. -/
abbrev maxNumObservers : Nat := 10

/-- The components that implement `observerInterface`. -/
inductive Observer where
  | loggerManager
  | httpClient
  deriving Repr, DecidableEq

/-- What the clock and the sensors give a measurement. -/
structure Reading where
  time : CStr
  date : CStr
  temperature : Option CStr
  humidity : Option UInt8
  deriving DecidableEq

/-- `processingManager`. `temperature` is the text `%f` prints of `_temperature`. -/
structure ProcessingManager where
  sensorInfoBuff : CBuf msrdDataBuffSize
  listOfObservers : List Observer
  timestamp : CBuf 50
  temperature : CStr
  humidity : UInt8
  deriving DecidableEq

namespace ProcessingManager

/-- The static object, as constructed. -/
def init : ProcessingManager := ⟨CBuf.zero _, [], CBuf.zero _, CStr.ofBytes (ascii "0.000000"), 0⟩

/-- `setObserver`. -/
def setObserver (ref : Observer) (p : ProcessingManager) : Except Fault ProcessingManager :=
  if p.listOfObservers.length < maxNumObservers then
    .ok { p with listOfObservers := p.listOfObservers ++ [ref] }
  else .error .outOfBounds

/-- `getTimestamp`. The dash goes behind the terminator of the time. -/
def getTimestamp (time date : CStr) (buff : CBuf 50) : Except Fault (CBuf 50) := do
  let timeBuff : CBuf timeBuffSize := (CBuf.zero _).snprintf time.bytes
  let dateBuff : CBuf dateBuffSize := (CBuf.zero _).snprintf date.bytes
  let buff ← buff.memcpy timeBuff.bytes
  let buff ← buff.store timeBuffSize 45
  buff.memcpyAt (timeBuffSize + 1) dateBuff.bytes

/-- `takeMeasurements`. -/
def takeMeasurements (r : Reading) (p : ProcessingManager) : Except Fault ProcessingManager := do
  let timestamp ← getTimestamp r.time r.date p.timestamp
  .ok { p with
    timestamp := timestamp
    temperature := r.temperature.getD (CStr.ofBytes (ascii "255.000000"))
    humidity := r.humidity.getD 255 }

/-- `"%s;%f;%d\n"`. -/
def recordText (timestamp temperature : CStr) (humidity : UInt8) : List Byte :=
  timestamp.bytes ++ ascii ";" ++ temperature.bytes ++ ascii ";" ++ decimal humidity.toNat ++
    ascii "\n"

/-- `formatData`. -/
def formatData (p : ProcessingManager) : Except Fault ProcessingManager := do
  let timestamp ← p.timestamp.cstr
  .ok { p with
    sensorInfoBuff := p.sensorInfoBuff.snprintf (recordText timestamp p.temperature p.humidity) }

/-- `notifyObservers`, with what `update` does to the components behind the pointers. -/
def notifyObservers {α : Type} (update : Observer → α → α) (p : ProcessingManager) (a : α) : α :=
  p.listOfObservers.foldl (fun a ref => update ref a) a

end ProcessingManager

open ProcessingManager

/-! ## What a measurement leaves -/

/-- The timestamp reads as the time: its terminator is copied too. -/
theorem getTimestamp_cstr (time date : CStr) (buff : CBuf 50) : ∃ b,
    getTimestamp time date buff = .ok b ∧ b.cstr = .ok (time.truncate (timeBuffSize - 1)) := by
  let timeBuff : CBuf timeBuffSize := (CBuf.zero _).snprintf time.bytes
  let dateBuff : CBuf dateBuffSize := (CBuf.zero _).snprintf date.bytes
  have htime : timeBuff.bytes.length = 9 := timeBuff.size
  have hdate : dateBuff.bytes.length = 11 := dateBuff.size
  obtain ⟨b₁, h₁, hb₁⟩ : ∃ b, buff.memcpy timeBuff.bytes = .ok b ∧
      b.bytes = timeBuff.bytes ++ buff.bytes.drop timeBuff.bytes.length :=
    ⟨_, dif_pos (by omega), rfl⟩
  obtain ⟨b₂, h₂, hb₂⟩ : ∃ b, b₁.store timeBuffSize 45 = .ok b ∧
      b.bytes = timeBuff.bytes ++ (buff.bytes.drop timeBuff.bytes.length).set 0 45 := by
    refine ⟨_, if_pos (by decide), ?_⟩
    show b₁.bytes.set 9 45 = _
    rw [hb₁, List.set_append_right _ _ (by omega), htime]
  obtain ⟨b₃, h₃, r, hb₃⟩ : ∃ b, b₂.memcpyAt (timeBuffSize + 1) dateBuff.bytes = .ok b ∧
      ∃ r, b.bytes = timeBuff.bytes ++ r := by
    refine ⟨_, dif_pos (by rw [hdate]; decide), ?_⟩
    show ∃ r, b₂.bytes.take (timeBuffSize + 1) ++ dateBuff.bytes ++ b₂.bytes.drop _ = _ ++ r
    rw [hb₂, List.append_assoc, List.take_append,
      List.take_of_length_le (by rw [htime]; decide)]
    exact ⟨_, List.append_assoc _ _ _⟩
  refine ⟨b₃, bind_eq_ok.mpr ⟨b₁, h₁, bind_eq_ok.mpr ⟨b₂, h₂, h₃⟩⟩, ?_⟩
  obtain ⟨h0, htext⟩ := (CBuf.cstr_ok_iff _ _).mp
    (CBuf.cstr_snprintf (CBuf.zero timeBuffSize) (by decide) time)
  obtain ⟨r', hr'⟩ := split_at_nul h0
  have hbytes : b₃.bytes = (time.truncate (timeBuffSize - 1)).bytes ++ 0 :: (r' ++ r) := by
    rw [hb₃, htext, CStr.ofBytes_bytes, ← List.cons_append, ← List.append_assoc, ← hr']
  exact CBuf.cstr_of_bytes (time.truncate (timeBuffSize - 1)).noNul hbytes

/-- The record a reading gives: the time, the temperature and the humidity. -/
def recordOf (r : Reading) : List Byte :=
  recordText (r.time.truncate (timeBuffSize - 1))
    (r.temperature.getD (CStr.ofBytes (ascii "255.000000"))) (r.humidity.getD 255)

theorem nul_notMem_recordText (timestamp temperature : CStr) (humidity : UInt8) :
    (0 : Byte) ∉ recordText timestamp temperature humidity := by
  have hsemi : (0 : Byte) ∉ ascii ";" := by decide
  have hend : (0 : Byte) ∉ ascii "\n" := by decide
  simp only [recordText, List.mem_append, not_or]
  exact ⟨⟨⟨⟨⟨timestamp.noNul, hsemi⟩, temperature.noNul⟩, hsemi⟩, notMem_decimal (by decide) _⟩, hend⟩

/-- **A measurement** cannot fail. It leaves the record of its reading in the buffer, cut to what the
buffer takes, and the observers as they are. -/
theorem measured_record (r : Reading) (p : ProcessingManager) : ∃ p' record,
    (do let p ← takeMeasurements r p; formatData p) = .ok p' ∧
      p'.sensorInfoBuff.cstr = .ok record ∧ record.bytes = (recordOf r).take (msrdDataBuffSize - 1) ∧
      p'.listOfObservers = p.listOfObservers := by
  obtain ⟨b, hb, hcstr⟩ := getTimestamp_cstr r.time r.date p.timestamp
  let record : CStr := ⟨recordOf r, nul_notMem_recordText _ _ _⟩
  refine ⟨_, record.truncate (msrdDataBuffSize - 1), bind_eq_ok.mpr ⟨_, bind_eq_ok.mpr ⟨b, hb, rfl⟩,
    bind_eq_ok.mpr ⟨_, hcstr, rfl⟩⟩, ?_, rfl, rfl⟩
  exact CBuf.cstr_snprintf p.sensorInfoBuff (by decide) record

/-- A record is not empty. -/
theorem record_ne_nil (r : Reading) : (recordOf r).take (msrdDataBuffSize - 1) ≠ [] := by
  unfold recordOf recordText
  simp [ascii]

end GenLogger.Measurement
