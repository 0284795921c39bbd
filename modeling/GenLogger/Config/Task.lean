import GenLogger.Config.Terminal
import GenLogger.Lib.Run

/-!
# The configuration task (`serialHandler.cpp`, `main.cpp`)

Model of what the super loop does for the configuration: `configurationTask` is one call of it, `main`
the start-up as far as it touches the same variables.

* `Serial` is the serial handler: the line received last, the notice that it is new, and the `payload`
  flag that `getTerminalSignal` raises for `getSerialBuffer`. On the target a line is the text of
  `serialBuffer` up to its terminator.
* `System` is the part of the program the task works on, with the period the tick handler reads.
* A line arrives between calls here; the module on interleavings takes the task apart.
* `Step` is one step of the machine: a call, or a reset with whatever the device then holds.

Results:
* `main_cases`: all that a start does, in terms of `initFS`.
* `configurationTask_eq`, `configurationTask_cases`: a call is its decision (`Dispatch`), the handler
  and the flag check.
* `dispatched_key`, `dispatched_payload`: a line of one key is the key's signal, any other one a
  payload.
-/

namespace GenLogger.Config

open GenLogger.Lib GenLogger.Platform

/-! ## The serial handler -/

/-- The variables of `serialHandler.cpp`. -/
structure Serial where
  serialBuffer : List Byte
  newDataAvailable : Bool
  payload : Bool
  deriving DecidableEq

/-- `keyMap`. -/
def keyMap : List (TerminalSignal × Byte) :=
  [(.pressedKeyI, 73), (.pressedKeyC, 67), (.pressedKeyB, 66), (.pressedKeyN, 78),
    (.pressedKeyT, 84), (.pressedKeyS, 83), (.pressedKeyF, 70), (.pressedKeyM, 77),
    (.pressedKeyEnter, 13)]

namespace Serial

/-- A line arrives (`uartSimulatorThread`, or the DMA transfer). -/
def receive (line : Option (List Byte)) (s : Serial) : Serial :=
  match line with
  | none => s
  | some l => { s with serialBuffer := l, newDataAvailable := true }

/-- `serialHandler`. -/
def serialHandler (s : Serial) : Bool × Serial :=
  (s.newDataAvailable, { s with newDataAvailable := false })

/-- `getTerminalSignal`. -/
def getTerminalSignal (s : Serial) : TerminalSignal × Serial :=
  let key := if s.serialBuffer.length < 2 then
      keyMap.find? fun k => s.serialBuffer.headD 0 = k.2
    else none
  match key with
  | some k => (k.1, s)
  | none => if 0 < s.serialBuffer.length then (.pressedKeyEnter, { s with payload := true })
    else (.none, s)

/-- `getSerialBuffer`: `strncpy` of one byte less than the buffer has, and a terminator. -/
def getSerialBuffer (bufferSize : Nat) (s : Serial) : Option CStr × Serial :=
  if s.payload = false then (none, s)
  else (some ((CStr.ofBytes s.serialBuffer).truncate (bufferSize - 1)), { s with payload := false })

/-- `clearSerialBuffer`. -/
def clearSerialBuffer (s : Serial) : Serial := { s with serialBuffer := [] }

end Serial

/-- `CONFIG_BUFF_SIZE`. -/
abbrev configBuffSize : Nat := 96

/-! ## The system -/

/-- The configuration subsystem with its serial line and the period of the measurement task. -/
structure System (σ ρ : Type) where
  serial : Serial
  config : ConfigSubsystem σ ρ
  measurementTaskPeriod : UInt32

variable {σ ρ : Type}

/-- The program's variables before `main`, with the device and the clock as they are found.
`init` sets the state of the terminal. -/
def powerOn (device : σ) (rtc : ρ) : System σ ρ where
  serial := ⟨[], false, false⟩
  config :=
    { activeState := .initState
      previousSignal := .entry
      availableSignal := .entry
      flagStreamDelay := false
      ticks := 0
      storage := ⟨LoggerMetadata.static, false, CBuf.zero _, false, device⟩
      rtc := rtc
      console := [] }
  measurementTaskPeriod := UInt32.ofNat msInOneMinute

/-- A line may arrive before a call. -/
def System.receive (line : Option (List Byte)) (s : System σ ρ) : System σ ρ :=
  { s with serial := s.serial.receive line }

section Program

variable (pl : Platform) (fs : FileHandler σ) (clock : RtcInterface ρ)

/-- `main`, up to the super loop: where `initFS` fails it hangs. -/
def main (ticks : Ticks) (s : System σ ρ) : Except Fault (System σ ρ) := do
  let (ready, storage) ← initFS pl fs s.config.storage
  appAssert ready
  let measurementTaskPeriod ← getMeasurementPeriod storage.metadata
  let config := init .initState { s.config with storage := storage }
  let config ← handler pl fs clock .entry none ticks config
  .ok { s with config := config, measurementTaskPeriod := measurementTaskPeriod }

/-- The end of `configurationTask`: a raised flag is cleared and the period computed anew. -/
def updatePeriod (s : System σ ρ) : Except Fault (System σ ρ) :=
  let (updated, storage) := getMetadataUpdatedFlag s.config.storage
  let s := { s with config := { s.config with storage := storage } }
  if updated then do
    let measurementTaskPeriod ← getMeasurementPeriod s.config.metadata
    .ok { s with measurementTaskPeriod := measurementTaskPeriod }
  else .ok s

/-- The first half of `configurationTask`: `process_input`, the signal, the serial handler. -/
def taskSignal (s : System σ ρ) : Bool × TerminalSignal × Serial :=
  let (processInput, serial) := s.serial.serialHandler
  let (signal, serial) := if processInput then serial.getTerminalSignal else (.none, serial)
  (processInput, if signal = .none then s.config.availableSignal else signal, serial)

/-- `configurationTask`. -/
def configurationTask (ticks : Ticks) (s : System σ ρ) : Except Fault (System σ ρ) := do
  let (processInput, signal, serial) := taskSignal s
  if processInput ∨ signal = .streamData then
    if signal = .none then .ok { s with serial := serial }
    else do
      let (pPayload, serial) := serial.getSerialBuffer configBuffSize
      let config ← handler pl fs clock signal pPayload ticks s.config
      updatePeriod { s with serial := serial.clearSerialBuffer, config := config }
  else updatePeriod { s with serial := serial }

end Program

/-! ## What they can do -/

variable {pl : Platform} {fs : FileHandler σ} {clock : RtcInterface ρ}

/-- The product fits where the period is one of those a file can hold. -/
theorem getMeasurementPeriod_ok {m : LoggerMetadata} (h : m.generalMeasurementPeriod.toNat ≤ 255) :
    ∃ p, getMeasurementPeriod m = .ok p ∧
      p.toNat = m.generalMeasurementPeriod.toNat * msInOneMinute := by
  refine ⟨UInt32.ofNat (m.generalMeasurementPeriod.toNat * msInOneMinute), if_pos ?_, ?_⟩
  · simp only [msInOneMinute]
    omega
  · simp only [UInt32.toNat_ofNat', msInOneMinute]
    omega

/-- What a successful start leaves: the storage of `initFS`, and the terminal after its `ENTRY`. -/
theorem main_started {ticks : Ticks} {s s' : System σ ρ} (h : main pl fs clock ticks s = .ok s') :
    ∃ st, initFS pl fs s.config.storage = .ok (true, st) ∧
      getMeasurementPeriod st.metadata = .ok s'.measurementTaskPeriod ∧ s'.serial = s.serial ∧
      s'.config = (init .initState { s.config with storage := st }).printHelp := by
  obtain ⟨⟨ready, st⟩, hfs, h⟩ := bind_eq_ok.mp h
  cases ready with
  | false => cases h
  | true =>
    obtain ⟨u, -, h⟩ := bind_eq_ok.mp h
    obtain ⟨p, hp, h⟩ := bind_eq_ok.mp h
    obtain ⟨config, hh, h⟩ := bind_eq_ok.mp h
    cases hh
    cases h
    exact ⟨st, hfs, hp, rfl, rfl⟩

/-- **A successful start.** The record is what `initFS` loaded, the period is computed from it, and
the terminal waits in its first state. -/
theorem main_cases {ticks : Ticks} {s s' : System σ ρ} (h : main pl fs clock ticks s = .ok s') :
    initFS pl fs s.config.storage = .ok (true, s'.config.storage) ∧
      getMeasurementPeriod s'.config.metadata = .ok s'.measurementTaskPeriod ∧
      s'.config.activeState = .initState ∧ s'.serial = s.serial := by
  obtain ⟨st, hfs, hp, hserial, hconfig⟩ := main_started h
  rw [hconfig]
  exact ⟨hfs, hp, rfl, hserial⟩

/-- After `main` the terminal asks for nothing but its first screen. -/
theorem main_signal {ticks : Ticks} {s s' : System σ ρ} (h : main pl fs clock ticks s = .ok s') :
    s'.config.availableSignal = .entry := by
  obtain ⟨st, -, -, -, hconfig⟩ := main_started h
  rw [hconfig]
  rfl

/-- Where `initFS` succeeds and the period can be computed, `main` reaches the super loop. -/
theorem main_ok (clock : RtcInterface ρ) (ticks : Ticks) {s : System σ ρ} {st : InternalStorage σ}
    {p : UInt32} (hfs : initFS pl fs s.config.storage = .ok (true, st))
    (hp : getMeasurementPeriod st.metadata = .ok p) :
    ∃ s', main pl fs clock ticks s = .ok s' ∧ s'.config.storage = st ∧
      s'.config.activeState = .initState ∧ s'.measurementTaskPeriod = p :=
  ⟨_, bind_eq_ok.mpr ⟨_, hfs, bind_eq_ok.mpr ⟨(), rfl, bind_eq_ok.mpr ⟨p, hp, rfl⟩⟩⟩, rfl, rfl, rfl⟩

/-- The record and the flag a call of `configurationTask` leaves, from those after the handler. -/
theorem updatePeriod_cases {s s' : System σ ρ} (h : updatePeriod s = .ok s') :
    s'.config = { s.config with storage := { s.config.storage with metadataUpdatedFlag := false } } ∧
      (s.config.storage.metadataUpdatedFlag = false →
        s'.measurementTaskPeriod = s.measurementTaskPeriod) ∧
      (s.config.storage.metadataUpdatedFlag = true →
        getMeasurementPeriod s'.config.metadata = .ok s'.measurementTaskPeriod) := by
  unfold updatePeriod getMetadataUpdatedFlag at h
  cases hf : s.config.storage.metadataUpdatedFlag with
  | false =>
    rw [hf] at h
    cases h
    exact ⟨rfl, fun _ => rfl, nofun⟩
  | true =>
    rw [hf] at h
    obtain ⟨p, hp, h⟩ := bind_eq_ok.mp h
    cases h
    exact ⟨rfl, nofun, fun _ => hp⟩

theorem updatePeriod_serial {s s' : System σ ρ} (h : updatePeriod s = .ok s') :
    s'.serial = s.serial := by
  unfold updatePeriod at h
  dsimp only at h
  split at h
  · obtain ⟨p, -, h⟩ := bind_eq_ok.mp h
    simp only [Except.ok.injEq] at h
    rw [← h]
  · simp only [Except.ok.injEq] at h
    rw [← h]

/-- What `configurationTask` decides from the line and the terminal's signal. -/
inductive Dispatch where
  /-- There is input but no signal: the call returns before the flag check. -/
  | nothing
  /-- Only the flag is checked. -/
  | idle
  /-- The handler is called. -/
  | call (sig : TerminalSignal) (buff : Option CStr)
  deriving DecidableEq

/-- The decision, and the serial handler after it. -/
def dispatched (s : System σ ρ) : Dispatch × Serial :=
  let (processInput, signal, serial) := taskSignal s
  if processInput ∨ signal = .streamData then
    if signal = .none then (.nothing, serial)
    else
      let (pPayload, serial) := serial.getSerialBuffer configBuffSize
      (.call signal pPayload, serial.clearSerialBuffer)
  else (.idle, serial)

/-- **A call of `configurationTask`** is its decision, the handler, and the flag check. -/
theorem configurationTask_eq (ticks : Ticks) (s : System σ ρ) :
    configurationTask pl fs clock ticks s = (match dispatched s with
      | (.nothing, serial) => .ok { s with serial := serial }
      | (.idle, serial) => updatePeriod { s with serial := serial }
      | (.call sig buff, serial) => do
        let config ← handler pl fs clock sig buff ticks s.config
        updatePeriod { s with serial := serial, config := config }) := by
  unfold configurationTask dispatched
  rcases taskSignal s with ⟨processInput, signal, serial⟩
  by_cases hin : processInput = true ∨ signal = .streamData
  · by_cases hsig : signal = .none
    · simp only [if_pos hin, if_pos hsig]
    · simp only [if_pos hin, if_neg hsig]
  · simp only [if_neg hin]

/-- The configuration subsystem when the flag is checked: untouched, or after the handler. -/
inductive TaskRan (pl : Platform) (fs : FileHandler σ) (clock : RtcInterface ρ) (ticks : Ticks)
    (s s' : System σ ρ) : Prop
  | nothing (hd : (dispatched s).1 = .nothing) (hc : s'.config = s.config)
      (hp : s'.measurementTaskPeriod = s.measurementTaskPeriod)
  | idle (hd : (dispatched s).1 = .idle)
      (h : updatePeriod { s with serial := (dispatched s).2 } = .ok s')
  | call {sig : TerminalSignal} {buff : Option CStr} {config : ConfigSubsystem σ ρ}
      (hd : (dispatched s).1 = .call sig buff)
      (hh : handler pl fs clock sig buff ticks s.config = .ok config)
      (h : updatePeriod { s with serial := (dispatched s).2, config := config } = .ok s')

/-- **Every call of `configurationTask`.** -/
theorem configurationTask_cases {ticks : Ticks} {s s' : System σ ρ}
    (h : configurationTask pl fs clock ticks s = .ok s') : TaskRan pl fs clock ticks s s' := by
  rw [configurationTask_eq] at h
  rcases hd : dispatched s with ⟨_ | _ | ⟨sig, buff⟩, serial⟩
  · rw [hd] at h
    cases h
    exact .nothing (by rw [hd]) rfl rfl
  · rw [hd] at h
    exact .idle (by rw [hd]) (by rw [hd]; exact h)
  · rw [hd] at h
    obtain ⟨config, hh, h⟩ := bind_eq_ok.mp h
    exact .call (by rw [hd]) hh (by rw [hd]; exact h)

theorem configurationTask_serial {ticks : Ticks} {s s' : System σ ρ}
    (h : configurationTask pl fs clock ticks s = .ok s') : s'.serial = (dispatched s).2 := by
  rw [configurationTask_eq] at h
  rcases hd : dispatched s with ⟨_ | _ | ⟨sig, buff⟩, serial⟩
  · simp only [hd, Except.ok.injEq] at h
    rw [← h]
  · simp only [hd] at h
    rw [updatePeriod_serial h]
  · simp only [hd] at h
    obtain ⟨config, -, h⟩ := bind_eq_ok.mp h
    rw [updatePeriod_serial h]

/-! ## Calls with a line -/

/-- The serial handler after a call that took its line. -/
def Serial.idle : Serial := ⟨[], false, false⟩

/-- A line of one key is the key's signal. -/
theorem dispatched_key {s : System σ ρ} (hs : s.serial = .idle) {k : TerminalSignal × Byte}
    (hk : k ∈ keyMap) : dispatched (s.receive (some [k.2])) = (.call k.1 none, .idle) := by
  obtain ⟨serial, config, period⟩ := s
  cases hs
  unfold keyMap at hk
  simp only [List.mem_cons, List.not_mem_nil, or_false] at hk
  rcases hk with rfl | rfl | rfl | rfl | rfl | rfl | rfl | rfl | rfl <;> rfl

/-- Any other line is a payload, cut to what the buffer takes. -/
theorem dispatched_payload {s : System σ ρ} (hs : s.serial = .idle) {l : List Byte} (hne : l ≠ [])
    (hkey : ∀ k ∈ keyMap, l ≠ [k.2]) : dispatched (s.receive (some l)) =
      (.call .pressedKeyEnter (some ((CStr.ofBytes l).truncate (configBuffSize - 1))), .idle) := by
  obtain ⟨serial, config, period⟩ := s
  cases hs
  have hnone : (if l.length < 2 then keyMap.find? fun k => l.headD 0 = k.2 else none) = none := by
    split
    · rename_i hlt
      rw [List.find?_eq_none]
      intro k hk
      match l, hne, hlt with
      | [b], _, _ =>
        have := hkey k hk
        simpa using this
    · rfl
  have hpos : 0 < l.length := List.length_pos_iff.mpr hne
  unfold dispatched taskSignal System.receive Serial.receive Serial.serialHandler
    Serial.getTerminalSignal
  simp only [hnone, hpos, if_true]
  rfl

/-- A call whose handler leaves the flag down ends with what the handler leaves. -/
theorem configurationTask_call {ticks : Ticks} {s : System σ ρ} {serial : Serial}
    {sig : TerminalSignal} {buff : Option CStr} {config : ConfigSubsystem σ ρ}
    (hd : dispatched s = (.call sig buff, serial))
    (hh : handler pl fs clock sig buff ticks s.config = .ok config)
    (hf : config.storage.metadataUpdatedFlag = false) :
    configurationTask pl fs clock ticks s =
      .ok { s with serial := serial, config := config } := by
  rw [configurationTask_eq, hd]
  refine bind_eq_ok.mpr ⟨config, hh, ?_⟩
  obtain ⟨state, prev, avail, delay, ticks, ⟨m, flag, b, ready, d⟩, rtc, console⟩ := config
  cases hf
  rfl

/-- A call without a line, outside streaming, only checks the flag. -/
theorem configurationTask_quiet (pl : Platform) (fs : FileHandler σ) (clock : RtcInterface ρ)
    (ticks : Ticks) {s : System σ ρ} (hs : s.serial = .idle)
    (ha : s.config.availableSignal ≠ .streamData)
    (hg : s.config.metadata.generalMeasurementPeriod.toNat ≤ 255) :
    ∃ s', configurationTask pl fs clock ticks (s.receive none) = .ok s' ∧ s'.serial = .idle ∧
      s'.config.metadata = s.config.metadata ∧
      s'.config.availableSignal = s.config.availableSignal ∧
      (getMeasurementPeriod s.config.metadata = .ok s.measurementTaskPeriod →
        s'.measurementTaskPeriod = s.measurementTaskPeriod) := by
  obtain ⟨serial, config, period⟩ := s
  cases hs
  have hd : dispatched (⟨.idle, config, period⟩ : System σ ρ) = (.idle, .idle) := by
    unfold dispatched taskSignal Serial.serialHandler Serial.idle
    simp only [Bool.false_eq_true, if_false, if_true, ha, or_self]
  have htask : configurationTask pl fs clock ticks ⟨.idle, config, period⟩ =
      updatePeriod ⟨.idle, config, period⟩ := by
    rw [configurationTask_eq, hd]
  show ∃ s', configurationTask pl fs clock ticks ⟨.idle, config, period⟩ = .ok s' ∧ _
  rw [htask]
  obtain ⟨p, hp, -⟩ := getMeasurementPeriod_ok hg
  obtain ⟨state, prev, avail, delay, clockTicks, ⟨m, flag, b, ready, d⟩, rtc, console⟩ := config
  cases flag with
  | false => exact ⟨_, rfl, rfl, rfl, rfl, fun _ => rfl⟩
  | true =>
    refine ⟨_, bind_eq_ok.mpr ⟨p, hp, rfl⟩, rfl, rfl, rfl, fun hperiod => ?_⟩
    exact Except.ok.inj (hp.symm.trans hperiod)

/-! ## Runs -/

/-- What drives the system: a call of `configurationTask` after a line may have arrived, or a reset
with whatever the device then holds. -/
inductive Input (σ ρ : Type) where
  | task (line : Option (List Byte)) (ticks : Ticks)
  | boot (device : σ) (rtc : ρ) (ticks : Ticks)

/-- One step. A call that faults or hangs is the end of the run. -/
inductive Step (pl : Platform) (fs : FileHandler σ) (clock : RtcInterface ρ) :
    System σ ρ → Input σ ρ → System σ ρ → Prop
  | task {s s' : System σ ρ} {line : Option (List Byte)} {ticks : Ticks}
      (h : configurationTask pl fs clock ticks (s.receive line) = .ok s') :
      Step pl fs clock s (.task line ticks) s'
  | boot {s s' : System σ ρ} {device : σ} {rtc : ρ} {ticks : Ticks}
      (h : main pl fs clock ticks (powerOn device rtc) = .ok s') :
      Step pl fs clock s (.boot device rtc ticks) s'

end GenLogger.Config
