import GenLogger.Config.Storage
import GenLogger.Config.TimeAndDate

/-!
# The terminal state machine and the mediator (`terminal_component.cpp`, `config_manager.cpp`)

Model of `terminalStateMachine`. `ConfigSubsystem` is the configuration subsystem: the members of the
terminal, the storage component it talks to through `configManager`, the clock, and the console, a
record of what `printf` was given. The record the terminal edits is the one the storage component
points to.

* `signalDispacher` is the source's function, one helper per state and one (`enterPayload`) for the
  `switch (_previousSignal)` of a payload; `handler` is a call with a possible change of state.
* The clock is any `RtcInterface`. The two `getTicks` readings of a streaming step are inputs, since
  the tick interrupt runs between them.
* What `requestADCVoltage` and its siblings return is printed and forgotten, so a streaming sample is
  one console entry.
* The mediator's `notify` drops the result of both storage operations and returns `1`.

Results:
* `handler_cases`: every effect that a call has on the storage component, the clock and the state
  (`Handled`).
* `handler_signals`, `handler_activeState`: the signals and the state after a call.
* `enterPayload_touches`, `enterPayload_edits`: what a payload may touch.
* `handler_error`: a call fails at an assertion or at a string without a terminator, by loading or
  storing.
-/

namespace GenLogger.Config

open GenLogger.Lib GenLogger.Platform

/-- `enum class terminalState`. -/
inductive TerminalState where
  | initState
  | basicDeviceInfo
  | basicDeviceConfig
  | sensorConfig
  | networkConfig
  | streamADC
  deriving Repr, DecidableEq

/-- `enum class terminalSignal`. -/
inductive TerminalSignal where
  | entry
  | exit
  | idle
  | pressedKeyI
  | pressedKeyC
  | pressedKeyB
  | pressedKeyN
  | pressedKeyT
  | pressedKeyS
  | pressedKeyF
  | pressedKeyM
  | pressedKeyEnter
  | streamData
  | none
  deriving Repr, DecidableEq

/-- `enum class terminalEvent`. -/
inductive TerminalEvent where
  | handled
  | ignored
  | transition
  deriving Repr, DecidableEq

/-- `enum class mediatorEvents`. -/
inductive MediatorEvent where
  | updateMetadata
  | storeMetadata
  | metadataUpdated
  deriving Repr, DecidableEq

/-- `struct rtcInterface`, over a clock state `ρ`. -/
structure RtcInterface (ρ : Type) where
  setTime : UInt8 → UInt8 → UInt8 → ρ → Bool × ρ
  setDate : UInt8 → UInt8 → UInt16 → ρ → Bool × ρ
  getTime : ρ → CStr
  getDate : ρ → CStr

/-- A clock that takes every setting and shows nothing. -/
def blankClock : RtcInterface Unit where
  setTime _ _ _ r := (true, r)
  setDate _ _ _ r := (true, r)
  getTime _ := CStr.ofBytes []
  getDate _ := CStr.ofBytes []

/-- What the terminal prints: a text, a sample of the three sensors, or the metadata screen. -/
inductive Output where
  | text (s : String)
  | sample
  | deviceInfo (name time date : CStr) (fileCreationPeriod : UInt8)
      (fileTransmissionPeriod generalMeasurementPeriod restRequestPeriod : UInt16)
  deriving DecidableEq

/-- Two successive readings of `systick::getTicks()`. -/
structure Ticks where
  first : UInt64
  second : UInt64
  deriving Repr, DecidableEq

/-- The configuration subsystem. -/
structure ConfigSubsystem (σ ρ : Type) where
  activeState : TerminalState
  previousSignal : TerminalSignal
  availableSignal : TerminalSignal
  flagStreamDelay : Bool
  ticks : UInt64
  storage : InternalStorage σ
  rtc : ρ
  console : List Output

variable {σ ρ : Type}

namespace ConfigSubsystem

/-- `printf` of a text. -/
def print (c : ConfigSubsystem σ ρ) (s : String) : ConfigSubsystem σ ρ :=
  { c with console := c.console ++ [.text s] }

/-- `*_loggerMetadata`. -/
def metadata (c : ConfigSubsystem σ ρ) : LoggerMetadata := c.storage.metadata

/-- An edit of `*_loggerMetadata`. -/
def edit (c : ConfigSubsystem σ ρ) (f : LoggerMetadata → LoggerMetadata) : ConfigSubsystem σ ρ :=
  { c with storage := { c.storage with metadata := f c.storage.metadata } }

/-- The ANSI sequence every `EXIT` branch prints. -/
def clearScreen (c : ConfigSubsystem σ ρ) : ConfigSubsystem σ ρ := c.print "\x1b[2J\x1b[H"

/-- `printHelp`. -/
def printHelp (c : ConfigSubsystem σ ρ) : ConfigSubsystem σ ρ :=
  c.print ("#############################\r\nHelp Menu:\r\n#############################\r\n" ++
    "I - Print Device Info\r\nC - Configure Device\r\nS - Stream RAW measured data\r\n" ++
    "#############################\r\n")

/-- `printConfigHelp`. -/
def printConfigHelp (c : ConfigSubsystem σ ρ) : ConfigSubsystem σ ρ :=
  c.print ("#############################\r\nConfigure menu\r\n#############################\r\n" ++
    "T - Set device time and date\r\nN - set device name\r\nF - set the device creation period\r\n" ++
    "C - set the device file transmission period\r\nM - set the device measurement period\r\n" ++
    "S - Store configuration in memory\r\nB - return\r\n#############################\r\n")

/-- `printBanner`. -/
def printBanner (c : ConfigSubsystem σ ρ) : ConfigSubsystem σ ρ :=
  c.print ("#############################\r\ngenLogger version: 1.0.0.alpha2\r\n" ++
    "#############################\r\n")

end ConfigSubsystem

section Machine

variable (pl : Platform) (fs : FileHandler σ) (clock : RtcInterface ρ)

/-- `configManager::notify`. -/
def notify (event : MediatorEvent) (data : List Byte) (st : InternalStorage σ) :
    Except Fault (UInt8 × InternalStorage σ) :=
  match event with
  | .updateMetadata => do
    let (_, st) ← retrieveMetadata pl fs st
    .ok (1, st)
  | .metadataUpdated => .ok (1, st)
  | .storeMetadata => do
    let (_, st) ← storeMetadata fs data st
    .ok (1, st)

/-- `updateLoggerMetadata`. -/
def updateLoggerMetadata (c : ConfigSubsystem σ ρ) : Except Fault (Bool × ConfigSubsystem σ ρ) := do
  let (res, st) ← notify pl fs .updateMetadata (ascii "123\x00") c.storage
  .ok (res == 1, { c with storage := st })

/-- `printLoggerMetadata`. -/
def printLoggerMetadata (c : ConfigSubsystem σ ρ) : Except Fault (ConfigSubsystem σ ρ) := do
  let m := c.metadata
  let name ← m.loggerName.cstr
  .ok { c with console := c.console ++ [.deviceInfo name (clock.getTime c.rtc) (clock.getDate c.rtc)
    m.fileCreationPeriod m.fileTransmissionPeriod m.generalMeasurementPeriod m.restRequestPeriod] }

/-- `init`. -/
def init (state : TerminalState) (c : ConfigSubsystem σ ρ) : ConfigSubsystem σ ρ :=
  { c with activeState := state, availableSignal := .entry }.printBanner

/-! ## Payloads -/

/-- The `pressedKey_N` payload. -/
def enterName (buff : CStr) (c : ConfigSubsystem σ ρ) : ConfigSubsystem σ ρ :=
  (c.edit fun m => { m with loggerName := m.loggerName.strncpy buff }).print
    "Name copied, input S to save it\r\n"

/-- The `pressedKey_T` payload. `setDate` is not called where `setTime` fails. -/
def enterTime (buff : CStr) (c : ConfigSubsystem σ ρ) : ConfigSubsystem σ ρ :=
  match parseTimeAndDate (some buff) with
  | none => c.print "Invalid data, please type again\r\n"
  | some t =>
    let (timeSet, rtc) :=
      clock.setTime (UInt8.ofInt t.hour) (UInt8.ofInt t.minute) (UInt8.ofInt t.seconds) c.rtc
    if timeSet then
      let (dateSet, rtc) :=
        clock.setDate (UInt8.ofInt t.day) (UInt8.ofInt t.month) (UInt16.ofInt t.year) rtc
      { c with rtc := rtc }.print
        (if dateSet then "RTC configured\r\n" else "Error configuring RTC\r\n")
    else { c with rtc := rtc }.print "Error configuring RTC\r\n"

/-- The `pressedKey_F` payload: the character itself is stored. -/
def enterFile (buff : CStr) (c : ConfigSubsystem σ ρ) : ConfigSubsystem σ ρ :=
  if 49 ≠ buff.first ∧ 50 ≠ buff.first then c.print "Invalid data\r\n"
  else (c.edit fun m => { m with fileCreationPeriod := buff.first }).print
    "File creation period changed, input S to save it\r\n"

/-- The payload of a period: `from_chars` reads `sizeof(buff) - 1` bytes, one less than a pointer
has. The terminator is no digit, so the bytes after it do not matter. -/
def enterPeriod (buff : CStr) (set : UInt16 → LoggerMetadata → LoggerMetadata) (done : String)
    (c : ConfigSubsystem σ ρ) : ConfigSubsystem σ ρ :=
  match fromChars (buff.bytes.take (pl.sizeofPtr - 1)) with
  | none => c.print "Invalid data, please type again\r\n"
  | some value => (c.edit (set (UInt16.ofInt value))).print done

/-- The `switch (_previousSignal)` of `pressedKey_Enter`. -/
def enterPayload (buff : CStr) (c : ConfigSubsystem σ ρ) : ConfigSubsystem σ ρ :=
  match c.previousSignal with
  | .pressedKeyN => enterName buff c
  | .pressedKeyT => enterTime clock buff c
  | .pressedKeyF => enterFile buff c
  | .pressedKeyM => enterPeriod pl buff (fun v m => { m with generalMeasurementPeriod := v })
      "Measurement period changed, input S to save it\r\n" c
  | .pressedKeyC => enterPeriod pl buff (fun v m => { m with fileTransmissionPeriod := v })
      "File transmission period changed, input S to save it\r\n" c
  | _ => c

/-! ## The states -/

/-- A prompt: the key is remembered for the payload. -/
def prompt (key : TerminalSignal) (s : String) (c : ConfigSubsystem σ ρ) : ConfigSubsystem σ ρ :=
  { c.print s with previousSignal := key }

/-- A prompt that is given only where no payload came with the key. -/
def promptIfNoPayload (key : TerminalSignal) (s : String) (buff : Option CStr)
    (c : ConfigSubsystem σ ρ) : ConfigSubsystem σ ρ :=
  if buff = none then prompt key s c else c

/-- The array the `S` command formats the record into. -/
def metadataArray (name : CStr) (m : LoggerMetadata) : CBuf sizeofLoggerMetadata :=
  (CBuf.zero _).snprintf (metadataText name m)

/-- The `pressedKey_S` branch of `basicDeviceConfig`. -/
def storeCommand (c : ConfigSubsystem σ ρ) : Except Fault (ConfigSubsystem σ ρ) := do
  let c := c.print "Storing configuratoin in memory..\r\n"
  let name ← c.metadata.loggerName.cstr
  let (res, st) ← notify pl fs .storeMetadata (metadataArray name c.metadata).bytes c.storage
  let c := { c with storage := st }
  .ok (c.print
    (if res ≠ 1 then "Error trying to store in memory\r\n" else "Configuration saved!\r\n"))

/-- The case `initState` of `signalDispacher`. -/
def dispatchInit (sig : TerminalSignal) (c : ConfigSubsystem σ ρ) :
    TerminalEvent × ConfigSubsystem σ ρ :=
  match sig with
  | .entry => (.handled, c.printHelp)
  | .exit => (.handled, c.clearScreen)
  | .pressedKeyI => (.transition, { c with activeState := .basicDeviceInfo })
  | .pressedKeyC => (.transition, { c with activeState := .basicDeviceConfig })
  | .pressedKeyS => (.transition, { c with activeState := .streamADC })
  | _ => (.ignored, c)

/-- The `streamData` branch of `streamADC`. -/
def streamStep (ticks : Ticks) (c : ConfigSubsystem σ ρ) : ConfigSubsystem σ ρ :=
  let c := if c.flagStreamDelay = false then { c with ticks := ticks.first, flagStreamDelay := true }
    else c
  if ticks.second - c.ticks > 1000 then
    { c with console := c.console ++ [.sample], flagStreamDelay := false }
  else c

/-- The case `streamADC`. -/
def dispatchStream (sig : TerminalSignal) (ticks : Ticks) (c : ConfigSubsystem σ ρ) :
    TerminalEvent × ConfigSubsystem σ ρ :=
  match sig with
  | .entry => (.handled, { c.print "Streaming RAW measured data, press B to go back\r\n" with
      availableSignal := .streamData })
  | .streamData => (.handled, streamStep ticks c)
  | .exit => (.handled, c.clearScreen)
  | .pressedKeyB => (.transition, { c with activeState := .initState })
  | _ => (.ignored, c)

/-- The case `basicDeviceInfo`. -/
def dispatchInfo (sig : TerminalSignal) (c : ConfigSubsystem σ ρ) :
    Except Fault (TerminalEvent × ConfigSubsystem σ ρ) :=
  match sig with
  | .entry => do
    let (_, c) ← updateLoggerMetadata pl fs c
    let c ← printLoggerMetadata clock c
    .ok (.handled, c)
  | .exit => .ok (.handled, c.clearScreen)
  | .pressedKeyB => .ok (.transition, { c with activeState := .initState })
  | _ => .ok (.ignored, c)

/-- The case `basicDeviceConfig`. -/
def dispatchConfig (sig : TerminalSignal) (buff : Option CStr) (c : ConfigSubsystem σ ρ) :
    Except Fault (TerminalEvent × ConfigSubsystem σ ρ) :=
  match sig with
  | .entry => .ok (.handled, c.printConfigHelp)
  | .exit => .ok (.handled, c.clearScreen)
  | .pressedKeyB => .ok (.transition, { c with activeState := .initState })
  | .pressedKeyT => .ok (.handled, promptIfNoPayload .pressedKeyT
      "Please input the time following this format HH:MM:SS DD/MM/YYYY\r\n" buff c)
  | .pressedKeyC => .ok (.handled, prompt .pressedKeyC
      "Please input how often to send the file in minutes\r\n" c)
  | .pressedKeyF => .ok (.handled, prompt .pressedKeyF
      ("Please input the File creation period\r\n" ++
        "Type 1 for file creation a day\r\nType 2 for file creation only once\r\n") c)
  | .pressedKeyM => .ok (.handled, prompt .pressedKeyM
      "Please input the measurement period in minutes\r\n" c)
  | .pressedKeyEnter =>
    match buff with
    | none => .ok (.ignored, c.print "Invalid data, please type again\r\n")
    | some buff => .ok (.handled, enterPayload pl clock buff c)
  | .pressedKeyN => .ok (.handled, promptIfNoPayload .pressedKeyN
      "Please input the device name\r\n" buff c)
  | .pressedKeyS => do
    let c ← storeCommand pl fs c
    .ok (.handled, c)
  | _ => .ok (.ignored, c)

/-- `signalDispacher`. -/
def signalDispacher (state : TerminalState) (sig : TerminalSignal) (buff : Option CStr)
    (ticks : Ticks) (c : ConfigSubsystem σ ρ) : Except Fault (TerminalEvent × ConfigSubsystem σ ρ) :=
  match state with
  | .initState => .ok (dispatchInit sig c)
  | .streamADC => .ok (dispatchStream sig ticks c)
  | .basicDeviceInfo => dispatchInfo pl fs clock sig c
  | .basicDeviceConfig => dispatchConfig pl fs clock sig buff c
  | _ => .ok (.ignored, c)

/-- `handler`: after a transition, `EXIT` of the old state and `ENTRY` of the new one. -/
def handler (sig : TerminalSignal) (buff : Option CStr) (ticks : Ticks) (c : ConfigSubsystem σ ρ) :
    Except Fault (ConfigSubsystem σ ρ) := do
  let currentState := c.activeState
  let (event, c) ← signalDispacher pl fs clock currentState sig buff ticks c
  if event = .transition then do
    let (_, c) ← signalDispacher pl fs clock currentState .exit none ticks c
    let nextState := c.activeState
    let (_, c) ← signalDispacher pl fs clock nextState .entry none ticks c
    .ok c
  else .ok c

/-- The arguments of a call of `handler`, and what the clock of a streaming step reads. -/
structure KeyPress where
  sig : TerminalSignal
  buff : Option CStr
  ticks : Ticks

/-- One step of the terminal: a call of `handler` that returns. -/
def Pressed (c : ConfigSubsystem σ ρ) (k : KeyPress) (c' : ConfigSubsystem σ ρ) : Prop :=
  handler pl fs clock k.sig k.buff k.ticks c = .ok c'

end Machine

/-! ## What one call of `handler` can do -/

/-- The transitions of the menu. -/
def nextState : TerminalState → TerminalSignal → Option TerminalState
  | .initState, .pressedKeyI => some .basicDeviceInfo
  | .initState, .pressedKeyC => some .basicDeviceConfig
  | .initState, .pressedKeyS => some .streamADC
  | .basicDeviceInfo, .pressedKeyB => some .initState
  | .basicDeviceConfig, .pressedKeyB => some .initState
  | .streamADC, .pressedKeyB => some .initState
  | _, _ => none

variable {pl : Platform} {fs : FileHandler σ} {clock : RtcInterface ρ}

/-- Every effect of a `handler` call on the storage component, the clock and the active state. -/
inductive Handled (pl : Platform) (fs : FileHandler σ) (clock : RtcInterface ρ)
    (sig : TerminalSignal) (buff : Option CStr) (c c' : ConfigSubsystem σ ρ) : Prop
  /-- No transition, and no effect outside the terminal. -/
  | stay (hn : nextState c.activeState sig = none) (ha : c'.activeState = c.activeState)
      (hs : c'.storage = c.storage) (hr : c'.rtc = c.rtc)
  /-- A transition to another state than `basicDeviceInfo`. -/
  | move (hn : nextState c.activeState sig = some c'.activeState)
      (hi : c'.activeState ≠ .basicDeviceInfo) (hs : c'.storage = c.storage) (hr : c'.rtc = c.rtc)
  /-- The device info screen, which loads the metadata first. -/
  | info (hc : c.activeState = .initState ∧ sig = .pressedKeyI ∨
        c.activeState = .basicDeviceInfo ∧ sig = .entry)
      (ha : c'.activeState = .basicDeviceInfo) (ret : Bool)
      (hret : retrieveMetadata pl fs c.storage = .ok (ret, c'.storage)) (hr : c'.rtc = c.rtc)
  /-- A payload. -/
  | payload (hc : c.activeState = .basicDeviceConfig) (hk : sig = .pressedKeyEnter) (b : CStr)
      (hb : buff = some b) (h : c' = enterPayload pl clock b c)
  /-- The store command. -/
  | store (hc : c.activeState = .basicDeviceConfig) (hk : sig = .pressedKeyS)
      (h : storeCommand pl fs c = .ok c')

/-- The members of the terminal that a quiet call may not touch. -/
def SameEffects (c c' : ConfigSubsystem σ ρ) : Prop :=
  c'.activeState = c.activeState ∧ c'.storage = c.storage ∧ c'.rtc = c.rtc

theorem streamStep_same (ticks : Ticks) (c : ConfigSubsystem σ ρ) :
    SameEffects c (streamStep ticks c) := by
  unfold streamStep
  dsimp only
  split <;> split <;> exact ⟨rfl, rfl, rfl⟩

/-- Entering `basicDeviceInfo` loads the metadata and prints it. -/
theorem dispatchInfo_prints {c c' : ConfigSubsystem σ ρ} {e : TerminalEvent}
    (h : dispatchInfo pl fs clock .entry c = .ok (e, c')) :
    ∃ ret st name, retrieveMetadata pl fs c.storage = .ok (ret, st) ∧
      st.metadata.loggerName.cstr = .ok name ∧
      c' = { c with
        storage := st
        console := c.console ++ [.deviceInfo name (clock.getTime c.rtc) (clock.getDate c.rtc)
          st.metadata.fileCreationPeriod st.metadata.fileTransmissionPeriod
          st.metadata.generalMeasurementPeriod st.metadata.restRequestPeriod] } := by
  obtain ⟨⟨b, c₁⟩, hload, h⟩ := bind_eq_ok.mp h
  obtain ⟨⟨res, st⟩, hn, hc₁⟩ := bind_eq_ok.mp hload
  obtain ⟨⟨ret, st'⟩, hret, hst⟩ := bind_eq_ok.mp hn
  obtain ⟨c₂, hprint, h⟩ := bind_eq_ok.mp h
  obtain ⟨name, hname, hc₂⟩ := bind_eq_ok.mp hprint
  cases hst
  cases hc₁
  cases hc₂
  cases h
  exact ⟨ret, st, name, hret, hname, rfl⟩

theorem dispatchInfo_entry {c c' : ConfigSubsystem σ ρ} {e : TerminalEvent}
    (h : dispatchInfo pl fs clock .entry c = .ok (e, c')) :
    ∃ ret, retrieveMetadata pl fs c.storage = .ok (ret, c'.storage) ∧
      c'.activeState = c.activeState ∧ c'.rtc = c.rtc := by
  obtain ⟨ret, st, name, hret, -, rfl⟩ := dispatchInfo_prints h
  exact ⟨ret, hret, rfl, rfl⟩

/-- A transition: the old state is left, the new one entered. -/
theorem handler_move {sig : TerminalSignal} {buff : Option CStr} {ticks : Ticks}
    {c : ConfigSubsystem σ ρ} {s : TerminalState} (hn : nextState c.activeState sig = some s) :
    handler pl fs clock sig buff ticks c = (signalDispacher pl fs clock s .entry none ticks
      ({ c with activeState := s } : ConfigSubsystem σ ρ).clearScreen).map Prod.snd := by
  obtain ⟨st, p, a, f, t, sto, r, con⟩ := c
  simp only at hn
  unfold nextState at hn
  split at hn <;> cases hn
  all_goals
    simp only [handler, signalDispacher, dispatchInit, dispatchInfo, dispatchConfig, dispatchStream]
    rfl

/-- What it does is the `ENTRY` of the new state. -/
theorem handler_moved {sig : TerminalSignal} {buff : Option CStr} {ticks : Ticks}
    {c c' : ConfigSubsystem σ ρ} {s : TerminalState} (hn : nextState c.activeState sig = some s)
    (h : handler pl fs clock sig buff ticks c = .ok c') :
    ∃ e, signalDispacher pl fs clock s .entry none ticks
      ({ c with activeState := s } : ConfigSubsystem σ ρ).clearScreen = .ok (e, c') := by
  obtain ⟨⟨e, c₁⟩, hd, rfl⟩ := map_eq_ok.mp ((handler_move hn).symm.trans h)
  exact ⟨e, hd⟩

/-- Only the menu keys ask for a transition. -/
theorem signalDispacher_transition {state : TerminalState} {sig : TerminalSignal}
    {buff : Option CStr} {ticks : Ticks} {c c' : ConfigSubsystem σ ρ}
    (h : signalDispacher pl fs clock state sig buff ticks c = .ok (.transition, c')) :
    nextState state sig ≠ none := by
  cases state with
  | initState => cases sig <;> first | decide | cases h
  | streamADC => cases sig <;> first | decide | cases h
  | sensorConfig => cases h
  | networkConfig => cases h
  | basicDeviceInfo =>
    cases sig <;> try first | decide | cases h
    case entry =>
      obtain ⟨_, _, h⟩ := bind_eq_ok.mp h
      obtain ⟨_, _, h⟩ := bind_eq_ok.mp h
      cases h
  | basicDeviceConfig =>
    cases sig <;> try first | decide | cases h
    case pressedKeyEnter => cases buff <;> cases h
    case pressedKeyS =>
      obtain ⟨_, _, h⟩ := bind_eq_ok.mp h
      cases h

/-- No transition: one call of `signalDispacher`. -/
theorem handler_stay {sig : TerminalSignal} {buff : Option CStr} {ticks : Ticks}
    {c c' : ConfigSubsystem σ ρ} (hn : nextState c.activeState sig = none)
    (h : handler pl fs clock sig buff ticks c = .ok c') :
    ∃ e, signalDispacher pl fs clock c.activeState sig buff ticks c = .ok (e, c') := by
  obtain ⟨⟨e, c₁⟩, hd, h⟩ := bind_eq_ok.mp h
  have he : e ≠ .transition := by
    rintro rfl
    exact signalDispacher_transition hd hn
  simp only [if_neg he] at h
  cases h
  exact ⟨e, hd⟩

/-- A call that neither moves nor enters a payload, stores or loads. -/
theorem signalDispacher_same {state : TerminalState} {sig : TerminalSignal}
    {buff : Option CStr} {ticks : Ticks} {c c' : ConfigSubsystem σ ρ} {e : TerminalEvent}
    (hn : nextState state sig = none) (hi : state = .basicDeviceInfo → sig ≠ .entry)
    (hp : state = .basicDeviceConfig → sig = .pressedKeyEnter → buff = none)
    (hs : state = .basicDeviceConfig → sig ≠ .pressedKeyS)
    (h : signalDispacher pl fs clock state sig buff ticks c = .ok (e, c')) : SameEffects c c' := by
  cases state with
  | initState => cases sig <;> first | (cases h; exact ⟨rfl, rfl, rfl⟩) | cases hn
  | streamADC =>
    cases sig <;> try first | (cases h; exact ⟨rfl, rfl, rfl⟩) | (cases hn; done)
    case streamData => cases h; exact streamStep_same ticks c
  | sensorConfig => cases h; exact ⟨rfl, rfl, rfl⟩
  | networkConfig => cases h; exact ⟨rfl, rfl, rfl⟩
  | basicDeviceInfo =>
    cases sig <;> try first | (cases h; exact ⟨rfl, rfl, rfl⟩) | (cases hn; done)
    case entry => exact absurd rfl (hi rfl)
  | basicDeviceConfig =>
    cases sig <;> try first | (cases h; exact ⟨rfl, rfl, rfl⟩) | (cases hn; done)
    case pressedKeyEnter =>
      obtain rfl := hp rfl rfl
      cases h
      exact ⟨rfl, rfl, rfl⟩
    case pressedKeyS => exact absurd rfl (hs rfl)
    case pressedKeyT =>
      cases h
      unfold promptIfNoPayload
      split <;> exact ⟨rfl, rfl, rfl⟩
    case pressedKeyN =>
      cases h
      unfold promptIfNoPayload
      split <;> exact ⟨rfl, rfl, rfl⟩

/-- The device info screen is reached by one key only. -/
theorem nextState_basicDeviceInfo {s : TerminalState} {sig : TerminalSignal}
    (h : nextState s sig = some .basicDeviceInfo) : s = .initState ∧ sig = .pressedKeyI := by
  unfold nextState at h
  split at h <;> cases h
  exact ⟨rfl, rfl⟩

/-- **Every call of `handler`.** -/
theorem handler_cases {sig : TerminalSignal} {buff : Option CStr} {ticks : Ticks}
    {c c' : ConfigSubsystem σ ρ} (h : handler pl fs clock sig buff ticks c = .ok c') :
    Handled pl fs clock sig buff c c' := by
  cases hn : nextState c.activeState sig with
  | some s =>
    obtain ⟨e, hd⟩ := handler_moved hn h
    cases s with
    | initState => cases hd; exact .move hn nofun rfl rfl
    | basicDeviceConfig => cases hd; exact .move hn nofun rfl rfl
    | streamADC => cases hd; exact .move hn nofun rfl rfl
    | sensorConfig => cases hd; exact .move hn nofun rfl rfl
    | networkConfig => cases hd; exact .move hn nofun rfl rfl
    | basicDeviceInfo =>
      obtain ⟨ret, hret, ha, hr⟩ := dispatchInfo_entry hd
      exact .info (Or.inl (nextState_basicDeviceInfo hn)) ha ret hret hr
  | none =>
    obtain ⟨e, hd⟩ := handler_stay hn h
    by_cases hi : c.activeState = .basicDeviceInfo ∧ sig = .entry
    · obtain ⟨hst, rfl⟩ := hi
      rw [hst] at hd
      obtain ⟨ret, hret, ha, hr⟩ := dispatchInfo_entry hd
      exact .info (Or.inr ⟨hst, rfl⟩) (ha.trans hst) ret hret hr
    · by_cases hp : c.activeState = .basicDeviceConfig ∧ sig = .pressedKeyEnter ∧ buff ≠ none
      · obtain ⟨hst, rfl, hb⟩ := hp
        obtain ⟨b, rfl⟩ := Option.ne_none_iff_exists'.mp hb
        rw [hst] at hd
        cases hd
        exact .payload hst rfl b rfl rfl
      · by_cases hs : c.activeState = .basicDeviceConfig ∧ sig = .pressedKeyS
        · obtain ⟨hst, rfl⟩ := hs
          rw [hst] at hd
          obtain ⟨c₁, hc₁, hd⟩ := bind_eq_ok.mp hd
          cases hd
          exact .store hst rfl hc₁
        · obtain ⟨ha, hst, hr⟩ := signalDispacher_same hn (fun a b => hi ⟨a, b⟩)
            (fun a b => by_contra fun hb => hp ⟨a, b, hb⟩) (fun a b => hs ⟨a, b⟩) hd
          exact .stay hn ha hst hr

/-- What a payload leaves alone: the state, and of the storage component all but the record. -/
def EditsRecord (c c' : ConfigSubsystem σ ρ) : Prop :=
  c'.activeState = c.activeState ∧ ∃ m, c'.storage = { c.storage with metadata := m }

/-- What a payload may touch: the record, the clock and the console. -/
def Touches (c c' : ConfigSubsystem σ ρ) : Prop :=
  ∃ m r con, c' = { c with storage := { c.storage with metadata := m }, rtc := r, console := con }

theorem enterTime_touches (buff : CStr) (c : ConfigSubsystem σ ρ) :
    Touches c (enterTime clock buff c) := by
  unfold enterTime
  split
  · exact ⟨_, _, _, rfl⟩
  · dsimp only
    split <;> exact ⟨_, _, _, rfl⟩

theorem enterFile_touches (buff : CStr) (c : ConfigSubsystem σ ρ) :
    Touches c (enterFile buff c) := by
  unfold enterFile
  split <;> exact ⟨_, _, _, rfl⟩

theorem enterPeriod_touches (buff : CStr) (set : UInt16 → LoggerMetadata → LoggerMetadata)
    (done : String) (c : ConfigSubsystem σ ρ) : Touches c (enterPeriod pl buff set done c) := by
  unfold enterPeriod
  split <;> exact ⟨_, _, _, rfl⟩

theorem enterPayload_touches (buff : CStr) (c : ConfigSubsystem σ ρ) :
    Touches c (enterPayload pl clock buff c) := by
  unfold enterPayload
  split
  · exact ⟨_, _, _, rfl⟩
  · exact enterTime_touches buff c
  · exact enterFile_touches buff c
  · exact enterPeriod_touches buff _ _ c
  · exact enterPeriod_touches buff _ _ c
  · exact ⟨_, _, _, rfl⟩

/-- A payload edits the record or the clock. -/
theorem enterPayload_edits {buff : CStr} {c c' : ConfigSubsystem σ ρ}
    (hc' : c' = enterPayload pl clock buff c) : EditsRecord c c' := by
  obtain ⟨m, r, con, h⟩ := enterPayload_touches buff c
  rw [hc', h]
  exact ⟨rfl, m, rfl⟩

/-- An `S` command that returns has called `storeMetadata`, and says that it saved. -/
theorem storeCommand_ok {c c' : ConfigSubsystem σ ρ} (h : storeCommand pl fs c = .ok c') :
    ∃ name ret, c.metadata.loggerName.cstr = .ok name ∧
      storeMetadata fs (metadataArray name c.metadata).bytes c.storage = .ok (ret, c'.storage) ∧
      c'.activeState = c.activeState ∧ c'.rtc = c.rtc ∧
      c'.console = c.console ++ [.text "Storing configuratoin in memory..\r\n",
        .text "Configuration saved!\r\n"] := by
  obtain ⟨name, hname, h⟩ := bind_eq_ok.mp h
  obtain ⟨⟨res, st⟩, hn, h⟩ := bind_eq_ok.mp h
  obtain ⟨⟨ret, st'⟩, hstore, hst⟩ := bind_eq_ok.mp hn
  cases hst
  cases h
  refine ⟨name, ret, hname, hstore, rfl, rfl, ?_⟩
  simp [ConfigSubsystem.print]

/-- The store command leaves all but the device and the console alone. -/
theorem storeCommand_storage {c c' : ConfigSubsystem σ ρ} (h : storeCommand pl fs c = .ok c') :
    c'.activeState = c.activeState ∧ ∃ d, c'.storage = { c.storage with fileSystem := d } := by
  obtain ⟨name, ret, -, hstore, ha, -⟩ := storeCommand_ok h
  exact ⟨ha, storeMetadata_storage hstore⟩

/-! ## The signals a call of `handler` leaves -/

/-- The keys of the configuration menu that give a prompt and are remembered for the payload. -/
def prompts (sig : TerminalSignal) (buff : Option CStr) : Bool :=
  match sig with
  | .pressedKeyC | .pressedKeyF | .pressedKeyM => true
  | .pressedKeyN | .pressedKeyT => buff.isNone
  | _ => false

theorem streamStep_signals (ticks : Ticks) (c : ConfigSubsystem σ ρ) :
    (streamStep ticks c).availableSignal = c.availableSignal ∧
      (streamStep ticks c).previousSignal = c.previousSignal := by
  unfold streamStep
  dsimp only
  split <;> split <;> exact ⟨rfl, rfl⟩

theorem storeCommand_signals {c c' : ConfigSubsystem σ ρ} (h : storeCommand pl fs c = .ok c') :
    c'.availableSignal = c.availableSignal ∧ c'.previousSignal = c.previousSignal := by
  obtain ⟨name, -, h⟩ := bind_eq_ok.mp h
  obtain ⟨⟨res, st⟩, -, h⟩ := bind_eq_ok.mp h
  simp only [Except.ok.injEq] at h
  rw [← h]
  exact ⟨rfl, rfl⟩

theorem dispatchInfo_signals {sig : TerminalSignal} {c c' : ConfigSubsystem σ ρ}
    {e : TerminalEvent} (h : dispatchInfo pl fs clock sig c = .ok (e, c')) :
    c'.availableSignal = c.availableSignal ∧ c'.previousSignal = c.previousSignal := by
  by_cases hs : sig = .entry
  · subst hs
    obtain ⟨ret, st, name, -, -, rfl⟩ := dispatchInfo_prints h
    exact ⟨rfl, rfl⟩
  · cases sig <;> first | exact absurd rfl hs | (cases h; exact ⟨rfl, rfl⟩)

theorem promptIfNoPayload_signals (key : TerminalSignal) (s : String) (buff : Option CStr)
    (c : ConfigSubsystem σ ρ) :
    (promptIfNoPayload key s buff c).availableSignal = c.availableSignal ∧
      (promptIfNoPayload key s buff c).previousSignal =
        if buff.isNone then key else c.previousSignal := by
  cases buff <;> exact ⟨rfl, rfl⟩

/-- The entry of `streamADC` sets the one signal, the prompts the other. -/
theorem signalDispacher_signals {state : TerminalState} {sig : TerminalSignal}
    {buff : Option CStr} {ticks : Ticks} {c c' : ConfigSubsystem σ ρ} {e : TerminalEvent}
    (h : signalDispacher pl fs clock state sig buff ticks c = .ok (e, c')) :
    c'.availableSignal =
        (if state = .streamADC ∧ sig = .entry then .streamData else c.availableSignal) ∧
      c'.previousSignal =
        if state = .basicDeviceConfig ∧ prompts sig buff then sig else c.previousSignal := by
  cases state with
  | initState => cases sig <;> cases h <;> exact ⟨rfl, rfl⟩
  | sensorConfig => cases h; exact ⟨rfl, rfl⟩
  | networkConfig => cases h; exact ⟨rfl, rfl⟩
  | basicDeviceInfo => exact dispatchInfo_signals h
  | streamADC =>
    cases sig <;> try (cases h; exact ⟨rfl, rfl⟩)
    case streamData => cases h; exact streamStep_signals ticks c
  | basicDeviceConfig =>
    cases sig <;> try (cases h; exact ⟨rfl, rfl⟩)
    case pressedKeyT =>
      cases h
      simpa [prompts] using promptIfNoPayload_signals .pressedKeyT _ buff c
    case pressedKeyN =>
      cases h
      simpa [prompts] using promptIfNoPayload_signals .pressedKeyN _ buff c
    case pressedKeyEnter =>
      cases buff with
      | none => cases h; exact ⟨rfl, rfl⟩
      | some b =>
        cases h
        obtain ⟨m, r, con, ht⟩ := enterPayload_touches b c
        rw [ht]
        exact ⟨rfl, rfl⟩
    case pressedKeyS =>
      obtain ⟨c₁, hc₁, h⟩ := bind_eq_ok.mp h
      cases h
      exact storeCommand_signals hc₁

/-- **The signals after a call of `handler`.** -/
theorem handler_signals {sig : TerminalSignal} {buff : Option CStr} {ticks : Ticks}
    {c c' : ConfigSubsystem σ ρ} (h : handler pl fs clock sig buff ticks c = .ok c') :
    c'.availableSignal = (if nextState c.activeState sig = some .streamADC ∨
        c.activeState = .streamADC ∧ sig = .entry then .streamData else c.availableSignal) ∧
      c'.previousSignal = if c.activeState = .basicDeviceConfig ∧ prompts sig buff then sig
        else c.previousSignal := by
  cases hn : nextState c.activeState sig with
  | some s =>
    obtain ⟨e, hd⟩ := handler_moved hn h
    obtain ⟨hav, hprev⟩ := signalDispacher_signals hd
    have hentry : ¬ (c.activeState = .streamADC ∧ sig = .entry) := by
      rintro ⟨ha, rfl⟩
      simp [ha, nextState] at hn
    have hprompt : ¬ (c.activeState = .basicDeviceConfig ∧ prompts sig buff = true) := by
      rintro ⟨ha, hp⟩
      rw [ha] at hn
      cases sig <;> simp [nextState, prompts] at hn hp
    constructor
    · simp only [hav, Option.some.injEq, hentry, or_false, and_true]
      rfl
    · simp only [hprev, hprompt, if_false]
      exact if_neg (by simp [prompts])
  | none =>
    obtain ⟨e, hd⟩ := handler_stay hn h
    obtain ⟨hav, hprev⟩ := signalDispacher_signals hd
    exact ⟨by simpa using hav, hprev⟩

/-- The state after a call of `handler`. -/
theorem handler_activeState {sig : TerminalSignal} {buff : Option CStr} {ticks : Ticks}
    {c c' : ConfigSubsystem σ ρ} (h : handler pl fs clock sig buff ticks c = .ok c') :
    c'.activeState = (nextState c.activeState sig).getD c.activeState := by
  cases handler_cases h with
  | stay hn ha _ _ => simp [hn, ha]
  | move hn _ _ _ => simp [hn]
  | info hc ha _ _ _ =>
    rcases hc with ⟨hc, rfl⟩ | ⟨hc, rfl⟩ <;> simp [hc, ha, nextState]
  | payload hc hk b _ h =>
    have ht : c'.activeState = c.activeState := (enterPayload_edits h).1
    simp [ht, hk, hc, nextState]
  | store hc hk h => simp [(storeCommand_storage h).1, hc, hk, nextState]

/-! ## How a call of `handler` can fail -/

/-- A call fails at the assertion, or at a string without a terminator. -/
def Stops (e : Fault) : Prop := e = .hang ∨ e = .outOfBounds

theorem storeCommand_error {c : ConfigSubsystem σ ρ} {e : Fault}
    (h : storeCommand pl fs c = .error e) : Stops e := by
  rcases bind_eq_error.mp h with h | ⟨name, -, h⟩
  · exact Or.inr (CBuf.cstr_error h)
  · rcases bind_eq_error.mp h with h | ⟨r, -, h⟩
    · rcases bind_eq_error.mp h with h | ⟨r, -, h⟩
      · exact Or.inl (storeMetadata_error h)
      · cases h
    · cases h

theorem dispatchInfo_entry_error {c : ConfigSubsystem σ ρ} {e : Fault}
    (h : dispatchInfo pl fs clock .entry c = .error e) : Stops e := by
  rcases bind_eq_error.mp h with h | ⟨r, -, h⟩
  · rcases bind_eq_error.mp h with h | ⟨r, -, h⟩
    · rcases bind_eq_error.mp h with h | ⟨r, -, h⟩
      · exact retrieveMetadata_error h
      · cases h
    · cases h
  · rcases bind_eq_error.mp h with h | ⟨r, -, h⟩
    · rcases bind_eq_error.mp h with h | ⟨r, -, h⟩
      · exact Or.inr (CBuf.cstr_error h)
      · cases h
    · cases h

/-- Only loading and storing can fail. -/
theorem signalDispacher_error {state : TerminalState} {sig : TerminalSignal} {buff : Option CStr}
    {ticks : Ticks} {c : ConfigSubsystem σ ρ} {e : Fault}
    (h : signalDispacher pl fs clock state sig buff ticks c = .error e) : Stops e := by
  cases state with
  | initState => cases h
  | streamADC => cases h
  | sensorConfig => cases h
  | networkConfig => cases h
  | basicDeviceInfo =>
    by_cases hs : sig = .entry
    · subst hs
      exact dispatchInfo_entry_error h
    · cases sig <;> first | exact absurd rfl hs | cases h
  | basicDeviceConfig =>
    by_cases hs : sig = .pressedKeyS
    · subst hs
      rcases bind_eq_error.mp h with h | ⟨r, -, h⟩
      · exact storeCommand_error h
      · cases h
    · cases buff <;> cases sig <;> first | exact absurd rfl hs | cases h

theorem handler_error {sig : TerminalSignal} {buff : Option CStr} {ticks : Ticks}
    {c : ConfigSubsystem σ ρ} {e : Fault} (h : handler pl fs clock sig buff ticks c = .error e) :
    Stops e := by
  rcases bind_eq_error.mp h with h | ⟨⟨event, c₁⟩, -, h⟩
  · exact signalDispacher_error h
  · by_cases ht : event = .transition
    · simp only [if_pos ht] at h
      rcases bind_eq_error.mp h with h | ⟨r, -, h⟩
      · exact signalDispacher_error h
      · rcases bind_eq_error.mp h with h | ⟨r, -, h⟩
        · exact signalDispacher_error h
        · cases h
    · simp only [if_neg ht] at h
      cases h

end GenLogger.Config
