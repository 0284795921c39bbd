import GenLogger.Config.Task
import GenLogger.Logger.LoggerManager
import GenLogger.Network.HttpClient
import GenLogger.Platform.Ticks

/-!
# The super loop (`main.cpp`)

Model of `main` from the observers on. An iteration is `configurationTask`, `measurementTask`,
`loggerTask` and `networkTask`, one after the other.

* The tick interrupt may come at any point. It only counts and raises the run flag, and the flag is
  tested once, so it is enough to say how many ticks come before the configuration task has set the
  period, after that and up to the test, and during a measurement, whose end clears the flag. Ticks
  after the test of a task that does not run belong to the next iteration.
* The buffer of the processing manager is the mailbox of the logger and of the client.
* The log and the metadata are separate files. On the host that excludes a device named
  `metadata.txt`.

Results:
* `iteration_tasks`: an iteration is the three other tasks, from where the configuration ends.
* `measurementTask_runs`: a measurement leaves a record in the buffer and tells the observers.
* `loggerTask_runs`, `loggerTask_rests`: the handler is called where the logger's flag is up, and only
  there.
-/

namespace GenLogger

open GenLogger.Lib GenLogger.Platform GenLogger.Config GenLogger.Measurement GenLogger.Logger
  GenLogger.Network

variable {σ ρ τ : Type}

/-- The program in the super loop: the configuration side, the tick counter with `runMeasurementTask`,
the processing manager and its two observers, and the log. -/
structure SuperLoop (σ ρ τ : Type) where
  system : System σ ρ
  tick : TickState
  processing : ProcessingManager
  logger : LoggerManager
  client : HttpClient
  log : τ

/-- What happens around an iteration. -/
structure LoopInput where
  line : Option (List Byte)
  ticksBefore : Nat
  ticks : Ticks
  ticksAfter : Nat
  reading : Reading
  ticksDuring : Nat
  poll : PollInput

/-- The tick handler of the build. -/
def tickHandler : Platform → UInt32 → TickState → Except Fault TickState
  | .host => myTickHandler
  | .target => sysTickHandler

/-- `n` ticks. -/
def tickTimes (pl : Platform) (period : UInt32) : Nat → TickState → Except Fault TickState
  | 0, t => .ok t
  | n + 1, t => do
    let t ← tickHandler pl period t
    tickTimes pl period n t

/-- `myLoggerManager.init`: only the target mounts. -/
def mountLog (pl : Platform) (logFs : FileHandler τ) (log : τ) : τ :=
  match pl with
  | .host => log
  | .target => (logFs.mount log).2

namespace SuperLoop

/-- The rest of `main`, from the observers to the super loop, with what the interrupt has done to
`tick` until then. -/
def start (pl : Platform) (logFs : FileHandler τ) (url : CStr) (system : System σ ρ)
    (tick : TickState) (log : τ) : Except Fault (SuperLoop σ ρ τ) := do
  let processing ← ProcessingManager.init.setObserver .loggerManager
  let processing ← processing.setObserver .httpClient
  .ok
    { system := system
      tick := tick
      processing := processing
      logger := ⟨false⟩
      client := (HttpClient.init url).setMailBox (some (CStr.ofBytes processing.sensorInfoBuff.bytes))
      log := mountLog pl logFs log }

/-- `update` of an observer. -/
def updateObserver (ref : Observer) (s : SuperLoop σ ρ τ) : SuperLoop σ ρ τ :=
  match ref with
  | .loggerManager => { s with logger := s.logger.update }
  | .httpClient => { s with client := s.client.update }

section Iteration

variable (pl : Platform) (fs : FileHandler σ) (clock : RtcInterface ρ) (logFs : FileHandler τ)

/-- `configurationTask`, and the ticks up to the test of `measurementTask`. -/
def configure (i : LoopInput) (s : SuperLoop σ ρ τ) : Except Fault (SuperLoop σ ρ τ) := do
  let tick ← tickTimes pl s.system.measurementTaskPeriod i.ticksBefore s.tick
  let system ← configurationTask pl fs clock i.ticks (s.system.receive i.line)
  let tick ← tickTimes pl system.measurementTaskPeriod i.ticksAfter tick
  .ok { s with system := system, tick := tick }

/-- `measurementTask`. The client's mailbox is the buffer, so its text changes with it. -/
def measurementTask (i : LoopInput) (s : SuperLoop σ ρ τ) : Except Fault (SuperLoop σ ρ τ) :=
  if s.tick.taskRunFlag = 1 then do
    let processing ← (do
      let p ← s.processing.takeMeasurements i.reading
      p.formatData)
    let record ← processing.sensorInfoBuff.cstr
    let s := processing.notifyObservers updateObserver
      { s with processing := processing, client := s.client.setMailBox (some record) }
    let tick ← tickTimes pl s.system.measurementTaskPeriod i.ticksDuring s.tick
    .ok { s with tick := { tick with taskRunFlag := 0 } }
  else .ok s

/-- `loggerTask`. -/
def loggerTask (s : SuperLoop σ ρ τ) : Except Fault (SuperLoop σ ρ τ) :=
  let (available, logger) := s.logger.getAvailableDataFlag
  let s := { s with logger := logger }
  if available then do
    let log ← LoggerManager.handler logFs s.system.config.metadata.fileCreationPeriod
      s.processing.sensorInfoBuff s.log
    .ok { s with log := log }
  else .ok s

/-- The three tasks after the configuration. -/
def tasks (i : LoopInput) (s : SuperLoop σ ρ τ) : Except Fault (SuperLoop σ ρ τ) := do
  let s ← measurementTask pl i s
  let s ← loggerTask logFs s
  .ok { s with client := networkTask i.poll s.client }

/-- An iteration of the super loop. -/
def iteration (i : LoopInput) (s : SuperLoop σ ρ τ) : Except Fault (SuperLoop σ ρ τ) := do
  let s ← configure pl fs clock i s
  tasks pl logFs i s

end Iteration

/-! ## What the tasks do -/

variable {pl : Platform} {fs : FileHandler σ} {clock : RtcInterface ρ} {logFs : FileHandler τ}

/-- The observers `main` registers. -/
def observers : List Observer := [.loggerManager, .httpClient]

theorem start_ok (pl : Platform) (logFs : FileHandler τ) (url : CStr) (system : System σ ρ)
    (tick : TickState) (log : τ) : ∃ s, start pl logFs url system tick log = .ok s ∧
      s.system = system ∧ s.tick = tick ∧ s.logger.availableData = false ∧
      s.processing.listOfObservers = observers ∧ s.log = mountLog pl logFs log :=
  ⟨_, rfl, rfl, rfl, rfl, rfl, rfl⟩

/-- The configuration side leaves the others alone. -/
theorem configure_ok {i : LoopInput} {s s' : SuperLoop σ ρ τ}
    (h : configure pl fs clock i s = .ok s') : s'.processing = s.processing ∧
      s'.logger = s.logger ∧ s'.client = s.client ∧ s'.log = s.log := by
  obtain ⟨t₁, -, h⟩ := bind_eq_ok.mp h
  obtain ⟨system, -, h⟩ := bind_eq_ok.mp h
  obtain ⟨t₂, -, h⟩ := bind_eq_ok.mp h
  cases h
  exact ⟨rfl, rfl, rfl, rfl⟩

/-- An iteration is the tasks, from where the configuration ends. -/
theorem iteration_tasks {i : LoopInput} {s s₁ : SuperLoop σ ρ τ}
    (h : configure pl fs clock i s = .ok s₁) :
    iteration pl fs clock logFs i s = tasks pl logFs i s₁ := by
  unfold iteration
  rw [h]
  rfl

/-- **A measurement** leaves a record in the buffer, which is the client's mailbox, and tells both. -/
theorem measurementTask_runs {i : LoopInput} {s s' : SuperLoop σ ρ τ}
    (hobs : s.processing.listOfObservers = observers) (hflag : s.tick.taskRunFlag = 1)
    (h : measurementTask pl i s = .ok s') :
    s'.system = s.system ∧ s'.log = s.log ∧ s'.logger.availableData = true ∧
      s'.processing.listOfObservers = observers ∧
      (∃ tick, tickTimes pl s.system.measurementTaskPeriod i.ticksDuring s.tick = .ok tick ∧
        s'.tick = { tick with taskRunFlag := 0 }) ∧ ∃ record,
        s'.processing.sensorInfoBuff.cstr = .ok record ∧
        record.bytes = (recordOf i.reading).take (msrdDataBuffSize - 1) ∧
        s'.client = { s.client with availableDataFlag := true, pDataBuff := some record } := by
  obtain ⟨p, record, hp, hrecord, hbytes, hlist⟩ := measured_record i.reading s.processing
  unfold measurementTask at h
  rw [if_pos hflag] at h
  obtain ⟨p', hp', h⟩ := bind_eq_ok.mp h
  rw [hp] at hp'
  cases hp'
  obtain ⟨record', hr', h⟩ := bind_eq_ok.mp h
  rw [hrecord] at hr'
  cases hr'
  obtain ⟨tick, htick, h⟩ := bind_eq_ok.mp h
  unfold ProcessingManager.notifyObservers at h htick
  rw [hlist, hobs] at h htick
  cases h
  exact ⟨rfl, rfl, rfl, hlist.trans hobs, ⟨tick, htick, rfl⟩, record, hrecord, hbytes, rfl⟩

theorem measurementTask_rests {i : LoopInput} {s s' : SuperLoop σ ρ τ}
    (hflag : s.tick.taskRunFlag ≠ 1) (h : measurementTask pl i s = .ok s') : s' = s := by
  unfold measurementTask at h
  rw [if_neg hflag] at h
  cases h
  rfl

/-- Where the flag is down, `loggerTask` does nothing. -/
theorem loggerTask_rests {s s' : SuperLoop σ ρ τ} (hflag : s.logger.availableData = false)
    (h : loggerTask logFs s = .ok s') : s' = { s with logger := ⟨false⟩ } := by
  unfold loggerTask LoggerManager.getAvailableDataFlag at h
  rw [hflag] at h
  cases h
  rfl

/-- Where it is up, the handler is called. -/
theorem loggerTask_runs {s s' : SuperLoop σ ρ τ} (hflag : s.logger.availableData = true)
    (h : loggerTask logFs s = .ok s') :
    ∃ log, LoggerManager.handler logFs s.system.config.metadata.fileCreationPeriod
      s.processing.sensorInfoBuff s.log = .ok log ∧
        s' = { s with logger := ⟨false⟩, log := log } := by
  unfold loggerTask LoggerManager.getAvailableDataFlag at h
  rw [hflag] at h
  obtain ⟨log, hlog, h⟩ := bind_eq_ok.mp h
  cases h
  exact ⟨log, hlog, rfl⟩

end SuperLoop

end GenLogger
