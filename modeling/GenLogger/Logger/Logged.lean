import GenLogger.Config.Period
import GenLogger.Platform.FatFs
import GenLogger.SuperLoop

/-!
# Every measurement is logged

`Journal` is the super loop with the bytes the log held at the start and the records produced since,
which are not part of the program. `AllLogged` says that the log is the one followed by the others:
each record once, in order, and nothing lost.

A measurement and the `loggerTask` that logs it are in the same iteration, so nothing is overwritten
in the mailbox. What can go wrong is the handler's empty branch.

* The log may be any file that is appended to (`Appendable`): the host's, or the one on the card.
* A run is looked at while the calls it makes on the log succeed (`CallsSucceed`); calls that it does
  not make may fail.

Results:
* `tasks_measured`, `tasks_rested`: the tasks of an iteration, with and without a measurement.
* `loopStep_logged`: one iteration, with the invariant between iterations (`LoopInv`).
* `all_logged_iff`: every record is logged exactly when no measurement meets `CREATE_FILE_A_DAY` in
  the metadata record, which is the value of the default file.
* `card_measured`: on the card the calls succeed, and the record is logged, while there is room for
  it.
-/

namespace GenLogger.Logger

open GenLogger.Lib GenLogger.Platform GenLogger.Config GenLogger.Measurement GenLogger.Network

variable {σ ρ τ : Type}

/-- The super loop, the bytes in the log at the start, and the records produced. -/
structure Journal (σ ρ τ : Type) where
  loop : SuperLoop σ ρ τ
  initial : List Byte
  records : List (List Byte)

section Step

variable (pl : Platform) (fs : FileHandler σ) (clock : RtcInterface ρ) (logFs : FileHandler τ)

/-- An iteration, with the record it produces written down. -/
inductive LoopStep : Journal σ ρ τ → LoopInput → Journal σ ρ τ → Prop
  | measured {j : Journal σ ρ τ} {i : LoopInput} {s s' : SuperLoop σ ρ τ} {record : CStr}
      (hc : j.loop.configure pl fs clock i = .ok s) (hflag : s.tick.taskRunFlag = 1)
      (h : j.loop.iteration pl fs clock logFs i = .ok s')
      (hr : s'.processing.sensorInfoBuff.cstr = .ok record) :
      LoopStep j i ⟨s', j.initial, j.records ++ [record.bytes]⟩
  | rested {j : Journal σ ρ τ} {i : LoopInput} {s s' : SuperLoop σ ρ τ}
      (hc : j.loop.configure pl fs clock i = .ok s) (hflag : s.tick.taskRunFlag ≠ 1)
      (h : j.loop.iteration pl fs clock logFs i = .ok s') : LoopStep j i ⟨s', j.initial, j.records⟩

end Step

variable {pl : Platform} {fs : FileHandler σ} {clock : RtcInterface ρ} {logFs : FileHandler τ}
  (A : Appendable logFs)

/-- Every record is in the log, once, in order, behind what was there. -/
def AllLogged (j : Journal σ ρ τ) : Prop :=
  logBytes A j.loop.log = j.initial ++ j.records.flatten

/-- If the iteration measures, the metadata record does not ask for a file a day. -/
def MeasuresIntoLog (pl : Platform) (fs : FileHandler σ) (clock : RtcInterface ρ)
    (t : Taken (Journal σ ρ τ) LoopInput) : Prop :=
  ∀ s, t.before.loop.configure pl fs clock t.input = .ok s → s.tick.taskRunFlag = 1 →
    s.system.config.metadata.fileCreationPeriod ≠ createFileADay

/-- The calls the handler makes on the log succeed, in tasks that measure and lead from `s` to `s'`. -/
def Appends (logFs : FileHandler τ) (s s' : SuperLoop σ ρ τ) : Prop :=
  ∀ record, s.system.config.metadata.fileCreationPeriod ≠ createFileADay →
    s'.processing.sensorInfoBuff.cstr = .ok record → ∃ d, logFs.Writes 2 s.log record.bytes d

/-- The calls an iteration makes on the log succeed. -/
def CallsSucceed (pl : Platform) (fs : FileHandler σ) (clock : RtcInterface ρ) (logFs : FileHandler τ)
    (t : Taken (Journal σ ρ τ) LoopInput) : Prop :=
  ∀ s, t.before.loop.configure pl fs clock t.input = .ok s → s.tick.taskRunFlag = 1 →
    Appends logFs s t.after.loop

/-- The invariant between iterations. -/
structure LoopInv (s : SuperLoop σ ρ τ) : Prop where
  observers : s.processing.listOfObservers = SuperLoop.observers
  flag : s.logger.availableData = false
  idle : A.Idle s.log

/-! ## One iteration -/

/-- The tasks of an iteration that measures add its record to the log, or lose it. -/
theorem tasks_measured {i : LoopInput} {s s' : SuperLoop σ ρ τ} (hinv : LoopInv A s)
    (hflag : s.tick.taskRunFlag = 1) (hcalls : Appends logFs s s')
    (h : s.tasks pl logFs i = .ok s') :
    LoopInv A s' ∧ ∃ record, s'.processing.sensorInfoBuff.cstr = .ok record ∧
      record.bytes = (recordOf i.reading).take (msrdDataBuffSize - 1) ∧
      logBytes A s'.log = logBytes A s.log ++
        if s.system.config.metadata.fileCreationPeriod = createFileADay then []
        else record.bytes := by
  obtain ⟨s₁, hm, h⟩ := bind_eq_ok.mp h
  obtain ⟨s₂, hl, h⟩ := bind_eq_ok.mp h
  cases h
  obtain ⟨hsys, hlog, havail, hobs, -, record, hrecord, hbytes, -⟩ :=
    SuperLoop.measurementTask_runs hinv.observers hflag hm
  obtain ⟨log, hhandler, rfl⟩ := SuperLoop.loggerTask_runs havail hl
  rw [hsys, hlog] at hhandler
  obtain ⟨hi, hc⟩ := handler_appends A hrecord hinv.idle
    (fun hday => hcalls record hday hrecord) hhandler
  exact ⟨⟨hobs, rfl, hi⟩, record, hrecord, hbytes, hc⟩

/-- The other iterations leave the log alone. -/
theorem tasks_rested {i : LoopInput} {s s' : SuperLoop σ ρ τ} (hinv : LoopInv A s)
    (hflag : s.tick.taskRunFlag ≠ 1) (h : s.tasks pl logFs i = .ok s') :
    LoopInv A s' ∧ s'.log = s.log := by
  obtain ⟨s₁, hm, h⟩ := bind_eq_ok.mp h
  obtain ⟨s₂, hl, h⟩ := bind_eq_ok.mp h
  cases h
  rw [SuperLoop.measurementTask_rests hflag hm] at hl
  rw [SuperLoop.loggerTask_rests hinv.flag hl]
  exact ⟨⟨hinv.observers, rfl, hinv.idle⟩, rfl⟩

/-- The configuration task keeps the invariant and the log. -/
theorem configure_inv {i : LoopInput} {s s' : SuperLoop σ ρ τ} (hinv : LoopInv A s)
    (h : s.configure pl fs clock i = .ok s') : LoopInv A s' ∧ s'.log = s.log := by
  obtain ⟨hp, hl, -, hlog⟩ := SuperLoop.configure_ok h
  refine ⟨⟨?_, ?_, ?_⟩, hlog⟩
  · rw [hp]
    exact hinv.observers
  · rw [hl]
    exact hinv.flag
  · rw [hlog]
    exact hinv.idle

/-- **One iteration.** The invariant is kept; and where every record was in the log before, every one
is after the iteration exactly when what it measures is logged. -/
theorem loopStep_logged {j j' : Journal σ ρ τ} {i : LoopInput} (hinv : LoopInv A j.loop)
    (h : LoopStep pl fs clock logFs j i j') (hcalls : CallsSucceed pl fs clock logFs ⟨j, i, j'⟩) :
    LoopInv A j'.loop ∧
      (AllLogged A j → (AllLogged A j' ↔ MeasuresIntoLog pl fs clock ⟨j, i, j'⟩)) := by
  cases h with
  | @measured s s' record hc hflag h hr =>
    obtain ⟨hinv₁, hlog₁⟩ := configure_inv A hinv hc
    rw [SuperLoop.iteration_tasks hc] at h
    obtain ⟨hinv', record', hr', hbytes, hlog⟩ :=
      tasks_measured A hinv₁ hflag (hcalls s hc hflag) h
    rw [hr] at hr'
    cases hr'
    have hne : record.bytes ≠ [] := by
      rw [hbytes]
      exact record_ne_nil i.reading
    refine ⟨hinv', fun hall => ?_⟩
    have hafter : AllLogged A ⟨s', j.initial, j.records ++ [record.bytes]⟩ ↔
        (if s.system.config.metadata.fileCreationPeriod = createFileADay then [] else record.bytes) =
          record.bytes := by
      unfold AllLogged at hall ⊢
      rw [hlog, hlog₁, hall, List.flatten_append, List.flatten_singleton, ← List.append_assoc]
      exact List.append_right_inj _
    rw [hafter]
    constructor
    · intro heq s₁ hc₁ _ hday
      rw [hc] at hc₁
      cases hc₁
      rw [if_pos hday] at heq
      exact hne heq.symm
    · intro hmeasures
      exact if_neg (hmeasures s hc hflag)
  | @rested s s' hc hflag h =>
    obtain ⟨hinv₁, hlog₁⟩ := configure_inv A hinv hc
    rw [SuperLoop.iteration_tasks hc] at h
    obtain ⟨hinv', hlog⟩ := tasks_rested A hinv₁ hflag h
    refine ⟨hinv', fun hall => ?_⟩
    constructor
    · intro _ s₁ hc₁ hflag₁
      rw [hc] at hc₁
      cases hc₁
      exact absurd hflag₁ hflag
    · intro _
      unfold AllLogged at hall ⊢
      rw [hlog, hlog₁]
      exact hall

/-! ## Runs -/

/-- At the start of the super loop no file is open. -/
theorem start_inv {url : CStr} {system : System σ ρ} {tick : TickState} {log : τ}
    {s : SuperLoop σ ρ τ} (hidle : pl = .host → A.Idle log)
    (hmounts : pl = .target → (logFs.mount log).1 = true)
    (h : SuperLoop.start pl logFs url system tick log = .ok s) :
    LoopInv A s ∧ logBytes A s.log = logBytes A log := by
  obtain ⟨s', hs', -, -, hflag, hobs, hlog⟩ := SuperLoop.start_ok pl logFs url system tick log
  rw [hs'] at h
  cases h
  have hmount : A.Idle (mountLog pl logFs log) ∧
      logBytes A (mountLog pl logFs log) = logBytes A log := by
    cases pl with
    | host => exact ⟨hidle rfl, rfl⟩
    | target =>
      obtain ⟨hi, hc⟩ := A.mount log _ (Prod.ext (hmounts rfl) rfl)
      exact ⟨hi, congrArg (·.getD []) hc⟩
  rw [← hlog] at hmount
  exact ⟨⟨hobs, hflag, hmount.1⟩, hmount.2⟩

/-- **When every measurement is logged.** Let the super loop start from any configuration, and the calls
it makes on the log succeed. After every iteration of a run the log is what it held, followed by the
records produced, exactly when no iteration measures while `CREATE_FILE_A_DAY` is configured. -/
theorem all_logged_iff {url : CStr} {system : System σ ρ} {tick : TickState} {log : τ}
    {s : SuperLoop σ ρ τ} {ts : List (Taken (Journal σ ρ τ) LoopInput)} {j : Journal σ ρ τ}
    (hidle : pl = .host → A.Idle log)
    (hmounts : pl = .target → (logFs.mount log).1 = true)
    (hstart : SuperLoop.start pl logFs url system tick log = .ok s)
    (h : Run (LoopStep pl fs clock logFs) ⟨s, logBytes A log, []⟩ ts j)
    (hcalls : ∀ t ∈ ts, CallsSucceed pl fs clock logFs t) :
    (∀ t ∈ ts, AllLogged A t.after) ↔ ∀ t ∈ ts, MeasuresIntoLog pl fs clock t := by
  obtain ⟨hinv, hlog⟩ := start_inv A hidle hmounts hstart
  have hpres : Preserved (fun j i j' => LoopStep pl fs clock logFs j i j' ∧
      CallsSucceed pl fs clock logFs ⟨j, i, j'⟩) (fun j : Journal σ ρ τ => LoopInv A j.loop) :=
    fun _ _ _ hinv hs => (loopStep_logged A hinv hs.1 hs.2).1
  refine (h.restrict hcalls).forall_after_iff (P := AllLogged A) hpres
    (fun t hinv hP hs => (loopStep_logged A hinv hs.1 hs.2).2 hP) hinv ?_
  unfold AllLogged
  rw [hlog, List.flatten_nil, List.append_nil]

/-! ## On the card -/

/-- **A measurement on the target**: where one file is configured and the card has room for the record,
the calls on the log succeed and the record is behind what the file held. -/
theorem card_measured {i : LoopInput} {s s' : SuperLoop σ ρ FatFs} (hinv : LoopInv fatAppendable s)
    (hflag : s.tick.taskRunFlag = 1)
    (hday : s.system.config.metadata.fileCreationPeriod ≠ createFileADay)
    (hroom : (s.log.entry.getD []).length + msrdDataBuffSize ≤ s.log.room)
    (hmax : (s.log.entry.getD []).length + msrdDataBuffSize < 0x100000000)
    (h : s.tasks pl fatFSHandler i = .ok s') : Appends fatFSHandler s s' ∧
      s'.log.entry.getD [] = s.log.entry.getD [] ++ (recordOf i.reading).take (msrdDataBuffSize - 1) := by
  have hcalls : Appends fatFSHandler s s' := by
    intro record _ hrecord
    have hlength := CBuf.cstr_length hrecord
    exact fat_appends hinv.idle (by omega) (by omega)
  obtain ⟨-, record, -, hbytes, hlog⟩ := tasks_measured fatAppendable hinv hflag hcalls h
  rw [if_neg hday, hbytes] at hlog
  exact ⟨hcalls, hlog⟩

/-! ## On the host -/

/-- Without ticks meanwhile, the tasks of an iteration return. -/
theorem tasks_ok (logFs : FileHandler τ) {i : LoopInput} {s : SuperLoop σ ρ τ}
    (hobs : s.processing.listOfObservers = SuperLoop.observers) (hflag : s.tick.taskRunFlag = 1)
    (hticks : i.ticksDuring = 0) : ∃ s', s.tasks pl logFs i = .ok s' := by
  obtain ⟨p, record, hp, hrecord, -, hlist⟩ := measured_record i.reading s.processing
  obtain ⟨s₁, hm⟩ : ∃ s₁, s.measurementTask pl i = .ok s₁ := by
    unfold SuperLoop.measurementTask
    rw [if_pos hflag, hticks]
    exact ⟨_, bind_eq_ok.mpr ⟨p, hp, bind_eq_ok.mpr ⟨record, hrecord, bind_eq_ok.mpr ⟨_, rfl, rfl⟩⟩⟩⟩
  obtain ⟨-, -, havail, -, -, record', hrecord', -⟩ :=
    SuperLoop.measurementTask_runs hobs hflag hm
  obtain ⟨d, hd⟩ :=
    handler_ok logFs s₁.system.config.metadata.fileCreationPeriod hrecord' s₁.log
  have hl : s₁.loggerTask logFs = .ok { s₁ with logger := ⟨false⟩, log := d } := by
    unfold SuperLoop.loggerTask LoggerManager.getAvailableDataFlag
    rw [havail]
    exact bind_eq_ok.mpr ⟨d, hd, rfl⟩
  exact ⟨_, bind_eq_ok.mpr ⟨s₁, hm, bind_eq_ok.mpr ⟨_, hl, rfl⟩⟩⟩

/-- The log of the host. -/
def cAppendable : Appendable cFileHandler := cMedium.appendable

/-- On the host the calls on the log succeed. -/
theorem host_appends {s : SuperLoop σ ρ CFile} (hinv : LoopInv cAppendable s)
    (s' : SuperLoop σ ρ CFile) : Appends cFileHandler s s' :=
  fun record _ _ => cMedium.appends hinv.idle record.bytes

theorem host_callsSucceed {j j' : Journal σ ρ CFile} {i : LoopInput}
    (hinv : LoopInv cAppendable j.loop) : CallsSucceed pl fs clock cFileHandler ⟨j, i, j'⟩ :=
  fun _ hc _ => host_appends (configure_inv cAppendable hinv hc).1 j'.loop

/-- A reading of the host's sensors. -/
def hostReading : Reading :=
  ⟨CStr.ofBytes (ascii "12:30:00"), CStr.ofBytes (ascii "01/02/2025"),
    some (CStr.ofBytes (ascii "25.500000")), some 70⟩

/-- An iteration without input, ticks or network events. -/
def quietInput : LoopInput := ⟨none, 0, ⟨0, 0⟩, 0, hostReading, 0, ⟨0, 0, []⟩⟩

/-- `httpServerIP` of the host. -/
def httpServerIP : CStr := CStr.ofBytes (ascii "http://127.0.0.0:8080/api/hello")

theorem noLog_idle : cAppendable.Idle ⟨none, none⟩ := rfl

/-- The start of the super loop on a host without a log. -/
theorem noLog_start {url : CStr} {system : System σ ρ} {tick : TickState} {s : SuperLoop σ ρ CFile}
    (h : SuperLoop.start .host cFileHandler url system tick ⟨none, none⟩ = .ok s) :
    LoopInv cAppendable s ∧ logBytes cAppendable s.log = [] :=
  start_inv cAppendable (fun _ => noLog_idle) (fun _ => rfl) h

/-- A host boots on `device` with no log yet, and its first iteration leads to `j`. -/
def FirstIteration (device : CFile) (s : SuperLoop CFile Unit CFile) (j : Journal CFile Unit CFile) :
    Prop :=
  ∃ system, main .host cFileHandler blankClock ⟨0, 0⟩ (powerOn device ()) = .ok system ∧
    SuperLoop.start .host cFileHandler httpServerIP system ⟨0, 1⟩ ⟨none, none⟩ = .ok s ∧
    Run (LoopStep .host cFileHandler blankClock cFileHandler) ⟨s, [], []⟩
      [⟨⟨s, [], []⟩, quietInput, j⟩] j

/-- The first iteration measures, with the metadata record the boot left. -/
theorem host_firstIteration {device : CFile} {system : System CFile Unit}
    (hboot : main .host cFileHandler blankClock ⟨0, 0⟩ (powerOn device ()) = .ok system) :
    ∃ s j, SuperLoop.start .host cFileHandler httpServerIP system ⟨0, 1⟩ ⟨none, none⟩ = .ok s ∧
      LoopStep .host cFileHandler blankClock cFileHandler ⟨s, [], []⟩ quietInput j ∧
      j.records ≠ [] ∧
      (MeasuresIntoLog .host cFileHandler blankClock ⟨⟨s, [], []⟩, quietInput, j⟩ ↔
        system.config.metadata.fileCreationPeriod ≠ createFileADay) := by
  obtain ⟨s, hstart, hsys, htick, -⟩ :=
    SuperLoop.start_ok .host cFileHandler httpServerIP system ⟨0, 1⟩ (⟨none, none⟩ : CFile)
  obtain ⟨hinv, -⟩ := noLog_start hstart
  obtain ⟨hfs, -, -, hserial⟩ := main_cases hboot
  have hg : system.config.metadata.generalMeasurementPeriod.toNat ≤ 255 := (initFS_period hfs).2.1
  have hsignal : system.config.availableSignal ≠ .streamData := by
    rw [main_signal hboot]
    exact nofun
  obtain ⟨system', htask, -, hmeta, -⟩ := configurationTask_quiet .host cFileHandler blankClock ⟨0, 0⟩
    hserial hsignal hg
  have hc : s.configure .host cFileHandler blankClock quietInput =
      .ok { s with system := system' } := by
    rw [← hsys] at htask
    exact bind_eq_ok.mpr ⟨s.tick, rfl, bind_eq_ok.mpr ⟨system', htask, rfl⟩⟩
  have hflag : ({ s with system := system' } : SuperLoop CFile Unit CFile).tick.taskRunFlag = 1 := by
    rw [htick]
  obtain ⟨hinv₁, -⟩ := configure_inv cAppendable hinv hc
  obtain ⟨s₂, htasks⟩ := tasks_ok cFileHandler (i := quietInput) hinv₁.observers hflag rfl
  obtain ⟨-, record, hr, -⟩ :=
    tasks_measured cAppendable hinv₁ hflag (host_appends hinv₁ s₂) htasks
  have hloop := (SuperLoop.iteration_tasks hc).trans htasks
  refine ⟨s, ⟨s₂, [], [record.bytes]⟩, hstart, .measured hc hflag hloop hr, List.cons_ne_nil _ _, ?_⟩
  rw [← hmeta]
  constructor
  · intro h
    exact h _ hc hflag
  · intro h s₁ hc₁ _
    cases hc.symm.trans hc₁
    exact h

/-- A device configured for one file logs its first measurement. -/
theorem all_logged_oneFile : ∃ s j, FirstIteration ⟨some (ascii "station;2;1;1;1"), none⟩ s j ∧
    j.records ≠ [] ∧ AllLogged cAppendable j := by
  obtain ⟨system, d, b, hboot, hst, -⟩ := hostBoot (c := ascii "station;2;1;1;1") (by decide)
    (by decide) (by decide) ⟨0, 0⟩
  obtain ⟨s, j, hstart, hstep, hne, hmeasures⟩ := host_firstIteration hboot
  have hrun := Run.cons hstep (.nil _)
  have htwo : system.config.metadata.fileCreationPeriod = createOnlyOneFile := by
    unfold ConfigSubsystem.metadata
    rw [hst]
    show (assignFields .host 0 (fields semicolon (ascii "station;2;1;1;1"))
      LoggerMetadata.static).fileCreationPeriod = _
    decide
  obtain ⟨hinv, -⟩ := noLog_start hstart
  have hcalls : ∀ t ∈ [Taken.mk ⟨s, [], []⟩ quietInput j],
      CallsSucceed .host cFileHandler blankClock cFileHandler t := by
    intro t ht
    rw [List.mem_singleton.mp ht]
    exact host_callsSucceed hinv
  have hall := (all_logged_iff cAppendable (fun _ => noLog_idle) (fun _ => rfl) hstart hrun
    hcalls).mpr fun t ht => by
    rw [List.mem_singleton.mp ht, hmeasures, htwo]
    decide
  exact ⟨s, j, ⟨system, hboot, hstart, hrun⟩, hne, hall _ List.mem_cons_self⟩

/-- With the default configuration the first measurement is lost. -/
theorem all_logged_default_fails : ∃ s j, FirstIteration ⟨none, none⟩ s j ∧ j.records ≠ [] ∧
    ¬ AllLogged cAppendable j := by
  obtain ⟨system, hboot, hmeta, -⟩ := hostFirstBoot ⟨0, 0⟩
  obtain ⟨s, j, hstart, hstep, hne, hmeasures⟩ := host_firstIteration hboot
  obtain ⟨hinv, hlog⟩ := noLog_start hstart
  refine ⟨s, j, ⟨system, hboot, hstart, .cons hstep (.nil _)⟩, hne, fun hall => ?_⟩
  have hlogged := (loopStep_logged cAppendable hinv hstep (host_callsSucceed hinv)).2 hlog
  have hday := hmeasures.mp (hlogged.mp hall)
  rw [hmeta] at hday
  exact hday rfl

end GenLogger.Logger
