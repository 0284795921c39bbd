import GenLogger.Config.Menu
import GenLogger.Config.Period

/-!
# A stored period takes effect

An `S` command should set the period the tick handler reads to the one it stores. `configurationTask`
computes the period only where `_metadataUpdatedFlag` is up, and `storeMetadata` does not raise it.

* `Watched` adds to the system what the last `S` command stored, which is not part of the program.
* The file's calls succeed (`Medium`), and a run starts with a boot, which leaves a file.

Results:
* `configurationTask_fileExists`: on an existing file the period changes only where the flag was up
  before.
* `watchStep_inForce`: one call, with the invariant (`WatchInv`).
* `stored_period_iff`: every stored period is in force at the end of every later call exactly when
  each `S` command stores the period that is already in force (`StoresInForce`).
-/

namespace GenLogger.Config

open GenLogger.Lib GenLogger.Platform

variable {σ ρ : Type}

/-- The system, and (not part of the program) the `generalMeasurementPeriod` the last `S` command
stored. -/
structure Watched (σ ρ : Type) where
  system : System σ ρ
  stored : Option UInt16

/-- The call made now runs the `S` command. -/
def StoresNow (s : System σ ρ) : Prop :=
  s.config.activeState = .basicDeviceConfig ∧ ∃ buff, (dispatched s).1 = .call .pressedKeyS buff

/-- A call of `configurationTask` after a line may have arrived. -/
structure TaskInput where
  line : Option (List Byte)
  ticks : Ticks

section Task

variable (pl : Platform) (fs : FileHandler σ) (clock : RtcInterface ρ)

/-- One call, with what it stores written down. -/
inductive WatchStep : Watched σ ρ → TaskInput → Watched σ ρ → Prop
  | store {w : Watched σ ρ} {i : TaskInput} {s' : System σ ρ}
      (hs : StoresNow (w.system.receive i.line))
      (h : configurationTask pl fs clock i.ticks (w.system.receive i.line) = .ok s') :
      WatchStep w i ⟨s', some w.system.config.metadata.generalMeasurementPeriod⟩
  | other {w : Watched σ ρ} {i : TaskInput} {s' : System σ ρ}
      (hs : ¬ StoresNow (w.system.receive i.line))
      (h : configurationTask pl fs clock i.ticks (w.system.receive i.line) = .ok s') :
      WatchStep w i ⟨s', w.stored⟩

end Task

/-- What was stored last is in force. -/
def InForce (w : Watched σ ρ) : Prop :=
  ∀ g, w.stored = some g → w.system.measurementTaskPeriod.toNat = g.toNat * msInOneMinute

/-- If the call stores a record, its period is the one in force. -/
def StoresInForce (t : Taken (Watched σ ρ) TaskInput) : Prop :=
  StoresNow (t.before.system.receive t.input.line) →
    t.before.system.measurementTaskPeriod.toNat =
      t.before.system.config.metadata.generalMeasurementPeriod.toNat * msInOneMinute

variable {pl : Platform} {fs : FileHandler σ} {clock : RtcInterface ρ} (M : Medium fs)

/-! ## The invariant -/

/-- There is a metadata file and it is closed, so it is not created again. -/
def FileExists (st : InternalStorage σ) : Prop :=
  M.Idle st.fileSystem ∧ ∃ c, M.content st.fileSystem = some c

/-- On an existing file a call of `handler` keeps it, and does not touch the flag. -/
theorem handler_fileExists {sig : TerminalSignal} {buff : Option CStr} {ticks : Ticks}
    {c c' : ConfigSubsystem σ ρ} (hfile : FileExists M c.storage)
    (hinit : c.storage.fileSystemInit = true)
    (h : handler pl fs clock sig buff ticks c = .ok c') :
    FileExists M c'.storage ∧ c'.storage.fileSystemInit = true ∧
      c'.storage.metadataUpdatedFlag = c.storage.metadataUpdatedFlag := by
  obtain ⟨hidle, file, hc⟩ := hfile
  cases handler_cases h with
  | stay _ _ hs _ =>
    rw [hs]
    exact ⟨⟨hidle, file, hc⟩, hinit, rfl⟩
  | move _ _ hs _ =>
    rw [hs]
    exact ⟨⟨hidle, file, hc⟩, hinit, rfl⟩
  | info _ _ ret hret _ =>
    obtain ⟨hi, hcont, hf⟩ := retrieveMetadata_content pl M hidle hc hret
    exact ⟨⟨hi, file, hcont⟩, (retrieveMetadata_cases hret).2.1, hf⟩
  | payload _ _ b _ hp =>
    obtain ⟨-, m, hm⟩ := enterPayload_edits hp
    rw [hm]
    exact ⟨⟨hidle, file, hc⟩, hinit, rfl⟩
  | store hcfg _ hst =>
    obtain ⟨name, ret, -, hstore, -⟩ := storeCommand_ok hst
    obtain ⟨d, rest, hwrite, hi, hcont⟩ :=
      storeMetadata_writes M hinit hidle (metadataArray name c.metadata).bytes
    rw [hwrite] at hstore
    have hst' := congrArg Prod.snd (Except.ok.inj hstore)
    simp only at hst'
    rw [← hst']
    exact ⟨⟨hi, _, hcont⟩, hinit, rfl⟩

/-- On an existing file the period changes only where the flag was up before the call. -/
theorem configurationTask_fileExists {ticks : Ticks} {s s' : System σ ρ}
    (hfile : FileExists M s.config.storage) (hinit : s.config.storage.fileSystemInit = true)
    (h : configurationTask pl fs clock ticks s = .ok s') :
    FileExists M s'.config.storage ∧ s'.config.storage.fileSystemInit = true ∧
      (s'.config.storage.metadataUpdatedFlag = true →
        s.config.storage.metadataUpdatedFlag = true) ∧
      (s.config.storage.metadataUpdatedFlag = false →
        s'.measurementTaskPeriod = s.measurementTaskPeriod) := by
  cases configurationTask_cases h with
  | nothing _ hc hp =>
    rw [hc]
    exact ⟨hfile, hinit, id, fun _ => hp⟩
  | idle _ hup =>
    obtain ⟨hc, hlow, -⟩ := updatePeriod_cases hup
    rw [hc]
    exact ⟨hfile, hinit, nofun, hlow⟩
  | call _ hh hup =>
    obtain ⟨hfile', hinit', hflag⟩ := handler_fileExists M hfile hinit hh
    obtain ⟨hc, hlow, -⟩ := updatePeriod_cases hup
    rw [hc]
    exact ⟨hfile', hinit', nofun, fun hf => hlow (hflag.trans hf)⟩

/-- The invariant of a run: the file exists, and while the flag is up nothing has been stored. -/
structure WatchInv (w : Watched σ ρ) : Prop where
  file : FileExists M w.system.config.storage
  init : w.system.config.storage.fileSystemInit = true
  flag : FlagInv w.system.config
  fresh : w.system.config.storage.metadataUpdatedFlag = true → w.stored = none

/-- A boot leaves a metadata file. -/
theorem main_watchInv {device : σ} {rtc : ρ} {ticks : Ticks} {s : System σ ρ}
    (h : main pl fs clock ticks (powerOn device rtc) = .ok s) : WatchInv M ⟨s, none⟩ := by
  obtain ⟨hfs, -⟩ := main_cases h
  obtain ⟨d, hmount, hi, -⟩ := M.mount device
  rw [initFS_powerOn, hmount] at hfs
  have hret : retrieveMetadata pl fs (mounted fs device) = .ok (true, s.config.storage) := hfs
  have hidle : M.Idle (mounted fs device).fileSystem := by
    unfold mounted
    rw [hmount]
    exact hi
  refine ⟨?_, (retrieveMetadata_cases hret).2.1, (main_period h).1, fun _ => rfl⟩
  cases hcont : M.content (mounted fs device).fileSystem with
  | none =>
    obtain ⟨d', b, hi', hc', hcreate⟩ := retrieveMetadata_creates pl M _ rfl hidle hcont
    have hst := congrArg Prod.snd (Except.ok.inj (hcreate.symm.trans hret))
    simp only at hst
    rw [← hst]
    exact ⟨hi', _, hc'⟩
  | some c =>
    obtain ⟨hi', hc', -⟩ := retrieveMetadata_content pl M hidle hcont hret
    exact ⟨hi', c, hc'⟩

/-! ## One call -/

/-- **One call.** The invariant is kept; and where the stored period was in force before, it is after
the call exactly when a period the call stores is in force already. -/
theorem watchStep_inForce {w w' : Watched σ ρ} {i : TaskInput} (hinv : WatchInv M w)
    (h : WatchStep pl fs clock w i w') :
    WatchInv M w' ∧ (InForce w → (InForce w' ↔ StoresInForce ⟨w, i, w'⟩)) := by
  cases h with
  | @store s' hs h =>
    obtain ⟨hfile, hinit, hmono, hkeep⟩ := configurationTask_fileExists M
      (s := w.system.receive i.line) hinv.file hinv.init h
    have hlow : w.system.config.storage.metadataUpdatedFlag = false := by
      cases hf : w.system.config.storage.metadataUpdatedFlag with
      | false => rfl
      | true => cases (hinv.flag hf).1.symm.trans hs.1
    have hflag := (configurationTask_period (s := w.system.receive i.line) hinv.flag h).1
    refine ⟨⟨hfile, hinit, hflag, ?_⟩, fun _ => ?_⟩
    · intro hf
      exact absurd (hlow.symm.trans (hmono hf)) Bool.false_ne_true
    · have hperiod : s'.measurementTaskPeriod = w.system.measurementTaskPeriod := hkeep hlow
      constructor
      · intro hforce _
        rw [← hperiod]
        exact hforce _ rfl
      · intro hsame g hg
        cases hg
        rw [hperiod]
        exact hsame hs
  | @other s' hs h =>
    obtain ⟨hfile, hinit, hmono, hkeep⟩ := configurationTask_fileExists M
      (s := w.system.receive i.line) hinv.file hinv.init h
    have hflag := (configurationTask_period (s := w.system.receive i.line) hinv.flag h).1
    refine ⟨⟨hfile, hinit, hflag, fun hf => hinv.fresh (hmono hf)⟩, fun hforce => ?_⟩
    constructor
    · intro _ hstores
      exact absurd hstores hs
    · intro _ g hg
      cases hf : w.system.config.storage.metadataUpdatedFlag with
      | true => exact absurd ((hinv.fresh hf).symm.trans hg) nofun
      | false =>
        have hperiod : s'.measurementTaskPeriod = w.system.measurementTaskPeriod := hkeep hf
        rw [hperiod]
        exact hforce g hg

/-! ## Runs -/

/-- **When stored periods take effect.** In a run of calls after a boot, on a file whose calls
succeed, what was stored last is in force at the end of every call exactly when each `S` command
stores the period that is in force already. -/
theorem stored_period_iff (M : Medium fs) {device : σ} {rtc : ρ} {ticks : Ticks} {s : System σ ρ}
    {ts : List (Taken (Watched σ ρ) TaskInput)} {w : Watched σ ρ}
    (hboot : main pl fs clock ticks (powerOn device rtc) = .ok s)
    (h : Run (WatchStep pl fs clock) ⟨s, none⟩ ts w) :
    (∀ t ∈ ts, InForce t.after) ↔ ∀ t ∈ ts, StoresInForce t := by
  have hpres : Preserved (WatchStep pl fs clock) (WatchInv M) :=
    fun _ _ _ hinv hs => (watchStep_inForce M hinv hs).1
  exact h.forall_after_iff hpres (fun t hinv hP hs => (watchStep_inForce M hinv hs).2 hP)
    (main_watchInv M hboot) nofun

/-! ## On the host -/

/-- A key line, from a serial handler without a line. -/
theorem task_key {ticks : Ticks} {s : System σ ρ} {k : TerminalSignal × Byte}
    {config : ConfigSubsystem σ ρ} (hs : s.serial = .idle) (hk : k ∈ keyMap)
    (hh : handler pl fs clock k.1 none ticks s.config = .ok config)
    (hf : config.storage.metadataUpdatedFlag = false) :
    configurationTask pl fs clock ticks (s.receive (some [k.2])) =
      .ok ⟨.idle, config, s.measurementTaskPeriod⟩ := by
  exact configurationTask_call (dispatched_key hs hk) hh hf

/-- A payload line. -/
theorem task_payload {ticks : Ticks} {s : System σ ρ} {l : List Byte} {config : ConfigSubsystem σ ρ}
    (hs : s.serial = .idle) (hne : l ≠ []) (hkey : ∀ k ∈ keyMap, l ≠ [k.2])
    (hh : handler pl fs clock .pressedKeyEnter
      (some ((CStr.ofBytes l).truncate (configBuffSize - 1))) ticks s.config = .ok config)
    (hf : config.storage.metadataUpdatedFlag = false) :
    configurationTask pl fs clock ticks (s.receive (some l)) =
      .ok ⟨.idle, config, s.measurementTaskPeriod⟩ := by
  exact configurationTask_call (dispatched_payload hs hne hkey) hh hf

theorem storesNow_key {s : System σ ρ} {k : TerminalSignal × Byte} (hs : s.serial = .idle)
    (hk : k ∈ keyMap) : StoresNow (s.receive (some [k.2])) ↔
      s.config.activeState = .basicDeviceConfig ∧ k.1 = .pressedKeyS := by
  unfold StoresNow
  rw [dispatched_key hs hk]
  constructor
  · rintro ⟨ha, buff, h⟩
    exact ⟨ha, (Dispatch.call.inj h).1⟩
  · rintro ⟨ha, h⟩
    exact ⟨ha, none, by rw [h]⟩

theorem not_storesNow_payload {s : System σ ρ} {l : List Byte} (hs : s.serial = .idle) (hne : l ≠ [])
    (hkey : ∀ k ∈ keyMap, l ≠ [k.2]) : ¬ StoresNow (s.receive (some l)) := by
  rintro ⟨-, buff, h⟩
  rw [dispatched_payload hs hne hkey] at h
  cases h

/-- A storage component at rest on the host, with the name `station`. -/
structure StationReady (st : InternalStorage CFile) : Prop where
  flag : st.metadataUpdatedFlag = false
  init : st.fileSystemInit = true
  idle : cMedium.Idle st.fileSystem
  name : st.metadata.loggerName.cstr = .ok (CStr.ofBytes (ascii "station"))

/-- A host booted from the file `station;1;1;1;1`. -/
theorem stationBoot : ∃ s, main .host cFileHandler blankClock ⟨0, 0⟩
    (powerOn ⟨some (ascii "station;1;1;1;1"), none⟩ ()) = .ok s ∧ s.serial = .idle ∧
      s.config.activeState = .initState ∧ StationReady s.config.storage ∧
      s.config.storage.metadata.generalMeasurementPeriod = 1 ∧
      s.measurementTaskPeriod.toNat = 60000 := by
  obtain ⟨s, d, b, h, hst, hi, ha, hserial⟩ := hostBoot (c := ascii "station;1;1;1;1") (by decide)
    (by decide) (by decide) ⟨0, 0⟩
  have hg : s.config.storage.metadata.generalMeasurementPeriod = 1 := by
    rw [hst, assignFields_measurement]
    decide
  refine ⟨s, h, hserial, ha, ?_, hg, ?_⟩
  · rw [hst]
    exact ⟨rfl, rfl, hi, putName_cstr _ (CStr.ofBytes (ascii "station"))⟩
  · rw [(main_period h).2.1.1]
    exact congrArg (fun g : UInt16 => g.toNat * msInOneMinute) hg

/-- A step of a host session. -/
abbrev HostStep : Watched CFile Unit → TaskInput → Watched CFile Unit → Prop :=
  WatchStep .host cFileHandler blankClock

/-- The key `C` in the main menu. -/
theorem host_configure {s : System CFile Unit} (g : Option UInt16) (hs : s.serial = .idle)
    (ha : s.config.activeState = .initState) (hready : StationReady s.config.storage) :
    ∃ s', HostStep ⟨s, g⟩ ⟨some (ascii "C"), ⟨0, 0⟩⟩ ⟨s', g⟩ ∧ s'.serial = .idle ∧
      s'.config.activeState = .basicDeviceConfig ∧ s'.config.storage = s.config.storage ∧
      s'.measurementTaskPeriod = s.measurementTaskPeriod := by
  have hk : (TerminalSignal.pressedKeyC, (67 : Byte)) ∈ keyMap := by decide
  obtain ⟨c', hh, ha', hst⟩ := handler_configure .host cFileHandler blankClock ha none ⟨0, 0⟩
  refine ⟨_, .other ?_ (task_key hs hk hh (by rw [hst]; exact hready.flag)), rfl, ha', hst, rfl⟩
  exact fun h => TerminalSignal.noConfusion ((storesNow_key hs hk).mp h).2

/-- The key `M` in the configuration menu. -/
theorem host_promptM {s : System CFile Unit} (g : Option UInt16) (hs : s.serial = .idle)
    (ha : s.config.activeState = .basicDeviceConfig) (hready : StationReady s.config.storage) :
    ∃ s', HostStep ⟨s, g⟩ ⟨some (ascii "M"), ⟨0, 0⟩⟩ ⟨s', g⟩ ∧ s'.serial = .idle ∧
      s'.config.activeState = .basicDeviceConfig ∧ s'.config.previousSignal = .pressedKeyM ∧
      s'.config.storage = s.config.storage ∧
      s'.measurementTaskPeriod = s.measurementTaskPeriod := by
  have hk : (TerminalSignal.pressedKeyM, (77 : Byte)) ∈ keyMap := by decide
  obtain ⟨c', hh, ha', hp', hst⟩ := handler_prompt .host cFileHandler blankClock ha
    (Or.inr (Or.inr rfl)) none ⟨0, 0⟩
  refine ⟨_, .other ?_ (task_key hs hk hh (by rw [hst]; exact hready.flag)), rfl, ha', hp', hst, rfl⟩
  exact fun h => TerminalSignal.noConfusion ((storesNow_key hs hk).mp h).2

/-- The payload `5` after it. -/
theorem host_five {s : System CFile Unit} (g : Option UInt16) (hs : s.serial = .idle)
    (ha : s.config.activeState = .basicDeviceConfig) (hp : s.config.previousSignal = .pressedKeyM)
    (hready : StationReady s.config.storage) :
    ∃ s', HostStep ⟨s, g⟩ ⟨some (ascii "5"), ⟨0, 0⟩⟩ ⟨s', g⟩ ∧ s'.serial = .idle ∧
      s'.config.activeState = .basicDeviceConfig ∧
      s'.config.storage = { s.config.storage with
        metadata := { s.config.storage.metadata with generalMeasurementPeriod := 5 } } ∧
      s'.measurementTaskPeriod = s.measurementTaskPeriod := by
  have hne : ascii "5" ≠ [] := by decide
  have hkey : ∀ k ∈ keyMap, ascii "5" ≠ [k.2] := by decide
  have hh := handler_payload .host cFileHandler blankClock ha
    ((CStr.ofBytes (ascii "5")).truncate (configBuffSize - 1)) ⟨0, 0⟩
  have hpay : enterPayload .host blankClock ((CStr.ofBytes (ascii "5")).truncate (configBuffSize - 1))
      s.config = (s.config.edit fun m => { m with generalMeasurementPeriod := 5 }).print
        "Measurement period changed, input S to save it\r\n" := by
    unfold enterPayload
    rw [hp]
    rfl
  rw [hpay] at hh
  exact ⟨_, .other (not_storesNow_payload hs hne hkey) (task_payload hs hne hkey hh hready.flag), rfl,
    ha, rfl, rfl⟩

/-- The store command, entered as a key. -/
theorem host_store {s : System CFile Unit} (g : Option UInt16) (hs : s.serial = .idle)
    (ha : s.config.activeState = .basicDeviceConfig) (hready : StationReady s.config.storage) :
    ∃ s', HostStep ⟨s, g⟩ ⟨some (ascii "S"), ⟨0, 0⟩⟩
        ⟨s', some s.config.metadata.generalMeasurementPeriod⟩ ∧
      s'.measurementTaskPeriod = s.measurementTaskPeriod := by
  have hk : (TerminalSignal.pressedKeyS, (83 : Byte)) ∈ keyMap := by decide
  obtain ⟨c', d, rest, hcmd, -, hst, -⟩ :=
    storeCommand_stores .host cMedium hready.init hready.idle hready.name
  have hh := (handler_store .host cFileHandler blankClock ha none ⟨0, 0⟩).trans hcmd
  exact ⟨_, .store ((storesNow_key hs hk).mpr ⟨ha, rfl⟩)
    (task_key hs hk hh (by rw [hst]; exact hready.flag)), rfl⟩

/-- The lines `C` and `S` store the period that is in force. -/
theorem stored_period_kept : ∃ ts : List (Taken (Watched CFile Unit) TaskInput),
    ts.map (fun t => t.input.line) = [some (ascii "C"), some (ascii "S")] ∧
      ∀ t ∈ ts, InForce t.after := by
  obtain ⟨s, hboot, hs, ha, hready, hg, hp⟩ := stationBoot
  obtain ⟨s₁, h₁, hs₁, ha₁, hst₁, hp₁⟩ := host_configure none hs ha hready
  have hready₁ : StationReady s₁.config.storage := by rw [hst₁]; exact hready
  obtain ⟨s₂, h₂, hp₂⟩ := host_store none hs₁ ha₁ hready₁
  refine ⟨_, ?_, (stored_period_iff cMedium hboot (.cons h₁ (.cons h₂ (.nil _)))).mpr ?_⟩
  · rfl
  · have hforce : s₁.measurementTaskPeriod.toNat =
        s₁.config.metadata.generalMeasurementPeriod.toNat * msInOneMinute := by
      unfold ConfigSubsystem.metadata
      rw [hp₁, hst₁, hg, hp]
      rfl
    have hquiet : ¬ StoresNow (s.receive (some (ascii "C"))) := fun h =>
      TerminalSignal.noConfusion ((storesNow_key hs (k := (.pressedKeyC, 67)) (by decide)).mp h).2
    simp only [List.forall_mem_cons, List.not_mem_nil, false_imp_iff, implies_true, and_true]
    exact ⟨fun h => absurd h hquiet, fun _ => hforce⟩

/-- The lines `C`, `M`, `5` and `S` store the period `5`, and one minute stays in force. -/
theorem stored_period_fails : ∃ s ts w, main .host cFileHandler blankClock ⟨0, 0⟩
    (powerOn ⟨some (ascii "station;1;1;1;1"), none⟩ ()) = .ok s ∧
      Run HostStep ⟨s, none⟩ ts w ∧ ts.map (fun t => t.input.line) =
        [some (ascii "C"), some (ascii "M"), some (ascii "5"), some (ascii "S")] ∧
      w.stored = some 5 ∧ w.system.measurementTaskPeriod.toNat = 60000 ∧ ¬ InForce w := by
  obtain ⟨s, hboot, hs, ha, hready, hg, hp⟩ := stationBoot
  obtain ⟨s₁, h₁, hs₁, ha₁, hst₁, hp₁⟩ := host_configure none hs ha hready
  have hready₁ : StationReady s₁.config.storage := by rw [hst₁]; exact hready
  obtain ⟨s₂, h₂, hs₂, ha₂, hprev₂, hst₂, hp₂⟩ := host_promptM none hs₁ ha₁ hready₁
  have hready₂ : StationReady s₂.config.storage := by rw [hst₂]; exact hready₁
  obtain ⟨s₃, h₃, hs₃, ha₃, hst₃, hp₃⟩ := host_five none hs₂ ha₂ hprev₂ hready₂
  have hready₃ : StationReady s₃.config.storage := by
    rw [hst₃]
    exact ⟨hready₂.flag, hready₂.init, hready₂.idle, hready₂.name⟩
  obtain ⟨s₄, h₄, hp₄⟩ := host_store none hs₃ ha₃ hready₃
  have hg₃ : s₃.config.metadata.generalMeasurementPeriod = 5 := by
    unfold ConfigSubsystem.metadata
    rw [hst₃]
  have hp₄' : s₄.measurementTaskPeriod.toNat = 60000 := by rw [hp₄, hp₃, hp₂, hp₁, hp]
  refine ⟨s, _, _, hboot, .cons h₁ (.cons h₂ (.cons h₃ (.cons h₄ (.nil _)))), rfl,
    congrArg some hg₃, hp₄', fun h => ?_⟩
  have h5 : s₄.measurementTaskPeriod.toNat = (5 : UInt16).toNat * msInOneMinute :=
    h 5 (congrArg some hg₃)
  rw [hp₄'] at h5
  exact absurd h5 (by decide)

end GenLogger.Config
