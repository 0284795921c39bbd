import GenLogger.Config.Terminal

/-!
# The keys of the configuration menu

Calls of `handler` that are known to return, for the sessions of the other modules:
* `handler_configure`, `handler_back`: into the menu and back;
* `handler_prompt`, `handler_payload`: a prompt and its payload;
* `handler_store`: the store command;
* `handler_info`: the device info screen, where the metadata can be loaded.
-/

namespace GenLogger.Config

open GenLogger.Lib GenLogger.Platform

variable {σ ρ : Type} (pl : Platform) (fs : FileHandler σ) (clock : RtcInterface ρ)

/-- The main menu's `C` opens the configuration menu. -/
theorem handler_configure {c : ConfigSubsystem σ ρ} (h : c.activeState = .initState)
    (buff : Option CStr) (ticks : Ticks) :
    ∃ c', handler pl fs clock .pressedKeyC buff ticks c = .ok c' ∧
      c'.activeState = .basicDeviceConfig ∧ c'.storage = c.storage := by
  obtain ⟨state, prev, avail, delay, ticks, storage, rtc, console⟩ := c
  cases h
  exact ⟨_, rfl, rfl, rfl⟩

/-- The keys that ask for a payload whatever comes with them. -/
theorem handler_prompt {c : ConfigSubsystem σ ρ} (h : c.activeState = .basicDeviceConfig)
    {key : TerminalSignal} (hkey : key = .pressedKeyC ∨ key = .pressedKeyF ∨ key = .pressedKeyM)
    (buff : Option CStr) (ticks : Ticks) :
    ∃ c', handler pl fs clock key buff ticks c = .ok c' ∧
      c'.activeState = .basicDeviceConfig ∧ c'.previousSignal = key ∧ c'.storage = c.storage := by
  obtain ⟨state, prev, avail, delay, ticks, storage, rtc, console⟩ := c
  cases h
  rcases hkey with rfl | rfl | rfl
  · exact ⟨_, rfl, rfl, rfl, rfl⟩
  · exact ⟨_, rfl, rfl, rfl, rfl⟩
  · exact ⟨_, rfl, rfl, rfl, rfl⟩

theorem handler_payload {c : ConfigSubsystem σ ρ} (h : c.activeState = .basicDeviceConfig) (p : CStr)
    (ticks : Ticks) : handler pl fs clock .pressedKeyEnter (some p) ticks c =
      .ok (enterPayload pl clock p c) := by
  obtain ⟨state, prev, avail, delay, ticks, storage, rtc, console⟩ := c
  cases h
  rfl

theorem handler_store {c : ConfigSubsystem σ ρ} (h : c.activeState = .basicDeviceConfig)
    (buff : Option CStr) (ticks : Ticks) :
    handler pl fs clock .pressedKeyS buff ticks c = storeCommand pl fs c := by
  obtain ⟨state, prev, avail, delay, ticks, storage, rtc, console⟩ := c
  cases h
  unfold handler signalDispacher dispatchConfig
  cases storeCommand pl fs
    (⟨.basicDeviceConfig, prev, avail, delay, ticks, storage, rtc, console⟩ : ConfigSubsystem σ ρ) <;>
    rfl

theorem handler_back {c : ConfigSubsystem σ ρ} (h : c.activeState = .basicDeviceConfig)
    (buff : Option CStr) (ticks : Ticks) :
    ∃ c', handler pl fs clock .pressedKeyB buff ticks c = .ok c' ∧ c'.activeState = .initState ∧
      c'.storage = c.storage := by
  obtain ⟨state, prev, avail, delay, ticks, storage, rtc, console⟩ := c
  cases h
  exact ⟨_, rfl, rfl, rfl⟩

/-- The device info screen, where the metadata can be loaded and its name printed. -/
theorem handler_info {c : ConfigSubsystem σ ρ} (h : c.activeState = .initState) (buff : Option CStr)
    (ticks : Ticks) {ret : Bool} {st : InternalStorage σ} {name : CStr}
    (hret : retrieveMetadata pl fs c.storage = .ok (ret, st))
    (hname : st.metadata.loggerName.cstr = .ok name) :
    ∃ c', handler pl fs clock .pressedKeyI buff ticks c = .ok c' ∧ c'.storage = st := by
  have hn : nextState c.activeState .pressedKeyI = some .basicDeviceInfo := by rw [h]; rfl
  rw [handler_move hn]
  unfold signalDispacher dispatchInfo updateLoggerMetadata notify printLoggerMetadata
  simp only [ConfigSubsystem.clearScreen, ConfigSubsystem.print, ConfigSubsystem.metadata]
  rw [hret]
  simp only [bind, Except.bind, hname]
  exact ⟨_, rfl, rfl⟩

section Medium

variable {fs} (M : Medium fs)

/-- The store command writes the record, and reports an error or not. -/
theorem storeCommand_stores {c : ConfigSubsystem σ ρ} (hinit : c.storage.fileSystemInit = true)
    (hidle : M.Idle c.storage.fileSystem) {name : CStr}
    (hname : c.metadata.loggerName.cstr = .ok name) :
    ∃ c' d rest, storeCommand pl fs c = .ok c' ∧ c'.activeState = c.activeState ∧
      c'.storage = { c.storage with fileSystem := d } ∧ M.Idle d ∧
      M.content d = some ((metadataArray name c.metadata).bytes ++ rest) := by
  obtain ⟨d, rest, hstore, hi, hc⟩ :=
    storeMetadata_writes M hinit hidle (metadataArray name c.metadata).bytes
  have hcmd : storeCommand pl fs c = .ok
      ({ c.print "Storing configuratoin in memory..\r\n" with
        storage := { c.storage with fileSystem := d } }.print "Configuration saved!\r\n") := by
    unfold storeCommand notify
    simp only [ConfigSubsystem.metadata, ConfigSubsystem.print] at hname hstore ⊢
    rw [hname]
    simp only [bind, Except.bind, hstore]
    rfl
  exact ⟨_, d, rest, hcmd, rfl, rfl, hi, hc⟩

end Medium

end GenLogger.Config
