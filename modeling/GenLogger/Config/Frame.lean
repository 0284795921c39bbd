import GenLogger.Config.Prompts
import GenLogger.Platform.LittleFs

/-!
# What a call of the terminal changes

`Framed` says what one call of `handler` may change of the metadata record, the metadata file and the
clock: the one item of the remembered prompt, by a payload; the record, where the call enters
`basicDeviceInfo`, which loads it, and the file where it is created there; and the file, by the `S`
command.

* The file is seen through a `FileView`, since a handler reads it to load the record.
* `Rejects` is a payload that fails the check of its prompt; then nothing is edited.
* What counts as entering is a parameter. The signal `ENTRY` loads the record in `basicDeviceInfo`
  too, where no state is entered: it comes with an empty line.

Results:
* `enterPayload_frame`: a payload edits its item, and nothing where it is rejected.
* `retrieveMetadata_file`: loading leaves the file alone, or creates it where it does not open.
* `handler_framed`: every call that returns, a call that dispatches `ENTRY` of `basicDeviceInfo` being
  one that enters it; `handler_entry_unframed`: not so where only a change of state is entering.
-/

namespace GenLogger.Config

open GenLogger.Lib GenLogger.Platform

variable {σ ρ : Type}

/-- The edges of the menu. -/
inductive Edge : TerminalState → TerminalState → Prop
  | info : Edge .initState .basicDeviceInfo
  | config : Edge .initState .basicDeviceConfig
  | stream : Edge .initState .streamADC
  | leaveInfo : Edge .basicDeviceInfo .initState
  | leaveConfig : Edge .basicDeviceConfig .initState
  | leaveStream : Edge .streamADC .initState

/-- The item of the remembered prompt is edited: `pressedKey_Enter`, with a payload, in
`basicDeviceConfig`. -/
def Edits (c : ConfigSubsystem σ ρ) (k : KeyPress) (i : Item) : Prop :=
  c.activeState = .basicDeviceConfig ∧ k.sig = .pressedKeyEnter ∧ k.buff ≠ none ∧
    c.previousSignal = i.key

/-- The format or range check of a prompt rejects the payload. -/
def Rejects (pl : Platform) (key : TerminalSignal) (b : CStr) : Prop :=
  (key = Item.clock.key ∧ parseTimeAndDate (some b) = none) ∨
    (key = Item.fileCreation.key ∧ ¬ (b.first = 49 ∨ b.first = 50)) ∨
    ((key = Item.fileTransmission.key ∨ key = Item.measurement.key) ∧ periodOf pl b = none)

/-- The records agree in all but the fields of the items `E`. -/
structure SameBut (E : Item → Prop) (m m' : LoggerMetadata) : Prop where
  name : ¬ E .name → m'.loggerName = m.loggerName
  fileCreation : ¬ E .fileCreation → m'.fileCreationPeriod = m.fileCreationPeriod
  fileTransmission : ¬ E .fileTransmission → m'.fileTransmissionPeriod = m.fileTransmissionPeriod
  measurement : ¬ E .measurement → m'.generalMeasurementPeriod = m.generalMeasurementPeriod
  restRequest : m'.restRequestPeriod = m.restRequestPeriod

section Call

variable (pl : Platform) {fs : FileHandler σ} (V : FileView fs)

/-- What a call may change, `enters` saying whether it enters `basicDeviceInfo`. -/
structure Framed (enters : Prop) (c : ConfigSubsystem σ ρ) (k : KeyPress) (c' : ConfigSubsystem σ ρ) :
    Prop where
  record : ¬ enters → SameBut (Edits c k) c.metadata c'.metadata
  loaded : enters → ∃ ret st, retrieveMetadata pl fs c.storage = .ok (ret, st) ∧
    c'.metadata = st.metadata
  clock : ¬ Edits c k .clock → c'.rtc = c.rtc
  file : ¬ (c.activeState = .basicDeviceConfig ∧ k.sig = .pressedKeyS) →
    ¬ (enters ∧ (fs.openFile 0 c.storage.fileSystem).1 = false) →
    V.content c'.storage.fileSystem = V.content c.storage.fileSystem
  created : enters → (fs.openFile 0 c.storage.fileSystem).1 = false → ∃ ret st d,
    V.content d = V.content c.storage.fileSystem ∧
      createMetadata pl fs { c.storage with fileSystem := d } = .ok (ret, st) ∧
      c'.storage.fileSystem = st.fileSystem
  rejected : c.activeState = .basicDeviceConfig → k.sig = .pressedKeyEnter → ∀ b, k.buff = some b →
    Rejects pl c.previousSignal b →
      c'.metadata = c.metadata ∧ c'.rtc = c.rtc ∧ c'.storage.fileSystem = c.storage.fileSystem
  edge : c'.activeState = c.activeState ∨ Edge c.activeState c'.activeState

end Call

/-- The call dispatches `ENTRY` of `basicDeviceInfo`: the key that leads there, or the signal itself. -/
def EntersInfo (c : ConfigSubsystem σ ρ) (k : KeyPress) : Prop :=
  c.activeState = .initState ∧ k.sig = .pressedKeyI ∨ c.activeState = .basicDeviceInfo ∧ k.sig = .entry

variable {pl : Platform} {fs : FileHandler σ} {clock : RtcInterface ρ}

theorem SameBut.refl {E : Item → Prop} (m : LoggerMetadata) : SameBut E m m :=
  ⟨fun _ => rfl, fun _ => rfl, fun _ => rfl, fun _ => rfl, rfl⟩

theorem nextState_edge {s s' : TerminalState} {sig : TerminalSignal} (h : nextState s sig = some s') :
    Edge s s' := by
  unfold nextState at h
  split at h <;> cases h <;> constructor

/-! ## Payloads -/

theorem enterTime_frame (clock : RtcInterface ρ) (b : CStr) (c : ConfigSubsystem σ ρ) :
    (enterTime clock b c).metadata = c.metadata ∧
      (parseTimeAndDate (some b) = none → (enterTime clock b c).rtc = c.rtc) := by
  unfold enterTime
  cases parseTimeAndDate (some b) with
  | none => exact ⟨rfl, fun _ => rfl⟩
  | some t =>
    dsimp only
    split <;> exact ⟨rfl, nofun⟩

theorem enterPeriod_frame (pl : Platform) {E : Item → Prop} (set : UInt16 → LoggerMetadata → LoggerMetadata)
    (hset : ∀ v m, SameBut E m (set v m)) (b : CStr) (done : String) (c : ConfigSubsystem σ ρ) :
    SameBut E c.metadata (enterPeriod pl b set done c).metadata ∧
      (enterPeriod pl b set done c).rtc = c.rtc ∧
      (periodOf pl b = none → (enterPeriod pl b set done c).metadata = c.metadata) := by
  obtain ⟨hrtc, hm⟩ := enterPeriod_metadata pl b set done c
  rw [hm]
  refine ⟨?_, hrtc, fun h => by rw [h]⟩
  cases periodOf pl b with
  | none => exact .refl _
  | some v => exact hset v _

/-- A period is rejected for one reason. -/
theorem rejects_period {key : TerminalSignal} (hkey : key = .pressedKeyC ∨ key = .pressedKeyM) {b : CStr}
    (h : Rejects pl key b) : periodOf pl b = none := by
  rcases hkey with rfl | rfl <;> simpa [Rejects, Item.key] using h

/-- **A payload** edits its item, and nothing where it is rejected. -/
theorem enterPayload_frame (pl : Platform) (clock : RtcInterface ρ) (b : CStr)
    (c : ConfigSubsystem σ ρ) :
    SameBut (fun i => c.previousSignal = i.key) c.metadata (enterPayload pl clock b c).metadata ∧
      (c.previousSignal ≠ Item.clock.key → (enterPayload pl clock b c).rtc = c.rtc) ∧
      (Rejects pl c.previousSignal b → (enterPayload pl clock b c).metadata = c.metadata ∧
        (enterPayload pl clock b c).rtc = c.rtc) := by
  unfold enterPayload
  split
  case h_1 hprev =>
    refine ⟨⟨fun h => absurd hprev h, fun _ => rfl, fun _ => rfl, fun _ => rfl, rfl⟩, fun _ => rfl, ?_⟩
    simp [Rejects, hprev, Item.key]
  case h_2 hprev =>
    obtain ⟨hm, hrtc⟩ := enterTime_frame clock b c
    rw [hm]
    refine ⟨.refl _, fun h => absurd hprev h, ?_⟩
    simpa [Rejects, hprev, Item.key] using hrtc
  case h_3 hprev =>
    obtain ⟨hrtc, hm⟩ := enterFile_metadata b c
    rw [hm]
    refine ⟨?_, fun _ => hrtc, ?_⟩
    · split
      · exact ⟨fun _ => rfl, fun h => absurd hprev h, fun _ => rfl, fun _ => rfl, rfl⟩
      · exact .refl _
    · rintro (⟨h, -⟩ | ⟨-, h⟩ | ⟨h, -⟩)
      · simp [hprev, Item.key] at h
      · exact ⟨if_neg h, hrtc⟩
      · simp [hprev, Item.key] at h
  case h_4 hprev =>
    obtain ⟨hm, hrtc, hkept⟩ := enterPeriod_frame pl (E := fun i => c.previousSignal = i.key)
      (fun v m => { m with generalMeasurementPeriod := v })
      (fun v m => ⟨fun _ => rfl, fun _ => rfl, fun _ => rfl, fun h => absurd hprev h, rfl⟩) b
      "Measurement period changed, input S to save it\r\n" c
    exact ⟨hm, fun _ => hrtc, fun h => ⟨hkept (rejects_period (Or.inr hprev) h), hrtc⟩⟩
  case h_5 hprev =>
    obtain ⟨hm, hrtc, hkept⟩ := enterPeriod_frame pl (E := fun i => c.previousSignal = i.key)
      (fun v m => { m with fileTransmissionPeriod := v })
      (fun v m => ⟨fun _ => rfl, fun _ => rfl, fun h => absurd hprev h, fun _ => rfl, rfl⟩) b
      "File transmission period changed, input S to save it\r\n" c
    exact ⟨hm, fun _ => hrtc, fun h => ⟨hkept (rejects_period (Or.inl hprev) h), hrtc⟩⟩
  case h_6 hN hT hF hM hC =>
    exact ⟨.refl _, fun _ => rfl, fun _ => ⟨rfl, rfl⟩⟩

/-! ## The file -/

variable {V : FileView fs}

/-- Loading leaves the file alone, or creates it where it does not open. -/
theorem retrieveMetadata_file {st st' : InternalStorage σ} {ret : Bool} (hidle : V.Idle st.fileSystem)
    (h : retrieveMetadata pl fs st = .ok (ret, st')) :
    ((fs.openFile 0 st.fileSystem).1 = true →
      V.content st'.fileSystem = V.content st.fileSystem) ∧
    ((fs.openFile 0 st.fileSystem).1 = false → ∃ d, V.content d = V.content st.fileSystem ∧
      createMetadata pl fs { st with fileSystem := d } = .ok (ret, st')) := by
  constructor
  · intro hopen
    rw [(retrieveMetadata_device hopen h).1]
    exact V.reading _ hidle hopen _
  · intro hopen
    rw [retrieveMetadata_created pl st (retrieveMetadata_cases h).1 hopen] at h
    exact ⟨_, V.unopened _ hidle hopen, h⟩

/-! ## Every call -/

/-- A call that enters `basicDeviceInfo` loads the record. -/
theorem handler_enters {c c' : ConfigSubsystem σ ρ} {k : KeyPress} (henters : EntersInfo c k)
    (h : Pressed pl fs clock c k c') :
    ∃ ret, retrieveMetadata pl fs c.storage = .ok (ret, c'.storage) ∧ c'.rtc = c.rtc := by
  rcases henters with ⟨ha, hk⟩ | ⟨ha, hk⟩
  · have hn : nextState c.activeState k.sig = some .basicDeviceInfo := by
      rw [ha, hk]
      rfl
    obtain ⟨e, hd⟩ := handler_moved hn h
    obtain ⟨ret, hret, -, hr⟩ := dispatchInfo_entry hd
    exact ⟨ret, hret, hr⟩
  · have hn : nextState c.activeState k.sig = none := by
      rw [ha, hk]
      rfl
    obtain ⟨e, hd⟩ := handler_stay hn h
    rw [ha, hk] at hd
    obtain ⟨ret, hret, -, hr⟩ := dispatchInfo_entry hd
    exact ⟨ret, hret, hr⟩

theorem handler_edge {c c' : ConfigSubsystem σ ρ} {k : KeyPress} (h : Pressed pl fs clock c k c') :
    c'.activeState = c.activeState ∨ Edge c.activeState c'.activeState := by
  have hactive := handler_activeState h
  cases hn : nextState c.activeState k.sig with
  | none => exact Or.inl (by rw [hactive, hn]; rfl)
  | some s =>
    have hs : c'.activeState = s := by rw [hactive, hn]; rfl
    exact Or.inr (hs ▸ nextState_edge hn)

/-- A call that leaves the storage component and the clock alone. -/
theorem framed_same {enters : Prop} (hno : ¬ enters) {c c' : ConfigSubsystem σ ρ} {k : KeyPress}
    (hs : c'.storage = c.storage) (hr : c'.rtc = c.rtc)
    (hedge : c'.activeState = c.activeState ∨ Edge c.activeState c'.activeState) :
    Framed pl V enters c k c' := by
  have hm : c'.metadata = c.metadata := congrArg InternalStorage.metadata hs
  have hd : c'.storage.fileSystem = c.storage.fileSystem := congrArg InternalStorage.fileSystem hs
  exact
    { record := fun _ => hm ▸ .refl _
      loaded := fun h => absurd h hno
      clock := fun _ => hr
      file := fun _ _ => congrArg V.content hd
      created := fun h => absurd h hno
      rejected := fun _ _ _ _ _ => ⟨hm, hr, hd⟩
      edge := hedge }

/-- **One call of the terminal** changes what its command names, and nothing else. -/
theorem handler_framed {c c' : ConfigSubsystem σ ρ} {k : KeyPress} (hidle : V.Idle c.storage.fileSystem)
    (h : Pressed pl fs clock c k c') : Framed pl V (EntersInfo c k) c k c' := by
  have hedge := handler_edge h
  by_cases henters : EntersInfo c k
  · obtain ⟨ret, hret, hr⟩ := handler_enters henters h
    obtain ⟨hloads, hcreates⟩ := retrieveMetadata_file hidle hret
    have hconfig : c.activeState ≠ .basicDeviceConfig := by
      rcases henters with ⟨ha, -⟩ | ⟨ha, -⟩ <;> rw [ha] <;> nofun
    exact
      { record := fun hno => absurd henters hno
        loaded := fun _ => ⟨ret, _, hret, rfl⟩
        clock := fun _ => hr
        file := fun _ hopens => hloads (eq_true_of_ne_false fun hfails => hopens ⟨henters, hfails⟩)
        created := fun _ hfails => by
          obtain ⟨d, hd, hcreate⟩ := hcreates hfails
          exact ⟨ret, _, d, hd, hcreate, rfl⟩
        rejected := fun ha => absurd ha hconfig
        edge := hedge }
  · cases handler_cases h with
    | stay hn ha hs hr => exact framed_same henters hs hr hedge
    | move hn hi hs hr => exact framed_same henters hs hr hedge
    | info hc => exact absurd hc henters
    | payload ha hk b hb hc' =>
      obtain ⟨-, m, hstorage⟩ := enterPayload_edits hc'
      obtain ⟨hrecord, hclock, hrejected⟩ := enterPayload_frame pl clock b c
      rw [← hc'] at hrecord hclock hrejected
      have hedits (i : Item) : Edits c k i ↔ c.previousSignal = i.key :=
        ⟨fun h => h.2.2.2, fun h => ⟨ha, hk, by rw [hb]; nofun, h⟩⟩
      have hd : c'.storage.fileSystem = c.storage.fileSystem := by rw [hstorage]
      exact
        { record := fun _ => by
            rw [show Edits c k = fun i => c.previousSignal = i.key from funext fun i => propext (hedits i)]
            exact hrecord
          loaded := fun h => absurd h henters
          clock := fun hno => hclock (mt (hedits .clock).mpr hno)
          file := fun _ _ => congrArg V.content hd
          created := fun h => absurd h henters
          rejected := fun _ _ b' hb' hrejects => by
            obtain rfl : b = b' := Option.some.inj (hb.symm.trans hb')
            obtain ⟨hm, hr⟩ := hrejected hrejects
            exact ⟨hm, hr, hd⟩
          edge := hedge }
    | store ha hk hstore =>
      obtain ⟨name, ret, -, hstored, -, hr, -⟩ := storeCommand_ok hstore
      obtain ⟨d, hd⟩ := storeMetadata_storage hstored
      have hm : c'.metadata = c.metadata := by
        unfold ConfigSubsystem.metadata
        rw [hd]
      exact
        { record := fun _ => hm ▸ .refl _
          loaded := fun h => absurd h henters
          clock := fun _ => hr
          file := fun hno => absurd ⟨ha, hk⟩ hno
          created := fun h => absurd h henters
          rejected := fun _ henter => by rw [hk] at henter; cases henter
          edge := hedge }

/-! ## On the host -/

/-- A host whose file has other values than the record. -/
def staleHost (state : TerminalState) : ConfigSubsystem CFile Unit where
  activeState := state
  previousSignal := .pressedKeyF
  availableSignal := .entry
  flagStreamDelay := false
  ticks := 0
  storage := ⟨LoggerMetadata.static, false, CBuf.zero _, true, ⟨some (ascii "station;1;1;1;1"), none⟩⟩
  rtc := ()
  console := []

/-- A payload for the prompt `F`. -/
theorem handler_framed_payload : ∃ c', Pressed .host cFileHandler blankClock
      (staleHost .basicDeviceConfig) ⟨.pressedKeyEnter, some (CStr.ofBytes (ascii "1")), ⟨0, 0⟩⟩ c' ∧
    c'.metadata = { LoggerMetadata.static with fileCreationPeriod := 49 } ∧
    Framed .host cFileView
      (EntersInfo (staleHost .basicDeviceConfig)
        ⟨.pressedKeyEnter, some (CStr.ofBytes (ascii "1")), ⟨0, 0⟩⟩)
      (staleHost .basicDeviceConfig) ⟨.pressedKeyEnter, some (CStr.ofBytes (ascii "1")), ⟨0, 0⟩⟩ c' :=
  ⟨_, rfl, rfl, handler_framed trivial rfl⟩

/-- The signal `ENTRY` in `basicDeviceInfo` loads the record, and the state was not entered. -/
theorem handler_entry_unframed : ∃ c', Pressed .host cFileHandler blankClock
      (staleHost .basicDeviceInfo) ⟨.entry, none, ⟨0, 0⟩⟩ c' ∧
    ¬ Framed .host cFileView ((staleHost .basicDeviceInfo).activeState ≠ .basicDeviceInfo ∧
        c'.activeState = .basicDeviceInfo)
      (staleHost .basicDeviceInfo) ⟨.entry, none, ⟨0, 0⟩⟩ c' := by
  have hrun : (handler .host cFileHandler blankClock .entry none ⟨0, 0⟩
      (staleHost .basicDeviceInfo)).toOption.map (fun c => c.metadata.fileCreationPeriod) = some 1 := by
    decide +kernel
  cases hc : handler .host cFileHandler blankClock .entry none ⟨0, 0⟩ (staleHost .basicDeviceInfo) with
  | error e =>
    rw [hc] at hrun
    cases hrun
  | ok c' =>
    rw [hc] at hrun
    refine ⟨c', hc, fun hframed => ?_⟩
    have hsame := (hframed.record fun henters => henters.1 rfl).fileCreation fun hedits => by
      cases hedits.1
    have hone : c'.metadata.fileCreationPeriod = 1 := Option.some.inj hrun
    rw [hone] at hsame
    exact absurd hsame (by decide)

end GenLogger.Config
