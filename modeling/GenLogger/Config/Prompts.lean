import GenLogger.Config.Menu
import GenLogger.Config.Task

/-!
# Prompts and payloads

A payload of the configuration menu edits the item `_previousSignal` names. Nothing resets that member
when the menu is left, so where a visit begins without a prompt a payload edits what an earlier visit
was asked for.

* `Visit` is the terminal with its history, which is not part of the program: the last prompt key
  pressed since the menu was entered (`asked`), and the last prompt given in any visit (`pending`).
* The clock is watched through `counted`, which counts the calls of the setters.
* `TakesEffect` is a payload that the item takes, and that asks for something else than is there.

Results:
* `edited_iff`: what a payload edits.
* `visit_pending`: `_previousSignal` is the last prompt, of whatever visit.
* `payload_prompted_iff`: over every run from `init` a payload edits only the item whose key was
  pressed last in the visit, exactly when each payload that takes effect comes where the last key
  pressed in the visit is the one whose prompt is pending.
* `asked_of_keys`: where no `N` or `T` comes with a payload, as `configurationTask` calls the
  terminal, that only asks for some prompt key in the visit.
-/

namespace GenLogger.Config

open GenLogger.Lib GenLogger.Platform

variable {σ ρ : Type}

/-- What a payload can edit. -/
inductive Item where
  | name
  | clock
  | fileCreation
  | fileTransmission
  | measurement
  deriving Repr, DecidableEq

/-- The prompt key of an item. -/
def Item.key : Item → TerminalSignal
  | .name => .pressedKeyN
  | .clock => .pressedKeyT
  | .fileCreation => .pressedKeyF
  | .fileTransmission => .pressedKeyC
  | .measurement => .pressedKeyM

/-- The keys of the items. -/
def itemKeys : List TerminalSignal :=
  [.pressedKeyN, .pressedKeyT, .pressedKeyF, .pressedKeyC, .pressedKeyM]

/-- A clock that counts the calls of its setters. -/
def counted (clock : RtcInterface ρ) : RtcInterface (ρ × Nat) where
  setTime h m s r := ((clock.setTime h m s r.1).1, (clock.setTime h m s r.1).2, r.2 + 1)
  setDate d m y r := ((clock.setDate d m y r.1).1, (clock.setDate d m y r.1).2, r.2 + 1)
  getTime r := clock.getTime r.1
  getDate r := clock.getDate r.1

/-- The terminal, and (not part of the program) what was asked of the user. -/
structure Visit (σ ρ : Type) where
  config : ConfigSubsystem σ (ρ × Nat)
  /-- The last prompt key pressed since the machine entered `basicDeviceConfig`. -/
  asked : Option TerminalSignal
  /-- The key of the last prompt given in any visit. -/
  pending : TerminalSignal

/-- `init(initState)`. -/
def Visit.start (c : ConfigSubsystem σ (ρ × Nat)) : Visit σ ρ :=
  ⟨init .initState c, none, c.previousSignal⟩

/-- The history after a call of `handler` that leaves `c'`. -/
def Visit.pressed (v : Visit σ ρ) (k : KeyPress) (c' : ConfigSubsystem σ (ρ × Nat)) : Visit σ ρ :=
  if v.config.activeState = .basicDeviceConfig then
    ⟨c', if k.sig ∈ itemKeys then some k.sig else v.asked,
      if prompts k.sig k.buff then k.sig else v.pending⟩
  else ⟨c', none, v.pending⟩

/-- A call of `handler` that returns. -/
def VisitStep (pl : Platform) (fs : FileHandler σ) (clock : RtcInterface ρ) (v : Visit σ ρ)
    (k : KeyPress) (v' : Visit σ ρ) : Prop :=
  ∃ c', Pressed pl fs (counted clock) v.config k c' ∧ v' = v.pressed k c'

variable {pl : Platform} {fs : FileHandler σ} {clock : RtcInterface ρ}

/-! ## What a payload edits -/

/-- The item differs after the call; of the clock, a setter was called. -/
def Edited (i : Item) (c c' : ConfigSubsystem σ (ρ × Nat)) : Prop :=
  match i with
  | .name => c'.metadata.loggerName ≠ c.metadata.loggerName
  | .clock => c'.rtc.2 ≠ c.rtc.2
  | .fileCreation => c'.metadata.fileCreationPeriod ≠ c.metadata.fileCreationPeriod
  | .fileTransmission => c'.metadata.fileTransmissionPeriod ≠ c.metadata.fileTransmissionPeriod
  | .measurement => c'.metadata.generalMeasurementPeriod ≠ c.metadata.generalMeasurementPeriod

/-- The value a period payload is read as. -/
def periodOf (pl : Platform) (b : CStr) : Option UInt16 :=
  (fromChars (b.bytes.take (pl.sizeofPtr - 1))).map UInt16.ofInt

/-- The payload is one the item takes, and asks for something else than the record has. -/
def TakesEffect (pl : Platform) (i : Item) (b : CStr) (m : LoggerMetadata) : Prop :=
  match i with
  | .name => m.loggerName.strncpy b ≠ m.loggerName
  | .clock => parseTimeAndDate (some b) ≠ none
  | .fileCreation => (b.first = 49 ∨ b.first = 50) ∧ b.first ≠ m.fileCreationPeriod
  | .fileTransmission => ∃ v, periodOf pl b = some v ∧ v ≠ m.fileTransmissionPeriod
  | .measurement => ∃ v, periodOf pl b = some v ∧ v ≠ m.generalMeasurementPeriod

/-- A period payload sets the value it is read as, or nothing. -/
theorem enterPeriod_metadata (pl : Platform) (b : CStr) (set : UInt16 → LoggerMetadata → LoggerMetadata)
    (done : String) (c : ConfigSubsystem σ ρ) :
    (enterPeriod pl b set done c).rtc = c.rtc ∧ (enterPeriod pl b set done c).metadata =
      match periodOf pl b with
      | none => c.metadata
      | some v => set v c.metadata := by
  unfold enterPeriod periodOf
  cases fromChars (b.bytes.take (pl.sizeofPtr - 1)) <;> exact ⟨rfl, rfl⟩

theorem enterFile_metadata (b : CStr) (c : ConfigSubsystem σ ρ) :
    (enterFile b c).rtc = c.rtc ∧ (enterFile b c).metadata =
      if b.first = 49 ∨ b.first = 50 then { c.metadata with fileCreationPeriod := b.first }
      else c.metadata := by
  unfold enterFile
  by_cases h : b.first = 49 ∨ b.first = 50
  · rw [if_neg (by rcases h with h | h <;> simp [h]), if_pos h]
    exact ⟨rfl, rfl⟩
  · rw [not_or] at h
    rw [if_pos ⟨Ne.symm h.1, Ne.symm h.2⟩, if_neg (not_or.mpr h)]
    exact ⟨rfl, rfl⟩

/-- A time calls a setter, one or two. -/
theorem enterTime_metadata (clock : RtcInterface ρ) (b : CStr) (c : ConfigSubsystem σ (ρ × Nat)) :
    (enterTime (counted clock) b c).metadata = c.metadata ∧
      ((enterTime (counted clock) b c).rtc.2 ≠ c.rtc.2 ↔ parseTimeAndDate (some b) ≠ none) := by
  unfold enterTime
  cases parseTimeAndDate (some b) with
  | none => exact ⟨rfl, by simp [ConfigSubsystem.print]⟩
  | some t =>
    dsimp only
    have hcall : c.rtc.2 + 1 + 1 ≠ c.rtc.2 := by omega
    split
    · exact ⟨rfl, by simpa [counted, ConfigSubsystem.print] using hcall⟩
    · exact ⟨rfl, by simp [counted, ConfigSubsystem.print]⟩

/-- **A payload** edits the item of `_previousSignal`, where it takes effect, and nothing else. -/
theorem edited_iff (i : Item) (b : CStr) (c : ConfigSubsystem σ (ρ × Nat)) :
    Edited i c (enterPayload pl (counted clock) b c) ↔
      c.previousSignal = i.key ∧ TakesEffect pl i b c.metadata := by
  unfold enterPayload
  split
  case h_1 hprev =>
    cases i <;> simp [Edited, TakesEffect, Item.key, hprev, enterName, ConfigSubsystem.metadata,
      ConfigSubsystem.edit, ConfigSubsystem.print]
  case h_2 hprev =>
    obtain ⟨hm, hrtc⟩ := enterTime_metadata clock b c
    cases i <;> simp [Edited, Item.key, hprev, hm]
    simpa [TakesEffect] using hrtc
  case h_3 hprev =>
    obtain ⟨hrtc, hm⟩ := enterFile_metadata b c
    by_cases h : b.first = 49 ∨ b.first = 50
    · rw [if_pos h] at hm
      cases i <;> simp [Edited, TakesEffect, Item.key, hprev, hrtc, hm, h]
    · rw [if_neg h] at hm
      cases i <;> simp [Edited, TakesEffect, Item.key, hprev, hrtc, hm, h]
  case h_4 hprev =>
    obtain ⟨hrtc, hm⟩ := enterPeriod_metadata pl b
      (fun v m => { m with generalMeasurementPeriod := v })
      "Measurement period changed, input S to save it\r\n" c
    cases hv : periodOf pl b <;> rw [hv] at hm <;> cases i <;>
      simp [Edited, TakesEffect, Item.key, hprev, hrtc, hm, hv]
  case h_5 hprev =>
    obtain ⟨hrtc, hm⟩ := enterPeriod_metadata pl b
      (fun v m => { m with fileTransmissionPeriod := v })
      "File transmission period changed, input S to save it\r\n" c
    cases hv : periodOf pl b <;> rw [hv] at hm <;> cases i <;>
      simp [Edited, TakesEffect, Item.key, hprev, hrtc, hm, hv]
  case h_6 hN hT hF hM hC =>
    have hno : c.previousSignal ≠ i.key := by
      cases i <;> assumption
    cases i <;> simp [Edited, hno]

/-- No payload edits the one field without a key. -/
theorem restRequestPeriod_kept (b : CStr) (c : ConfigSubsystem σ (ρ × Nat)) :
    (enterPayload pl (counted clock) b c).metadata.restRequestPeriod =
      c.metadata.restRequestPeriod := by
  unfold enterPayload
  split
  · rfl
  · rw [(enterTime_metadata clock b c).1]
  · rw [(enterFile_metadata b c).2]
    split <;> rfl
  · rw [(enterPeriod_metadata pl b _ _ c).2]
    split <;> rfl
  · rw [(enterPeriod_metadata pl b _ _ c).2]
    split <;> rfl
  · rfl

/-! ## Runs -/

/-- The payload of a call in the configuration menu. -/
def Payload (t : Taken (Visit σ ρ) KeyPress) (b : CStr) : Prop :=
  t.before.config.activeState = .basicDeviceConfig ∧ t.input.sig = .pressedKeyEnter ∧
    t.input.buff = some b

/-- A payload edits only the item whose key was pressed last in the visit. -/
def EditsAsked (t : Taken (Visit σ ρ) KeyPress) : Prop :=
  ∀ b, Payload t b →
    t.after.config.metadata.restRequestPeriod = t.before.config.metadata.restRequestPeriod ∧
      ∀ i, Edited i t.before.config t.after.config → t.before.asked = some i.key

/-- A payload that takes effect comes where the last key pressed in the visit is the one whose prompt
is pending. -/
def AskedInVisit (pl : Platform) (t : Taken (Visit σ ρ) KeyPress) : Prop :=
  ∀ b, Payload t b → ∀ i, t.before.pending = i.key →
    TakesEffect pl i b t.before.config.metadata → t.before.asked = some t.before.pending

/-- `_previousSignal` is the key of the last prompt, of whatever visit. -/
theorem visit_pending :
    Preserved (VisitStep pl fs clock) fun v : Visit σ ρ => v.config.previousSignal = v.pending := by
  rintro v k v' hinv ⟨c', hpress, rfl⟩
  obtain ⟨-, hprev⟩ := handler_signals hpress
  unfold Visit.pressed
  by_cases ha : v.config.activeState = .basicDeviceConfig
  · simp only [ha, true_and] at hprev
    rw [if_pos ha]
    simp only [hprev, hinv]
  · simp only [ha, false_and, if_false] at hprev
    rw [if_neg ha]
    simp only [hprev, hinv]

/-- **One payload.** -/
theorem editsAsked_iff {t : Taken (Visit σ ρ) KeyPress}
    (hinv : t.before.config.previousSignal = t.before.pending)
    (h : VisitStep pl fs clock t.before t.input t.after) : EditsAsked t ↔ AskedInVisit pl t := by
  obtain ⟨c', hpress, hafter⟩ := h
  have hc' : t.after.config = c' := by
    rw [hafter]
    unfold Visit.pressed
    split <;> rfl
  refine forall_congr' fun b => forall_congr' fun ⟨ha, hsig, hbuff⟩ => ?_
  have hpay : c' = enterPayload pl (counted clock) b t.before.config := by
    unfold Pressed at hpress
    rw [hsig, hbuff] at hpress
    have := handler_payload pl fs (counted clock) ha b t.input.ticks
    rw [hpress] at this
    exact Except.ok.inj this
  rw [hc', hpay]
  constructor
  · rintro ⟨-, hedit⟩ i hi heff
    rw [hi]
    exact hedit i ((edited_iff i b _).mpr ⟨hinv.trans hi, heff⟩)
  · intro hasked
    refine ⟨restRequestPeriod_kept b _, fun i hedit => ?_⟩
    obtain ⟨hi, heff⟩ := (edited_iff i b _).mp hedit
    rw [hinv] at hi
    rw [← hi]
    exact hasked i hi heff

/-- **When a payload edits what was just prompted.** Over every run of `handler` calls from `init`
every payload edits only the item whose prompt key was pressed last since the menu was entered, exactly
when every payload that takes effect comes where that key is the one whose prompt is pending. -/
theorem payload_prompted_iff {c : ConfigSubsystem σ (ρ × Nat)}
    {ts : List (Taken (Visit σ ρ) KeyPress)} {v : Visit σ ρ}
    (h : Run (VisitStep pl fs clock) (.start c) ts v) :
    (∀ t ∈ ts, EditsAsked t) ↔ ∀ t ∈ ts, AskedInVisit pl t :=
  h.forall_iff visit_pending (fun _ hinv hs => editsAsked_iff hinv hs) rfl

/-- `N` and `T` come without a payload. -/
def KeysAlone (t : Taken (Visit σ ρ) KeyPress) : Prop :=
  t.input.sig = .pressedKeyN ∨ t.input.sig = .pressedKeyT → t.input.buff = none

/-- A payload that takes effect comes after some prompt key of the visit. -/
def PromptedInVisit (pl : Platform) (t : Taken (Visit σ ρ) KeyPress) : Prop :=
  ∀ b, Payload t b → ∀ i, t.before.pending = i.key →
    TakesEffect pl i b t.before.config.metadata → t.before.asked ≠ none

/-- A key that comes alone gives its prompt. -/
theorem prompts_of_alone {k : KeyPress}
    (h : k.sig = .pressedKeyN ∨ k.sig = .pressedKeyT → k.buff = none) :
    prompts k.sig k.buff = true ↔ k.sig ∈ itemKeys := by
  obtain ⟨sig, buff, ticks⟩ := k
  cases sig <;> simp_all [prompts, itemKeys]

/-- **With keys that come alone** a visit needs no more than some prompt before its payloads. -/
theorem asked_of_keys {c : ConfigSubsystem σ (ρ × Nat)} {ts : List (Taken (Visit σ ρ) KeyPress)}
    {v : Visit σ ρ} (h : Run (VisitStep pl fs clock) (.start c) ts v) (hk : ∀ t ∈ ts, KeysAlone t) :
    ∀ t ∈ ts, AskedInVisit pl t ↔ PromptedInVisit pl t := by
  refine (h.sound (Q := KeysAlone)
    (I := fun v => v.asked = none ∨ v.asked = some v.pending) ?_ (Or.inl rfl) hk).1
  intro t hinv hs halone
  constructor
  · refine forall_congr' fun b => imp_congr_right fun _ => forall_congr' fun i =>
      imp_congr_right fun _ => imp_congr_right fun _ => ?_
    rcases hinv with h | h <;> simp [h]
  · obtain ⟨c', -, hafter⟩ := hs
    rw [hafter]
    unfold Visit.pressed
    by_cases ha : t.before.config.activeState = .basicDeviceConfig
    · rw [if_pos ha]
      by_cases hp : t.input.sig ∈ itemKeys
      · simp [hp, (prompts_of_alone halone).mpr hp]
      · simpa [hp, mt (prompts_of_alone halone).mp hp] using hinv
    · rw [if_neg ha]
      exact Or.inl rfl

/-! ## On the host -/

/-- The terminal of a host that was switched on, its clock being watched. -/
def watchedTerminal : ConfigSubsystem CFile (Unit × Nat) := (powerOn ⟨none, none⟩ ((), 0)).config

/-- A key, or a payload. -/
def pressOf (sig : TerminalSignal) (buff : Option CStr) : KeyPress := ⟨sig, buff, ⟨0, 0⟩⟩

/-- A name to enter. -/
def newName : CStr := CStr.ofBytes (ascii "x")

theorem visit_press {v : Visit σ ρ} (k : KeyPress) {c' : ConfigSubsystem σ (ρ × Nat)}
    (h : handler pl fs (counted clock) k.sig k.buff k.ticks v.config = .ok c') :
    VisitStep pl fs clock v k (v.pressed k c') := ⟨c', h, rfl⟩

/-- A host in the menu, with the name prompt pending. -/
theorem host_prompted : ∃ ts v,
    Run (VisitStep .host cFileHandler blankClock) (.start watchedTerminal) ts v ∧
      ts.map Taken.input = [pressOf .pressedKeyC none, pressOf .pressedKeyN none] ∧
      v.config.activeState = .basicDeviceConfig ∧ v.asked = some v.pending ∧
      ∀ t ∈ ts, AskedInVisit .host t :=
  ⟨_, _, .cons (visit_press (pressOf .pressedKeyC none) rfl)
    (.cons (visit_press (pressOf .pressedKeyN none) rfl) (.nil _)), rfl, rfl, rfl, by
    simp [AskedInVisit, Payload, pressOf]⟩

/-- A name entered after its prompt. -/
theorem payload_prompted_name : ∃ ts v,
    Run (VisitStep .host cFileHandler blankClock) (.start watchedTerminal) ts v ∧
      ts.map Taken.input = [pressOf .pressedKeyC none, pressOf .pressedKeyN none,
        pressOf .pressedKeyEnter (some newName)] ∧ ∀ t ∈ ts, EditsAsked t := by
  obtain ⟨ts, v, hrun, hin, ha, hasked, hall⟩ := host_prompted
  have hstep : VisitStep .host cFileHandler blankClock v (pressOf .pressedKeyEnter (some newName))
      (v.pressed _ _) := ⟨_, handler_payload .host cFileHandler _ ha newName ⟨0, 0⟩, rfl⟩
  have hrun' := hrun.append (.cons hstep (.nil _))
  refine ⟨_, _, hrun', by simp [hin], (payload_prompted_iff hrun').mpr fun t ht => ?_⟩
  rcases List.mem_append.mp ht with ht | ht
  · exact hall t ht
  · rw [List.mem_singleton.mp ht]
    intro _ _ _ _ _
    exact hasked

/-- A host that was asked for a name, left the menu and came back. -/
theorem host_revisited : ∃ ts v,
    Run (VisitStep .host cFileHandler blankClock) (.start watchedTerminal) ts v ∧
      ts.map Taken.input = [pressOf .pressedKeyC none, pressOf .pressedKeyN none,
        pressOf .pressedKeyB none, pressOf .pressedKeyC none] ∧
      v.config.activeState = .basicDeviceConfig ∧ v.config.previousSignal = .pressedKeyN ∧
      v.asked = none ∧ v.pending = .pressedKeyN ∧ v.config.metadata = LoggerMetadata.static :=
  ⟨_, _, .cons (visit_press (pressOf .pressedKeyC none) rfl)
    (.cons (visit_press (pressOf .pressedKeyN none) rfl)
    (.cons (visit_press (pressOf .pressedKeyB none) rfl)
    (.cons (visit_press (pressOf .pressedKeyC none) rfl) (.nil _)))), rfl, rfl, rfl, rfl, rfl, rfl⟩

/-- There the next payload is taken for the name. -/
theorem payload_revisit_fails : ∃ ts v,
    Run (VisitStep .host cFileHandler blankClock) (.start watchedTerminal) ts v ∧
      ts.map Taken.input = [pressOf .pressedKeyC none, pressOf .pressedKeyN none,
        pressOf .pressedKeyB none, pressOf .pressedKeyC none,
        pressOf .pressedKeyEnter (some newName)] ∧ ¬ ∀ t ∈ ts, EditsAsked t := by
  obtain ⟨ts, v, hrun, hin, ha, hprev, hasked, hpending, hmeta⟩ := host_revisited
  have hstep : VisitStep .host cFileHandler blankClock v (pressOf .pressedKeyEnter (some newName))
      (v.pressed _ _) := visit_press _ (handler_payload .host cFileHandler _ ha newName ⟨0, 0⟩)
  have hdiffers : LoggerMetadata.static.loggerName.strncpy newName ≠
      LoggerMetadata.static.loggerName := by decide
  refine ⟨_, _, hrun.append (.cons hstep (.nil _)), by simp [hin], fun hall => ?_⟩
  have hlast := hall _ (List.mem_append_right _ List.mem_cons_self)
  have hedits := (editsAsked_iff (hprev.trans hpending.symm) hstep).mp hlast
  have heff : TakesEffect .host .name newName v.config.metadata := by
    rw [hmeta]
    exact hdiffers
  have := hedits newName ⟨ha, rfl, rfl⟩ .name hpending heff
  simp [hasked] at this

end GenLogger.Config
