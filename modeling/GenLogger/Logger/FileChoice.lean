import GenLogger.Config.NameSession
import GenLogger.Config.Report
import GenLogger.Config.Task
import GenLogger.Logger.LoggerManager

/-!
# The file-creation choice

The menu announces `1` for a file a day and `2` for one file. The terminal puts the character into the
record, `49` or `50`, where the logger manager knows `1` and `2`.

* `Chosen` is the configuration subsystem with the choice that is in the record and the one that is in
  the file, which are not part of the program.
* `ChoiceStep` follows them through payloads, stores, loads and boots, over any outcome of the calls.
* `ChoiceMeans`: the choice in the record is the value that was announced for it.

Results:
* `choiceStep_noChoice`: where there is no choice, only an accepted payload makes one.
* `choice_means_iff`: an accepted choice never means what was announced, in no later state and not
  after a reload; `press_saveKeys_choice`: storing and loading keeps it as it is.
* `accepted_appends`: both choices are logged into one file.
-/

namespace GenLogger.Logger

open GenLogger.Lib GenLogger.Platform GenLogger.Config GenLogger.Measurement

variable {σ ρ : Type}

/-- The configuration subsystem, the choice that is in the record and the one that is in the file. -/
structure Chosen (σ ρ : Type) where
  config : ConfigSubsystem σ ρ
  choice : Option Byte
  saved : Option Byte

/-- A key of the terminal, or a reset, which keeps the file. -/
inductive ChoiceInput (ρ : Type) where
  | key (k : KeyPress)
  | boot (rtc : ρ) (ticks : Ticks)

/-- The payload of an `F` prompt is accepted, its first byte being `b`. -/
def Accepts (c : ConfigSubsystem σ ρ) (k : KeyPress) (b : Byte) : Prop :=
  c.activeState = .basicDeviceConfig ∧ k.sig = .pressedKeyEnter ∧ c.previousSignal = .pressedKeyF ∧
    ∃ buff, k.buff = some buff ∧ buff.first = b ∧ (b = 49 ∨ b = 50)

/-- The key stores the record. -/
def Stores (c : ConfigSubsystem σ ρ) (k : KeyPress) : Prop :=
  c.activeState = .basicDeviceConfig ∧ k.sig = .pressedKeyS

/-- The key loads the metadata. -/
def Loads (c : ConfigSubsystem σ ρ) (k : KeyPress) : Prop :=
  c.activeState = .initState ∧ k.sig = .pressedKeyI ∨
    c.activeState = .basicDeviceInfo ∧ k.sig = .entry

/-- The choices after a load from the device `d` that returned `ret`: the one in the file, or none
where the default file was created, or the old ones. -/
def afterLoad (fs : FileHandler σ) (d : σ) (ret : Bool) (s : Chosen σ ρ) :
    Option Byte × Option Byte :=
  if ret = false then (s.choice, s.saved)
  else if (fs.openFile 0 d).1 = true then (s.saved, s.saved)
  else (none, none)

/-- The choice in the file after a store. One that failed leaves none. -/
def afterStore (fs : FileHandler σ) (name : CStr) (s : Chosen σ ρ) : Option Byte :=
  if (commandCalls fs name s.config).Succeeded sizeofLoggerMetadata then s.choice else none

section Step

variable (pl : Platform) (fs : FileHandler σ) (clock : RtcInterface ρ)

/-- One step of the terminal. -/
inductive ChoiceStep : Chosen σ ρ → ChoiceInput ρ → Chosen σ ρ → Prop
  | choose {s : Chosen σ ρ} {k : KeyPress} {c' : ConfigSubsystem σ ρ} {b : Byte}
      (h : Accepts s.config k b) (hk : Pressed pl fs clock s.config k c') :
      ChoiceStep s (.key k) ⟨c', some b, s.saved⟩
  | store {s : Chosen σ ρ} {k : KeyPress} {c' : ConfigSubsystem σ ρ} {name : CStr}
      (h : Stores s.config k) (hname : s.config.metadata.loggerName.cstr = .ok name)
      (hk : Pressed pl fs clock s.config k c') :
      ChoiceStep s (.key k) ⟨c', s.choice, afterStore fs name s⟩
  | load {s : Chosen σ ρ} {k : KeyPress} {c' : ConfigSubsystem σ ρ} {ret : Bool}
      (h : Loads s.config k)
      (hret : retrieveMetadata pl fs s.config.storage = .ok (ret, c'.storage))
      (hk : Pressed pl fs clock s.config k c') :
      ChoiceStep s (.key k) ⟨c', (afterLoad fs s.config.storage.fileSystem ret s).1,
        (afterLoad fs s.config.storage.fileSystem ret s).2⟩
  | other {s : Chosen σ ρ} {k : KeyPress} {c' : ConfigSubsystem σ ρ}
      (h : ¬ (∃ b, Accepts s.config k b) ∧ ¬ Stores s.config k ∧ ¬ Loads s.config k)
      (hk : Pressed pl fs clock s.config k c') : ChoiceStep s (.key k) ⟨c', s.choice, s.saved⟩
  | boot {s : Chosen σ ρ} {rtc : ρ} {ticks : Ticks} {system : System σ ρ}
      (h : main pl fs clock ticks (powerOn s.config.storage.fileSystem rtc) = .ok system) :
      ChoiceStep s (.boot rtc ticks) ⟨system.config,
        (afterLoad fs (fs.mount s.config.storage.fileSystem).2 true s).1,
        (afterLoad fs (fs.mount s.config.storage.fileSystem).2 true s).2⟩

end Step

variable {pl : Platform} {fs : FileHandler σ} {clock : RtcInterface ρ}

/-- The value the menu announces for a choice. -/
def announced (b : Byte) : UInt8 := if b = 49 then createFileADay else createOnlyOneFile

/-- The choice in the record is the value that was announced for it. -/
def ChoiceMeans (s : Chosen σ ρ) : Prop :=
  ∀ b, s.choice = some b → s.config.metadata.fileCreationPeriod = announced b

/-- The step enters a choice, and it is accepted. -/
def IsChoice (t : Taken (Chosen σ ρ) (ChoiceInput ρ)) : Prop :=
  ∃ k b, t.input = .key k ∧ Accepts t.before.config k b

/-! ## One step -/

/-- A key that loads calls `retrieveMetadata`. -/
theorem loads_retrieves {c c' : ConfigSubsystem σ ρ} {k : KeyPress} (h : Loads c k)
    (hk : Pressed pl fs clock c k c') :
    ∃ ret, retrieveMetadata pl fs c.storage = .ok (ret, c'.storage) := by
  rcases h with ⟨ha, hs⟩ | ⟨ha, hs⟩
  · have hn : nextState c.activeState k.sig = some .basicDeviceInfo := by
      rw [ha, hs]
      rfl
    cases handler_cases hk with
    | stay hno => cases hno.symm.trans hn
    | move hmove hi => exact absurd (Option.some.inj (hmove.symm.trans hn)) hi
    | info _ _ ret hret => exact ⟨ret, hret⟩
    | payload hc => cases hc.symm.trans ha
    | store hc => cases hc.symm.trans ha
  · have hn : nextState c.activeState k.sig = none := by
      rw [ha, hs]
      rfl
    obtain ⟨e, hd⟩ := handler_stay hn hk
    rw [ha, hs] at hd
    obtain ⟨ret, hret, -⟩ := dispatchInfo_entry hd
    exact ⟨ret, hret⟩

/-- Every call of `handler` that returns is a step. -/
theorem choiceStep_total {s : Chosen σ ρ} {k : KeyPress} {c' : ConfigSubsystem σ ρ}
    (hk : Pressed pl fs clock s.config k c') :
    ∃ choice saved, ChoiceStep pl fs clock s (.key k) ⟨c', choice, saved⟩ := by
  by_cases ha : ∃ b, Accepts s.config k b
  · obtain ⟨b, hb⟩ := ha
    exact ⟨_, _, .choose hb hk⟩
  · by_cases hs : Stores s.config k
    · obtain ⟨name, ret, hname, -⟩ := store_transition (t := ⟨s.config, k, c'⟩) hs hk
      exact ⟨_, _, .store hs hname hk⟩
    · by_cases hl : Loads s.config k
      · obtain ⟨ret, hret⟩ := loads_retrieves hl hk
        exact ⟨_, _, .load hl hret hk⟩
      · exact ⟨_, _, .other ⟨ha, hs, hl⟩ hk⟩

/-- An accepted choice is put into the record as the character it is. -/
theorem accepted_fileCreationPeriod {c c' : ConfigSubsystem σ ρ} {k : KeyPress} {b : Byte}
    (h : Accepts c k b) (hk : Pressed pl fs clock c k c') :
    c'.metadata.fileCreationPeriod = b := by
  obtain ⟨ha, hs, hp, buff, hbuff, hb, hdigit⟩ := h
  unfold Pressed at hk
  rw [hs, hbuff, handler_payload pl fs clock ha buff k.ticks] at hk
  cases hk
  have hpay : enterPayload pl clock buff c = enterFile buff c := by
    unfold enterPayload
    rw [hp]
  have hno : ¬ (49 ≠ buff.first ∧ 50 ≠ buff.first) := by
    rw [hb]
    rintro ⟨h1, h2⟩
    rcases hdigit with h | h
    · exact h1 h.symm
    · exact h2 h.symm
  rw [hpay, enterFile, if_neg hno]
  exact hb

/-- A character is none of the values the menu announces. -/
theorem ne_announced {b : Byte} (h : b = 49 ∨ b = 50) : b ≠ announced b := by
  rcases h with rfl | rfl
  · decide
  · decide

/-- No choice is in the record or in the file. -/
def NoChoice (s : Chosen σ ρ) : Prop := s.choice = none ∧ s.saved = none

theorem afterLoad_noChoice {s : Chosen σ ρ} (h : NoChoice s) (fs : FileHandler σ) (d : σ)
    (ret : Bool) : afterLoad fs d ret s = (none, none) := by
  unfold afterLoad
  rw [h.1, h.2]
  split
  · rfl
  · split <;> rfl

/-- **One step.** Where there is no choice, only an accepted payload makes one. -/
theorem choiceStep_noChoice {s s' : Chosen σ ρ} {i : ChoiceInput ρ} (hno : NoChoice s)
    (h : ChoiceStep pl fs clock s i s') : NoChoice s' ↔ ¬ IsChoice ⟨s, i, s'⟩ := by
  have hquiet : ∀ k, ¬ (∃ b, Accepts s.config k b) → ¬ IsChoice ⟨s, .key k, s'⟩ := by
    rintro k hk ⟨k', b, heq, hb⟩
    cases heq
    exact hk ⟨b, hb⟩
  cases h with
  | choose hacc hk =>
    constructor
    · rintro ⟨hc, -⟩
      cases hc
    · intro h
      exact absurd ⟨_, _, rfl, hacc⟩ h
  | @store k c' name hs hname hk =>
    have hsaved : afterStore fs name s = none := by
      unfold afterStore
      rw [hno.1]
      split <;> rfl
    refine ⟨fun _ => hquiet k ?_, fun _ => ⟨hno.1, hsaved⟩⟩
    rintro ⟨b, -, hsig, -⟩
    cases hs.2.symm.trans hsig
  | @load k c' ret hl hret hk =>
    rw [afterLoad_noChoice hno]
    refine ⟨fun _ => hquiet k ?_, fun _ => ⟨rfl, rfl⟩⟩
    rintro ⟨b, hstate, hsig, -⟩
    rcases hl with ⟨ha, hs⟩ | ⟨ha, hs⟩
    · cases ha.symm.trans hstate
    · cases ha.symm.trans hstate
  | @other k c' hn hk => exact ⟨fun _ => hquiet k hn.1, fun _ => hno⟩
  | boot h =>
    rw [afterLoad_noChoice hno]
    refine ⟨?_, fun _ => ⟨rfl, rfl⟩⟩
    rintro - ⟨k, b, heq, -⟩
    cases heq

/-- A choice means nothing that was announced as soon as it is accepted. -/
theorem isChoice_wrong {s s' : Chosen σ ρ} {i : ChoiceInput ρ}
    (h : ChoiceStep pl fs clock s i s') (hchoice : IsChoice ⟨s, i, s'⟩) : ¬ ChoiceMeans s' := by
  obtain ⟨k, b, hk, hacc⟩ := hchoice
  cases h with
  | @choose k' c' b' hacc' hpressed =>
    intro hmeans
    have hvalue := hmeans b' rfl
    rw [accepted_fileCreationPeriod hacc' hpressed] at hvalue
    obtain ⟨-, -, -, buff, -, -, hdigit⟩ := hacc'
    exact ne_announced hdigit hvalue
  | store hs =>
    cases hk
    cases hs.2.symm.trans hacc.2.1
  | load hl =>
    cases hk
    rcases hl with ⟨ha, -⟩ | ⟨ha, -⟩
    · cases ha.symm.trans hacc.1
    · cases ha.symm.trans hacc.1
  | other hn =>
    cases hk
    exact absurd ⟨b, hacc⟩ hn.1
  | boot => cases hk

/-! ## Runs -/

/-- **What a choice means.** In a run of the terminal that starts without a choice, the record means
what was announced in every state after an accepted choice, and after a store and a reload of one,
exactly when no choice is ever accepted. -/
theorem choice_means_iff {s s' : Chosen σ ρ} {ts : List (Taken (Chosen σ ρ) (ChoiceInput ρ))}
    (h0 : NoChoice s) (h : Run (ChoiceStep pl fs clock) s ts s') :
    (∀ t ∈ ts, ChoiceMeans t.after) ↔ ∀ t ∈ ts, ¬ IsChoice t := by
  have htrue : Preserved (ChoiceStep pl fs clock) fun _ => True := fun _ _ _ _ _ => trivial
  constructor
  · intro hmeans t ht hchoice
    exact isChoice_wrong (h.taken htrue trivial t ht).2 hchoice (hmeans t ht)
  · intro hno t ht b hb
    have hquiet := (h.forall_after_iff (P := NoChoice) htrue
      (fun _ _ hno hs => choiceStep_noChoice hno hs) trivial h0).mpr hno t ht
    cases hquiet.1.symm.trans hb

/-- Storing a record and going to the device info screen keeps the choice as it is. -/
theorem press_saveKeys_choice (M : Medium fs) {c : ConfigSubsystem σ ρ} {p : CStr} (t : Nat → Ticks)
    (ha : c.activeState = .basicDeviceConfig) (hinit : c.storage.fileSystemInit = true)
    (hidle : M.Idle c.storage.fileSystem) (hname : c.metadata.loggerName.cstr = .ok p)
    (hne : p.bytes ≠ []) (hs : semicolon ∉ p.bytes) :
    ∃ c', press pl fs clock c (saveKeys t) = .ok c' ∧
      c'.metadata.fileCreationPeriod = c.metadata.fileCreationPeriod := by
  obtain ⟨c', m₀, h, hm⟩ := press_saveKeys pl clock M t ha hinit hidle hname
  rw [assignFields_metadataText pl hne hs] at hm
  refine ⟨c', h, ?_⟩
  rw [hm]
  rfl

/-- Whatever was chosen, the logger manager appends to one file. -/
theorem accepted_appends {τ : Type} {c c' : ConfigSubsystem σ ρ} {k : KeyPress} {b : Byte}
    (h : Accepts c k b) (hk : Pressed pl fs clock c k c') (logFs : FileHandler τ)
    {pDataBuff : CBuf msrdDataBuffSize} {record : CStr} (hr : pDataBuff.cstr = .ok record) (d : τ) :
    LoggerManager.handler logFs c'.metadata.fileCreationPeriod pDataBuff d =
      .ok (appendRecord logFs record d) := by
  refine handler_other ?_ hr d
  rw [accepted_fileCreationPeriod h hk]
  obtain ⟨-, -, -, buff, -, -, hdigit⟩ := h
  rcases hdigit with rfl | rfl
  · decide
  · decide

/-! ## On the host -/

/-- A host in its main menu, without a choice. -/
def hostChosen : Chosen CFile Unit := ⟨hostTerminal, none, none⟩

/-- A step of it. -/
abbrev HostChoice : Chosen CFile Unit → ChoiceInput Unit → Chosen CFile Unit → Prop :=
  ChoiceStep .host cFileHandler blankClock

/-- The keys `C` and `F` enter, store and load nothing. -/
theorem menuKey_other {c : ConfigSubsystem CFile Unit} {k : KeyPress}
    (h : k.sig = .pressedKeyC ∨ k.sig = .pressedKeyF) :
    ¬ (∃ b, Accepts c k b) ∧ ¬ Stores c k ∧ ¬ Loads c k := by
  have hne : k.sig ≠ .pressedKeyEnter ∧ k.sig ≠ .pressedKeyS ∧ k.sig ≠ .pressedKeyI ∧
      k.sig ≠ .entry := by
    rcases h with h | h
    · rw [h]
      exact ⟨nofun, nofun, nofun, nofun⟩
    · rw [h]
      exact ⟨nofun, nofun, nofun, nofun⟩
  refine ⟨?_, fun hs => hne.2.1 hs.2, ?_⟩
  · rintro ⟨b, -, hsig, -⟩
    exact hne.1 hsig
  · rintro (⟨-, hsig⟩ | ⟨-, hsig⟩)
    · exact hne.2.2.1 hsig
    · exact hne.2.2.2 hsig

/-- The keys `C` and `F` lead to the prompt. -/
theorem host_promptFile : ∃ s₁ s₂,
    HostChoice hostChosen (.key ⟨.pressedKeyC, none, ⟨0, 0⟩⟩) s₁ ∧
      HostChoice s₁ (.key ⟨.pressedKeyF, none, ⟨0, 0⟩⟩) s₂ ∧ NoChoice s₁ ∧ NoChoice s₂ ∧
      s₂.config.activeState = .basicDeviceConfig ∧ s₂.config.previousSignal = .pressedKeyF := by
  obtain ⟨c₁, h₁, ha₁, -⟩ := handler_configure .host cFileHandler blankClock (c := hostTerminal) rfl
    none ⟨0, 0⟩
  obtain ⟨c₂, h₂, ha₂, hp₂, -⟩ := handler_prompt .host cFileHandler blankClock ha₁
    (Or.inr (Or.inl rfl)) none ⟨0, 0⟩
  exact ⟨⟨c₁, none, none⟩, ⟨c₂, none, none⟩, .other (menuKey_other (Or.inl rfl)) h₁,
    .other (menuKey_other (Or.inr rfl)) h₂, ⟨rfl, rfl⟩, ⟨rfl, rfl⟩, ha₂, hp₂⟩

/-- As long as nothing is entered, nothing is wrong. -/
theorem choice_means_prompt : ∃ ts s, Run HostChoice hostChosen ts s ∧
    ts.map Taken.input = [.key ⟨.pressedKeyC, none, ⟨0, 0⟩⟩, .key ⟨.pressedKeyF, none, ⟨0, 0⟩⟩] ∧
      ∀ t ∈ ts, ChoiceMeans t.after := by
  obtain ⟨s₁, s₂, h₁, h₂, -⟩ := host_promptFile
  have hrun := Run.cons h₁ (.cons h₂ (.nil _))
  refine ⟨_, _, hrun, rfl, (choice_means_iff ⟨rfl, rfl⟩ hrun).mpr fun t ht => ?_⟩
  rintro ⟨k, b, hk, hacc⟩
  rcases List.mem_cons.mp ht with rfl | ht
  · cases hk
    cases hacc.2.1
  · rw [List.mem_singleton.mp ht] at hk hacc
    cases hk
    cases hacc.2.1

/-- The payload `1`, accepted as a file a day, is neither of the two values. -/
theorem choice_one_fails : ∃ ts s, Run HostChoice hostChosen ts s ∧
    ts.map Taken.input = [.key ⟨.pressedKeyC, none, ⟨0, 0⟩⟩, .key ⟨.pressedKeyF, none, ⟨0, 0⟩⟩,
      .key ⟨.pressedKeyEnter, some (CStr.ofBytes (ascii "1")), ⟨0, 0⟩⟩] ∧
      s.choice = some 49 ∧ s.config.metadata.fileCreationPeriod = 49 ∧
      ¬ ∀ t ∈ ts, ChoiceMeans t.after := by
  obtain ⟨s₁, s₂, h₁, h₂, -, -, ha, hp⟩ := host_promptFile
  have hacc : Accepts s₂.config ⟨.pressedKeyEnter, some (CStr.ofBytes (ascii "1")), ⟨0, 0⟩⟩ 49 :=
    ⟨ha, rfl, hp, _, rfl, rfl, Or.inl rfl⟩
  have hpressed := handler_payload .host cFileHandler blankClock ha (CStr.ofBytes (ascii "1")) ⟨0, 0⟩
  have hstep : HostChoice s₂ _ _ := .choose hacc hpressed
  refine ⟨_, _, .cons h₁ (.cons h₂ (.cons hstep (.nil _))), rfl, rfl,
    accepted_fileCreationPeriod hacc hpressed, fun h => ?_⟩
  have hlast := h _ (List.mem_cons_of_mem _ (List.mem_cons_of_mem _ List.mem_cons_self))
  exact isChoice_wrong hstep ⟨_, 49, rfl, hacc⟩ hlast

end GenLogger.Logger
