import GenLogger.Config.Menu
import GenLogger.Config.RoundTrip

/-!
# Naming the device at the terminal

The keys `C`, `N`, a name, `S`, `B`, `I`: the configuration menu, the name prompt, the payload, the
store command, back to the main menu, and the device info screen, which loads what was stored.

* `press` is a list of calls of `handler`, `nameKeys` this session, from any state.
* The terminal accepts a name only where the keys lead to its prompt (`NameAccepted`); elsewhere the
  name is not looked at.
* `NameKept` is that the session ends with the name, and with the settings it started with.

Results:
* `press_nameKeys`: where the name is accepted, the record at the end is what a reload of the stored
  one gives.
* `loaded_name_noSemicolon`: a loaded name has no semicolon, whatever was stored.
* `name_kept_iff`: an accepted name is what the session leaves in the record exactly when it has no
  semicolon: the file is split at semicolons, and the first piece becomes the name.
-/

namespace GenLogger.Config

open GenLogger.Lib GenLogger.Platform

variable {σ ρ : Type}

/-- The calls of `handler` for `keys`. -/
def press (pl : Platform) (fs : FileHandler σ) (clock : RtcInterface ρ) (c : ConfigSubsystem σ ρ)
    (keys : List KeyPress) : Except Fault (ConfigSubsystem σ ρ) :=
  keys.foldlM (fun c k => handler pl fs clock k.sig k.buff k.ticks c) c

/-- The keys that lead to the name prompt. -/
def promptKeys (t : Nat → Ticks) : List KeyPress :=
  [⟨.pressedKeyC, none, t 0⟩, ⟨.pressedKeyN, none, t 1⟩]

/-- Storing the record, and loading it for the device info screen. -/
def saveKeys (t : Nat → Ticks) : List KeyPress :=
  [⟨.pressedKeyS, none, t 3⟩, ⟨.pressedKeyB, none, t 4⟩, ⟨.pressedKeyI, none, t 5⟩]

/-- The session for the name `p`. -/
def nameKeys (p : CStr) (t : Nat → Ticks) : List KeyPress :=
  promptKeys t ++ ⟨.pressedKeyEnter, some p, t 2⟩ :: saveKeys t

variable {pl : Platform} {fs : FileHandler σ} {clock : RtcInterface ρ}

/-- The payload of the session is answered by "Name copied". -/
def NameAccepted (pl : Platform) (fs : FileHandler σ) (clock : RtcInterface ρ) (p : CStr)
    (t : Nat → Ticks) (c : ConfigSubsystem σ ρ) : Prop :=
  ∃ c₂ c₃, press pl fs clock c (promptKeys t) = .ok c₂ ∧
    handler pl fs clock .pressedKeyEnter (some p) (t 2) c₂ = .ok c₃ ∧
    c₃.console = c₂.console ++ [.text "Name copied, input S to save it\r\n"]

/-- The session ends with the name `p` and the settings it started with. -/
def NameKept (pl : Platform) (fs : FileHandler σ) (clock : RtcInterface ρ) (p : CStr)
    (t : Nat → Ticks) (c : ConfigSubsystem σ ρ) : Prop :=
  ∃ c', press pl fs clock c (nameKeys p t) = .ok c' ∧ c'.metadata.loggerName.cstr = .ok p ∧
    SameSettings c.metadata c'.metadata

/-- A first call, and the others from where it leads. -/
theorem press_ok {c c₁ c' : ConfigSubsystem σ ρ} {k : KeyPress} {keys : List KeyPress}
    (h : handler pl fs clock k.sig k.buff k.ticks c = .ok c₁)
    (hk : press pl fs clock c₁ keys = .ok c') : press pl fs clock c (k :: keys) = .ok c' := by
  unfold press at hk ⊢
  rw [List.foldlM_cons]
  exact bind_eq_ok.mpr ⟨c₁, h, hk⟩

theorem press_append {c c₁ c' : ConfigSubsystem σ ρ} {keys keys' : List KeyPress}
    (h : press pl fs clock c keys = .ok c₁) (hk : press pl fs clock c₁ keys' = .ok c') :
    press pl fs clock c (keys ++ keys') = .ok c' := by
  unfold press at h hk ⊢
  rw [List.foldlM_append]
  exact bind_eq_ok.mpr ⟨c₁, h, hk⟩

/-- From any other state they are ignored, and so is the name. -/
theorem nameAccepted_menu {p : CStr} {t : Nat → Ticks} {c : ConfigSubsystem σ ρ}
    (h : NameAccepted pl fs clock p t c) :
    c.activeState = .initState ∨ c.activeState = .basicDeviceConfig := by
  obtain ⟨c₂, c₃, h₂, h₃, hcon⟩ := h
  obtain ⟨state, prev, avail, delay, ticks, storage, rtc, console⟩ := c
  have hne : ∀ (l : List Output) (o : Output), l ≠ l ++ [o] := fun l o h => by
    have := congrArg List.length h
    simp at this
  cases state with
  | initState => exact Or.inl rfl
  | basicDeviceConfig => exact Or.inr rfl
  | basicDeviceInfo => cases h₂; cases h₃; exact absurd hcon (hne _ _)
  | sensorConfig => cases h₂; cases h₃; exact absurd hcon (hne _ _)
  | networkConfig => cases h₂; cases h₃; exact absurd hcon (hne _ _)
  | streamADC => cases h₂; cases h₃; exact absurd hcon (hne _ _)

/-! ## The keys one by one -/

variable (pl fs clock)

/-- From the main or the configuration menu, the keys lead to the name prompt. -/
theorem press_promptKeys {c : ConfigSubsystem σ ρ} (t : Nat → Ticks)
    (hmenu : c.activeState = .initState ∨ c.activeState = .basicDeviceConfig) :
    ∃ c₂, press pl fs clock c (promptKeys t) = .ok c₂ ∧ c₂.activeState = .basicDeviceConfig ∧
      c₂.previousSignal = .pressedKeyN ∧ c₂.storage = c.storage := by
  obtain ⟨state, prev, avail, delay, ticks, storage, rtc, console⟩ := c
  rcases hmenu with h | h
  · cases h
    exact ⟨_, rfl, rfl, rfl, rfl⟩
  · cases h
    exact ⟨_, rfl, rfl, rfl, rfl⟩

/-! ## The session -/

section Medium

variable {fs} (M : Medium fs)

/-- The first field of a stored record is a piece of the name, and has no semicolon. -/
theorem fields_metadataText_head (name : CStr) (m : LoggerMetadata) :
    ∃ (f : CStr) (ts : List (List Byte)), fields semicolon (metadataText name m) = f.bytes :: ts ∧
      semicolon ∉ f.bytes := by
  cases h : fields semicolon (metadataText name m) with
  | nil =>
    rw [fields_metadataText] at h
    exact absurd (List.append_eq_nil_iff.mp h).2 (List.cons_ne_nil _ _)
  | cons f ts =>
    have hmem : f ∈ fields semicolon (metadataText name m) := by rw [h]; exact List.mem_cons_self
    have h0 : (0 : Byte) ∉ f := fun h0 =>
      nul_notMem_metadataText name m (mem_of_mem_fields hmem h0)
    exact ⟨⟨f, h0⟩, ts, rfl, notMem_of_mem_fields hmem⟩

/-- A loaded name has no semicolon, whatever was stored. -/
theorem loaded_name_noSemicolon {name loaded : CStr} {m m₀ : LoggerMetadata}
    (h : (assignFields pl 0 (fields semicolon (metadataText name m)) m₀).loggerName.cstr =
      .ok loaded) : semicolon ∉ loaded.bytes := by
  obtain ⟨f, ts, hf, hsemi⟩ := fields_metadataText_head name m
  rw [hf, assignFields_loggerName, putName_cstr] at h
  cases h
  exact fun hmem => hsemi (List.mem_of_mem_take hmem)

/-- Storing from the configuration menu and going to the device info screen reloads the record. -/
theorem press_saveKeys {c : ConfigSubsystem σ ρ} {p : CStr} (t : Nat → Ticks)
    (ha : c.activeState = .basicDeviceConfig) (hinit : c.storage.fileSystemInit = true)
    (hidle : M.Idle c.storage.fileSystem) (hname : c.metadata.loggerName.cstr = .ok p) :
    ∃ c' m₀, press pl fs clock c (saveKeys t) = .ok c' ∧
      c'.metadata = assignFields pl 0 (fields semicolon (metadataText p c.metadata)) m₀ := by
  obtain ⟨c₁, d, rest, h₁, ha₁, hs₁, hi₁, hc₁⟩ := storeCommand_stores pl M hinit hidle hname
  have h₁' := handler_store pl fs clock ha none (t 3)
  rw [h₁] at h₁'
  obtain ⟨c₂, h₂, ha₂, hs₂⟩ := handler_back pl fs clock (ha₁.trans ha) none (t 4)
  rw [hs₁] at hs₂
  obtain ⟨b, d', -, -, hret⟩ := retrieveMetadata_stored pl M c₂.storage (by rw [hs₂]; exact hinit)
    (by rw [hs₂]; exact hi₁) (CBuf.cstr_length hname) (by rw [hs₂]; exact hc₁)
  obtain ⟨f, ts, hf, -⟩ := fields_metadataText_head p c.metadata
  have hname₂ := assignFields_loggerName pl f.bytes ts c₂.storage.metadata
  rw [← hf] at hname₂
  obtain ⟨c₃, h₃, hs₃⟩ := handler_info pl fs clock ha₂ none (t 5) hret
    ((congrArg CBuf.cstr hname₂).trans (putName_cstr _ f))
  refine ⟨c₃, c₂.storage.metadata, press_ok h₁' (press_ok h₂ (press_ok h₃ rfl)), ?_⟩
  unfold ConfigSubsystem.metadata
  rw [hs₃]
  rfl

/-- **The session**, from a state in which the name is accepted: the record is what a reload of the
stored one gives. -/
theorem press_nameKeys {c : ConfigSubsystem σ ρ} {p : CStr} (t : Nat → Ticks)
    (hmenu : c.activeState = .initState ∨ c.activeState = .basicDeviceConfig)
    (hinit : c.storage.fileSystemInit = true) (hidle : M.Idle c.storage.fileSystem)
    (hlen : p.bytes.length < loggerNameLenght) :
    ∃ c' m₀, press pl fs clock c (nameKeys p t) = .ok c' ∧
      c'.metadata = assignFields pl 0 (fields semicolon (metadataText p c.metadata)) m₀ := by
  obtain ⟨c₂, h₂, ha₂, hp₂, hs₂⟩ := press_promptKeys pl fs clock t hmenu
  have hpay : enterPayload pl clock p c₂ = enterName p c₂ := by
    unfold enterPayload
    rw [hp₂]
  have h₃ := handler_payload pl fs clock ha₂ p (t 2)
  rw [hpay] at h₃
  have hname : (enterName p c₂).metadata.loggerName.cstr = .ok p :=
    CBuf.cstr_strncpy c₂.metadata.loggerName hlen
  have hdev : (enterName p c₂).storage.fileSystem = c.storage.fileSystem := by rw [← hs₂]; rfl
  have hinit₃ : (enterName p c₂).storage.fileSystemInit = true := by rw [← hinit, ← hs₂]; rfl
  have htext : metadataText p (enterName p c₂).metadata = metadataText p c.metadata := by
    have : c₂.metadata = c.metadata := congrArg InternalStorage.metadata hs₂
    rw [← this]
    rfl
  obtain ⟨c', m₀, hsave, hm⟩ := press_saveKeys pl clock M t (c := enterName p c₂) ha₂ hinit₃
    (by rw [hdev]; exact hidle) hname
  rw [htext] at hm
  exact ⟨c', m₀, press_append h₂ (press_ok h₃ hsave), hm⟩

/-- **A name the terminal accepts survives exactly when it has no semicolon.** -/
theorem name_kept_iff {c : ConfigSubsystem σ ρ} {p : CStr} (t : Nat → Ticks)
    (hinit : c.storage.fileSystemInit = true) (hidle : M.Idle c.storage.fileSystem)
    (hperiods : c.metadata.fileTransmissionPeriod.toNat ≤ 255 ∧
      c.metadata.generalMeasurementPeriod.toNat ≤ 255 ∧ c.metadata.restRequestPeriod.toNat ≤ 255)
    (hne : p.bytes ≠ []) (hlen : p.bytes.length ≤ 95) (hacc : NameAccepted pl fs clock p t c) :
    NameKept pl fs clock p t c ↔ semicolon ∉ p.bytes := by
  obtain ⟨c', m₀, hrun, hm⟩ := press_nameKeys pl clock M t (nameAccepted_menu hacc) hinit hidle
    (show p.bytes.length < 96 by omega)
  constructor
  · rintro ⟨c'', h, hname, -⟩
    rw [hrun] at h
    cases h
    rw [hm] at hname
    exact loaded_name_noSemicolon pl hname
  · intro hs
    rw [assignFields_metadataText pl hne hs] at hm
    refine ⟨c', hrun, ?_, ?_⟩
    · rw [hm]
      exact reloaded_name (show p.bytes.length < 96 by omega) c.metadata m₀
    · rw [hm]
      exact (reloaded_sameSettings_iff p.bytes c.metadata m₀).mpr hperiods

end Medium

/-- A terminal in its main menu, on a host without a metadata file. -/
def hostTerminal : ConfigSubsystem CFile Unit where
  activeState := .initState
  previousSignal := .entry
  availableSignal := .entry
  flagStreamDelay := false
  ticks := 0
  storage := hostStorage
  rtc := ()
  console := []

/-- At the main menu every name is accepted. -/
theorem hostTerminal_accepts (p : CStr) :
    NameAccepted .host cFileHandler blankClock p (fun _ => ⟨0, 0⟩) hostTerminal :=
  ⟨_, _, rfl, rfl, rfl⟩

theorem name_kept_station : NameKept .host cFileHandler blankClock
    (CStr.ofBytes (ascii "station")) (fun _ => ⟨0, 0⟩) hostTerminal :=
  (name_kept_iff .host blankClock cMedium (c := hostTerminal) (fun _ => ⟨0, 0⟩) rfl rfl
    ⟨by decide, by decide, by decide⟩ (by decide) (by decide) (hostTerminal_accepts _)).mpr
    (by decide)

/-- The name `a;b` is accepted, stored, and loaded as `a`. -/
theorem name_kept_semicolon_fails :
    NameAccepted .host cFileHandler blankClock (CStr.ofBytes (ascii "a;b")) (fun _ => ⟨0, 0⟩)
      hostTerminal ∧
    ¬ NameKept .host cFileHandler blankClock (CStr.ofBytes (ascii "a;b")) (fun _ => ⟨0, 0⟩)
      hostTerminal := by
  refine ⟨hostTerminal_accepts _, ?_⟩
  rintro ⟨c'', h, hname, -⟩
  obtain ⟨c', m₀, hrun, hm⟩ := press_nameKeys .host blankClock cMedium (c := hostTerminal)
    (p := CStr.ofBytes (ascii "a;b")) (fun _ => ⟨0, 0⟩) (Or.inl rfl) rfl rfl (by decide)
  rw [hrun] at h
  cases h
  rw [hm] at hname
  exact loaded_name_noSemicolon .host hname (by decide)

end GenLogger.Config
