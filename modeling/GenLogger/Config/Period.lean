import GenLogger.Config.Task
import GenLogger.Platform.Ticks

/-!
# The period of the measurement task

`main` and `configurationTask` compute the period from the record, and the tick handlers divide by it.
A run boots any number of times, each time from whatever the device holds, and calls
`configurationTask` with any lines in between.

* `_metadataUpdatedFlag` is raised only where the default file has just been created, and it is still
  pending at the start of a call only in the first state of the terminal (`FlagInv`). So a run
  computes the period at a boot, or from a record whose period is `1` or was loaded over it.
* `SetsPeriod` is the condition on a file: the fourth field is no multiple of 256, or there is none.

Results:
* `handler_period`: the record that a call of `handler` leaves with the flag up.
* `main_period`, `configurationTask_period`: what a boot and a call compute, and from which record.
* `main_noOverflow`, `configurationTask_noOverflow`: the product never overflows.
* `period_sound_iff`: the period is always the exact product, computed without overflow, and the tick
  handlers are defined after every step exactly when no step computes it from a file that sets the
  period to `0`.
-/

namespace GenLogger.Config

open GenLogger.Lib GenLogger.Platform

variable {σ ρ : Type}

/-- If a file is read, the period it leaves in the record is not `0`: its fourth field is not a
multiple of 256, or there is none and the record has a period. -/
def SetsPeriod (pl : Platform) (fs : FileHandler σ) (st : InternalStorage σ) : Prop :=
  (fs.openFile 0 st.fileSystem).1 = true ∧ 0 < bytesRead fs st →
    match (fields semicolon (upToNul (readBuffer fs st).bytes))[3]? with
    | some t => strtoul pl.ulongMax t % 256 ≠ 0
    | none => st.metadata.generalMeasurementPeriod ≠ 0

variable {pl : Platform} {fs : FileHandler σ} {clock : RtcInterface ρ}

/-! ## The record after a load -/

/-- The period of the record after a load fits a byte, and is `0` only where the file sets it so. -/
theorem retrieved_period {st st' : InternalStorage σ} {ret : Bool}
    (h : Retrieved pl fs st st' ret) (hle : st.metadata.generalMeasurementPeriod.toNat ≤ 255)
    (hloaded : ret = false → st.metadata.generalMeasurementPeriod ≠ 0) :
    st'.metadata.generalMeasurementPeriod.toNat ≤ 255 ∧
      (st'.metadata.generalMeasurementPeriod ≠ 0 ↔ SetsPeriod pl fs st) := by
  cases h with
  | failed hno hm _ =>
    rw [hm]
    refine ⟨hle, ?_⟩
    constructor
    · intro _ h
      exact absurd h hno
    · intro _
      exact hloaded rfl
  | created ho hm _ =>
    have hone : st'.metadata.generalMeasurementPeriod = 1 := by rw [hm]; rfl
    rw [hone]
    refine ⟨by decide, ?_⟩
    constructor
    · intro _ h
      rw [ho] at h
      exact absurd h.1 Bool.false_ne_true
    · intro _
      decide
  | loaded ho hret h0 hm _ =>
    rw [hm, assignFields_measurement]
    unfold SetsPeriod
    cases ht : (fields semicolon (upToNul (readBuffer fs st).bytes))[3]? with
    | none =>
      refine ⟨hle, ?_⟩
      constructor
      · intro h _
        exact h
      · intro h
        exact h ⟨ho, hret⟩
    | some t =>
      have hzero : (fieldValue pl t).toUInt16 ≠ 0 ↔ strtoul pl.ulongMax t % 256 ≠ 0 := by
        rw [ne_eq, ← UInt16.toNat_inj, UInt8.toNat_toUInt16]
        unfold fieldValue
        rw [UInt8.toNat_ofNat']
        rfl
      refine ⟨?_, ?_⟩
      · rw [UInt8.toNat_toUInt16]
        have := (fieldValue pl t).toNat_lt
        omega
      · constructor
        · intro h _
          exact hzero.mp h
        · intro h
          exact hzero.mpr (h ⟨ho, hret⟩)

/-! ## The flag -/

/-- The flag is pending only in the first state, over the default record. -/
def FlagInv (c : ConfigSubsystem σ ρ) : Prop :=
  c.storage.metadataUpdatedFlag = true →
    c.activeState = .initState ∧ c.metadata.generalMeasurementPeriod = 1

theorem flagInv_lowered {c : ConfigSubsystem σ ρ} (h : c.storage.metadataUpdatedFlag = false) :
    FlagInv c := fun hf => absurd (h.symm.trans hf) Bool.false_ne_true

/-- The period of the record fits a byte, and is `0` only where the key showed the device info and loaded
such a file over a pending flag. -/
def PeriodLeft (pl : Platform) (fs : FileHandler σ) (sig : TerminalSignal)
    (c c' : ConfigSubsystem σ ρ) : Prop :=
  c'.metadata.generalMeasurementPeriod.toNat ≤ 255 ∧
    (c'.metadata.generalMeasurementPeriod ≠ 0 ↔
      (c.storage.metadataUpdatedFlag = true → sig = .pressedKeyI → SetsPeriod pl fs c.storage))

/-- A call that leaves the storage alone keeps the record of the pending flag, and its key is not
`I`. -/
theorem quiet_period {sig : TerminalSignal} {c c' : ConfigSubsystem σ ρ} (hinv : FlagInv c)
    (hf : c'.storage.metadataUpdatedFlag = true) (hs : c'.storage = c.storage)
    (hn : nextState c.activeState sig ≠ some .basicDeviceInfo) : PeriodLeft pl fs sig c c' := by
  rw [hs] at hf
  obtain ⟨ha, hone⟩ := hinv hf
  have hone' : c'.metadata.generalMeasurementPeriod = 1 := by
    rw [← hone]
    exact congrArg (fun st : InternalStorage σ => st.metadata.generalMeasurementPeriod) hs
  unfold PeriodLeft
  rw [hone']
  refine ⟨by decide, ?_⟩
  constructor
  · intro _ _ hsig
    rw [ha, hsig] at hn
    exact absurd rfl hn
  · intro _
    decide

/-- The device info screen loads the file over the record of a pending flag, or creates it. -/
theorem info_period {sig : TerminalSignal} {ret : Bool} {c c' : ConfigSubsystem σ ρ}
    (hinv : FlagInv c) (hf : c'.storage.metadataUpdatedFlag = true)
    (hcases : Retrieved pl fs c.storage c'.storage ret)
    (hkey : c.activeState = .initState → sig = .pressedKeyI) : PeriodLeft pl fs sig c c' := by
  cases hpend : c.storage.metadataUpdatedFlag with
  | true =>
    obtain ⟨ha, hone⟩ := hinv hpend
    have hone' : c.storage.metadata.generalMeasurementPeriod = 1 := hone
    obtain ⟨hle, hiff⟩ := retrieved_period hcases (by rw [hone']; decide)
      (fun _ => by rw [hone']; decide)
    refine ⟨hle, hiff.trans ?_⟩
    constructor
    · intro h _ _
      exact h
    · intro h
      exact h hpend (hkey ha)
  | false =>
    cases hcases with
    | failed _ _ hf' => rw [hf', hpend] at hf; cases hf
    | loaded _ _ _ _ hf' => rw [hf', hpend] at hf; cases hf
    | created _ hm _ =>
      have hone : c'.metadata.generalMeasurementPeriod = 1 := by
        unfold ConfigSubsystem.metadata
        rw [hm]
        rfl
      unfold PeriodLeft
      rw [hone]
      refine ⟨by decide, ?_⟩
      constructor
      · intro _ h
        rw [hpend] at h
        cases h
      · intro _
        decide

/-- **The record a call of `handler` leaves with the flag up.** -/
theorem handler_period {sig : TerminalSignal} {buff : Option CStr} {ticks : Ticks}
    {c c' : ConfigSubsystem σ ρ} (hinv : FlagInv c)
    (h : handler pl fs clock sig buff ticks c = .ok c')
    (hf : c'.storage.metadataUpdatedFlag = true) : PeriodLeft pl fs sig c c' := by
  cases handler_cases h with
  | stay hn _ hs _ => exact quiet_period hinv hf hs (by rw [hn]; exact nofun)
  | move hn hi hs _ =>
    refine quiet_period hinv hf hs ?_
    rw [hn]
    exact fun h => hi (Option.some.inj h)
  | info hc _ ret hret _ =>
    obtain ⟨-, -, hcases⟩ := retrieveMetadata_cases hret
    refine info_period hinv hf hcases fun ha => ?_
    rcases hc with ⟨-, hsig⟩ | ⟨hi, -⟩
    · exact hsig
    · rw [ha] at hi; cases hi
  | payload hc _ b _ hp =>
    obtain ⟨-, m, hm⟩ := enterPayload_edits hp
    rw [hm] at hf
    obtain ⟨ha, -⟩ := hinv hf
    rw [ha] at hc
    cases hc
  | store hc _ hst =>
    obtain ⟨-, d, hd⟩ := storeCommand_storage hst
    rw [hd] at hf
    obtain ⟨ha, -⟩ := hinv hf
    rw [ha] at hc
    cases hc

/-- A call of `handler` does not lower the flag. -/
theorem handler_flag {sig : TerminalSignal} {buff : Option CStr} {ticks : Ticks}
    {c c' : ConfigSubsystem σ ρ} (h : handler pl fs clock sig buff ticks c = .ok c')
    (hf : c.storage.metadataUpdatedFlag = true) : c'.storage.metadataUpdatedFlag = true := by
  cases handler_cases h with
  | stay _ _ hs _ => rw [hs]; exact hf
  | move _ _ hs _ => rw [hs]; exact hf
  | info _ _ ret hret _ =>
    obtain ⟨-, -, hcases⟩ := retrieveMetadata_cases hret
    cases hcases with
    | failed _ _ hf' => rw [hf']; exact hf
    | created _ _ hf' => exact hf'
    | loaded _ _ _ _ hf' => rw [hf']; exact hf
  | payload _ _ b _ hp =>
    obtain ⟨-, m, hm⟩ := enterPayload_edits hp
    rw [hm]
    exact hf
  | store _ _ hst =>
    obtain ⟨-, d, hd⟩ := storeCommand_storage hst
    rw [hd]
    exact hf

/-! ## One step -/

/-- The storage component a boot loads with. -/
def mounted (fs : FileHandler σ) (device : σ) : InternalStorage σ :=
  ⟨LoggerMetadata.static, false, CBuf.zero _, true, (fs.mount device).2⟩

/-- `initFS` of a boot mounts, and loads. -/
theorem initFS_powerOn (pl : Platform) (fs : FileHandler σ) (device : σ) (rtc : ρ) :
    initFS pl fs (powerOn device rtc).config.storage =
    if (fs.mount device).1 = true then retrieveMetadata pl fs (mounted fs device)
    else .ok (false, { (powerOn device rtc).config.storage with
      fileSystem := (fs.mount device).2 }) := by
  unfold initFS mounted powerOn
  rcases fs.mount device with ⟨_ | _, d⟩ <;> rfl

/-- The record a boot goes on with has a period that fits a byte. -/
theorem initFS_period {device : σ} {rtc : ρ} {st : InternalStorage σ}
    (h : initFS pl fs (powerOn device rtc).config.storage = .ok (true, st)) :
    Retrieved pl fs (mounted fs device) st true ∧
      st.metadata.generalMeasurementPeriod.toNat ≤ 255 ∧
      (st.metadata.generalMeasurementPeriod ≠ 0 ↔ SetsPeriod pl fs (mounted fs device)) := by
  rw [initFS_powerOn] at h
  by_cases hm : (fs.mount device).1 = true
  · rw [if_pos hm] at h
    obtain ⟨-, -, hcases⟩ := retrieveMetadata_cases h
    exact ⟨hcases, retrieved_period hcases (Nat.zero_le 255) nofun⟩
  · rw [if_neg hm] at h
    cases h

/-- The period was computed from the record, without overflow. -/
def Computed (s : System σ ρ) : Prop :=
  s.measurementTaskPeriod.toNat = s.config.metadata.generalMeasurementPeriod.toNat * msInOneMinute ∧
    s.config.metadata.generalMeasurementPeriod.toNat * msInOneMinute ≤ 2147483647

theorem computed_of_le {s : System σ ρ} (hle : s.config.metadata.generalMeasurementPeriod.toNat ≤ 255)
    (h : getMeasurementPeriod s.config.metadata = .ok s.measurementTaskPeriod) : Computed s := by
  obtain ⟨p, hok, hprod⟩ := getMeasurementPeriod_ok hle
  rw [hok] at h
  cases h
  refine ⟨hprod, ?_⟩
  simp only [msInOneMinute]
  omega

/-- **A boot** computes the period from the record it loaded. -/
theorem main_period {device : σ} {rtc : ρ} {ticks : Ticks} {s' : System σ ρ}
    (h : main pl fs clock ticks (powerOn device rtc) = .ok s') :
    FlagInv s'.config ∧ Computed s' ∧
      (s'.config.metadata.generalMeasurementPeriod ≠ 0 ↔ SetsPeriod pl fs (mounted fs device)) := by
  obtain ⟨hfs, hp, ha, -⟩ := main_cases h
  obtain ⟨hcases, hle, hiff⟩ := initFS_period hfs
  refine ⟨?_, computed_of_le hle hp, hiff⟩
  cases hcases with
  | created _ hm _ =>
    intro _
    refine ⟨ha, ?_⟩
    unfold ConfigSubsystem.metadata
    rw [hm]
    rfl
  | loaded _ _ _ _ hf => exact flagInv_lowered hf

/-- A call of `configurationTask` that loads over a pending flag loads a file that sets the
period. -/
def TaskSetsPeriod (pl : Platform) (fs : FileHandler σ) (s : System σ ρ) : Prop :=
  s.config.storage.metadataUpdatedFlag = true →
    (∃ buff, (dispatched s).1 = .call .pressedKeyI buff) → SetsPeriod pl fs s.config.storage

/-- **A call of `configurationTask`** keeps the period, or computes it from a record that fits a
byte. -/
theorem configurationTask_period {ticks : Ticks} {s s' : System σ ρ} (hinv : FlagInv s.config)
    (h : configurationTask pl fs clock ticks s = .ok s') :
    FlagInv s'.config ∧
      ((s'.measurementTaskPeriod = s.measurementTaskPeriod ∧ TaskSetsPeriod pl fs s) ∨
        (Computed s' ∧
          (s'.config.metadata.generalMeasurementPeriod ≠ 0 ↔ TaskSetsPeriod pl fs s))) := by
  cases configurationTask_cases h with
  | nothing hd hc hp =>
    rw [hc]
    refine ⟨hinv, Or.inl ⟨hp, fun _ hcall => ?_⟩⟩
    obtain ⟨buff, hcall⟩ := hcall
    rw [hd] at hcall
    cases hcall
  | idle hd hup =>
    obtain ⟨hc, hlow, hhigh⟩ := updatePeriod_cases hup
    refine ⟨flagInv_lowered (by rw [hc]), ?_⟩
    have hset : TaskSetsPeriod pl fs s := fun _ ⟨buff, hcall⟩ => by
      rw [hd] at hcall
      cases hcall
    cases hf : s.config.storage.metadataUpdatedFlag with
    | false => exact Or.inl ⟨hlow hf, hset⟩
    | true =>
      have hone : s'.config.metadata.generalMeasurementPeriod = 1 := by
        rw [hc]
        exact (hinv hf).2
      refine Or.inr ⟨computed_of_le (by rw [hone]; decide) (hhigh hf), ?_⟩
      rw [hone]
      exact ⟨fun _ => hset, fun _ => by decide⟩
  | @call sig buff config hd hh hup =>
    obtain ⟨hc, hlow, hhigh⟩ := updatePeriod_cases hup
    refine ⟨flagInv_lowered (by rw [hc]), ?_⟩
    cases hf : config.storage.metadataUpdatedFlag with
    | false =>
      refine Or.inl ⟨hlow hf, fun hpend => ?_⟩
      rw [handler_flag hh hpend] at hf
      cases hf
    | true =>
      obtain ⟨hle, hiff⟩ := handler_period hinv hh hf
      have hm : s'.config.metadata = config.metadata := by rw [hc]; rfl
      rw [← hm] at hle hiff
      refine Or.inr ⟨computed_of_le hle (hhigh hf), hiff.trans ?_⟩
      constructor
      · intro hset hpend ⟨buff', hcall⟩
        rw [hd] at hcall
        cases hcall
        exact hset hpend rfl
      · intro hset hpend hsig
        rw [hsig] at hd
        exact hset hpend ⟨buff, hd⟩

/-! ## No overflow -/

theorem updatePeriod_ok {s : System σ ρ} (h : s.config.storage.metadataUpdatedFlag = true →
    s.config.metadata.generalMeasurementPeriod.toNat ≤ 255) : ∃ s', updatePeriod s = .ok s' := by
  unfold updatePeriod getMetadataUpdatedFlag
  cases hf : s.config.storage.metadataUpdatedFlag with
  | false => exact ⟨_, rfl⟩
  | true =>
    obtain ⟨p, hok, -⟩ := getMeasurementPeriod_ok (h hf)
    exact ⟨_, bind_eq_ok.mpr ⟨p, hok, rfl⟩⟩

/-- A call of `configurationTask` never overflows. -/
theorem configurationTask_noOverflow {s : System σ ρ} (hinv : FlagInv s.config) (ticks : Ticks) :
    configurationTask pl fs clock ticks s ≠ .error .signedOverflow := by
  intro h
  rw [configurationTask_eq] at h
  rcases hd : dispatched s with ⟨_ | _ | ⟨sig, buff⟩, serial⟩
  · rw [hd] at h
    cases h
  · obtain ⟨s', hs'⟩ := updatePeriod_ok (s := { s with serial := serial })
      (fun hf => by rw [show _ = (1 : UInt16) from (hinv hf).2]; decide)
    rw [hd] at h
    cases hs'.symm.trans h
  · rw [hd] at h
    rcases bind_eq_error.mp h with h | ⟨config, hh, h⟩
    · rcases handler_error h with h | h <;> cases h
    · obtain ⟨s', hs'⟩ := updatePeriod_ok (s := { s with serial := serial, config := config })
        (fun hf => (handler_period hinv hh hf).1)
      cases hs'.symm.trans h

/-- A boot never overflows. -/
theorem main_noOverflow (device : σ) (rtc : ρ) (ticks : Ticks) :
    main pl fs clock ticks (powerOn device rtc) ≠ .error .signedOverflow := by
  intro h
  rcases bind_eq_error.mp h with h | ⟨⟨ready, st⟩, hfs, h⟩
  · rw [initFS_powerOn] at h
    split at h
    · rcases retrieveMetadata_error h with h | h <;> cases h
    · cases h
  · cases ready with
    | false => cases h
    | true =>
      obtain ⟨p, hok, -⟩ := getMeasurementPeriod_ok (initFS_period hfs).2.1
      obtain ⟨u, -, h⟩ := (bind_eq_error.mp h).resolve_left nofun
      rcases bind_eq_error.mp h with h | ⟨p', -, h⟩
      · cases hok.symm.trans h
      · rcases bind_eq_error.mp h with h | ⟨config, -, h⟩
        · rcases handler_error h with h | h <;> cases h
        · cases h

/-! ## Runs -/

/-- The condition of a step: where it computes the period from a file it loads, the file sets it. -/
def FileSetsPeriod (pl : Platform) (fs : FileHandler σ) (t : Taken (System σ ρ) (Input σ ρ)) :
    Prop :=
  match t.input with
  | .boot device _ _ => SetsPeriod pl fs (mounted fs device)
  | .task line _ => TaskSetsPeriod pl fs (t.before.receive line)

/-- After a step: the tick handlers are defined; the period is one that was kept, or the exact product
for the record; and whatever is called next does not overflow. -/
structure PeriodSound (pl : Platform) (fs : FileHandler σ) (clock : RtcInterface ρ)
    (t : Taken (System σ ρ) (Input σ ρ)) : Prop where
  positive : 1 ≤ t.after.measurementTaskPeriod.toNat
  ticks : ∀ k, (∃ k', myTickHandler t.after.measurementTaskPeriod k = .ok k') ∧
    ∃ k', sysTickHandler t.after.measurementTaskPeriod k = .ok k'
  exact_product : (∃ line ticks, t.input = .task line ticks ∧
    t.after.measurementTaskPeriod = t.before.measurementTaskPeriod) ∨ Computed t.after
  noOverflow : (∀ line ticks,
      configurationTask pl fs clock ticks (t.after.receive line) ≠ .error .signedOverflow) ∧
    ∀ device rtc ticks, main pl fs clock ticks (powerOn device rtc) ≠ .error .signedOverflow

/-- What every step does, from a state in which the flag is pending at most in the first state of the
terminal. -/
theorem step_period {s s' : System σ ρ} {i : Input σ ρ} (hinv : FlagInv s.config)
    (h : Step pl fs clock s i s') :
    FlagInv s'.config ∧
      (((∃ line ticks, i = .task line ticks ∧ s'.measurementTaskPeriod = s.measurementTaskPeriod) ∧
          FileSetsPeriod pl fs ⟨s, i, s'⟩) ∨
        (Computed s' ∧ (s'.config.metadata.generalMeasurementPeriod ≠ 0 ↔
          FileSetsPeriod pl fs ⟨s, i, s'⟩))) := by
  cases h with
  | task h =>
    rename_i line ticks
    obtain ⟨hinv', hperiod⟩ := configurationTask_period
      (s := s.receive line) hinv h
    refine ⟨hinv', ?_⟩
    rcases hperiod with ⟨hkept, hset⟩ | hcomp
    · exact Or.inl ⟨⟨line, ticks, rfl, hkept⟩, hset⟩
    · exact Or.inr hcomp
  | boot h =>
    obtain ⟨hinv', hcomp, hiff⟩ := main_period h
    exact ⟨hinv', Or.inr ⟨hcomp, hiff⟩⟩

theorem flagInv_preserved :
    Preserved (Step pl fs clock) fun s : System σ ρ => FlagInv s.config :=
  fun _ _ _ hinv h => (step_period hinv h).1

/-- A computed period is positive exactly where the record has one. -/
theorem computed_positive_iff {s : System σ ρ} (h : Computed s) :
    1 ≤ s.measurementTaskPeriod.toNat ↔ s.config.metadata.generalMeasurementPeriod ≠ 0 := by
  rw [h.1, ne_eq, ← UInt16.toNat_inj]
  simp only [msInOneMinute, UInt16.toNat_zero]
  omega

/-- Of what `PeriodSound` says, only that the period is positive depends on the file. -/
theorem periodSound_iff_positive {t : Taken (System σ ρ) (Input σ ρ)} (hinv : FlagInv t.before.config)
    (h : Step pl fs clock t.before t.input t.after) :
    PeriodSound pl fs clock t ↔ 1 ≤ t.after.measurementTaskPeriod.toNat := by
  obtain ⟨hinv', hperiod⟩ := step_period hinv h
  constructor
  · exact PeriodSound.positive
  · intro hpos
    refine ⟨hpos, fun k => (tickHandlers_ok_iff _ k).mpr hpos, ?_, ?_, main_noOverflow⟩
    · rcases hperiod with ⟨hkept, -⟩ | ⟨hcomp, -⟩
      · exact Or.inl hkept
      · exact Or.inr hcomp
    · intro line ticks
      exact configurationTask_noOverflow
        (s := t.after.receive line) hinv' ticks

/-- **The period over any number of boots and sessions.** In a run from power-on, after every step the
tick handlers are defined and the period is the exact product, exactly when each step that computes
the period from a file it loads finds one that sets it. -/
theorem period_sound_iff {device : σ} {rtc : ρ} {ts : List (Taken (System σ ρ) (Input σ ρ))}
    {s' : System σ ρ} (h : Run (Step pl fs clock) (powerOn device rtc) ts s') :
    (∀ t ∈ ts, PeriodSound pl fs clock t) ↔ ∀ t ∈ ts, FileSetsPeriod pl fs t := by
  have h0 : FlagInv (powerOn device rtc).config := flagInv_lowered rfl
  have htaken := h.taken flagInv_preserved h0
  have hsound : (∀ t ∈ ts, PeriodSound pl fs clock t) ↔
      ∀ t ∈ ts, 1 ≤ t.after.measurementTaskPeriod.toNat :=
    forall₂_congr fun t ht => periodSound_iff_positive (htaken t ht).1 (htaken t ht).2
  refine hsound.trans ?_
  have hpos₀ : 1 ≤ (powerOn device rtc).measurementTaskPeriod.toNat := by
    show 1 ≤ (UInt32.ofNat msInOneMinute).toNat
    decide
  refine h.forall_after_iff (P := fun s => 1 ≤ s.measurementTaskPeriod.toNat) flagInv_preserved
    (fun t hinv hpos hstep => ?_) h0 hpos₀
  obtain ⟨-, hperiod⟩ := step_period hinv hstep
  rcases hperiod with ⟨⟨line, ticks, -, hkept⟩, hset⟩ | ⟨hcomp, hiff⟩
  · rw [hkept]
    exact ⟨fun _ => hset, fun _ => hpos⟩
  · exact (computed_positive_iff hcomp).trans hiff

/-! ## On the host -/

/-- A boot on the host with the file `c`. -/
theorem hostBoot {c : List Byte} (hne : c ≠ []) (hlen : c.length < metadataBufferSize)
    (h0 : (0 : Byte) ∉ c) (ticks : Ticks) : ∃ s' d b,
    main .host cFileHandler blankClock ticks (powerOn ⟨some c, none⟩ ()) = .ok s' ∧
      s'.config.storage = ⟨assignFields .host 0 (fields semicolon c) LoggerMetadata.static, false, b,
        true, d⟩ ∧ cMedium.Idle d ∧ s'.config.activeState = .initState ∧ s'.serial = .idle := by
  obtain ⟨d, b, hi, -, hret⟩ := retrieveMetadata_zeroed .host cMedium
    (mounted cFileHandler ⟨some c, none⟩) rfl rfl rfl rfl hne hlen h0
  have hfs := (initFS_powerOn .host cFileHandler ⟨some c, none⟩ ()).trans
    ((if_pos rfl).trans hret)
  obtain ⟨p, hp, -⟩ := getMeasurementPeriod_ok (initFS_period hfs).2.1
  obtain ⟨s', hs', hst, -⟩ := main_ok blankClock ticks hfs hp
  obtain ⟨-, -, ha, hserial⟩ := main_cases hs'
  exact ⟨s', d, b, hs', hst, hi, ha, hserial⟩

/-- The first boot of a host creates the default file. -/
theorem hostFirstBoot (ticks : Ticks) :
    ∃ s', main .host cFileHandler blankClock ticks (powerOn ⟨none, none⟩ ()) = .ok s' ∧
      s'.config.metadata = defaultRecord LoggerMetadata.static ∧ s'.serial = .idle := by
  obtain ⟨d, b, -, -, hret⟩ := retrieveMetadata_creates .host cMedium
    (mounted cFileHandler ⟨none, none⟩) rfl rfl rfl
  have hfs := (initFS_powerOn .host cFileHandler ⟨none, none⟩ ()).trans ((if_pos rfl).trans hret)
  obtain ⟨p, hp, -⟩ := getMeasurementPeriod_ok (initFS_period hfs).2.1
  obtain ⟨s', hs', hst, -⟩ := main_ok blankClock ticks hfs hp
  exact ⟨s', hs', congrArg InternalStorage.metadata hst, (main_cases hs').2.2.2⟩

/-- A boot from power-on, as a transition. -/
def bootOf (device : CFile) (after : System CFile Unit) :
    Taken (System CFile Unit) (Input CFile Unit) :=
  ⟨powerOn device (), .boot device () ⟨0, 0⟩, after⟩

/-- The first boot of a host creates the default file, and the period is sound. -/
theorem period_sound_firstBoot : ∃ s', ∀ t ∈ [bootOf ⟨none, none⟩ s'],
    PeriodSound .host cFileHandler blankClock t := by
  obtain ⟨s', h, -⟩ := hostFirstBoot ⟨0, 0⟩
  refine ⟨s', (period_sound_iff (.cons (.boot h) (.nil s'))).mpr ?_⟩
  intro t ht
  rw [List.mem_singleton] at ht
  rw [ht]
  exact fun hopen => absurd hopen.1 Bool.false_ne_true

/-- A file with the period `0` is loaded, and the next tick divides by it. -/
theorem period_zero_fails : ∃ s', Run (Step .host cFileHandler blankClock)
    (powerOn ⟨some (ascii "station;1;1;0;1"), none⟩ ())
    [bootOf ⟨some (ascii "station;1;1;0;1"), none⟩ s'] s' ∧
    s'.measurementTaskPeriod.toNat = 0 ∧
    ∀ k, myTickHandler s'.measurementTaskPeriod k = .error .divideByZero := by
  obtain ⟨s', d, b, h, hst, -⟩ := hostBoot (c := ascii "station;1;1;0;1") (by decide) (by decide)
    (by decide) ⟨0, 0⟩
  have hg : s'.config.metadata.generalMeasurementPeriod = 0 := by
    unfold ConfigSubsystem.metadata
    rw [hst, assignFields_measurement]
    decide
  have hzero : s'.measurementTaskPeriod.toNat = 0 := by
    rw [(main_period h).2.1.1, hg]
    rfl
  refine ⟨s', .cons (.boot h) (.nil s'), hzero, fun k => ?_⟩
  have hp : s'.measurementTaskPeriod = 0 := UInt32.toNat_inj.mp hzero
  unfold myTickHandler
  rw [hp]
  rfl

end GenLogger.Config
