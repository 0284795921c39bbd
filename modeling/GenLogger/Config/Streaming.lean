import GenLogger.Config.Period

/-!
# Streaming

`streamADC` asks for its samples through `availableSignal`, which its `ENTRY` sets to `streamData` and
`configurationTask` reads where no line has arrived. No state sets it back, so after streaming was
left the task goes on dispatching `streamData`, and wiping the serial buffer, for ever.

* `SignalSound`: `availableSignal` is `streamData` exactly in `streamADC`.
* `StaysInStream`: the line that leaves streaming, `B`, does not arrive there.

Results:
* `handler_signal`, `configurationTask_streaming`: what a call leaves of the state and the signal.
* `step_streaming`: one step keeps the signal sound unless that line arrives.
* `streaming_sound_iff`: over a run of boots and calls of the configuration task, the signal is sound
  after every step, and a call without a line dispatches only in `streamADC`, exactly when no line `B`
  arrives there.
-/

namespace GenLogger.Config

open GenLogger.Lib GenLogger.Platform

variable {σ ρ : Type} {pl : Platform} {fs : FileHandler σ} {clock : RtcInterface ρ}

/-! ## The task -/

/-- What a call may dispatch where no line was left over: a key, a payload, or the terminal's own
signal, which without a line is that of streaming. -/
theorem dispatched_idle {s : System σ ρ} (hs : s.serial = .idle) (line : Option (List Byte)) :
    (dispatched (s.receive line)).2 = .idle ∧ ∀ sig buff,
      (dispatched (s.receive line)).1 = .call sig buff →
        (∃ k ∈ keyMap, line = some [k.2] ∧ sig = k.1) ∨ (line ≠ none ∧ sig = .pressedKeyEnter) ∨
          (sig = s.config.availableSignal ∧ (line = none → sig = .streamData)) := by
  obtain ⟨serial, config, period⟩ := s
  simp only at hs
  subst hs
  cases line with
  | none =>
    unfold dispatched taskSignal System.receive Serial.receive Serial.serialHandler Serial.idle
    by_cases ha : config.availableSignal = .streamData
    · simp [ha, Serial.getSerialBuffer, Serial.clearSerialBuffer]
    · simp [ha]
  | some l =>
    by_cases hnil : l = []
    · subst hnil
      by_cases ha : config.availableSignal = .none
      · simp [dispatched, taskSignal, System.receive, Serial.receive, Serial.serialHandler,
          Serial.getTerminalSignal, Serial.idle, keyMap, ha]
      · simp [dispatched, taskSignal, System.receive, Serial.receive, Serial.serialHandler,
          Serial.getTerminalSignal, Serial.idle, keyMap, ha, Serial.getSerialBuffer,
          Serial.clearSerialBuffer]
    · by_cases hkey : ∃ k ∈ keyMap, l = [k.2]
      · obtain ⟨k, hk, rfl⟩ := hkey
        rw [dispatched_key rfl hk]
        refine ⟨rfl, fun sig buff h => Or.inl ⟨k, hk, rfl, ?_⟩⟩
        simp only [Dispatch.call.injEq] at h
        exact h.1.symm
      · simp only [not_exists, not_and] at hkey
        rw [dispatched_payload rfl hnil hkey]
        refine ⟨rfl, fun sig buff h => Or.inr (Or.inl ⟨nofun, ?_⟩)⟩
        simp only [Dispatch.call.injEq] at h
        exact h.1.symm

/-! ## Runs -/

/-- The signal says whether the terminal streams. -/
def SignalSound (c : ConfigSubsystem σ ρ) : Prop :=
  c.availableSignal = .streamData ↔ c.activeState = .streamADC

/-- After a step the signal is sound; and if the step was a call without a line that dispatched, the
terminal was streaming. -/
def StreamingSound (t : Taken (System σ ρ) (Input σ ρ)) : Prop :=
  SignalSound t.after.config ∧ ∀ ticks, t.input = .task none ticks →
    ∀ sig buff, (dispatched (t.before.receive none)).1 = .call sig buff →
      t.before.config.activeState = .streamADC

/-- The line that leaves streaming does not arrive there. -/
def StaysInStream (t : Taken (System σ ρ) (Input σ ρ)) : Prop :=
  ∀ ticks, t.input = .task (some (ascii "B")) ticks → t.before.config.activeState ≠ .streamADC

/-- The invariant while nobody leaves streaming. -/
structure StreamInv (s : System σ ρ) : Prop where
  serial : s.serial = .idle
  signal : s.config.availableSignal = .entry ∨ s.config.availableSignal = .streamData
  sound : SignalSound s.config

/-- A call of the handler keeps the signal sound unless it leaves `streamADC`. -/
theorem handler_signal {sig : TerminalSignal} {buff : Option CStr} {ticks : Ticks}
    {c c' : ConfigSubsystem σ ρ} (hsound : SignalSound c)
    (h : handler pl fs clock sig buff ticks c = .ok c') :
    SignalSound c' ↔ ¬ (c.activeState = .streamADC ∧ sig = .pressedKeyB) := by
  have hactive := handler_activeState h
  have havail := (handler_signals h).1
  unfold SignalSound at hsound ⊢
  by_cases ha : c.activeState = .streamADC
  · have hstream := hsound.mpr ha
    by_cases hs : sig = .pressedKeyB
    · simp [hactive, havail, ha, hs, hstream, nextState]
    · have hn : nextState .streamADC sig = none := by
        cases sig <;> first | rfl | exact absurd rfl hs
      simp [hactive, havail, ha, hn, hs, hstream]
  · have hquiet : c.availableSignal ≠ .streamData := mt hsound.mp ha
    by_cases hn : nextState c.activeState sig = some .streamADC
    · simp [hactive, havail, ha, hn]
    · have hother : (nextState c.activeState sig).getD c.activeState ≠ .streamADC := by
        cases hs : nextState c.activeState sig with
        | none => simpa using ha
        | some s => simpa [hs] using hn
      simp [hactive, havail, ha, hn, hquiet, hother]

/-- The line `B`, and nothing else, dispatches the key. -/
theorem dispatched_back {s : System σ ρ} (hinv : StreamInv s) (line : Option (List Byte)) :
    (∃ buff, (dispatched (s.receive line)).1 = .call .pressedKeyB buff) ↔
      line = some (ascii "B") := by
  constructor
  · rintro ⟨buff, hd⟩
    rcases (dispatched_idle hinv.serial line).2 _ _ hd with ⟨k, hk, rfl, hsig⟩ | ⟨-, hsig⟩ | ⟨hsig, -⟩
    · simp only [keyMap, List.mem_cons, List.not_mem_nil, or_false] at hk
      rcases hk with rfl | rfl | rfl | rfl | rfl | rfl | rfl | rfl | rfl <;> simp at hsig
      rfl
    · simp at hsig
    · rcases hinv.signal with h | h <;> simp [h] at hsig
  · rintro rfl
    exact ⟨none, congrArg Prod.fst (dispatched_key hinv.serial (k := (.pressedKeyB, 66)) (by decide))⟩

/-- A call of the task: what it leaves of the terminal's state and signal. -/
theorem configurationTask_streaming {ticks : Ticks} {line : Option (List Byte)} {s s' : System σ ρ}
    (hinv : StreamInv s) (h : configurationTask pl fs clock ticks (s.receive line) = .ok s') :
    (SignalSound s'.config ↔ ¬ (s.config.activeState = .streamADC ∧ line = some (ascii "B"))) ∧
      (s'.config.availableSignal = .entry ∨ s'.config.availableSignal = .streamData) := by
  have hback := dispatched_back hinv line
  have hkept : (∀ buff, (dispatched (s.receive line)).1 ≠ .call .pressedKeyB buff) →
      ¬ (s.config.activeState = .streamADC ∧ line = some (ascii "B")) := by
    rintro hno ⟨-, hline⟩
    obtain ⟨buff, hd⟩ := hback.mpr hline
    exact hno buff hd
  cases configurationTask_cases h with
  | nothing hd hc _ =>
    rw [hc]
    exact ⟨iff_of_true hinv.sound (hkept (by simp [hd])), hinv.signal⟩
  | idle hd hu =>
    rw [(updatePeriod_cases hu).1]
    exact ⟨iff_of_true hinv.sound (hkept (by simp [hd])), hinv.signal⟩
  | @call sig buff config hd hh hu =>
    rw [(updatePeriod_cases hu).1]
    have hsignal := handler_signal hinv.sound hh
    have havail := (handler_signals hh).1
    constructor
    · refine hsignal.trans (not_congr (and_congr_right fun _ => ?_))
      rw [← hback, hd]
      simp
    · simp only [havail]
      split
      · exact Or.inr rfl
      · exact hinv.signal

/-- **One step**: the signal stays sound unless the line that leaves streaming arrives there. -/
theorem step_streaming {s s' : System σ ρ} {i : Input σ ρ} (hinv : StreamInv s)
    (h : Step pl fs clock s i s') :
    (StaysInStream ⟨s, i, s'⟩ → StreamingSound ⟨s, i, s'⟩ ∧ StreamInv s') ∧
      (¬ StaysInStream ⟨s, i, s'⟩ → ¬ StreamingSound ⟨s, i, s'⟩) := by
  cases h with
  | boot h =>
    obtain ⟨-, -, ha, hserial⟩ := main_cases h
    have hsig := main_signal h
    have hsound : SignalSound s'.config := by simp [SignalSound, ha, hsig]
    refine ⟨fun _ => ⟨⟨hsound, nofun⟩, hserial, Or.inl hsig, hsound⟩, fun hno => ?_⟩
    exact absurd (fun ticks hin => by simp at hin) hno
  | task h =>
    rename_i line ticks
    obtain ⟨hserial, hdispatched⟩ := dispatched_idle hinv.serial line
    obtain ⟨hsound, hsignal⟩ := configurationTask_streaming hinv h
    have hstays : StaysInStream ⟨s, .task line ticks, s'⟩ ↔
        ¬ (s.config.activeState = .streamADC ∧ line = some (ascii "B")) := by
      constructor
      · rintro hst ⟨ha, rfl⟩
        exact hst ticks rfl ha
      · rintro hno ticks' hin ha
        simp only [Input.task.injEq] at hin
        exact hno ⟨ha, hin.1⟩
    rw [hstays]
    constructor
    · intro hno
      refine ⟨⟨hsound.mpr hno, ?_⟩, (configurationTask_serial h).trans hserial, hsignal,
        hsound.mpr hno⟩
      intro ticks' hin sig buff hd
      simp only [Input.task.injEq] at hin
      obtain ⟨rfl, -⟩ := hin
      rcases hdispatched sig buff hd with ⟨k, -, hline, -⟩ | ⟨hline, -⟩ | ⟨hsig, hstream⟩
      · simp at hline
      · exact absurd rfl hline
      · exact hinv.sound.mp (hsig.symm.trans (hstream rfl))
    · intro hleft hst
      exact hleft (hsound.mp hst.1)

/-- **When streaming ends as it should.** Over a run from power-on, the terminal's signal is
`streamData` exactly in `streamADC` after every step, and calls without a line dispatch only there,
exactly when the line `B` never arrives in `streamADC`. -/
theorem streaming_sound_iff {device : σ} {rtc : ρ} {ts : List (Taken (System σ ρ) (Input σ ρ))}
    {s' : System σ ρ} (h : Run (Step pl fs clock) (powerOn device rtc) ts s') :
    (∀ t ∈ ts, StreamingSound t) ↔ ∀ t ∈ ts, StaysInStream t := by
  have h0 : StreamInv (powerOn device rtc) :=
    ⟨rfl, Or.inl rfl, by simp [SignalSound, powerOn]⟩
  exact h.settled_iff (I := StreamInv) (D := fun _ => False) (fun _ hinv hs => (step_streaming hinv hs).1)
    (fun _ hinv hs hno => Or.inl ((step_streaming hinv hs).2 hno)) (fun _ => False.elim) h0 id

/-! ## On the host -/

/-- A call of the task whose handler returns returns, with a period that can be computed. -/
theorem task_handles {s : System σ ρ} (line : Option (List Byte)) {ticks : Ticks}
    {sig : TerminalSignal} {buff : Option CStr} {config : ConfigSubsystem σ ρ}
    (hd : dispatched (s.receive line) = (.call sig buff, .idle))
    (hh : handler pl fs clock sig buff ticks s.config = .ok config)
    (hg : config.metadata.generalMeasurementPeriod.toNat ≤ 255) :
    ∃ s', configurationTask pl fs clock ticks (s.receive line) = .ok s' ∧ s'.serial = .idle ∧
      s'.config.activeState = config.activeState ∧
      s'.config.availableSignal = config.availableSignal ∧ s'.config.metadata = config.metadata := by
  obtain ⟨p, hp, -⟩ := getMeasurementPeriod_ok hg
  obtain ⟨state, prev, avail, delay, clockTicks, ⟨m, flag, b, ready, d⟩, rtc, console⟩ := config
  rw [configurationTask_eq, hd]
  cases flag with
  | false => exact ⟨_, bind_eq_ok.mpr ⟨_, hh, rfl⟩, rfl, rfl, rfl, rfl⟩
  | true => exact ⟨_, bind_eq_ok.mpr ⟨_, hh, bind_eq_ok.mpr ⟨p, hp, rfl⟩⟩, rfl, rfl, rfl, rfl⟩

/-- The main menu's `S` starts streaming, and `B` ends it. -/
theorem handler_streams (pl : Platform) (fs : FileHandler σ) (clock : RtcInterface ρ)
    (c : ConfigSubsystem σ ρ) (ticks : Ticks) :
    (c.activeState = .initState → ∃ c', handler pl fs clock .pressedKeyS none ticks c = .ok c' ∧
      c'.activeState = .streamADC ∧ c'.availableSignal = .streamData ∧ c'.metadata = c.metadata) ∧
    (c.activeState = .streamADC → ∃ c', handler pl fs clock .pressedKeyB none ticks c = .ok c' ∧
      c'.activeState = .initState ∧ c'.availableSignal = c.availableSignal ∧
      c'.metadata = c.metadata) := by
  obtain ⟨state, prev, avail, delay, clockTicks, storage, rtc, console⟩ := c
  constructor <;> rintro ⟨⟩ <;> exact ⟨_, rfl, rfl, rfl, rfl⟩

/-- A host that was booted for the first time and told to stream, and what `B` does there. -/
theorem host_streams : ∃ s s' ts, Run (Step .host cFileHandler blankClock) (powerOn ⟨none, none⟩ ())
      ts s ∧ ts.map Taken.input = [.boot ⟨none, none⟩ () ⟨0, 0⟩, .task (some (ascii "S")) ⟨0, 0⟩] ∧
    (∀ t ∈ ts, StaysInStream t) ∧
    configurationTask .host cFileHandler blankClock ⟨0, 0⟩ (s.receive (some (ascii "B"))) = .ok s' ∧
    s'.serial = .idle ∧ s'.config.activeState = .initState ∧
    s'.config.availableSignal = .streamData := by
  obtain ⟨s₁, hboot, hmeta, hserial⟩ := hostFirstBoot ⟨0, 0⟩
  have ha : s₁.config.activeState = .initState := (main_cases hboot).2.2.1
  obtain ⟨c₂, hh₂, ha₂, hsig₂, hm₂⟩ :=
    (handler_streams .host cFileHandler blankClock s₁.config ⟨0, 0⟩).1 ha
  obtain ⟨s₂, htask₂, hserial₂, hs₂, hav₂, hmeta₂⟩ := task_handles (some (ascii "S"))
    (dispatched_key hserial (k := (.pressedKeyS, 83)) (by decide)) hh₂ (by rw [hm₂, hmeta]; decide)
  obtain ⟨c₃, hh₃, ha₃, hsig₃, hm₃⟩ :=
    (handler_streams .host cFileHandler blankClock s₂.config ⟨0, 0⟩).2 (hs₂.trans ha₂)
  obtain ⟨s₃, htask₃, hserial₃, hs₃, hav₃, -⟩ := task_handles (some (ascii "B"))
    (dispatched_key hserial₂ (k := (.pressedKeyB, 66)) (by decide)) hh₃
    (by rw [hm₃, hmeta₂, hm₂, hmeta]; decide)
  refine ⟨s₂, s₃, _, .cons (.boot hboot) (.cons (.task htask₂) (.nil _)), rfl, ?_, htask₃, hserial₃,
    hs₃.trans ha₃, ?_⟩
  · intro t ht ticks hin hstream
    simp only [List.mem_cons, List.not_mem_nil, or_false] at ht
    rcases ht with rfl | rfl
    · simp at hin
    · simp [ha] at hstream
  · rw [hav₃, hsig₃, hav₂, hsig₂]

theorem streaming_sound_started : ∃ ts s, Run (Step .host cFileHandler blankClock)
      (powerOn ⟨none, none⟩ ()) ts s ∧
    ts.map Taken.input = [.boot ⟨none, none⟩ () ⟨0, 0⟩, .task (some (ascii "S")) ⟨0, 0⟩] ∧
    ∀ t ∈ ts, StreamingSound t := by
  obtain ⟨s, -, ts, hrun, hin, hstays, -⟩ := host_streams
  exact ⟨ts, s, hrun, hin, (streaming_sound_iff hrun).mpr hstays⟩

/-- After `S` and `B` the terminal is in its first state, and still dispatches `streamData`. -/
theorem streaming_left_fails : ∃ ts s, Run (Step .host cFileHandler blankClock)
      (powerOn ⟨none, none⟩ ()) ts s ∧
    ts.map Taken.input = [.boot ⟨none, none⟩ () ⟨0, 0⟩, .task (some (ascii "S")) ⟨0, 0⟩,
      .task (some (ascii "B")) ⟨0, 0⟩] ∧
    (¬ ∀ t ∈ ts, StreamingSound t) ∧
    (dispatched (s.receive none)).1 = .call .streamData none := by
  obtain ⟨s, s', ts, hrun, hin, -, htask, hserial, ha, hav⟩ := host_streams
  refine ⟨_, s', hrun.append (.cons (.task htask) (.nil _)), by simp [hin], fun hall => ?_, ?_⟩
  · obtain ⟨hsound, -⟩ := hall _ (List.mem_append_right _ List.mem_cons_self)
    have hstream := hsound.mp hav
    simp [ha] at hstream
  · obtain ⟨serial, config, period⟩ := s'
    simp only at hserial hav
    subst hserial
    simp [dispatched, taskSignal, System.receive, Serial.receive, Serial.serialHandler, Serial.idle,
      hav, Serial.getSerialBuffer]

end GenLogger.Config
