import GenLogger.Config.Terminal
import GenLogger.Lib.Run

/-!
# The rate of the samples

A streaming step reads the clock once to start a delay, where none is running, and again to see
whether it is over; `_flagStreamDelay` says that one runs, and `_ticks` when it began. Both stay as
they are when `streamADC` is left.

* `Requested` is a call that asks the sensors for a sample, which the model sees on the console.
* `readings` is what a call reads of the clock: one or two values for a streaming step, none for
  another call. They are inputs, and do not decrease along a run.
* `Since` is what is known from a reading `x` on: the delay that runs began no earlier.

Results:
* `handler_quiet`: every other call leaves the delay alone and requests nothing.
* `streamStep_delay`, `since_step`: a streaming step, and what is known after it.
* `samples_apart`: over every run of calls of `handler`, from any state, samples are requested only in
  `streamADC`, and the readings of any two requests are more than 1000 apart.
-/

namespace GenLogger.Config

open GenLogger.Lib GenLogger.Platform

variable {σ ρ : Type}

/-- The call is a streaming step. -/
def Streams (c : ConfigSubsystem σ ρ) (k : KeyPress) : Prop :=
  c.activeState = .streamADC ∧ k.sig = .streamData

instance (c : ConfigSubsystem σ ρ) (k : KeyPress) : Decidable (Streams c k) :=
  inferInstanceAs (Decidable (_ ∧ _))

/-- The readings of `getTicks` that a call makes. -/
def readings (t : Taken (ConfigSubsystem σ ρ) KeyPress) : List UInt64 :=
  if Streams t.before t.input then
    if t.before.flagStreamDelay = false then [t.input.ticks.first, t.input.ticks.second]
    else [t.input.ticks.second]
  else []

/-- A sample was requested. -/
def Requested (t : Taken (ConfigSubsystem σ ρ) KeyPress) : Prop :=
  ∃ l, t.after.console = t.before.console ++ l ∧ .sample ∈ l

/-- No sample was requested, and the delay is where it was. -/
structure Quiet (c c' : ConfigSubsystem σ ρ) : Prop where
  flag : c'.flagStreamDelay = c.flagStreamDelay
  ticks : c'.ticks = c.ticks
  console : ∃ l, c'.console = c.console ++ l ∧ .sample ∉ l

variable {pl : Platform} {fs : FileHandler σ} {clock : RtcInterface ρ}

/-! ## The other calls -/

theorem Quiet.trans {c₁ c₂ c₃ : ConfigSubsystem σ ρ} (h : Quiet c₁ c₂) (h' : Quiet c₂ c₃) :
    Quiet c₁ c₃ := by
  obtain ⟨l, hl, hno⟩ := h.console
  obtain ⟨m, hm, hno'⟩ := h'.console
  refine ⟨h'.flag.trans h.flag, h'.ticks.trans h.ticks, l ++ m, ?_, ?_⟩
  · rw [hm, hl, List.append_assoc]
  · exact fun hmem => (List.mem_append.mp hmem).elim hno hno'

/-- What is changed is neither the delay nor the console. -/
theorem quiet_same {c c' : ConfigSubsystem σ ρ} (hf : c'.flagStreamDelay = c.flagStreamDelay)
    (ht : c'.ticks = c.ticks) (hc : c'.console = c.console) : Quiet c c' :=
  ⟨hf, ht, [], hc.trans (List.append_nil _).symm, List.not_mem_nil⟩

/-- A text is no sample. -/
theorem quiet_text {c c' : ConfigSubsystem σ ρ} (s : String)
    (hf : c'.flagStreamDelay = c.flagStreamDelay) (ht : c'.ticks = c.ticks)
    (hc : c'.console = c.console ++ [.text s]) : Quiet c c' :=
  ⟨hf, ht, [.text s], hc, by simp⟩

theorem quiet_print (c : ConfigSubsystem σ ρ) (s : String) : Quiet c (c.print s) :=
  quiet_text s rfl rfl rfl

theorem quiet_promptIfNoPayload (key : TerminalSignal) (s : String) (buff : Option CStr)
    (c : ConfigSubsystem σ ρ) : Quiet c (promptIfNoPayload key s buff c) := by
  unfold promptIfNoPayload
  split
  · exact quiet_text s rfl rfl rfl
  · exact quiet_same rfl rfl rfl

theorem quiet_enterPayload (b : CStr) (c : ConfigSubsystem σ ρ) :
    Quiet c (enterPayload pl clock b c) := by
  unfold enterPayload enterName enterTime enterFile enterPeriod
  split
  · exact quiet_text _ rfl rfl rfl
  · split
    · exact quiet_print c _
    · dsimp only
      split <;> exact quiet_text _ rfl rfl rfl
  · split <;> exact quiet_text _ rfl rfl rfl
  · split <;> exact quiet_text _ rfl rfl rfl
  · split <;> exact quiet_text _ rfl rfl rfl
  · exact quiet_same rfl rfl rfl

theorem quiet_storeCommand {c c' : ConfigSubsystem σ ρ} (h : storeCommand pl fs c = .ok c') :
    Quiet c c' := by
  obtain ⟨name, -, h⟩ := bind_eq_ok.mp h
  obtain ⟨⟨res, st⟩, -, h⟩ := bind_eq_ok.mp h
  cases h
  exact ⟨rfl, rfl, [_, _], List.append_assoc _ _ _, by simp⟩

theorem quiet_dispatchInfo {sig : TerminalSignal} {c c' : ConfigSubsystem σ ρ} {e : TerminalEvent}
    (h : dispatchInfo pl fs clock sig c = .ok (e, c')) : Quiet c c' := by
  by_cases hs : sig = .entry
  · subst hs
    obtain ⟨ret, st, name, -, -, rfl⟩ := dispatchInfo_prints h
    exact ⟨rfl, rfl, [_], rfl, by simp⟩
  · cases sig <;> first
      | exact absurd rfl hs
      | (cases h; exact quiet_print c _)
      | (cases h; exact quiet_same rfl rfl rfl)

/-- Only a streaming step starts a delay or ends one. -/
theorem signalDispacher_quiet {state : TerminalState} {sig : TerminalSignal} {buff : Option CStr}
    {ticks : Ticks} {c c' : ConfigSubsystem σ ρ} {e : TerminalEvent}
    (hno : ¬ (state = .streamADC ∧ sig = .streamData))
    (h : signalDispacher pl fs clock state sig buff ticks c = .ok (e, c')) : Quiet c c' := by
  cases state with
  | initState =>
    cases sig <;> cases h <;> first
      | exact quiet_same rfl rfl rfl
      | exact quiet_print c _
  | sensorConfig => cases h; exact quiet_same rfl rfl rfl
  | networkConfig => cases h; exact quiet_same rfl rfl rfl
  | basicDeviceInfo => exact quiet_dispatchInfo h
  | streamADC =>
    cases sig <;> cases h <;> first
      | exact absurd ⟨rfl, rfl⟩ hno
      | exact quiet_same rfl rfl rfl
      | exact quiet_text _ rfl rfl rfl
  | basicDeviceConfig =>
    cases sig <;> try first
      | (cases h; exact quiet_same rfl rfl rfl)
      | (cases h; exact quiet_text _ rfl rfl rfl)
      | (cases h; exact quiet_promptIfNoPayload _ _ buff c)
    case pressedKeyEnter =>
      cases buff with
      | none => cases h; exact quiet_print c _
      | some b => cases h; exact quiet_enterPayload b c
    case pressedKeyS =>
      obtain ⟨c₁, hc₁, h⟩ := bind_eq_ok.mp h
      cases h
      exact quiet_storeCommand hc₁

theorem handler_quiet {c c' : ConfigSubsystem σ ρ} {k : KeyPress} (hno : ¬ Streams c k)
    (h : Pressed pl fs clock c k c') : Quiet c c' := by
  cases hn : nextState c.activeState k.sig with
  | some s =>
    obtain ⟨e, hd⟩ := handler_moved hn h
    have hleave : Quiet c ({ c with activeState := s } : ConfigSubsystem σ ρ).clearScreen :=
      quiet_text _ rfl rfl rfl
    exact hleave.trans (signalDispacher_quiet (fun hs => by cases hs.2) hd)
  | none =>
    obtain ⟨e, hd⟩ := handler_stay hn h
    exact signalDispacher_quiet hno hd

/-! ## A streaming step -/

/-- When the delay began that a streaming step looks at. -/
def delayStart (ticks : Ticks) (c : ConfigSubsystem σ ρ) : UInt64 :=
  if c.flagStreamDelay = false then ticks.first else c.ticks

/-- A step requests a sample where the delay is over, and the delay goes on where it is not. -/
theorem streamStep_delay (ticks : Ticks) (c : ConfigSubsystem σ ρ) :
    (ticks.second - delayStart ticks c > 1000 → (streamStep ticks c).flagStreamDelay = false) ∧
      (¬ ticks.second - delayStart ticks c > 1000 → (streamStep ticks c).flagStreamDelay = true ∧
        (streamStep ticks c).ticks = delayStart ticks c ∧
        (streamStep ticks c).console = c.console) := by
  unfold streamStep delayStart
  cases hflag : c.flagStreamDelay with
  | false =>
    simp only [if_true]
    exact ⟨fun hover => by rw [if_pos hover], fun hruns => by rw [if_neg hruns]; exact ⟨rfl, rfl, rfl⟩⟩
  | true =>
    simp only [Bool.true_eq_false, if_false]
    exact ⟨fun hover => by rw [if_pos hover],
      fun hruns => by rw [if_neg hruns]; exact ⟨hflag, rfl, rfl⟩⟩

theorem handler_streamData {c : ConfigSubsystem σ ρ} (ha : c.activeState = .streamADC) (ticks : Ticks) :
    Pressed pl fs clock c ⟨.streamData, none, ticks⟩ (streamStep ticks c) := by
  obtain ⟨state, prev, avail, delay, start, storage, rtc, console⟩ := c
  cases ha
  rfl

theorem handler_stream {c c' : ConfigSubsystem σ ρ} {k : KeyPress} (hstreams : Streams c k)
    (h : Pressed pl fs clock c k c') : c' = streamStep k.ticks c := by
  obtain ⟨ha, hk⟩ := hstreams
  have hn : nextState c.activeState k.sig = none := by
    rw [ha, hk]
    rfl
  obtain ⟨e, hd⟩ := handler_stay hn h
  rw [ha, hk] at hd
  cases hd
  rfl

/-! ## Runs -/

/-- From the reading `x` on: the readings to come are no earlier, and neither is the delay that runs. -/
structure Since (x : UInt64) (c : ConfigSubsystem σ ρ) (rs : List UInt64) : Prop where
  later : ∀ r ∈ rs, x ≤ r
  delay : c.flagStreamDelay = true → x ≤ c.ticks ∧ ∀ r ∈ rs, c.ticks ≤ r

theorem not_requested {t : Taken (ConfigSubsystem σ ρ) KeyPress} (h : Quiet t.before t.after) :
    ¬ Requested t := by
  rintro ⟨l, hl, hmem⟩
  obtain ⟨m, hm, hno⟩ := h.console
  obtain rfl := List.append_cancel_left (hl.symm.trans hm)
  exact hno hmem

/-- A delay that began at `x` or later is over more than 1000 ticks after `x`. -/
theorem delay_over {x start now : UInt64} (hx : x ≤ start) (hnow : start ≤ now) (h : now - start > 1000) :
    x.toNat + 1000 < now.toNat := by
  have hlt : 1000 < (now - start).toNat := UInt64.lt_iff_toNat_lt.mp h
  rw [UInt64.toNat_sub_of_le _ _ hnow] at hlt
  have hle := UInt64.le_iff_toNat_le.mp hx
  omega

/-- What a streaming step reads, in order: the delay began no later than the second reading. -/
theorem delayStart_between {x : UInt64} {c c' : ConfigSubsystem σ ρ} {k : KeyPress} {rs : List UInt64}
    (hstreams : Streams c k) (hsince : Since x c (readings ⟨c, k, c'⟩ ++ rs))
    (hticks : (readings ⟨c, k, c'⟩ ++ rs).Pairwise (· ≤ ·)) :
    x ≤ delayStart k.ticks c ∧ delayStart k.ticks c ≤ k.ticks.second ∧
      ∀ r ∈ rs, delayStart k.ticks c ≤ r := by
  unfold readings at hsince hticks
  simp only [if_pos hstreams] at hsince hticks
  unfold delayStart
  cases hflag : c.flagStreamDelay with
  | false =>
    simp only [hflag, if_true] at hsince hticks ⊢
    have hfirst : ∀ r ∈ k.ticks.second :: rs, k.ticks.first ≤ r := fun r hr =>
      List.rel_of_pairwise_cons hticks hr
    exact ⟨hsince.later _ (by simp), hfirst _ (by simp), fun r hr => hfirst r (by simp [hr])⟩
  | true =>
    simp only [hflag, Bool.true_eq_false, if_false] at hsince ⊢
    obtain ⟨hx, hlater⟩ := hsince.delay hflag
    exact ⟨hx, hlater _ (by simp), fun r hr => hlater r (by simp [hr])⟩

/-- **One call**: it keeps what is known since `x`, and requests a sample only in `streamADC`, more than
1000 ticks after `x`. -/
theorem since_step {x : UInt64} {c c' : ConfigSubsystem σ ρ} {k : KeyPress} {rs : List UInt64}
    (h : Pressed pl fs clock c k c') (hsince : Since x c (readings ⟨c, k, c'⟩ ++ rs))
    (hticks : (readings ⟨c, k, c'⟩ ++ rs).Pairwise (· ≤ ·)) :
    Since x c' rs ∧ (Requested ⟨c, k, c'⟩ → x.toNat + 1000 < k.ticks.second.toNat) := by
  have hlater : ∀ r ∈ rs, x ≤ r := fun r hr => hsince.later r (List.mem_append_right _ hr)
  by_cases hstreams : Streams c k
  · obtain ⟨hx, hnow, hrs⟩ := delayStart_between hstreams hsince hticks
    obtain ⟨hover, hruns⟩ := streamStep_delay k.ticks c
    rw [← handler_stream hstreams h] at hover hruns
    by_cases hend : k.ticks.second - delayStart k.ticks c > 1000
    · refine ⟨⟨hlater, fun hflag => ?_⟩, fun _ => delay_over hx hnow hend⟩
      rw [hover hend] at hflag
      cases hflag
    · obtain ⟨-, hstart, hconsole⟩ := hruns hend
      refine ⟨⟨hlater, fun _ => by rw [hstart]; exact ⟨hx, hrs⟩⟩, ?_⟩
      rintro ⟨l, hl, hmem⟩
      obtain rfl := List.self_eq_append_right.mp (hconsole.symm.trans hl)
      cases hmem
  · have hquiet := handler_quiet hstreams h
    refine ⟨⟨hlater, fun hflag => ?_⟩, fun hrequest => absurd hrequest (not_requested hquiet)⟩
    obtain ⟨hx, hrs⟩ := hsince.delay (hquiet.flag.symm.trans hflag)
    rw [hquiet.ticks]
    exact ⟨hx, fun r hr => hrs r (List.mem_append_right _ hr)⟩

/-- Every request of a run comes more than 1000 ticks after `x`. -/
theorem requested_since {x : UInt64} {c c' : ConfigSubsystem σ ρ}
    {ts : List (Taken (ConfigSubsystem σ ρ) KeyPress)} (h : Run (Pressed pl fs clock) c ts c')
    (hsince : Since x c (ts.flatMap readings)) (hticks : (ts.flatMap readings).Pairwise (· ≤ ·)) :
    ∀ t ∈ ts, Requested t → x.toNat + 1000 < t.input.ticks.second.toNat := by
  induction h with
  | nil => intro t ht; cases ht
  | @cons c c₁ c' k ts hstep hrun ih =>
    rw [List.flatMap_cons] at hsince hticks
    obtain ⟨hsince', hrequest⟩ := since_step hstep hsince hticks
    exact List.forall_mem_cons.mpr ⟨hrequest, ih hsince' (List.pairwise_append.mp hticks).2.1⟩

/-- A request is made by a streaming step, and ends its delay. -/
theorem requested_cases {c c' : ConfigSubsystem σ ρ} {k : KeyPress} (h : Pressed pl fs clock c k c')
    (hrequest : Requested ⟨c, k, c'⟩) : Streams c k ∧ c'.flagStreamDelay = false := by
  have hstreams : Streams c k := by
    by_contra hno
    exact not_requested (handler_quiet hno h) hrequest
  obtain ⟨hover, hruns⟩ := streamStep_delay k.ticks c
  rw [← handler_stream hstreams h] at hover hruns
  refine ⟨hstreams, hover ?_⟩
  by_contra hend
  obtain ⟨l, hl, hmem⟩ := hrequest
  obtain rfl := List.self_eq_append_right.mp ((hruns hend).2.2.symm.trans hl)
  cases hmem

/-- **Streaming is rate limited.** Over every run of calls of `handler` whose readings of the clock do not
decrease, samples are requested only in `streamADC`, and any two requests are made at readings more than
1000 apart. -/
theorem samples_apart {c c' : ConfigSubsystem σ ρ} {ts : List (Taken (ConfigSubsystem σ ρ) KeyPress)}
    (h : Run (Pressed pl fs clock) c ts c') (hticks : (ts.flatMap readings).Pairwise (· ≤ ·)) :
    (∀ t ∈ ts, Requested t → t.before.activeState = .streamADC) ∧
      ∀ l t m t' r, ts = l ++ t :: (m ++ t' :: r) → Requested t → Requested t' →
        t.input.ticks.second.toNat + 1000 < t'.input.ticks.second.toNat := by
  have hpres : Preserved (Pressed pl fs clock) (fun _ => True) := fun _ _ _ _ _ => trivial
  have htaken := h.taken hpres trivial
  refine ⟨fun t ht hrequest => (requested_cases (htaken t ht).2 hrequest).1.1, ?_⟩
  rintro l t m t' r rfl hrequest hrequest'
  obtain ⟨c₁, -, hrun⟩ := h.split
  cases hrun with
  | @cons c₁ c₂ c' k ts hstep hrun =>
    obtain ⟨hstreams, hflag⟩ := requested_cases hstep hrequest
    rw [List.flatMap_append, List.flatMap_cons] at hticks
    have hafter := (List.pairwise_append.mp hticks).2.1
    have hread : k.ticks.second ∈ readings ⟨c₁, k, c₂⟩ := by
      unfold readings
      rw [if_pos hstreams]
      split <;> simp
    have hsince : Since k.ticks.second c₂ ((m ++ t' :: r).flatMap readings) := by
      refine ⟨fun x hx => (List.pairwise_append.mp hafter).2.2 _ hread x hx, fun hruns => ?_⟩
      rw [hflag] at hruns
      cases hruns
    exact requested_since hrun hsince (List.pairwise_append.mp hafter).2.1 t' (by simp) hrequest'

/-- A host that streams. -/
def streamingHost : ConfigSubsystem CFile Unit where
  activeState := .streamADC
  previousSignal := .entry
  availableSignal := .streamData
  flagStreamDelay := false
  ticks := 0
  storage := ⟨LoggerMetadata.static, false, CBuf.zero _, true, ⟨none, none⟩⟩
  rtc := ()
  console := []

/-- A streaming step with these readings. -/
def streamAt (first second : UInt64) : KeyPress := ⟨.streamData, none, ⟨first, second⟩⟩

/-- Two samples, with a step between them that starts the delay. -/
theorem samples_apart_twice : ∃ t t' t'' c, Run (Pressed .host cFileHandler blankClock) streamingHost
      [t, t', t''] c ∧ t.input = streamAt 0 2000 ∧ t'.input = streamAt 2000 2001 ∧
    t''.input = streamAt 0 3001 ∧ Requested t ∧ Requested t'' ∧
    t.input.ticks.second.toNat + 1000 < t''.input.ticks.second.toNat := by
  let c₁ := streamStep ⟨0, 2000⟩ streamingHost
  let c₂ := streamStep ⟨2000, 2001⟩ c₁
  let c₃ := streamStep ⟨0, 3001⟩ c₂
  have h₁ : c₁.activeState = .streamADC := (streamStep_same _ _).1
  have h₂ : c₂.activeState = .streamADC := (streamStep_same _ _).1.trans h₁
  have hrun : Run (Pressed .host cFileHandler blankClock) streamingHost
      [⟨streamingHost, streamAt 0 2000, c₁⟩, ⟨c₁, streamAt 2000 2001, c₂⟩, ⟨c₂, streamAt 0 3001, c₃⟩] c₃ :=
    .cons (handler_streamData rfl _) (.cons (handler_streamData h₁ _)
      (.cons (handler_streamData h₂ _) (.nil _)))
  have hfirst : Requested ⟨streamingHost, streamAt 0 2000, c₁⟩ :=
    ⟨[.sample], rfl, List.mem_singleton_self _⟩
  have hconsole : c₃.console = c₂.console ++ [.sample] := by decide +kernel
  have hlast : Requested ⟨c₂, streamAt 0 3001, c₃⟩ := ⟨[.sample], hconsole, List.mem_singleton_self _⟩
  have hreadings : [⟨streamingHost, streamAt 0 2000, c₁⟩, ⟨c₁, streamAt 2000 2001, c₂⟩,
      ⟨c₂, streamAt 0 3001, c₃⟩].flatMap readings = [0, 2000, 2000, 2001, 3001] := by decide +kernel
  have hapart := (samples_apart hrun (by rw [hreadings]; decide)).2 [] _ [_] _ [] rfl hfirst hlast
  exact ⟨_, _, _, _, hrun, rfl, rfl, rfl, hfirst, hlast, hapart⟩

end GenLogger.Config
