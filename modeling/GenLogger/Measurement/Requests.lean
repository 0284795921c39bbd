import GenLogger.Lib.Run
import GenLogger.Measurement.Timestamp
import GenLogger.SuperLoop

/-!
# Measurement requests

`runMeasurementTask` is raised by the tick interrupt and lowered at the end of `measurementTask`. Here
the task is taken statement by statement, and the interrupt may come between any two: `pc` is the next
statement of the task, and while it is `test` the rest of the super loop may run.

A tick that raises the flag asks for a measurement. It is lost where `takeMeasurements` has begun and
the flag is still up: the task lowers it at its end, whatever has happened since. Two ticks that raise
the flag before `takeMeasurements` share one measurement.

* `Requests` is the super loop inside the task, with the books of what was asked for and served, which
  are not part of the program.
* That no request is lost has two readings, each with its own condition: `RaisedInTime` for a flag
  that goes down after a measurement only (`NotLost`), `RaisedDown` for a measurement of its own for
  each request (`OwnMeasurements`).

Results:
* `pass_is_measurementTask`: the statements make up the task of the super loop, with the ticks in
  between.
* `late_dooms`: a raise in the task dooms its request.
* `double_overdraws`: a raise of a flag that is up is more than the flag can say.
* `requests_kept_iff`: over a run the flag goes down only after a measurement that began after the
  last raise exactly when no raise comes between `takeMeasurements` and the end of the task, and every
  request has its own measurement exactly when no tick raises a flag that is up.
-/

namespace GenLogger.Measurement

open GenLogger.Lib GenLogger.Platform GenLogger.Config GenLogger.SuperLoop

variable {σ ρ τ : Type}

/-- The statement of `measurementTask` that comes next. -/
inductive MeasurementPc where
  | test
  | takeMeasurements
  | formatData
  | notifyObservers
  | clear
  deriving Repr, DecidableEq

/-- `takeMeasurements` has begun and the flag is not yet lowered. -/
def MeasurementPc.begun : MeasurementPc → Bool
  | .formatData | .notifyObservers | .clear => true
  | .test | .takeMeasurements => false

/-- The super loop inside `measurementTask`, and (not part of the program) what was asked for. -/
structure Requests (σ ρ τ : Type) where
  loop : SuperLoop σ ρ τ
  pc : MeasurementPc
  /-- A `takeMeasurements` call has begun since the flag was last raised. -/
  served : Bool
  /-- How often the flag was raised. -/
  raises : Nat
  /-- How many `takeMeasurements` calls have begun. -/
  measurements : Nat

/-- The tick raises the flag. -/
def expires : Platform → UInt32 → TickState → Bool
  | .host, period, t => (t.tickCount + 1) % period.toUInt64 == 0
  | .target, period, t => (t.tickCount + 1).toUInt32 % period == 0

namespace Requests

/-- `runMeasurementTask`. -/
def flag (s : Requests σ ρ τ) : UInt8 := s.loop.tick.taskRunFlag

/-- The super loop before a call of `measurementTask`. A flag that is up is the first request. -/
def start (loop : SuperLoop σ ρ τ) : Requests σ ρ τ :=
  ⟨loop, .test, false, if loop.tick.taskRunFlag = 1 then 1 else 0, 0⟩

/-- The interrupt. -/
def tick (pl : Platform) (s : Requests σ ρ τ) : Except Fault (Requests σ ρ τ) := do
  let t ← tickHandler pl s.loop.system.measurementTaskPeriod s.loop.tick
  let s' := { s with loop := { s.loop with tick := t } }
  if expires pl s.loop.system.measurementTaskPeriod s.loop.tick then
    .ok { s' with served := false, raises := s.raises + 1 }
  else .ok s'

/-- The next statement of `measurementTask`. The client's mailbox is the buffer `formatData` fills. -/
def task (r : Reading) (s : Requests σ ρ τ) : Except Fault (Requests σ ρ τ) :=
  match s.pc with
  | .test => .ok (if s.flag = 1 then { s with pc := .takeMeasurements } else s)
  | .takeMeasurements => do
    let p ← s.loop.processing.takeMeasurements r
    .ok { s with
      loop := { s.loop with processing := p }
      pc := .formatData
      served := true
      measurements := s.measurements + 1 }
  | .formatData => do
    let p ← s.loop.processing.formatData
    let record ← p.sensorInfoBuff.cstr
    .ok { s with
      loop := { s.loop with processing := p, client := s.loop.client.setMailBox (some record) }
      pc := .notifyObservers }
  | .notifyObservers => .ok { s with
      loop := s.loop.processing.notifyObservers updateObserver s.loop
      pc := .clear }
  | .clear => .ok { s with
      loop := { s.loop with tick := { s.loop.tick with taskRunFlag := 0 } }
      pc := .test }

end Requests

/-- What happens next. -/
inductive MeasurementEvent where
  | tick
  | task (r : Reading)
  | others
  deriving DecidableEq

/-- The interrupt between two statements, the measurement of an iteration, and what else the loop does. -/
inductive RequestsStep (pl : Platform) :
    Requests σ ρ τ → MeasurementEvent → Requests σ ρ τ → Prop
  | tick {s s' : Requests σ ρ τ} (h : s.tick pl = .ok s') : RequestsStep pl s .tick s'
  | task {s s' : Requests σ ρ τ} {r : Reading} (h : s.task r = .ok s') :
      RequestsStep pl s (.task r) s'
  | others {s : Requests σ ρ τ} (loop : SuperLoop σ ρ τ) (hpc : s.pc = .test)
      (ht : loop.tick = s.loop.tick) : RequestsStep pl s .others { s with loop := loop }

/-! ## What a step does to the flag -/

variable {pl : Platform}

theorem tickHandler_flag {period : UInt32} {t t' : TickState}
    (h : tickHandler pl period t = .ok t') :
    t'.taskRunFlag = if expires pl period t then 1 else t.taskRunFlag := by
  cases pl with
  | host =>
    simp only [tickHandler, myTickHandler, expires, beq_iff_eq] at h ⊢
    split at h
    · simp at h
    · split at h
      all_goals
        rename_i hx
        simp only [Except.ok.injEq] at h
        subst h
        simp only [hx, if_true, if_false]
  | target =>
    simp only [tickHandler, sysTickHandler, expires, beq_iff_eq] at h ⊢
    split at h
    · simp at h
    · split at h
      all_goals
        rename_i hx
        simp only [Except.ok.injEq] at h
        subst h
        simp only [hx, if_true, if_false]

/-- `update` of any observers leaves the configuration side and the tick counter alone. -/
theorem notifyObservers_frame (p : ProcessingManager) (loop : SuperLoop σ ρ τ) :
    (p.notifyObservers updateObserver loop).system = loop.system ∧
      (p.notifyObservers updateObserver loop).tick = loop.tick := by
  unfold ProcessingManager.notifyObservers
  induction p.listOfObservers generalizing loop with
  | nil => exact ⟨rfl, rfl⟩
  | cons ref refs ih =>
    rw [List.foldl_cons, (ih _).1, (ih _).2]
    cases ref <;> exact ⟨rfl, rfl⟩

/-- Every step, as far as the flag and the books are concerned. -/
inductive RequestMove (pl : Platform) (s : Requests σ ρ τ) (e : MeasurementEvent)
    (s' : Requests σ ρ τ) : Prop
  | raise (he : e = .tick)
      (hx : expires pl s.loop.system.measurementTaskPeriod s.loop.tick = true)
      (hf : s'.flag = 1) (hpc : s'.pc = s.pc) (hs : s'.served = false)
      (hr : s'.raises = s.raises + 1) (hm : s'.measurements = s.measurements)
  | keep (he : e = .tick → expires pl s.loop.system.measurementTaskPeriod s.loop.tick = false)
      (hf : s'.flag = s.flag) (hpc : s'.pc = s.pc) (hs : s'.served = s.served)
      (hr : s'.raises = s.raises) (hm : s'.measurements = s.measurements)
  | begin (he : e ≠ .tick) (h1 : s.flag = 1) (hpc : s.pc = .test) (hf : s'.flag = s.flag)
      (hpc' : s'.pc = .takeMeasurements) (hs : s'.served = s.served) (hr : s'.raises = s.raises)
      (hm : s'.measurements = s.measurements)
  | take (he : e ≠ .tick) (hpc : s.pc = .takeMeasurements) (hf : s'.flag = s.flag)
      (hpc' : s'.pc = .formatData) (hs : s'.served = true) (hr : s'.raises = s.raises)
      (hm : s'.measurements = s.measurements + 1)
  | pass (he : e ≠ .tick) (hpc : s.pc.begun = true) (hpc' : s'.pc.begun = true)
      (hf : s'.flag = s.flag) (hs : s'.served = s.served) (hr : s'.raises = s.raises)
      (hm : s'.measurements = s.measurements)
  | clear (he : e ≠ .tick) (hpc : s.pc = .clear) (hf : s'.flag = 0) (hpc' : s'.pc = .test)
      (hs : s'.served = s.served) (hr : s'.raises = s.raises)
      (hm : s'.measurements = s.measurements)

theorem requestsStep_move {s s' : Requests σ ρ τ} {e : MeasurementEvent}
    (h : RequestsStep pl s e s') : RequestMove pl s e s' := by
  cases h with
  | tick h =>
    obtain ⟨t, ht, h⟩ := bind_eq_ok.mp h
    have hflag := tickHandler_flag ht
    by_cases hx : expires pl s.loop.system.measurementTaskPeriod s.loop.tick = true
    · rw [if_pos hx] at hflag
      simp only [hx, if_true, Except.ok.injEq] at h
      subst h
      exact .raise rfl hx hflag rfl rfl rfl rfl
    · rw [if_neg hx] at hflag
      simp only [hx, Bool.false_eq_true, if_false, Except.ok.injEq] at h
      subst h
      exact .keep (fun _ => Bool.eq_false_iff.mpr hx) hflag rfl rfl rfl rfl
  | task h =>
    unfold Requests.task at h
    cases hpc : s.pc with
    | test =>
      simp only [hpc, Except.ok.injEq] at h
      by_cases h1 : s.flag = 1
      · rw [if_pos h1] at h
        subst h
        exact .begin nofun h1 hpc rfl rfl rfl rfl rfl
      · rw [if_neg h1] at h
        subst h
        exact .keep nofun rfl rfl rfl rfl rfl
    | takeMeasurements =>
      simp only [hpc] at h
      obtain ⟨p, -, h⟩ := bind_eq_ok.mp h
      simp only [Except.ok.injEq] at h
      subst h
      exact .take nofun hpc rfl rfl rfl rfl rfl
    | formatData =>
      simp only [hpc] at h
      obtain ⟨p, -, h⟩ := bind_eq_ok.mp h
      obtain ⟨record, -, h⟩ := bind_eq_ok.mp h
      simp only [Except.ok.injEq] at h
      subst h
      exact .pass nofun (by rw [hpc]; rfl) rfl rfl rfl rfl rfl
    | notifyObservers =>
      simp only [hpc, Except.ok.injEq] at h
      subst h
      exact .pass nofun (by rw [hpc]; rfl) rfl
        (congrArg TickState.taskRunFlag (notifyObservers_frame _ _).2) rfl rfl rfl
    | clear =>
      simp only [hpc, Except.ok.injEq] at h
      subst h
      exact .clear nofun hpc rfl rfl rfl rfl rfl
  | others loop hpc ht =>
    exact .keep nofun (congrArg TickState.taskRunFlag ht) rfl rfl rfl rfl

/-! ## The statements and the task -/

theorem tickTimes_succ (pl : Platform) (period : UInt32) : ∀ (n : Nat) (t : TickState),
    tickTimes pl period (n + 1) t = (tickTimes pl period n t >>= tickHandler pl period)
  | 0, t => by
    show (tickHandler pl period t >>= .ok) = tickHandler pl period t
    cases tickHandler pl period t <;> rfl
  | n + 1, t => by
    show (tickHandler pl period t >>= tickTimes pl period (n + 1)) =
      (tickHandler pl period t >>= tickTimes pl period n) >>= tickHandler pl period
    rw [LawfulMonad.bind_assoc]
    exact congrArg _ (funext fun t' => tickTimes_succ pl period n t')

/-- Ticks and updates do not meet. -/
theorem notifyObservers_withTick (p : ProcessingManager) (loop : SuperLoop σ ρ τ) (t : TickState) :
    p.notifyObservers updateObserver { loop with tick := t } =
      { p.notifyObservers updateObserver loop with tick := t } := by
  unfold ProcessingManager.notifyObservers
  induction p.listOfObservers generalizing loop with
  | nil => rfl
  | cons ref refs ih =>
    rw [List.foldl_cons, List.foldl_cons]
    cases ref with
    | loggerManager => exact ih (updateObserver .loggerManager loop)
    | httpClient => exact ih (updateObserver .httpClient loop)

/-- What the statements of the task before `pc` make of the loop, without the ticks. -/
def midway (r : Reading) (loop : SuperLoop σ ρ τ) : MeasurementPc → Except Fault (SuperLoop σ ρ τ)
  | .test | .takeMeasurements => .ok loop
  | .formatData => do
    let p ← loop.processing.takeMeasurements r
    .ok { loop with processing := p }
  | .notifyObservers => do
    let p ← (do
      let p ← loop.processing.takeMeasurements r
      p.formatData)
    let record ← p.sensorInfoBuff.cstr
    .ok { loop with processing := p, client := loop.client.setMailBox (some record) }
  | .clear => do
    let p ← (do
      let p ← loop.processing.takeMeasurements r
      p.formatData)
    let record ← p.sensorInfoBuff.cstr
    .ok (p.notifyObservers updateObserver
      { loop with processing := p, client := loop.client.setMailBox (some record) })

/-- A call of `measurementTask` that began with `loop`, has seen `n` ticks and is not at its end. -/
def Passing (pl : Platform) (r : Reading) (loop : SuperLoop σ ρ τ) (n : Nat)
    (s : Requests σ ρ τ) : Prop :=
  s.pc ≠ .test ∧ ∃ base t, midway r loop s.pc = .ok base ∧ base.system = loop.system ∧
    tickTimes pl loop.system.measurementTaskPeriod n loop.tick = .ok t ∧
    s.loop = { base with tick := t }

/-- A tick in the task is one more tick. -/
theorem Passing.tick {r : Reading} {loop : SuperLoop σ ρ τ} {n : Nat} {s s' : Requests σ ρ τ}
    (hp : Passing pl r loop n s) (h : s.tick pl = .ok s') : Passing pl r loop (n + 1) s' := by
  obtain ⟨hpc, base, t, hbase, hsys, ht, hloop⟩ := hp
  obtain ⟨t', ht', h⟩ := bind_eq_ok.mp h
  have hs' : s'.loop = { s.loop with tick := t' } ∧ s'.pc = s.pc := by
    split at h
    all_goals
      simp only [Except.ok.injEq] at h
      subst h
      exact ⟨rfl, rfl⟩
  rw [hloop, hsys] at ht'
  refine ⟨hs'.2 ▸ hpc, base, t', hs'.2 ▸ hbase, hsys, ?_, ?_⟩
  · rw [tickTimes_succ, ht]
    exact ht'
  · rw [hs'.1, hloop]

/-- A statement before the last one moves the task on. -/
theorem Passing.task {r : Reading} {loop : SuperLoop σ ρ τ} {n : Nat} {s s' : Requests σ ρ τ}
    (hp : Passing pl r loop n s) (hne : s.pc ≠ .clear) (h : s.task r = .ok s') :
    Passing pl r loop n s' := by
  obtain ⟨hpc, base, t, hbase, hsys, ht, hloop⟩ := hp
  unfold Requests.task at h
  cases hat : s.pc with
  | test => exact absurd hat hpc
  | clear => exact absurd hat hne
  | takeMeasurements =>
    simp only [hat, midway, Except.ok.injEq] at h hbase
    subst hbase
    rw [hloop] at h
    obtain ⟨p, hp, h⟩ := bind_eq_ok.mp h
    simp only [Except.ok.injEq] at h
    subst h
    exact ⟨nofun, _, t, bind_eq_ok.mpr ⟨p, hp, rfl⟩, hsys, ht, rfl⟩
  | formatData =>
    simp only [hat] at h hbase
    obtain ⟨p, hp, hbase⟩ := bind_eq_ok.mp hbase
    simp only [Except.ok.injEq] at hbase
    subst hbase
    rw [hloop] at h
    obtain ⟨p', hp', h⟩ := bind_eq_ok.mp h
    obtain ⟨record, hrec, h⟩ := bind_eq_ok.mp h
    simp only [Except.ok.injEq] at h
    subst h
    exact ⟨nofun, _, t, bind_eq_ok.mpr ⟨p', bind_eq_ok.mpr ⟨p, hp, hp'⟩,
      bind_eq_ok.mpr ⟨record, hrec, rfl⟩⟩, hsys, ht, rfl⟩
  | notifyObservers =>
    simp only [hat, Except.ok.injEq] at h hbase
    obtain ⟨p, hp, hbase⟩ := bind_eq_ok.mp hbase
    obtain ⟨record, hrec, hbase⟩ := bind_eq_ok.mp hbase
    simp only [Except.ok.injEq] at hbase
    subst hbase
    subst h
    refine ⟨nofun, _, t, bind_eq_ok.mpr ⟨p, hp, bind_eq_ok.mpr ⟨record, hrec, rfl⟩⟩,
      (notifyObservers_frame _ _).1, ht, ?_⟩
    rw [hloop]
    exact notifyObservers_withTick p _ t

/-- The last statement ends the task as `measurementTask` does. -/
theorem Passing.clear {i : LoopInput} {loop : SuperLoop σ ρ τ} {s s' : Requests σ ρ τ}
    (hp : Passing pl i.reading loop i.ticksDuring s) (hflag : loop.tick.taskRunFlag = 1)
    (hpc : s.pc = .clear) (h : s.task i.reading = .ok s') :
    measurementTask pl i loop = .ok s'.loop ∧ s'.pc = .test := by
  obtain ⟨-, base, t, hbase, hsys, ht, hloop⟩ := hp
  unfold Requests.task at h
  simp only [hpc, Except.ok.injEq] at h hbase
  subst h
  obtain ⟨p, hp, hbase⟩ := bind_eq_ok.mp hbase
  obtain ⟨record, hrec, hbase⟩ := bind_eq_ok.mp hbase
  simp only [Except.ok.injEq] at hbase
  unfold measurementTask
  rw [if_pos hflag]
  refine ⟨bind_eq_ok.mpr ⟨p, hp, bind_eq_ok.mpr ⟨record, hrec, ?_⟩⟩, rfl⟩
  obtain ⟨hsys', htick⟩ := notifyObservers_frame p
    { loop with processing := p, client := loop.client.setMailBox (some record) }
  refine bind_eq_ok.mpr ⟨t, ?_, ?_⟩
  · rw [hsys', htick]
    exact ht
  · rw [hloop, ← hbase]

/-- The ticks of a run. -/
def ticksOf (ts : List (Taken (Requests σ ρ τ) MeasurementEvent)) : Nat :=
  (ts.map Taken.input).count .tick

/-- A task that has begun keeps passing, whatever ticks come, until its last statement. -/
theorem passing_run {r : Reading} {loop : SuperLoop σ ρ τ}
    {ts : List (Taken (Requests σ ρ τ) MeasurementEvent)} {s s' : Requests σ ρ τ} {n : Nat}
    (h : Run (RequestsStep pl) s ts s') (hp : Passing pl r loop n s)
    (hin : ∀ t ∈ ts, t.before.pc ≠ .clear ∧ (t.input = .tick ∨ t.input = .task r)) :
    Passing pl r loop (n + ticksOf ts) s' := by
  induction h generalizing n with
  | nil s => exact hp
  | @cons s s₁ s' e ts hs _ ih =>
    rw [List.forall_mem_cons] at hin
    obtain ⟨⟨hne, hor⟩, hin⟩ := hin
    simp only at hne hor
    have hcount : ticksOf (⟨s, e, s₁⟩ :: ts) = ticksOf ts + if e = .tick then 1 else 0 := by
      simp [ticksOf, List.count_cons]
    rw [hcount]
    cases hs with
    | tick h =>
      have := ih (hp.tick h) hin
      rwa [Nat.add_assoc, Nat.add_comm 1] at this
    | task h =>
      simp only [reduceCtorEq, MeasurementEvent.task.injEq, false_or] at hor
      subst hor
      exact ih (hp.task hne h) hin
    | others loop hpc ht => simp at hor

/-- **The statements make up the task.** A call of `measurementTask` that finds the flag up, taken
statement by statement with ticks in between, leaves what the whole task leaves with that many ticks
during the measurement. -/
theorem pass_is_measurementTask {i : LoopInput} {s₀ s s' : Requests σ ρ τ}
    {ts : List (Taken (Requests σ ρ τ) MeasurementEvent)} (hpc₀ : s₀.pc = .takeMeasurements)
    (hflag : s₀.flag = 1) (h : Run (RequestsStep pl) s₀ ts s)
    (hin : ∀ t ∈ ts, t.before.pc ≠ .clear ∧ (t.input = .tick ∨ t.input = .task i.reading))
    (hticks : i.ticksDuring = ticksOf ts) (hpc : s.pc = .clear) (hlast : s.task i.reading = .ok s') :
    measurementTask pl i s₀.loop = .ok s'.loop := by
  have hp₀ : Passing pl i.reading s₀.loop 0 s₀ :=
    ⟨by simp [hpc₀], s₀.loop, s₀.loop.tick, by rw [hpc₀]; rfl, rfl, rfl, rfl⟩
  have hp := passing_run h hp₀ hin
  rw [Nat.zero_add, ← hticks] at hp
  exact (hp.clear hflag hpc hlast).1

/-! ## Runs -/

/-- The flag goes down only if a measurement has begun after it was last raised. -/
def NotLost (t : Taken (Requests σ ρ τ) MeasurementEvent) : Prop :=
  t.before.flag = 1 → t.after.flag = 0 → t.before.served = true

/-- Where nothing is asked for, every request has had its own measurement. -/
def OwnMeasurements (t : Taken (Requests σ ρ τ) MeasurementEvent) : Prop :=
  t.after.flag ≠ 1 → t.after.measurements = t.after.raises

/-- The tick of a transition raises the flag. -/
def Raised (pl : Platform) (t : Taken (Requests σ ρ τ) MeasurementEvent) : Prop :=
  t.input = .tick ∧
    expires pl t.before.loop.system.measurementTaskPeriod t.before.loop.tick = true

/-- No raise between `takeMeasurements` and the end of the task. -/
def RaisedInTime (pl : Platform) (t : Taken (Requests σ ρ τ) MeasurementEvent) : Prop :=
  Raised pl t → t.before.pc.begun = false

/-- No raise of a flag that is up. -/
def RaisedDown (pl : Platform) (t : Taken (Requests σ ρ τ) MeasurementEvent) : Prop :=
  Raised pl t → t.before.flag ≠ 1

/-- The flag is up from the test to the end of the task. -/
def FlagUp (s : Requests σ ρ τ) : Prop := s.pc ≠ .test → s.flag = 1

theorem ne_test_of_begun {pc : MeasurementPc} (h : pc.begun = true) : pc ≠ .test := by
  rintro rfl
  simp [MeasurementPc.begun] at h

theorem flagUp_preserved : Preserved (RequestsStep pl) (FlagUp (σ := σ) (ρ := ρ) (τ := τ)) := by
  intro s e s' hup h hpc'
  cases requestsStep_move h with
  | raise _ _ hf _ _ _ _ => exact hf
  | keep _ hf hpc _ _ _ => exact hf.trans (hup (hpc ▸ hpc'))
  | begin _ h1 _ hf _ _ _ _ => exact hf.trans h1
  | take _ hpc hf _ _ _ _ => exact hf.trans (hup (by simp [hpc]))
  | pass _ hpc _ hf _ _ _ => exact hf.trans (hup (ne_test_of_begun hpc))
  | clear _ _ _ hpc _ _ _ => exact absurd hpc hpc'

/-! ### Lost requests -/

/-- Once `takeMeasurements` has begun, nothing has been asked for since. -/
def ServedInv (s : Requests σ ρ τ) : Prop := FlagUp s ∧ (s.pc.begun = true → s.served = true)

/-- A request the task is about to clear. -/
def Doomed (s : Requests σ ρ τ) : Prop := s.pc.begun = true ∧ s.flag = 1 ∧ s.served = false

theorem served_good {t : Taken (Requests σ ρ τ) MeasurementEvent} (hinv : ServedInv t.before)
    (h : RequestsStep pl t.before t.input t.after) (hq : RaisedInTime pl t) :
    NotLost t ∧ ServedInv t.after := by
  obtain ⟨hup, hserved⟩ := hinv
  have hup' := flagUp_preserved _ _ _ hup h
  cases requestsStep_move h with
  | raise he hx hf hpc _ _ _ =>
    have hbegun := hq ⟨he, hx⟩
    exact ⟨fun _ h0 => by simp [hf] at h0, hup', fun hb => by simp [hpc, hbegun] at hb⟩
  | keep _ hf hpc hs _ _ =>
    exact ⟨fun h1 h0 => by simp [hf, h1] at h0, hup', fun hb => hs.trans (hserved (hpc ▸ hb))⟩
  | begin _ h1 _ hf hpc _ _ _ =>
    exact ⟨fun _ h0 => by simp [hf, h1] at h0, hup', fun hb => by simp [hpc, MeasurementPc.begun] at hb⟩
  | take _ hpc hf _ hs _ _ =>
    exact ⟨fun h1 h0 => by simp [hf, h1] at h0, hup', fun _ => hs⟩
  | pass _ hb _ hf hs _ _ =>
    exact ⟨fun h1 h0 => by simp [hf, h1] at h0, hup', fun _ => hs.trans (hserved hb)⟩
  | clear _ hpc _ hpc' _ _ _ =>
    exact ⟨fun _ _ => hserved (by simp [hpc, MeasurementPc.begun]), hup',
      fun hb => by simp [hpc', MeasurementPc.begun] at hb⟩

/-- A raise in the task dooms its request. -/
theorem late_dooms {t : Taken (Requests σ ρ τ) MeasurementEvent}
    (h : RequestsStep pl t.before t.input t.after) (hq : ¬ RaisedInTime pl t) : Doomed t.after := by
  simp only [RaisedInTime, Classical.not_imp, Bool.not_eq_false] at hq
  obtain ⟨⟨he, hx⟩, hb⟩ := hq
  cases requestsStep_move h with
  | raise _ _ hf hpc hs _ _ => exact ⟨hpc ▸ hb, hf, hs⟩
  | keep hno _ _ _ _ _ => simp [hno he] at hx
  | begin hne _ _ _ _ _ _ _ => exact absurd he hne
  | take hne _ _ _ _ _ _ => exact absurd he hne
  | pass hne _ _ _ _ _ _ => exact absurd he hne
  | clear hne _ _ _ _ _ _ => exact absurd he hne

theorem doomed_lost {t : Taken (Requests σ ρ τ) MeasurementEvent} (hd : Doomed t.before)
    (h : RequestsStep pl t.before t.input t.after) : ¬ NotLost t ∨ Doomed t.after := by
  obtain ⟨hb, h1, hs₀⟩ := hd
  cases requestsStep_move h with
  | raise _ _ hf hpc hs _ _ => exact Or.inr ⟨hpc ▸ hb, hf, hs⟩
  | keep _ hf hpc hs _ _ => exact Or.inr ⟨hpc ▸ hb, hf.trans h1, hs.trans hs₀⟩
  | begin _ _ hpc _ _ _ _ _ => simp [hpc, MeasurementPc.begun] at hb
  | take _ hpc _ _ _ _ _ => simp [hpc, MeasurementPc.begun] at hb
  | pass _ _ hb' hf hs _ _ => exact Or.inr ⟨hb', hf.trans h1, hs.trans hs₀⟩
  | clear _ _ hf _ _ _ _ =>
    refine Or.inl fun hkept => ?_
    have := hkept h1 hf
    simp [hs₀] at this

/-! ### Shared measurements -/

/-- The requests that wait for a measurement to begin: the flag counts for one. -/
def Requests.waiting (s : Requests σ ρ τ) : Nat := if s.flag = 1 ∧ s.pc.begun = false then 1 else 0

/-- The books are balanced. -/
def Balanced (s : Requests σ ρ τ) : Prop := FlagUp s ∧ s.raises = s.measurements + s.waiting

/-- More was asked for than the flag can say. -/
def Overdrawn (s : Requests σ ρ τ) : Prop :=
  FlagUp s ∧ s.flag = 1 ∧ s.measurements + s.waiting < s.raises

/-- How a step that does not raise moves the books: what was owed before is owed after. -/
theorem quiet_books {s s' : Requests σ ρ τ} {e : MeasurementEvent} (hup : FlagUp s)
    (h : RequestsStep pl s e s')
    (hq : e = .tick → expires pl s.loop.system.measurementTaskPeriod s.loop.tick = false) :
    s'.raises = s.raises ∧ s'.measurements + s'.waiting = s.measurements + s.waiting ∧
      (s'.flag = s.flag ∨ s'.flag = 0) := by
  unfold Requests.waiting
  cases requestsStep_move h with
  | raise he hx _ _ _ _ _ => simp [hq he] at hx
  | keep _ hf hpc _ hr hm =>
    rw [hf, hpc, hm]
    exact ⟨hr, rfl, Or.inl rfl⟩
  | begin _ h1 hpc hf hpc' _ hr hm =>
    rw [hf, hpc', hpc, hm]
    exact ⟨hr, rfl, Or.inl rfl⟩
  | take _ hpc hf hpc' _ hr hm =>
    have h1 : s.flag = 1 := hup (by simp [hpc])
    rw [hf, hpc', hpc, hm]
    exact ⟨hr, by simp [h1, MeasurementPc.begun], Or.inl rfl⟩
  | pass _ hb hb' hf _ hr hm =>
    rw [hf, hb, hb', hm]
    exact ⟨hr, rfl, Or.inl rfl⟩
  | clear _ hpc hf hpc' _ hr hm =>
    rw [hf, hpc, hpc', hm]
    exact ⟨hr, by simp [MeasurementPc.begun], Or.inr rfl⟩

/-- A tick that raises the flag adds a request, which the flag can say only if it was down. -/
theorem raise_books {s s' : Requests σ ρ τ} (h : RequestsStep pl s .tick s')
    (hx : expires pl s.loop.system.measurementTaskPeriod s.loop.tick = true) :
    s'.raises = s.raises + 1 ∧ s'.measurements = s.measurements ∧ s'.flag = 1 ∧ s'.pc = s.pc := by
  cases requestsStep_move h with
  | raise _ _ hf hpc _ hr hm => exact ⟨hr, hm, hf, hpc⟩
  | keep hno _ _ _ _ _ => simp [hno rfl] at hx
  | begin hne _ _ _ _ _ _ _ => exact absurd rfl hne
  | take hne _ _ _ _ _ _ => exact absurd rfl hne
  | pass hne _ _ _ _ _ _ => exact absurd rfl hne
  | clear hne _ _ _ _ _ _ => exact absurd rfl hne

theorem waiting_of_down {s : Requests σ ρ τ} (h : s.flag ≠ 1) : s.waiting = 0 :=
  if_neg fun hw => h hw.1

/-- The input of a step that does not raise is no tick, or a tick that does not expire. -/
theorem quiet_of_not_raised {t : Taken (Requests σ ρ τ) MeasurementEvent} (h : ¬ Raised pl t) :
    t.input = .tick →
      expires pl t.before.loop.system.measurementTaskPeriod t.before.loop.tick = false :=
  fun he => Bool.eq_false_iff.mpr fun hx => h ⟨he, hx⟩

theorem balanced_good {t : Taken (Requests σ ρ τ) MeasurementEvent} (hinv : Balanced t.before)
    (h : RequestsStep pl t.before t.input t.after) (hq : RaisedDown pl t) :
    OwnMeasurements t ∧ Balanced t.after := by
  obtain ⟨hup, hbal⟩ := hinv
  have hup' := flagUp_preserved _ _ _ hup h
  by_cases hr : Raised pl t
  · have hdown := hq hr
    have hpc : t.before.pc = .test := by
      by_contra hne
      exact hdown (hup hne)
    obtain ⟨hr', hm, hf, hpc'⟩ := raise_books (hr.1 ▸ h) hr.2
    refine ⟨fun hdown' => absurd hf hdown', hup', ?_⟩
    rw [hr', hm, hbal, waiting_of_down hdown]
    simp [Requests.waiting, hf, hpc', hpc, MeasurementPc.begun]
  · obtain ⟨hr', hm, -⟩ := quiet_books hup h (quiet_of_not_raised hr)
    have hbal' : t.after.raises = t.after.measurements + t.after.waiting := by omega
    refine ⟨fun hdown => ?_, hup', hbal'⟩
    rw [hbal', waiting_of_down hdown, Nat.add_zero]

/-- A raise of a flag that is up is more than the flag can say. -/
theorem double_overdraws {t : Taken (Requests σ ρ τ) MeasurementEvent} (hinv : FlagUp t.before)
    (hle : t.before.measurements + t.before.waiting ≤ t.before.raises)
    (h : RequestsStep pl t.before t.input t.after) (hr : Raised pl t) (h1 : t.before.flag = 1) :
    Overdrawn t.after := by
  obtain ⟨hr', hm, hf, hpc⟩ := raise_books (hr.1 ▸ h) hr.2
  refine ⟨flagUp_preserved _ _ _ hinv h, hf, ?_⟩
  have hw : t.after.waiting = t.before.waiting := by simp only [Requests.waiting, hf, hpc, h1]
  omega

theorem overdrawn_shared {t : Taken (Requests σ ρ τ) MeasurementEvent} (hd : Overdrawn t.before)
    (h : RequestsStep pl t.before t.input t.after) : ¬ OwnMeasurements t ∨ Overdrawn t.after := by
  obtain ⟨hup, h1, hlt⟩ := hd
  by_cases hr : Raised pl t
  · exact Or.inr (double_overdraws hup (Nat.le_of_lt hlt) h hr h1)
  · obtain ⟨hr', hm, hf | hf⟩ := quiet_books hup h (quiet_of_not_raised hr)
    · exact Or.inr ⟨flagUp_preserved _ _ _ hup h, hf.trans h1, by omega⟩
    · have hdown : t.after.flag ≠ 1 := by simp [hf]
      refine Or.inl fun hown => ?_
      have := hown hdown
      have := waiting_of_down hdown
      omega

/-- The flag is up in the task, so a flag that is down is raised in time. -/
theorem raisedInTime_of_down {t : Taken (Requests σ ρ τ) MeasurementEvent} (hup : FlagUp t.before)
    (h : RaisedDown pl t) : RaisedInTime pl t := by
  intro hr
  by_contra hb
  exact h hr (hup (ne_test_of_begun (Bool.not_eq_false _ ▸ hb)))

/-- **When no measurement request is lost.** Over every run in which no tick raises a flag that is
up, the flag goes down only after a measurement that began after it was raised, and every request has
its own measurement. In a run that ends with the flag down and no task running, the first holds
exactly where no tick raises the flag after `takeMeasurements` in the task, and the second exactly
where no tick raises a flag that is up. -/
theorem requests_kept_iff {loop : SuperLoop σ ρ τ}
    {ts : List (Taken (Requests σ ρ τ) MeasurementEvent)} {s : Requests σ ρ τ}
    (h : Run (RequestsStep pl) (.start loop) ts s) :
    ((∀ t ∈ ts, RaisedDown pl t) → ∀ t ∈ ts, NotLost t ∧ OwnMeasurements t) ∧
      (s.pc = .test → s.flag ≠ 1 →
        ((∀ t ∈ ts, NotLost t) ↔ ∀ t ∈ ts, RaisedInTime pl t) ∧
          ((∀ t ∈ ts, OwnMeasurements t) ↔ ∀ t ∈ ts, RaisedDown pl t)) := by
  have hserved : ServedInv (Requests.start loop) :=
    ⟨fun hne => absurd rfl hne, fun hb => by simp [Requests.start, MeasurementPc.begun] at hb⟩
  have hbal : Balanced (Requests.start loop) := by
    refine ⟨hserved.1, ?_⟩
    simp [Requests.start, Requests.waiting, Requests.flag, MeasurementPc.begun]
  constructor
  · intro hq
    refine (h.sound (I := fun s => ServedInv s ∧ Balanced s) (fun t hinv hs hdown => ?_)
      ⟨hserved, hbal⟩ hq).1
    obtain ⟨hown, hbal'⟩ := balanced_good hinv.2 hs hdown
    obtain ⟨hkept, hserved'⟩ := served_good hinv.1 hs (raisedInTime_of_down hinv.1.1 hdown)
    exact ⟨⟨hkept, hown⟩, hserved', hbal'⟩
  · intro hpc hdown
    constructor
    · refine h.settled_iff (I := ServedInv) (D := Doomed) (fun t => served_good)
        (fun t _ hs hq => Or.inr (late_dooms hs hq)) (fun t => doomed_lost) hserved ?_
      rintro ⟨hb, -, -⟩
      exact ne_test_of_begun hb hpc
    · refine h.settled_iff (I := Balanced) (D := Overdrawn) (fun t => balanced_good)
        (fun t hinv hs hq => ?_) (fun t => overdrawn_shared) hbal fun hd => hdown hd.2.1
      simp only [RaisedDown, Classical.not_imp, ne_eq, not_not] at hq
      exact Or.inr (double_overdraws hinv.1 (Nat.le_of_eq hinv.2.symm) hs hq.1 hq.2)

/-! ## On the host -/

/-- `formatData` can print what was measured. -/
def Requests.Measured (s : Requests σ ρ τ) : Prop :=
  ∃ p record, s.loop.processing.formatData = .ok p ∧ p.sensorInfoBuff.cstr = .ok record

/-- The test and `takeMeasurements`. -/
theorem begin_pass (pl : Platform) (r : Reading) {s : Requests σ ρ τ} (hpc : s.pc = .test)
    (hflag : s.flag = 1) : ∃ ts s', Run (RequestsStep pl) s ts s' ∧
      ts.map Taken.input = [.task r, .task r] ∧ s'.pc = .formatData ∧
      s'.loop.system = s.loop.system ∧ s'.loop.tick = s.loop.tick ∧ s'.Measured := by
  obtain ⟨p', record, hp', hrec, -⟩ := measured_record r s.loop.processing
  obtain ⟨p, hp, hp'⟩ := bind_eq_ok.mp hp'
  have htest : s.task r = .ok { s with pc := .takeMeasurements } := by
    unfold Requests.task
    rw [hpc]
    exact congrArg Except.ok (if_pos hflag)
  have htake : ({ s with pc := .takeMeasurements } : Requests σ ρ τ).task r = .ok _ :=
    bind_eq_ok.mpr ⟨p, hp, rfl⟩
  exact ⟨_, _, .cons (.task htest) (.cons (.task htake) (.nil _)), rfl, rfl, rfl, rfl,
    p', record, hp', hrec⟩

/-- The other three statements. -/
theorem finish_pass (pl : Platform) (r : Reading) {s : Requests σ ρ τ} (hpc : s.pc = .formatData)
    (hm : s.Measured) : ∃ ts s', Run (RequestsStep pl) s ts s' ∧
      ts.map Taken.input = [.task r, .task r, .task r] ∧ s'.pc = .test ∧ s'.flag = 0 := by
  obtain ⟨p, record, hp, hrec⟩ := hm
  have hformat : s.task r = .ok { s with
      loop := { s.loop with processing := p, client := s.loop.client.setMailBox (some record) }
      pc := .notifyObservers } := by
    unfold Requests.task
    rw [hpc]
    exact bind_eq_ok.mpr ⟨p, hp, bind_eq_ok.mpr ⟨record, hrec, rfl⟩⟩
  exact ⟨_, _, .cons (.task hformat) (.cons (.task rfl) (.cons (.task rfl) (.nil _))),
    rfl, rfl, rfl⟩

/-- A tick that raises the flag after `takeMeasurements` is lost in that pass. -/
theorem late_tick_lost {loop : SuperLoop σ ρ τ} (hflag : loop.tick.taskRunFlag = 1) (r : Reading)
    {t : TickState} (ht : tickHandler pl loop.system.measurementTaskPeriod loop.tick = .ok t)
    (hx : expires pl loop.system.measurementTaskPeriod loop.tick = true) :
    ∃ ts s, Run (RequestsStep pl) (.start loop) ts s ∧
      ts.map Taken.input = [.task r, .task r, .tick, .task r, .task r, .task r] ∧
      s.flag = 0 ∧ ¬ ∀ t ∈ ts, NotLost t := by
  obtain ⟨ts₁, s₁, h₁, hin₁, hpc₁, hsys, htick, hm⟩ :=
    begin_pass pl r (s := .start loop) rfl hflag
  have hloop : (Requests.start loop).loop = loop := rfl
  rw [hloop] at hsys htick
  let s₂ : Requests σ ρ τ :=
    { s₁ with loop := { s₁.loop with tick := t }, served := false, raises := s₁.raises + 1 }
  have h₂ : s₁.tick pl = .ok s₂ := by
    refine bind_eq_ok.mpr ⟨t, by rw [hsys, htick]; exact ht, ?_⟩
    rw [hsys, htick, if_pos hx]
  obtain ⟨ts₃, s₃, h₃, hin₃, hpc₃, hdown⟩ := finish_pass pl r (s := s₂) hpc₁ hm
  have hdoom : Doomed s₂ :=
    ⟨by show s₁.pc.begun = true; rw [hpc₁]; rfl, by
      have := tickHandler_flag ht
      rwa [if_pos hx] at this, rfl⟩
  refine ⟨_, s₃, h₁.append (.cons (.tick h₂) h₃), by simp [hin₁, hin₃], hdown, fun hkept => ?_⟩
  rcases h₃.doomed (P := NotLost) (fun _ => doomed_lost) hdoom with ⟨t', ht', hlost⟩ | hd
  · exact hlost (hkept t' (by simp [ht']))
  · exact ne_test_of_begun hd.1 hpc₃

/-- A host in front of the super loop, `n` ticks after the timer was started. -/
def hostLoop (n : UInt64) : SuperLoop CFile Unit CFile where
  system := powerOn ⟨none, none⟩ ()
  tick := ⟨n, 1⟩
  processing := { ProcessingManager.init with listOfObservers := observers }
  logger := ⟨false⟩
  client := .init (CStr.ofBytes (ascii "http://127.0.0.0:8080/api/hello"))
  log := ⟨none, none⟩

/-- What its sensors give. -/
abbrev hostNoon : Reading := marchReading "01/03/2025"

/-- The first measurement of a host, without a tick in it. -/
theorem requests_kept_first : ∃ ts s, Run (RequestsStep .host) (.start (hostLoop 10)) ts s ∧
    s.flag = 0 ∧ ∀ t ∈ ts, NotLost t ∧ OwnMeasurements t := by
  obtain ⟨ts₁, s₁, h₁, hin₁, hpc₁, -, -, hm⟩ :=
    begin_pass .host hostNoon (s := .start (hostLoop 10)) rfl rfl
  obtain ⟨ts₂, s₂, h₂, hin₂, -, hdown⟩ := finish_pass .host hostNoon hpc₁ hm
  have hrun := h₁.append h₂
  refine ⟨_, s₂, hrun, hdown, (requests_kept_iff hrun).1 fun t ht => ?_⟩
  have hin : t.input ∈ (ts₁ ++ ts₂).map Taken.input := List.mem_map_of_mem ht
  rw [List.map_append, hin₁, hin₂] at hin
  rintro ⟨htick, -⟩
  simp [htick] at hin

/-- The 60000th tick comes while the first measurement of a slow start is being printed. -/
theorem request_60000_lost : ∃ ts s, Run (RequestsStep .host) (.start (hostLoop 59999)) ts s ∧
    ts.map Taken.input = [.task hostNoon, .task hostNoon, .tick,
      .task hostNoon, .task hostNoon, .task hostNoon] ∧
    s.flag = 0 ∧ ¬ ∀ t ∈ ts, NotLost t :=
  late_tick_lost (t := ⟨60000, 1⟩) rfl hostNoon rfl rfl

end GenLogger.Measurement
