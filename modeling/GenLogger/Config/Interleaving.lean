import GenLogger.Config.Streaming

/-!
# The input thread and the configuration task

On the host a second thread stores lines while `configurationTask` runs. Here the task is taken one
critical section at a time: `pc` is the next one, and a line may be stored between any two, but only
while `new_data_available` is down.

`serialHandler` lowers the notice, and the buffer is read and wiped after that, so a line that is
stored in between is read for another one's, or wiped with its notice still up. The next call then
finds a notice and no line, and dispatches the terminal's own signal.

* `Lines` is the system inside the task, with the lines stored and the calls dispatched, which are not
  part of the program.
* `KeptInv` is the invariant while lines are stored in time (`StoredInTime`): what was stored is
  dispatched, or owed by the section that is next.
* `Lines.Behind`, `Lines.Tainted` and `Doomed` are what a line that comes too late leaves until the
  run fails.

Results:
* `sections_configurationTask`: where no line comes in between, the sections do what the call does.
* `step_keeps`: while lines are stored in time, every transition keeps them.
* `late_doomed`, `step_doomed`: a line that comes too late is never made good again.
* `lines_kept_iff`: over a run from `main`, every stored line is dispatched once, in order, with its
  own signal and payload, and nothing else but the streaming signal is, exactly when no line is stored
  between the check of a call that will wipe the buffer and the wiping.
-/

namespace GenLogger.Config

open GenLogger.Lib GenLogger.Platform

variable {σ ρ : Type}

/-- The critical section of `configurationTask` that comes next, with the local variables. -/
inductive TaskPc where
  | serialHandler
  | getTerminalSignal (processInput : Bool)
  | getSerialBuffer (processInput : Bool) (signal : TerminalSignal)
  | handler (processInput : Bool) (signal : TerminalSignal) (pPayload : Option CStr)
  | clearSerialBuffer
  | updatePeriod
  deriving DecidableEq

/-- A call of `handler`, as far as the serial line is concerned. -/
abbrev Command : Type := TerminalSignal × Option CStr

/-- The system inside `configurationTask`, and (not part of the program) what was stored and what was
dispatched. -/
structure Lines (σ ρ : Type) where
  system : System σ ρ
  pc : TaskPc
  stored : List (List Byte)
  calls : List Command

namespace Lines

/-- The variables of `serialHandler.cpp`. -/
def serial (s : Lines σ ρ) : Serial := s.system.serial

/-- What `getSignal` returns. -/
def available (s : Lines σ ρ) : TerminalSignal := s.system.config.availableSignal

/-- The super loop before a call. -/
def start (system : System σ ρ) : Lines σ ρ := ⟨system, .serialHandler, [], []⟩

/-- `uartSimulatorThread` stores a line. -/
def store (l : List Byte) (s : Lines σ ρ) : Lines σ ρ :=
  { s with system := s.system.receive (some l), stored := s.stored ++ [l] }

/-- The signal of the call: that of the line, or the terminal's own. -/
def chosen (processInput : Bool) (s : Lines σ ρ) : TerminalSignal × Serial :=
  let (signal, serial) := if processInput then s.serial.getTerminalSignal else (.none, s.serial)
  (if signal = .none then s.available else signal, serial)

/-- Where the call goes with its signal. -/
def branch (processInput : Bool) (signal : TerminalSignal) : TaskPc :=
  if processInput ∨ signal = .streamData then
    if signal = .none then .serialHandler else .getSerialBuffer processInput signal
  else .updatePeriod

/-- The next section of `configurationTask`. -/
def task (pl : Platform) (fs : FileHandler σ) (clock : RtcInterface ρ) (ticks : Ticks)
    (s : Lines σ ρ) : Except Fault (Lines σ ρ) :=
  match s.pc with
  | .serialHandler =>
    let (processInput, serial) := s.serial.serialHandler
    .ok { s with system := { s.system with serial := serial }, pc := .getTerminalSignal processInput }
  | .getTerminalSignal processInput =>
    let (signal, serial) := s.chosen processInput
    .ok { s with system := { s.system with serial := serial }, pc := branch processInput signal }
  | .getSerialBuffer processInput signal =>
    let (pPayload, serial) := s.serial.getSerialBuffer configBuffSize
    .ok { s with
      system := { s.system with serial := serial }, pc := .handler processInput signal pPayload }
  | .handler _ signal pPayload => do
    let config ← Config.handler pl fs clock signal pPayload ticks s.system.config
    .ok { s with
      system := { s.system with config := config }
      pc := .clearSerialBuffer
      calls := s.calls ++ [(signal, pPayload)] }
  | .clearSerialBuffer => .ok { s with
      system := { s.system with serial := s.serial.clearSerialBuffer }, pc := .updatePeriod }
  | .updatePeriod => do
    let system ← Config.updatePeriod s.system
    .ok { s with system := system, pc := .serialHandler }

/-- The calls that are not the streaming signal's. -/
def commands (s : Lines σ ρ) : List Command := s.calls.filter fun c => c.1 ≠ .streamData

end Lines

/-- What happens next. -/
inductive LineEvent where
  | store (l : List Byte)
  | task (ticks : Ticks)

/-- A line is stored while the notice is down, or the task goes on. -/
inductive LineStep (pl : Platform) (fs : FileHandler σ) (clock : RtcInterface ρ) :
    Lines σ ρ → LineEvent → Lines σ ρ → Prop
  | store {s : Lines σ ρ} (l : List Byte) (hne : l ≠ []) (hnew : s.serial.newDataAvailable = false) :
      LineStep pl fs clock s (.store l) (s.store l)
  | task {s s' : Lines σ ρ} (ticks : Ticks) (h : s.task pl fs clock ticks = .ok s') :
      LineStep pl fs clock s (.task ticks) s'

/-- The signal and the payload of a line on its own. -/
def translate (l : List Byte) : Command :=
  let (signal, serial) := (Serial.mk l false false).getTerminalSignal
  (signal, (serial.getSerialBuffer configBuffSize).1)

/-- No call is running and no line is waiting. -/
def Lines.Idle (s : Lines σ ρ) : Prop :=
  s.pc = .serialHandler ∧ s.serial.newDataAvailable = false

/-- The commands are those of the first lines stored, each once and in order; where nothing is left
to do, of all of them. -/
def LinesKept (t : Taken (Lines σ ρ) LineEvent) : Prop :=
  t.after.commands <+: t.after.stored.map translate ∧
    (t.after.Idle → t.after.commands = t.after.stored.map translate)

/-- The call that is running has looked for a line, and will wipe the buffer. -/
def TaskPc.Wipes (available : TerminalSignal) : TaskPc → Prop
  | .getTerminalSignal processInput => processInput = true ∨ available = .streamData
  | .getSerialBuffer _ _ | .handler _ _ _ | .clearSerialBuffer => True
  | .serialHandler | .updatePeriod => False

/-- No line is stored between the check of a call that will wipe the buffer and the wiping. -/
def StoredInTime (t : Taken (Lines σ ρ) LineEvent) : Prop :=
  ∀ l, t.input = .store l → ¬ t.before.pc.Wipes t.before.available

variable {pl : Platform} {fs : FileHandler σ} {clock : RtcInterface ρ}

/-! ## The sections -/

theorem getTerminalSignal_nil {s : Serial} (h : s.serialBuffer = []) :
    s.getTerminalSignal = (.none, s) := by
  simp [Serial.getTerminalSignal, h, keyMap]

/-- Looking for a signal reads the buffer and may raise `payload`. -/
theorem getTerminalSignal_frame (s : Serial) :
    s.getTerminalSignal.2.serialBuffer = s.serialBuffer ∧
      s.getTerminalSignal.2.newDataAvailable = s.newDataAvailable := by
  unfold Serial.getTerminalSignal
  dsimp only
  split
  · exact ⟨rfl, rfl⟩
  · split <;> exact ⟨rfl, rfl⟩

theorem getSerialBuffer_frame (n : Nat) (s : Serial) :
    (s.getSerialBuffer n).2 = { s with payload := false } := by
  unfold Serial.getSerialBuffer
  split
  · rename_i h
    rw [← h]
  · rfl

/-- A line has a signal that is neither the streaming one nor an entry. -/
theorem getTerminalSignal_line {s : Serial} (h : s.serialBuffer ≠ []) :
    s.getTerminalSignal.1 ≠ .none ∧ s.getTerminalSignal.1 ≠ .streamData ∧
      s.getTerminalSignal.1 ≠ .entry := by
  unfold Serial.getTerminalSignal
  dsimp only
  split
  · rename_i k hk
    have hmem : k ∈ keyMap := by
      split at hk
      · exact List.mem_of_find?_eq_some hk
      · simp at hk
    simp only [keyMap, List.mem_cons, List.not_mem_nil, or_false] at hmem
    rcases hmem with rfl | rfl | rfl | rfl | rfl | rfl | rfl | rfl | rfl <;> simp
  · rw [if_pos (List.length_pos_iff.mpr h)]
    simp

/-- Signal and payload are those of the line where no `payload` was left over. -/
theorem getTerminalSignal_translate {s : Serial} (h : s.payload = false) :
    (s.getTerminalSignal.1, (s.getTerminalSignal.2.getSerialBuffer configBuffSize).1) =
      translate s.serialBuffer := by
  obtain ⟨buffer, new, payload⟩ := s
  simp only at h
  subst h
  unfold translate Serial.getTerminalSignal
  dsimp only
  cases hk : (if buffer.length < 2 then keyMap.find? fun k => decide (buffer.headD 0 = k.2)
    else none) with
  | some k => rfl
  | none =>
    by_cases hl : 0 < buffer.length
    · simp only [hl, if_true]
      rfl
    · simp only [hl, if_false]
      rfl

/-- A call goes to its handler where it took a notice or streams. -/
theorem branch_cases (p : Bool) (sig : TerminalSignal) :
    Lines.branch p sig = .serialHandler ∨
      Lines.branch p sig = .getSerialBuffer p sig ∧ (p = true ∨ sig = .streamData) ∨
      Lines.branch p sig = .updatePeriod := by
  unfold Lines.branch
  split
  · rename_i hp
    split
    · exact Or.inl rfl
    · exact Or.inr (Or.inl ⟨rfl, hp⟩)
  · exact Or.inr (Or.inr rfl)

theorem chosen_false (s : Lines σ ρ) : s.chosen false = (s.available, s.serial) := by
  simp [Lines.chosen]

theorem chosen_frame (p : Bool) (s : Lines σ ρ) :
    (s.chosen p).2.serialBuffer = s.serial.serialBuffer ∧
      (s.chosen p).2.newDataAvailable = s.serial.newDataAvailable := by
  cases p with
  | true => exact getTerminalSignal_frame s.serial
  | false => exact ⟨rfl, rfl⟩

/-- Every section of the task. -/
inductive TaskMove (s s' : Lines σ ρ) : Prop
  | check (hpc : s.pc = .serialHandler)
      (hpc' : s'.pc = .getTerminalSignal s.serial.newDataAvailable)
      (hserial : s'.serial = { s.serial with newDataAvailable := false })
      (hcalls : s'.calls = s.calls) (havail : s'.available = s.available)
  | signal (p : Bool) (hpc : s.pc = .getTerminalSignal p)
      (hpc' : s'.pc = Lines.branch p (s.chosen p).1) (hserial : s'.serial = (s.chosen p).2)
      (hcalls : s'.calls = s.calls) (havail : s'.available = s.available)
  | buffer (p : Bool) (sig : TerminalSignal) (hpc : s.pc = .getSerialBuffer p sig)
      (hpc' : s'.pc = .handler p sig (s.serial.getSerialBuffer configBuffSize).1)
      (hserial : s'.serial = { s.serial with payload := false })
      (hcalls : s'.calls = s.calls) (havail : s'.available = s.available)
  | handler (p : Bool) (sig : TerminalSignal) (b : Option CStr) (hpc : s.pc = .handler p sig b)
      (hpc' : s'.pc = .clearSerialBuffer) (hserial : s'.serial = s.serial)
      (hcalls : s'.calls = s.calls ++ [(sig, b)])
      (havail : s'.available = s.available ∨ s'.available = .streamData)
  | clear (hpc : s.pc = .clearSerialBuffer) (hpc' : s'.pc = .updatePeriod)
      (hserial : s'.serial = { s.serial with serialBuffer := [] })
      (hcalls : s'.calls = s.calls) (havail : s'.available = s.available)
  | period (hpc : s.pc = .updatePeriod) (hpc' : s'.pc = .serialHandler)
      (hserial : s'.serial = s.serial) (hcalls : s'.calls = s.calls)
      (havail : s'.available = s.available)

theorem task_move {s s' : Lines σ ρ} {ticks : Ticks} (h : s.task pl fs clock ticks = .ok s') :
    TaskMove s s' ∧ s'.stored = s.stored := by
  unfold Lines.task at h
  cases hpc : s.pc with
  | serialHandler =>
    simp only [hpc, Except.ok.injEq] at h
    subst h
    exact ⟨.check hpc rfl rfl rfl rfl, rfl⟩
  | getTerminalSignal p =>
    simp only [hpc, Except.ok.injEq] at h
    subst h
    exact ⟨.signal p hpc rfl rfl rfl rfl, rfl⟩
  | getSerialBuffer p sig =>
    simp only [hpc, Except.ok.injEq] at h
    subst h
    exact ⟨.buffer p sig hpc rfl (getSerialBuffer_frame _ _) rfl rfl, rfl⟩
  | handler p sig b =>
    simp only [hpc] at h
    obtain ⟨config, hh, h⟩ := bind_eq_ok.mp h
    simp only [Except.ok.injEq] at h
    subst h
    refine ⟨.handler p sig b hpc rfl rfl rfl ?_, rfl⟩
    have havail := (handler_signals hh).1
    split at havail
    · exact Or.inr havail
    · exact Or.inl havail
  | clearSerialBuffer =>
    simp only [hpc, Except.ok.injEq] at h
    subst h
    exact ⟨.clear hpc rfl rfl rfl rfl, rfl⟩
  | updatePeriod =>
    simp only [hpc] at h
    obtain ⟨system, hu, h⟩ := bind_eq_ok.mp h
    simp only [Except.ok.injEq] at h
    subst h
    refine ⟨.period hpc rfl (updatePeriod_serial hu) rfl ?_, rfl⟩
    show system.config.availableSignal = _
    rw [(updatePeriod_cases hu).1]
    rfl

/-- The sections lead from one state to another, and no line comes in between. -/
def Sections (pl : Platform) (fs : FileHandler σ) (clock : RtcInterface ρ) (ticks : Ticks)
    (s s' : Lines σ ρ) : Prop :=
  ∃ ts, Run (LineStep pl fs clock) s ts s' ∧ ∀ t ∈ ts, t.input = .task ticks

theorem sections_refl (ticks : Ticks) (s : Lines σ ρ) : Sections pl fs clock ticks s s :=
  ⟨[], .nil s, List.forall_mem_nil _⟩

theorem sections_step {s s' s'' : Lines σ ρ} {ticks : Ticks} (h : s.task pl fs clock ticks = .ok s')
    (hr : Sections pl fs clock ticks s' s'') : Sections pl fs clock ticks s s'' := by
  obtain ⟨ts, hr, hts⟩ := hr
  exact ⟨_, .cons (.task ticks h) hr, List.forall_mem_cons.mpr ⟨rfl, hts⟩⟩

theorem sections_stored {s s' : Lines σ ρ} {ticks : Ticks} (h : Sections pl fs clock ticks s s') :
    s'.stored = s.stored := by
  obtain ⟨ts, hr, hts⟩ := h
  induction hr with
  | nil s => rfl
  | cons hs _ ih =>
    rw [List.forall_mem_cons] at hts
    rw [ih hts.2]
    cases hs with
    | store l hne hnew => exact absurd hts.1 (by simp)
    | task ticks h => exact (task_move h).2

theorem sections_updatePeriod {system system' : System σ ρ} {ticks : Ticks}
    {stored : List (List Byte)} {calls : List Command} (h : updatePeriod system = .ok system') :
    Sections pl fs clock ticks ⟨system, .updatePeriod, stored, calls⟩
      ⟨system', .serialHandler, stored, calls⟩ :=
  sections_step (bind_eq_ok.mpr ⟨system', h, rfl⟩) (sections_refl _ _)

theorem sections_handler {system system' : System σ ρ} {ticks : Ticks} {p : Bool}
    {signal : TerminalSignal} {config : ConfigSubsystem σ ρ} {stored : List (List Byte)}
    {calls : List Command}
    (hh : handler pl fs clock signal (system.serial.getSerialBuffer configBuffSize).1 ticks
      system.config = .ok config)
    (h : updatePeriod { system with
      serial := (system.serial.getSerialBuffer configBuffSize).2.clearSerialBuffer
      config := config } = .ok system') :
    Sections pl fs clock ticks ⟨system, .getSerialBuffer p signal, stored, calls⟩
      ⟨system', .serialHandler, stored,
        calls ++ [(signal, (system.serial.getSerialBuffer configBuffSize).1)]⟩ :=
  sections_step rfl <| sections_step (bind_eq_ok.mpr ⟨config, hh, rfl⟩) <|
    sections_step rfl (sections_updatePeriod h)

/-- **The sections are the call.** Where no line comes in between, they do what `configurationTask`
does. -/
theorem sections_configurationTask {s : Lines σ ρ} {ticks : Ticks} {system : System σ ρ}
    (hpc : s.pc = .serialHandler)
    (h : configurationTask pl fs clock ticks s.system = .ok system) :
    ∃ s', Sections pl fs clock ticks s s' ∧ s'.pc = .serialHandler ∧ s'.system = system := by
  obtain ⟨system₀, pc, stored, calls⟩ := s
  simp only at hpc h
  subst hpc
  unfold configurationTask at h
  rcases htask : taskSignal system₀ with ⟨p, signal, serial⟩
  rw [htask] at h
  have hsignal : Lines.task pl fs clock ticks
      ⟨{ system₀ with serial := system₀.serial.serialHandler.2 },
        .getTerminalSignal system₀.serial.serialHandler.1, stored, calls⟩ =
      .ok ⟨{ system₀ with serial := (taskSignal system₀).2.2 },
        Lines.branch (taskSignal system₀).1 (taskSignal system₀).2.1, stored, calls⟩ := rfl
  rw [htask] at hsignal
  have hlook : ∀ {s' : Lines σ ρ}, Sections pl fs clock ticks
      ⟨{ system₀ with serial := serial }, Lines.branch p signal, stored, calls⟩ s' →
      Sections pl fs clock ticks ⟨system₀, .serialHandler, stored, calls⟩ s' := fun hs =>
    sections_step rfl (sections_step hsignal hs)
  by_cases hin : p = true ∨ signal = .streamData
  · by_cases hsig : signal = .none
    · simp only [if_pos hin, if_pos hsig, Except.ok.injEq] at h
      have hpc' : Lines.branch p signal = .serialHandler := by
        unfold Lines.branch
        rw [if_pos hin, if_pos hsig]
      rw [hpc'] at hlook
      exact ⟨_, hlook (sections_refl _ _), rfl, h⟩
    · simp only [if_pos hin, if_neg hsig] at h
      have hpc' : Lines.branch p signal = .getSerialBuffer p signal := by
        unfold Lines.branch
        rw [if_pos hin, if_neg hsig]
      rw [hpc'] at hlook
      obtain ⟨config, hh, hu⟩ := bind_eq_ok.mp h
      exact ⟨_, hlook (sections_handler hh hu), rfl, rfl⟩
  · simp only [if_neg hin] at h
    have hpc' : Lines.branch p signal = .updatePeriod := by
      unfold Lines.branch
      rw [if_neg hin]
    rw [hpc'] at hlook
    exact ⟨_, hlook (sections_updatePeriod h), rfl, rfl⟩

/-! ## Lines that are kept -/

/-- The commands of the lines that are stored and not yet dispatched. -/
def TaskPc.owed (serial : Serial) : TaskPc → List Command
  | .serialHandler | .updatePeriod | .getTerminalSignal false =>
    if serial.newDataAvailable then [translate serial.serialBuffer] else []
  | .getTerminalSignal true => [translate serial.serialBuffer]
  | .getSerialBuffer _ signal =>
    if signal = .streamData then [] else [(signal, (serial.getSerialBuffer configBuffSize).1)]
  | .handler _ signal pPayload => if signal = .streamData then [] else [(signal, pPayload)]
  | .clearSerialBuffer => []

/-- The invariant while lines are stored in time. -/
structure KeptInv (s : Lines σ ρ) : Prop where
  books : s.stored.map translate = s.commands ++ s.pc.owed s.serial
  payload : (∀ p sig, s.pc ≠ .getSerialBuffer p sig) → s.serial.payload = false
  line : s.serial.newDataAvailable = true ∨ s.pc = .getTerminalSignal true →
    s.serial.serialBuffer ≠ []
  quiet : s.pc.Wipes s.available → s.serial.newDataAvailable = false

theorem kept_store {s : Lines σ ρ} {l : List Byte} (hinv : KeptInv s) (hne : l ≠ [])
    (hnew : s.serial.newDataAvailable = false) (hq : ¬ s.pc.Wipes s.available) :
    KeptInv (s.store l) := by
  have howed : s.pc.owed s.serial = [] ∧ s.pc.owed (s.store l).serial = [translate l] := by
    cases hpc : s.pc with
    | serialHandler => exact ⟨if_neg (by simp [hnew]), rfl⟩
    | updatePeriod => exact ⟨if_neg (by simp [hnew]), rfl⟩
    | getTerminalSignal p =>
      cases p with
      | true => exact absurd (by simp [hpc, TaskPc.Wipes]) hq
      | false => exact ⟨if_neg (by simp [hnew]), rfl⟩
    | getSerialBuffer p sig => exact absurd (by simp [hpc, TaskPc.Wipes]) hq
    | handler p sig b => exact absurd (by simp [hpc, TaskPc.Wipes]) hq
    | clearSerialBuffer => exact absurd (by simp [hpc, TaskPc.Wipes]) hq
  refine ⟨?_, hinv.payload, fun _ => hne, fun hw => absurd hw hq⟩
  show (s.stored ++ [l]).map translate = s.commands ++ s.pc.owed (s.store l).serial
  rw [List.map_append, hinv.books, howed.1, howed.2, List.append_nil]
  rfl

/-- The signal of a line is owed with its payload; without a line nothing is owed. -/
theorem kept_signal {s s' : Lines σ ρ} (hinv : KeptInv s) {p : Bool}
    (hpc : s.pc = .getTerminalSignal p) (hpc' : s'.pc = Lines.branch p (s.chosen p).1)
    (hserial : s'.serial = (s.chosen p).2) (hcommands : s'.commands = s.commands)
    (hst : s'.stored = s.stored) : KeptInv s' := by
  obtain ⟨hbooks, hpayload, hline, hquiet⟩ := hinv
  have hp := hpayload (by simp [hpc])
  cases p with
  | true =>
    have hnew := hquiet (by simp [hpc, TaskPc.Wipes])
    obtain ⟨hnone, hstream, -⟩ := getTerminalSignal_line (hline (Or.inr hpc))
    have hchosen : s.chosen true = s.serial.getTerminalSignal := by
      simp [Lines.chosen, hnone]
    have hbranch : s'.pc = .getSerialBuffer true s.serial.getTerminalSignal.1 := by
      rw [hpc', hchosen]
      simp [Lines.branch, hnone]
    have hnew' : s'.serial.newDataAvailable = false := by
      rw [hserial, hchosen, (getTerminalSignal_frame _).2, hnew]
    refine ⟨?_, fun h => absurd hbranch (h _ _), ?_, fun _ => hnew'⟩
    · rw [hst, hbooks, hcommands, hpc, hbranch, hserial, hchosen]
      simp [TaskPc.owed, hstream, ← getTerminalSignal_translate hp]
    · rintro (h | h)
      · simp [hnew'] at h
      · simp [hbranch] at h
  | false =>
    have hchosen := chosen_false s
    by_cases hs : s.available = .streamData
    · have hnew := hquiet (by simp [hpc, TaskPc.Wipes, hs])
      have hbranch : s'.pc = .getSerialBuffer false .streamData := by
        simp [hpc', hchosen, Lines.branch, hs]
      refine ⟨?_, fun h => absurd hbranch (h _ _), ?_, fun _ => by simp [hserial, hchosen, hnew]⟩
      · rw [hst, hbooks, hcommands, hpc, hbranch]
        simp [TaskPc.owed, hnew]
      · rintro (h | h)
        · simp [hserial, hchosen, hnew] at h
        · simp [hbranch] at h
    · have hbranch : s'.pc = .updatePeriod := by simp [hpc', hchosen, Lines.branch, hs]
      refine ⟨?_, fun _ => by simp [hserial, hchosen, hp], ?_,
        fun hw => by simp [hbranch, TaskPc.Wipes] at hw⟩
      · rw [hst, hbooks, hcommands, hpc, hbranch, hserial, hchosen]
        rfl
      · rintro (h | h)
        · rw [hserial, hchosen]
          exact hline (Or.inl (by simpa [hserial, hchosen] using h))
        · simp [hbranch] at h

/-- A section of the task moves what is owed on, and the handler pays it. -/
theorem kept_task {s s' : Lines σ ρ} (hinv : KeptInv s) (hm : TaskMove s s')
    (hst : s'.stored = s.stored) : KeptInv s' := by
  obtain ⟨hbooks, hpayload, hline, hquiet⟩ := hinv
  have hcommands : s'.calls = s.calls → s'.commands = s.commands := fun h => by
    simp only [Lines.commands, h]
  cases hm with
  | check hpc hpc' hserial hcalls havail =>
    have hp := hpayload (by simp [hpc])
    refine ⟨?_, fun _ => by simp [hserial, hp], ?_, fun _ => by simp [hserial]⟩
    · rw [hst, hbooks, hcommands hcalls, hpc, hpc', hserial]
      cases hn : s.serial.newDataAvailable <;> simp [TaskPc.owed, hn]
    · rintro (h | h)
      · simp [hserial] at h
      · rw [hserial]
        exact hline (Or.inl (by simpa [hpc'] using h))
  | signal p hpc hpc' hserial hcalls havail =>
    exact kept_signal ⟨hbooks, hpayload, hline, hquiet⟩ hpc hpc' hserial (hcommands hcalls) hst
  | buffer p sig hpc hpc' hserial hcalls havail =>
    have hnew := hquiet (by simp [hpc, TaskPc.Wipes])
    refine ⟨?_, fun _ => by simp [hserial], ?_, fun _ => by simp [hserial, hnew]⟩
    · rw [hst, hbooks, hcommands hcalls, hpc, hpc']
      rfl
    · rintro (h | h)
      · simp [hserial, hnew] at h
      · simp [hpc'] at h
  | handler p sig b hpc hpc' hserial hcalls havail =>
    have hnew := hquiet (by simp [hpc, TaskPc.Wipes])
    have hp := hpayload (by simp [hpc])
    refine ⟨?_, fun _ => by simp [hserial, hp], ?_, fun _ => by simp [hserial, hnew]⟩
    · rw [hst, hbooks, hpc, hpc']
      by_cases hs : sig = .streamData
      · simp [Lines.commands, hcalls, TaskPc.owed, hs]
      · simp [Lines.commands, hcalls, TaskPc.owed, hs]
    · rintro (h | h)
      · simp [hserial, hnew] at h
      · simp [hpc'] at h
  | clear hpc hpc' hserial hcalls havail =>
    have hnew := hquiet (by simp [hpc, TaskPc.Wipes])
    have hp := hpayload (by simp [hpc])
    refine ⟨?_, fun _ => by simp [hserial, hp], ?_, fun _ => by simp [hserial, hnew]⟩
    · rw [hst, hbooks, hcommands hcalls, hpc, hpc', hserial]
      simp [TaskPc.owed, hnew]
    · rintro (h | h)
      · simp [hserial, hnew] at h
      · simp [hpc'] at h
  | period hpc hpc' hserial hcalls havail =>
    have hp := hpayload (by simp [hpc])
    refine ⟨?_, fun _ => by simp [hserial, hp], ?_, fun hw => by simp [hpc', TaskPc.Wipes] at hw⟩
    · rw [hst, hbooks, hcommands hcalls, hpc, hpc', hserial]
      rfl
    · rintro (h | h)
      · rw [hserial]
        exact hline (Or.inl (by simpa [hserial] using h))
      · simp [hpc'] at h

/-- While lines are stored in time, every transition keeps them. -/
theorem step_keeps {s s' : Lines σ ρ} {i : LineEvent} (hinv : KeptInv s)
    (h : LineStep pl fs clock s i s') (htime : StoredInTime ⟨s, i, s'⟩) :
    LinesKept ⟨s, i, s'⟩ ∧ KeptInv s' := by
  have hinv' : KeptInv s' := by
    cases h with
    | store l hne hnew => exact kept_store hinv hne hnew (htime _ rfl)
    | task ticks h =>
      obtain ⟨hm, hst⟩ := task_move h
      exact kept_task hinv hm hst
  refine ⟨⟨⟨_, hinv'.books.symm⟩, fun hidle => ?_⟩, hinv'⟩
  have hpc : s'.pc = .serialHandler := hidle.1
  have hnew : s'.serial.newDataAvailable = false := hidle.2
  have hnone : s'.pc.owed s'.serial = [] := by
    simp [hpc, hnew, TaskPc.owed]
  rw [hinv'.books, hnone, List.append_nil]

/-! ## Lines that are lost -/

/-- The command the running call will dispatch for a notice it took. -/
def TaskPc.notices : TaskPc → Nat
  | .getTerminalSignal true => 1
  | .getSerialBuffer true signal | .handler true signal _ => if signal = .streamData then 0 else 1
  | _ => 0

/-- The notices that can still become a command. -/
def Lines.notices (s : Lines σ ρ) : Nat := s.serial.newDataAvailable.toNat + s.pc.notices

/-- What holds in every run: a call without a notice streams, and every command had its notice. -/
structure Steady (s : Lines σ ρ) : Prop where
  signals : s.available = .entry ∨ s.available = .streamData
  streams : ∀ sig, (s.pc = .getSerialBuffer false sig ∨ ∃ b, s.pc = .handler false sig b) →
    sig = .streamData
  noticed : s.commands.length + s.notices ≤ s.stored.length

/-- Fewer commands than lines can be dispatched. -/
def Lines.Behind (s : Lines σ ρ) : Prop := s.commands.length + s.notices < s.stored.length

/-- A line that will be wiped with its notice up, or a notice without a line. -/
def Lines.Tainted (s : Lines σ ρ) : Prop :=
  s.serial.newDataAvailable = true ∧ (s.pc.Wipes s.available ∨ s.serial.serialBuffer = []) ∨
    s.pc = .getTerminalSignal true ∧ s.serial.serialBuffer = [] ∨
    s.pc = .getSerialBuffer true .entry ∨ ∃ b, s.pc = .handler true .entry b

theorem notices_le (pc : TaskPc) : pc.notices ≤ 1 := by
  unfold TaskPc.notices
  split
  · exact le_rfl
  · split <;> omega
  · split <;> omega
  · omega

/-- The number of commands that are made or announced does not grow. -/
theorem task_noticed {s s' : Lines σ ρ} (hs : Steady s) (hm : TaskMove s s') :
    s'.commands.length + s'.notices ≤ s.commands.length + s.notices := by
  have hcommands : s'.calls = s.calls → s'.commands = s.commands := fun h => by
    simp only [Lines.commands, h]
  cases hm with
  | check hpc hpc' hserial hcalls havail =>
    rw [hcommands hcalls]
    cases hn : s.serial.newDataAvailable <;>
      simp [Lines.notices, hpc, hpc', hserial, hn, TaskPc.notices]
  | signal p hpc hpc' hserial hcalls havail =>
    rw [hcommands hcalls]
    unfold Lines.notices
    rw [hserial, (chosen_frame p s).2, hpc, hpc']
    cases p with
    | true =>
      have hle := notices_le (Lines.branch true (s.chosen true).1)
      have hone : (TaskPc.getTerminalSignal true).notices = 1 := rfl
      omega
    | false =>
      rw [chosen_false]
      by_cases hst : s.available = .streamData <;> simp [Lines.branch, hst, TaskPc.notices]
  | buffer p sig hpc hpc' hserial hcalls havail =>
    rw [hcommands hcalls]
    cases p <;> simp [Lines.notices, hpc, hpc', hserial, TaskPc.notices]
  | handler p sig b hpc hpc' hserial hcalls havail =>
    unfold Lines.notices Lines.commands
    rw [hcalls, hserial, hpc, hpc']
    by_cases hsig : sig = .streamData
    · simp [hsig, TaskPc.notices]
    · cases p with
      | true => simp [hsig, TaskPc.notices]; omega
      | false => exact absurd (hs.streams sig (Or.inr ⟨b, hpc⟩)) hsig
  | clear hpc hpc' hserial hcalls havail =>
    rw [hcommands hcalls]
    simp [Lines.notices, hpc, hpc', hserial, TaskPc.notices]
  | period hpc hpc' hserial hcalls havail =>
    rw [hcommands hcalls]
    simp [Lines.notices, hpc, hpc', hserial, TaskPc.notices]

theorem steady_task {s s' : Lines σ ρ} (hs : Steady s) (hm : TaskMove s s')
    (hst : s'.stored = s.stored) : Steady s' := by
  have hsignals : s'.available = s.available ∨ s'.available = .streamData := by
    cases hm with
    | check _ _ _ _ havail => exact Or.inl havail
    | signal _ _ _ _ _ havail => exact Or.inl havail
    | buffer _ _ _ _ _ _ havail => exact Or.inl havail
    | handler _ _ _ _ _ _ _ havail => exact havail
    | clear _ _ _ _ havail => exact Or.inl havail
    | period _ _ _ _ havail => exact Or.inl havail
  refine ⟨?_, fun sig hsig => ?_, ?_⟩
  · rcases hsignals with h | h
    · rw [h]
      exact hs.signals
    · exact Or.inr h
  · cases hm with
    | check _ hpc' => simp [hpc'] at hsig
    | signal p hpc hpc' =>
      rw [hpc'] at hsig
      rcases branch_cases p (s.chosen p).1 with hb | ⟨hb, hp⟩ | hb
      · simp [hb] at hsig
      · simp only [hb, TaskPc.getSerialBuffer.injEq, reduceCtorEq, exists_false, or_false] at hsig
        obtain ⟨rfl, rfl⟩ := hsig
        simpa using hp
      · simp [hb] at hsig
    | buffer p sig' hpc hpc' =>
      simp only [hpc', reduceCtorEq, TaskPc.handler.injEq, false_or] at hsig
      obtain ⟨b, rfl, rfl, -⟩ := hsig
      exact hs.streams _ (Or.inl hpc)
    | handler _ _ _ _ hpc' => simp [hpc'] at hsig
    | clear _ hpc' => simp [hpc'] at hsig
    | period _ hpc' => simp [hpc'] at hsig
  · rw [hst]
    exact (task_noticed hs hm).trans hs.noticed

theorem steady_store {s : Lines σ ρ} (hs : Steady s) (l : List Byte)
    (hnew : s.serial.newDataAvailable = false) : Steady (s.store l) ∧
      (s.store l).commands.length + (s.store l).notices = s.commands.length + s.notices + 1 := by
  have hn : (s.store l).notices = s.notices + 1 := by
    show (true.toNat + s.pc.notices) = s.serial.newDataAvailable.toNat + s.pc.notices + 1
    rw [hnew]
    simp [Nat.add_comm]
  have hlen : (s.store l).stored.length = s.stored.length + 1 := List.length_append
  have hnoticed := hs.noticed
  have hc : (s.store l).commands = s.commands := rfl
  refine ⟨⟨hs.signals, hs.streams, ?_⟩, ?_⟩ <;> rw [hc, hn] <;> omega

/-- A call has a signal, and goes on to its handler where it took a notice or the terminal streams. -/
theorem branch_chosen {s : Lines σ ρ} (hs : Steady s) (p : Bool) :
    Lines.branch p (s.chosen p).1 = .getSerialBuffer p (s.chosen p).1 ∨
      Lines.branch p (s.chosen p).1 = .updatePeriod ∧ p = false ∧ s.available ≠ .streamData := by
  have havail : s.available ≠ .none := by
    rcases hs.signals with h | h <;> simp [h]
  cases p with
  | true =>
    have hsig : (s.chosen true).1 ≠ .none := by
      by_cases hnone : s.serial.getTerminalSignal.1 = .none <;> simp [Lines.chosen, hnone, havail]
    simp [Lines.branch, hsig]
  | false =>
    rw [chosen_false]
    by_cases hst : s.available = .streamData <;> simp [Lines.branch, hst]

/-- A dispatched `entry` is no line's. -/
theorem entry_not_kept {s s' : Lines σ ρ} {i : LineEvent} {b : Option CStr}
    (h : (TerminalSignal.entry, b) ∈ s'.calls) : ¬ LinesKept ⟨s, i, s'⟩ := by
  intro hkept
  have hmem : (TerminalSignal.entry, b) ∈ s'.commands :=
    List.mem_filter.mpr ⟨h, by simp⟩
  obtain ⟨l, -, hl⟩ := List.mem_map.mp (hkept.1.subset hmem)
  have hsig : (Serial.mk l false false).getTerminalSignal.1 = .entry := congrArg Prod.fst hl
  by_cases hne : l = []
  · rw [getTerminalSignal_nil hne] at hsig
    cases hsig
  · exact (getTerminalSignal_line hne).2.2 hsig

/-- A taint stays, until the terminal's own signal is dispatched for a line or a notice is dropped. -/
theorem tainted_task {s s' : Lines σ ρ} (hs : Steady s) (hm : TaskMove s s')
    (hst : s'.stored = s.stored) (ht : s.Tainted) :
    (∃ b, (TerminalSignal.entry, b) ∈ s'.calls) ∨ s'.Behind ∨ s'.Tainted := by
  cases hm with
  | check hpc hpc' hserial _ _ =>
    simp only [Lines.Tainted, hpc, TaskPc.Wipes, false_or, reduceCtorEq, false_and, exists_false,
      or_false] at ht
    exact Or.inr (Or.inr (Or.inr (Or.inl ⟨by rw [hpc', ht.1], by rw [hserial]; exact ht.2⟩)))
  | signal p hpc hpc' hserial hcalls havail =>
    refine Or.inr ?_
    obtain ⟨hbuffer, hnew⟩ := chosen_frame p s
    rw [← hserial] at hbuffer hnew
    simp only [Lines.Tainted, hpc, TaskPc.Wipes, reduceCtorEq, TaskPc.getTerminalSignal.injEq,
      exists_false, or_false] at ht
    rcases ht with ⟨hup, hw⟩ | ⟨rfl, hempty⟩
    · rcases branch_chosen hs p with hb | ⟨hb, hp, hst⟩
      · exact Or.inr (Or.inl ⟨hnew.trans hup, Or.inl (by rw [hpc', hb]; trivial)⟩)
      · have hempty := hw.resolve_left (by simp [hp, hst])
        exact Or.inr (Or.inl ⟨hnew.trans hup, Or.inr (hbuffer.trans hempty)⟩)
    · have hsig : (s.chosen true).1 = s.available := by
        simp [Lines.chosen, getTerminalSignal_nil hempty]
      have hb := (branch_chosen hs true).resolve_right (by simp)
      rcases hs.signals with hentry | hstream
      · exact Or.inr (Or.inr (Or.inr (Or.inl (by rw [hpc', hb, hsig, hentry]))))
      · refine Or.inl ?_
        have hcount := hs.noticed
        have hless : s'.notices + 1 = s.notices := by
          unfold Lines.notices
          rw [hnew, hpc', hb, hsig, hstream, hpc]
          rfl
        have hcommands : s'.commands = s.commands := by simp only [Lines.commands, hcalls]
        unfold Lines.Behind
        rw [hcommands, hst]
        omega
  | buffer p sig hpc hpc' hserial _ _ =>
    refine Or.inr (Or.inr ?_)
    simp only [Lines.Tainted, hpc, TaskPc.Wipes, true_or, and_true, reduceCtorEq, false_and,
      TaskPc.getSerialBuffer.injEq, exists_false, or_false, false_or] at ht
    rcases ht with hnew | ⟨rfl, rfl⟩
    · exact Or.inl ⟨by rw [hserial]; exact hnew, Or.inl (by rw [hpc']; trivial)⟩
    · exact Or.inr (Or.inr (Or.inr ⟨_, hpc'⟩))
  | handler p sig b hpc hpc' hserial hcalls _ =>
    simp only [Lines.Tainted, hpc, TaskPc.Wipes, true_or, and_true, reduceCtorEq, false_and,
      TaskPc.handler.injEq, false_or] at ht
    rcases ht with hnew | ⟨b', rfl, rfl, rfl⟩
    · exact Or.inr (Or.inr (Or.inl ⟨by rw [hserial]; exact hnew, Or.inl (by rw [hpc']; trivial)⟩))
    · exact Or.inl ⟨b, by rw [hcalls]; exact List.mem_append_right _ List.mem_cons_self⟩
  | clear hpc hpc' hserial _ _ =>
    simp only [Lines.Tainted, hpc, TaskPc.Wipes, true_or, and_true, reduceCtorEq, false_and,
      exists_false, or_false] at ht
    exact Or.inr (Or.inr (Or.inl ⟨by rw [hserial]; exact ht, Or.inr (by rw [hserial])⟩))
  | period hpc hpc' hserial _ _ =>
    simp only [Lines.Tainted, hpc, TaskPc.Wipes, false_or, reduceCtorEq, false_and, exists_false,
      or_false] at ht
    exact Or.inr (Or.inr (Or.inl ⟨by rw [hserial]; exact ht.1, Or.inr (by rw [hserial]; exact ht.2)⟩))

theorem tainted_store {s : Lines σ ρ} (ht : s.Tainted) (l : List Byte)
    (hnew : s.serial.newDataAvailable = false) : (s.store l).Tainted := by
  rcases ht with ⟨hup, -⟩ | ⟨hpc, -⟩ | hpc | hpc
  · simp [hnew] at hup
  · exact Or.inl ⟨rfl, Or.inl (by show s.pc.Wipes s.available; simp [hpc, TaskPc.Wipes])⟩
  · exact Or.inr (Or.inr (Or.inl hpc))
  · exact Or.inr (Or.inr (Or.inr hpc))

/-- A run that ends with nothing to do fails before its end. -/
structure Doomed (s : Lines σ ρ) : Prop where
  steady : Steady s
  astray : s.Behind ∨ s.Tainted
  busy : ¬ s.Idle

/-- Where nothing is left to do, a command is missing. -/
theorem behind_not_kept {s s' : Lines σ ρ} {i : LineEvent} (h : s'.Behind) (hidle : s'.Idle) :
    ¬ LinesKept ⟨s, i, s'⟩ := by
  intro hkept
  have hlen : s'.commands.length = (s'.stored.map translate).length :=
    congrArg List.length (hkept.2 hidle)
  rw [List.length_map] at hlen
  unfold Lines.Behind at h
  omega

theorem tainted_busy {s : Lines σ ρ} (h : s.Tainted) : ¬ s.Idle := by
  rintro ⟨hpc, hnew⟩
  rcases h with ⟨hup, -⟩ | ⟨hpc', -⟩ | hpc' | ⟨b, hpc'⟩
  · simp [hnew] at hup
  all_goals simp [hpc] at hpc'

/-- What is astray leads to a failure, or stays so. -/
theorem astray_doomed {s s' : Lines σ ρ} {i : LineEvent} (hs : Steady s')
    (h : s'.Behind ∨ s'.Tainted) : ¬ LinesKept ⟨s, i, s'⟩ ∨ Doomed s' := by
  by_cases hidle : s'.Idle
  · exact Or.inl (behind_not_kept (h.resolve_right fun ht => tainted_busy ht hidle) hidle)
  · exact Or.inr ⟨hs, h, hidle⟩

theorem step_steady : Preserved (LineStep (σ := σ) (ρ := ρ) pl fs clock) Steady := by
  intro s i s' hs h
  cases h with
  | store l hne hnew => exact (steady_store hs _ hnew).1
  | task ticks h =>
    obtain ⟨hm, hst⟩ := task_move h
    exact steady_task hs hm hst

theorem step_doomed {s s' : Lines σ ρ} {i : LineEvent} (hd : Doomed s)
    (h : LineStep pl fs clock s i s') : ¬ LinesKept ⟨s, i, s'⟩ ∨ Doomed s' := by
  have hs' := step_steady _ _ _ hd.steady h
  cases h with
  | store l hne hnew =>
    rcases hd.astray with hb | ht
    · refine astray_doomed hs' (Or.inl ?_)
      have hlen : (s.store l).stored.length = s.stored.length + 1 := List.length_append
      have hcount := (steady_store hd.steady l hnew).2
      unfold Lines.Behind at hb ⊢
      omega
    · exact astray_doomed hs' (Or.inr (tainted_store ht l hnew))
  | task ticks h =>
    obtain ⟨hm, hst⟩ := task_move h
    rcases hd.astray with hb | ht
    · refine astray_doomed hs' (Or.inl ?_)
      have hcount := task_noticed hd.steady hm
      unfold Lines.Behind at hb ⊢
      rw [hst]
      omega
    · rcases tainted_task hd.steady hm hst ht with ⟨b, hb⟩ | h
      · exact Or.inl (entry_not_kept hb)
      · exact astray_doomed hs' h

/-- A line that comes too late is wiped with its notice up. -/
theorem late_doomed {s s' : Lines σ ρ} {i : LineEvent} (hs : Steady s)
    (h : LineStep pl fs clock s i s') (hlate : ¬ StoredInTime ⟨s, i, s'⟩) : Doomed s' := by
  have hs' := step_steady _ _ _ hs h
  cases h with
  | store l hne hnew =>
    have hw : s.pc.Wipes s.available := by
      by_contra hno
      exact hlate fun _ _ => hno
    exact ⟨hs', Or.inr (Or.inl ⟨rfl, Or.inl hw⟩), fun hidle => Bool.noConfusion hidle.2⟩
  | task ticks h => exact absurd (fun l hl => by simp at hl) hlate

theorem start_inv {system : System σ ρ} (hserial : system.serial = .idle)
    (hsig : system.config.availableSignal = .entry) :
    KeptInv (.start system) ∧ Steady (.start system) := by
  have hs : (Lines.start system).serial = .idle := hserial
  have hpc : (Lines.start system).pc = .serialHandler := rfl
  constructor
  · constructor
    · rw [hs, hpc]
      rfl
    · exact fun _ => by rw [hs]; rfl
    · rintro (h | h)
      · rw [hs] at h
        cases h
      · cases h
    · exact fun h => by rw [hpc] at h; exact h.elim
  · refine ⟨Or.inl hsig, ?_, ?_⟩
    · rintro sig (h | ⟨b, h⟩) <;> cases h
    · unfold Lines.notices
      rw [hs]
      exact le_rfl

/-- **When no line is lost.** Over a run from `main`, stored lines are dispatched in order, once and
with their own signal and payload, if none of them is stored between the check of a call that will
wipe the buffer and the wiping; where the run ends with nothing left to do, exactly then. -/
theorem lines_kept_iff {device : σ} {rtc : ρ} {ticks : Ticks} {system : System σ ρ}
    {ts : List (Taken (Lines σ ρ) LineEvent)} {s' : Lines σ ρ}
    (hmain : main pl fs clock ticks (powerOn device rtc) = .ok system)
    (h : Run (LineStep pl fs clock) (.start system) ts s') :
    ((∀ t ∈ ts, StoredInTime t) → ∀ t ∈ ts, LinesKept t) ∧
      (s'.Idle → ((∀ t ∈ ts, LinesKept t) ↔ ∀ t ∈ ts, StoredInTime t)) := by
  have hserial : system.serial = .idle := (main_cases hmain).2.2.2
  have h0 := start_inv hserial (main_signal hmain)
  have hgood : ∀ t : Taken (Lines σ ρ) LineEvent, KeptInv t.before ∧ Steady t.before →
      LineStep pl fs clock t.before t.input t.after → StoredInTime t →
      LinesKept t ∧ KeptInv t.after ∧ Steady t.after := fun t hinv hs htime =>
    ⟨(step_keeps hinv.1 hs htime).1, (step_keeps hinv.1 hs htime).2, step_steady _ _ _ hinv.2 hs⟩
  refine ⟨fun htime => (h.sound (I := fun s => KeptInv s ∧ Steady s) hgood h0 htime).1,
    fun hidle => ?_⟩
  exact h.settled_iff (I := fun s => KeptInv s ∧ Steady s) hgood
    (fun t hinv hs hlate => Or.inr (late_doomed hinv.2 hs hlate)) (fun t hd hs => step_doomed hd hs)
    h0 (fun hd => hd.busy hidle)

/-! ## On the host -/

/-- The line `S` is stored and taken by the next call. -/
theorem lines_kept_stream : ∃ system ts s,
    main .host cFileHandler blankClock ⟨0, 0⟩ (powerOn ⟨none, none⟩ ()) = .ok system ∧
    Run (LineStep .host cFileHandler blankClock) (.start system) ts s ∧ s.Idle ∧
    s.stored = [ascii "S"] ∧ ∀ t ∈ ts, LinesKept t := by
  obtain ⟨system, hboot, hmeta, hserial⟩ := hostFirstBoot ⟨0, 0⟩
  have ha : system.config.activeState = .initState := (main_cases hboot).2.2.1
  obtain ⟨c, hh, -, -, hm⟩ := (handler_streams .host cFileHandler blankClock system.config ⟨0, 0⟩).1 ha
  obtain ⟨system', htask, hserial', -⟩ := task_handles (some (ascii "S"))
    (dispatched_key hserial (k := (.pressedKeyS, 83)) (by decide)) hh (by rw [hm, hmeta]; decide)
  have hstore : LineStep .host cFileHandler blankClock (.start system) (.store (ascii "S")) _ :=
    .store _ (by decide) (congrArg Serial.newDataAvailable hserial)
  obtain ⟨s', hsec, hpc, hs'⟩ :=
    sections_configurationTask (s := (Lines.start system).store (ascii "S")) rfl htask
  have hstored : s'.stored = [ascii "S"] := sections_stored hsec
  obtain ⟨ts, hr, hts⟩ := hsec
  have hrun := Run.cons hstore hr
  refine ⟨system, _, s', hboot, hrun, ⟨hpc, ?_⟩, hstored, (lines_kept_iff hboot hrun).1 ?_⟩
  · show s'.system.serial.newDataAvailable = false
    rw [hs', hserial']
    rfl
  · rintro t ht l hl
    rcases List.mem_cons.mp ht with rfl | ht
    · exact id
    · rw [hts t ht] at hl
      cases hl

/-- `B` is stored after the check that took the notice of `S`: the call dispatches `B`, and `S` is
never dispatched. -/
theorem line_overtaken_fails : ∃ system ts s,
    main .host cFileHandler blankClock ⟨0, 0⟩ (powerOn ⟨none, none⟩ ()) = .ok system ∧
    Run (LineStep .host cFileHandler blankClock) (.start system) ts s ∧
    s.stored = [ascii "S", ascii "B"] ∧ s.calls = [(.pressedKeyB, none)] ∧ s.pc = .clearSerialBuffer ∧
    ¬ ∀ t ∈ ts, LinesKept t := by
  obtain ⟨system, hboot, -, hserial⟩ := hostFirstBoot ⟨0, 0⟩
  have ha : system.config.activeState = .initState := (main_cases hboot).2.2.1
  obtain ⟨serial, ⟨state, prev, avail, delay, clockTicks, storage, rtc, console⟩, period⟩ := system
  simp only at hserial ha
  subst hserial ha
  refine ⟨_, _, _, hboot, .cons (.store (ascii "S") (by decide) rfl) <|
    .cons (.task ⟨0, 0⟩ rfl) <| .cons (.store (ascii "B") (by decide) rfl) <|
    .cons (.task ⟨0, 0⟩ rfl) <| .cons (.task ⟨0, 0⟩ rfl) <| .cons (.task ⟨0, 0⟩ rfl) (.nil _),
    rfl, rfl, rfl, fun hall => ?_⟩
  have hprefix : [(.pressedKeyB, none)] <+: [translate (ascii "S"), translate (ascii "B")] :=
    (hall _ (List.mem_of_getLast? rfl)).1
  exact absurd hprefix (by decide)

end GenLogger.Config
