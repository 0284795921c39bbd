import GenLogger.Config.Interleaving

/-!
# A line is one command

Signal and payload of a call come from two functions, `getTerminalSignal` and `getSerialBuffer`, with
the static `payload` between them. Here lines may be stored between any two sections of the task, also
over a line that was not taken yet (`StoreStep`), so the buffer may change under a call.

* `payload` is raised only with the signal `pressedKey_Enter`, and lowered before that signal is
  dispatched (`CommandInv`).
* `IsCommandOf` is the command of a line: a key alone, or any other line's text as far as the buffer
  takes it.

Results:
* `storeStep_inv`: every transition keeps the invariant.
* `dispatched_line`: a line that waits where no payload is left over is one command.
* `line_commands`: in every state that is reached, no call carried a payload with another signal; and
  where a call of `configurationTask` starts, `payload` is down, and a line that waits is dispatched
  once, with its own key or payload, if no further one is stored meanwhile.
-/

namespace GenLogger.Config

open GenLogger.Lib GenLogger.Platform

variable {σ ρ : Type}

/-- A line is stored at any time, or the task goes on. -/
inductive StoreStep (pl : Platform) (fs : FileHandler σ) (clock : RtcInterface ρ) :
    Lines σ ρ → LineEvent → Lines σ ρ → Prop
  | store {s : Lines σ ρ} (l : List Byte) : StoreStep pl fs clock s (.store l) (s.store l)
  | task {s s' : Lines σ ρ} (ticks : Ticks) (h : s.task pl fs clock ticks = .ok s') :
      StoreStep pl fs clock s (.task ticks) s'

/-- The command of a line: a key alone, or any other line's text, cut to what the buffer takes. -/
def IsCommandOf (l : List Byte) (c : Command) : Prop :=
  (∃ k ∈ keyMap, l = [k.2] ∧ c = (k.1, none)) ∨
    ((∀ k ∈ keyMap, l ≠ [k.2]) ∧
      ∃ b : CStr, b.bytes = l.take (configBuffSize - 1) ∧ c = (.pressedKeyEnter, some b))

/-- A payload goes with `pressedKey_Enter`. -/
def Carried (c : Command) : Prop := c.2 ≠ none → c.1 = .pressedKeyEnter

/-- `payload` is up between the two functions only, and a payload goes with `pressedKey_Enter`. -/
structure CommandInv (s : Lines σ ρ) : Prop where
  flag : s.serial.payload = true → ∃ p, s.pc = .getSerialBuffer p .pressedKeyEnter
  handed : ∀ p sig b, s.pc = .handler p sig b → Carried (sig, b)
  calls : ∀ c ∈ s.calls, Carried c

variable {pl : Platform} {fs : FileHandler σ} {clock : RtcInterface ρ}

/-! ## The flag -/

/-- `getTerminalSignal` raises the flag only with the signal. -/
theorem getTerminalSignal_payload {s : Serial} (h : s.payload = false)
    (hup : s.getTerminalSignal.2.payload = true) : s.getTerminalSignal.1 = .pressedKeyEnter := by
  unfold Serial.getTerminalSignal at hup ⊢
  dsimp only at hup ⊢
  split at hup
  · rw [h] at hup
    cases hup
  · split at hup
    · rename_i hline
      exact if_pos hline ▸ rfl
    · rw [h] at hup
      cases hup

/-- Elsewhere the flag is down. -/
theorem CommandInv.down {s : Lines σ ρ} (hinv : CommandInv s) {pc : TaskPc} (hpc : s.pc = pc)
    (hother : ∀ p, pc ≠ .getSerialBuffer p .pressedKeyEnter) : s.serial.payload = false := by
  refine Bool.eq_false_iff.mpr fun hup => ?_
  obtain ⟨p, hp⟩ := hinv.flag hup
  exact hother p (hpc.symm.trans hp)

theorem command_signal {s s' : Lines σ ρ} (hinv : CommandInv s) {p : Bool}
    (hpc : s.pc = .getTerminalSignal p) (hpc' : s'.pc = Lines.branch p (s.chosen p).1)
    (hserial : s'.serial = (s.chosen p).2) (hcalls : s'.calls = s.calls) : CommandInv s' := by
  have hdown := hinv.down hpc nofun
  refine ⟨fun hup => ?_, fun q sig b hq => ?_, hcalls ▸ hinv.calls⟩
  · rw [hserial] at hup
    cases p with
    | false =>
      rw [chosen_false, hdown] at hup
      cases hup
    | true =>
      have henter := getTerminalSignal_payload hdown hup
      have hchosen : (s.chosen true).1 = .pressedKeyEnter := by
        simp [Lines.chosen, henter]
      exact ⟨true, by rw [hpc', hchosen]; rfl⟩
  · rw [hpc'] at hq
    rcases branch_cases p (s.chosen p).1 with h | ⟨h, -⟩ | h <;> rw [h] at hq <;> cases hq

theorem command_task {s s' : Lines σ ρ} (hinv : CommandInv s) (hm : TaskMove s s') : CommandInv s' := by
  cases hm with
  | check hpc hpc' hserial hcalls _ =>
    refine ⟨fun hup => ?_, fun p sig b hq => ?_, hcalls ▸ hinv.calls⟩
    · rw [hserial, hinv.down hpc nofun] at hup
      cases hup
    · rw [hpc'] at hq
      cases hq
  | signal p hpc hpc' hserial hcalls _ => exact command_signal hinv hpc hpc' hserial hcalls
  | buffer p sig hpc hpc' hserial hcalls _ =>
    refine ⟨fun hup => ?_, fun q sig' b hq => ?_, hcalls ▸ hinv.calls⟩
    · rw [hserial] at hup
      cases hup
    · rw [hpc'] at hq
      cases hq
      intro hsome
      -- a payload is handed over only where the flag was up
      have hup : s.serial.payload = true := by
        by_contra hno
        exact hsome (congrArg Prod.fst (if_pos (Bool.eq_false_iff.mpr hno)))
      obtain ⟨q, hq⟩ := hinv.flag hup
      rw [hpc] at hq
      cases hq
      rfl
  | handler p sig b hpc hpc' hserial hcalls _ =>
    refine ⟨fun hup => ?_, fun q sig' b' hq => ?_, ?_⟩
    · rw [hserial, hinv.down hpc nofun] at hup
      cases hup
    · rw [hpc'] at hq
      cases hq
    · rw [hcalls, List.forall_mem_append]
      exact ⟨hinv.calls, List.forall_mem_singleton.mpr (hinv.handed p sig b hpc)⟩
  | clear hpc hpc' hserial hcalls _ =>
    refine ⟨fun hup => ?_, fun p sig b hq => ?_, hcalls ▸ hinv.calls⟩
    · rw [hserial] at hup
      have hlow : s.serial.payload = true := hup
      rw [hinv.down hpc nofun] at hlow
      cases hlow
    · rw [hpc'] at hq
      cases hq
  | period hpc hpc' hserial hcalls _ =>
    refine ⟨fun hup => ?_, fun p sig b hq => ?_, hcalls ▸ hinv.calls⟩
    · rw [hserial, hinv.down hpc nofun] at hup
      cases hup
    · rw [hpc'] at hq
      cases hq

theorem storeStep_inv : Preserved (StoreStep (σ := σ) (ρ := ρ) pl fs clock) CommandInv := by
  rintro s i s' hinv (⟨l⟩ | ⟨ticks, h⟩)
  · exact ⟨hinv.flag, hinv.handed, hinv.calls⟩
  · exact command_task hinv (task_move h).1

/-! ## The line -/

/-- A line that waits where no payload is left over is one command. -/
theorem dispatched_line {s : System σ ρ} (hnew : s.serial.newDataAvailable = true)
    (hpayload : s.serial.payload = false) (hne : s.serial.serialBuffer ≠ [])
    (hnul : (0 : Byte) ∉ s.serial.serialBuffer) : ∃ c, IsCommandOf s.serial.serialBuffer c ∧
      dispatched s = (.call c.1 c.2, .idle) := by
  obtain ⟨⟨l, new, payload⟩, config, period⟩ := s
  simp only at hnew hpayload hne hnul ⊢
  subst hnew hpayload
  let s₀ : System σ ρ := ⟨.idle, config, period⟩
  by_cases hkey : ∃ k ∈ keyMap, l = [k.2]
  · obtain ⟨k, hk, rfl⟩ := hkey
    exact ⟨(k.1, none), Or.inl ⟨k, hk, rfl, rfl⟩, dispatched_key (s := s₀) rfl hk⟩
  · simp only [not_exists, not_and] at hkey
    refine ⟨_, Or.inr ⟨hkey, (CStr.ofBytes l).truncate (configBuffSize - 1), ?_, rfl⟩,
      dispatched_payload (s := s₀) rfl hne hkey⟩
    rw [CStr.truncate_bytes, CStr.ofBytes_bytes, upToNul_eq_self hnul]

/-! ## Every call of the task -/

/-- `main` hands a terminal over that nothing was dispatched to yet. -/
theorem start_command {device : σ} {rtc : ρ} {ticks : Ticks} {system : System σ ρ}
    (h : main pl fs clock ticks (powerOn device rtc) = .ok system) : CommandInv (Lines.start system) := by
  have hserial : system.serial = .idle := (main_cases h).2.2.2
  refine ⟨fun hup => ?_, fun p sig b hq => ?_, List.forall_mem_nil _⟩
  · have hlow : system.serial.payload = true := hup
    rw [hserial] at hlow
    cases hlow
  · cases hq

/-- **Each line is one command.** In a state that a run from `main` reaches, every payload was carried by
`pressedKey_Enter`. Where a call of `configurationTask` starts, the flag is down; and a line that waits
there is one call of `handler`, with the command of the line, and leaves the serial handler idle. -/
theorem line_commands {device : σ} {rtc : ρ} {ticks : Ticks} {system : System σ ρ}
    {ts : List (Taken (Lines σ ρ) LineEvent)} {s : Lines σ ρ}
    (hmain : main pl fs clock ticks (powerOn device rtc) = .ok system)
    (hrun : Run (StoreStep pl fs clock) (Lines.start system) ts s) :
    (∀ c ∈ s.calls, Carried c) ∧ (s.pc = .serialHandler → s.serial.payload = false ∧
      (s.serial.newDataAvailable = true → s.serial.serialBuffer ≠ [] →
        (0 : Byte) ∉ s.serial.serialBuffer → ∃ c, IsCommandOf s.serial.serialBuffer c ∧ ∀ ticks,
          (configurationTask pl fs clock ticks s.system =
            handler pl fs clock c.1 c.2 ticks s.system.config >>= fun config =>
              updatePeriod { s.system with serial := .idle, config := config }) ∧
          ∀ system', configurationTask pl fs clock ticks s.system = .ok system' →
            system'.serial = .idle)) := by
  have hinv := hrun.invariant storeStep_inv (start_command hmain)
  refine ⟨hinv.calls, fun hpc => ?_⟩
  have hdown := hinv.down hpc nofun
  refine ⟨hdown, fun hnew hne hnul => ?_⟩
  obtain ⟨c, hc, hd⟩ := dispatched_line hnew hdown hne hnul
  refine ⟨c, hc, fun ticks => ⟨?_, fun system' h => ?_⟩⟩
  · rw [configurationTask_eq, hd]
  · rw [configurationTask_serial h, hd]

/-- A line that a host stored before its first call. -/
theorem line_commands_first : ∃ (system : System CFile Unit) (s : Lines CFile Unit) (c : Command),
    Run (StoreStep .host cFileHandler blankClock) (Lines.start system)
      [⟨Lines.start system, .store (ascii "station"), s⟩] s ∧
    s.serial.newDataAvailable = true ∧ s.serial.payload = false ∧ IsCommandOf (ascii "station") c ∧
    (configurationTask .host cFileHandler blankClock ⟨0, 0⟩ s.system =
      handler .host cFileHandler blankClock c.1 c.2 ⟨0, 0⟩ s.system.config >>= fun config =>
        updatePeriod { s.system with serial := .idle, config := config }) ∧
    ∀ system', configurationTask .host cFileHandler blankClock ⟨0, 0⟩ s.system = .ok system' →
      system'.serial = .idle := by
  obtain ⟨system, hboot, -⟩ := hostFirstBoot ⟨0, 0⟩
  have hrun : Run (StoreStep .host cFileHandler blankClock) (Lines.start system)
      [⟨Lines.start system, .store (ascii "station"), _⟩] _ := .cons (.store _) (.nil _)
  obtain ⟨hdown, hline⟩ := (line_commands hboot hrun).2 rfl
  have hne : ascii "station" ≠ [] ∧ (0 : Byte) ∉ ascii "station" := by decide
  obtain ⟨c, hc, htask⟩ := hline rfl hne.1 hne.2
  exact ⟨system, _, c, hrun, rfl, hdown, hc, htask ⟨0, 0⟩⟩

end GenLogger.Config
