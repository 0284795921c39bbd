import GenLogger.Lib.Run
import GenLogger.SdCard.Probe

/-!
# The status variables over a run

`Stat`, `CardType` and `PowerFlag` describe one fact: whether there is a card. A run is a list of
calls of the public functions, in any order and with any answers, from the values the variables are
initialised to (`Step`, `start`).

`SD_disk_initialize` clears `STA_NOINIT` when it finds a card, and nothing ever sets it again: neither
an initialisation that fails, though it clears `CardType` and `PowerFlag`, nor `CTRL_POWER` that
powers the card off.

* `Truthful`: a clear `STA_NOINIT` stands for a card that was identified and is powered.
* `Keeps`: an initialised card is not powered off, and is initialised again only if it answers.

Results:
* `call_steady`: calls that neither initialise nor switch the power leave the three variables alone.
* `call_status`: what a call does to them.
* `sd_status_truthful_iff`: a run keeps them truthful exactly as long as an initialised card is not
  powered off and every further initialisation finds a card.
-/

namespace GenLogger.SdCard

open GenLogger.Lib

/-! ## Calls -/

/-- A call of a public function. -/
inductive Call where
  | init (drv : UInt8)
  | status (drv : UInt8)
  | read (pdrv : UInt8) (sector : UInt32) (count : Nat)
  | write (resp pdrv : UInt8) (buff : List UInt8) (sector : UInt32) (count : Nat)
  | ioctl (drv ctrl mode : UInt8)
  deriving Repr, DecidableEq

/-- What it returns. -/
inductive Reply where
  | status (value : UInt8)
  | result (value : DResult)
  deriving Repr, DecidableEq

/-- What a call answers and leaves behind, and what is left of the bytes to receive. -/
def Call.run : Call → Driver Reply
  | init drv, s, rx => do
    let (value, s, rx) ← diskInitialize drv s rx
    some (.status value, s, rx)
  | status drv, s, rx => some (.status (diskStatus drv s), s, rx)
  | read pdrv sector count, s, rx => do
    let (value, s, rx) ← diskRead pdrv sector count s rx
    some (.result value, s, rx)
  | write resp pdrv buff sector count, s, rx => do
    let (value, s, rx) ← diskWrite resp pdrv buff sector count s rx
    some (.result value, s, rx)
  | ioctl drv ctrl mode, s, rx => do
    let (value, s, rx) ← diskIoctl drv ctrl mode s rx
    some (.result value, s, rx)

/-- A call, the answers it gets and its reply. -/
structure Exchange where
  call : Call
  rx : List Rx
  reply : Reply
  deriving Repr, DecidableEq

/-- A call that returns when all of its bytes are received. -/
def Step (s : Sd) (e : Exchange) (s' : Sd) : Prop := e.call.run s e.rx = some (e.reply, s', [])

/-- The values that the variables are initialised to. -/
def start : Sd where
  timer1 := 0
  timer2 := 0
  stat := staNoinit
  cardType := 0
  powerFlag := 0
  trace := []
  stores := []

/-! ## Functions that leave the status variables alone -/

/-- The status variables are the same. -/
structure SameStatus (s s' : Sd) : Prop where
  stat : s'.stat = s.stat
  cardType : s'.cardType = s.cardType
  powerFlag : s'.powerFlag = s.powerFlag

/-- `SameStatus`, answers costing their ticks. -/
def steady : Effect Sd Rx where
  cost := Rx.ticks
  rel s _ s' := SameStatus s s'
  refl _ := ⟨rfl, rfl, rfl⟩
  trans h h' := ⟨h'.stat.trans h.stat, h'.cardType.trans h.cardType, h'.powerFlag.trans h.powerFlag⟩

section

variable {α : Type} {f : Driver α}

theorem steady_of_spoke (h : Interacts spoke f) : Interacts steady f :=
  h.mono rfl fun h => ⟨h.stat, h.cardType, h.powerFlag⟩

/-- A function that runs while the card is selected. -/
theorem selected_steady (h : Interacts spoke f) : Interacts steady (fun s rx => f (select s) rx) :=
  .before (fun _ => ⟨rfl, rfl, rfl⟩) (steady_of_spoke h)

end

theorem released_steady : Interacts steady (fun s rx => spiRxByte (deselect s) rx) :=
  .before (fun _ => ⟨rfl, rfl, rfl⟩) (steady_of_spoke (spoke_of_quiet spiRxByte_quiet))

theorem finish_steady (count : Nat) : Interacts steady (finish count) :=
  .bind released_steady fun _ => .done steady.refl

theorem diskRead_steady (pdrv : UInt8) (sector : UInt32) (count : Nat) :
    Interacts steady (diskRead pdrv sector count) := by
  have htransfer : Interacts steady (fun s rx => readSectors (address sector s) count (select s) rx) :=
    .atState (f := fun s₀ s rx => readSectors (address sector s₀) count (select s) rx)
      fun s₀ => selected_steady (readSectors_spoke (address sector s₀) count)
  exact .ite (.done steady.refl) (.test (.done steady.refl) (.bind htransfer finish_steady))

theorem diskWrite_steady (resp pdrv : UInt8) (buff : List UInt8) (sector : UInt32) (count : Nat) :
    Interacts steady (diskWrite resp pdrv buff sector count) := by
  have htransfer : Interacts steady
      (fun s rx => writeSectors resp buff (address sector s) count (select s) rx) :=
    .atState (f := fun s₀ s rx => writeSectors resp buff (address sector s₀) count (select s) rx)
      fun s₀ => selected_steady (spoke_of_quiet (writeSectors_quiet resp buff (address sector s₀) count))
  exact .ite (.done steady.refl) (.test (.done steady.refl) (.test (.done steady.refl)
    (.bind htransfer finish_steady)))

/-- `CTRL_POWER` that switches. -/
def Switches (drv ctrl mode : UInt8) : Prop := drv = 0 ∧ ctrl = ctrlPower ∧ (mode = 0 ∨ mode = 1)

theorem powerControl_steady {mode : UInt8} (hmode : ¬ (mode = 0 ∨ mode = 1)) :
    Interacts steady (powerControl mode) :=
  .dite (fun h => absurd (Or.inl h) hmode) fun _ => .dite (fun h => absurd (Or.inr h) hmode) fun _ =>
    .ite (.atState (f := fun s₀ s rx => some (DResult.ok, store 1 s₀.powerFlag s, rx))
      fun _ => .done fun _ => ⟨rfl, rfl, rfl⟩) (.done steady.refl)

theorem diskIoctl_steady {drv ctrl mode : UInt8} (hswitch : ¬ Switches drv ctrl mode) :
    Interacts steady (diskIoctl drv ctrl mode) :=
  .dite (fun _ => .done steady.refl) fun hdrv => .dite
    (fun hctrl => powerControl_steady fun hmode => hswitch ⟨not_not.mp hdrv, hctrl, hmode⟩)
    fun _ => .test (.done steady.refl) (.bind (selected_steady (control_spoke ctrl)) fun _ =>
      .bind released_steady fun _ => .done steady.refl)

/-- Every other call. -/
theorem call_steady {c : Call} (hinit : ∀ drv, c = .init drv → drv ≠ 0)
    (hswitch : ∀ drv ctrl mode, c = .ioctl drv ctrl mode → ¬ Switches drv ctrl mode) :
    Interacts steady c.run := by
  match c with
  | .init drv =>
    have hdrv : Interacts steady (diskInitialize drv) :=
      .dite (fun _ => .done steady.refl) fun h => absurd (not_not.mp h) (hinit drv rfl)
    exact .bind hdrv fun _ => .done steady.refl
  | .status drv =>
    exact .atState (f := fun s₀ s rx => some (Reply.status (diskStatus drv s₀), s, rx)) fun _ =>
      .done steady.refl
  | .read pdrv sector count => exact .bind (diskRead_steady pdrv sector count) fun _ => .done steady.refl
  | .write resp pdrv buff sector count =>
    exact .bind (diskWrite_steady resp pdrv buff sector count) fun _ => .done steady.refl
  | .ioctl drv ctrl mode =>
    exact .bind (diskIoctl_steady (hswitch drv ctrl mode rfl)) fun _ => .done steady.refl

/-! ## One call -/

/-- `STA_NOINIT` is clear in `Stat`. -/
def Initialised (s : Sd) : Prop := s.stat &&& staNoinit = 0

instance (s : Sd) : Decidable (Initialised s) := inferInstanceAs (Decidable (_ = _))

/-- The status word claims no card that is not there. -/
def Truthful (s : Sd) : Prop := Initialised s → s.cardType ≠ 0 ∧ s.powerFlag = 1

instance (s : Sd) : Decidable (Truthful s) := inferInstanceAs (Decidable (_ → _))

/-- Nothing sets `STA_NODISK`. -/
def HasDisk (s : Sd) : Prop := s.stat &&& staNodisk = 0

/-- Some card answers this way. -/
def Identifies (rx : List Rx) : Prop := ∃ card, Detects (some card) rx

/-- `SD_disk_initialize` returns with `STA_NOINIT` clear only if this call identified a card. -/
def Honest (t : Taken Sd Exchange) : Prop := ∀ drv value, t.input.call = .init drv →
  t.input.reply = .status value → value &&& staNoinit = 0 → Identifies t.input.rx

/-- An initialised card is not powered off, and initialised again only if it answers. -/
def Keeps (t : Taken Sd Exchange) : Prop := Initialised t.before →
  t.input.call ≠ .ioctl 0 ctrlPower 0 ∧ (t.input.call = .init 0 → Identifies t.input.rx)

theorem SameStatus.truthful {s s' : Sd} (h : SameStatus s s') : Truthful s' ↔ Truthful s := by
  unfold Truthful Initialised
  rw [h.stat, h.cardType, h.powerFlag]

theorem Found.clear (card : Option Card) {s s' : Sd} (h : Found card s s') :
    Initialised s' ↔ card ≠ none ∨ Initialised s := by
  have hbit (x : UInt8) : x &&& ~~~staNoinit &&& staNoinit = 0 := by
    rw [UInt8.and_assoc]
    exact UInt8.and_zero
  unfold Initialised
  rw [h.stat]
  by_cases hcard : card = none
  · simp [hcard]
  · simp [hcard, hbit]

theorem Found.truthful {card : Option Card} {s s' : Sd} (h : Found card s s') :
    Truthful s' ↔ (Initialised s → card ≠ none) := by
  have htype := typeOf_eq_zero_iff card
  unfold Truthful
  rw [h.clear, h.cardType, h.powerFlag]
  by_cases hcard : card = none
  · simp [hcard]
  · simp [hcard, htype]

/-- **A call of `SD_disk_initialize`**, by what it received. -/
theorem init_cases {s s' : Sd} {rx : List Rx} {reply : Reply} (hdisk : HasDisk s)
    (h : Step s ⟨.init 0, rx, reply⟩ s') :
    ∃ card, Detects card rx ∧ Found card s s' ∧ reply = .status s'.stat := by
  obtain ⟨value, hinit, rfl⟩ := run_of_map (b := Reply.status) h
  obtain ⟨card, l, rfl, hdetects, hfound, rfl⟩ := diskInitialize_cases hdisk hinit
  rw [List.append_nil]
  exact ⟨card, hdetects, hfound, rfl⟩

/-- No other card answers this way. -/
theorem Detects.unique {card card' : Option Card} {l : List Rx} (h : Detects card l)
    (h' : Detects card' l) : card = none ↔ card' = none := by
  obtain ⟨s₁, hrun, hfound⟩ := diskInitialize_runs h (s := start) rfl []
  obtain ⟨s₂, hrun', hfound'⟩ := diskInitialize_runs h' (s := start) rfl []
  obtain ⟨-, hsame, -⟩ : s₁.stat = s₂.stat ∧ s₁ = s₂ ∧ ([] : List Rx) = [] := by
    simpa using hrun.symm.trans hrun'
  rw [← hsame] at hfound'
  rw [← typeOf_eq_zero_iff, ← hfound.cardType, hfound'.cardType, typeOf_eq_zero_iff]

/-- What a call of `CTRL_POWER` does. -/
theorem switch_cases {s s' : Sd} {mode : UInt8} (hmode : mode = 0 ∨ mode = 1) {rx : List Rx}
    {reply : Reply} (h : Step s ⟨.ioctl 0 ctrlPower mode, rx, reply⟩ s') :
    s'.stat = s.stat ∧ s'.cardType = s.cardType ∧ s'.powerFlag = mode := by
  obtain ⟨value, hioctl, rfl⟩ := run_of_map (b := Reply.result) h
  rcases hmode with rfl | rfl
  · cases hioctl
    exact ⟨rfl, rfl, rfl⟩
  · obtain ⟨⟨_, s₂, rest⟩, hpower, heq⟩ := Option.bind_eq_some_iff.mp hioctl
    cases heq
    obtain ⟨hon, -⟩ := powerOn_cases hpower
    exact ⟨hon.stat, hon.cardType, hon.powerFlag⟩

/-- A call that is neither. -/
theorem sameStatus_of_step {s s' : Sd} {e : Exchange} (hinit : e.call ≠ .init 0)
    (hswitch : ∀ mode, mode = 0 ∨ mode = 1 → e.call ≠ .ioctl 0 ctrlPower mode) (h : Step s e s') :
    SameStatus s s' := by
  have hsteady : Interacts steady e.call.run := by
    refine call_steady (fun drv hcall => ?_) fun drv ctrl mode hcall => ?_
    · rintro rfl
      exact hinit hcall
    · rintro ⟨rfl, rfl, hmode⟩
      exact hswitch mode hmode hcall
  obtain ⟨l, -, hrel, -⟩ := hsteady.takes h
  exact hrel

theorem hasDisk_preserved : Preserved Step HasDisk := by
  intro s ⟨c, rx, reply⟩ s' hdisk h
  by_cases hinit : c = .init 0
  · subst hinit
    obtain ⟨card, -, hfound, -⟩ := init_cases hdisk h
    unfold HasDisk
    rw [hfound.stat]
    split
    · exact hdisk
    · rw [UInt8.and_assoc, UInt8.and_comm (~~~staNoinit), ← UInt8.and_assoc, hdisk]
      exact UInt8.zero_and
  · by_cases hswitch : ∃ mode, (mode = 0 ∨ mode = 1) ∧ c = .ioctl 0 ctrlPower mode
    · obtain ⟨mode, hmode, rfl⟩ := hswitch
      exact (congrArg (· &&& staNodisk) (switch_cases hmode h).1).trans hdisk
    · have hsame := sameStatus_of_step hinit (fun mode hmode hc => hswitch ⟨mode, hmode, hc⟩) h
      exact (congrArg (· &&& staNodisk) hsame.stat).trans hdisk

/-- **One call** keeps the variables truthful, or takes the card away. -/
theorem call_status {t : Taken Sd Exchange} (hdisk : HasDisk t.before) (htrue : Truthful t.before)
    (h : Step t.before t.input t.after) : Truthful t.after ↔ Keeps t := by
  obtain ⟨s, ⟨c, rx, reply⟩, s'⟩ := t
  by_cases hinit : c = .init 0
  · subst hinit
    obtain ⟨card, hdetects, hfound, -⟩ := init_cases hdisk h
    rw [hfound.truthful]
    constructor
    · intro hcard hclear
      obtain ⟨c, rfl⟩ := Option.ne_none_iff_exists'.mp (hcard hclear)
      exact ⟨nofun, fun _ => ⟨c, hdetects⟩⟩
    · intro hkeeps hclear
      obtain ⟨c, hc⟩ := (hkeeps hclear).2 rfl
      exact mt (hdetects.unique hc).mp (Option.some_ne_none c)
  · by_cases hswitch : ∃ mode, (mode = 0 ∨ mode = 1) ∧ c = .ioctl 0 ctrlPower mode
    · obtain ⟨mode, hmode, rfl⟩ := hswitch
      obtain ⟨hstat, htype, hpower⟩ := switch_cases hmode h
      unfold Truthful Keeps Initialised at *
      simp only at hstat htype hpower
      rw [hstat, htype, hpower]
      rcases hmode with rfl | rfl
      · simp
      · refine iff_of_true (fun hclear => ⟨(htrue hclear).1, rfl⟩) fun _ => ⟨?_, nofun⟩
        simp
    · have hsame := sameStatus_of_step hinit (fun mode hmode hc => hswitch ⟨mode, hmode, hc⟩) h
      refine iff_of_true (hsame.truthful.mpr htrue) fun _ => ⟨?_, fun hc => absurd hc hinit⟩
      exact fun hc => hswitch ⟨0, Or.inl rfl, hc⟩

/-- An answer of `SD_disk_initialize` is honest where the variables are truthful. -/
theorem honest_of_truthful {t : Taken Sd Exchange} (hdisk : HasDisk t.before)
    (h : Step t.before t.input t.after) (htrue : Truthful t.after) : Honest t := by
  obtain ⟨s, ⟨c, rx, reply⟩, s'⟩ := t
  rintro drv value rfl hreply hclear
  by_cases hdrv : drv = 0
  · subst hdrv
    obtain ⟨card, hdetects, hfound, hstat⟩ := init_cases hdisk h
    cases hreply.symm.trans hstat
    have hcard : card ≠ none := by
      rw [Ne, ← typeOf_eq_zero_iff, ← hfound.cardType]
      exact (htrue hclear).1
    obtain ⟨c, rfl⟩ := Option.ne_none_iff_exists'.mp hcard
    exact ⟨c, hdetects⟩
  · obtain ⟨value, hinit, rfl⟩ := run_of_map (b := Reply.status) h
    cases (if_pos hdrv).symm.trans hinit
    cases hreply
    exact absurd hclear (by decide)

/-! ## Runs -/

theorem start_truthful : Truthful start := by decide

theorem start_hasDisk : HasDisk start := rfl

/-- **A run** keeps the status word truthful, and every initialisation honest, exactly as long as an
initialised card is not powered off and initialised again only if it answers. -/
theorem sd_status_truthful_iff {ts : List (Taken Sd Exchange)} {s' : Sd} (h : Run Step start ts s') :
    (∀ t ∈ ts, Truthful t.after ∧ Honest t) ↔ ∀ t ∈ ts, Keeps t := by
  have hrun := Run.forall_after_iff hasDisk_preserved (fun t hdisk htrue hs => call_status hdisk htrue hs) h
    start_hasDisk start_truthful
  have htaken := Run.taken hasDisk_preserved h start_hasDisk
  rw [← hrun]
  constructor
  · intro hall t ht
    exact (hall t ht).1
  · intro hall t ht
    exact ⟨hall t ht, honest_of_truthful (htaken t ht).1 (htaken t ht).2 (hall t ht)⟩

/-- An initialisation with the answers of a card. -/
theorem step_init {card : Option Card} {l : List Rx} (h : Detects card l) {s : Sd} (hdisk : HasDisk s) :
    ∃ s', Step s ⟨.init 0, l, .status s'.stat⟩ s' ∧ Found card s s' := by
  obtain ⟨s', hrun, hfound⟩ := diskInitialize_runs h hdisk []
  rw [List.append_nil] at hrun
  exact ⟨s', Option.bind_eq_some_iff.mpr ⟨_, hrun, rfl⟩, hfound⟩

/-- A card of version 2 is found, once. -/
theorem sd_status_truthful_found : ∃ s',
    (∀ t ∈ [(⟨start, ⟨.init 0, promptSd2 true, .status s'.stat⟩, s'⟩ : Taken Sd Exchange)],
      Truthful t.after ∧ Honest t) ∧ Initialised s' := by
  obtain ⟨s', hstep, hfound⟩ := step_init (detects_promptSd2 true) start_hasDisk
  refine ⟨s', (sd_status_truthful_iff (.cons hstep (.nil s'))).mpr fun t ht => ?_, ?_⟩
  · obtain rfl := List.mem_singleton.mp ht
    exact fun hclear => absurd hclear (show ¬ Initialised start by decide)
  · exact hfound.clear.mpr (Or.inl (Option.some_ne_none _))

/-- No card: it wakes up, and does not answer `CMD0` with the idle state. -/
def pulled : List Rx := [⟨0x01, 1⟩] ++ prompt 0 ++ [⟨0xFF, 1⟩]

theorem detects_pulled : Detects none pulled :=
  ⟨_, _, _, rfl, ⟨[], ⟨0x01, 1⟩, rfl, List.forall_mem_nil _, Or.inl ⟨rfl, Nat.zero_le _⟩⟩,
    .silent (answers_prompt (by decide) rfl) (by decide)⟩

/-- The card is found, pulled, and initialised again: the status word still claims it. -/
theorem sd_status_pulled_fails : ∃ s s',
    Run Step start [⟨start, ⟨.init 0, promptSd2 true, .status s.stat⟩, s⟩,
      ⟨s, ⟨.init 0, pulled, .status s'.stat⟩, s'⟩] s' ∧
      s'.stat &&& staNoinit = 0 ∧ s'.cardType = 0 ∧ s'.powerFlag = 0 := by
  obtain ⟨s, hstep, hfound⟩ := step_init (detects_promptSd2 true) start_hasDisk
  have hdisk := hasDisk_preserved _ _ _ start_hasDisk hstep
  obtain ⟨s', hstep', hfound'⟩ := step_init detects_pulled hdisk
  refine ⟨s, s', .cons hstep (.cons hstep' (.nil s')), ?_, hfound'.cardType, hfound'.powerFlag⟩
  exact hfound'.clear.mpr (Or.inr (hfound.clear.mpr (Or.inl (Option.some_ne_none _))))

end GenLogger.SdCard
