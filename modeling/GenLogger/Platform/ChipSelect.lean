import GenLogger.Flash.W25Q64
import GenLogger.SdCard.Addressing

/-!
# One bus, two devices (`spi_drv.c`)

The SD card and the flash share the SPI bus; each has a chip select, both pins of port F. Both drivers
drive theirs by hand, with `csWrite`.

* What a driver does to the bus is the list of events that its functions append to a trace, and what
  the pins do meanwhile follows from it, event by event.
* `HAL_GPIO_WritePin` is a parameter (`Gpio`), with what it documents: it sets the output of a pin and
  of no other one.
* `Operation` is a call of either driver with all that it receives, whether it has returned or still
  waits.

Results:
* `call_releases`, `flashCall_releasing`: whatever is received, a call that started with its chip
  select high returns with it high.
* `operation_returns`: whatever a call has received, some further answers let it return, so that the
  moments of a call that still waits are moments of one that returns.
* `spi_never_shared`: in a run of any operations of both drivers at most one chip select is low at any
  moment, and none between two operations.
-/

namespace GenLogger.Platform

open GenLogger.Lib GenLogger.SdCard GenLogger.Flash

/-! ## The pins -/

/-- `SPI_Devices_t`. -/
inductive Device where
  | w25qx
  | sdCard
  deriving Repr, DecidableEq

/-- `CS_PIN_W25Q` and `CS_PIN_SD_CARD`, of port F. -/
def Device.pin : Device → Nat
  | w25qx => 13
  | sdCard => 14

/-- `HAL_GPIO_WritePin` of a port with states `π`, and the levels of its pins. -/
structure Gpio (π : Type) where
  writePin : Nat → UInt8 → π → π
  high : Nat → π → Bool
  high_writePin : ∀ pin val port, high pin (writePin pin val port) = decide (val ≠ 0)
  high_writePin_ne : ∀ pin pin' val port, pin' ≠ pin →
    high pin' (writePin pin val port) = high pin' port

section

variable {π : Type} (gpio : Gpio π)

/-- `csWrite`. -/
def csWrite (device : Device) (val : UInt8) (port : π) : π := gpio.writePin device.pin val port

/-- `_initCSPin`: its last call. -/
def initCsPin (device : Device) (port : π) : π := gpio.writePin device.pin 1 port

/-- The pins in `spi_init`. -/
def spiInit (port : π) : π := initCsPin gpio .sdCard (initCsPin gpio .w25qx port)

/-- The level of a chip select. -/
def High (device : Device) (port : π) : Prop := gpio.high device.pin port = true

/-- No device is selected. -/
def BothHigh (port : π) : Prop := ∀ device, High gpio device port

/-- At most one is. -/
def AtMostOneLow (port : π) : Prop := High gpio .w25qx port ∨ High gpio .sdCard port

/-- What an event of a driver does to the pins. -/
def onEvent (device : Device) (port : π) : BusEvent → π
  | .csWrite val => csWrite gpio device val port
  | .tx _ => port

/-- And a list of them. -/
def onEvents (device : Device) (events : List BusEvent) (port : π) : π :=
  events.foldl (onEvent gpio device) port

theorem Device.pin_ne {device device' : Device} (h : device' ≠ device) : device'.pin ≠ device.pin := by
  cases device <;> cases device' <;> first | exact absurd rfl h | decide

theorem spiInit_high (port : π) : BothHigh gpio (spiInit gpio port) := by
  intro device
  cases device with
  | w25qx =>
    exact (gpio.high_writePin_ne 14 13 1 _ (by decide)).trans (gpio.high_writePin 13 1 port)
  | sdCard => exact gpio.high_writePin 14 1 _

end

/-! ## Chip selects and events -/

/-- The chip select after some events. -/
def csAfter (high : Bool) (events : List BusEvent) : Bool :=
  events.foldl (fun high e => match e with
    | .csWrite val => decide (val ≠ 0)
    | .tx _ => high) high

/-- A chip select that was high is high again. -/
def Releases (events : List BusEvent) : Prop := csAfter true events = true

theorem csAfter_append (high : Bool) (l m : List BusEvent) :
    csAfter high (l ++ m) = csAfter (csAfter high l) m :=
  List.foldl_append

theorem csAfter_tx (high : Bool) (bytes : List UInt8) : csAfter high (bytes.map .tx) = high := by
  induction bytes with
  | nil => rfl
  | cons b bytes ih => exact ih

theorem Releases.append {l m : List BusEvent} (hl : Releases l) (hm : Releases m) : Releases (l ++ m) :=
  (csAfter_append true l m).trans ((congrArg (csAfter · m) hl).trans hm)

/-- Whatever was done before it, a deselection releases. -/
theorem releases_deselected (l : List BusEvent) (bytes : List UInt8) :
    Releases (l ++ .csWrite 1 :: bytes.map .tx) :=
  (csAfter_append true l _).trans (csAfter_tx true bytes)

section

variable {π : Type} {gpio : Gpio π}

/-- The pins follow the events of a driver, -/
theorem high_onEvents (device : Device) (events : List BusEvent) (port : π) :
    gpio.high device.pin (onEvents gpio device events port) =
      csAfter (gpio.high device.pin port) events := by
  induction events generalizing port with
  | nil => rfl
  | cons e events ih =>
    refine (ih (onEvent gpio device port e)).trans ?_
    cases e with
    | csWrite val => exact congrArg (csAfter · events) (gpio.high_writePin device.pin val port)
    | tx data => rfl

/-- and no driver moves that of the other. -/
theorem high_onEvents_ne {device device' : Device} (h : device' ≠ device) (events : List BusEvent)
    (port : π) : gpio.high device'.pin (onEvents gpio device events port) = gpio.high device'.pin port := by
  induction events generalizing port with
  | nil => rfl
  | cons e events ih =>
    refine (ih (onEvent gpio device port e)).trans ?_
    cases e with
    | csWrite val => exact gpio.high_writePin_ne _ _ val port (Device.pin_ne h)
    | tx data => rfl

theorem bothHigh_onEvents {device : Device} {events : List BusEvent} (h : Releases events) {port : π}
    (hport : BothHigh gpio port) : BothHigh gpio (onEvents gpio device events port) := by
  intro device'
  by_cases hdevice : device' = device
  · subst hdevice
    exact (high_onEvents device' events port).trans ((congrArg (csAfter · events) (hport device')).trans h)
  · exact (high_onEvents_ne hdevice events port).trans (hport device')

theorem atMostOneLow_onEvents (device : Device) (events : List BusEvent) {port : π}
    (hport : BothHigh gpio port) : AtMostOneLow gpio (onEvents gpio device events port) := by
  cases device with
  | w25qx => exact Or.inr ((high_onEvents_ne (by decide) events port).trans (hport .sdCard))
  | sdCard => exact Or.inl ((high_onEvents_ne (by decide) events port).trans (hport .w25qx))

end

/-! ## The SD card driver -/

/-- A part of a trace that releases. -/
def ReleasesTrace (before after : List BusEvent) : Prop :=
  ∃ events, after = before ++ events ∧ Releases events

theorem ReleasesTrace.still {l l' : List BusEvent} (h : l' = l) : ReleasesTrace l l' :=
  ⟨[], by rw [h, List.append_nil], rfl⟩

theorem ReleasesTrace.trans {l l' l'' : List BusEvent} (h : ReleasesTrace l l')
    (h' : ReleasesTrace l' l'') : ReleasesTrace l l'' := by
  obtain ⟨events, rfl, hevents⟩ := h
  obtain ⟨events', rfl, hevents'⟩ := h'
  exact ⟨events ++ events', List.append_assoc _ _ _, hevents.append hevents'⟩

/-- Bytes between a selection and a deselection. -/
theorem releasesTrace_selected {s s₁ s' : Sd} {bytes : List UInt8}
    (h : s₁.trace = (select s).trace ++ bytes.map .tx) (hs' : s'.trace = (deselect s₁).trace) :
    ReleasesTrace s.trace s'.trace := by
  refine ⟨_, ?_, releases_deselected (.csWrite 0 :: bytes.map .tx) []⟩
  rw [hs']
  show s₁.trace ++ [.csWrite 1] = _
  rw [h]
  simp [select]

theorem powerOn_releases {s s' : Sd} {rx rest : List Rx} (h : powerOn s rx = some ((), s', rest)) :
    ReleasesTrace s.trace s'.trace := by
  obtain ⟨bytes, hbytes⟩ := (powerOn_cases h).1.trace
  exact ⟨_, hbytes, releases_deselected _ [0xFF]⟩

theorem diskInitialize_releases {drv : UInt8} {s s' : Sd} {res : UInt8} {rx rest : List Rx}
    (h : diskInitialize drv s rx = some (res, s', rest)) : ReleasesTrace s.trace s'.trace := by
  by_cases hdrv : drv = 0
  · subst hdrv
    by_cases hdisk : s.stat &&& staNodisk = 0
    · obtain ⟨s₁, mid, type, s₂, last, hpower, hprobe, rfl, -⟩ := (diskInitialize_iff hdisk).mp h
      obtain ⟨bytes, hbytes⟩ := (spoke_of_run probe_spoke hprobe).sent
      refine (powerOn_releases hpower).trans (releasesTrace_selected hbytes ?_)
      unfold conclude
      split
      · rfl
      · rfl
    · have hdrv : ¬ (0 : UInt8) ≠ 0 := not_not.mpr rfl
      cases (if_pos hdisk).symm.trans ((if_neg hdrv).symm.trans h)
      exact .still rfl
  · cases (if_pos hdrv).symm.trans h
    exact .still rfl

/-- A transfer, from what it sends. -/
theorem releasesTrace_commands {arg : UInt32} {s s' : Sd}
    (h : s'.trace = s.trace ∨ ∃ s₁, Commands arg (select s) s₁ ∧ s'.trace = (deselect s₁).trace) :
    ReleasesTrace s.trace s'.trace := by
  rcases h with hstill | ⟨s₁, ⟨bytes, hbytes, -⟩, hs'⟩
  · exact .still hstill
  · exact releasesTrace_selected hbytes hs'

theorem diskIoctl_releases {drv ctrl mode : UInt8} {s s' : Sd} {res : DResult} {rx rest : List Rx}
    (h : diskIoctl drv ctrl mode s rx = some (res, s', rest)) : ReleasesTrace s.trace s'.trace := by
  by_cases hdrv : drv ≠ 0
  · cases (if_pos hdrv).symm.trans h
    exact .still rfl
  replace h := (if_neg hdrv).symm.trans h
  by_cases hctrl : ctrl = ctrlPower
  · replace h := (if_pos hctrl).symm.trans h
    by_cases hon : mode = 1
    · subst hon
      obtain ⟨⟨_, s₁, mid⟩, hpower, heq⟩ := Option.bind_eq_some_iff.mp h
      cases heq
      exact powerOn_releases hpower
    · unfold powerControl at h
      rw [if_neg hon] at h
      split at h
      · cases h; exact .still rfl
      · split at h
        · cases h; exact .still rfl
        · cases h; exact .still rfl
  replace h := (if_neg hctrl).symm.trans h
  by_cases hinit : s.stat &&& staNoinit ≠ 0
  · cases (if_pos hinit).symm.trans h
    exact .still rfl
  · obtain ⟨⟨value, s₁, mid⟩, hcontrol, h⟩ :=
      Option.bind_eq_some_iff.mp ((if_neg hinit).symm.trans h)
    obtain ⟨⟨_, s₂, mid'⟩, hlast, heq⟩ := Option.bind_eq_some_iff.mp h
    cases heq
    obtain ⟨bytes, hbytes⟩ := (spoke_of_run (control_spoke ctrl) hcontrol).sent
    refine releasesTrace_selected hbytes ?_
    cases mid with
    | nil => cases hlast
    | cons r mid => cases hlast; rfl

/-- **A call of the SD card driver** leaves its chip select high. -/
theorem call_releases {c : Call} {s s' : Sd} {reply : Reply} {rx rest : List Rx}
    (h : c.run s rx = some (reply, s', rest)) : ReleasesTrace s.trace s'.trace := by
  match c with
  | .init drv =>
    obtain ⟨value, hrun, -⟩ := run_of_map (b := Reply.status) h
    exact diskInitialize_releases hrun
  | .status drv =>
    cases h
    exact .still rfl
  | .read pdrv sector count =>
    obtain ⟨value, hrun, -⟩ := run_of_map (b := Reply.result) h
    exact releasesTrace_commands (diskRead_command hrun)
  | .write resp pdrv buff sector count =>
    obtain ⟨value, hrun, -⟩ := run_of_map (b := Reply.result) h
    exact releasesTrace_commands (diskWrite_command hrun)
  | .ioctl drv ctrl mode =>
    obtain ⟨value, hrun, -⟩ := run_of_map (b := Reply.result) h
    exact diskIoctl_releases hrun

/-- Any effect. -/
def anyEffect : Effect Sd Rx where
  cost := Rx.ticks
  rel _ _ _ := True
  refl _ := trivial
  trans _ _ := trivial

theorem any_of_interacts {α : Type} {E : Effect Sd Rx} {f : Driver α} (h : Interacts E f)
    (hcost : E.cost = Rx.ticks) : Interacts anyEffect f :=
  h.mono hcost.symm fun _ => trivial

theorem powerOn_interacts : Interacts anyEffect powerOn :=
  .bind (.before (fun _ => trivial) (any_of_interacts (idleWait_quiet 0x1FFF) rfl)) fun _ =>
    .done fun _ => trivial

theorem diskInitialize_interacts (drv : UInt8) : Interacts anyEffect (diskInitialize drv) :=
  .ite (.done fun _ => trivial) <| .test (.done fun _ => trivial) <|
    .bind powerOn_interacts fun _ =>
      .bind (.before (fun _ => trivial) (any_of_interacts probe_spoke rfl)) fun type =>
        .bind (.before (k := fun s => deselect { s with cardType := type }) (fun _ => trivial)
          (any_of_interacts spiRxByte_quiet rfl)) fun _ => .done fun _ => trivial

theorem diskIoctl_interacts (drv ctrl mode : UInt8) : Interacts anyEffect (diskIoctl drv ctrl mode) := by
  have hpower : Interacts anyEffect (powerControl mode) :=
    .ite (.done fun _ => trivial) <| .ite (.bind powerOn_interacts fun _ => .done fun _ => trivial) <|
      .ite (.done fun _ => trivial) (.done fun _ => trivial)
  exact .ite (.done fun _ => trivial) <| .ite hpower <| .test (.done fun _ => trivial) <|
    .bind (.before (fun _ => trivial) (any_of_interacts (control_spoke ctrl) rfl)) fun _ =>
      .bind (any_of_interacts released_steady rfl) fun _ => .done fun _ => trivial

/-- **A call of the SD card driver** can go on and return. -/
theorem call_returns (c : Call) : Interacts anyEffect c.run := by
  match c with
  | .init drv => exact .bind (diskInitialize_interacts drv) fun _ => .done fun _ => trivial
  | .status drv => exact .done fun _ => trivial
  | .read pdrv sector count =>
    exact .bind (any_of_interacts (diskRead_steady pdrv sector count) rfl) fun _ => .done fun _ => trivial
  | .write resp pdrv buff sector count =>
    exact .bind (any_of_interacts (diskWrite_steady resp pdrv buff sector count) rfl) fun _ =>
      .done fun _ => trivial
  | .ioctl drv ctrl mode =>
    exact .bind (diskIoctl_interacts drv ctrl mode) fun _ => .done fun _ => trivial

/-! ## The flash driver -/

/-- What the flash driver does to the bus; the chip, or a stuck line, may answer anything. -/
def recorder : Spi (List BusEvent) Rx where
  write data trace := trace ++ data.map .tx
  read n trace rx := if n ≤ rx.length then some ((rx.take n).map Rx.byte, trace, rx.drop n) else none
  writePin val trace := trace ++ [.csWrite val]

/-- A call of a public function of `W25Q64`; `init` only sets the function pointers. -/
inductive FlashCall where
  | writeEnable
  | writeDisable
  | readStatusRegister
  | readJdec
  | writeStatusRegister (status : UInt8)
  | chipErase
  | sectorErase (addr : UInt32)
  | blockErase (addr : UInt32)
  | pageProgram (addr : UInt32) (data : List UInt8) (size : UInt16)
  | readData (addr : UInt32) (size : UInt16)
  | waitUntilReady
  deriving Repr, DecidableEq

/-- What it returns is dropped. -/
def FlashCall.run : FlashCall → List BusEvent → List Rx → Option (Unit × List BusEvent × List Rx)
  | writeEnable, trace, rx => some ((), recorder.writeEnable trace, rx)
  | writeDisable, trace, rx => some ((), recorder.writeDisable trace, rx)
  | readStatusRegister, trace, rx => do
    let (_, trace, rx) ← recorder.readStatusRegister trace rx
    some ((), trace, rx)
  | readJdec, trace, rx => some ((), recorder.readJdec trace, rx)
  | writeStatusRegister status, trace, rx => some ((), recorder.writeStatusRegister status trace, rx)
  | chipErase, trace, rx => recorder.chipErase trace rx
  | sectorErase addr, trace, rx => recorder.sectorErase addr trace rx
  | blockErase addr, trace, rx => recorder.blockErase addr trace rx
  | pageProgram addr data size, trace, rx => recorder.pageProgram addr data size trace rx
  | readData addr size, trace, rx => do
    let (_, trace, rx) ← recorder.readData addr size trace rx
    some ((), trace, rx)
  | waitUntilReady, trace, rx => do
    let (_, trace, rx) ← recorder.waitUntilReady trace rx
    some ((), trace, rx)

/-- `ReleasesTrace`, answers costing their ticks. -/
def releasing : Effect (List BusEvent) Rx where
  cost := Rx.ticks
  rel trace _ trace' := ReleasesTrace trace trace'
  refl _ := .still rfl
  trans := ReleasesTrace.trans

theorem recorder_writeEnable (trace : List BusEvent) :
    ReleasesTrace trace (recorder.writeEnable trace) := by
  refine ⟨[.csWrite 0, .tx cmdWriteEnable, .csWrite 1], ?_, rfl⟩
  simp [Spi.writeEnable, Spi.csSelect, Spi.csDeselect, recorder]

theorem recorder_readStatusRegister (trace : List BusEvent) (rx : List Rx) :
    recorder.readStatusRegister trace rx = rx.head?.map fun r =>
      (r.byte, trace ++ [.csWrite 0, .tx cmdReadStatusReg, .csWrite 1], rx.tail) := by
  cases rx with
  | nil => rfl
  | cons r rx => simp [Spi.readStatusRegister, Spi.csSelect, Spi.csDeselect, recorder]

theorem releasesTrace_poll (trace : List BusEvent) :
    ReleasesTrace trace (trace ++ [.csWrite 0, .tx cmdReadStatusReg, .csWrite 1]) :=
  ⟨_, rfl, rfl⟩

theorem waitUntilReady_releasing : Interacts releasing recorder.waitUntilReady :=
  .pollWhile (fun trace _ => releasesTrace_poll trace)
    (fun d => ⟨⟨0, d⟩, Nat.le_refl d, fun _ => by simp⟩) recorder_readStatusRegister

/-- The writes of a command. -/
theorem recorder_writes (bytes : List (List UInt8)) (trace : List BusEvent) :
    bytes.foldl (fun trace b => recorder.write b trace) trace = trace ++ bytes.flatten.map .tx := by
  induction bytes generalizing trace with
  | nil => exact (List.append_nil trace).symm
  | cons b bytes ih =>
    refine (ih (recorder.write b trace)).trans ?_
    simp [recorder]

/-- A command after a write enable. -/
theorem modify_releases (bytes : List (List UInt8)) (trace : List BusEvent) :
    ReleasesTrace trace (recorder.csDeselect (bytes.foldl (fun trace b => recorder.write b trace)
      (recorder.csSelect (recorder.writeEnable trace)))) := by
  refine (recorder_writeEnable trace).trans ?_
  rw [recorder_writes]
  refine ⟨_, ?_, releases_deselected (.csWrite 0 :: bytes.flatten.map .tx) []⟩
  simp [Spi.csSelect, Spi.csDeselect, recorder]

theorem modify_releasing (bytes : List (List UInt8)) : Interacts releasing (recorder.modify bytes) :=
  .bind (.before (modify_releases bytes) waitUntilReady_releasing) fun _ => .done releasing.refl

theorem readData_releasing (addr : UInt32) (size : UInt16) :
    Interacts releasing (recorder.readData addr size) := by
  refine .nextN size.toNat (fun trace _ => trace ++
    (.csWrite 0 :: (Spi.addressed cmdReadData addr).map .tx ++ [.csWrite 1])) (·.map Rx.byte)
    (fun trace _ _ => ⟨_, rfl, releases_deselected _ []⟩) (fun d => ⟨⟨0, d⟩, Nat.le_refl d⟩)
    fun trace rx => ?_
  unfold Spi.readData
  by_cases hlen : size.toNat ≤ rx.length
  · simp [recorder, Spi.csSelect, Spi.csDeselect, hlen]
  · simp [recorder, Spi.csSelect, hlen]

/-- **A call of the flash driver** leaves its chip select high, and can go on and return. -/
theorem flashCall_releasing (c : FlashCall) : Interacts releasing c.run := by
  match c with
  | .writeEnable => exact .done recorder_writeEnable
  | .writeDisable =>
    refine .done fun trace => ⟨[.csWrite 0, .tx cmdWriteDisable, .csWrite 1], ?_, rfl⟩
    simp [Spi.writeDisable, Spi.csSelect, Spi.csDeselect, recorder]
  | .readStatusRegister =>
    exact .bind (.next Rx.byte (fun trace _ => releasesTrace_poll trace)
      (fun d => ⟨⟨0, d⟩, Nat.le_refl d⟩) recorder_readStatusRegister) fun _ => .done releasing.refl
  | .readJdec =>
    refine .done fun trace => ⟨_, ?_, releases_deselected
      (.csWrite 0 :: [cmdReadJdec, 0x00, 0x00, 0x00].map .tx) []⟩
    simp [Spi.readJdec, Spi.csSelect, Spi.csDeselect, recorder]
  | .writeStatusRegister status =>
    refine .done fun trace => ⟨[.csWrite 0, .csWrite 0, .tx cmdWriteEnable, .csWrite 1,
      .tx cmdWriteStatusReg, .tx status, .csWrite 1], ?_, rfl⟩
    simp [Spi.writeStatusRegister, Spi.writeEnable, Spi.csSelect, Spi.csDeselect, recorder]
  | .chipErase => exact modify_releasing _
  | .sectorErase addr => exact modify_releasing _
  | .blockErase addr => exact modify_releasing _
  | .pageProgram addr data size => exact .ite (.done releasing.refl) (modify_releasing _)
  | .readData addr size => exact .bind (readData_releasing addr size) fun _ => .done releasing.refl
  | .waitUntilReady => exact .bind waitUntilReady_releasing fun _ => .done releasing.refl

/-! ## Runs of both drivers -/

/-- An operation of one of the drivers, with all that is received during it. -/
inductive Operation where
  | sd (c : Call) (rx : List Rx)
  | flash (c : FlashCall) (rx : List Rx)
  deriving Repr, DecidableEq

/-- Whose select line an operation uses. -/
def Operation.device : Operation → Device
  | sd _ _ => .sdCard
  | flash _ _ => .w25qx

/-- The same with more received. -/
def Operation.extend (more : List Rx) : Operation → Operation
  | sd c rx => sd c (rx ++ more)
  | flash c rx => flash c (rx ++ more)

/-- The variables of the SD card driver, what the flash driver did so far, and the pins. -/
structure Board (π : Type) where
  sd : Sd
  flash : List BusEvent
  port : π

section

variable {π : Type} (gpio : Gpio π)

/-- An operation from its call to its return, and what it does to the bus. -/
inductive Does : Board π → Operation → List BusEvent → Board π → Prop
  | sd {b : Board π} {c : Call} {rx rest : List Rx} {reply : Reply} {s' : Sd} {events : List BusEvent}
      (h : c.run b.sd rx = some (reply, s', rest)) (htrace : s'.trace = b.sd.trace ++ events) :
      Does b (.sd c rx) events ⟨s', b.flash, onEvents gpio .sdCard events b.port⟩
  | flash {b : Board π} {c : FlashCall} {rx rest : List Rx} {trace' events : List BusEvent}
      (h : c.run b.flash rx = some ((), trace', rest)) (htrace : trace' = b.flash ++ events) :
      Does b (.flash c rx) events ⟨b.sd, trace', onEvents gpio .w25qx events b.port⟩

/-- An operation from its call to its return. -/
def Operates (b : Board π) (op : Operation) (b' : Board π) : Prop := ∃ events, Does gpio b op events b'

/-- At every moment of an operation at most one chip select is low, and before and after it none. -/
structure Separate (t : Taken (Board π) Operation) : Prop where
  before : BothHigh gpio t.before.port
  moments : ∀ events, Does gpio t.before t.input events t.after → ∀ moment, moment <+: events →
    AtMostOneLow gpio (onEvents gpio t.input.device moment t.before.port)
  after : BothHigh gpio t.after.port

variable {gpio}

/-- What an operation does to the bus releases it. -/
theorem does_releases {b b' : Board π} {op : Operation} {events : List BusEvent}
    (h : Does gpio b op events b') :
    Releases events ∧ b'.port = onEvents gpio op.device events b.port := by
  cases h with
  | sd hrun htrace =>
    obtain ⟨events', htrace', hevents⟩ := call_releases hrun
    rw [htrace] at htrace'
    rw [List.append_cancel_left htrace']
    exact ⟨hevents, rfl⟩
  | flash hrun htrace =>
    obtain ⟨l, -, hrel, -⟩ := (flashCall_releasing _).takes hrun
    obtain ⟨events', htrace', hevents⟩ := hrel
    rw [htrace] at htrace'
    rw [List.append_cancel_left htrace']
    exact ⟨hevents, rfl⟩

theorem bothHigh_preserved : Preserved (Operates gpio) (fun b => BothHigh gpio b.port) := by
  rintro b op b' hhigh ⟨events, h⟩
  obtain ⟨hevents, hport⟩ := does_releases h
  rw [hport]
  exact bothHigh_onEvents hevents hhigh

/-- An operation that has not returned can go on and return. -/
theorem operation_returns (b : Board π) (op : Operation) :
    ∃ more events b', Does gpio b (op.extend more) events b' := by
  cases op with
  | sd c rx =>
    obtain ⟨more, -, hsome⟩ := (call_returns c).answers 0 b.sd rx
    obtain ⟨⟨reply, s', rest⟩, hrun⟩ := Option.isSome_iff_exists.mp hsome
    obtain ⟨events, htrace, -⟩ := call_releases hrun
    exact ⟨more, events, _, .sd hrun htrace⟩
  | flash c rx =>
    obtain ⟨more, -, hsome⟩ := (flashCall_releasing c).answers 0 b.flash rx
    obtain ⟨⟨⟨⟩, trace', rest⟩, hrun⟩ := Option.isSome_iff_exists.mp hsome
    obtain ⟨l, -, hrel, -⟩ := (flashCall_releasing c).takes hrun
    obtain ⟨events, htrace, -⟩ := hrel
    exact ⟨more, events, _, .flash hrun htrace⟩

/-- **The devices never share the bus**, in any run of operations from a state with both chip selects
high; and an operation that still waits is at a moment of one that returns. -/
theorem spi_never_shared (gpio : Gpio π) {b b' : Board π} {ts : List (Taken (Board π) Operation)}
    (hhigh : BothHigh gpio b.port) (h : Run (Operates gpio) b ts b') :
    (∀ t ∈ ts, Separate gpio t) ∧ BothHigh gpio b'.port ∧
      ∀ op : Operation, ∃ more events b'', Does gpio b' (op.extend more) events b'' := by
  have hend := Run.invariant (I := fun b => BothHigh gpio b.port) bothHigh_preserved h hhigh
  refine ⟨fun t ht => ?_, hend, operation_returns b'⟩
  obtain ⟨hbefore, hstep⟩ := Run.taken bothHigh_preserved h hhigh t ht
  refine ⟨hbefore, fun events _ moment _ => ?_, bothHigh_preserved _ _ _ hbefore hstep⟩
  exact atMostOneLow_onEvents t.input.device moment hbefore

end

/-- A port that remembers what was written to each pin. -/
def pins : Gpio (Nat → UInt8) where
  writePin := fun pin val port => Function.update port pin val
  high pin port := decide (port pin ≠ 0)
  high_writePin pin val port := by rw [Function.update_self]
  high_writePin_ne pin pin' val port h := by rw [Function.update_of_ne h]

/-- After `spi_init`, the status register of the flash is read and an SD card found. -/
theorem spi_never_shared_found : ∃ b b' : Board (Nat → UInt8), ∃ ts,
    Run (Operates pins) b ts b' ∧ (ts.map fun t => t.input) =
      [.flash .readStatusRegister [⟨0x00, 1⟩], .sd (.init 0) (promptSd2 true)] ∧
      (∀ t ∈ ts, Separate pins t) ∧ BothHigh pins b'.port := by
  let port := spiInit pins fun _ => 0
  let events := [BusEvent.csWrite 0, .tx cmdReadStatusReg, .csWrite 1]
  let b : Board (Nat → UInt8) := ⟨start, [], port⟩
  let b₁ : Board (Nat → UInt8) := ⟨start, events, onEvents pins .w25qx events port⟩
  have hflash : Operates pins b (.flash .readStatusRegister [⟨0x00, 1⟩]) b₁ := ⟨_, .flash rfl rfl⟩
  obtain ⟨s', hinit, -⟩ := step_init (detects_promptSd2 true) start_hasDisk
  obtain ⟨events', htrace, -⟩ := call_releases hinit
  have hrun := Run.cons hflash (.cons ⟨events', .sd hinit htrace⟩ (.nil _))
  obtain ⟨hseparate, hhigh, -⟩ := spi_never_shared pins (spiInit_high pins _) hrun
  exact ⟨_, _, _, hrun, rfl, hseparate, hhigh⟩

end GenLogger.Platform
