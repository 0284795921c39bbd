import GenLogger.Platform.ChipSelect

/-!
# Windows of the select line (`W25Qx_module.cpp`)

The chip takes a command from the falling edge of its select line to the rising one. `Line` follows
the line through the events of the driver, and refuses a byte that is transmitted while the line is
high, a window that is not one command, and a command that modifies the chip where the window before
it is not a write enable, or where the last erase or program has not been reported not busy.

* `observer` is the bus with nothing on it but the events; the chip, or a stuck line, may answer
  anything.
* `Window` is what is sent and received while the chip is selected, `oneCommand` the commands with the
  address and the data each of them takes.
* A call that still waits is looked at too (`Calls`).

Results:
* `follow_modify`, `follow_plain`: the line takes a command with its write enable and its polls.
* `conducts`: what a call does is a sequence of windows, `write_status_register` apart. That selects
  the chip first and then calls `write_enable`, which deselects it: the window is the write enable,
  and the command and the status go out with the line high (`writeStatusRegister_refused`).
* `flash_framed_iff`: the calls of a run are `Framed` exactly if none of them is
  `write_status_register`.
-/

namespace GenLogger.Flash

open GenLogger.Lib GenLogger.Platform
open GenLogger.SdCard (Rx)

/-! ## What the driver does to the bus -/

/-- An event of the flash driver: a write to the select pin, a byte transmitted, a byte received. -/
inductive FlashEvent where
  | csWrite (val : UInt8)
  | tx (data : UInt8)
  | rx (data : UInt8)
  deriving Repr, DecidableEq

/-- The events of the driver; the chip, or a stuck line, may answer anything. -/
def observer : Spi (List FlashEvent) Rx where
  write data trace := trace ++ data.map .tx
  read n trace rx :=
    let received := (rx.take n).map Rx.byte
    if n ≤ rx.length then some (received, trace ++ received.map .rx, rx.drop n) else none
  writePin val trace := trace ++ [.csWrite val]

/-- A call of a public function, on any bus. -/
def callOn {σ ι : Type} (dev : Spi σ ι) : FlashCall → σ → List ι → Option (Unit × σ × List ι)
  | .writeEnable, s, is => some ((), dev.writeEnable s, is)
  | .writeDisable, s, is => some ((), dev.writeDisable s, is)
  | .readStatusRegister, s, is => do
    let (_, s, is) ← dev.readStatusRegister s is
    some ((), s, is)
  | .readJdec, s, is => some ((), dev.readJdec s, is)
  | .writeStatusRegister status, s, is => some ((), dev.writeStatusRegister status s, is)
  | .chipErase, s, is => dev.chipErase s is
  | .sectorErase addr, s, is => dev.sectorErase addr s is
  | .blockErase addr, s, is => dev.blockErase addr s is
  | .pageProgram addr data size, s, is => dev.pageProgram addr data size s is
  | .readData addr size, s, is => do
    let (_, s, is) ← dev.readData addr size s is
    some ((), s, is)
  | .waitUntilReady, s, is => do
    let (_, s, is) ← dev.waitUntilReady s is
    some ((), s, is)

theorem callOn_recorder (c : FlashCall) : callOn recorder c = c.run := by
  funext trace rx
  cases c <;> rfl

/-! ## The select line -/

/-- A command with `n` bytes after it. -/
def operands (cmd : UInt8) (n : Nat) : Bool :=
  if cmd = cmdWriteEnable ∨ cmd = cmdWriteDisable ∨ cmd = cmdReadStatusReg ∨ cmd = cmdChipErase then
    n = 0
  else if cmd = cmdWriteStatusReg then n = 1
  else if cmd = cmdReadJdec ∨ cmd = cmdSectorErase ∨ cmd = cmdBlockErase ∨ cmd = cmdReadData then n = 3
  else if cmd = cmdPageProgram then 3 ≤ n ∧ n ≤ 3 + 256
  else false

/-- Exactly one command, with the address and the data it takes. -/
def oneCommand : List UInt8 → Bool
  | [] => false
  | cmd :: bytes => operands cmd bytes.length

/-- Erases and programs, after which the chip is busy. -/
def takesTime (cmd : UInt8) : Bool :=
  cmd = cmdSectorErase ∨ cmd = cmdBlockErase ∨ cmd = cmdChipErase ∨ cmd = cmdPageProgram

/-- The commands that need a write enable. -/
def modifies (cmd : UInt8) : Bool := takesTime cmd || cmd == cmdWriteStatusReg

/-- The line: what was transmitted in the window that is open, if one is, and in the windows that were;
and whether an erase or a program has not been reported not busy. -/
structure Line where
  window : Option (List UInt8)
  windows : List (List UInt8)
  busy : Bool
  deriving Repr, DecidableEq

namespace Line

/-- Before the first event. -/
def initial : Line := ⟨none, [], false⟩

/-- A command that modifies the chip may start. -/
def Enabled (line : Line) : Prop := line.windows.getLast? = some [cmdWriteEnable] ∧ line.busy = false

instance (line : Line) : Decidable line.Enabled := inferInstanceAs (Decidable (_ ∧ _))

/-- The line after an event, unless the event is refused. -/
def next (line : Line) : FlashEvent → Option Line
  | .csWrite val =>
    -- a select that finds the line low, or a deselect that finds it high, is no edge
    if val = 0 then some { line with window := some (line.window.getD []) }
    else match line.window with
      | none => some line
      | some bytes =>
        if oneCommand bytes then
          some ⟨none, line.windows ++ [bytes], line.busy || bytes.head?.any takesTime⟩
        else none
  | .tx data =>
    match line.window with
    | none => none
    | some [] =>
      if modifies data ∧ ¬ line.Enabled then none else some { line with window := some [data] }
    | some bytes => some { line with window := some (bytes ++ [data]) }
  | .rx data =>
    some { line with
      busy := line.busy && !(line.window == some [cmdReadStatusReg] && data &&& statusBusyMask == 0) }

/-- The line after some events. -/
def follow (line : Line) (events : List FlashEvent) : Option Line := events.foldlM next line

theorem follow_append (line : Line) (l m : List FlashEvent) :
    line.follow (l ++ m) = line.follow l >>= fun line => line.follow m :=
  List.foldlM_append

/-- Once the first byte of a window is out, the line takes the others, -/
theorem follow_tx {window : List UInt8} (hne : window ≠ []) (windows : List (List UInt8)) (busy : Bool)
    (bytes : List UInt8) : (Line.mk (some window) windows busy).follow (bytes.map .tx) =
      some ⟨some (window ++ bytes), windows, busy⟩ := by
  induction bytes generalizing window with
  | nil => rw [List.append_nil]; rfl
  | cons data bytes ih =>
    have hnext : (Line.mk (some window) windows busy).next (.tx data) =
        some ⟨some (window ++ [data]), windows, busy⟩ := by
      cases window with
      | nil => exact absurd rfl hne
      | cons b window => rfl
    show ((Line.mk (some window) windows busy).next (.tx data) >>= _) = _
    rw [hnext, List.append_cons window data bytes]
    exact @ih (window ++ [data]) (by simp)

/-- and what is received then leaves it as it is, unless the status register is read. -/
theorem follow_rx {window : List UInt8} (hne : window ≠ [cmdReadStatusReg])
    (windows : List (List UInt8)) (busy : Bool) (bytes : List UInt8) :
    (Line.mk (some window) windows busy).follow (bytes.map .rx) = some ⟨some window, windows, busy⟩ := by
  induction bytes with
  | nil => rfl
  | cons data bytes ih =>
    have hnext : (Line.mk (some window) windows busy).next (.rx data) =
        some ⟨some window, windows, busy⟩ := by
      simp [next, hne]
    show ((Line.mk (some window) windows busy).next (.rx data) >>= _) = _
    rw [hnext]
    exact ih

end Line

/-! ## Windows -/

/-- What is sent and received while the chip is selected. -/
structure Window where
  sent : List UInt8
  received : List UInt8
  deriving Repr, DecidableEq

/-- From the falling edge to the rising one. -/
def Window.events (w : Window) : List FlashEvent :=
  .csWrite 0 :: (w.sent.map .tx ++ w.received.map .rx ++ [.csWrite 1])

/-- The window of `read_status_register`. -/
def statusWindow (status : UInt8) : Window := ⟨[cmdReadStatusReg], [status]⟩

namespace Line

/-- **One command in a window**: it is taken if it is one, and if it may start. -/
theorem follow_window {line : Line} (hhigh : line.window = none) {cmd : UInt8} {bytes : List UInt8}
    (received : List UInt8) (hone : operands cmd bytes.length = true)
    (hmay : modifies cmd = true → line.Enabled) (hne : cmd ≠ cmdReadStatusReg) :
    line.follow (Window.events ⟨cmd :: bytes, received⟩) =
      some ⟨none, line.windows ++ [cmd :: bytes], line.busy || takesTime cmd⟩ := by
  obtain ⟨window, windows, busy⟩ := line
  cases hhigh
  have hsent : (Line.mk (some []) windows busy).follow ((cmd :: bytes).map .tx) =
      some ⟨some (cmd :: bytes), windows, busy⟩ := by
    have hnext : (Line.mk (some []) windows busy).next (.tx cmd) =
        some ⟨some [cmd], windows, busy⟩ :=
      if_neg fun h => h.2 (hmay h.1)
    show ((Line.mk (some []) windows busy).next (.tx cmd) >>= _) = _
    rw [hnext]
    exact follow_tx (by simp) windows busy bytes
  have hreceived := @follow_rx (cmd :: bytes) (by simp [hne]) windows busy received
  show (Line.mk (some []) windows busy).follow _ = _
  rw [follow_append, follow_append, hsent]
  show (Line.mk (some (cmd :: bytes)) windows busy).follow (received.map .rx) >>= _ = _
  rw [hreceived]
  show (if operands cmd bytes.length then _ else none) >>= _ = _
  rw [if_pos hone]
  rfl

/-- A status, reported. -/
theorem follow_status {line : Line} (hhigh : line.window = none) (status : UInt8) :
    line.follow (statusWindow status).events = some ⟨none, line.windows ++ [[cmdReadStatusReg]],
      line.busy && status &&& statusBusyMask != 0⟩ := by
  obtain ⟨window, windows, busy⟩ := line
  cases hhigh
  have hidle : takesTime cmdReadStatusReg = false := rfl
  show some (Line.mk _ _ _) = _
  simp [hidle, bne]

end Line

/-- The windows, one after the other. -/
def eventsOf (ws : List Window) : List FlashEvent := ws.flatMap Window.events

namespace Line

/-- The polls of an erase or a program, the last of which reports not busy. -/
theorem follow_polls {line : Line} (hhigh : line.window = none) (waiting : List UInt8) {last : UInt8}
    (hlast : last &&& statusBusyMask = 0) :
    line.follow (eventsOf ((waiting ++ [last]).map statusWindow)) = some ⟨none,
      line.windows ++ List.replicate (waiting.length + 1) [cmdReadStatusReg], false⟩ := by
  induction waiting generalizing line with
  | nil =>
    show line.follow ((statusWindow last).events ++ []) = _
    rw [List.append_nil, follow_status hhigh, hlast]
    simp
  | cons status waiting ih =>
    show line.follow ((statusWindow status).events ++ _) = _
    rw [follow_append, follow_status hhigh]
    show (Line.mk _ _ _).follow (eventsOf ((waiting ++ [last]).map statusWindow)) = _
    rw [ih rfl, List.length_cons, List.replicate_succ (n := waiting.length + 1),
      ← List.append_cons]

/-- **A command that modifies the chip**, from the write enable to the last poll. -/
theorem follow_modify {line : Line} (hhigh : line.window = none) (hready : line.busy = false)
    {cmd : UInt8} {bytes : List UInt8} (hone : operands cmd bytes.length = true)
    (hne : cmd ≠ cmdReadStatusReg) (waiting : List UInt8) {last : UInt8}
    (hlast : last &&& statusBusyMask = 0) :
    line.follow (eventsOf (⟨[cmdWriteEnable], []⟩ :: ⟨cmd :: bytes, []⟩ ::
      (waiting ++ [last]).map statusWindow)) = some ⟨none, line.windows ++
        [[cmdWriteEnable], cmd :: bytes] ++ List.replicate (waiting.length + 1) [cmdReadStatusReg],
        false⟩ := by
  have henable := follow_window hhigh [] (show operands cmdWriteEnable [].length = true from rfl)
    (fun h => absurd h (by decide)) (by decide)
  show line.follow (Window.events _ ++ (Window.events _ ++ eventsOf _)) = _
  rw [follow_append, henable]
  show (Line.mk _ _ _).follow _ = _
  have hmay : (Line.mk none (line.windows ++ [[cmdWriteEnable]])
      (line.busy || takesTime cmdWriteEnable)).Enabled := by
    rw [hready]
    exact ⟨List.getLast?_concat, rfl⟩
  rw [follow_append, follow_window rfl [] hone (fun _ => hmay) hne]
  show (Line.mk _ _ _).follow _ = _
  rw [follow_polls rfl waiting hlast]
  simp

/-- A command that does not modify the chip. -/
theorem follow_plain {line : Line} (hhigh : line.window = none) (hready : line.busy = false)
    {cmd : UInt8} {bytes : List UInt8} (received : List UInt8)
    (hone : operands cmd bytes.length = true) (hplain : modifies cmd = false)
    (hne : cmd ≠ cmdReadStatusReg) : line.follow (eventsOf [⟨cmd :: bytes, received⟩]) =
      some ⟨none, line.windows ++ [cmd :: bytes], false⟩ := by
  have hidle : takesTime cmd = false := (Bool.or_eq_false_iff.mp hplain).1
  show line.follow (Window.events _ ++ []) = _
  rw [List.append_nil, follow_window hhigh received hone
    (fun h => absurd (h.symm.trans hplain) (by decide)) hne, hready, hidle]
  rfl

end Line

/-! ## What a call does -/

/-- The windows a call asks for, the polls of `wait_until_ready` apart. -/
def commands : FlashCall → List (List UInt8)
  | .writeEnable => [[cmdWriteEnable]]
  | .writeDisable => [[cmdWriteDisable]]
  | .readStatusRegister => [[cmdReadStatusReg]]
  | .readJdec => [[cmdReadJdec, 0x00, 0x00, 0x00]]
  | .writeStatusRegister status => [[cmdWriteEnable], [cmdWriteStatusReg, status]]
  | .chipErase => [[cmdWriteEnable], [cmdChipErase]]
  | .sectorErase addr => [[cmdWriteEnable], Spi.addressed cmdSectorErase addr]
  | .blockErase addr => [[cmdWriteEnable], Spi.addressed cmdBlockErase addr]
  | .pageProgram addr data size =>
    if size > 256 then []
    else [[cmdWriteEnable], Spi.addressed cmdPageProgram addr ++ data.take size.toNat]
  | .readData addr _ => [Spi.addressed cmdReadData addr]
  | .waitUntilReady => []

/-- The line takes all that a call does: its own commands, then polls, and the chip is ready. -/
def Conducts (c : FlashCall) (trace trace' : List FlashEvent) : Prop :=
  ∃ events polls, trace' = trace ++ events ∧ ∀ line : Line, line.window = none → line.busy = false →
    line.follow events = some ⟨none,
      line.windows ++ commands c ++ List.replicate polls [cmdReadStatusReg], false⟩

theorem observer_readStatusRegister (trace : List FlashEvent) (rx : List Rx) :
    observer.readStatusRegister trace rx = rx.head?.map fun r =>
      (r.byte, trace ++ (statusWindow r.byte).events, rx.tail) := by
  cases rx with
  | nil => rfl
  | cons r rx =>
    simp [Spi.readStatusRegister, Spi.csSelect, Spi.csDeselect, observer, statusWindow, Window.events]

theorem observer_polls (rx : List Rx) (trace : List FlashEvent) :
    rx.foldl (fun trace r => trace ++ (statusWindow r.byte).events) trace =
      trace ++ eventsOf ((rx.map Rx.byte).map statusWindow) := by
  induction rx generalizing trace with
  | nil => exact (List.append_nil trace).symm
  | cons r rx ih => exact (ih _).trans (List.append_assoc _ _ _)

/-- The polls of `wait_until_ready`. -/
theorem observer_waitUntilReady {trace trace' : List FlashEvent} {rx rest : List Rx} {status : UInt8}
    (h : observer.waitUntilReady trace rx = some (status, trace', rest)) :
    ∃ waiting, trace' = trace ++ eventsOf ((waiting ++ [status]).map statusWindow) ∧
      status &&& statusBusyMask = 0 := by
  have hloop : observer.waitUntilReady trace rx = _ :=
    Interacts.doWhile_eq_poll (I := fun _ => True)
      (fun trace r => trace ++ (statusWindow r.byte).events) (fun _ r => r.byte)
      (fun _ _ h => h) (fun trace rx _ => observer_readStatusRegister trace rx) trivial rx
  rw [hloop] at h
  obtain ⟨⟨last, trace₁, rest₁⟩, hpoll, heq⟩ := Option.map_eq_some_iff.mp h
  cases heq
  obtain ⟨waiting, hrx, hpolls⟩ := poll_polls hpoll
  rw [hrx, poll_answer hpolls] at hpoll
  cases hpoll
  refine ⟨waiting.map Rx.byte, ?_, by simpa using hpolls.ends⟩
  rw [observer_polls, List.map_append, eventsOf, eventsOf, List.flatMap_append, List.append_assoc]
  rfl

theorem observer_writes (bytes : List (List UInt8)) (trace : List FlashEvent) :
    bytes.foldl (fun trace b => observer.write b trace) trace = trace ++ bytes.flatten.map .tx := by
  induction bytes generalizing trace with
  | nil => exact (List.append_nil trace).symm
  | cons b bytes ih =>
    refine (ih (observer.write b trace)).trans ?_
    simp [observer]

theorem modify_conducts {c : FlashCall} {bytes : List (List UInt8)} {cmd : UInt8} {args : List UInt8}
    (hbytes : bytes.flatten = cmd :: args) (hc : commands c = [[cmdWriteEnable], cmd :: args])
    (hone : operands cmd args.length = true) (hne : cmd ≠ cmdReadStatusReg)
    {trace trace' : List FlashEvent} {rx rest : List Rx}
    (h : observer.modify bytes trace rx = some ((), trace', rest)) : Conducts c trace trace' := by
  obtain ⟨⟨status, trace₁, mid⟩, hwait, heq⟩ := Option.bind_eq_some_iff.mp h
  cases heq
  obtain ⟨waiting, rfl, hstatus⟩ := observer_waitUntilReady hwait
  refine ⟨eventsOf (⟨[cmdWriteEnable], []⟩ :: ⟨cmd :: args, []⟩ ::
    (waiting ++ [status]).map statusWindow), waiting.length + 1, ?_, fun line hhigh hready => ?_⟩
  · rw [observer_writes, hbytes]
    simp [Spi.writeEnable, Spi.csSelect, Spi.csDeselect, observer, eventsOf, Window.events]
  · rw [hc]
    exact Line.follow_modify hhigh hready hone hne waiting hstatus

theorem plain_conducts {c : FlashCall} {cmd : UInt8} {args : List UInt8} (received : List UInt8)
    (hc : commands c = [cmd :: args]) (hone : operands cmd args.length = true)
    (hplain : modifies cmd = false) (hne : cmd ≠ cmdReadStatusReg) {trace trace' : List FlashEvent}
    (h : trace' = trace ++ (Window.mk (cmd :: args) received).events) : Conducts c trace trace' := by
  refine ⟨eventsOf [⟨cmd :: args, received⟩], 0, ?_, fun line hhigh hready => ?_⟩
  · rw [h, eventsOf, List.flatMap_singleton]
  · rw [Line.follow_plain hhigh hready received hone hplain hne, hc, List.replicate_zero,
      List.append_nil]

/-- More than a page is refused before the first command. -/
theorem pageProgram_conducts {addr : UInt32} {data : List UInt8} {size : UInt16}
    {trace trace' : List FlashEvent} {rx rest : List Rx}
    (h : callOn observer (.pageProgram addr data size) trace rx = some ((), trace', rest)) :
    Conducts (.pageProgram addr data size) trace trace' := by
  by_cases hsize : size > 256
  · cases (if_pos hsize).symm.trans h
    refine ⟨[], 0, (List.append_nil _).symm, fun line hhigh hready => ?_⟩
    rw [commands, if_pos hsize, List.replicate_zero, List.append_nil, List.append_nil]
    obtain ⟨window, windows, busy⟩ := line
    cases hhigh
    cases hready
    rfl
  · have hmodify := (if_neg hsize).symm.trans h
    have hlen : (data.take size.toNat).length ≤ 256 :=
      Nat.le_trans (List.length_take_le _ _) (UInt16.not_lt.mp hsize)
    have hone : operands cmdPageProgram
        (((Spi.addressed cmdPageProgram addr).tail ++ data.take size.toNat).length) = true := by
      rw [List.length_append]
      exact decide_eq_true ⟨Nat.le_add_right 3 _, Nat.add_le_add_left hlen 3⟩
    refine modify_conducts ?_ ?_ hone (by decide) hmodify
    · simp [Spi.addressed]
    · rw [commands, if_neg hsize]
      rfl

theorem readData_conducts {addr : UInt32} {size : UInt16} {trace trace' : List FlashEvent}
    {rx rest : List Rx} (h : callOn observer (.readData addr size) trace rx = some ((), trace', rest)) :
    Conducts (.readData addr size) trace trace' := by
  obtain ⟨⟨data, trace₁, mid⟩, hread, heq⟩ := Option.bind_eq_some_iff.mp h
  cases heq
  obtain ⟨⟨data', trace₂, mid'⟩, hreceived, heq⟩ := Option.bind_eq_some_iff.mp hread
  cases heq
  by_cases hlen : size.toNat ≤ rx.length
  · cases (if_pos hlen).symm.trans hreceived
    refine plain_conducts ((rx.take size.toNat).map Rx.byte) rfl rfl rfl (by decide) ?_
    simp [Spi.csSelect, Spi.csDeselect, observer, Window.events, Spi.addressed]
  · cases (if_neg hlen).symm.trans hreceived

/-- **Every call but `write_status_register`.** -/
theorem conducts {c : FlashCall} (hc : ∀ status, c ≠ .writeStatusRegister status)
    {trace trace' : List FlashEvent} {rx rest : List Rx}
    (h : callOn observer c trace rx = some ((), trace', rest)) : Conducts c trace trace' := by
  match c with
  | .writeEnable =>
    cases h
    refine plain_conducts [] rfl rfl rfl (by decide) ?_
    simp [Spi.writeEnable, Spi.csSelect, Spi.csDeselect, observer, Window.events]
  | .writeDisable =>
    cases h
    refine plain_conducts [] rfl rfl rfl (by decide) ?_
    simp [Spi.writeDisable, Spi.csSelect, Spi.csDeselect, observer, Window.events]
  | .readStatusRegister =>
    obtain ⟨⟨status, trace₁, mid⟩, hread, heq⟩ := Option.bind_eq_some_iff.mp h
    cases heq
    rw [observer_readStatusRegister] at hread
    obtain ⟨r, -, heq⟩ := Option.map_eq_some_iff.mp hread
    cases heq
    refine ⟨_, 0, rfl, fun line hhigh hready => ?_⟩
    rw [Line.follow_status hhigh, hready, commands, List.replicate_zero, List.append_nil,
      Bool.false_and]
  | .readJdec =>
    cases h
    refine plain_conducts [] rfl rfl rfl (by decide) ?_
    simp [Spi.readJdec, Spi.csSelect, Spi.csDeselect, observer, Window.events]
  | .writeStatusRegister status => exact absurd rfl (hc status)
  | .chipErase => exact modify_conducts rfl rfl rfl (by decide) h
  | .sectorErase addr => exact modify_conducts rfl rfl rfl (by decide) h
  | .blockErase addr => exact modify_conducts rfl rfl rfl (by decide) h
  | .pageProgram addr data size => exact pageProgram_conducts h
  | .readData addr size => exact readData_conducts h
  | .waitUntilReady =>
    obtain ⟨⟨status, trace₁, mid⟩, hwait, heq⟩ := Option.bind_eq_some_iff.mp h
    cases heq
    obtain ⟨waiting, htrace, hstatus⟩ := observer_waitUntilReady hwait
    refine ⟨_, waiting.length + 1, htrace, fun line hhigh _ => ?_⟩
    rw [Line.follow_polls hhigh waiting hstatus, commands, List.append_nil]

/-- The select before the write enable opens no window of its own, and the command goes out after it. -/
theorem writeStatusRegister_refused {line : Line} (hhigh : line.window = none) (status : UInt8)
    (trace : List FlashEvent) : ∃ events, observer.writeStatusRegister status trace = trace ++ events ∧
      line.follow events = none := by
  refine ⟨[.csWrite 0, .csWrite 0, .tx cmdWriteEnable, .csWrite 1, .tx cmdWriteStatusReg, .tx status,
    .csWrite 1], ?_, ?_⟩
  · simp [Spi.writeStatusRegister, Spi.writeEnable, Spi.csSelect, Spi.csDeselect, observer]
  · obtain ⟨window, windows, busy⟩ := line
    cases hhigh
    rfl

/-! ## Waiting calls -/

/-- Any effect; an answer costs its ticks. -/
def unobserved : Effect (List FlashEvent) Rx where
  cost := Rx.ticks
  rel _ _ _ := True
  refl _ := trivial
  trans _ _ := trivial

theorem waitUntilReady_interacts : Interacts unobserved observer.waitUntilReady := by
  have habsorb (trace : List FlashEvent) (r : Rx) :
      unobserved.rel trace [r] (trace ++ (statusWindow r.byte).events) := trivial
  exact .pollWhile habsorb (fun d => ⟨⟨0, d⟩, Nat.le_refl d, fun _ => by simp⟩)
    observer_readStatusRegister

/-- **A call that waits** can go on and return. -/
theorem callOn_interacts (c : FlashCall) : Interacts unobserved (callOn observer c) := by
  have hmodify (bytes : List (List UInt8)) : Interacts unobserved (observer.modify bytes) :=
    .bind (.before (fun _ => trivial) waitUntilReady_interacts) fun _ => .done fun _ => trivial
  have hread (n : Nat) : Interacts unobserved (observer.read n) :=
    .nextN n (fun trace rx => trace ++ (rx.map Rx.byte).map .rx) (·.map Rx.byte)
      (fun _ _ _ => trivial) (fun d => ⟨⟨0, d⟩, Nat.le_refl d⟩)
      fun _ _ => rfl
  match c with
  | .writeEnable => exact .done fun _ => trivial
  | .writeDisable => exact .done fun _ => trivial
  | .readStatusRegister =>
    exact .bind (.bind (.before (fun _ => trivial) (hread 1)) fun _ => .done fun _ => trivial)
      fun _ => .done fun _ => trivial
  | .readJdec => exact .done fun _ => trivial
  | .writeStatusRegister status => exact .done fun _ => trivial
  | .chipErase => exact hmodify _
  | .sectorErase addr => exact hmodify _
  | .blockErase addr => exact hmodify _
  | .pageProgram addr data size => exact .ite (.done fun _ => trivial) (hmodify _)
  | .readData addr size =>
    exact .bind (.bind (.before (fun _ => trivial) (hread size.toNat)) fun _ => .done fun _ => trivial)
      fun _ => .done fun _ => trivial
  | .waitUntilReady => exact .bind waitUntilReady_interacts fun _ => .done fun _ => trivial

/-! ## Runs -/

/-- A call, with what is received during it, from its start to its return. -/
def Calls (trace : List FlashEvent) (i : FlashCall × List Rx) (trace' : List FlashEvent) : Prop :=
  ∃ rest, callOn observer i.1 trace i.2 = some ((), trace', rest)

/-- The line takes the call at every moment, and the call opens and closes the windows of its own
commands. -/
structure Framed (t : Taken (List FlashEvent) (FlashCall × List Rx)) : Prop where
  moments : ∀ moment, moment <+: t.after → (Line.initial.follow moment).isSome
  windows : ∃ line line' polls, Line.initial.follow t.before = some line ∧
    Line.initial.follow t.after = some line' ∧ line'.window = none ∧
    line'.windows = line.windows ++ commands t.input.1 ++ List.replicate polls [cmdReadStatusReg]

/-- Between two calls the line is high and the chip is ready. -/
def Rests (trace : List FlashEvent) : Prop :=
  ∃ line, Line.initial.follow trace = some line ∧ line.window = none ∧ line.busy = false

/-- What the line takes, it takes from the start. -/
theorem Line.follow_moment {line : Line} {moment events : List FlashEvent} (hmoment : moment <+: events)
    (h : (line.follow events).isSome) : (line.follow moment).isSome := by
  obtain ⟨later, rfl⟩ := hmoment
  rw [follow_append] at h
  cases hfollow : line.follow moment with
  | none => rw [hfollow] at h; cases h
  | some line' => rfl

theorem framed_of_conducts {t : Taken (List FlashEvent) (FlashCall × List Rx)}
    (h : Conducts t.input.1 t.before t.after) (hrests : Rests t.before) : Framed t ∧ Rests t.after := by
  obtain ⟨line, hline, hhigh, hready⟩ := hrests
  obtain ⟨events, polls, hafter, hfollow⟩ := h
  have hend : Line.initial.follow t.after = line.follow events := by
    rw [hafter, Line.follow_append, hline]
    rfl
  rw [hfollow line hhigh hready] at hend
  refine ⟨⟨fun moment hmoment => Line.follow_moment hmoment ?_, line, _, polls, hline, hend, rfl, rfl⟩,
    _, hend, rfl, rfl⟩
  rw [hend]
  rfl

theorem not_framed_writeStatusRegister {t : Taken (List FlashEvent) (FlashCall × List Rx)}
    {status : UInt8} (hc : t.input.1 = .writeStatusRegister status)
    (h : Calls t.before t.input t.after) (hrests : Rests t.before) : ¬ Framed t := by
  obtain ⟨line, hline, hhigh, -⟩ := hrests
  obtain ⟨rest, hcall⟩ := h
  rw [hc] at hcall
  obtain ⟨events, htrace, hrefused⟩ := writeStatusRegister_refused hhigh status t.before
  have hafter : t.after = t.before ++ events := by
    rw [← htrace]
    exact (congrArg (·.2.1) (Option.some.inj hcall)).symm
  intro hframed
  have hsome := hframed.moments t.after (List.prefix_refl _)
  rw [hafter, Line.follow_append, hline] at hsome
  exact absurd hsome (by rw [show (some line >>= _) = _ from hrefused]; decide)

/-- **Every command is framed, unless one is `write_status_register`**: in a run of calls from power-up,
the calls are framed exactly if none is a call of it. A call that waits goes on and returns if the chip
answers, so that its moments are moments of a call that returned. -/
theorem flash_framed_iff {trace' : List FlashEvent}
    {ts : List (Taken (List FlashEvent) (FlashCall × List Rx))} (h : Run Calls [] ts trace') :
    ((∀ t ∈ ts, Framed t) ↔ ∀ t ∈ ts, ∀ status, t.input.1 ≠ .writeStatusRegister status) ∧
      ∀ c rx, ∃ more trace'', Calls trace' (c, rx ++ more) trace'' := by
  constructor
  · refine Run.settled_iff (I := Rests) (D := fun _ => False) (fun t hrests hstep hc => ?_)
      (fun t hrests hstep hc => ?_) (fun _ h => h.elim) h ⟨_, rfl, rfl, rfl⟩ id
    · obtain ⟨rest, hcall⟩ := hstep
      exact framed_of_conducts (conducts hc hcall) hrests
    · obtain ⟨status, hstatus⟩ := not_forall.mp hc
      exact Or.inl (not_framed_writeStatusRegister (not_not.mp hstatus) hstep hrests)
  · intro c rx
    obtain ⟨more, -, hsome⟩ := (callOn_interacts c).answers 0 trace' rx
    obtain ⟨⟨⟨⟩, trace'', rest⟩, hcall⟩ := Option.isSome_iff_exists.mp hsome
    exact ⟨more, trace'', rest, hcall⟩

/-- A status register that is written at power-up: the command follows the rising edge. -/
theorem write_status_unframed : ∃ t : Taken (List FlashEvent) (FlashCall × List Rx),
    t.input.1 = .writeStatusRegister 0x00 ∧
      t.after = [.csWrite 0, .csWrite 0, .tx 0x06, .csWrite 1, .tx 0x01, .tx 0x00, .csWrite 1] ∧
      Run Calls [] [t] t.after ∧ ¬ Framed t := by
  have hcall : Calls [] (.writeStatusRegister 0x00, [])
      [.csWrite 0, .csWrite 0, .tx 0x06, .csWrite 1, .tx 0x01, .tx 0x00, .csWrite 1] := ⟨[], rfl⟩
  exact ⟨⟨_, _, _⟩, rfl, rfl, .cons hcall (.nil _),
    not_framed_writeStatusRegister rfl hcall ⟨Line.initial, rfl, rfl, rfl⟩⟩

/-- A sector is erased, with one poll that finds the chip busy, and a byte programmed. -/
theorem flash_framed_erased : ∃ trace' ts, Run Calls [] ts trace' ∧
    (ts.map fun t => t.input) = [(.sectorErase 0x1000, [⟨0x01, 1⟩, ⟨0x00, 1⟩]),
      (.pageProgram 0x1000 [0xA5] 1, [⟨0x00, 1⟩])] ∧ ∀ t ∈ ts, Framed t := by
  obtain ⟨trace₁, herase⟩ : ∃ trace₁, Calls [] (.sectorErase 0x1000, [⟨0x01, 1⟩, ⟨0x00, 1⟩]) trace₁ :=
    ⟨_, [], rfl⟩
  obtain ⟨trace₂, hprogram⟩ : ∃ trace₂, Calls trace₁ (.pageProgram 0x1000 [0xA5] 1, [⟨0x00, 1⟩]) trace₂ :=
    ⟨_, [], rfl⟩
  have hrun := Run.cons herase (.cons hprogram (.nil _))
  refine ⟨_, _, hrun, rfl, (flash_framed_iff hrun).1.mpr fun t ht status hc => ?_⟩
  simp only [List.mem_cons, List.not_mem_nil, or_false] at ht
  rcases ht with rfl | rfl
  · cases hc
  · cases hc

end GenLogger.Flash
