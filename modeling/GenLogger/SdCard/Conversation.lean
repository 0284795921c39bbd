import GenLogger.SdCard.Protocol
import GenLogger.SdCard.Initialize

/-!
# What the driver does between two chip selects

Every function of the driver below `SD_disk_initialize`, `SD_disk_read`, `SD_disk_write` and
`SD_disk_ioctl`, except `SD_PowerOn` and `SD_PowerOff`, sends bytes and takes answers: it leaves the
chip select and the status variables alone (`Spoke`). Those that set no timer of their own let
`Timer1` run (`Quiet`).

One lemma a function, each along its text, with the rules for programs that ask for inputs:
`sendCmd_quiet`, `rxDataBlock_spoke`, `txDataBlock_quiet`, `readSectors_spoke`, `writeSectors_quiet`,
`control_spoke` and so on. None of the functions waits for an answer that no card could give.
-/

namespace GenLogger.SdCard

open GenLogger.Lib

/-! ## The effects -/

/-- Nothing happened but that bytes were sent. -/
structure Spoke (s s' : Sd) : Prop where
  sent : ∃ bytes : List UInt8, s'.trace = s.trace ++ bytes.map .tx
  stat : s'.stat = s.stat
  cardType : s'.cardType = s.cardType
  powerFlag : s'.powerFlag = s.powerFlag

theorem Spoke.refl (s : Sd) : Spoke s s := ⟨⟨[], (List.append_nil _).symm⟩, rfl, rfl, rfl⟩

theorem Spoke.trans {s s' s'' : Sd} (h : Spoke s s') (h' : Spoke s' s'') : Spoke s s'' := by
  obtain ⟨bytes, hbytes⟩ := h.sent
  obtain ⟨bytes', hbytes'⟩ := h'.sent
  refine ⟨⟨bytes ++ bytes', ?_⟩, h'.stat.trans h.stat, h'.cardType.trans h.cardType,
    h'.powerFlag.trans h.powerFlag⟩
  rw [hbytes', hbytes, List.append_assoc, List.map_append]

/-- `Timer1` ran, too. -/
structure Quiet (s : Sd) (l : List Rx) (s' : Sd) : Prop extends Spoke s s' where
  timer1 : s'.timer1 = s.timer1 - ticksOf l

theorem Quiet.trans {s s' s'' : Sd} {l m : List Rx} (h : Quiet s l s') (h' : Quiet s' m s'') :
    Quiet s (l ++ m) s'' := by
  refine ⟨h.toSpoke.trans h'.toSpoke, ?_⟩
  rw [h'.timer1, h.timer1, ticksOf_append, Nat.sub_sub]

/-- `Spoke`, answers costing their ticks. -/
def spoke : Effect Sd Rx where
  cost := Rx.ticks
  rel s _ s' := Spoke s s'
  refl := Spoke.refl
  trans := Spoke.trans

/-- `Quiet`, answers costing their ticks. -/
def quiet : Effect Sd Rx where
  cost := Rx.ticks
  rel := Quiet
  refl s := ⟨Spoke.refl s, rfl⟩
  trans := Quiet.trans

theorem spoke_elapse (s : Sd) (r : Rx) : Spoke s (elapse s r) :=
  ⟨⟨[], (List.append_nil _).symm⟩, rfl, rfl, rfl⟩

theorem quiet_elapse (s : Sd) (r : Rx) : Quiet s [r] (elapse s r) :=
  ⟨spoke_elapse s r, by rw [ticksOf_singleton]; rfl⟩

theorem quiet_tx (buffer : List UInt8) (s : Sd) : Quiet s [] (spiTxBuffer buffer s) :=
  ⟨⟨⟨buffer, rfl⟩, rfl, rfl, rfl⟩, rfl⟩

theorem quiet_txByte (data : UInt8) (s : Sd) : Quiet s [] (spiTxByte data s) :=
  ⟨⟨⟨[data], rfl⟩, rfl, rfl, rfl⟩, rfl⟩

theorem quiet_txToken (token : UInt8) (buffer : List UInt8) (s : Sd) :
    Quiet s [] (spiTxBuffer buffer (spiTxByte token s)) :=
  quiet.trans (quiet_txByte token s) (quiet_tx buffer _)

theorem quiet_store (buff : Nat) (data : UInt8) (s : Sd) : Quiet s [] (store buff data s) :=
  ⟨⟨⟨[], (List.append_nil _).symm⟩, rfl, rfl, rfl⟩, rfl⟩

theorem quiet_timer2 (ticks : Nat) (s : Sd) : Quiet s [] { s with timer2 := ticks } :=
  ⟨⟨⟨[], (List.append_nil _).symm⟩, rfl, rfl, rfl⟩, rfl⟩

theorem spoke_timer1 (ticks : Nat) (s : Sd) : Spoke s { s with timer1 := ticks } :=
  ⟨⟨[], (List.append_nil _).symm⟩, rfl, rfl, rfl⟩

theorem spoke_storeAll (buff : Nat) (data : List UInt8) (s : Sd) : Spoke s (storeAll buff data s) :=
  ⟨⟨[], (List.append_nil _).symm⟩, rfl, rfl, rfl⟩

section

variable {α : Type} {f : Driver α}

theorem spoke_of_quiet (h : Interacts quiet f) : Interacts spoke f :=
  h.mono rfl Quiet.toSpoke

theorem spoke_of_run (h : Interacts spoke f) {s s' : Sd} {a : α} {rx rest : List Rx}
    (hrun : f s rx = some (a, s', rest)) : Spoke s s' := by
  obtain ⟨l, -, hrel, -⟩ := h.takes hrun
  exact hrel

end

/-! ## Waiting and commands -/

theorem spiRxByte_quiet : Interacts quiet spiRxByte := by
  refine .next Rx.byte quiet_elapse (fun d => ⟨⟨0, d⟩, Nat.le_refl d⟩) fun s rx => ?_
  cases rx <;> rfl

theorem readyWait_quiet : Interacts quiet readyWait :=
  .bind (.before (quiet_timer2 500) (.poll quiet_elapse fun d => ⟨⟨0xFF, d⟩, Nat.le_refl d, by simp⟩))
    fun _ => .done quiet.refl

theorem cmdResponse_quiet (n : Nat) : Interacts quiet (cmdResponse n) := by
  induction n with
  | zero => exact spiRxByte_quiet
  | succ n ih => exact .bind spiRxByte_quiet fun _ => .ite ih (.done quiet.refl)

theorem sendCmd_quiet (cmd : UInt8) (arg : UInt32) : Interacts quiet (sendCmd cmd arg) :=
  .bind readyWait_quiet fun _ => .ite (.done quiet.refl) <|
    .before (quiet_tx (frame cmd arg)) <|
      .ite (.bind spiRxByte_quiet fun _ => cmdResponse_quiet 9) (cmdResponse_quiet 9)

theorem idleWait_quiet (cnt : Nat) : Interacts quiet (idleWait cnt) := by
  induction cnt with
  | zero => exact .bind spiRxByte_quiet fun _ => .done quiet.refl
  | succ cnt ih => exact .bind spiRxByte_quiet fun _ => .ite ih (.done quiet.refl)

theorem rxBytes_quiet (n : Nat) : Interacts quiet (rxBytes n) := by
  induction n with
  | zero => exact .done quiet.refl
  | succ n ih => exact .bind spiRxByte_quiet fun _ => .bind ih fun _ => .done quiet.refl

theorem appOpCond_quiet (arg : UInt32) : Interacts quiet (appOpCond arg) :=
  .bind (sendCmd_quiet cmd55 0) fun _ =>
    .ite (.bind (sendCmd_quiet cmd41 arg) fun _ => .done quiet.refl) (.done quiet.refl)

theorem opCond_quiet : Interacts quiet opCond :=
  .bind (sendCmd_quiet cmd1 0) fun _ => .done quiet.refl

/-! ## Blocks -/

theorem receive_quiet (len buff : Nat) : Interacts quiet (receive len buff) := by
  induction len generalizing buff with
  | zero =>
    exact .bind spiRxByte_quiet fun data => .done fun s => quiet_store buff data s
  | succ len ih =>
    exact .bind spiRxByte_quiet fun data => .before (quiet_store buff data) (ih (buff + 1))

/-- A card that has no data may say so. -/
theorem rxDataBlock_spoke (buff len : Nat) : Interacts spoke (rxDataBlock buff len) := by
  have hrx := spoke_of_quiet spiRxByte_quiet
  refine .bind (.before (spoke_timer1 200) (.poll spoke_elapse fun d => ?_)) fun _ =>
    .ite (.done spoke.refl) (.bind (spoke_of_quiet (receive_quiet len buff)) fun _ =>
      .bind hrx fun _ => .bind hrx fun _ => .done spoke.refl)
  exact ⟨⟨0xFE, d⟩, Nat.le_refl d, by simp⟩

theorem dataResponse_quiet (n : Nat) : Interacts quiet (dataResponse n) := by
  induction n with
  | zero => exact spiRxByte_quiet
  | succ n ih => exact .bind spiRxByte_quiet fun _ => .ite (.done quiet.refl) ih

/-- `while (SPI_RxByte() == 0);`. -/
theorem clearBuffer_quiet : Interacts quiet (poll elapse fun _ r => r.byte = 0) :=
  .poll quiet_elapse fun d => ⟨⟨0xFF, d⟩, Nat.le_refl d, by simp⟩

theorem txDataBlock_quiet (resp : UInt8) (buff : List UInt8) (token : UInt8) :
    Interacts quiet (txDataBlock resp buff token) := by
  refine .bind readyWait_quiet fun _ => .ite (.done quiet.refl) (.ite ?_ (.done (quiet_txByte token)))
  refine .before (quiet_txToken token (buff.take 512)) (.bind spiRxByte_quiet fun _ => ?_)
  refine .bind spiRxByte_quiet fun _ => .bind (dataResponse_quiet 64) fun _ => ?_
  exact .bind clearBuffer_quiet fun _ => .done quiet.refl

theorem readBlocks_spoke (count buff : Nat) : Interacts spoke (readBlocks count buff) := by
  induction count generalizing buff with
  | zero => exact .done spoke.refl
  | succ count ih =>
    exact .bind (rxDataBlock_spoke buff 512) fun _ => .ite (ih (buff + 512)) (.done spoke.refl)

theorem readSectors_spoke (sector : UInt32) (count : Nat) :
    Interacts spoke (readSectors sector count) :=
  have hsend cmd arg := spoke_of_quiet (sendCmd_quiet cmd arg)
  .ite
    (.bind (hsend cmd17 sector) fun _ => .ite
      (.bind (rxDataBlock_spoke 0 512) fun _ => .done spoke.refl) (.done spoke.refl))
    (.bind (hsend cmd18 sector) fun _ => .ite
      (.bind (readBlocks_spoke count 0) fun _ => .bind (hsend cmd12 0) fun _ => .done spoke.refl)
      (.done spoke.refl))

theorem writeBlocks_quiet (resp : UInt8) (count : Nat) (buff : List UInt8) :
    Interacts quiet (writeBlocks resp count buff) := by
  induction count generalizing buff with
  | zero => exact .done quiet.refl
  | succ count ih =>
    exact .bind (txDataBlock_quiet resp buff 0xFC) fun _ =>
      .ite (ih (buff.drop 512)) (.done quiet.refl)

theorem announce_quiet (count : Nat) : Interacts quiet (announce count) :=
  .test (.bind (sendCmd_quiet cmd55 0) fun _ =>
    .bind (sendCmd_quiet cmd23 (UInt32.ofNat count)) fun _ => .done quiet.refl) (.done quiet.refl)

theorem writeSectors_quiet (resp : UInt8) (buff : List UInt8) (sector : UInt32) (count : Nat) :
    Interacts quiet (writeSectors resp buff sector count) :=
  .ite
    (.bind (sendCmd_quiet cmd24 sector) fun _ => .ite
      (.bind (txDataBlock_quiet resp buff 0xFE) fun _ => .done quiet.refl) (.done quiet.refl))
    (.bind (announce_quiet count) fun _ => .bind (sendCmd_quiet cmd25 sector) fun _ => .ite
      (.bind (writeBlocks_quiet resp count buff) fun _ =>
        .bind (txDataBlock_quiet resp [] 0xFD) fun _ => .done quiet.refl)
      (.done quiet.refl))

/-! ## Control -/

theorem readRegister_spoke (cmd : UInt8) : Interacts spoke (readRegister cmd) :=
  .bind (spoke_of_quiet (sendCmd_quiet cmd 0)) fun _ =>
    .ite (rxDataBlock_spoke 0 16) (.done spoke.refl)

theorem getCount_spoke : Interacts spoke getCount :=
  .bindFrom (.before (fun _ => ⟨⟨[], (List.append_nil _).symm⟩, rfl, rfl, rfl⟩)
    (readRegister_spoke cmd9)) fun _ _ =>
    .ite (.done fun _ => ⟨⟨[], (List.append_nil _).symm⟩, rfl, rfl, rfl⟩)
      (.done fun _ => ⟨⟨[], (List.append_nil _).symm⟩, rfl, rfl, rfl⟩)

theorem control_spoke (ctrl : UInt8) : Interacts spoke (control ctrl) := by
  have hocr : Interacts spoke getOcr :=
    .bind (spoke_of_quiet (sendCmd_quiet cmd58 0)) fun _ => .ite
      (.bind (spoke_of_quiet (rxBytes_quiet 4)) fun ocr => .done fun s => spoke_storeAll 0 ocr s)
      (.done spoke.refl)
  have hsync : Interacts spoke sync :=
    .bind (spoke_of_quiet readyWait_quiet) fun _ => .done spoke.refl
  have hreg (cmd) : Interacts spoke (getRegister cmd) :=
    .bind (readRegister_spoke cmd) fun _ => .done spoke.refl
  exact .ite getCount_spoke <| .ite (.done (spoke_storeAll 0 _)) <| .ite hsync <|
    .ite (hreg cmd9) <| .ite (hreg cmd10) <| .ite hocr (.done spoke.refl)

end GenLogger.SdCard
