import GenLogger.Lib.Halting
import GenLogger.Platform.ChipSelect
import GenLogger.SdCard.Write

/-!
# Waits that end (`sd_spi.c`)

What is received is an endless stream of bytes, from any card, a stuck line or nothing; the tick
interrupt counts the timers down, so the ticks of the bytes grow beyond every bound (`Ticking`).

* Every loop of the driver but one ends on such a stream: by `Timer1`, by `Timer2`, or by a counter.
* The one that does not is `while (SPI_RxByte() == 0);` in `SD_TxDataBlock`, which a line that is
  stuck at zero never leaves. `Jams` is such a stream, from the data response of a block on.

Results:
* `readyWait_halts`, `untilReady_halts`, `rxDataBlock_halts` and the others: each wait, by what ends
  it.
* `diskInitialize_halts`, `diskRead_halts`, `diskIoctl_halts`: these functions return on every stream.
* `txDataBlock_returns_iff`: a data block returns unless it jams.
* `sd_returns_iff`: so a call of the driver returns exactly if it is no write that jams (`Jammed`).
-/

namespace GenLogger.SdCard

open GenLogger.Lib Stream'
open GenLogger.Platform (anyEffect)

/-- Time goes on. -/
def Ticking (ω : Stream' Rx) : Prop := ∀ d, ∃ n, d ≤ ticksOf (ω.take n)

theorem ticksOf_eq_spent (l : List Rx) : ticksOf l = quiet.spent l := by
  induction l with
  | nil => rfl
  | cons r l ih =>
    rw [Effect.spent_cons, ← ih]
    rfl

theorem Ticking.fair {ω : Stream' Rx} (h : Ticking ω) : quiet.Fair ω := by
  intro d
  obtain ⟨n, hn⟩ := h d
  exact ⟨n, by rwa [← ticksOf_eq_spent]⟩

/-- Whatever came before. -/
theorem Ticking.append {ω : Stream' Rx} (h : Ticking ω) (l : List Rx) : Ticking (l ++ₛ ω) := by
  intro d
  obtain ⟨n, hn⟩ := h d
  refine ⟨l.length + n, ?_⟩
  rw [← append_take, ticksOf_append]
  exact Nat.le_trans hn (Nat.le_add_left _ _)

/-- A line that is stuck, a byte a tick. -/
theorem ticking_const (byte : UInt8) : Ticking (const ⟨byte, 1⟩) := by
  have hticks (n : Nat) : ticksOf ((const (⟨byte, 1⟩ : Rx)).take n) = n := by
    induction n with
    | zero => rfl
    | succ n ih =>
      rw [take_succ', ticksOf_append, ih]
      rfl
  exact fun d => ⟨d, Nat.le_of_eq (hticks d).symm⟩

/-! ## Waiting and commands -/

theorem spiRxByte_halts : Halts quiet spiRxByte := by
  refine .next Rx.byte quiet_elapse (fun d => ⟨⟨0, d⟩, Nat.le_refl d⟩) fun s rx => ?_
  cases rx <;> rfl

/-- By `Timer2`. -/
theorem readyWait_halts : Halts quiet readyWait := by
  refine .bind (.before (quiet_timer2 500) ?_) fun _ => .done quiet.refl
  refine .poll Sd.timer2 quiet_elapse (fun d => ⟨⟨0xFF, d⟩, Nat.le_refl d, by simp⟩)
    (fun _ _ => Nat.le_refl _) fun s r hagain => ?_
  exact Nat.pos_of_ne_zero (of_decide_eq_true hagain).2

/-- By the counter. -/
theorem cmdResponse_halts (n : Nat) : Halts quiet (cmdResponse n) := by
  induction n with
  | zero => exact spiRxByte_halts
  | succ n ih => exact .bind spiRxByte_halts fun _ => .ite ih (.done quiet.refl)

theorem sendCmd_halts (cmd : UInt8) (arg : UInt32) : Halts quiet (sendCmd cmd arg) :=
  .bind readyWait_halts fun _ => .ite (.done quiet.refl) <|
    .before (quiet_tx (frame cmd arg)) <|
      .ite (.bind spiRxByte_halts fun _ => cmdResponse_halts 9) (cmdResponse_halts 9)

/-- By the counter. -/
theorem idleWait_halts (cnt : Nat) : Halts quiet (idleWait cnt) := by
  induction cnt with
  | zero => exact .bind spiRxByte_halts fun _ => .done quiet.refl
  | succ cnt ih => exact .bind spiRxByte_halts fun _ => .ite ih (.done quiet.refl)

theorem rxBytes_halts (n : Nat) : Halts quiet (rxBytes n) := by
  induction n with
  | zero => exact .done quiet.refl
  | succ n ih => exact .bind spiRxByte_halts fun _ => .bind ih fun _ => .done quiet.refl

theorem appOpCond_halts (arg : UInt32) : Halts quiet (appOpCond arg) :=
  .bind (sendCmd_halts cmd55 0) fun _ =>
    .ite (.bind (sendCmd_halts cmd41 arg) fun _ => .done quiet.refl) (.done quiet.refl)

theorem opCond_halts : Halts quiet opCond :=
  .bind (sendCmd_halts cmd1 0) fun _ => .done quiet.refl

/-- By `Timer1`, which no command sets. -/
theorem untilReady_halts {round : Driver (Option UInt8)} (h : Halts quiet round)
    (hprogress : ∀ {s rx answer s' rest}, round s rx = some (answer, s', rest) →
      rest.length < rx.length) : Halts quiet (untilReady round) := by
  refine .doWhile Sd.timer1 h hprogress (fun {s l s'} hquiet => ?_) fun s answer hagain => ?_
  · rw [Quiet.timer1 hquiet, ticksOf_eq_spent]
  · exact Nat.pos_of_ne_zero (of_decide_eq_true hagain).2

/-! ## Blocks that are read -/

section

variable {α : Type} {f : Driver α}

theorem spoke_halts (h : Halts quiet f) : Halts spoke f := h.mono rfl Quiet.toSpoke

end

theorem receive_halts (len buff : Nat) : Halts quiet (receive len buff) := by
  induction len generalizing buff with
  | zero =>
    exact .bind spiRxByte_halts fun data => .done fun s => quiet_store buff data s
  | succ len ih =>
    exact .bind spiRxByte_halts fun data => .before (quiet_store buff data) (ih (buff + 1))

/-- By `Timer1`, which is set. -/
theorem rxDataBlock_halts (buff len : Nat) : Halts spoke (rxDataBlock buff len) := by
  have hrx := spoke_halts spiRxByte_halts
  have htoken : Halts spoke fun s rx =>
      poll elapse (fun s r => r.byte = 0xFF ∧ s.timer1 ≠ 0) { s with timer1 := 200 } rx :=
    .before (spoke_timer1 200) (.poll Sd.timer1 spoke_elapse
      (fun d => ⟨⟨0xFE, d⟩, Nat.le_refl d, by simp⟩) (fun _ _ => Nat.le_refl _)
      fun s r hagain => Nat.pos_of_ne_zero (of_decide_eq_true hagain).2)
  exact .bind htoken fun _ => .ite (.done spoke.refl)
    (.bind (spoke_halts (receive_halts len buff)) fun _ =>
      .bind hrx fun _ => .bind hrx fun _ => .done spoke.refl)

/-- By `count`. -/
theorem readBlocks_halts (count buff : Nat) : Halts spoke (readBlocks count buff) := by
  induction count generalizing buff with
  | zero => exact .done spoke.refl
  | succ count ih =>
    exact .bind (rxDataBlock_halts buff 512) fun _ => .ite (ih (buff + 512)) (.done spoke.refl)

theorem readSectors_halts (sector : UInt32) (count : Nat) : Halts spoke (readSectors sector count) :=
  have hsend cmd arg := spoke_halts (sendCmd_halts cmd arg)
  .ite
    (.bind (hsend cmd17 sector) fun _ => .ite
      (.bind (rxDataBlock_halts 0 512) fun _ => .done spoke.refl) (.done spoke.refl))
    (.bind (hsend cmd18 sector) fun _ => .ite
      (.bind (readBlocks_halts count 0) fun _ => .bind (hsend cmd12 0) fun _ => .done spoke.refl)
      (.done spoke.refl))

theorem readRegister_halts (cmd : UInt8) : Halts spoke (readRegister cmd) :=
  .bind (spoke_halts (sendCmd_halts cmd 0)) fun _ => .ite (rxDataBlock_halts 0 16) (.done spoke.refl)

theorem getCount_halts : Halts spoke getCount :=
  .bindFrom (.before (fun _ => ⟨⟨[], (List.append_nil _).symm⟩, rfl, rfl, rfl⟩)
    (readRegister_halts cmd9)) fun _ _ =>
    .ite (.done fun _ => ⟨⟨[], (List.append_nil _).symm⟩, rfl, rfl, rfl⟩)
      (.done fun _ => ⟨⟨[], (List.append_nil _).symm⟩, rfl, rfl, rfl⟩)

theorem control_halts (ctrl : UInt8) : Halts spoke (control ctrl) := by
  have hocr : Halts spoke getOcr :=
    .bind (spoke_halts (sendCmd_halts cmd58 0)) fun _ => .ite
      (.bind (spoke_halts (rxBytes_halts 4)) fun ocr => .done fun s => spoke_storeAll 0 ocr s)
      (.done spoke.refl)
  have hsync : Halts spoke sync :=
    .bind (spoke_halts readyWait_halts) fun _ => .done spoke.refl
  have hreg (cmd) : Halts spoke (getRegister cmd) :=
    .bind (readRegister_halts cmd) fun _ => .done spoke.refl
  exact .ite getCount_halts <| .ite (.done (spoke_storeAll 0 _)) <| .ite hsync <|
    .ite (hreg cmd9) <| .ite (hreg cmd10) <| .ite hocr (.done spoke.refl)

theorem probe_halts : Halts spoke probe := by
  have hready := untilReady_halts (appOpCond_halts 0x40000000) appOpCond_progress
  have hsd2 : Halts quiet probeSd2 := .bind (rxBytes_halts 4) fun _ => .ite
    (.bind hready fun _ => .test
      (.bind (sendCmd_halts cmd58 0) fun _ => .ite
        (.bind (rxBytes_halts 4) fun _ => .done quiet.refl) (.done quiet.refl))
      (.done quiet.refl))
    (.done quiet.refl)
  have hsettle (type : UInt8) : Halts quiet (settle type) := by
    have hround : Halts quiet (untilReady (if type = ctSd1 then appOpCond 0 else opCond)) := by
      split
      · exact untilReady_halts (appOpCond_halts 0) appOpCond_progress
      · exact untilReady_halts opCond_halts opCond_progress
    exact .bind hround fun _ => .test (.done quiet.refl)
      (.bind (sendCmd_halts cmd16 512) fun _ => .done quiet.refl)
  have hold : Halts quiet probeOld := .bind (appOpCond_halts 0) fun answer => hsettle _
  have hsend cmd arg := spoke_halts (sendCmd_halts cmd arg)
  exact .bind (hsend cmd0 0) fun _ => .ite
    (.before (spoke_timer1 1000) (.bind (hsend cmd8 0x1AA) fun _ =>
      .ite (spoke_halts hsd2) (spoke_halts hold)))
    (.done spoke.refl)

/-! ## Blocks that are written -/

/-- By the counter. -/
theorem dataResponse_halts (n : Nat) : Halts quiet (dataResponse n) := by
  induction n with
  | zero => exact spiRxByte_halts
  | succ n ih => exact .bind spiRxByte_halts fun _ => .ite (.done quiet.refl) ih

theorem dataResponse_cases {n : Nat} {s s' : Sd} {res : UInt8} {rx rest : List Rx}
    (h : dataResponse n s rx = some (res, s', rest)) : ∃ waiting last,
    rx = waiting ++ last :: rest ∧ (∀ r ∈ waiting, r.byte &&& 0x1F ≠ 0x05) ∧
      (last.byte &&& 0x1F = 0x05 ∧ waiting.length ≤ n ∨ waiting.length = n) := by
  induction n generalizing s rx with
  | zero =>
    cases rx with
    | nil => cases h
    | cons r rx => cases h; exact ⟨[], r, rfl, List.forall_mem_nil _, Or.inr rfl⟩
  | succ n ih =>
    cases rx with
    | nil => cases h
    | cons r rx =>
      by_cases hacked : r.byte &&& 0x1F = 0x05
      · cases (if_pos hacked).symm.trans h
        exact ⟨[], r, rfl, List.forall_mem_nil _, Or.inl ⟨hacked, Nat.zero_le _⟩⟩
      · obtain ⟨waiting, last, rfl, hwaiting, hlast⟩ := ih ((if_neg hacked).symm.trans h)
        refine ⟨r :: waiting, last, rfl, List.forall_mem_cons.mpr ⟨hacked, hwaiting⟩, ?_⟩
        simpa using hlast

/-- The answers to a block, up to its data response. -/
structure BlockResponse where
  ready : ReadyAnswer
  hready : ready.Ready
  crc₁ : Rx
  crc₂ : Rx
  waiting : List Rx
  resp : Rx
  hwaiting : ∀ r ∈ waiting, r.byte &&& 0x1F ≠ 0x05
  hresp : resp.byte &&& 0x1F = 0x05 ∧ waiting.length ≤ 64 ∨ waiting.length = 64

/-- What is received until the data response. -/
def BlockResponse.bytes (b : BlockResponse) : List Rx :=
  b.ready.bytes ++ (b.crc₁ :: b.crc₂ :: (b.waiting ++ [b.resp]))

/-- After the data response of a block there is nothing but zeros. -/
def Jams (ω : Stream' Rx) : Prop :=
  ∃ (b : BlockResponse) (zeros : Stream' Rx), ω = b.bytes ++ₛ zeros ∧ ∀ n, (zeros.get n).byte = 0

/-- The busy wait ends with the first byte that is not zero, -/
theorem busy_split {ω : Stream' Rx} (h : ∃ n, (ω.get n).byte ≠ 0) : ∃ busy done ω',
    ω = busy ++ [done] ++ₛ ω' ∧ (∀ r ∈ busy, r.byte = 0) ∧ done.byte ≠ 0 := by
  obtain ⟨n, hn⟩ := h
  have hmem : ω.get n ∈ ω.take (n + 1) := by
    rw [take_succ']
    exact List.mem_append_right _ (List.mem_singleton_self _)
  have hsome : (poll elapse (fun _ r => decide (r.byte = 0)) start (ω.take (n + 1))).isSome :=
    poll_isSome (fun _ => decide_eq_false hn) hmem start
  obtain ⟨⟨done, s', rest⟩, hpoll⟩ := Option.isSome_iff_exists.mp hsome
  obtain ⟨busy, htake, hpolls⟩ := poll_polls hpoll
  refine ⟨busy, done, rest ++ₛ ω.drop (n + 1), ?_, fun r hr => ?_, of_decide_eq_false hpolls.ends⟩
  · rw [← append_append_stream, List.append_assoc]
    exact (append_take_drop (n + 1) ω).symm.trans (congrArg (· ++ₛ ω.drop (n + 1)) htake)
  · obtain ⟨l, m, hbusy⟩ := List.append_of_mem hr
    exact of_decide_eq_true (hpolls.waits l r m hbusy)

/-- and not without one. -/
theorem busy_waits {zeros : Stream' Rx} (hzeros : ∀ n, (zeros.get n).byte = 0) (n : Nat) (s : Sd) :
    poll elapse (fun _ r => decide (r.byte = 0)) s (zeros.take n) = none := by
  cases hpoll : poll elapse (fun _ r => decide (r.byte = 0)) s (zeros.take n) with
  | none => rfl
  | some r =>
    obtain ⟨busy, htake, hpolls⟩ := poll_polls hpoll
    have hmem : r.1 ∈ zeros.take n := by
      rw [htake]
      exact List.mem_append_right _ List.mem_cons_self
    obtain ⟨m, hm, hlast⟩ := List.mem_iff_getElem.mp hmem
    rw [take_get] at hlast
    exact absurd (hlast ▸ hzeros m) (of_decide_eq_false hpolls.ends)

/-- The block up to its data response, and the wait that is left. -/
theorem txDataBlock_response (b : BlockResponse) (resp : UInt8) (buff : List UInt8) {token : UInt8}
    (htoken : token ≠ 0xFD) (s : Sd) (rest : List Rx) : ∃ s',
    txDataBlock resp buff token s (b.bytes ++ rest) =
      poll elapse (fun _ r => decide (r.byte = 0)) s' rest >>= fun r =>
        some (decide (b.resp.byte &&& 0x1F = 0x05), r.2.1, r.2.2) := by
  obtain ⟨s₁, hs₁, -⟩ := readyWait_answer b.ready s
    (b.crc₁ :: b.crc₂ :: (b.waiting ++ b.resp :: rest))
  let s₂ := elapse (elapse (spiTxBuffer (buff.take 512) (spiTxByte token s₁)) b.crc₁) b.crc₂
  obtain ⟨s₃, hs₃, -⟩ := dataResponse_answer b.hwaiting b.hresp s₂ rest
  refine ⟨s₃, ?_⟩
  unfold txDataBlock BlockResponse.bytes
  simp only [List.append_assoc, List.cons_append, List.nil_append]
  refine (congrArg (· >>= _) hs₁).trans ?_
  refine (if_neg (not_not.mpr b.hready)).trans ((if_pos htoken).trans ?_)
  exact (congrArg (· >>= _) hs₃ : _)

/-- What a block takes, up to its data response, unless the card is not ready. -/
theorem block_answered {ω : Stream' Rx} (hfair : quiet.Fair ω) :
    (∃ (a : ReadyAnswer) (ω' : Stream' Rx), ¬ a.Ready ∧ ω = a.bytes ++ₛ ω') ∨
      ∃ (b : BlockResponse) (ω' : Stream' Rx), ω = b.bytes ++ₛ ω' := by
  obtain ⟨l, ω₁, ready, s₁, rfl, hfair₁, -, hl⟩ := readyWait_halts.leads start hfair
  obtain ⟨a, hbytes, -⟩ := readyWait_cases (hl [])
  rw [List.append_nil, List.append_nil] at hbytes
  subst hbytes
  by_cases hready : a.Ready
  · obtain ⟨crc₁, crc₂, ω₂, rfl⟩ : ∃ crc₁ crc₂ ω₂, ω₁ = [crc₁, crc₂] ++ₛ ω₂ :=
      ⟨_, _, _, (append_take_drop 2 ω₁).symm⟩
    obtain ⟨l₂, ω₃, resp, s₃, rfl, -, -, hl₂⟩ := (dataResponse_halts 64).leads s₁ hfair₁.later
    obtain ⟨waiting, last, hl₂', hwaiting, hlast⟩ := dataResponse_cases (hl₂ [])
    rw [List.append_nil] at hl₂'
    subst hl₂'
    refine Or.inr ⟨⟨a, hready, crc₁, crc₂, waiting, last, hwaiting, hlast⟩, ω₃, ?_⟩
    exact (append_append_stream a.bytes (crc₁ :: crc₂ :: (waiting ++ [last])) ω₃).symm
  · exact Or.inl ⟨a, ω₁, hready, rfl⟩

/-- Unless it jams, a block takes its answer. -/
theorem block_taken {ω : Stream' Rx} (hfair : quiet.Fair ω) (hno : ¬ Jams ω) :
    ∃ (a : BlockAnswer) (ω' : Stream' Rx), ω = a.bytes ++ₛ ω' := by
  rcases block_answered hfair with ⟨a, ω', hready, rfl⟩ | ⟨b, ω', rfl⟩
  · exact ⟨.late a hready, ω', rfl⟩
  · obtain ⟨busy, done, ω'', rfl, hbusy, hdone⟩ : ∃ busy done ω'',
        ω' = busy ++ [done] ++ₛ ω'' ∧ (∀ r ∈ busy, r.byte = 0) ∧ done.byte ≠ 0 := by
      refine busy_split ?_
      by_contra hzeros
      exact hno ⟨b, ω', rfl, fun n => not_not.mp (not_exists.mp hzeros n)⟩
    refine ⟨.answered b.ready b.hready b.crc₁ b.crc₂ b.waiting b.resp b.hwaiting b.hresp busy hbusy done
      hdone, ω'', ?_⟩
    rw [← append_append_stream]
    congr 1
    simp [BlockAnswer.bytes, BlockResponse.bytes]

/-- A block that jams never returns. -/
theorem txDataBlock_jams (resp : UInt8) (buff : List UInt8) {token : UInt8} (htoken : token ≠ 0xFD)
    (s : Sd) {ω : Stream' Rx} (hjams : Jams ω) : ¬ Returns (txDataBlock resp buff token s) ω := by
  obtain ⟨b, zeros, rfl, hzeros⟩ := hjams
  rw [returns_append_iff ((txDataBlock_quiet resp buff token).more s)]
  rintro ⟨n, hn⟩
  obtain ⟨s', hrun⟩ := txDataBlock_response b resp buff htoken s (zeros.take n)
  rw [busy_waits hzeros] at hrun
  exact Bool.false_ne_true ((congrArg Option.isSome hrun).symm.trans hn)

/-- **A block returns** unless it jams. -/
theorem txDataBlock_returns_iff (resp : UInt8) (buff : List UInt8) {token : UInt8}
    (htoken : token ≠ 0xFD) (s : Sd) {ω : Stream' Rx} (hfair : quiet.Fair ω) :
    Returns (txDataBlock resp buff token s) ω ↔ ¬ Jams ω := by
  refine ⟨fun hret hjams => txDataBlock_jams resp buff htoken s hjams hret, fun hno => ?_⟩
  obtain ⟨a, ω', rfl⟩ := block_taken hfair hno
  obtain ⟨ok, s', hrun, -⟩ := txDataBlock_answer a resp buff token htoken s []
  exact Returns.append ⟨0, Option.isSome_of_eq_some hrun⟩

/-! ## Answers, whatever comes after them -/

theorem sendCmd_runs {cmd : UInt8} (a : CmdAnswer cmd) (arg : UInt32) (s : Sd) :
    ∃ s', ∀ rest, sendCmd cmd arg s (a.bytes ++ rest) = some (a.res, s', rest) := by
  obtain ⟨s', hrun, -⟩ := sendCmd_answer a arg s []
  exact ⟨s', (sendCmd_quiet cmd arg).runs hrun⟩

theorem announce_runs (announced : Announced) (count : Nat) {s : Sd}
    (hsd1 : announced.isSome = isSd1 s) :
    ∃ s', ∀ rest, announce count s (announcedBytes announced ++ rest) = some ((), s', rest) := by
  obtain ⟨s', hrun, -⟩ := announce_answer announced count hsd1 []
  exact ⟨s', (announce_quiet count).runs hrun⟩

theorem txDataBlock_runs (a : BlockAnswer) (resp : UInt8) (buff : List UInt8) (token : UInt8)
    (htoken : token ≠ 0xFD) (s : Sd) : ∃ ok s', (ok = true ↔ a.Acked) ∧
    ∀ rest, txDataBlock resp buff token s (a.bytes ++ rest) = some (ok, s', rest) := by
  obtain ⟨ok, s', hrun, hok, -⟩ := txDataBlock_answer a resp buff token htoken s []
  exact ⟨ok, s', hok, (txDataBlock_quiet resp buff token).runs hrun⟩

theorem sendCmd_taken (cmd : UInt8) {ω : Stream' Rx} (hfair : quiet.Fair ω) :
    ∃ (a : CmdAnswer cmd) (ω' : Stream' Rx), ω = a.bytes ++ₛ ω' := by
  obtain ⟨l, ω', res, s', rfl, -, -, hl⟩ := (sendCmd_halts cmd 0).leads start hfair
  obtain ⟨a, hbytes, -⟩ := sendCmd_cases (hl [])
  rw [List.append_nil, List.append_nil] at hbytes
  exact ⟨a, ω', by rw [hbytes]⟩

/-! ## Several blocks -/

/-- After some blocks that are acknowledged, one jams. -/
def BlocksJam (count : Nat) (ω : Stream' Rx) : Prop :=
  ∃ (acked : List BlockAnswer) (rest : Stream' Rx), acked.length < count ∧ (∀ a ∈ acked, a.Acked) ∧
    ω = acked.flatMap BlockAnswer.bytes ++ₛ rest ∧ Jams rest

/-- One more block is acknowledged. -/
theorem BlocksJam.cons {a : BlockAnswer} (ha : a.Acked) {count : Nat} {ω : Stream' Rx}
    (h : BlocksJam count ω) : BlocksJam (count + 1) (a.bytes ++ₛ ω) := by
  obtain ⟨acked, rest, hcount, hacked, rfl, hjams⟩ := h
  refine ⟨a :: acked, rest, Nat.succ_lt_succ hcount, List.forall_mem_cons.mpr ⟨ha, hacked⟩, ?_, hjams⟩
  rw [List.flatMap_cons, append_append_stream]

theorem writeBlocks_jams (resp : UInt8) {count : Nat} (buff : List UInt8) (s : Sd) {ω : Stream' Rx}
    (h : BlocksJam count ω) : ¬ Returns (writeBlocks resp count buff s) ω := by
  obtain ⟨acked, rest, hcount, hacked, rfl, hjams⟩ := h
  induction acked generalizing count buff s with
  | nil =>
    obtain ⟨count, rfl⟩ := Nat.exists_eq_succ_of_ne_zero (Nat.ne_of_gt hcount)
    exact fun hret => txDataBlock_jams resp buff (by decide) s hjams hret.of_bind
  | cons a acked ih =>
    obtain ⟨count, rfl⟩ := Nat.exists_eq_succ_of_ne_zero (Nat.ne_zero_of_lt hcount)
    obtain ⟨ok, s', hok, hrun⟩ := txDataBlock_runs a resp buff 0xFC (by decide) s
    have hyes : ok = true := hok.mpr (hacked a List.mem_cons_self)
    subst hyes
    rw [List.flatMap_cons, append_append_stream,
      returns_append_iff ((writeBlocks_quiet resp (count + 1) buff).more s)]
    have hgo : (fun rx => writeBlocks resp (count + 1) buff s (a.bytes ++ rx)) =
        writeBlocks resp count (buff.drop 512) s' := by
      funext rx
      exact (congrArg (· >>= _) (hrun rx) : _)
    rw [hgo]
    exact ih (buff.drop 512) s' (Nat.lt_of_succ_lt_succ hcount)
      fun b hb => hacked b (List.mem_cons_of_mem _ hb)

theorem writeBlocks_returns (resp : UInt8) {count : Nat} (buff : List UInt8) (s : Sd) {ω : Stream' Rx}
    (hfair : quiet.Fair ω) (hno : ¬ BlocksJam count ω) : Returns (writeBlocks resp count buff s) ω := by
  induction count generalizing buff s ω with
  | zero => exact ⟨0, rfl⟩
  | succ count ih =>
    have hblock : ¬ Jams ω := fun hjams => hno ⟨[], ω, Nat.succ_pos _, List.forall_mem_nil _, rfl, hjams⟩
    obtain ⟨a, ω', rfl⟩ := block_taken hfair hblock
    obtain ⟨ok, s', hok, hrun⟩ := txDataBlock_runs a resp buff 0xFC (by decide) s
    have hgo (rx : List Rx) : writeBlocks resp (count + 1) buff s (a.bytes ++ rx) =
        if ok then writeBlocks resp count (buff.drop 512) s' rx else some (count + 1, s', rx) :=
      (congrArg (· >>= _) (hrun rx) : _)
    refine Returns.append ?_
    simp only [hgo]
    by_cases hacked : ok = true
    · simp only [if_pos hacked]
      exact ih (buff.drop 512) s' hfair.later fun hjams => hno (hjams.cons (hok.mp hacked))
    · simp only [if_neg hacked]
      exact ⟨0, rfl⟩

/-- The stop token asks for no response, and waits for none. -/
theorem stop_halts (resp : UInt8) : Halts quiet (txDataBlock resp [] 0xFD) :=
  .bind readyWait_halts fun _ => .ite (.done quiet.refl) <|
    .dite (fun hno => absurd rfl hno) fun _ => .done (quiet_txByte 0xFD)

/-! ## Writes -/

/-- A write whose command is accepted, and in which a block jams. `sd1` says that the card is of type
`CT_SD1`. -/
inductive WriteJams (sd1 : Bool) : Nat → Stream' Rx → Prop
  | one (command : CmdAnswer cmd24) (hres : command.res = 0) {rest : Stream' Rx} (h : Jams rest) :
      WriteJams sd1 1 (command.bytes ++ₛ rest)
  | many {count : Nat} (hcount : count ≠ 1) (announced : Announced) (hsd1 : announced.isSome = sd1)
      (command : CmdAnswer cmd25) (hres : command.res = 0) {rest : Stream' Rx}
      (h : BlocksJam count rest) :
      WriteJams sd1 count (announcedBytes announced ++ command.bytes ++ₛ rest)

/-- The transfer of one block, after its command. -/
theorem writeSectors_one (resp : UInt8) (buff : List UInt8) (sector : UInt32) (s : Sd)
    (command : CmdAnswer cmd24) : ∃ s', ∀ rx,
    writeSectors resp buff sector 1 s (command.bytes ++ rx) =
      if command.res = 0 then
        txDataBlock resp buff 0xFE s' rx >>= fun r => some (if r.1 then 0 else 1, r.2.1, r.2.2)
      else some (1, s', rx) := by
  obtain ⟨s', hrun⟩ := sendCmd_runs command sector s
  exact ⟨s', fun rx => (congrArg (· >>= _) (hrun rx) : _)⟩

/-- And of several. -/
theorem writeSectors_many (resp : UInt8) (buff : List UInt8) (sector : UInt32) {count : Nat}
    (hcount : count ≠ 1) {s : Sd} (announced : Announced) (hsd1 : announced.isSome = isSd1 s)
    (command : CmdAnswer cmd25) : ∃ s', ∀ rx,
    writeSectors resp buff sector count s (announcedBytes announced ++ command.bytes ++ rx) =
      if command.res = 0 then
        writeBlocks resp count buff s' rx >>= fun r =>
          txDataBlock resp [] 0xFD r.2.1 r.2.2 >>= fun stop =>
            some (if stop.1 then r.1 else 1, stop.2.1, stop.2.2)
      else some (count, s', rx) := by
  obtain ⟨s₁, hrun₁⟩ := announce_runs announced count hsd1
  obtain ⟨s₂, hrun₂⟩ := sendCmd_runs command sector s₁
  refine ⟨s₂, fun rx => ?_⟩
  rw [List.append_assoc]
  unfold writeSectors
  rw [if_neg hcount]
  refine (congrArg (· >>= _) (hrun₁ _)).trans ?_
  exact (congrArg (· >>= _) (hrun₂ rx) : _)

theorem writeSectors_jams (resp : UInt8) (buff : List UInt8) (sector : UInt32) {count : Nat} {s : Sd}
    {ω : Stream' Rx} (h : WriteJams (isSd1 s) count ω) :
    ¬ Returns (writeSectors resp buff sector count s) ω := by
  have hmore count := (writeSectors_quiet resp buff sector count).more s
  cases h with
  | @one command hres rest hjams =>
    obtain ⟨s', hgo⟩ := writeSectors_one resp buff sector s command
    rw [returns_append_iff (hmore 1)]
    simp only [hgo, if_pos hres]
    exact fun hret => txDataBlock_jams resp buff (by decide) s' hjams hret.of_bind
  | @many _ hcount announced hsd1 command hres rest hjams =>
    obtain ⟨s', hgo⟩ := writeSectors_many resp buff sector hcount announced hsd1 command
    rw [returns_append_iff (hmore count)]
    simp only [hgo, if_pos hres]
    exact fun hret => writeBlocks_jams resp buff s' hjams hret.of_bind

theorem announce_taken (sd1 : Bool) {ω : Stream' Rx} (hfair : quiet.Fair ω) :
    ∃ (announced : Announced) (ω' : Stream' Rx), announced.isSome = sd1 ∧
      ω = announcedBytes announced ++ₛ ω' := by
  cases sd1 with
  | false => exact ⟨none, ω, rfl, rfl⟩
  | true =>
    obtain ⟨a, ω₁, rfl⟩ := sendCmd_taken cmd55 hfair
    obtain ⟨b, ω₂, rfl⟩ := sendCmd_taken cmd23 hfair.later
    exact ⟨some (a, b), ω₂, rfl, (append_append_stream _ _ _).symm⟩

theorem writeSectors_returns (resp : UInt8) (buff : List UInt8) (sector : UInt32) {count : Nat} {s : Sd}
    {ω : Stream' Rx} (hfair : quiet.Fair ω) (hno : ¬ WriteJams (isSd1 s) count ω) :
    Returns (writeSectors resp buff sector count s) ω := by
  by_cases hcount : count = 1
  · subst hcount
    obtain ⟨command, ω₁, rfl⟩ := sendCmd_taken cmd24 hfair
    obtain ⟨s', hgo⟩ := writeSectors_one resp buff sector s command
    refine Returns.append ?_
    simp only [hgo]
    by_cases hres : command.res = 0
    · have hblock : ¬ Jams ω₁ := fun hjams => hno (.one command hres hjams)
      have hret := (txDataBlock_returns_iff resp buff (by decide : (0xFE : UInt8) ≠ 0xFD) s'
        hfair.later).mpr hblock
      simp only [if_pos hres]
      exact (txDataBlock_quiet resp buff 0xFE).returns_bind hfair.later hret fun _ _ _ _ => ⟨0, rfl⟩
    · simp only [if_neg hres]
      exact ⟨0, rfl⟩
  · obtain ⟨announced, ω₁, hsd1, rfl⟩ := announce_taken (isSd1 s) hfair
    obtain ⟨command, ω₂, rfl⟩ := sendCmd_taken cmd25 hfair.later
    obtain ⟨s', hgo⟩ := writeSectors_many resp buff sector hcount announced hsd1 command
    rw [← append_append_stream] at hfair hno ⊢
    refine Returns.append ?_
    simp only [hgo]
    by_cases hres : command.res = 0
    · have hblocks : ¬ BlocksJam count ω₂ := fun hjams =>
        hno (.many hcount announced hsd1 command hres hjams)
      have hret := writeBlocks_returns resp buff s' hfair.later hblocks
      simp only [if_pos hres]
      refine (writeBlocks_quiet resp count buff).returns_bind hfair.later hret fun left s₁ ω₃ hfair₃ => ?_
      have hstop : Returns (fun rx => txDataBlock resp [] 0xFD s₁ rx >>= fun stop =>
          some (if stop.1 then left else 1, stop.2.1, stop.2.2)) ω₃ :=
        (stop_halts resp).toInteracts.returns_bind hfair₃ ((stop_halts resp).halts hfair₃)
          fun _ _ _ _ => ⟨0, rfl⟩
      exact hstop
    · simp only [if_neg hres]
      exact ⟨0, rfl⟩

/-! ## Calls -/

theorem any_halts {α : Type} {E : Effect Sd Rx} {f : Driver α} (h : Halts E f)
    (hcost : E.cost = Rx.ticks) : Halts anyEffect f :=
  h.mono hcost.symm fun _ => trivial

theorem released_halts : Halts anyEffect fun s rx => spiRxByte (deselect s) rx :=
  .before (fun _ => trivial) (any_halts spiRxByte_halts rfl)

theorem powerOn_halts : Halts anyEffect powerOn :=
  .bind (.before (fun _ => trivial) (any_halts (idleWait_halts 0x1FFF) rfl)) fun _ =>
    .done fun _ => trivial

/-- **Initialising returns** on every stream, -/
theorem diskInitialize_halts (drv : UInt8) : Halts anyEffect (diskInitialize drv) := by
  have hidle (type : UInt8) :
      Halts anyEffect fun s rx => spiRxByte (deselect { s with cardType := type }) rx :=
    .before (fun _ => trivial) (any_halts spiRxByte_halts rfl)
  exact .ite (.done fun _ => trivial) <| .test (.done fun _ => trivial) <|
    .bind powerOn_halts fun _ =>
      .bind (.before (fun _ => trivial) (any_halts probe_halts rfl)) fun type =>
        .bind (hidle type) fun _ => .done fun _ => trivial

/-- reading does, -/
theorem diskRead_halts (pdrv : UInt8) (sector : UInt32) (count : Nat) :
    Halts anyEffect (diskRead pdrv sector count) := by
  have htransfer : Halts anyEffect
      (fun s rx => readSectors (address sector s) count (select s) rx) :=
    .atState (f := fun s₀ s rx => readSectors (address sector s₀) count (select s) rx)
      fun s₀ => .before (fun _ => trivial) (any_halts (readSectors_halts (address sector s₀) count) rfl)
  exact .ite (.done fun _ => trivial) <| .test (.done fun _ => trivial) <|
    .bind htransfer fun _ => .bind released_halts fun _ => .done fun _ => trivial

/-- and control does. -/
theorem diskIoctl_halts (drv ctrl mode : UInt8) : Halts anyEffect (diskIoctl drv ctrl mode) := by
  have hpower : Halts anyEffect (powerControl mode) :=
    .ite (.done fun _ => trivial) <| .ite (.bind powerOn_halts fun _ => .done fun _ => trivial) <|
      .ite (.done fun _ => trivial) (.done fun _ => trivial)
  exact .ite (.done fun _ => trivial) <| .ite hpower <| .test (.done fun _ => trivial) <|
    .bind (.before (fun _ => trivial) (any_halts (control_halts ctrl) rfl)) fun _ =>
      .bind released_halts fun _ => .done fun _ => trivial

/-- **Writing returns** unless the card is there and a block jams. -/
theorem diskWrite_returns_iff (resp pdrv : UInt8) (buff : List UInt8) (sector : UInt32) (count : Nat)
    (s : Sd) {ω : Stream' Rx} (hfair : quiet.Fair ω) :
    Returns (diskWrite resp pdrv buff sector count s) ω ↔ ¬ (pdrv = 0 ∧ count ≠ 0 ∧
      s.stat &&& staNoinit = 0 ∧ s.stat &&& staProtect = 0 ∧ WriteJams (isSd1 s) count ω) := by
  unfold diskWrite
  by_cases hargs : pdrv ≠ 0 ∨ count = 0
  · simp only [if_pos hargs]
    refine iff_of_true ⟨0, rfl⟩ fun hjams => ?_
    exact hargs.elim (fun hpdrv => hpdrv hjams.1) hjams.2.1
  simp only [if_neg hargs]
  by_cases hinit : s.stat &&& staNoinit ≠ 0
  · simp only [if_pos hinit]
    exact iff_of_true ⟨0, rfl⟩ fun hjams => hinit hjams.2.2.1
  simp only [if_neg hinit]
  by_cases hprotect : s.stat &&& staProtect ≠ 0
  · simp only [if_pos hprotect]
    exact iff_of_true ⟨0, rfl⟩ fun hjams => hprotect hjams.2.2.2.1
  simp only [if_neg hprotect]
  constructor
  · intro hret hjams
    exact writeSectors_jams resp buff (address sector s) (s := select s) hjams.2.2.2.2 hret.of_bind
  · intro hno
    have hwrite : ¬ WriteJams (isSd1 (select s)) count ω := fun hjams =>
      hno ⟨not_not.mp (not_or.mp hargs).1, (not_or.mp hargs).2, not_not.mp hinit, not_not.mp hprotect,
        hjams⟩
    refine (writeSectors_quiet resp buff (address sector s) count).returns_bind hfair
      (writeSectors_returns resp buff (address sector s) hfair hwrite) fun left s' ω' hfair' => ?_
    exact ⟨1, rfl⟩

/-- A call that writes to a card that is there, and jams. -/
def Jammed (s : Sd) (ω : Stream' Rx) : Call → Prop
  | .write _ pdrv _ _ count => pdrv = 0 ∧ count ≠ 0 ∧ s.stat &&& staNoinit = 0 ∧
    s.stat &&& staProtect = 0 ∧ WriteJams (isSd1 s) count ω
  | _ => False

/-- The reply of a call is returned where its value is. -/
theorem returns_reply_iff {α : Type} {f : List Rx → Option (α × Sd × List Rx)} {reply : α → Reply}
    {ω : Stream' Rx} : Returns (fun rx => f rx >>= fun r => some (reply r.1, r.2.1, r.2.2)) ω ↔
      Returns f ω := by
  refine ⟨Returns.of_bind, fun ⟨n, hn⟩ => ?_⟩
  obtain ⟨r, hr⟩ := Option.isSome_iff_exists.mp hn
  exact ⟨n, Option.isSome_of_eq_some (congrArg (· >>= _) hr : _)⟩

/-- **Operations return unless a write jams**: with a tick interrupt that goes on, whatever is received, a
call of the driver returns exactly if it is no write to a card that is there in which the data response of
a block is followed by zeros for ever. -/
theorem sd_returns_iff (c : Call) (s : Sd) {ω : Stream' Rx} (hticking : Ticking ω) :
    Returns (c.run s) ω ↔ ¬ Jammed s ω c := by
  have hfair := hticking.fair
  have hany : anyEffect.Fair ω := hfair.congr rfl
  cases c with
  | init drv => exact returns_reply_iff.trans (iff_of_true ((diskInitialize_halts drv).halts hany) id)
  | status drv => exact iff_of_true ⟨0, rfl⟩ id
  | read pdrv sector count =>
    exact returns_reply_iff.trans (iff_of_true ((diskRead_halts pdrv sector count).halts hany) id)
  | write resp pdrv buff sector count =>
    exact returns_reply_iff.trans (diskWrite_returns_iff resp pdrv buff sector count s hfair)
  | ioctl drv ctrl mode =>
    exact returns_reply_iff.trans (iff_of_true ((diskIoctl_halts drv ctrl mode).halts hany) id)

/-- A line without a card: every byte reads `0xFF`. -/
theorem sd_returns_silent : Returns ((Call.read 0 7 2).run sd2) (const ⟨0xFF, 1⟩) :=
  (sd_returns_iff (.read 0 7 2) sd2 (ticking_const 0xFF)).mpr id

/-- The card takes the command and the block, and then the line is stuck at zero. -/
theorem sd_write_hangs : ∃ ω : Stream' Rx, Ticking ω ∧
    ω.take 6 = [⟨0xFF, 1⟩, ⟨0x00, 1⟩, ⟨0xFF, 1⟩, ⟨0xFF, 1⟩, ⟨0xFF, 1⟩, ⟨0x05, 1⟩] ∧
    ω.drop 6 = const ⟨0x00, 1⟩ ∧
    ¬ Returns ((Call.write 0 0 (List.replicate 512 0x41) 7 1).run sd2) ω := by
  let b : BlockResponse := ⟨promptReady, promptReady_ready, ⟨0xFF, 1⟩, ⟨0xFF, 1⟩, [], ⟨0x05, 1⟩,
    List.forall_mem_nil _, Or.inl ⟨rfl, Nat.zero_le 64⟩⟩
  have hjams : Jams (b.bytes ++ₛ const ⟨0x00, 1⟩) := ⟨b, _, rfl, fun _ => rfl⟩
  have hwrite : WriteJams (isSd1 sd2) 1 _ :=
    .one (promptCmd cmd24 (by decide)) (promptCmd_res _ _) hjams
  have hticking := ((ticking_const 0x00).append b.bytes).append (promptCmd cmd24 (by decide)).bytes
  refine ⟨_, hticking, rfl, rfl, fun hret => ?_⟩
  exact (diskWrite_returns_iff 0 0 _ 7 1 sd2 hticking.fair).mp (returns_reply_iff.mp hret)
    ⟨rfl, by decide, rfl, rfl, hwrite⟩

end GenLogger.SdCard
