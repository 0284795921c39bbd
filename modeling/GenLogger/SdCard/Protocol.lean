import GenLogger.SdCard.Driver

/-!
# What a card answers

The answers to one wait or one command, as the SD protocol in SPI mode allows them: a card is busy
until it sends `0xFF`, or for longer than the driver waits; a command is answered by a byte with its
highest bit clear, or not at all.

* `ReadyAnswer` and `CmdAnswer` are structures whose fields say so, and `bytes` is what is received.
* `Did` is what the driver does to the bus and to nothing else, but that time passes.

Results:
* `readyWait_answer`, `sendCmd_answer`: the driver over an answer: what it returns, what it sends, and
  that it takes these bytes and no more.
* `sendCmd_cases`: the converse: whatever is received, a command that returned took an answer.
-/

namespace GenLogger.SdCard

open GenLogger.Lib

/-! ## What a function does to the rest -/

/-- From `s` to `s'` the driver did `events` to the bus, and nothing else but time passed. -/
structure Did (s s' : Sd) (events : List BusEvent) : Prop where
  trace : s'.trace = s.trace ++ events
  stores : s'.stores = s.stores
  stat : s'.stat = s.stat
  cardType : s'.cardType = s.cardType
  powerFlag : s'.powerFlag = s.powerFlag

theorem Did.trans {s₁ s₂ s₃ : Sd} {es fs : List BusEvent} (h : Did s₁ s₂ es) (h' : Did s₂ s₃ fs) :
    Did s₁ s₃ (es ++ fs) :=
  ⟨by rw [h'.trace, h.trace, List.append_assoc], h'.stores.trans h.stores, h'.stat.trans h.stat,
    h'.cardType.trans h.cardType, h'.powerFlag.trans h.powerFlag⟩

/-- Nothing more was done after `s₂`. -/
theorem Did.still {s₁ s₂ s₃ : Sd} {es : List BusEvent} (h : Did s₁ s₂ es) (h' : Did s₂ s₃ []) :
    Did s₁ s₃ es := by
  have hdid := h.trans h'
  rwa [List.append_nil] at hdid

theorem did_elapse (s : Sd) (r : Rx) : Did s (elapse s r) [] :=
  ⟨(List.append_nil _).symm, rfl, rfl, rfl, rfl⟩

theorem did_elapses (s : Sd) (l : List Rx) : Did s (l.foldl elapse s) [] := by
  induction l generalizing s with
  | nil => exact ⟨(List.append_nil _).symm, rfl, rfl, rfl, rfl⟩
  | cons r l ih => exact (did_elapse s r).trans (ih (elapse s r))

theorem did_tx (buffer : List UInt8) (s : Sd) : Did s (spiTxBuffer buffer s) (buffer.map .tx) :=
  ⟨rfl, rfl, rfl, rfl, rfl⟩

/-- The ticks in a list of answers. -/
def ticksOf : List Rx → Nat
  | [] => 0
  | r :: l => r.ticks + ticksOf l

theorem elapses_timers (s : Sd) (l : List Rx) :
    (l.foldl elapse s).timer1 = s.timer1 - ticksOf l ∧
      (l.foldl elapse s).timer2 = s.timer2 - ticksOf l := by
  induction l generalizing s with
  | nil => exact ⟨rfl, rfl⟩
  | cons r l ih =>
    obtain ⟨h₁, h₂⟩ := ih (elapse s r)
    have hticks : ticksOf (r :: l) = r.ticks + ticksOf l := rfl
    rw [List.foldl_cons, h₁, h₂, hticks]
    exact ⟨Nat.sub_sub _ _ _, Nat.sub_sub _ _ _⟩

theorem ticksOf_append (l m : List Rx) : ticksOf (l ++ m) = ticksOf l + ticksOf m := by
  induction l with
  | nil => exact (Nat.zero_add _).symm
  | cons r l ih =>
    simp only [List.cons_append, ticksOf, ih]
    omega

theorem ticksOf_singleton (r : Rx) : ticksOf [r] = r.ticks := by
  simp [ticksOf]

theorem ticks_le_ticksOf {r : Rx} {l : List Rx} (h : r ∈ l) : r.ticks ≤ ticksOf l := by
  obtain ⟨l₁, l₂, rfl⟩ := List.append_of_mem h
  rw [ticksOf_append]
  exact Nat.le_trans (Nat.le_add_right _ (ticksOf l₂)) (Nat.le_add_left _ _)

/-- The timers after the answers up to `r`. -/
theorem elapse_timers (s : Sd) (l : List Rx) (r : Rx) :
    (elapse (l.foldl elapse s) r).timer1 = s.timer1 - (ticksOf l + r.ticks) ∧
      (elapse (l.foldl elapse s) r).timer2 = s.timer2 - (ticksOf l + r.ticks) := by
  obtain ⟨h₁, h₂⟩ := elapses_timers s (l ++ [r])
  rw [List.foldl_append, ticksOf_append, ticksOf_singleton] at h₁ h₂
  exact ⟨h₁, h₂⟩

/-! ## A card that is ready -/

/-- Not ready until `last`, or for longer than 500 ms. -/
structure ReadyAnswer where
  busy : List Rx
  last : Rx
  hbusy : ∀ r ∈ busy, r.byte ≠ 0xFF
  htime : ticksOf busy < 500
  hlast : last.byte = 0xFF ∨ 500 ≤ ticksOf busy + last.ticks

namespace ReadyAnswer

/-- What is received meanwhile. -/
def bytes (a : ReadyAnswer) : List Rx := a.busy ++ [a.last]

/-- The card became ready in time. -/
def Ready (a : ReadyAnswer) : Prop := a.last.byte = 0xFF

instance (a : ReadyAnswer) : Decidable a.Ready := inferInstanceAs (Decidable (_ = _))

end ReadyAnswer

theorem readyWait_answer (a : ReadyAnswer) (s : Sd) (rest : List Rx) : ∃ s',
    readyWait s (a.bytes ++ rest) = some (a.last.byte, s', rest) ∧ Did s s' [] := by
  have hpolls : Polls elapse (fun s r => decide (r.byte ≠ 0xFF ∧ s.timer2 ≠ 0)) { s with timer2 := 500 }
      a.busy a.last := by
    constructor
    · intro l r m hl
      have hticks : ticksOf l + r.ticks ≤ ticksOf a.busy := by
        rw [hl, ticksOf_append]
        simp only [ticksOf]
        omega
      have htime := a.htime
      rw [decide_eq_true_eq, (elapse_timers _ l r).2]
      refine ⟨a.hbusy r (by rw [hl]; simp), ?_⟩
      show 500 - _ ≠ 0
      omega
    · rw [decide_eq_false_iff_not, (elapse_timers _ a.busy a.last).2]
      rintro ⟨hne, hnot⟩
      have hlast := a.hlast.resolve_left hne
      exact hnot (Nat.sub_eq_zero_of_le hlast)
  have hpoll := poll_answer hpolls rest
  have hset : Did s { s with timer2 := 500 } [] := ⟨(List.append_nil _).symm, rfl, rfl, rfl, rfl⟩
  refine ⟨_, ?_, (hset.trans (did_elapses _ a.busy)).trans (did_elapse _ a.last)⟩
  unfold readyWait ReadyAnswer.bytes
  rw [List.append_assoc]
  exact Option.bind_eq_some_iff.mpr ⟨_, hpoll, rfl⟩

/-! ## Commands -/

/-- A card that is not ready, or up to ten answers, the last one the response if there is one.
`STOP_TRANSMISSION` has a stuff byte before them. -/
inductive CmdAnswer (cmd : UInt8) where
  | late (ready : ReadyAnswer) (h : ¬ ready.Ready)
  | answered (ready : ReadyAnswer) (h : ready.Ready) (stuff waiting : List Rx) (last : Rx)
      (hstuff : stuff.length = if cmd = cmd12 then 1 else 0)
      (hwaiting : ∀ r ∈ waiting, r.byte &&& 0x80 ≠ 0)
      (hlast : last.byte &&& 0x80 = 0 ∧ waiting.length ≤ 9 ∨ waiting.length = 9)

namespace CmdAnswer

variable {cmd : UInt8}

/-- What is received while the command is sent and answered. -/
def bytes : CmdAnswer cmd → List Rx
  | late ready _ => ready.bytes
  | answered ready _ stuff waiting last _ _ _ => ready.bytes ++ (stuff ++ (waiting ++ [last]))

/-- What `SD_SendCmd` returns. -/
def res : CmdAnswer cmd → UInt8
  | late _ _ => 0xFF
  | answered _ _ _ _ last _ _ _ => last.byte

/-- What it sends. -/
def sent (arg : UInt32) : CmdAnswer cmd → List BusEvent
  | late _ _ => []
  | answered _ _ _ _ _ _ _ _ => (frame cmd arg).map .tx

end CmdAnswer

theorem cmdResponse_answer {n : Nat} {waiting : List Rx} {last : Rx}
    (hwaiting : ∀ r ∈ waiting, r.byte &&& 0x80 ≠ 0)
    (hlast : last.byte &&& 0x80 = 0 ∧ waiting.length ≤ n ∨ waiting.length = n) (s : Sd)
    (rest : List Rx) : ∃ s',
    cmdResponse n s (waiting ++ last :: rest) = some (last.byte, s', rest) ∧ Did s s' [] := by
  induction waiting generalizing n s with
  | nil =>
    refine ⟨elapse s last, ?_, did_elapse s last⟩
    cases n with
    | zero => rfl
    | succ n =>
      have hclear : last.byte &&& 0x80 = 0 := by
        rcases hlast with ⟨h, -⟩ | h
        · exact h
        · simp at h
      simp [cmdResponse, spiRxByte, hclear]
  | cons r waiting ih =>
    have hset := hwaiting r List.mem_cons_self
    cases n with
    | zero => simp at hlast
    | succ n =>
      obtain ⟨s', hs', hdid⟩ := ih (n := n) (fun x hx => hwaiting x (List.mem_cons_of_mem _ hx))
        (by simpa using hlast) (elapse s r)
      refine ⟨s', ?_, (did_elapse s r).trans hdid⟩
      simp [cmdResponse, spiRxByte, hset, hs']

/-- **A command** takes its answer and no more, and sends its frame to a card that is ready. -/
theorem sendCmd_answer {cmd : UInt8} (a : CmdAnswer cmd) (arg : UInt32) (s : Sd) (rest : List Rx) :
    ∃ s', sendCmd cmd arg s (a.bytes ++ rest) = some (a.res, s', rest) ∧ Did s s' (a.sent arg) := by
  cases a with
  | late ready h =>
    obtain ⟨s', hs', hdid⟩ := readyWait_answer ready s rest
    refine ⟨s', ?_, hdid⟩
    unfold sendCmd
    refine Option.bind_eq_some_iff.mpr ⟨_, hs', ?_⟩
    exact if_pos h
  | answered ready h stuff waiting last hstuff hwaiting hlast =>
    obtain ⟨s₁, hs₁, hdid₁⟩ := readyWait_answer ready s (stuff ++ (waiting ++ [last]) ++ rest)
    have hdid₂ := hdid₁.trans (did_tx (frame cmd arg) s₁)
    have hready : ¬ ready.last.byte ≠ 0xFF := not_not.mpr h
    by_cases hcmd : cmd = cmd12
    · rw [if_pos hcmd] at hstuff
      obtain ⟨stuffByte, rfl⟩ := List.length_eq_one_iff.mp hstuff
      obtain ⟨s', hs', hdid⟩ := cmdResponse_answer hwaiting hlast
        (elapse (spiTxBuffer (frame cmd arg) s₁) stuffByte) rest
      refine ⟨s', ?_, hdid₂.still ((did_elapse _ stuffByte).still hdid)⟩
      unfold sendCmd CmdAnswer.bytes
      rw [List.append_assoc]
      refine Option.bind_eq_some_iff.mpr ⟨_, hs₁, ?_⟩
      refine (if_neg hready).trans ((if_pos hcmd).trans ?_)
      rw [List.append_assoc, List.append_assoc]
      exact hs'
    · rw [if_neg hcmd] at hstuff
      obtain rfl := List.length_eq_zero_iff.mp hstuff
      obtain ⟨s', hs', hdid⟩ :=
        cmdResponse_answer hwaiting hlast (spiTxBuffer (frame cmd arg) s₁) rest
      refine ⟨s', ?_, hdid₂.still hdid⟩
      unfold sendCmd CmdAnswer.bytes
      rw [List.append_assoc]
      refine Option.bind_eq_some_iff.mpr ⟨_, hs₁, ?_⟩
      refine (if_neg hready).trans ((if_neg hcmd).trans ?_)
      rw [List.nil_append, List.append_assoc]
      exact hs'

/-! ## What was received is an answer -/

theorem readyWait_cases {s s' : Sd} {res : UInt8} {rx rest : List Rx}
    (h : readyWait s rx = some (res, s', rest)) :
    ∃ a : ReadyAnswer, rx = a.bytes ++ rest ∧ res = a.last.byte := by
  obtain ⟨⟨last, s₁, rest⟩, hpoll, heq⟩ := Option.bind_eq_some_iff.mp h
  cases heq
  obtain ⟨busy, rfl, hwaits, hends⟩ := poll_polls hpoll
  have hwait (l m : List Rx) (r : Rx) (hl : busy = l ++ r :: m) : r.byte ≠ 0xFF ∧ ticksOf l + r.ticks < 500 := by
    have hagain := of_decide_eq_true (hwaits l r m hl)
    rw [(elapse_timers _ l r).2] at hagain
    exact ⟨hagain.1, Nat.lt_of_sub_ne_zero hagain.2⟩
  have htime : ticksOf busy < 500 := by
    rcases List.eq_nil_or_concat busy with rfl | ⟨l, r, rfl⟩
    · exact Nat.zero_lt_succ _
    · rw [List.concat_eq_append] at hwait ⊢
      rw [ticksOf_append, ticksOf_singleton]
      exact (hwait l [] r rfl).2
  have hlast : last.byte = 0xFF ∨ 500 ≤ ticksOf busy + last.ticks := by
    have hno := of_decide_eq_false hends
    rw [(elapse_timers _ busy last).2, not_and_or, not_not, not_not] at hno
    exact hno.imp_right Nat.le_of_sub_eq_zero
  refine ⟨⟨busy, last, fun r hr => ?_, htime, hlast⟩, ?_, rfl⟩
  · obtain ⟨l, m, hl⟩ := List.append_of_mem hr
    exact (hwait l m r hl).1
  · simp [ReadyAnswer.bytes]

theorem cmdResponse_cases {n : Nat} {s s' : Sd} {res : UInt8} {rx rest : List Rx}
    (h : cmdResponse n s rx = some (res, s', rest)) : ∃ waiting last,
    rx = waiting ++ last :: rest ∧ res = last.byte ∧ (∀ r ∈ waiting, r.byte &&& 0x80 ≠ 0) ∧
      (last.byte &&& 0x80 = 0 ∧ waiting.length ≤ n ∨ waiting.length = n) := by
  induction n generalizing s rx with
  | zero =>
    cases rx with
    | nil => cases h
    | cons r rx => cases h; exact ⟨[], r, rfl, rfl, List.forall_mem_nil _, Or.inr rfl⟩
  | succ n ih =>
    cases rx with
    | nil => cases h
    | cons r rx =>
      by_cases hset : r.byte &&& 0x80 ≠ 0
      · obtain ⟨waiting, last, rfl, hres, hwaiting, hlast⟩ := ih ((if_pos hset).symm.trans h)
        refine ⟨r :: waiting, last, rfl, hres, List.forall_mem_cons.mpr ⟨hset, hwaiting⟩, ?_⟩
        simpa using hlast
      · cases (if_neg hset).symm.trans h
        exact ⟨[], r, rfl, rfl, List.forall_mem_nil _, Or.inl ⟨not_not.mp hset, Nat.zero_le _⟩⟩

/-- **A command that returned** took an answer. -/
theorem sendCmd_cases {cmd : UInt8} {arg : UInt32} {s s' : Sd} {res : UInt8} {rx rest : List Rx}
    (h : sendCmd cmd arg s rx = some (res, s', rest)) :
    ∃ a : CmdAnswer cmd, rx = a.bytes ++ rest ∧ res = a.res ∧ Did s s' (a.sent arg) := by
  suffices hsplit : ∃ a : CmdAnswer cmd, rx = a.bytes ++ rest by
    obtain ⟨a, rfl⟩ := hsplit
    obtain ⟨s'', hs'', hdid⟩ := sendCmd_answer a arg s rest
    cases hs''.symm.trans h
    exact ⟨a, rfl, rfl, hdid⟩
  obtain ⟨⟨ready, s₁, mid⟩, hready, heq⟩ := Option.bind_eq_some_iff.mp h
  obtain ⟨a, rfl, rfl⟩ := readyWait_cases hready
  by_cases hff : a.last.byte = 0xFF
  · replace heq := (if_neg (not_not.mpr hff)).symm.trans heq
    by_cases hcmd : cmd = cmd12
    · obtain ⟨⟨_, s₂, after⟩, hstuff, hresp⟩ :=
        Option.bind_eq_some_iff.mp ((if_pos hcmd).symm.trans heq)
      obtain ⟨waiting, last, rfl, -, hwaiting, hlast⟩ := cmdResponse_cases hresp
      cases mid with
      | nil => cases hstuff
      | cons r mid =>
        cases hstuff
        refine ⟨.answered a hff [r] waiting last (if_pos hcmd).symm hwaiting hlast, ?_⟩
        simp [CmdAnswer.bytes]
    · obtain ⟨waiting, last, rfl, -, hwaiting, hlast⟩ :=
        cmdResponse_cases ((if_neg hcmd).symm.trans heq)
      refine ⟨.answered a hff [] waiting last (if_neg hcmd).symm hwaiting hlast, ?_⟩
      simp [CmdAnswer.bytes]
  · cases (if_pos hff).symm.trans heq
    exact ⟨.late a hff, rfl⟩

/-! A card that answers at once, a byte a tick. -/

/-- `0xFF` from a ready card. -/
def promptReady : ReadyAnswer where
  busy := []
  last := ⟨0xFF, 1⟩
  hbusy := List.forall_mem_nil _
  htime := by decide
  hlast := Or.inl rfl

theorem promptReady_ready : promptReady.Ready := rfl

/-- The response `0`, at once. -/
def promptCmd (cmd : UInt8) (hcmd : cmd ≠ cmd12) : CmdAnswer cmd :=
  .answered promptReady promptReady_ready [] [] ⟨0, 1⟩ (if_neg hcmd).symm (List.forall_mem_nil _)
    (Or.inl ⟨rfl, Nat.zero_le 9⟩)

theorem promptCmd_res (cmd : UInt8) (hcmd : cmd ≠ cmd12) : (promptCmd cmd hcmd).res = 0 := rfl

/-- A card of type `CT_SD2`, initialised and not protected. -/
def sd2 : Sd where
  timer1 := 0
  timer2 := 0
  stat := 0
  cardType := ctSd2
  powerFlag := 1
  trace := []
  stores := []

end GenLogger.SdCard
