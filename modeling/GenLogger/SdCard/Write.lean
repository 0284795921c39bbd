import GenLogger.SdCard.Protocol

/-!
# Writing sectors

`WriteAnswer` is everything a card may answer to a write: it refuses the command, or takes it and
acknowledges or refuses the blocks one after the other. `SD_TxDataBlock` reads up to 65 bytes for the
data response, and waits for the card as long as it sends zeros.

After several blocks the stop token is sent by the same function, which then tests a response it has
not read: the result is what the stack held.

* `BlockAnswer` and `BlocksAnswer` are the answers to one block and to several, with `bytes`, what is
  received, and `sent`, what goes to the card.
* `WriteAnswer.Acknowledged` is the truth about a write, as the card sees it.

Results:
* `txDataBlock_answer`, `txDataBlock_stop`: a block and the stop token.
* `diskWrite_answer`: a write returns `RES_OK` exactly when the card acknowledged it and, for several
  blocks, the variable happened to hold an acknowledgement.
* `writes_truthfully_iff`: so the result is the truth whatever the variable holds exactly for one
  block, or where the write failed anyway.
-/

namespace GenLogger.SdCard

open GenLogger.Lib

/-! ## A block -/

/-- A card that is not ready; or two bytes in place of the CRC, up to 65 bytes for the data response,
and zeros while the card is busy. -/
inductive BlockAnswer where
  | late (ready : ReadyAnswer) (h : ¬ ready.Ready)
  | answered (ready : ReadyAnswer) (h : ready.Ready) (crc₁ crc₂ : Rx) (waiting : List Rx) (resp : Rx)
      (hwaiting : ∀ r ∈ waiting, r.byte &&& 0x1F ≠ 0x05)
      (hresp : resp.byte &&& 0x1F = 0x05 ∧ waiting.length ≤ 64 ∨ waiting.length = 64)
      (busy : List Rx) (hbusy : ∀ r ∈ busy, r.byte = 0) (done : Rx) (hdone : done.byte ≠ 0)

namespace BlockAnswer

/-- What is received while a block is sent. -/
def bytes : BlockAnswer → List Rx
  | late ready _ => ready.bytes
  | answered ready _ crc₁ crc₂ waiting resp _ _ busy _ done _ =>
    ready.bytes ++ (crc₁ :: crc₂ :: (waiting ++ resp :: (busy ++ [done])))

/-- One of the bytes for the data response is `xxx00101`. -/
def Acked : BlockAnswer → Prop
  | late _ _ => False
  | answered _ _ _ _ waiting resp _ _ _ _ _ _ => ∃ r ∈ waiting ++ [resp], r.byte &&& 0x1F = 0x05

/-- What is sent: the token and the block, to a card that is ready. -/
def sent (token : UInt8) (buff : List UInt8) : BlockAnswer → List BusEvent
  | late _ _ => []
  | answered _ _ _ _ _ _ _ _ _ _ _ _ => (token :: buff.take 512).map .tx

end BlockAnswer

theorem dataResponse_answer {n : Nat} {waiting : List Rx} {resp : Rx}
    (hwaiting : ∀ r ∈ waiting, r.byte &&& 0x1F ≠ 0x05)
    (hresp : resp.byte &&& 0x1F = 0x05 ∧ waiting.length ≤ n ∨ waiting.length = n) (s : Sd)
    (rest : List Rx) : ∃ s',
    dataResponse n s (waiting ++ resp :: rest) = some (resp.byte, s', rest) ∧ Did s s' [] := by
  induction waiting generalizing n s with
  | nil =>
    refine ⟨elapse s resp, ?_, did_elapse s resp⟩
    cases n with
    | zero => rfl
    | succ n =>
      have hacked : resp.byte &&& 0x1F = 0x05 := by
        rcases hresp with ⟨h, -⟩ | h
        · exact h
        · simp at h
      simp [dataResponse, spiRxByte, hacked]
  | cons r waiting ih =>
    have hno := hwaiting r List.mem_cons_self
    cases n with
    | zero => simp at hresp
    | succ n =>
      obtain ⟨s', hs', hdid⟩ := ih (n := n) (fun x hx => hwaiting x (List.mem_cons_of_mem _ hx))
        (by simpa using hresp) (elapse s r)
      refine ⟨s', ?_, (did_elapse s r).trans hdid⟩
      simp [dataResponse, spiRxByte, hno, hs']

/-- The card stops being busy. -/
theorem busy_answer {busy : List Rx} {done : Rx} (hbusy : ∀ r ∈ busy, r.byte = 0)
    (hdone : done.byte ≠ 0) (s : Sd) (rest : List Rx) : ∃ s',
    poll elapse (fun _ r => decide (r.byte = 0)) s (busy ++ done :: rest) = some (done, s', rest) ∧
      Did s s' [] := by
  have hpolls : Polls elapse (fun _ r => decide (r.byte = 0)) s busy done := by
    constructor
    · intro l r m hl
      exact decide_eq_true (hbusy r (by rw [hl]; simp))
    · exact decide_eq_false hdone
  exact ⟨_, poll_answer hpolls rest, (did_elapses s busy).trans (did_elapse _ done)⟩

/-- **A block** takes its answer and no more, and is acknowledged or not. -/
theorem txDataBlock_answer (a : BlockAnswer) (resp : UInt8) (buff : List UInt8) (token : UInt8)
    (htoken : token ≠ 0xFD) (s : Sd) (rest : List Rx) : ∃ ok s',
    txDataBlock resp buff token s (a.bytes ++ rest) = some (ok, s', rest) ∧
      (ok = true ↔ a.Acked) ∧ Did s s' (a.sent token buff) := by
  cases a with
  | late ready h =>
    obtain ⟨s', hs', hdid⟩ := readyWait_answer ready s rest
    refine ⟨false, s', ?_, by simp [BlockAnswer.Acked], hdid⟩
    unfold txDataBlock
    refine Option.bind_eq_some_iff.mpr ⟨_, hs', ?_⟩
    exact if_pos h
  | answered ready h crc₁ crc₂ waiting last hwaiting hresp busy hbusy done hdone =>
    obtain ⟨s₁, hs₁, hdid₁⟩ := readyWait_answer ready s
      (crc₁ :: crc₂ :: (waiting ++ last :: (busy ++ done :: rest)))
    let s₂ := elapse (elapse (spiTxBuffer (buff.take 512) (spiTxByte token s₁)) crc₁) crc₂
    have hsent : Did s s₂ ((token :: buff.take 512).map .tx) :=
      ((hdid₁.trans ((did_tx [token] s₁).trans (did_tx _ _))).still (did_elapse _ crc₁)).still
        (did_elapse _ crc₂)
    obtain ⟨s₃, hs₃, hdid₃⟩ := dataResponse_answer hwaiting hresp s₂ (busy ++ done :: rest)
    obtain ⟨s₄, hs₄, hdid₄⟩ := busy_answer hbusy hdone s₃ rest
    refine ⟨decide (last.byte &&& 0x1F = 0x05), s₄, ?_, ?_, (hsent.still hdid₃).still hdid₄⟩
    · unfold txDataBlock BlockAnswer.bytes
      simp only [List.append_assoc, List.cons_append, List.nil_append]
      refine Option.bind_eq_some_iff.mpr ⟨_, hs₁, ?_⟩
      refine (if_neg (not_not.mpr h)).trans ((if_pos htoken).trans ?_)
      refine Option.bind_eq_some_iff.mpr ⟨_, rfl, Option.bind_eq_some_iff.mpr ⟨_, rfl, ?_⟩⟩
      exact Option.bind_eq_some_iff.mpr ⟨_, hs₃, Option.bind_eq_some_iff.mpr ⟨_, hs₄, rfl⟩⟩
    · rw [decide_eq_true_eq]
      constructor
      · exact fun hacked => ⟨last, by simp, hacked⟩
      · rintro ⟨r, hr, hacked⟩
        rcases List.mem_append.mp hr with hr | hr
        · exact absurd hacked (hwaiting r hr)
        · rw [← List.mem_singleton.mp hr]
          exact hacked

/-- **The stop token** is sent to a card that is ready, and the result is what `resp` held. -/
theorem txDataBlock_stop (a : ReadyAnswer) (resp : UInt8) (s : Sd) (rest : List Rx) : ∃ ok s',
    txDataBlock resp [] 0xFD s (a.bytes ++ rest) = some (ok, s', rest) ∧
      (ok = true ↔ a.Ready ∧ resp &&& 0x1F = 0x05) ∧
      Did s s' (if a.Ready then [.tx 0xFD] else []) := by
  obtain ⟨s₁, hs₁, hdid⟩ := readyWait_answer a s rest
  unfold txDataBlock
  by_cases h : a.Ready
  · refine ⟨decide (resp &&& 0x1F = 0x05), spiTxByte 0xFD s₁, ?_, by simp [h], ?_⟩
    · refine Option.bind_eq_some_iff.mpr ⟨_, hs₁, ?_⟩
      exact (if_neg (not_not.mpr h)).trans (if_neg (not_not.mpr rfl))
    · rw [if_pos h]
      exact hdid.trans (did_tx [0xFD] s₁)
  · refine ⟨false, s₁, ?_, by simp [h], by rw [if_neg h]; exact hdid⟩
    exact Option.bind_eq_some_iff.mpr ⟨_, hs₁, if_pos h⟩

/-! ## Several blocks -/

/-- Blocks that are acknowledged, all `count` of them or up to one that is refused. -/
structure BlocksAnswer (count : Nat) where
  acked : List BlockAnswer
  refused : Option BlockAnswer
  hacked : ∀ a ∈ acked, a.Acked
  hrefused : ∀ a, refused = some a → ¬ a.Acked
  hcount : if refused = none then acked.length = count else acked.length < count

namespace BlocksAnswer

variable {count : Nat}

/-- The answers to all blocks that are sent. -/
def blocks (a : BlocksAnswer count) : List BlockAnswer := a.acked ++ a.refused.toList

/-- What is received meanwhile. -/
def bytes (a : BlocksAnswer count) : List Rx := a.blocks.flatMap BlockAnswer.bytes

end BlocksAnswer

/-- The blocks of `buff`, in order. -/
def sentBlocks : List BlockAnswer → List UInt8 → List BusEvent
  | [], _ => []
  | a :: as, buff => a.sent 0xFC buff ++ sentBlocks as (buff.drop 512)

theorem writeBlocks_answer (resp : UInt8) {acked : List BlockAnswer} {refused : Option BlockAnswer}
    (hacked : ∀ a ∈ acked, a.Acked) (hrefused : ∀ a, refused = some a → ¬ a.Acked) {count : Nat}
    (hcount : if refused = none then acked.length = count else acked.length < count)
    (buff : List UInt8) (s : Sd) (rest : List Rx) : ∃ left s',
    writeBlocks resp count buff s
      ((acked ++ refused.toList).flatMap BlockAnswer.bytes ++ rest) = some (left, s', rest) ∧
      (left = 0 ↔ refused = none) ∧ Did s s' (sentBlocks (acked ++ refused.toList) buff) := by
  induction acked generalizing count buff s with
  | nil =>
    cases refused with
    | none =>
      rw [if_pos rfl] at hcount
      subst hcount
      exact ⟨0, s, rfl, by simp, ⟨(List.append_nil _).symm, rfl, rfl, rfl, rfl⟩⟩
    | some a =>
      rw [if_neg (Option.some_ne_none a)] at hcount
      obtain ⟨left, rfl⟩ := Nat.exists_eq_succ_of_ne_zero (Nat.ne_of_gt hcount)
      obtain ⟨ok, s', hs', hok, hdid⟩ :=
        txDataBlock_answer a resp buff 0xFC (by decide) s rest
      have hno : ok = false := Bool.eq_false_iff.mpr (mt hok.mp (hrefused a rfl))
      subst hno
      refine ⟨left + 1, s', ?_, by simp, ?_⟩
      · simp only [List.nil_append, Option.toList_some, List.flatMap_cons, List.flatMap_nil,
          List.append_nil]
        exact Option.bind_eq_some_iff.mpr ⟨_, hs', rfl⟩
      · show Did s s' (a.sent 0xFC buff ++ [])
        rw [List.append_nil]
        exact hdid
  | cons a acked ih =>
    have hcount' : ∃ left, count = left + 1 ∧
        if refused = none then acked.length = left else acked.length < left := by
      rw [List.length_cons] at hcount
      split at hcount
      · rename_i hnone
        exact ⟨acked.length, hcount.symm, (if_pos hnone).mpr rfl⟩
      · rename_i hsome
        exact ⟨count - 1, by omega, (if_neg hsome).mpr (by omega)⟩
    obtain ⟨left, rfl, hleft⟩ := hcount'
    obtain ⟨ok, s₁, hs₁, hok, hdid₁⟩ := txDataBlock_answer a resp buff 0xFC (by decide) s
      ((acked ++ refused.toList).flatMap BlockAnswer.bytes ++ rest)
    have hyes : ok = true := hok.mpr (hacked a List.mem_cons_self)
    subst hyes
    obtain ⟨n, s₂, hs₂, hn, hdid₂⟩ :=
      ih (fun b hb => hacked b (List.mem_cons_of_mem _ hb)) hleft (buff.drop 512) s₁
    refine ⟨n, s₂, ?_, hn, hdid₁.trans hdid₂⟩
    rw [List.cons_append, List.flatMap_cons, List.append_assoc]
    exact Option.bind_eq_some_iff.mpr ⟨_, hs₁, hs₂⟩

/-! ## Writes -/

/-- The answers to the commands that announce the blocks to a card of type `CT_SD1`. -/
abbrev Announced : Type := Option (CmdAnswer cmd55 × CmdAnswer cmd23)

/-- What is received during the two commands. -/
def announcedBytes : Announced → List Rx
  | none => []
  | some (a, b) => a.bytes ++ b.bytes

/-- The two commands on the bus. -/
def announcedSent (count : Nat) : Announced → List BusEvent
  | none => []
  | some (a, b) => a.sent 0 ++ b.sent (UInt32.ofNat count)

/-- What a card may answer to a write of `count` blocks. `sd1` says that it is of type `CT_SD1`. -/
inductive WriteAnswer (sd1 : Bool) (count : Nat) where
  | refusedOne (hcount : count = 1) (command : CmdAnswer cmd24) (hres : command.res ≠ 0) (idle : Rx)
  | one (hcount : count = 1) (command : CmdAnswer cmd24) (hres : command.res = 0)
      (block : BlockAnswer) (idle : Rx)
  | refusedMany (hcount : 1 < count) (announced : Announced) (hsd1 : announced.isSome = sd1)
      (command : CmdAnswer cmd25) (hres : command.res ≠ 0) (idle : Rx)
  | many (hcount : 1 < count) (announced : Announced) (hsd1 : announced.isSome = sd1)
      (command : CmdAnswer cmd25) (hres : command.res = 0) (blocks : BlocksAnswer count)
      (stop : ReadyAnswer) (idle : Rx)

namespace WriteAnswer

variable {sd1 : Bool} {count : Nat}

/-- What is received during the whole write. -/
def bytes : WriteAnswer sd1 count → List Rx
  | refusedOne _ command _ idle => command.bytes ++ [idle]
  | one _ command _ block idle => command.bytes ++ (block.bytes ++ [idle])
  | refusedMany _ announced _ command _ idle => announcedBytes announced ++ (command.bytes ++ [idle])
  | many _ announced _ command _ blocks stop idle =>
    announcedBytes announced ++ (command.bytes ++ (blocks.bytes ++ (stop.bytes ++ [idle])))

/-- The command was accepted, every block acknowledged, and the stop token sent to a card that was
ready. -/
def Acknowledged : WriteAnswer sd1 count → Prop
  | refusedOne _ _ _ _ => False
  | one _ _ _ block _ => block.Acked
  | refusedMany _ _ _ _ _ _ => False
  | many _ _ _ _ _ blocks stop _ => blocks.refused = none ∧ stop.Ready

/-- What is sent between `SELECT` and `DESELECT`. -/
def sent (buff : List UInt8) (arg : UInt32) : WriteAnswer sd1 count → List BusEvent
  | refusedOne _ command _ _ => command.sent arg
  | one _ command _ block _ => command.sent arg ++ block.sent 0xFE buff
  | refusedMany _ announced _ command _ _ => announcedSent count announced ++ command.sent arg
  | many _ announced _ command _ blocks stop _ => announcedSent count announced ++
    (command.sent arg ++ (sentBlocks blocks.blocks buff ++ if stop.Ready then [.tx 0xFD] else []))

theorem count_pos (a : WriteAnswer sd1 count) : 0 < count := by
  cases a <;> omega

end WriteAnswer

/-- The card is of type `CT_SD1`. -/
def isSd1 (s : Sd) : Bool := s.cardType &&& ctSd1 ≠ 0

theorem announce_answer (announced : Announced) (count : Nat) {s : Sd}
    (hsd1 : announced.isSome = isSd1 s) (rest : List Rx) : ∃ s',
    announce count s (announcedBytes announced ++ rest) = some ((), s', rest) ∧
      Did s s' (announcedSent count announced) := by
  unfold announce
  cases announced with
  | none =>
    have hno : ¬ s.cardType &&& ctSd1 ≠ 0 := by simpa [isSd1] using hsd1
    exact ⟨s, if_neg hno, (List.append_nil _).symm, rfl, rfl, rfl, rfl⟩
  | some ab =>
    obtain ⟨a, b⟩ := ab
    have hyes : s.cardType &&& ctSd1 ≠ 0 := by simpa [isSd1] using hsd1
    obtain ⟨s₁, hs₁, hdid₁⟩ := sendCmd_answer a 0 s (b.bytes ++ rest)
    obtain ⟨s₂, hs₂, hdid₂⟩ := sendCmd_answer b (UInt32.ofNat count) s₁ rest
    refine ⟨s₂, (if_pos hyes).trans ?_, hdid₁.trans hdid₂⟩
    unfold announcedBytes
    rw [List.append_assoc]
    exact Option.bind_eq_some_iff.mpr ⟨_, hs₁, Option.bind_eq_some_iff.mpr ⟨_, hs₂, rfl⟩⟩

theorem finish_answer (count : Nat) (s : Sd) (idle : Rx) (rest : List Rx) : ∃ s',
    finish count s (idle :: rest) = some (if count = 0 then .ok else .error, s', rest) ∧
      Did s s' [.csWrite 1] :=
  ⟨elapse (deselect s) idle, rfl, rfl, rfl, rfl, rfl, rfl⟩

/-- No block is left over where all were acknowledged and the stop token's result is `TRUE`. -/
theorem left_eq_zero_iff {ok : Bool} {left count : Nat} {sent ready acked : Prop}
    (hleft : left = 0 ↔ sent) (hok : ok = true ↔ ready ∧ acked) (hmany : count ≠ 1) :
    (if ok then left else 1) = 0 ↔ (sent ∧ ready) ∧ (count = 1 ∨ acked) := by
  rw [or_iff_right hmany, and_assoc, ← hok, ← hleft]
  cases ok <;> simp

/-- **The transfer** takes its answer up to the last byte, and leaves no block over exactly where the
card acknowledged the write and, for several blocks, `resp` held an acknowledgement. -/
theorem writeSectors_answer {s : Sd} {count : Nat} (a : WriteAnswer (isSd1 s) count) (resp : UInt8)
    (buff : List UInt8) (sector : UInt32) (rest : List Rx) : ∃ left s' idle,
    writeSectors resp buff sector count s (a.bytes ++ rest) = some (left, s', idle :: rest) ∧
      (left = 0 ↔ a.Acknowledged ∧ (count = 1 ∨ resp &&& 0x1F = 0x05)) ∧
      Did s s' (a.sent buff sector) := by
  unfold writeSectors
  cases a with
  | refusedOne hcount command hres idle =>
    obtain ⟨s₁, hs₁, hdid₁⟩ := sendCmd_answer command sector s (idle :: rest)
    refine ⟨count, s₁, idle, (if_pos hcount).trans ?_, by simp [WriteAnswer.Acknowledged, hcount],
      hdid₁⟩
    unfold WriteAnswer.bytes
    rw [List.append_assoc]
    exact Option.bind_eq_some_iff.mpr ⟨_, hs₁, if_neg hres⟩
  | one hcount command hres block idle =>
    obtain ⟨s₁, hs₁, hdid₁⟩ := sendCmd_answer command sector s (block.bytes ++ idle :: rest)
    obtain ⟨ok, s₂, hs₂, hok, hdid₂⟩ :=
      txDataBlock_answer block resp buff 0xFE (by decide) s₁ (idle :: rest)
    refine ⟨if ok then 0 else count, s₂, idle, (if_pos hcount).trans ?_, ?_, hdid₁.trans hdid₂⟩
    · unfold WriteAnswer.bytes
      rw [List.append_assoc, List.append_assoc]
      exact Option.bind_eq_some_iff.mpr ⟨_, hs₁, (if_pos hres).trans
        (Option.bind_eq_some_iff.mpr ⟨_, hs₂, rfl⟩)⟩
    · show _ ↔ block.Acked ∧ _
      rw [← hok]
      cases ok <;> simp [hcount]
  | refusedMany hcount announced hsd1 command hres idle =>
    obtain ⟨s₁, hs₁, hdid₁⟩ := announce_answer announced count hsd1 (command.bytes ++ idle :: rest)
    obtain ⟨s₂, hs₂, hdid₂⟩ := sendCmd_answer command sector s₁ (idle :: rest)
    refine ⟨count, s₂, idle, (if_neg (by omega)).trans ?_, ?_, hdid₁.trans hdid₂⟩
    · unfold WriteAnswer.bytes
      rw [List.append_assoc, List.append_assoc]
      exact Option.bind_eq_some_iff.mpr ⟨_, hs₁, Option.bind_eq_some_iff.mpr ⟨_, hs₂, if_neg hres⟩⟩
    · simp only [WriteAnswer.Acknowledged, false_and, iff_false]
      omega
  | many hcount announced hsd1 command hres blocks stop idle =>
    obtain ⟨s₁, hs₁, hdid₁⟩ := announce_answer announced count hsd1
      (command.bytes ++ (blocks.bytes ++ (stop.bytes ++ idle :: rest)))
    obtain ⟨s₂, hs₂, hdid₂⟩ :=
      sendCmd_answer command sector s₁ (blocks.bytes ++ (stop.bytes ++ idle :: rest))
    obtain ⟨left, s₃, hs₃, hleft, hdid₃⟩ := writeBlocks_answer resp blocks.hacked blocks.hrefused
      blocks.hcount buff s₂ (stop.bytes ++ idle :: rest)
    obtain ⟨ok, s₄, hs₄, hok, hdid₄⟩ := txDataBlock_stop stop resp s₃ (idle :: rest)
    refine ⟨if ok then left else 1, s₄, idle, (if_neg (by omega)).trans ?_, ?_,
      hdid₁.trans (hdid₂.trans (hdid₃.trans hdid₄))⟩
    · unfold WriteAnswer.bytes
      simp only [List.append_assoc, List.cons_append, List.nil_append]
      exact Option.bind_eq_some_iff.mpr ⟨_, hs₁, Option.bind_eq_some_iff.mpr ⟨_, hs₂,
        (if_pos hres).trans (Option.bind_eq_some_iff.mpr ⟨_, hs₃,
          Option.bind_eq_some_iff.mpr ⟨_, hs₄, rfl⟩⟩)⟩⟩
    · exact left_eq_zero_iff hleft hok (Nat.ne_of_gt hcount)

/-- **A write of a card that is there** takes its answer and no more, sends the command and the blocks,
and returns `RES_OK` exactly where they were acknowledged and, for several blocks, `resp` held an
acknowledgement. -/
theorem diskWrite_answer {s : Sd} {count : Nat} (a : WriteAnswer (isSd1 s) count)
    (hinit : s.stat &&& staNoinit = 0) (hprotect : s.stat &&& staProtect = 0) (resp : UInt8)
    (buff : List UInt8) (sector : UInt32) (rest : List Rx) : ∃ res s',
    diskWrite resp 0 buff sector count s (a.bytes ++ rest) = some (res, s', rest) ∧
      Did s s' (.csWrite 0 :: (a.sent buff (address sector s) ++ [.csWrite 1])) ∧
      (res = .ok ↔ a.Acknowledged ∧ (count = 1 ∨ resp &&& 0x1F = 0x05)) := by
  have hcount : ¬ ((0 : UInt8) ≠ 0 ∨ count = 0) := by
    have hpos := a.count_pos
    simp only [ne_eq, not_true_eq_false, false_or]
    omega
  have hselect : Did s (select s) [.csWrite 0] := ⟨rfl, rfl, rfl, rfl, rfl⟩
  obtain ⟨left, s₁, idle, hs₁, hleft, hdid₁⟩ :=
    writeSectors_answer (s := select s) a resp buff (address sector s) rest
  obtain ⟨s₂, hs₂, hdid₂⟩ := finish_answer left s₁ idle rest
  refine ⟨if left = 0 then .ok else .error, s₂, ?_, hselect.trans (hdid₁.trans hdid₂), ?_⟩
  · unfold diskWrite
    refine (if_neg hcount).trans ((if_neg (not_not.mpr hinit)).trans
      ((if_neg (not_not.mpr hprotect)).trans ?_))
    exact Option.bind_eq_some_iff.mpr ⟨_, hs₁, hs₂⟩
  · refine Iff.trans ?_ hleft
    by_cases hzero : left = 0 <;> simp [hzero]

/-! ## The truth of the result -/

/-- A card that answers `a` gets the blocks of `buff`, and `SD_disk_write` returns `RES_OK` exactly
where it acknowledged them, whatever `resp` holds. -/
def WritesTruthfully (s : Sd) (sector : UInt32) (buff : List UInt8) {count : Nat}
    (a : WriteAnswer (isSd1 s) count) (rest : List Rx) : Prop :=
  ∀ resp, ∃ res s',
    diskWrite resp 0 buff sector count s (a.bytes ++ rest) = some (res, s', rest) ∧
      Did s s' (.csWrite 0 :: (a.sent buff (address sector s) ++ [.csWrite 1])) ∧
      (res = .ok ↔ a.Acknowledged)

/-- Several blocks that are acknowledged are not reported as such when the variable holds a zero. -/
theorem one_of_writesTruthfully {s : Sd} {count : Nat} {a : WriteAnswer (isSd1 s) count}
    (hinit : s.stat &&& staNoinit = 0) (hprotect : s.stat &&& staProtect = 0) {sector : UInt32}
    {buff : List UInt8} {rest : List Rx} (h : WritesTruthfully s sector buff a rest)
    (hacked : a.Acknowledged) : count = 1 := by
  obtain ⟨res, s', hrun, -, hok⟩ := h 0
  obtain ⟨res', s'', hrun', -, hok'⟩ := diskWrite_answer a hinit hprotect 0 buff sector rest
  have hsame : res = res' := by
    rw [hrun] at hrun'
    exact congrArg Prod.fst (Option.some.inj hrun')
  obtain ⟨-, hresp⟩ := hok'.mp (hsame ▸ hok.mpr hacked)
  exact hresp.resolve_right (by decide)

/-- **A write is reported truthfully** exactly for one block, or where the card did not acknowledge it:
after several blocks it acknowledged, the test of the stop token's result reads what it was never
given. -/
theorem writes_truthfully_iff {s : Sd} {count : Nat} (a : WriteAnswer (isSd1 s) count)
    (hinit : s.stat &&& staNoinit = 0) (hprotect : s.stat &&& staProtect = 0) (sector : UInt32)
    (buff : List UInt8) (rest : List Rx) :
    WritesTruthfully s sector buff a rest ↔ count = 1 ∨ ¬ a.Acknowledged := by
  constructor
  · intro h
    by_cases hacked : a.Acknowledged
    · exact Or.inl (one_of_writesTruthfully hinit hprotect h hacked)
    · exact Or.inr hacked
  · intro h resp
    obtain ⟨res, s', hrun, hdid, hok⟩ := diskWrite_answer a hinit hprotect resp buff sector rest
    refine ⟨res, s', hrun, hdid, hok.trans ?_⟩
    rcases h with hone | hno
    · exact and_iff_left (Or.inl hone)
    · exact iff_of_false (fun hyes => hno hyes.1) hno

/-- The data response `0x05`, at once. -/
def promptBlock : BlockAnswer :=
  .answered promptReady promptReady_ready ⟨0xFF, 1⟩ ⟨0xFF, 1⟩ [] ⟨0x05, 1⟩ (List.forall_mem_nil _)
    (Or.inl ⟨rfl, Nat.zero_le 64⟩) [] (List.forall_mem_nil _) ⟨0xFF, 1⟩ (by decide)

theorem promptBlock_acked : promptBlock.Acked := ⟨⟨0x05, 1⟩, by simp, rfl⟩

/-- A card that takes one block at once. -/
def promptOne : WriteAnswer (isSd1 sd2) 1 :=
  .one rfl (promptCmd cmd24 (by decide)) (promptCmd_res _ _) promptBlock ⟨0xFF, 1⟩

/-- A card that takes two. -/
def promptTwo : WriteAnswer (isSd1 sd2) 2 :=
  .many (by decide) none rfl (promptCmd cmd25 (by decide)) (promptCmd_res _ _)
    { acked := [promptBlock, promptBlock]
      refused := none
      hacked := List.forall_mem_cons.mpr ⟨promptBlock_acked,
        List.forall_mem_cons.mpr ⟨promptBlock_acked, List.forall_mem_nil _⟩⟩
      hrefused := nofun
      hcount := rfl }
    promptReady ⟨0xFF, 1⟩

theorem writes_truthfully_iff_one :
    WritesTruthfully sd2 7 (List.replicate 512 0x41) promptOne [] ↔
      1 = 1 ∨ ¬ promptOne.Acknowledged :=
  writes_truthfully_iff promptOne rfl rfl 7 (List.replicate 512 0x41) []

/-- Two blocks that are acknowledged, and a variable that holds a zero. -/
theorem not_writesTruthfully_two :
    ¬ WritesTruthfully sd2 7 (List.replicate 1024 0x41) promptTwo [] := by
  intro h
  have hacked : promptTwo.Acknowledged := ⟨rfl, rfl⟩
  have hone : 2 = 1 := one_of_writesTruthfully rfl rfl h hacked
  exact absurd hone (by decide)

end GenLogger.SdCard
