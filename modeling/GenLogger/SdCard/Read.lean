import GenLogger.Lib.Stores
import GenLogger.SdCard.Protocol

/-!
# Reading sectors

`ReadAnswer` is what a card answers to a read it accepts: the response `0`, and each block as idle
bytes for less than 200 ms, a token, 512 bytes and two more for the CRC. The loop of `SD_RxDataBlock`
tests its `len` before it counts it down, so it stores 513 bytes of each block and takes one more than
the card sends for it.

* `ReadsExactly` is what the caller may expect: `RES_OK`, the card's answer taken and no more, the
  data in place and nothing stored elsewhere.
* `StoresAt` is that something was stored at a place, which later stores do not undo.

Results:
* `receive_stores`, `readBlocks_stores`: the loop leaves a byte behind what it was asked for.
* `diskRead_overruns`: so does every read that returns `RES_OK`, whatever the card.
* `not_readsExactly`: no read returns exactly the card's data.
* `diskRead_padded`: where a further byte follows each block, `RES_OK` is returned with all the data
  in place, and the last block's first CRC byte behind it.
-/

namespace GenLogger.SdCard

open GenLogger.Lib

/-! ## Answers -/

/-- A block that is sent in time. -/
structure DataAnswer where
  idle : List Rx
  token : Rx
  data : List Rx
  crc₁ : Rx
  crc₂ : Rx
  hidle : ∀ r ∈ idle, r.byte = 0xFF
  htime : ticksOf idle < 200
  htoken : token.byte = 0xFE
  hdata : data.length = 512

/-- What is received of a block. -/
def DataAnswer.bytes (a : DataAnswer) : List Rx :=
  a.idle ++ a.token :: (a.data ++ [a.crc₁, a.crc₂])

/-- What a card answers to a read of `count` blocks. -/
inductive ReadAnswer (count : Nat) where
  | one (hcount : count = 1) (command : CmdAnswer cmd17) (hres : command.res = 0)
      (block : DataAnswer) (idle : Rx)
  | many (hcount : 1 < count) (command : CmdAnswer cmd18) (hres : command.res = 0)
      (blocks : List DataAnswer) (hblocks : blocks.length = count) (stop : CmdAnswer cmd12)
      (hstop : stop.res &&& 0x80 = 0) (idle : Rx)

namespace ReadAnswer

variable {count : Nat}

/-- The blocks that were asked for. -/
def blocks : ReadAnswer count → List DataAnswer
  | one _ _ _ block _ => [block]
  | many _ _ _ blocks _ _ _ _ => blocks

/-- What is received during the whole read. -/
def bytes : ReadAnswer count → List Rx
  | one _ command _ block idle => command.bytes ++ (block.bytes ++ [idle])
  | many _ command _ blocks _ stop _ idle =>
    command.bytes ++ (blocks.flatMap DataAnswer.bytes ++ (stop.bytes ++ [idle]))

theorem length_blocks (a : ReadAnswer count) : a.blocks.length = count := by
  cases a with
  | one hcount => exact hcount.symm
  | many _ _ _ _ hblocks => exact hblocks

theorem count_pos (a : ReadAnswer count) : 0 < count := by
  cases a <;> omega

end ReadAnswer

/-- `SD_disk_read` returns `RES_OK`, takes the card's answer and no more, leaves the `j`-th byte of
block `k` at `512 * k + j`, and stores nothing else behind `buff`. -/
def ReadsExactly (s : Sd) (sector : UInt32) {count : Nat} (a : ReadAnswer count) (rest : List Rx) :
    Prop :=
  ∃ s' stores, diskRead 0 sector count s (a.bytes ++ rest) = some (.ok, s', rest) ∧
    s'.stores = s.stores ++ stores ∧
    (∀ (before : Nat → UInt8) (k : Nat) (block : DataAnswer) (j : Nat) (r : Rx),
      a.blocks[k]? = some block → block.data[j]? = some r →
        applyStores before stores (512 * k + j) = r.byte) ∧
    ∀ st ∈ stores, st.1 < 512 * count

/-! ## What a read stores -/

/-- From `s` to `s'` something was stored at `i`. -/
def StoresAt (i : Nat) (s s' : Sd) : Prop :=
  ∃ stores, s'.stores = s.stores ++ stores ∧ ∃ st ∈ stores, st.1 = i

theorem StoresAt.of_eq {i : Nat} {s₁ s₂ s₃ : Sd} (h : StoresAt i s₁ s₂)
    (heq : s₃.stores = s₂.stores) : StoresAt i s₁ s₃ := by
  obtain ⟨stores, hs, hat⟩ := h
  exact ⟨stores, heq.trans hs, hat⟩

theorem StoresAt.after {i : Nat} {s₁ s₂ s₃ : Sd} {l : List (Nat × UInt8)}
    (hl : s₂.stores = s₁.stores ++ l) (h : StoresAt i s₂ s₃) : StoresAt i s₁ s₃ := by
  obtain ⟨stores, hs, st, hst, hat⟩ := h
  exact ⟨l ++ stores, by rw [hs, hl, List.append_assoc], st, List.mem_append_right l hst, hat⟩

theorem spiRxByte_stores {s s' : Sd} {rx rx' : List Rx} {res : UInt8}
    (h : spiRxByte s rx = some (res, s', rx')) : s'.stores = s.stores := by
  cases rx with
  | nil => cases h
  | cons r rx =>
    cases h
    rfl

theorem poll_stores {again : Sd → Rx → Bool} {s s' : Sd} {rx rx' : List Rx} {last : Rx}
    (h : poll elapse again s rx = some (last, s', rx')) : s'.stores = s.stores := by
  obtain ⟨waiting, -, rfl⟩ := poll_cases h
  exact (did_elapses s waiting).stores

theorem readyWait_stores {s s' : Sd} {rx rx' : List Rx} {res : UInt8}
    (h : readyWait s rx = some (res, s', rx')) : s'.stores = s.stores := by
  obtain ⟨⟨last, s₁, rx₁⟩, hpoll, hres⟩ := Option.bind_eq_some_iff.mp h
  cases hres
  have hsame := poll_stores hpoll
  exact hsame

theorem cmdResponse_stores {n : Nat} {s s' : Sd} {rx rx' : List Rx} {res : UInt8}
    (h : cmdResponse n s rx = some (res, s', rx')) : s'.stores = s.stores := by
  induction n generalizing s rx with
  | zero => exact spiRxByte_stores h
  | succ n ih =>
    obtain ⟨⟨r, s₁, rx₁⟩, hrx, hrest⟩ := Option.bind_eq_some_iff.mp h
    have hsame := spiRxByte_stores hrx
    simp only at hrest
    split at hrest
    · exact (ih hrest).trans hsame
    · cases hrest
      exact hsame

theorem sendCmd_stores {cmd : UInt8} {arg : UInt32} {s s' : Sd} {rx rx' : List Rx} {res : UInt8}
    (h : sendCmd cmd arg s rx = some (res, s', rx')) : s'.stores = s.stores := by
  obtain ⟨⟨ready, s₁, rx₁⟩, hready, hrest⟩ := Option.bind_eq_some_iff.mp h
  have hsame := readyWait_stores hready
  simp only at hrest
  split at hrest
  · cases hrest
    exact hsame
  · split at hrest
    · obtain ⟨⟨stuff, s₂, rx₂⟩, hstuff, hresponse⟩ := Option.bind_eq_some_iff.mp hrest
      have hskip := spiRxByte_stores hstuff
      exact (cmdResponse_stores hresponse).trans (hskip.trans hsame)
    · exact (cmdResponse_stores hrest).trans hsame

/-- The loop stores a byte more than `len`: its last one at `buff + len`. -/
theorem receive_stores {len buff : Nat} {s s' : Sd} {rx rx' : List Rx}
    (h : receive len buff s rx = some ((), s', rx')) : StoresAt (buff + len) s s' := by
  induction len generalizing buff s rx with
  | zero =>
    obtain ⟨⟨data, s₁, rx₁⟩, hrx, hrest⟩ := Option.bind_eq_some_iff.mp h
    cases hrest
    have hstores : (store buff data s₁).stores = s.stores ++ [(buff, data)] :=
      congrArg (· ++ [(buff, data)]) (spiRxByte_stores hrx)
    exact ⟨[(buff, data)], hstores, (buff, data), List.mem_singleton_self _, rfl⟩
  | succ len ih =>
    obtain ⟨⟨data, s₁, rx₁⟩, hrx, hrest⟩ := Option.bind_eq_some_iff.mp h
    have hstores : (store buff data s₁).stores = s.stores ++ [(buff, data)] :=
      congrArg (· ++ [(buff, data)]) (spiRxByte_stores hrx)
    have hat := (ih hrest).after hstores
    rwa [Nat.add_assoc, Nat.add_comm 1 len] at hat

theorem rxDataBlock_stores {buff len : Nat} {s s' : Sd} {rx rx' : List Rx}
    (h : rxDataBlock buff len s rx = some (true, s', rx')) : StoresAt (buff + len) s s' := by
  obtain ⟨⟨token, s₁, rx₁⟩, hpoll, hrest⟩ := Option.bind_eq_some_iff.mp h
  have hsame := poll_stores hpoll
  simp only at hrest
  split at hrest
  · cases hrest
  · obtain ⟨⟨⟨⟩, s₂, rx₂⟩, hreceive, hrest⟩ := Option.bind_eq_some_iff.mp hrest
    obtain ⟨⟨crc₁, s₃, rx₃⟩, hcrc₁, hrest⟩ := Option.bind_eq_some_iff.mp hrest
    obtain ⟨⟨crc₂, s₄, rx₄⟩, hcrc₂, hrest⟩ := Option.bind_eq_some_iff.mp hrest
    cases hrest
    have hat := (receive_stores hreceive).of_eq
      ((spiRxByte_stores hcrc₂).trans (spiRxByte_stores hcrc₁))
    exact hat.after (hsame.trans (List.append_nil _).symm)

/-- Blocks that were all received left a byte behind the last one. -/
theorem readBlocks_stores {count buff : Nat} {s s' : Sd} {rx rx' : List Rx}
    (h : readBlocks (count + 1) buff s rx = some (0, s', rx')) :
    StoresAt (buff + 512 * (count + 1)) s s' := by
  induction count generalizing buff s rx with
  | zero =>
    obtain ⟨⟨received, s₁, rx₁⟩, hblock, hrest⟩ := Option.bind_eq_some_iff.mp h
    cases received with
    | false => cases hrest
    | true =>
      cases hrest
      exact rxDataBlock_stores hblock
  | succ count ih =>
    obtain ⟨⟨received, s₁, rx₁⟩, hblock, hrest⟩ := Option.bind_eq_some_iff.mp h
    cases received with
    | false => cases hrest
    | true =>
      obtain ⟨stores, hstores, -⟩ := rxDataBlock_stores hblock
      have hat := (ih hrest).after hstores
      rwa [show buff + 512 + 512 * (count + 1) = buff + 512 * (count + 1 + 1) by omega] at hat

theorem readSectors_stores {sector : UInt32} {count : Nat} (hcount : count ≠ 0) {s s' : Sd}
    {rx rx' : List Rx} (h : readSectors sector count s rx = some (0, s', rx')) :
    StoresAt (512 * count) s s' := by
  unfold readSectors at h
  split at h
  · rename_i hone
    obtain ⟨⟨res, s₁, rx₁⟩, hcommand, hrest⟩ := Option.bind_eq_some_iff.mp h
    have hstill := sendCmd_stores hcommand
    simp only at hrest
    split at hrest
    · obtain ⟨⟨received, s₂, rx₂⟩, hblock, hleft⟩ := Option.bind_eq_some_iff.mp hrest
      cases received with
      | false =>
        cases hleft
        exact absurd rfl hcount
      | true =>
        cases hleft
        have hat := (rxDataBlock_stores hblock).after (hstill.trans (List.append_nil _).symm)
        rwa [hone, Nat.mul_one, ← Nat.zero_add 512]
    · cases hrest
      exact absurd rfl hcount
  · obtain ⟨⟨res, s₁, rx₁⟩, hcommand, hrest⟩ := Option.bind_eq_some_iff.mp h
    have hstill := sendCmd_stores hcommand
    simp only at hrest
    split at hrest
    · obtain ⟨⟨left, s₂, rx₂⟩, hblocks, hstop⟩ := Option.bind_eq_some_iff.mp hrest
      obtain ⟨⟨res', s₃, rx₃⟩, hcommand', hleft⟩ := Option.bind_eq_some_iff.mp hstop
      cases hleft
      obtain ⟨n, rfl⟩ := Nat.exists_eq_succ_of_ne_zero hcount
      have hat := (readBlocks_stores hblocks).of_eq (sendCmd_stores hcommand')
      rw [Nat.zero_add] at hat
      exact hat.after (hstill.trans (List.append_nil _).symm)
    · cases hrest
      exact absurd rfl hcount

/-- **A read that returns `RES_OK`** stored a byte behind the `512 * count` it was given room for,
whatever the card sent. -/
theorem diskRead_overruns {sector : UInt32} {count : Nat} {s s' : Sd} {rx rx' : List Rx}
    (h : diskRead 0 sector count s rx = some (.ok, s', rx')) : StoresAt (512 * count) s s' := by
  unfold diskRead at h
  split at h
  · cases h
  rename_i hcount
  split at h
  · cases h
  obtain ⟨⟨left, s₁, rx₁⟩, htransfer, hfinish⟩ := Option.bind_eq_some_iff.mp h
  obtain ⟨⟨idle, s₂, rx₂⟩, hidle, hres⟩ := Option.bind_eq_some_iff.mp hfinish
  have hzero : left = 0 := by
    by_contra hne
    simp [hne] at hres
  subst hzero
  cases hres
  have hat := readSectors_stores (fun hnone => hcount (Or.inr hnone)) htransfer
  have hstill := spiRxByte_stores hidle
  obtain ⟨stores, hstores, hlast⟩ := hat.of_eq hstill
  exact ⟨stores, hstores, hlast⟩

/-- One of the bytes stored is behind the buffer. -/
theorem stored_outside {sector : UInt32} {count : Nat} {s s' : Sd} {rx rx' : List Rx}
    {stores : List (Nat × UInt8)} (h : diskRead 0 sector count s rx = some (.ok, s', rx'))
    (hstores : s'.stores = s.stores ++ stores) : ¬ ∀ st ∈ stores, st.1 < 512 * count := by
  intro hinside
  obtain ⟨stores', hstores', st, hst, hat⟩ := diskRead_overruns h
  have hsame : stores' = stores := List.append_cancel_left (hstores'.symm.trans hstores)
  exact absurd hat (Nat.ne_of_lt (hinside st (hsame ▸ hst)))

/-- **No read returns exactly the card's data**: the byte behind the buffer is stored in every one that
returns `RES_OK`. -/
theorem not_readsExactly (s : Sd) (sector : UInt32) {count : Nat} (a : ReadAnswer count)
    (rest : List Rx) : ¬ ReadsExactly s sector a rest := by
  rintro ⟨s', stores, hrun, hstores, -, hinside⟩
  exact stored_outside hrun hstores hinside

/-- A block of zeros, sent at once. -/
def promptData : DataAnswer where
  idle := []
  token := ⟨0xFE, 1⟩
  data := List.replicate 512 ⟨0, 0⟩
  crc₁ := ⟨0xAA, 1⟩
  crc₂ := ⟨0x55, 1⟩
  hidle := List.forall_mem_nil _
  htime := by decide
  htoken := rfl
  hdata := List.length_replicate

theorem not_readsExactly_prompt : ¬ ReadsExactly sd2 7
    (.one rfl (promptCmd cmd17 (by decide)) (promptCmd_res _ _) promptData ⟨0xFF, 1⟩) [] := by
  rintro ⟨s', stores, hrun, hstores, -, hinside⟩
  exact stored_outside hrun hstores hinside

/-! ## A card that sends a byte more after each block -/

/-- The blocks, each with a further byte. -/
def padded : (Nat → Rx) → List DataAnswer → List Rx
  | _, [] => []
  | pad, a :: blocks => a.bytes ++ (pad 0 :: padded (fun k => pad (k + 1)) blocks)

/-- What is stored of the blocks. -/
def storesOfBlocks : Nat → List DataAnswer → List (Nat × UInt8)
  | _, [] => []
  | buff, a :: blocks =>
    storesFrom buff ((a.data ++ [a.crc₁]).map Rx.byte) ++ storesOfBlocks (buff + 512) blocks

theorem mem_storesOfBlocks {buff : Nat} {blocks : List DataAnswer} {st : Nat × UInt8}
    (h : st ∈ storesOfBlocks buff blocks) : buff ≤ st.1 ∧ st.1 ≤ buff + 512 * blocks.length := by
  induction blocks generalizing buff with
  | nil => cases h
  | cons a blocks ih =>
    rw [List.length_cons]
    rcases List.mem_append.mp h with h | h
    · obtain ⟨hle, hlt⟩ := mem_storesFrom h
      rw [List.length_map, List.length_append, a.hdata, List.length_singleton] at hlt
      omega
    · obtain ⟨hle, hlt⟩ := ih h
      omega

/-- The byte behind a block is overwritten by the next one. -/
theorem applyStores_storesOfBlocks (before : Nat → UInt8) (buff : Nat) {k j : Nat}
    {blocks : List DataAnswer} {block : DataAnswer} {r : Rx} (hk : blocks[k]? = some block)
    (hj : block.data[j]? = some r) :
    applyStores before (storesOfBlocks buff blocks) (buff + (512 * k + j)) = r.byte := by
  obtain ⟨hlt, -⟩ := List.getElem?_eq_some_iff.mp hj
  rw [block.hdata] at hlt
  induction blocks generalizing before buff k with
  | nil => cases hk
  | cons a blocks ih =>
    unfold storesOfBlocks
    rw [applyStores_append]
    cases k with
    | zero =>
      obtain rfl : a = block := by simpa using hk
      have hlater : ∀ st ∈ storesOfBlocks (buff + 512) blocks, st.1 ≠ buff + (512 * 0 + j) := by
        intro st hst
        have hle := (mem_storesOfBlocks hst).1
        omega
      have hat : ((a.data ++ [a.crc₁]).map Rx.byte)[j]? = some r.byte := by
        rw [List.getElem?_map, List.getElem?_append_left (a.hdata ▸ hlt), hj]
        rfl
      rw [applyStores_of_forall_ne hlater, Nat.mul_zero, Nat.zero_add]
      exact applyStores_storesFrom hat
    | succ k =>
      have hmove : buff + (512 * (k + 1) + j) = buff + 512 + (512 * k + j) := by omega
      rw [hmove]
      exact ih _ _ (by simpa using hk)

theorem receive_answer {len : Nat} {data : List Rx} (hdata : data.length = len + 1) (buff : Nat)
    (s : Sd) (rest : List Rx) : ∃ s', receive len buff s (data ++ rest) = some ((), s', rest) ∧
      s'.stores = s.stores ++ storesFrom buff (data.map Rx.byte) := by
  induction len generalizing buff data s with
  | zero =>
    obtain ⟨r, rfl⟩ := List.length_eq_one_iff.mp hdata
    exact ⟨_, rfl, rfl⟩
  | succ len ih =>
    obtain ⟨r, data, rfl⟩ := List.exists_cons_of_length_eq_add_one hdata
    have hlen : data.length = len + 1 := by simpa using hdata
    obtain ⟨s', hs', hstores⟩ := ih hlen (buff + 1) (store buff r.byte (elapse s r))
    refine ⟨s', hs', hstores.trans ?_⟩
    exact List.append_assoc s.stores [(buff, r.byte)] _

/-- A block is received as long as a byte more than `len` can be taken. -/
theorem rxDataBlock_received {idle data : List Rx} {token : Rx} {len : Nat}
    (hidle : ∀ r ∈ idle, r.byte = 0xFF) (htime : ticksOf idle < 200) (htoken : token.byte = 0xFE)
    (hdata : data.length = len + 1) (crc₁ crc₂ : Rx) (buff : Nat) (s : Sd) (rest : List Rx) : ∃ s',
    rxDataBlock buff len s (idle ++ token :: (data ++ crc₁ :: crc₂ :: rest)) = some (true, s', rest) ∧
      s'.stores = s.stores ++ storesFrom buff (data.map Rx.byte) := by
  have hpolls : Polls elapse (fun s r => decide (r.byte = 0xFF ∧ s.timer1 ≠ 0)) { s with timer1 := 200 }
      idle token := by
    constructor
    · intro l r m hl
      rw [hl, ticksOf_append] at htime
      have hr : ticksOf (r :: m) = r.ticks + ticksOf m := rfl
      rw [decide_eq_true_eq, (elapse_timers _ l r).1]
      refine ⟨hidle r (by rw [hl]; simp), ?_⟩
      show 200 - _ ≠ 0
      omega
    · rw [decide_eq_false_iff_not, htoken]
      exact fun h => absurd h.1 (by decide)
  have hpoll := poll_answer hpolls (data ++ crc₁ :: crc₂ :: rest)
  let s₁ := elapse (idle.foldl elapse { s with timer1 := 200 }) token
  have hsame : s₁.stores = s.stores := (did_elapses _ idle).stores
  obtain ⟨s₂, hs₂, hstores⟩ := receive_answer hdata buff s₁ (crc₁ :: crc₂ :: rest)
  refine ⟨elapse (elapse s₂ crc₁) crc₂, ?_, hstores.trans (by rw [hsame])⟩
  unfold rxDataBlock
  refine Option.bind_eq_some_iff.mpr ⟨_, hpoll, (if_neg (not_not.mpr htoken)).trans ?_⟩
  exact Option.bind_eq_some_iff.mpr ⟨_, hs₂, rfl⟩

theorem rxDataBlock_answer (a : DataAnswer) (pad : Rx) (buff : Nat) (s : Sd) (rest : List Rx) : ∃ s',
    rxDataBlock buff 512 s (a.bytes ++ pad :: rest) = some (true, s', rest) ∧
      s'.stores = s.stores ++ storesFrom buff ((a.data ++ [a.crc₁]).map Rx.byte) := by
  have hdata : (a.data ++ [a.crc₁]).length = 512 + 1 := by
    rw [List.length_append, a.hdata, List.length_singleton]
  obtain ⟨s', hs', hstores⟩ :=
    rxDataBlock_received a.hidle a.htime a.htoken hdata a.crc₂ pad buff s rest
  refine ⟨s', ?_, hstores⟩
  simpa [DataAnswer.bytes] using hs'

theorem readBlocks_padded (blocks : List DataAnswer) (pad : Nat → Rx) (buff : Nat) (s : Sd)
    (rest : List Rx) : ∃ s',
    readBlocks blocks.length buff s (padded pad blocks ++ rest) = some (0, s', rest) ∧
      s'.stores = s.stores ++ storesOfBlocks buff blocks := by
  induction blocks generalizing pad buff s with
  | nil => exact ⟨s, rfl, (List.append_nil _).symm⟩
  | cons a blocks ih =>
    obtain ⟨s₁, hs₁, hstores₁⟩ := rxDataBlock_answer a (pad 0) buff s
      (padded (fun k => pad (k + 1)) blocks ++ rest)
    obtain ⟨s₂, hs₂, hstores₂⟩ := ih (fun k => pad (k + 1)) (buff + 512) s₁
    refine ⟨s₂, ?_, ?_⟩
    · unfold padded
      rw [List.append_assoc]
      exact Option.bind_eq_some_iff.mpr ⟨_, hs₁, hs₂⟩
    · rw [hstores₂, hstores₁, List.append_assoc]
      rfl

namespace ReadAnswer

variable {count : Nat}

/-- The answer with a further byte after each block. -/
def paddedBytes (pad : Nat → Rx) : ReadAnswer count → List Rx
  | one _ command _ block idle => command.bytes ++ (padded pad [block] ++ [idle])
  | many _ command _ blocks _ stop _ idle =>
    command.bytes ++ (padded pad blocks ++ (stop.bytes ++ [idle]))

end ReadAnswer

theorem readSectors_padded {count : Nat} (a : ReadAnswer count) (pad : Nat → Rx) (sector : UInt32)
    (s : Sd) (rest : List Rx) : ∃ s' idle,
    readSectors sector count s (a.paddedBytes pad ++ rest) = some (0, s', idle :: rest) ∧
      s'.stores = s.stores ++ storesOfBlocks 0 a.blocks := by
  unfold readSectors
  cases a with
  | one hcount command hres block idle =>
    obtain ⟨s₁, hs₁, hdid₁⟩ := sendCmd_answer command sector s (block.bytes ++ pad 0 :: idle :: rest)
    obtain ⟨s₂, hs₂, hstores⟩ := rxDataBlock_answer block (pad 0) 0 s₁ (idle :: rest)
    refine ⟨s₂, idle, (if_pos hcount).trans ?_, ?_⟩
    · have hbytes : (ReadAnswer.one hcount command hres block idle).paddedBytes pad ++ rest =
          command.bytes ++ (block.bytes ++ pad 0 :: idle :: rest) := by
        simp [ReadAnswer.paddedBytes, padded]
      rw [hbytes]
      exact Option.bind_eq_some_iff.mpr ⟨_, hs₁, (if_pos hres).trans
        (Option.bind_eq_some_iff.mpr ⟨_, hs₂, rfl⟩)⟩
    · rw [hstores, hdid₁.stores]
      exact congrArg (s.stores ++ ·) (List.append_nil _).symm
  | many hcount command hres blocks hblocks stop hstop idle =>
    obtain ⟨s₁, hs₁, hdid₁⟩ := sendCmd_answer command sector s
      (padded pad blocks ++ (stop.bytes ++ idle :: rest))
    obtain ⟨s₂, hs₂, hstores⟩ := readBlocks_padded blocks pad 0 s₁ (stop.bytes ++ idle :: rest)
    obtain ⟨s₃, hs₃, hdid₃⟩ := sendCmd_answer stop 0 s₂ (idle :: rest)
    rw [hblocks] at hs₂
    refine ⟨s₃, idle, (if_neg (by omega)).trans ?_, ?_⟩
    · unfold ReadAnswer.paddedBytes
      simp only [List.append_assoc, List.cons_append, List.nil_append]
      exact Option.bind_eq_some_iff.mpr ⟨_, hs₁, (if_pos hres).trans
        (Option.bind_eq_some_iff.mpr ⟨_, hs₂, Option.bind_eq_some_iff.mpr ⟨_, hs₃, rfl⟩⟩)⟩
    · rw [hdid₃.stores, hstores, hdid₁.stores]
      rfl

/-- **A card that sends a further byte after each block** is read: `RES_OK`, with every byte of the data
in its place, and nothing stored further than the one byte behind the buffer. -/
theorem diskRead_padded {s : Sd} (hinit : s.stat &&& staNoinit = 0) {count : Nat}
    (a : ReadAnswer count) (pad : Nat → Rx) (sector : UInt32) (rest : List Rx) :
    ∃ s' stores, diskRead 0 sector count s (a.paddedBytes pad ++ rest) = some (.ok, s', rest) ∧
      s'.stores = s.stores ++ stores ∧
      (∀ (before : Nat → UInt8) (k : Nat) (block : DataAnswer) (j : Nat) (r : Rx),
        a.blocks[k]? = some block → block.data[j]? = some r →
          applyStores before stores (512 * k + j) = r.byte) ∧
      ∀ st ∈ stores, st.1 ≤ 512 * count := by
  obtain ⟨s', idle, hs', hstores⟩ := readSectors_padded a pad (address sector s) (select s) rest
  refine ⟨elapse (deselect s') idle, storesOfBlocks 0 a.blocks, ?_, hstores, ?_, ?_⟩
  · have hvalid : ¬ ((0 : UInt8) ≠ 0 ∨ count = 0) := 
      not_or.mpr ⟨not_not.mpr rfl, Nat.ne_of_gt a.count_pos⟩
    unfold diskRead
    refine (if_neg hvalid).trans ((if_neg (not_not.mpr hinit)).trans ?_)
    exact Option.bind_eq_some_iff.mpr ⟨_, hs', rfl⟩
  · intro before k block j r hk hj
    have hat := applyStores_storesOfBlocks before 0 hk hj
    rwa [Nat.zero_add] at hat
  · intro st hst
    have hle := (mem_storesOfBlocks hst).2
    rwa [Nat.zero_add, a.length_blocks] at hle

end GenLogger.SdCard
