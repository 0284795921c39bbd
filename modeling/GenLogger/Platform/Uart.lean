import GenLogger.Lib.CString
import GenLogger.Lib.Run

/-!
# The serial line of the target (`uart.c`, `serialHandler.cpp`)

The DMA stream writes what arrives to the start of `uart_rx_buffer`. When the line falls idle the HAL
stops the reception and calls `HAL_UARTEx_RxEventCallback`, which raises `isDataAvailableFlag`; the
next `uart_start_rx_dma` starts it again. `serialHandler` is taken one statement at a time: `pc` is
the next one, and bytes and callbacks may come between any two.

The reception is started again before the last burst is copied, the buffer is zeroed after that and
the flag is lowered last. A byte that is too early is mixed into the copy or zeroed, and the notice of
a burst that is complete too early is lowered with the old one, after which nothing starts the
reception again.

* `Reception` is the program inside the call, with the bursts received and reported, which are not
  part of it.
* `ReceivedInTime` is the condition on a step, `KeptPhase` where a call is while it holds.
* `Astray` and `Doomed` are what a byte that comes too early leads to.

Results:
* `statements_are_serialHandler`: where nothing arrives in between, the statements do what the call
  does.
* `statement_ok`: the copy stays inside both buffers, whatever arrives and whenever.
* `kept_step`, `early_astray`: what is received in time is kept, what comes too early leads astray.
* `bursts_reported_iff`: every burst is reported once, unmixed and in order, exactly when between the
  start of the reception and the end of the call no byte comes before the buffer is zeroed, and no
  callback comes.
-/

namespace GenLogger.Platform

open GenLogger.Lib

/-- `UART_RX_BUFFER_SIZE` and `SERIAL_BUFFER_SIZE`. -/
abbrev uartRxBufferSize : Nat := 1024

/-- The variables of `uart.c`, and the reception into the buffer: whether it is running, and the
number of bytes it has written. -/
structure Uart where
  uartRxBuffer : CBuf uartRxBufferSize
  isDataAvailableFlag : UInt8
  receiving : Bool
  received : Nat

namespace Uart

/-- After reset. -/
def init : Uart := ⟨.zero _, 0, false, 0⟩

/-- `uart_start_rx_dma`: the HAL is busy while a reception is running. -/
def startRxDma (u : Uart) : Uart :=
  if u.receiving then u else { u with receiving := true, received := 0 }

/-- The DMA stream writes a byte. -/
def rxByte (b : Byte) (u : Uart) : Except Fault Uart := do
  let buffer ← u.uartRxBuffer.store u.received b
  .ok { u with uartRxBuffer := buffer, received := u.received + 1 }

/-- The HAL stops the reception and calls `HAL_UARTEx_RxEventCallback`. -/
def rxEventCallback (u : Uart) : Uart := { u with receiving := false, isDataAvailableFlag := 1 }

/-- `uart_isDataAvailable`. -/
def isDataAvailable (u : Uart) : UInt8 := u.isDataAvailableFlag

/-- `memset(uart_rx_buffer, 0, UART_RX_BUFFER_SIZE)`. -/
def clearBuffer (u : Uart) : Uart := { u with uartRxBuffer := .zero _ }

/-- `isDataAvailableFlag = 0`. -/
def clearFlag (u : Uart) : Uart := { u with isDataAvailableFlag := 0 }

/-- `uart_getAvailableData`. -/
def getAvailableData (pBuff : CBuf uartRxBufferSize) (u : Uart) :
    Except Fault (CBuf uartRxBufferSize × Uart) := do
  let pBuff ← pBuff.strcpy u.uartRxBuffer
  .ok (pBuff, u.clearBuffer.clearFlag)

/-- `serialHandler`, with `serialBuffer`. -/
def serialHandler (serialBuffer : CBuf uartRxBufferSize) (u : Uart) :
    Except Fault (Bool × CBuf uartRxBufferSize × Uart) := do
  if u.isDataAvailable = 1 then
    let (serialBuffer, u) ← u.startRxDma.getAvailableData serialBuffer
    .ok (true, serialBuffer, u)
  else .ok (false, serialBuffer, u)

end Uart

/-! ## Events between the statements -/

/-- The statement of `serialHandler` that comes next. -/
inductive ReceptionPc where
  | test
  | restart
  | copy
  | clearBuffer
  | clearFlag
  deriving Repr, DecidableEq

/-- The program inside `serialHandler`, and (not part of it) what was received and what was reported. -/
structure Reception where
  uart : Uart
  serialBuffer : CBuf uartRxBufferSize
  pc : ReceptionPc
  /-- The bursts whose callback has come. -/
  bursts : List (List Byte)
  /-- The bytes since then. -/
  current : List Byte
  /-- What `serialBuffer` read at the end of each call that returned `true`. -/
  reports : List (List Byte)

namespace Reception

/-- After `serialHandlerInit`. -/
def start : Reception := ⟨Uart.init.startRxDma, .zero _, .test, [], [], []⟩

/-- The next statement. -/
def statement (s : Reception) : Except Fault Reception :=
  match s.pc with
  | .test => .ok (if s.uart.isDataAvailable = 1 then { s with pc := .restart } else s)
  | .restart => .ok { s with uart := s.uart.startRxDma, pc := .copy }
  | .copy => do
    let serialBuffer ← s.serialBuffer.strcpy s.uart.uartRxBuffer
    .ok { s with serialBuffer := serialBuffer, pc := .clearBuffer }
  | .clearBuffer => .ok { s with uart := s.uart.clearBuffer, pc := .clearFlag }
  | .clearFlag => .ok { s with
      uart := s.uart.clearFlag
      pc := .test
      reports := s.reports ++ [upToNul s.serialBuffer.bytes] }

/-- No call is running and no notice is up. -/
def Idle (s : Reception) : Prop := s.pc = .test ∧ s.uart.isDataAvailableFlag ≠ 1

end Reception

/-- What happens next. -/
inductive ReceptionEvent where
  | statement
  /-- Between two calls the rest of the super loop uses `serialBuffer`. -/
  | between (serialBuffer : CBuf uartRxBufferSize)
  | byte (b : Byte)
  | callback

/-- A burst is at least one byte, and leaves room for a terminator. -/
inductive ReceptionStep : Reception → ReceptionEvent → Reception → Prop
  | statement {s s' : Reception} (h : s.statement = .ok s') : ReceptionStep s .statement s'
  | between {s : Reception} (hpc : s.pc = .test) (serialBuffer : CBuf uartRxBufferSize) :
      ReceptionStep s (.between serialBuffer) { s with serialBuffer := serialBuffer }
  | byte {s : Reception} (b : Byte) {u : Uart} (hb : b ≠ 0) (hon : s.uart.receiving = true)
      (hroom : s.uart.received < uartRxBufferSize - 1) (h : s.uart.rxByte b = .ok u) :
      ReceptionStep s (.byte b) { s with uart := u, current := s.current ++ [b] }
  | callback {s : Reception} (hon : s.uart.receiving = true) (hsome : 0 < s.uart.received) :
      ReceptionStep s .callback { s with
        uart := s.uart.rxEventCallback, bursts := s.bursts ++ [s.current], current := [] }

/-- The reports are the first bursts, each once and in order; where nothing is left to do, all. -/
def BurstsReported (t : Taken Reception ReceptionEvent) : Prop :=
  t.after.reports <+: t.after.bursts ∧ (t.after.Idle → t.after.reports = t.after.bursts)

/-- From the start of the reception to the end of the call, no byte comes before the buffer is zeroed,
and no callback. -/
def ReceivedInTime (t : Taken Reception ReceptionEvent) : Prop :=
  (∀ b, t.input = .byte b → t.before.pc ≠ .copy ∧ t.before.pc ≠ .clearBuffer) ∧
    (t.input = .callback → t.before.pc = .test)

/-! ## The statements -/

/-- Every statement. -/
inductive StatementMove : Reception → Reception → Prop
  | quiet {s : Reception} (hpc : s.pc = .test) (hflag : s.uart.isDataAvailableFlag ≠ 1) :
      StatementMove s s
  | test {s : Reception} (hpc : s.pc = .test) (hflag : s.uart.isDataAvailableFlag = 1) :
      StatementMove s { s with pc := .restart }
  | restart {s : Reception} (hpc : s.pc = .restart) :
      StatementMove s { s with uart := s.uart.startRxDma, pc := .copy }
  | copy {s : Reception} {serialBuffer : CBuf uartRxBufferSize} (hpc : s.pc = .copy)
      (hread : upToNul serialBuffer.bytes = upToNul s.uart.uartRxBuffer.bytes) :
      StatementMove s { s with serialBuffer := serialBuffer, pc := .clearBuffer }
  | clearBuffer {s : Reception} (hpc : s.pc = .clearBuffer) :
      StatementMove s { s with uart := s.uart.clearBuffer, pc := .clearFlag }
  | clearFlag {s : Reception} (hpc : s.pc = .clearFlag) :
      StatementMove s { s with
        uart := s.uart.clearFlag
        pc := .test
        reports := s.reports ++ [upToNul s.serialBuffer.bytes] }

theorem statement_move {s s' : Reception} (h : s.statement = .ok s') : StatementMove s s' := by
  unfold Reception.statement at h
  cases hpc : s.pc with
  | test =>
    simp only [hpc, Except.ok.injEq] at h
    subst h
    split
    · exact .test hpc ‹_›
    · exact .quiet hpc ‹_›
  | restart =>
    simp only [hpc, Except.ok.injEq] at h
    subst h
    exact .restart hpc
  | copy =>
    simp only [hpc] at h
    obtain ⟨serialBuffer, hcopy, h⟩ := bind_eq_ok.mp h
    simp only [Except.ok.injEq] at h
    subst h
    exact .copy hpc (CBuf.upToNul_strcpy hcopy)
  | clearBuffer =>
    simp only [hpc, Except.ok.injEq] at h
    subst h
    exact .clearBuffer hpc
  | clearFlag =>
    simp only [hpc, Except.ok.injEq] at h
    subst h
    exact .clearFlag hpc

/-- **The statements are the call.** Where nothing arrives in between, they do what `serialHandler`
does. -/
theorem statements_are_serialHandler {s : Reception} (hpc : s.pc = .test)
    (hflag : s.uart.isDataAvailable = 1) :
    (do let s₁ ← s.statement
        let s₂ ← s₁.statement
        let s₃ ← s₂.statement
        let s₄ ← s₃.statement
        s₄.statement) =
      (do let (_, serialBuffer, uart) ← s.uart.serialHandler s.serialBuffer
          .ok { s with
            uart := uart
            serialBuffer := serialBuffer
            reports := s.reports ++ [upToNul serialBuffer.bytes] }) := by
  obtain ⟨uart, serialBuffer, pc, bursts, current, reports⟩ := s
  simp only at hpc hflag
  subst hpc
  have htest : Reception.statement ⟨uart, serialBuffer, .test, bursts, current, reports⟩ =
      .ok ⟨uart, serialBuffer, .restart, bursts, current, reports⟩ := by
    simp [Reception.statement, hflag]
  rw [htest]
  unfold Uart.serialHandler Uart.getAvailableData
  rw [if_pos hflag]
  show (do
    let s₃ ← Reception.statement ⟨uart.startRxDma, serialBuffer, .copy, bursts, current, reports⟩
    let s₄ ← s₃.statement
    s₄.statement) = _
  have hcopy : Reception.statement ⟨uart.startRxDma, serialBuffer, .copy, bursts, current, reports⟩ =
      (do let buffer ← serialBuffer.strcpy uart.startRxDma.uartRxBuffer
          .ok ⟨uart.startRxDma, buffer, .clearBuffer, bursts, current, reports⟩) := rfl
  rw [hcopy]
  cases serialBuffer.strcpy uart.startRxDma.uartRxBuffer <;> rfl

/-- A call without a notice does nothing. -/
theorem serialHandler_quiet {s : Reception} (hpc : s.pc = .test)
    (hflag : s.uart.isDataAvailable ≠ 1) : s.statement = .ok s ∧
      s.uart.serialHandler s.serialBuffer = .ok (false, s.serialBuffer, s.uart) := by
  constructor
  · simp [Reception.statement, hpc, hflag]
  · simp [Uart.serialHandler, hflag]

/-! ## Bursts that are reported -/

/-- The buffer holds `l`, and zeros. -/
def Holds (b : CBuf uartRxBufferSize) (l : List Byte) : Prop :=
  b.bytes = l ++ List.replicate (uartRxBufferSize - l.length) 0

/-- Where a call is, while everything is received in time. -/
inductive KeptPhase (s : Reception) : Prop
  | waiting (hpc : s.pc = .test) (hflag : s.uart.isDataAvailableFlag ≠ 1)
      (hreports : s.bursts = s.reports) (hrx : Holds s.uart.uartRxBuffer s.current)
  | arrived (hpc : s.pc = .test ∧ s.uart.isDataAvailableFlag = 1 ∨ s.pc = .restart)
      (hoff : s.uart.receiving = false)
      (hreports : s.bursts = s.reports ++ [upToNul s.uart.uartRxBuffer.bytes])
  | copying (hpc : s.pc = .copy) (hcurrent : s.current = [])
      (hreports : s.bursts = s.reports ++ [upToNul s.uart.uartRxBuffer.bytes])
  | clearing (hpc : s.pc = .clearBuffer) (hcurrent : s.current = [])
      (hreports : s.bursts = s.reports ++ [upToNul s.serialBuffer.bytes])
  | finishing (hpc : s.pc = .clearFlag)
      (hreports : s.bursts = s.reports ++ [upToNul s.serialBuffer.bytes])
      (hrx : Holds s.uart.uartRxBuffer s.current)

/-- What holds in every run: the burst that is being received, and a burst for every notice. -/
structure Received (s : Reception) : Prop where
  text : (0 : Byte) ∉ s.current
  room : s.current.length < uartRxBufferSize
  count : s.uart.receiving = true → s.uart.received = s.current.length
  stopped : s.uart.receiving = false → s.current = []
  notice : (s.pc = .test ∧ s.uart.isDataAvailableFlag = 1 ∨ s.pc = .restart) →
    s.uart.receiving = false
  bursts : ∀ l ∈ s.bursts, l ≠ []
  reported : s.reports.length ≤ s.bursts.length
  noticed : ¬ s.Idle → s.reports.length < s.bursts.length

/-- A byte goes behind those before it. -/
theorem holds_store {b b' : CBuf uartRxBufferSize} {l : List Byte} {v : Byte}
    (hl : Holds b l) (hlen : l.length < uartRxBufferSize) (h : b.store l.length v = .ok b') :
    Holds b' (l ++ [v]) := by
  unfold CBuf.store at h
  rw [if_pos hlen, Except.ok.injEq] at h
  have hn : uartRxBufferSize - l.length = uartRxBufferSize - (l ++ [v]).length + 1 := by
    rw [List.length_append, List.length_singleton]
    omega
  unfold Holds at hl ⊢
  rw [← h]
  show b.bytes.set l.length v = _
  rw [hl, List.set_append_right _ _ le_rfl, Nat.sub_self, hn, List.replicate_succ, List.set_cons_zero,
    List.append_assoc, List.singleton_append]

theorem holds_zero : Holds (CBuf.zero _) [] := rfl

theorem holds_text {b : CBuf uartRxBufferSize} {l : List Byte} (h : Holds b l)
    (hl : (0 : Byte) ∉ l) (hlen : l.length < uartRxBufferSize) : upToNul b.bytes = l := by
  have hn : uartRxBufferSize - l.length = uartRxBufferSize - l.length - 1 + 1 := by omega
  unfold Holds at h
  rw [h, hn, List.replicate_succ, upToNul_append hl]

/-- A byte raises the count, and leaves the flag. -/
theorem rxByte_cases {u u' : Uart} {b : Byte} (h : u.rxByte b = .ok u') :
    u.uartRxBuffer.store u.received b = .ok u'.uartRxBuffer ∧ u'.received = u.received + 1 ∧
      u'.receiving = u.receiving ∧ u'.isDataAvailableFlag = u.isDataAvailableFlag := by
  obtain ⟨buffer, hstore, h⟩ := bind_eq_ok.mp h
  simp only [Except.ok.injEq] at h
  subst h
  exact ⟨hstore, rfl, rfl, rfl⟩

theorem startRxDma_stopped {u : Uart} (h : u.receiving = false) :
    u.startRxDma = { u with receiving := true, received := 0 } := by
  simp [Uart.startRxDma, h]

theorem received_statement {s s' : Reception} (hr : Received s) (hm : StatementMove s s') :
    Received s' := by
  obtain ⟨htext, hroom, hcount, hstopped, hnotice, hbursts, hreported, hnoticed⟩ := hr
  cases hm with
  | quiet hpc hflag => exact ⟨htext, hroom, hcount, hstopped, hnotice, hbursts, hreported, hnoticed⟩
  | test hpc hflag =>
    refine ⟨htext, hroom, hcount, hstopped, fun _ => hnotice (Or.inl ⟨hpc, hflag⟩), hbursts, hreported,
      fun _ => hnoticed fun hidle => hidle.2 hflag⟩
  | restart hpc =>
    have hoff := hnotice (Or.inr hpc)
    have hcurrent := hstopped hoff
    refine ⟨htext, hroom, ?_, ?_, ?_, hbursts, hreported, fun _ => hnoticed ?_⟩
    · simp [startRxDma_stopped hoff, hcurrent]
    · simp [startRxDma_stopped hoff]
    · simp
    · simp [Reception.Idle, hpc]
  | copy hpc hread =>
    refine ⟨htext, hroom, hcount, hstopped, by simp, hbursts, hreported, fun _ => hnoticed ?_⟩
    simp [Reception.Idle, hpc]
  | clearBuffer hpc =>
    refine ⟨htext, hroom, hcount, hstopped, by simp, hbursts, hreported, fun _ => hnoticed ?_⟩
    simp [Reception.Idle, hpc]
  | clearFlag hpc =>
    have hless : s.reports.length < s.bursts.length := hnoticed (by simp [Reception.Idle, hpc])
    refine ⟨htext, hroom, hcount, hstopped, ?_, hbursts, ?_, ?_⟩
    · simp [Uart.clearFlag]
    · rw [List.length_append]
      exact hless
    · simp [Reception.Idle, Uart.clearFlag]

theorem received_step : Preserved ReceptionStep Received := by
  intro s i s' hr h
  cases h with
  | statement h => exact received_statement hr (statement_move h)
  | between hpc buffer =>
    exact ⟨hr.text, hr.room, hr.count, hr.stopped, hr.notice, hr.bursts, hr.reported, hr.noticed⟩
  | byte b hb hon hroom h =>
    obtain ⟨-, hreceived, hreceiving, hflag⟩ := rxByte_cases h
    have hcount := hr.count hon
    refine ⟨?_, ?_, ?_, ?_, ?_, hr.bursts, hr.reported, ?_⟩
    · simpa [hr.text] using hb.symm
    · simp only [List.length_append, List.length_singleton]
      omega
    · simp [hreceived, hcount]
    · simp [hreceiving, hon]
    · simpa only [hflag, hreceiving] using hr.notice
    · simpa only [Reception.Idle, hflag] using hr.noticed
  | callback hon hsome =>
    have hne : s.current ≠ [] := by
      intro hnil
      have hcount := hr.count hon
      rw [hnil] at hcount
      simp [hcount] at hsome
    have hreported := hr.reported
    refine ⟨by simp, by simp, by simp [Uart.rxEventCallback], fun _ => rfl, fun _ => rfl, ?_, ?_, ?_⟩
    · intro l hl
      rcases List.mem_append.mp hl with hl | hl
      · exact hr.bursts l hl
      · rw [List.mem_singleton.mp hl]
        exact hne
    · simp only [List.length_append, List.length_singleton]
      omega
    · intro _
      simp only [List.length_append, List.length_singleton]
      omega

/-- The statements take a burst from the buffer to the reports. -/
theorem kept_statement {s s' : Reception} (hr : Received s) (hk : KeptPhase s)
    (hm : StatementMove s s') : KeptPhase s' := by
  cases hm with
  | quiet hpc hflag => exact hk
  | test hpc hflag =>
    cases hk with
    | arrived _ hoff hreports => exact .arrived (Or.inr rfl) hoff hreports
    | _ => simp_all
  | restart hpc =>
    cases hk with
    | arrived _ hoff hreports =>
      refine .copying rfl (hr.stopped hoff) ?_
      simp only [startRxDma_stopped hoff]
      exact hreports
    | _ => simp_all
  | copy hpc hread =>
    cases hk with
    | copying _ hcurrent hreports =>
      rw [← hread] at hreports
      exact .clearing rfl hcurrent hreports
    | _ => simp_all
  | clearBuffer hpc =>
    cases hk with
    | clearing _ hcurrent hreports =>
      refine .finishing rfl hreports ?_
      simp only [hcurrent]
      exact holds_zero
    | _ => simp_all
  | clearFlag hpc =>
    cases hk with
    | finishing _ hreports hrx => exact .waiting rfl (by simp [Uart.clearFlag]) hreports hrx
    | _ => simp_all

/-- A byte in time goes behind those of its burst. -/
theorem kept_byte {s : Reception} {b : Byte} {u : Uart} (hr : Received s) (hk : KeptPhase s)
    (hon : s.uart.receiving = true) (h : s.uart.rxByte b = .ok u) (hcopy : s.pc ≠ .copy)
    (hclear : s.pc ≠ .clearBuffer) :
    KeptPhase { s with uart := u, current := s.current ++ [b] } := by
  obtain ⟨hstore, -, -, hflag'⟩ := rxByte_cases h
  rw [hr.count hon] at hstore
  cases hk with
  | waiting hpc hflag hreports hrx =>
    exact .waiting hpc (by rw [hflag']; exact hflag) hreports (holds_store hrx hr.room hstore)
  | arrived _ hoff _ => simp [hoff] at hon
  | copying hpc => exact absurd hpc hcopy
  | clearing hpc => exact absurd hpc hclear
  | finishing hpc hreports hrx => exact .finishing hpc hreports (holds_store hrx hr.room hstore)

/-- A callback in time finds the call idle, and its burst alone in the buffer. -/
theorem kept_callback {s : Reception} (hr : Received s) (hk : KeptPhase s)
    (hon : s.uart.receiving = true) (hpc : s.pc = .test) :
    KeptPhase { s with
      uart := s.uart.rxEventCallback, bursts := s.bursts ++ [s.current], current := [] } := by
  cases hk with
  | waiting _ _ hreports hrx =>
    refine .arrived (Or.inl ⟨hpc, rfl⟩) rfl ?_
    have htext : upToNul s.uart.rxEventCallback.uartRxBuffer.bytes = s.current :=
      holds_text hrx hr.text hr.room
    rw [htext, ← hreports]
  | arrived _ hoff _ => simp [hoff] at hon
  | _ => simp_all

/-- What is received in time is kept. -/
theorem kept_step {s s' : Reception} {i : ReceptionEvent} (hr : Received s) (hk : KeptPhase s)
    (h : ReceptionStep s i s') (htime : ReceivedInTime ⟨s, i, s'⟩) : KeptPhase s' := by
  cases h with
  | statement h => exact kept_statement hr hk (statement_move h)
  | between hpc buffer =>
    cases hk with
    | waiting _ hflag hreports hrx => exact .waiting hpc hflag hreports hrx
    | arrived hpc' hoff hreports => exact .arrived hpc' hoff hreports
    | _ => simp_all
  | byte b hb hon hroom h =>
    obtain ⟨hcopy, hclear⟩ := htime.1 b rfl
    exact kept_byte hr hk hon h hcopy hclear
  | callback hon hsome => exact kept_callback hr hk hon (htime.2 rfl)

theorem kept_reported {s s' : Reception} {i : ReceptionEvent} (hk : KeptPhase s') :
    BurstsReported ⟨s, i, s'⟩ := by
  cases hk with
  | waiting hpc hflag hreports hrx =>
    exact ⟨by simp [hreports], fun _ => hreports.symm⟩
  | arrived hpc hoff hreports =>
    refine ⟨⟨_, hreports.symm⟩, fun hidle => ?_⟩
    rcases hpc with ⟨-, hflag⟩ | hpc
    · exact absurd hflag hidle.2
    · exact absurd (hpc.symm.trans hidle.1) (by simp)
  | copying hpc hcurrent hreports =>
    exact ⟨⟨_, hreports.symm⟩, fun hidle => absurd (hpc.symm.trans hidle.1) (by simp)⟩
  | clearing hpc hcurrent hreports =>
    exact ⟨⟨_, hreports.symm⟩, fun hidle => absurd (hpc.symm.trans hidle.1) (by simp)⟩
  | finishing hpc hreports hrx =>
    exact ⟨⟨_, hreports.symm⟩, fun hidle => absurd (hpc.symm.trans hidle.1) (by simp)⟩

/-! ## Bursts that are lost -/

/-- What will go wrong: bytes that will be zeroed, a burst whose first byte was, an empty report, or a
burst whose notice will be lowered with the one before. -/
inductive Astray (s : Reception) : Prop
  | early (hpc : s.pc = .copy ∨ s.pc = .clearBuffer) (hcurrent : s.current ≠ [])
  | zeroed (hpc : s.pc = .clearFlag ∨ s.pc = .test) (hon : s.uart.receiving = true)
      (hcurrent : s.current ≠ []) (hrx : s.uart.uartRxBuffer.bytes[0]? = some 0)
  | headless (hpc : s.pc = .test ∧ s.uart.isDataAvailableFlag = 1 ∨ s.pc = .restart ∨ s.pc = .copy)
      (hrx : s.uart.uartRxBuffer.bytes[0]? = some 0)
  | empty (hpc : s.pc = .clearBuffer ∨ s.pc = .clearFlag) (hbuffer : upToNul s.serialBuffer.bytes = [])
  | unnoticed (hpc : s.pc = .copy ∨ s.pc = .clearBuffer ∨ s.pc = .clearFlag)
      (hcount : s.reports.length + 1 < s.bursts.length)

theorem upToNul_headless {l : List Byte} (h : l[0]? = some 0) : upToNul l = [] := by
  cases l with
  | nil => rfl
  | cons b l =>
    simp only [List.getElem?_cons_zero, Option.some.injEq] at h
    simp [upToNul, h]

/-- An empty report is no burst's. -/
theorem empty_not_reported {s s' : Reception} {i : ReceptionEvent} (hr : Received s')
    (h : [] ∈ s'.reports) : ¬ BurstsReported ⟨s, i, s'⟩ :=
  fun hp => hr.bursts [] (hp.1.subset h) rfl

/-- The statements take what is astray to an empty report, or to a call that ends with a burst too
few. -/
theorem astray_statement {s s' : Reception} (hr : Received s) (ha : Astray s)
    (hm : StatementMove s s') : [] ∈ s'.reports ∨ (s'.Idle ∧ s'.reports ≠ s'.bursts) ∨ Astray s' := by
  cases hm with
  | quiet hpc hflag => exact Or.inr (Or.inr ha)
  | test hpc hflag =>
    have hoff := hr.notice (Or.inl ⟨hpc, hflag⟩)
    cases ha with
    | headless _ hrx => exact Or.inr (Or.inr (.headless (Or.inr (Or.inl rfl)) hrx))
    | _ => simp_all
  | restart hpc =>
    have hoff := hr.notice (Or.inr hpc)
    cases ha with
    | headless _ hrx =>
      refine Or.inr (Or.inr (.headless (Or.inr (Or.inr rfl)) ?_))
      simp only [startRxDma_stopped hoff]
      exact hrx
    | _ => simp_all
  | copy hpc hread =>
    refine Or.inr (Or.inr ?_)
    cases ha with
    | early _ hcurrent => exact .early (Or.inr rfl) hcurrent
    | headless _ hrx => exact .empty (Or.inl rfl) (hread.trans (upToNul_headless hrx))
    | unnoticed _ hcount => exact .unnoticed (Or.inr (Or.inl rfl)) hcount
    | _ => simp_all
  | clearBuffer hpc =>
    refine Or.inr (Or.inr ?_)
    cases ha with
    | early _ hcurrent =>
      have hon : s.uart.receiving = true := by
        by_contra hoff
        exact hcurrent (hr.stopped (by simpa using hoff))
      exact .zeroed (Or.inl rfl) hon hcurrent rfl
    | empty _ hbuffer => exact .empty (Or.inr rfl) hbuffer
    | unnoticed _ hcount => exact .unnoticed (Or.inr (Or.inr rfl)) hcount
    | _ => simp_all
  | clearFlag hpc =>
    cases ha with
    | zeroed _ hon hcurrent hrx => exact Or.inr (Or.inr (.zeroed (Or.inr rfl) hon hcurrent hrx))
    | empty _ hbuffer =>
      refine Or.inl (List.mem_append_right _ ?_)
      rw [hbuffer]
      exact List.mem_singleton_self _
    | unnoticed _ hcount =>
      refine Or.inr (Or.inl ⟨⟨rfl, by simp [Uart.clearFlag]⟩, fun heq => ?_⟩)
      have hlen := congrArg List.length heq
      simp only [List.length_append, List.length_singleton] at hlen
      omega
    | _ => simp_all

/-- Bytes do not bring a first byte back, unless they come before the copy: then they are too early. -/
theorem astray_byte {s : Reception} {b : Byte} {u : Uart} (hr : Received s) (ha : Astray s)
    (hon : s.uart.receiving = true) (h : s.uart.rxByte b = .ok u) :
    Astray { s with uart := u, current := s.current ++ [b] } := by
  obtain ⟨hstore, -, hreceiving, hflag⟩ := rxByte_cases h
  have hne : s.current ++ [b] ≠ [] := by simp
  cases ha with
  | early hpc hcurrent => exact .early hpc hne
  | zeroed hpc _ hcurrent hrx =>
    refine .zeroed hpc (hreceiving.trans hon) hne ?_
    have hpos : 0 < s.current.length := List.length_pos_iff.mpr hcurrent
    rw [hr.count hon] at hstore
    unfold CBuf.store at hstore
    rw [if_pos hr.room, Except.ok.injEq] at hstore
    rw [← hstore]
    rw [List.getElem?_set_ne (by omega), hrx]
  | headless hpc hrx =>
    rcases hpc with hpc | hpc | hpc
    · simp [hr.notice (Or.inl hpc)] at hon
    · simp [hr.notice (Or.inr hpc)] at hon
    · exact .early (Or.inl hpc) hne
  | empty hpc hbuffer => exact .empty hpc hbuffer
  | unnoticed hpc hcount => exact .unnoticed hpc hcount

/-- A callback inside the call is one too many. -/
theorem callback_unnoticed {s : Reception} (hr : Received s)
    (hpc : s.pc = .copy ∨ s.pc = .clearBuffer ∨ s.pc = .clearFlag) : Astray { s with
      uart := s.uart.rxEventCallback, bursts := s.bursts ++ [s.current], current := [] } := by
  have hbusy : ¬ s.Idle := by
    intro hidle
    rcases hpc with h | h | h <;> simp [hidle.1] at h
  have hless := hr.noticed hbusy
  refine .unnoticed hpc ?_
  show s.reports.length + 1 < (s.bursts ++ [s.current]).length
  rw [List.length_append, List.length_singleton]
  omega

theorem astray_callback {s : Reception} (hr : Received s) (ha : Astray s)
    (hon : s.uart.receiving = true) : Astray { s with
      uart := s.uart.rxEventCallback, bursts := s.bursts ++ [s.current], current := [] } := by
  cases ha with
  | early hpc hcurrent =>
    exact callback_unnoticed hr (hpc.imp_right Or.inl)
  | zeroed hpc _ hcurrent hrx =>
    rcases hpc with hpc | hpc
    · exact callback_unnoticed hr (Or.inr (Or.inr hpc))
    · exact .headless (Or.inl ⟨hpc, rfl⟩) hrx
  | headless hpc hrx =>
    rcases hpc with hpc | hpc | hpc
    · simp [hr.notice (Or.inl hpc)] at hon
    · simp [hr.notice (Or.inr hpc)] at hon
    · exact callback_unnoticed hr (Or.inl hpc)
  | empty hpc hbuffer => exact .empty hpc hbuffer
  | unnoticed hpc hcount => exact callback_unnoticed hr hpc

/-- A run that ends with nothing to do, and no burst begun, fails before its end. -/
structure Doomed (s : Reception) : Prop where
  received : Received s
  astray : Astray s

theorem doomed_step {s s' : Reception} {i : ReceptionEvent} (hd : Doomed s)
    (h : ReceptionStep s i s') : ¬ BurstsReported ⟨s, i, s'⟩ ∨ Doomed s' := by
  obtain ⟨hr, ha⟩ := hd
  have hr' := received_step _ _ _ hr h
  cases h with
  | statement h =>
    rcases astray_statement hr ha (statement_move h) with hempty | ⟨hidle, hne⟩ | ha'
    · exact Or.inl (empty_not_reported hr' hempty)
    · exact Or.inl fun hp => hne (hp.2 hidle)
    · exact Or.inr ⟨hr', ha'⟩
  | between hpc buffer =>
    refine Or.inr ⟨hr', ?_⟩
    cases ha with
    | zeroed hpc' hon hcurrent hrx => exact .zeroed hpc' hon hcurrent hrx
    | headless hpc' hrx => exact .headless hpc' hrx
    | _ => simp_all
  | byte b hb hon hroom h => exact Or.inr ⟨hr', astray_byte hr ha hon h⟩
  | callback hon hsome => exact Or.inr ⟨hr', astray_callback hr ha hon⟩

/-- What comes too early leads astray. -/
theorem early_astray {s s' : Reception} {i : ReceptionEvent} (hr : Received s)
    (h : ReceptionStep s i s') (hearly : ¬ ReceivedInTime ⟨s, i, s'⟩) : Doomed s' := by
  refine ⟨received_step _ _ _ hr h, ?_⟩
  cases h with
  | statement h => exact absurd ⟨by simp, by simp⟩ hearly
  | between hpc buffer => exact absurd ⟨by simp, by simp⟩ hearly
  | byte b hb hon hroom h =>
    refine .early ?_ (by simp)
    by_contra hpc
    rw [not_or] at hpc
    exact hearly ⟨fun _ _ => hpc, by simp⟩
  | callback hon hsome =>
    have hpc : s.pc ≠ .test := fun hpc => hearly ⟨by simp, fun _ => hpc⟩
    refine callback_unnoticed hr ?_
    cases hs : s.pc with
    | test => exact absurd hs hpc
    | restart => simp [hr.notice (Or.inr hs)] at hon
    | copy => exact Or.inl rfl
    | clearBuffer => exact Or.inr (Or.inl rfl)
    | clearFlag => exact Or.inr (Or.inr rfl)

theorem start_received : Received .start ∧ KeptPhase .start := by
  have hoff : Uart.init.receiving = false := rfl
  have hstart : Reception.start.uart = { Uart.init with receiving := true, received := 0 } :=
    startRxDma_stopped hoff
  have hflag : Reception.start.uart.isDataAvailableFlag ≠ 1 := by
    rw [hstart]
    decide
  refine ⟨⟨nofun, by decide, fun _ => rfl, fun _ => rfl, ?_, nofun, le_rfl, ?_⟩, ?_⟩
  · rintro (⟨-, h⟩ | h)
    · exact absurd h hflag
    · cases h
  · exact fun hbusy => absurd ⟨rfl, hflag⟩ hbusy
  · exact .waiting rfl hflag rfl holds_zero

/-- **When no burst is lost.** Over a run from `serialHandlerInit`, the calls report the bursts once
each, unmixed and in order, if between the start of the reception and the end of the call no byte comes
before the buffer is zeroed, and no callback; where the run ends with nothing left to do and no burst
begun, exactly then. -/
theorem bursts_reported_iff {ts : List (Taken Reception ReceptionEvent)} {s : Reception}
    (h : Run ReceptionStep .start ts s) :
    ((∀ t ∈ ts, ReceivedInTime t) → ∀ t ∈ ts, BurstsReported t) ∧
      (s.Idle → s.current = [] →
        ((∀ t ∈ ts, BurstsReported t) ↔ ∀ t ∈ ts, ReceivedInTime t)) := by
  have hgood : ∀ t : Taken Reception ReceptionEvent, Received t.before ∧ KeptPhase t.before →
      ReceptionStep t.before t.input t.after → ReceivedInTime t →
      BurstsReported t ∧ Received t.after ∧ KeptPhase t.after := fun t hinv hs htime => by
    have hk := kept_step hinv.1 hinv.2 hs htime
    exact ⟨kept_reported hk, received_step _ _ _ hinv.1 hs, hk⟩
  refine ⟨fun htime =>
    (h.sound (I := fun s => Received s ∧ KeptPhase s) hgood start_received htime).1,
    fun hidle hcurrent => ?_⟩
  refine h.settled_iff (I := fun s => Received s ∧ KeptPhase s) hgood
    (fun t hinv hs hearly => Or.inr (early_astray hinv.1 hs hearly))
    (fun t hd hs => doomed_step hd hs) start_received ?_
  rintro ⟨-, ha⟩
  obtain ⟨hpc, hflag⟩ := hidle
  cases ha with
  | zeroed _ _ hne _ => exact hne hcurrent
  | _ => simp_all

theorem zero_terminated :
    (CBuf.zero uartRxBufferSize).bytes[uartRxBufferSize - 1]? = some 0 := by
  unfold CBuf.zero
  rw [List.getElem?_replicate, if_pos (by decide)]

/-- The last byte of the buffer is never received. -/
theorem terminated_step :
    Preserved ReceptionStep fun s => s.uart.uartRxBuffer.bytes[uartRxBufferSize - 1]? = some 0 := by
  intro s i s' hs h
  cases h with
  | statement h =>
    cases statement_move h with
    | restart hpc =>
      unfold Uart.startRxDma
      split <;> exact hs
    | clearBuffer hpc => exact zero_terminated
    | _ => exact hs
  | between hpc buffer => exact hs
  | byte b hb hon hroom h =>
    obtain ⟨hstore, -⟩ := rxByte_cases h
    unfold CBuf.store at hstore
    rw [if_pos (by omega), Except.ok.injEq] at hstore
    rw [← hstore]
    rw [List.getElem?_set_ne (by omega), hs]
  | callback hon hsome => exact hs

/-- **The copy stays inside both buffers**, whatever arrives and whenever. -/
theorem statement_ok {ts : List (Taken Reception ReceptionEvent)} {s : Reception}
    (h : Run ReceptionStep .start ts s) : ∃ s', s.statement = .ok s' := by
  have hlast := h.invariant terminated_step zero_terminated
  have hcstr : s.uart.uartRxBuffer.cstr = .ok (CStr.ofBytes s.uart.uartRxBuffer.bytes) :=
    if_pos (List.mem_of_getElem? hlast)
  have hcopy : ∃ b, s.serialBuffer.strcpy s.uart.uartRxBuffer = .ok b := by
    refine ⟨_, bind_eq_ok.mpr ⟨_, hcstr, dif_pos ?_⟩⟩
    rw [List.length_append, List.length_singleton]
    exact CBuf.cstr_length hcstr
  obtain ⟨b, hb⟩ := hcopy
  unfold Reception.statement
  cases s.pc with
  | copy => exact ⟨_, bind_eq_ok.mpr ⟨b, hb, rfl⟩⟩
  | _ => exact ⟨_, rfl⟩

/-- A burst of one byte, and a call that reports it. -/
theorem bursts_reported_one : ∃ ts s, Run ReceptionStep .start ts s ∧ s.Idle ∧
    s.bursts = [ascii "S"] ∧ ∀ t ∈ ts, BurstsReported t := by
  have hrun : ∃ ts s, Run ReceptionStep .start ts s ∧ s.Idle ∧ s.bursts = [ascii "S"] ∧
      ∀ t ∈ ts, ReceivedInTime t :=
    ⟨_, _, .cons (.byte 83 (by decide) rfl (by decide) rfl) <| .cons (.callback rfl (by decide)) <|
      .cons (.statement rfl) <| .cons (.statement rfl) <| .cons (.statement rfl) <|
      .cons (.statement rfl) <| .cons (.statement rfl) (.nil _), ⟨rfl, by decide⟩, rfl, by
        simp [ReceivedInTime, Reception.start]⟩
  obtain ⟨ts, s, hr, hidle, hbursts, htime⟩ := hrun
  exact ⟨ts, s, hr, hidle, hbursts, (bursts_reported_iff hr).1 htime⟩

/-- After `AB` a third byte comes before the copy, and the call reports `CB`. -/
theorem burst_mixed_fails : ∃ ts s, Run ReceptionStep .start ts s ∧ s.bursts = [ascii "AB"] ∧
    s.reports = [ascii "CB"] ∧ ¬ ∀ t ∈ ts, BurstsReported t := by
  refine ⟨_, _, .cons (.byte 65 (by decide) rfl (by decide) rfl) <|
    .cons (.byte 66 (by decide) rfl (by decide) rfl) <| .cons (.callback rfl (by decide)) <|
    .cons (.statement rfl) <| .cons (.statement rfl) <|
    .cons (.byte 67 (by decide) rfl (by decide) rfl) <| .cons (.statement rfl) <|
    .cons (.statement rfl) <| .cons (.statement rfl) (.nil _), rfl, rfl, fun hall => ?_⟩
  have hprefix : [ascii "CB"] <+: [ascii "AB"] := (hall _ (List.mem_of_getLast? rfl)).1
  exact absurd hprefix (by decide)

end GenLogger.Platform
