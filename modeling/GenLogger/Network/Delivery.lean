import GenLogger.Logger.Logged
import GenLogger.Network.Transactions

/-!
# Every measurement is sent

`Delivery` is the super loop with the records that were notified and the mailbox at the beginning of
each transaction, which are not part of the program.

* `httpConnectPost` is taken to answer every transaction on its own: `rearm` gives the manager fresh
  latches before the first call of one. What the latches do otherwise is another module's subject.
* The events of a poll are any.
* `DeliveryMove` is every iteration: it begins a transaction, goes on with one, or rests.

A transaction may last for many iterations, and reads the mailbox when its connection is up. The
record of a measurement in between replaces the one the transaction began with, and the end of the
transaction lowers the notice of both.

Results:
* `networkTask_called`: a call keeps the notice exactly while the transaction is pending, and sends
  what the mailbox holds.
* `delivery_move`: every iteration, from where the notice is up exactly while a transaction is
  pending.
* `fewer_overtaken`: a transaction that is missing is never made good.
* `lines_delivered_iff`: whenever the notice is down every record notified has had a transaction that
  began with it, and what is sent is the record its transaction began with, exactly when no
  measurement is notified while a transaction is pending.
-/

namespace GenLogger.Network

open GenLogger.Lib GenLogger.Platform GenLogger.Config GenLogger.Measurement GenLogger.Logger

variable {σ ρ τ : Type}

/-- Fresh latches for a new transaction. -/
def HttpClient.rearm (h : HttpClient) : HttpClient :=
  if h.firstCall = true then { h with manager := { h.manager with done := false, firstCall := true } }
  else h

/-- The super loop, the records notified, and the mailbox at the beginning of each transaction. -/
structure Delivery (σ ρ τ : Type) where
  loop : SuperLoop σ ρ τ
  notified : List CStr
  begun : List CStr

namespace Delivery

/-- The super loop before an iteration. -/
def rearmed (d : Delivery σ ρ τ) : SuperLoop σ ρ τ :=
  { d.loop with client := d.loop.client.rearm }

/-- The transaction `networkTask` begins, by its mailbox. -/
def begins (h : HttpClient) : List CStr :=
  if h.availableDataFlag = true ∧ h.firstCall = true then h.pDataBuff.toList else []

/-- The record `measurementTask` notifies, from `s` to `s'`. -/
def notifies (s s' : SuperLoop σ ρ τ) : List CStr :=
  if s.tick.taskRunFlag = 1 then s'.client.pDataBuff.toList else []

end Delivery

section Step

variable (pl : Platform) (fs : FileHandler σ) (clock : RtcInterface ρ) (logFs : FileHandler τ)

/-- An iteration, with its notification and its transaction written down. -/
inductive DeliveryStep : Delivery σ ρ τ → LoopInput → Delivery σ ρ τ → Prop
  | iteration {d : Delivery σ ρ τ} {i : LoopInput} {s₁ s₂ s₃ : SuperLoop σ ρ τ}
      (hc : d.rearmed.configure pl fs clock i = .ok s₁) (hm : s₁.measurementTask pl i = .ok s₂)
      (hl : s₂.loggerTask logFs = .ok s₃) : DeliveryStep d i
        ⟨{ s₃ with client := networkTask i.poll s₃.client }, d.notified ++ Delivery.notifies s₁ s₂,
          d.begun ++ Delivery.begins s₃.client⟩

end Step

variable {pl : Platform} {fs : FileHandler σ} {clock : RtcInterface ρ} {logFs : FileHandler τ}

/-- Where the notice is down, every record notified has had its transaction; and what was sent is the
record its transaction began with. -/
def LinesDelivered (t : Taken (Delivery σ ρ τ) LoopInput) : Prop :=
  (t.after.loop.client.availableDataFlag = false → t.after.begun = t.after.notified) ∧
    ∀ r ∈ t.after.loop.client.manager.sent.drop t.before.loop.client.manager.sent.length,
      t.after.begun.getLast? = some r.body

/-- The iteration takes a measurement. -/
def Measures (pl : Platform) (fs : FileHandler σ) (clock : RtcInterface ρ) (d : Delivery σ ρ τ)
    (i : LoopInput) : Prop :=
  ∃ s, d.rearmed.configure pl fs clock i = .ok s ∧ s.tick.taskRunFlag = 1

/-- If the iteration measures, no transaction is pending. -/
def MeasuresBetween (pl : Platform) (fs : FileHandler σ) (clock : RtcInterface ρ)
    (t : Taken (Delivery σ ρ τ) LoopInput) : Prop :=
  Measures pl fs clock t.before t.input → t.before.loop.client.firstCall = true

/-- The step is the iteration of the super loop. -/
theorem deliveryStep_iteration {d d' : Delivery σ ρ τ} {i : LoopInput}
    (h : DeliveryStep pl fs clock logFs d i d') :
    d.rearmed.iteration pl fs clock logFs i = .ok d'.loop := by
  cases h with
  | iteration hc hm hl =>
    exact (SuperLoop.iteration_tasks hc).trans
      (bind_eq_ok.mpr ⟨_, hm, bind_eq_ok.mpr ⟨_, hl, rfl⟩⟩)

/-! ## The client in an iteration -/

/-- A poll sends the mailbox. -/
theorem poll_sent (url body : CStr) (events : List Event) (m : NetworkManager) :
    ∃ new, (poll url body events m).sent = m.sent ++ new ∧ ∀ r ∈ new, r.body = body := by
  induction events generalizing m with
  | nil => exact ⟨[], (List.append_nil _).symm, nofun⟩
  | cons e es ih =>
    obtain ⟨new, hnew, hbody⟩ := ih (mgEventHandler url body m e)
    rw [poll_cons, hnew]
    cases e with
    | connect c =>
      refine ⟨⟨c, url, body⟩ :: new, List.append_assoc _ _ _, ?_⟩
      exact List.forall_mem_cons.mpr ⟨rfl, hbody⟩
    | httpMsg c => exact ⟨new, rfl, hbody⟩

theorem connect_sent (m : NetworkManager) : (connect m).sent = m.sent := by
  unfold connect
  split <;> rfl

/-- What `postSensorData` leaves of the client: a definite result ends the transaction. -/
theorem postSensorData_client {i : PollInput} {h : HttpClient} {body : CStr}
    (hbuf : h.pDataBuff = some body) :
    (postSensorData i h).2.pDataBuff = some body ∧
      (postSensorData i h).2.availableDataFlag = h.availableDataFlag ∧
      (postSensorData i h).2.firstCall = (postSensorData i h).1.isSome ∧
      (postSensorData i h).2.manager = poll h.pURL body i.events (connect h.manager) := by
  obtain ⟨timer, flag, url, first, buf, m⟩ := h
  simp only at hbuf
  subst hbuf
  unfold postSensorData httpConnectPost
  cases first with
  | true =>
    dsimp only
    simp only [if_true]
    split
    · split <;> exact ⟨rfl, rfl, rfl, rfl⟩
    · exact ⟨rfl, rfl, rfl, rfl⟩
  | false =>
    dsimp only
    simp only [Bool.false_eq_true, if_false]
    split
    · split <;> exact ⟨rfl, rfl, rfl, rfl⟩
    · exact ⟨rfl, rfl, rfl, rfl⟩

/-- **A call of `networkTask` with a notice** keeps the notice exactly while the transaction is pending,
and sends nothing but the mailbox. -/
theorem networkTask_called {i : PollInput} {h : HttpClient} {body : CStr}
    (hflag : h.availableDataFlag = true) (hbuf : h.pDataBuff = some body) :
    (networkTask i h).pDataBuff = some body ∧
      (networkTask i h).availableDataFlag = !(networkTask i h).firstCall ∧
      ∃ new, (networkTask i h).manager.sent = h.manager.sent ++ new ∧ ∀ r ∈ new, r.body = body := by
  obtain ⟨hb, hf, hfirst, hm⟩ := postSensorData_client (i := i) hbuf
  obtain ⟨new, hnew, hbody⟩ := poll_sent h.pURL body i.events (connect h.manager)
  rw [← hm, connect_sent] at hnew
  unfold networkTask
  rw [if_pos hflag]
  dsimp only
  cases hr : (postSensorData i h).1.isSome with
  | true =>
    rw [if_pos rfl]
    exact ⟨hb, by simp [HttpClient.setRunTaskFlag, hfirst, hr], new, hnew, hbody⟩
  | false =>
    rw [if_neg Bool.false_ne_true]
    exact ⟨hb, by rw [hf, hflag, hfirst, hr]; rfl, new, hnew, hbody⟩

theorem rearm_frame (h : HttpClient) : h.rearm.availableDataFlag = h.availableDataFlag ∧
    h.rearm.firstCall = h.firstCall ∧ h.rearm.pDataBuff = h.pDataBuff ∧
    h.rearm.manager.sent = h.manager.sent := by
  unfold HttpClient.rearm
  split <;> exact ⟨rfl, rfl, rfl, rfl⟩

/-! ## An iteration -/

/-- Between iterations: the notice is up exactly while a transaction is pending. -/
structure Ready (d : Delivery σ ρ τ) : Prop where
  observers : d.loop.processing.listOfObservers = SuperLoop.observers
  mailbox : ∃ body, d.loop.client.pDataBuff = some body
  notice : d.loop.client.availableDataFlag = !d.loop.client.firstCall
  begun : d.begun.length ≤ d.notified.length

/-- The network task was called with `body` in the mailbox. -/
structure Called (d d' : Delivery σ ρ τ) (body : CStr) : Prop where
  mailbox : d'.loop.client.pDataBuff = some body
  notice : d'.loop.client.availableDataFlag = !d'.loop.client.firstCall
  sent : ∃ new, d'.loop.client.manager.sent = d.loop.client.manager.sent ++ new ∧
    ∀ r ∈ new, r.body = body

/-- Every iteration. -/
inductive DeliveryMove (measures : Prop) (d d' : Delivery σ ρ τ) : Prop
  /-- Nothing to send. -/
  | idle (hfirst : d.loop.client.firstCall = true) (hclient : d'.loop.client = d.loop.client.rearm)
      (hnotified : d'.notified = d.notified) (hbegun : d'.begun = d.begun)
  /-- The pending transaction goes on. -/
  | pending (hno : ¬ measures) (body : CStr) (hfirst : d.loop.client.firstCall = false)
      (hbody : d.loop.client.pDataBuff = some body) (hcalled : Called d d' body)
      (hnotified : d'.notified = d.notified) (hbegun : d'.begun = d.begun)
  /-- A measurement begins a transaction. -/
  | begins (record : CStr) (hfirst : d.loop.client.firstCall = true) (hcalled : Called d d' record)
      (hnotified : d'.notified = d.notified ++ [record]) (hbegun : d'.begun = d.begun ++ [record])
  /-- A measurement comes into the pending transaction. -/
  | replaces (hyes : measures) (record : CStr) (hfirst : d.loop.client.firstCall = false)
      (hcalled : Called d d' record) (hnotified : d'.notified = d.notified ++ [record])
      (hbegun : d'.begun = d.begun)

theorem loggerTask_frame {s s' : SuperLoop σ ρ τ} (h : s.loggerTask logFs = .ok s') :
    s'.client = s.client ∧ s'.processing = s.processing ∧ s'.system = s.system ∧
      s'.tick = s.tick := by
  cases hflag : s.logger.availableData with
  | false =>
    rw [SuperLoop.loggerTask_rests hflag h]
    exact ⟨rfl, rfl, rfl, rfl⟩
  | true =>
    obtain ⟨log, -, rfl⟩ := SuperLoop.loggerTask_runs hflag h
    exact ⟨rfl, rfl, rfl, rfl⟩

/-- The network task with something to send. -/
theorem called_of_client {d : Delivery σ ρ τ} {s : SuperLoop σ ρ τ} (i : PollInput) {body : CStr}
    (notified begun : List CStr) (hflag : s.client.availableDataFlag = true)
    (hbuf : s.client.pDataBuff = some body)
    (hsent : s.client.manager.sent = d.loop.client.manager.sent) :
    Called d ⟨{ s with client := networkTask i s.client }, notified, begun⟩ body := by
  obtain ⟨hmailbox, hnotice, new, hnew, hbody⟩ := networkTask_called (i := i) hflag hbuf
  exact ⟨hmailbox, hnotice, new, hnew.trans (by rw [hsent]), hbody⟩

/-- A measurement begins a transaction, or comes into the pending one. -/
theorem measured_move {d : Delivery σ ρ τ} {i : LoopInput} {s₁ s₂ s₃ : SuperLoop σ ρ τ}
    (hmeasures : Measures pl fs clock d i) {record : CStr}
    (hclient : s₃.client =
      { d.rearmed.client with availableDataFlag := true, pDataBuff := some record })
    (hnotifies : Delivery.notifies s₁ s₂ = [record]) : DeliveryMove (Measures pl fs clock d i) d
      ⟨{ s₃ with client := networkTask i.poll s₃.client }, d.notified ++ Delivery.notifies s₁ s₂,
        d.begun ++ Delivery.begins s₃.client⟩ := by
  obtain ⟨-, hfirst, -, hsent⟩ := rearm_frame d.loop.client
  have hup : s₃.client.availableDataFlag = true := by rw [hclient]
  have hrecord : s₃.client.pDataBuff = some record := by rw [hclient]
  have hcalled := called_of_client (d := d) i.poll (d.notified ++ Delivery.notifies s₁ s₂)
    (d.begun ++ Delivery.begins s₃.client) hup hrecord (by rw [hclient]; exact hsent)
  cases hpend : d.loop.client.firstCall with
  | true =>
    refine .begins record hpend hcalled (congrArg (d.notified ++ ·) hnotifies) ?_
    refine congrArg (d.begun ++ ·) ?_
    rw [hclient]
    exact if_pos ⟨rfl, hfirst.trans hpend⟩
  | false =>
    refine .replaces hmeasures record hpend hcalled (congrArg (d.notified ++ ·) hnotifies) ?_
    have hbegins : Delivery.begins s₃.client = [] := by
      rw [hclient]
      exact if_neg fun hno => by simp [Delivery.rearmed, hfirst, hpend] at hno
    exact (congrArg (d.begun ++ ·) hbegins).trans (List.append_nil _)

/-- Without a measurement the pending transaction goes on, if there is one. -/
theorem rested_move {d : Delivery σ ρ τ} {i : LoopInput} {s₁ s₂ s₃ : SuperLoop σ ρ τ}
    (hready : Ready d) (hno : ¬ Measures pl fs clock d i) (hclient : s₃.client = d.rearmed.client)
    (hnotifies : Delivery.notifies s₁ s₂ = []) : DeliveryMove (Measures pl fs clock d i) d
      ⟨{ s₃ with client := networkTask i.poll s₃.client }, d.notified ++ Delivery.notifies s₁ s₂,
        d.begun ++ Delivery.begins s₃.client⟩ := by
  obtain ⟨hflag, hfirst, hbuf, hsent⟩ := rearm_frame d.loop.client
  have hnotified : d.notified ++ Delivery.notifies s₁ s₂ = d.notified := by
    rw [hnotifies, List.append_nil]
  have hnotice := hready.notice
  cases hpend : d.loop.client.firstCall with
  | true =>
    have hdown : s₃.client.availableDataFlag ≠ true := by
      rw [hclient]
      show d.loop.client.rearm.availableDataFlag ≠ true
      rw [hflag, hnotice, hpend]
      exact Bool.false_ne_true
    have hbegins : Delivery.begins s₃.client = [] := if_neg fun hno => hdown hno.1
    refine .idle hpend ?_ hnotified ((congrArg (d.begun ++ ·) hbegins).trans (List.append_nil _))
    exact (networkTask_idle hdown).trans hclient
  | false =>
    have hup : s₃.client.availableDataFlag = true := by
      rw [hclient]
      show d.loop.client.rearm.availableDataFlag = true
      rw [hflag, hnotice, hpend]
      rfl
    have hbegins : Delivery.begins s₃.client = [] := by
      refine if_neg fun hno => ?_
      rw [hclient] at hno
      have hf := hfirst.symm.trans hno.2
      rw [hpend] at hf
      cases hf
    obtain ⟨body, hbody⟩ := hready.mailbox
    refine .pending hno body hpend hbody (called_of_client _ _ _ hup ?_ ?_) hnotified
      ((congrArg (d.begun ++ ·) hbegins).trans (List.append_nil _))
    · rw [hclient]
      exact hbuf.trans hbody
    · rw [hclient]
      exact hsent

/-- **Every iteration**, from where the notice is up exactly while a transaction is pending. -/
theorem delivery_move {d d' : Delivery σ ρ τ} {i : LoopInput} (hready : Ready d)
    (h : DeliveryStep pl fs clock logFs d i d') : DeliveryMove (Measures pl fs clock d i) d d' ∧
      d'.loop.processing.listOfObservers = SuperLoop.observers := by
  cases h with
  | @iteration s₁ s₂ s₃ hc hm hl =>
    obtain ⟨hproc, -, hclient, -⟩ := SuperLoop.configure_ok hc
    obtain ⟨hclient₃, hproc₃, -⟩ := loggerTask_frame hl
    have hobs : s₁.processing.listOfObservers = SuperLoop.observers := by
      rw [hproc]
      exact hready.observers
    by_cases hmeas : s₁.tick.taskRunFlag = 1
    · obtain ⟨-, -, -, hlist, -, record, -, -, hclient₂⟩ :=
        SuperLoop.measurementTask_runs hobs hmeas hm
      have hnotifies : Delivery.notifies s₁ s₂ = [record] := by
        unfold Delivery.notifies
        rw [if_pos hmeas, hclient₂]
        rfl
      rw [hclient] at hclient₂
      exact ⟨measured_move ⟨s₁, hc, hmeas⟩ (hclient₃.trans hclient₂) hnotifies,
        by rw [hproc₃]; exact hlist⟩
    · have hrests := SuperLoop.measurementTask_rests hmeas hm
      rw [hrests] at hclient₃ hproc₃
      have hno : ¬ Measures pl fs clock d i := by
        rintro ⟨s, hs, hf⟩
        cases hc.symm.trans hs
        exact hmeas hf
      exact ⟨rested_move hready hno (hclient₃.trans hclient) (if_neg hmeas),
        by rw [hproc₃]; exact hobs⟩

theorem step_ready : Preserved (DeliveryStep (σ := σ) (ρ := ρ) pl fs clock logFs) Ready := by
  intro d i d' hready h
  obtain ⟨hmove, hobs⟩ := delivery_move hready h
  have hbegun := hready.begun
  cases hmove with
  | idle hfirst hclient hnotified hbegun' =>
    obtain ⟨hflag, hf, hbuf, -⟩ := rearm_frame d.loop.client
    refine ⟨hobs, ?_, ?_, by rw [hnotified, hbegun']; exact hbegun⟩
    · rw [hclient, hbuf]
      exact hready.mailbox
    · rw [hclient, hflag, hf]
      exact hready.notice
  | pending _ body _ _ hcalled hnotified hbegun' =>
    exact ⟨hobs, ⟨body, hcalled.mailbox⟩, hcalled.notice, by rw [hnotified, hbegun']; exact hbegun⟩
  | begins record _ hcalled hnotified hbegun' =>
    refine ⟨hobs, ⟨record, hcalled.mailbox⟩, hcalled.notice, ?_⟩
    rw [hnotified, hbegun', List.length_append, List.length_append]
    omega
  | replaces _ record _ hcalled hnotified hbegun' =>
    refine ⟨hobs, ⟨record, hcalled.mailbox⟩, hcalled.notice, ?_⟩
    rw [hnotified, hbegun', List.length_append]
    omega

/-- While no measurement comes too early, every record has its transaction, and a pending one began
with what is in the mailbox. -/
structure Current (d : Delivery σ ρ τ) : Prop where
  begun : d.begun = d.notified
  pending : d.loop.client.firstCall = false → d.begun.getLast? = d.loop.client.pDataBuff

/-- What is sent in an iteration is what the mailbox held. -/
theorem Called.bodies {d d' : Delivery σ ρ τ} {body : CStr} (h : Called d d' body) :
    ∀ r ∈ d'.loop.client.manager.sent.drop d.loop.client.manager.sent.length, r.body = body := by
  obtain ⟨new, hnew, hbody⟩ := h.sent
  rw [hnew, List.drop_left]
  exact hbody

theorem step_delivers {d d' : Delivery σ ρ τ} {i : LoopInput} (hready : Ready d) (hcur : Current d)
    (h : DeliveryStep pl fs clock logFs d i d') (hbetween : MeasuresBetween pl fs clock ⟨d, i, d'⟩) :
    LinesDelivered ⟨d, i, d'⟩ ∧ Current d' := by
  obtain ⟨hmove, -⟩ := delivery_move hready h
  cases hmove with
  | idle hfirst hclient hnotified hbegun =>
    obtain ⟨-, hf, -, hsent⟩ := rearm_frame d.loop.client
    have hcur' : d'.begun = d'.notified := by rw [hbegun, hnotified, hcur.begun]
    refine ⟨⟨fun _ => hcur', ?_⟩, hcur', fun hpend => ?_⟩
    · simp [hclient, hsent]
    · rw [hclient, hf, hfirst] at hpend
      cases hpend
  | pending _ body hfirst hbody hcalled hnotified hbegun =>
    have hcur' : d'.begun = d'.notified := by rw [hbegun, hnotified, hcur.begun]
    have hlast : d'.begun.getLast? = some body := by rw [hbegun, hcur.pending hfirst, hbody]
    refine ⟨⟨fun _ => hcur', fun r hr => ?_⟩, hcur', fun _ => ?_⟩
    · rw [hcalled.bodies r hr]
      exact hlast
    · rw [hlast, hcalled.mailbox]
  | begins record hfirst hcalled hnotified hbegun =>
    have hcur' : d'.begun = d'.notified := by rw [hbegun, hnotified, hcur.begun]
    have hlast : d'.begun.getLast? = some record := by rw [hbegun, List.getLast?_concat]
    refine ⟨⟨fun _ => hcur', fun r hr => ?_⟩, hcur', fun _ => ?_⟩
    · rw [hcalled.bodies r hr]
      exact hlast
    · rw [hlast, hcalled.mailbox]
  | replaces hyes record hfirst _ _ _ =>
    have hno := hfirst.symm.trans (hbetween hyes)
    cases hno

/-- A pending transaction began before the last record, and its end lowers the notice of both. -/
structure Overtaken (d : Delivery σ ρ τ) : Prop where
  ready : Ready d
  pending : d.loop.client.firstCall = false
  fewer : d.begun.length < d.notified.length

/-- With a transaction too few, the iteration ends it and fails, or leaves it pending. -/
theorem fewer_overtaken {d d' : Delivery σ ρ τ} {i : LoopInput} (hready : Ready d')
    (hfewer : d'.begun.length < d'.notified.length) :
    ¬ LinesDelivered ⟨d, i, d'⟩ ∨ Overtaken d' := by
  cases hfirst : d'.loop.client.firstCall with
  | false => exact Or.inr ⟨hready, hfirst, hfewer⟩
  | true =>
    refine Or.inl fun hdel => ?_
    have hdown : d'.loop.client.availableDataFlag = false := by rw [hready.notice, hfirst]; rfl
    have heq : d'.begun = d'.notified := hdel.1 hdown
    rw [heq] at hfewer
    omega

theorem step_overtaken {d d' : Delivery σ ρ τ} {i : LoopInput} (hover : Overtaken d)
    (h : DeliveryStep pl fs clock logFs d i d') : ¬ LinesDelivered ⟨d, i, d'⟩ ∨ Overtaken d' := by
  obtain ⟨hready, hpend, hfewer⟩ := hover
  refine fewer_overtaken (step_ready _ _ _ hready h) ?_
  obtain ⟨hmove, -⟩ := delivery_move hready h
  cases hmove with
  | idle hfirst _ _ _ => cases hpend.symm.trans hfirst
  | pending _ _ _ _ _ hnotified hbegun =>
    rw [hnotified, hbegun]
    exact hfewer
  | begins _ hfirst _ _ _ => cases hpend.symm.trans hfirst
  | replaces _ _ _ _ hnotified hbegun =>
    rw [hnotified, hbegun, List.length_append]
    omega

theorem early_overtaken {d d' : Delivery σ ρ τ} {i : LoopInput} (hready : Ready d)
    (h : DeliveryStep pl fs clock logFs d i d')
    (hearly : ¬ MeasuresBetween pl fs clock ⟨d, i, d'⟩) :
    ¬ LinesDelivered ⟨d, i, d'⟩ ∨ Overtaken d' := by
  refine fewer_overtaken (step_ready _ _ _ hready h) ?_
  obtain ⟨hmeas, hpend⟩ := Classical.not_imp.mp hearly
  obtain ⟨hmove, -⟩ := delivery_move hready h
  have hbegun' := hready.begun
  cases hmove with
  | idle hfirst _ _ _ => exact absurd hfirst hpend
  | pending hno _ _ _ _ _ _ => exact absurd hmeas hno
  | begins _ hfirst _ _ _ => exact absurd hfirst hpend
  | replaces _ _ _ _ hnotified hbegun =>
    rw [hnotified, hbegun, List.length_append, List.length_singleton]
    omega

/-- The super loop before its first iteration. -/
theorem start_ready {url : CStr} {system : System σ ρ} {tick : TickState} {log : τ}
    {s : SuperLoop σ ρ τ} (h : SuperLoop.start pl logFs url system tick log = .ok s) :
    Ready (⟨s, [], []⟩ : Delivery σ ρ τ) ∧ Current (⟨s, [], []⟩ : Delivery σ ρ τ) := by
  cases h
  exact ⟨⟨rfl, ⟨_, rfl⟩, rfl, le_rfl⟩, rfl, nofun⟩

/-- **When every measurement is sent.** Over a run of the super loop from `main`, with every transaction
answered on its own, records are neither dropped nor replaced if none is notified while a transaction
is pending; in a run that ends with the notice down, exactly then. -/
theorem lines_delivered_iff {url : CStr} {system : System σ ρ} {tick : TickState} {log : τ}
    {s : SuperLoop σ ρ τ} {ts : List (Taken (Delivery σ ρ τ) LoopInput)} {d : Delivery σ ρ τ}
    (hstart : SuperLoop.start pl logFs url system tick log = .ok s)
    (h : Run (DeliveryStep pl fs clock logFs) ⟨s, [], []⟩ ts d) :
    ((∀ t ∈ ts, MeasuresBetween pl fs clock t) → ∀ t ∈ ts, LinesDelivered t) ∧
      (d.loop.client.availableDataFlag = false →
        ((∀ t ∈ ts, LinesDelivered t) ↔ ∀ t ∈ ts, MeasuresBetween pl fs clock t)) := by
  have hgood : ∀ t : Taken (Delivery σ ρ τ) LoopInput, Ready t.before ∧ Current t.before →
      DeliveryStep pl fs clock logFs t.before t.input t.after → MeasuresBetween pl fs clock t →
      LinesDelivered t ∧ Ready t.after ∧ Current t.after := fun t hinv hs hbetween => by
    obtain ⟨hdel, hcur⟩ := step_delivers hinv.1 hinv.2 hs hbetween
    exact ⟨hdel, step_ready _ _ _ hinv.1 hs, hcur⟩
  refine ⟨fun hall =>
    (h.sound (I := fun d => Ready d ∧ Current d) hgood (start_ready hstart) hall).1, fun hdown => ?_⟩
  refine h.settled_iff (I := fun d => Ready d ∧ Current d) hgood
    (fun t hinv hs hearly => early_overtaken hinv.1 hs hearly)
    (fun t hover hs => step_overtaken hover hs) (start_ready hstart) fun hover => ?_
  have hnotice := hover.ready.notice
  rw [hdown, hover.pending] at hnotice
  cases hnotice

/-! ## On the host -/

/-- A host with the default configuration, that nobody types at. -/
structure Unattended (s : System CFile Unit) : Prop where
  serial : s.serial = .idle
  signal : s.config.availableSignal ≠ .streamData
  metadata : s.config.metadata = defaultRecord LoggerMetadata.static
  period : s.measurementTaskPeriod = 60000

/-- An iteration without a line, `n` ticks after the last one. -/
def unattended (reading : Reading) (n : Nat) (events : List Event) : LoopInput :=
  ⟨none, n, ⟨0, 0⟩, 0, reading, 0, ⟨0, 0, events⟩⟩

/-- A reading a minute after `hostReading`. -/
def laterReading : Reading :=
  ⟨CStr.ofBytes (ascii "12:31:00"), CStr.ofBytes (ascii "01/02/2025"),
    some (CStr.ofBytes (ascii "26.000000")), some 71⟩

theorem default_period : getMeasurementPeriod (defaultRecord LoggerMetadata.static) = .ok 60000 := by
  obtain ⟨p, hp, hn⟩ := getMeasurementPeriod_ok (m := defaultRecord LoggerMetadata.static) (by decide)
  have hone : (defaultRecord LoggerMetadata.static).generalMeasurementPeriod.toNat = 1 := by decide
  rw [hone] at hn
  rw [hp, UInt32.toNat_inj.mp (hn.trans (by decide) : p.toNat = (60000 : UInt32).toNat)]

theorem unattended_boot : ∃ system, main .host cFileHandler blankClock ⟨0, 0⟩
    (powerOn ⟨none, none⟩ ()) = .ok system ∧ Unattended system := by
  obtain ⟨system, hboot, hmeta, hserial⟩ := hostFirstBoot ⟨0, 0⟩
  refine ⟨system, hboot, hserial, by rw [main_signal hboot]; exact nofun, hmeta, ?_⟩
  have hperiod := (main_cases hboot).2.1
  rw [hmeta, default_period] at hperiod
  exact (Except.ok.inj hperiod).symm

theorem unattended_configure {s : SuperLoop CFile Unit CFile} (hq : Unattended s.system)
    (reading : Reading) (n : Nat) (events : List Event) {t : TickState}
    (ht : tickTimes .host 60000 n s.tick = .ok t) :
    ∃ system, s.configure .host cFileHandler blankClock (unattended reading n events) =
      .ok { s with system := system, tick := t } ∧ Unattended system := by
  have hg : s.system.config.metadata.generalMeasurementPeriod.toNat ≤ 255 := by
    rw [hq.metadata]
    decide
  obtain ⟨system, htask, hserial, hmeta, hsignal, hperiod⟩ :=
    configurationTask_quiet .host cFileHandler blankClock ⟨0, 0⟩ hq.serial hq.signal hg
  refine ⟨system, bind_eq_ok.mpr ⟨t, ?_, bind_eq_ok.mpr ⟨system, htask, rfl⟩⟩, hserial, ?_, ?_, ?_⟩
  · rw [hq.period]
    exact ht
  · rw [hsignal]
    exact hq.signal
  · rw [hmeta]
    exact hq.metadata
  · rw [hperiod (by rw [hq.metadata, hq.period]; exact default_period)]
    exact hq.period

/-- Between the iterations of an unattended host. -/
structure HostReady (d : Delivery CFile Unit CFile) : Prop where
  system : Unattended d.loop.system
  log : LoopInv cAppendable d.loop
  ready : Ready d

/-- An iteration of an unattended host that measures. -/
theorem host_measures {d : Delivery CFile Unit CFile} (hd : HostReady d)
    (reading : Reading) (n : Nat) (events : List Event) {t : TickState}
    (ht : tickTimes .host 60000 n d.loop.tick = .ok t)
    (hflag : t.taskRunFlag = 1) : ∃ d' record h,
      DeliveryStep .host cFileHandler blankClock cFileHandler d (unattended reading n events) d' ∧
      HostReady d' ∧ Measures .host cFileHandler blankClock d (unattended reading n events) ∧
      record.bytes = (recordOf reading).take (msrdDataBuffSize - 1) ∧
      h = { d.loop.client.rearm with availableDataFlag := true, pDataBuff := some record } ∧
      d'.loop.client = networkTask ⟨0, 0, events⟩ h ∧ d'.notified = d.notified ++ [record] ∧
      d'.begun = d.begun ++ Delivery.begins h ∧ d'.loop.tick = ⟨t.tickCount, 0⟩ := by
  have hq : Unattended d.rearmed.system := hd.system
  have hinv : LoopInv cAppendable d.rearmed := ⟨hd.log.observers, hd.log.flag, hd.log.idle⟩
  obtain ⟨system, hc, hsystem⟩ := unattended_configure hq reading n events ht
  obtain ⟨hinv₁, -⟩ := configure_inv cAppendable hinv hc
  obtain ⟨s', htasks⟩ := tasks_ok cFileHandler (i := unattended reading n events) hinv₁.observers hflag rfl
  obtain ⟨hinv', -⟩ := tasks_measured cAppendable hinv₁ hflag (host_appends hinv₁ s') htasks
  obtain ⟨s₂, hm, htasks⟩ := bind_eq_ok.mp htasks
  obtain ⟨s₃, hl, htasks⟩ := bind_eq_ok.mp htasks
  simp only [Except.ok.injEq] at htasks
  subst htasks
  obtain ⟨hsys₂, -, -, -, ⟨tick, htick, htick₂⟩, record, -, hbytes, hclient₂⟩ :=
    SuperLoop.measurementTask_runs hinv₁.observers hflag hm
  obtain ⟨hclient₃, -, hsys₃, htick₃⟩ := loggerTask_frame hl
  rw [hclient₂] at hclient₃
  have hnotifies : Delivery.notifies { d.rearmed with system := system, tick := t } s₂ = [record] := by
    unfold Delivery.notifies
    rw [if_pos hflag, hclient₂]
    rfl
  have hstep := DeliveryStep.iteration hc hm hl
  refine ⟨_, record, s₃.client, hstep, ⟨?_, hinv', step_ready _ _ _ hd.ready hstep⟩,
    ⟨_, hc, hflag⟩, hbytes, hclient₃, rfl, congrArg (d.notified ++ ·) hnotifies, rfl, ?_⟩
  · rw [hsys₃, hsys₂]
    exact hsystem
  · cases htick
    rw [htick₃, htick₂]

/-- An iteration of an unattended host that does not. -/
theorem host_rests {d : Delivery CFile Unit CFile} (hd : HostReady d)
    (reading : Reading) (n : Nat) (events : List Event) {t : TickState}
    (ht : tickTimes .host 60000 n d.loop.tick = .ok t)
    (hflag : t.taskRunFlag ≠ 1) : ∃ d',
      DeliveryStep .host cFileHandler blankClock cFileHandler d (unattended reading n events) d' ∧
      d'.loop.client = networkTask ⟨0, 0, events⟩ d.loop.client.rearm ∧
      d'.notified = d.notified ∧ d'.begun = d.begun ++ Delivery.begins d.loop.client.rearm := by
  have hq : Unattended d.rearmed.system := hd.system
  obtain ⟨system, hc, hsystem⟩ := unattended_configure hq reading n events ht
  have hm : SuperLoop.measurementTask .host (unattended reading n events)
      { d.rearmed with system := system, tick := t } = .ok _ := if_neg hflag
  obtain ⟨s₃, hl⟩ : ∃ s₃, SuperLoop.loggerTask cFileHandler
      { d.rearmed with system := system, tick := t } = .ok s₃ := by
    unfold SuperLoop.loggerTask LoggerManager.getAvailableDataFlag
    have hdown : d.rearmed.logger.availableData = false := hd.log.flag
    simp only [hdown, Bool.false_eq_true, if_false]
    exact ⟨_, rfl⟩
  have hclient₃ : s₃.client = d.loop.client.rearm := (loggerTask_frame hl).1
  have hnotifies : Delivery.notifies { d.rearmed with system := system, tick := t }
      { d.rearmed with system := system, tick := t } = [] := if_neg hflag
  refine ⟨_, .iteration hc hm hl, congrArg (networkTask _) hclient₃,
    (congrArg (d.notified ++ ·) hnotifies).trans (List.append_nil _),
    congrArg (fun h => d.begun ++ Delivery.begins h) hclient₃⟩

/-- A host in front of the super loop with `n` ticks counted. -/
theorem host_start (n : UInt64) : ∃ system s, main .host cFileHandler blankClock ⟨0, 0⟩
      (powerOn ⟨none, none⟩ ()) = .ok system ∧
    SuperLoop.start .host cFileHandler httpServerIP system ⟨n, 1⟩ (⟨none, none⟩ : CFile) = .ok s ∧
    HostReady ⟨s, [], []⟩ ∧ s.tick = ⟨n, 1⟩ ∧
    ∃ mailbox, s.client = (HttpClient.init httpServerIP).setMailBox mailbox := by
  obtain ⟨system, hboot, hq⟩ := unattended_boot
  obtain ⟨s, hs, hsys, htick, -⟩ :=
    SuperLoop.start_ok .host cFileHandler httpServerIP system ⟨n, 1⟩ (⟨none, none⟩ : CFile)
  have hclient : ∃ mailbox, s.client = (HttpClient.init httpServerIP).setMailBox mailbox := by
    cases hs
    exact ⟨_, rfl⟩
  exact ⟨system, s, hboot, hs, ⟨by rw [hsys]; exact hq, (noLog_start hs).1,
    (start_ready hs).1⟩, htick, hclient⟩

/-- The first measurement is sent and answered at once. -/
theorem lines_delivered_first : ∃ system s ts d, main .host cFileHandler blankClock ⟨0, 0⟩
      (powerOn ⟨none, none⟩ ()) = .ok system ∧
    SuperLoop.start .host cFileHandler httpServerIP system ⟨10, 1⟩ (⟨none, none⟩ : CFile) = .ok s ∧
    Run (DeliveryStep .host cFileHandler blankClock cFileHandler) ⟨s, [], []⟩ ts d ∧
    d.notified.length = 1 ∧ d.loop.client.availableDataFlag = false ∧ ∀ t ∈ ts, LinesDelivered t := by
  obtain ⟨system, s, hboot, hs, hd, htick, mailbox, hclient⟩ := host_start 10
  obtain ⟨d, record, h, hstep, -, -, -, hh, hclient', hnotified, -, -⟩ :=
    host_measures hd hostReading 0 [.connect 0, .httpMsg 0] (t := ⟨10, 1⟩) (congrArg Except.ok htick) rfl
  have hrun := Run.cons hstep (.nil _)
  refine ⟨system, s, _, d, hboot, hs, hrun, by simp [hnotified], ?_, (lines_delivered_iff hs hrun).1 ?_⟩
  · rw [hclient', hh, hclient]
    rfl
  · intro t ht
    rw [List.mem_singleton.mp ht]
    intro _
    rw [hclient]
    rfl

/-- The second measurement comes before the first one's connection: the transaction that began with the first
record sends the second one, and the response lowers the notice of both. -/
theorem measurement_replaced_fails : ∃ system s ts d r₁ r₂,
    main .host cFileHandler blankClock ⟨0, 0⟩ (powerOn ⟨none, none⟩ ()) = .ok system ∧
    SuperLoop.start .host cFileHandler httpServerIP system ⟨59999, 1⟩ (⟨none, none⟩ : CFile) = .ok s ∧
    Run (DeliveryStep .host cFileHandler blankClock cFileHandler) ⟨s, [], []⟩ ts d ∧
    ts.map Taken.input = [unattended hostReading 0 [], unattended laterReading 1 [.connect 0],
      unattended laterReading 0 [.httpMsg 0]] ∧
    r₁ ≠ r₂ ∧ d.notified = [r₁, r₂] ∧ d.begun = [r₁] ∧
    d.loop.client.manager.sent = [⟨0, httpServerIP, r₂⟩] ∧ d.loop.client.availableDataFlag = false ∧
    ¬ ∀ t ∈ ts, LinesDelivered t := by
  obtain ⟨system, s, hboot, hs, hd, htick, mailbox, hclient⟩ := host_start 59999
  obtain ⟨d₁, r₁, h₁, hstep₁, hd₁, -, hr₁, hh₁, hclient₁, hnotified₁, hbegun₁, htick₁⟩ :=
    host_measures hd hostReading 0 [] (t := ⟨59999, 1⟩) (congrArg Except.ok htick) rfl
  obtain ⟨d₂, r₂, h₂, hstep₂, hd₂, -, hr₂, hh₂, hclient₂, hnotified₂, hbegun₂, htick₂⟩ :=
    host_measures hd₁ laterReading 1 [.connect 0] (t := ⟨60000, 1⟩) (by rw [htick₁]; rfl) rfl
  obtain ⟨d₃, hstep₃, hclient₃, hnotified₃, hbegun₃⟩ :=
    host_rests hd₂ laterReading 0 [.httpMsg 0] (t := ⟨60000, 0⟩) (congrArg Except.ok htick₂) (by decide)
  rw [hclient] at hh₁
  have hpending₁ : d₁.loop.client =
      ⟨0, true, httpServerIP, false, some r₁, ⟨false, false, 1, []⟩⟩ := by
    rw [hclient₁, hh₁]
    simp [networkTask, postSensorData, httpConnectPost, connect, poll, timeout, HttpClient.rearm,
      HttpClient.init, HttpClient.setMailBox, NetworkManager.init]
  rw [hpending₁] at hh₂
  have hpending₂ : d₂.loop.client =
      ⟨0, true, httpServerIP, false, some r₂, ⟨false, false, 1, [⟨0, httpServerIP, r₂⟩]⟩⟩ := by
    rw [hclient₂, hh₂]
    simp [networkTask, postSensorData, httpConnectPost, connect, poll, mgEventHandler, timeout,
      HttpClient.rearm]
  rw [hpending₂] at hclient₃ hbegun₃
  have hdiffer : r₁ ≠ r₂ := by
    intro heq
    rw [heq, hr₂] at hr₁
    exact absurd hr₁ (by decide)
  have hnotified : d₃.notified = [r₁, r₂] := by
    rw [hnotified₃, hnotified₂, hnotified₁]
    rfl
  have hbegun : d₃.begun = [r₁] := by
    rw [hbegun₃, hbegun₂, hbegun₁, hh₁, hh₂]
    simp [Delivery.begins, HttpClient.rearm, HttpClient.init, HttpClient.setMailBox]
  have hdown : d₃.loop.client.availableDataFlag = false := by
    rw [hclient₃]
    rfl
  have hsent : d₃.loop.client.manager.sent = [⟨0, httpServerIP, r₂⟩] := by
    rw [hclient₃]
    rfl
  refine ⟨system, s, _, d₃, r₁, r₂, hboot, hs, .cons hstep₁ (.cons hstep₂ (.cons hstep₃ (.nil _))), rfl,
    hdiffer, hnotified, hbegun, hsent, hdown, fun hall => ?_⟩
  have heq : d₃.begun = d₃.notified := (hall _ (List.mem_of_getLast? rfl)).1 hdown
  rw [hbegun, hnotified] at heq
  cases heq

end GenLogger.Network
