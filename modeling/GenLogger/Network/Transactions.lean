import GenLogger.Lib.Run
import GenLogger.Network.HttpClient

/-!
# Transactions

A transaction is the calls of `postSensorData` since the previous definite result, up to its own.

* `Session` is the client with the record of the current transaction, which is not part of the
  program.
* `SessionStep` is any call, with any clock that does not go back and any events mongoose may deliver.
* `SessionInv` is the invariant: between calls nothing has been delivered to the current transaction,
  and what was opened since its start is on record.

Two latches decide what a transaction does, and neither is reset for a new one: `done` is never
lowered, and `networkManager::_firstCall` is raised by a response only, while the client starts a
transaction after a timeout too.

Results:
* `success_latched`: after the first response `postSensorData` returns true at once.
* `success_own_iff` (a success has its own response) says when this does no harm: when every call that
  finds `done` up, or is delivered the response of an earlier connection, is delivered the
  transaction's own response as well.
* `connects_once_iff` (one `mg_http_connect` for each transaction): exactly when the latch is up at
  the start of every transaction that ends, and there is something to send.
-/

namespace GenLogger.Network

open GenLogger.Lib

/-! ## What a call does -/

/-- The responses among the events, by their connections. -/
def responses (events : List Event) : List Nat :=
  events.filterMap fun
    | .connect _ => none
    | .httpMsg c => some c

theorem mem_responses {events : List Event} {c : Nat} :
    c ∈ responses events ↔ .httpMsg c ∈ events := by
  unfold responses
  rw [List.mem_filterMap]
  constructor
  · rintro ⟨e, he, hc⟩
    cases e with
    | connect _ => cases hc
    | httpMsg _ =>
      cases hc
      exact he
  · intro h
    exact ⟨_, h, rfl⟩

theorem answered_iff {events : List Event} : Answered events ↔ ∃ c, c ∈ responses events :=
  exists_congr fun _ => mem_responses.symm

/-- Where the timer of the current request stands. -/
def HttpClient.timer (h : HttpClient) (i : PollInput) : UInt64 :=
  if h.firstCall = true then i.first else h.connTimer

/-- The call has a definite result: there is nothing to send, a response is there (latched, or in the
poll), or time is up. -/
def Ends (i : PollInput) (h : HttpClient) : Prop :=
  h.pDataBuff = none ∨ h.manager.done = true ∨ Answered i.events ∨ timeout < i.second - h.timer i

theorem postSensorData_none {i : PollInput} {h : HttpClient} (hbuf : h.pDataBuff = none) :
    postSensorData i h = (some false, h) := by
  unfold postSensorData
  rw [hbuf]

/-- `connect` opens a connection where the latch is up, and lowers it. -/
theorem connect_spec (m : NetworkManager) :
    (connect m).done = m.done ∧ (connect m).firstCall = false ∧
      (connect m).opened = m.opened + if m.firstCall = true then 1 else 0 := by
  unfold connect
  by_cases hf : m.firstCall = true
  · rw [if_pos hf, if_pos hf]
    exact ⟨rfl, rfl, rfl⟩
  · rw [if_neg hf, if_neg hf]
    exact ⟨rfl, Bool.eq_false_iff.mpr hf, rfl⟩

/-- What `postSensorData` does with something to send. -/
structure Posted (i : PollInput) (h : HttpClient) (r : Option Bool × HttpClient) : Prop where
  manager : ∃ body, h.pDataBuff = some body ∧
    r.2.manager = poll h.pURL body i.events (connect h.manager)
  opened : r.2.manager.opened = h.manager.opened + if h.manager.firstCall = true then 1 else 0
  done : r.2.manager.done = true ↔ h.manager.done = true ∨ Answered i.events
  latch : r.2.manager.firstCall = true ↔ Answered i.events
  result : r.1 = if r.2.manager.done = true then some true
    else if i.second - h.timer i > timeout then some false else none

theorem postSensorData_posted {i : PollInput} {h : HttpClient} (hbuf : h.pDataBuff ≠ none) :
    Posted i h (postSensorData i h) := by
  obtain ⟨body, hbody⟩ := Option.ne_none_iff_exists'.mp hbuf
  obtain ⟨timer, flag, url, first, buf, m⟩ := h
  simp only at hbody
  subst hbody
  obtain ⟨hcd, hcf, hco⟩ := connect_spec m
  obtain ⟨hpo, hpd, hpf⟩ := poll_spec url body i.events (connect m)
  rw [hcd] at hpd
  rw [hcf] at hpf
  rw [hco] at hpo
  have hlatch : (poll url body i.events (connect m)).firstCall = true ↔ Answered i.events := by
    rw [hpf]
    simp
  have hpost : postSensorData i ⟨timer, flag, url, first, some body, m⟩ =
      if (poll url body i.events (connect m)).done = true then
        (some true, ⟨if first = true then i.first else timer, flag, url, true, some body,
          poll url body i.events (connect m)⟩)
      else if i.second - (if first = true then i.first else timer) > timeout then
        (some false, ⟨if first = true then i.first else timer, flag, url, true, some body,
          poll url body i.events (connect m)⟩)
      else (none, ⟨if first = true then i.first else timer, flag, url, false, some body,
        poll url body i.events (connect m)⟩) := by
    unfold postSensorData httpConnectPost
    cases first with
    | false =>
      simp only [Bool.false_eq_true, if_false]
      cases (poll url body i.events (connect m)).done <;> rfl
    | true =>
      simp only [if_true]
      cases (poll url body i.events (connect m)).done <;> rfl
  rw [hpost]
  by_cases hd : (poll url body i.events (connect m)).done = true
  · rw [if_pos hd]
    exact ⟨⟨body, rfl, rfl⟩, hpo, hpd, hlatch, (if_pos hd).symm⟩
  · rw [if_neg hd]
    by_cases ht : i.second - (if first = true then i.first else timer) > timeout
    · rw [if_pos ht]
      exact ⟨⟨body, rfl, rfl⟩, hpo, hpd, hlatch, ((if_neg hd).trans (if_pos ht)).symm⟩
    · rw [if_neg ht]
      exact ⟨⟨body, rfl, rfl⟩, hpo, hpd, hlatch, ((if_neg hd).trans (if_neg ht)).symm⟩

theorem postSensorData_true_iff {i : PollInput} {h : HttpClient} :
    (postSensorData i h).1 = some true ↔
      h.pDataBuff ≠ none ∧ (h.manager.done = true ∨ Answered i.events) := by
  by_cases hbuf : h.pDataBuff = none
  · rw [postSensorData_none hbuf]
    constructor
    · intro hf
      cases hf
    · rintro ⟨hne, -⟩
      exact absurd hbuf hne
  · have hp := postSensorData_posted (i := i) hbuf
    rw [hp.result, ← hp.done]
    constructor
    · intro hr
      refine ⟨hbuf, ?_⟩
      by_contra hno
      rw [if_neg hno] at hr
      split at hr <;> cases hr
    · rintro ⟨-, hd⟩
      exact if_pos hd

theorem postSensorData_ends_iff {i : PollInput} {h : HttpClient} :
    (postSensorData i h).1.isSome = true ↔ Ends i h := by
  unfold Ends
  by_cases hbuf : h.pDataBuff = none
  · rw [postSensorData_none hbuf]
    exact ⟨fun _ => Or.inl hbuf, fun _ => rfl⟩
  · have hp := postSensorData_posted (i := i) hbuf
    rw [hp.result]
    by_cases hd : h.manager.done = true ∨ Answered i.events
    · rw [if_pos (hp.done.mpr hd)]
      refine ⟨fun _ => Or.inr ?_, fun _ => rfl⟩
      rcases hd with hd | ha
      · exact Or.inl hd
      · exact Or.inr (Or.inl ha)
    · rw [if_neg (mt hp.done.mp hd)]
      by_cases ht : i.second - h.timer i > timeout
      · rw [if_pos ht]
        exact ⟨fun _ => Or.inr (Or.inr (Or.inr ht)), fun _ => rfl⟩
      · rw [if_neg ht]
        constructor
        · intro hf
          cases hf
        · rintro (hn | hdone | ha | htime)
          · exact absurd hn hbuf
          · exact absurd (Or.inl hdone) hd
          · exact absurd (Or.inr ha) hd
          · exact absurd htime ht

/-! ## Sessions -/

/-- The client, and (not part of the program) the clock and the record of the current transaction. -/
structure Session where
  client : HttpClient
  now : UInt64
  /-- How many connections were opened before the transaction. -/
  base : Nat
  /-- `networkManager::_firstCall` when the transaction began. -/
  armed : Bool
  /-- The transaction has had a call. -/
  started : Bool
  /-- The connections whose responses the transaction was delivered. -/
  delivered : List Nat

/-- A constructed client. -/
def Session.start (url : CStr) (now : UInt64) : Session := ⟨.init url, now, 0, true, false, []⟩

/-- What the rest of the program does to the client. -/
inductive Input where
  | post (i : PollInput)
  | task (i : PollInput)
  | update
  | setMailBox (pDataBuff : Option CStr)

/-- The call of `postSensorData` an input makes. -/
def Session.calls (s : Session) : Input → Option PollInput
  | .post i => some i
  | .task i => if s.client.availableDataFlag = true then some i else none
  | .update => none
  | .setMailBox _ => none

/-- The session after a call that left `client`. A definite result ends the transaction. -/
def Session.called (s : Session) (i : PollInput) (client : HttpClient) : Session :=
  if (postSensorData i s.client).1.isSome = true then
    ⟨client, i.second, client.manager.opened, client.manager.firstCall, false, []⟩
  else ⟨client, i.second, s.base, s.armed, true, s.delivered ++ responses i.events⟩

/-- The clock does not go back, and mongoose delivers what it may. -/
structure Possible (s : Session) (i : PollInput) : Prop where
  first : s.now ≤ i.first
  second : i.first ≤ i.second
  events : ∀ body, s.client.pDataBuff = some body →
    Deliverable s.client.pURL body (connect s.client.manager) i.events

/-- A call on the client. `networkTask` polls only while there is something to send. -/
inductive SessionStep : Session → Input → Session → Prop
  | post {s : Session} {i : PollInput} (h : Possible s i) :
      SessionStep s (.post i) (s.called i (postSensorData i s.client).2)
  | task {s : Session} {i : PollInput} (hflag : s.client.availableDataFlag = true)
      (h : Possible s i) : SessionStep s (.task i) (s.called i (networkTask i s.client))
  | idle {s : Session} {i : PollInput} (hflag : s.client.availableDataFlag ≠ true) :
      SessionStep s (.task i) { s with client := networkTask i s.client }
  | update {s : Session} : SessionStep s .update { s with client := s.client.update }
  | setMailBox {s : Session} (pDataBuff : Option CStr) :
      SessionStep s (.setMailBox pDataBuff) { s with client := s.client.setMailBox pDataBuff }

/-- A success has the response of a connection the transaction opened. -/
def SuccessOwn (t : Taken Session Input) : Prop :=
  ∀ i, t.before.calls t.input = some i → (postSensorData i t.before.client).1 = some true →
    ∃ c ∈ t.before.delivered ++ responses i.events,
      t.before.base ≤ c ∧ c < t.after.client.manager.opened

/-- If the call finds `done` up, or is delivered the response of an earlier connection, it is
delivered the response of the transaction's own connection too. -/
def LatchHarmless (t : Taken Session Input) : Prop :=
  ∀ i, t.before.calls t.input = some i → t.before.client.pDataBuff ≠ none →
    (t.before.client.manager.done = true ∨ ∃ c, .httpMsg c ∈ i.events ∧ c < t.before.base) →
    ∃ c, .httpMsg c ∈ i.events ∧ t.before.base ≤ c

/-- A transaction that ends has opened one connection. -/
def ConnectsOnce (t : Taken Session Input) : Prop :=
  ∀ i, t.before.calls t.input = some i → (postSensorData i t.before.client).1.isSome = true →
    t.after.client.manager.opened = t.before.base + 1

/-- A transaction that ends began with the manager's latch up, and had something to send in its first
call. -/
def BeganArmed (t : Taken Session Input) : Prop :=
  ∀ i, t.before.calls t.input = some i → Ends i t.before.client →
    t.before.armed = true ∧ (t.before.started = true ∨ t.before.client.pDataBuff ≠ none)

/-! ## The invariant -/

/-- Requests are sent on connections that were opened. -/
def SentOpened (m : NetworkManager) : Prop := ∀ r ∈ m.sent, r.conn < m.opened

theorem connect_sentOpened {m : NetworkManager} (h : SentOpened m) : SentOpened (connect m) := by
  unfold connect
  by_cases hf : m.firstCall = true
  · rw [if_pos hf]
    exact fun r hr => Nat.lt_succ_of_lt (h r hr)
  · rw [if_neg hf]
    exact h

/-- What mongoose may deliver keeps it, and the responses are those of open connections. -/
theorem poll_sentOpened {url body : CStr} : ∀ {events : List Event} {m : NetworkManager},
    Deliverable url body m events → SentOpened m →
      SentOpened (poll url body events m) ∧ ∀ c, .httpMsg c ∈ events → c < m.opened
  | [], m, _, h => ⟨h, fun c hc => absurd hc List.not_mem_nil⟩
  | .connect c :: es, m, hd, h => by
    obtain ⟨hc, hd⟩ := hd
    have hsent : SentOpened (mgEventHandler url body m (.connect c)) := by
      intro r hr
      rcases List.mem_append.mp hr with hr | hr
      · exact h r hr
      · rw [List.mem_singleton.mp hr]
        exact hc
    obtain ⟨hp, hresp⟩ := poll_sentOpened hd hsent
    refine ⟨hp, fun c' hc' => ?_⟩
    rcases List.mem_cons.mp hc' with heq | hc'
    · cases heq
    · exact hresp c' hc'
  | .httpMsg c :: es, m, hd, h => by
    obtain ⟨⟨r, hr, hrc⟩, hd⟩ := hd
    have hsent : SentOpened (mgEventHandler url body m (.httpMsg c)) := h
    obtain ⟨hp, hresp⟩ := poll_sentOpened hd hsent
    refine ⟨hp, fun c' hc' => ?_⟩
    rcases List.mem_cons.mp hc' with heq | hc'
    · cases heq
      rw [← hrc]
      exact h r hr
    · exact hresp c' hc'

/-- The invariant of a session: between calls nothing has been delivered to the current transaction,
and while it runs the manager's latch is down and the transaction has opened a connection exactly if
it began with the latch up. -/
structure SessionInv (s : Session) : Prop where
  delivered : s.delivered = []
  sent : SentOpened s.client.manager
  fresh : s.started = false →
    s.client.manager.opened = s.base ∧ s.client.manager.firstCall = s.armed
  running : s.started = true → s.client.manager.firstCall = false ∧
    s.client.manager.opened = s.base + if s.armed = true then 1 else 0

theorem start_inv (url : CStr) (now : UInt64) : SessionInv (Session.start url now) := by
  refine ⟨rfl, ?_, fun _ => ⟨rfl, rfl⟩, nofun⟩
  intro r hr
  cases hr

/-- What a call with something to send has opened at its end. -/
theorem SessionInv.opened {s : Session} (hinv : SessionInv s) {i : PollInput}
    (hbuf : s.client.pDataBuff ≠ none) :
    (postSensorData i s.client).2.manager.opened = s.base + if s.armed = true then 1 else 0 := by
  rw [(postSensorData_posted hbuf).opened]
  by_cases hstart : s.started = true
  · obtain ⟨hlatch, hopen⟩ := hinv.running hstart
    rw [hopen, hlatch]
    rfl
  · obtain ⟨hopen, harmed⟩ := hinv.fresh (Bool.eq_false_iff.mpr hstart)
    rw [hopen, harmed]

/-- What the poll of a call delivers is of open connections. -/
theorem SessionInv.polled {s : Session} (hinv : SessionInv s) {i : PollInput} (hposs : Possible s i)
    (hbuf : s.client.pDataBuff ≠ none) :
    SentOpened (postSensorData i s.client).2.manager ∧
      ∀ c, .httpMsg c ∈ i.events → c < (postSensorData i s.client).2.manager.opened := by
  obtain ⟨body, hbody, hm⟩ := (postSensorData_posted (i := i) hbuf).manager
  have hdel := hposs.events body hbody
  obtain ⟨hsent, hresp⟩ := poll_sentOpened hdel (connect_sentOpened hinv.sent)
  rw [hm]
  refine ⟨hsent, fun c hc => ?_⟩
  rw [(poll_spec _ body i.events _).1]
  exact hresp c hc

/-- A call keeps the invariant. -/
theorem called_inv {s : Session} {i : PollInput} {client : HttpClient} (hinv : SessionInv s)
    (hposs : Possible s i) (hm : client.manager = (postSensorData i s.client).2.manager) :
    SessionInv (s.called i client) := by
  have hsent : SentOpened client.manager := by
    rw [hm]
    by_cases hbuf : s.client.pDataBuff = none
    · rw [postSensorData_none hbuf]
      exact hinv.sent
    · exact (hinv.polled hposs hbuf).1
  unfold Session.called
  by_cases hend : (postSensorData i s.client).1.isSome = true
  · rw [if_pos hend]
    exact ⟨rfl, hsent, fun _ => ⟨rfl, rfl⟩, nofun⟩
  · rw [if_neg hend]
    have hno : ¬ Ends i s.client := mt postSensorData_ends_iff.mpr hend
    have hbuf : s.client.pDataBuff ≠ none := fun h => hno (Or.inl h)
    have hquiet : ¬ Answered i.events := fun h => hno (Or.inr (Or.inr (Or.inl h)))
    have hnil : responses i.events = [] := by
      rw [List.eq_nil_iff_forall_not_mem]
      intro c hc
      exact hquiet (answered_iff.mpr ⟨c, hc⟩)
    refine ⟨?_, hsent, nofun, fun _ => ⟨?_, ?_⟩⟩
    · rw [hinv.delivered, hnil]
      rfl
    · rw [hm]
      exact Bool.eq_false_iff.mpr (mt (postSensorData_posted hbuf).latch.mp hquiet)
    · rw [hm]
      exact hinv.opened hbuf

/-- `networkTask` calls `postSensorData` where the flag is up. -/
theorem networkTask_manager {i : PollInput} {h : HttpClient} (hflag : h.availableDataFlag = true) :
    (networkTask i h).manager = (postSensorData i h).2.manager := by
  unfold networkTask
  rw [if_pos hflag]
  by_cases hend : (postSensorData i h).1.isSome = true
  · simp only [hend, if_true, HttpClient.setRunTaskFlag]
  · simp only [hend, Bool.false_eq_true, if_false]

theorem networkTask_idle {i : PollInput} {h : HttpClient} (hflag : h.availableDataFlag ≠ true) :
    networkTask i h = h := by
  unfold networkTask
  rw [if_neg hflag]

theorem sessionStep_inv : Preserved SessionStep SessionInv := by
  intro s i s' hinv h
  cases h with
  | post hposs => exact called_inv hinv hposs rfl
  | task hflag hposs => exact called_inv hinv hposs (networkTask_manager hflag)
  | idle hflag =>
    rw [networkTask_idle hflag]
    exact hinv
  | update => exact ⟨hinv.delivered, hinv.sent, hinv.fresh, hinv.running⟩
  | setMailBox p => exact ⟨hinv.delivered, hinv.sent, hinv.fresh, hinv.running⟩

/-! ## One call -/

/-- A step that calls `postSensorData` leaves the manager the call leaves. -/
theorem sessionStep_call {s s' : Session} {inp : Input} {i : PollInput} (h : SessionStep s inp s')
    (hi : s.calls inp = some i) :
    Possible s i ∧ s'.client.manager = (postSensorData i s.client).2.manager := by
  have hcalled : ∀ client : HttpClient, (s.called i client).client = client := by
    intro client
    unfold Session.called
    split <;> rfl
  cases h with
  | post hposs =>
    cases hi
    rw [hcalled]
    exact ⟨hposs, rfl⟩
  | task hflag hposs =>
    cases (if_pos hflag).symm.trans hi
    rw [hcalled]
    exact ⟨hposs, networkTask_manager hflag⟩
  | idle hflag =>
    cases (if_neg hflag).symm.trans hi
  | update => cases hi
  | setMailBox p => cases hi

/-- **A success.** A call that succeeds has its own response exactly where the latch did no harm. -/
theorem successOwn_iff {t : Taken Session Input} (hinv : SessionInv t.before)
    (h : SessionStep t.before t.input t.after) : SuccessOwn t ↔ LatchHarmless t := by
  refine forall_congr' fun i => forall_congr' fun hi => ?_
  obtain ⟨hposs, hm⟩ := sessionStep_call h hi
  rw [hinv.delivered, List.nil_append, hm]
  constructor
  · intro hown hbuf hlate
    have hdone : t.before.client.manager.done = true ∨ Answered i.events := by
      rcases hlate with hd | ⟨c, hc, -⟩
      · exact Or.inl hd
      · exact Or.inr ⟨c, hc⟩
    obtain ⟨c, hc, hbase, -⟩ := hown (postSensorData_true_iff.mpr ⟨hbuf, hdone⟩)
    exact ⟨c, mem_responses.mp hc, hbase⟩
  · intro hlatch htrue
    obtain ⟨hbuf, hdone⟩ := postSensorData_true_iff.mp htrue
    have hown : ∃ c, .httpMsg c ∈ i.events ∧ t.before.base ≤ c := by
      by_cases hd : t.before.client.manager.done = true
      · exact hlatch hbuf (Or.inl hd)
      · obtain ⟨c, hc⟩ := hdone.resolve_left hd
        by_cases hbase : t.before.base ≤ c
        · exact ⟨c, hc, hbase⟩
        · exact hlatch hbuf (Or.inr ⟨c, hc, Nat.lt_of_not_le hbase⟩)
    obtain ⟨c, hc, hbase⟩ := hown
    exact ⟨c, mem_responses.mpr hc, hbase, (hinv.polled hposs hbuf).2 c hc⟩

/-- **The end of a transaction.** It has opened one connection exactly where it began armed. -/
theorem connectsOnce_iff {t : Taken Session Input} (hinv : SessionInv t.before)
    (h : SessionStep t.before t.input t.after) : ConnectsOnce t ↔ BeganArmed t := by
  refine forall_congr' fun i => forall_congr' fun hi => ?_
  rw [(sessionStep_call h hi).2, postSensorData_ends_iff]
  refine imp_congr_right fun _ => ?_
  by_cases hbuf : t.before.client.pDataBuff = none
  · rw [postSensorData_none hbuf]
    by_cases hstart : t.before.started = true
    · rw [(hinv.running hstart).2]
      simp [hstart]
    · rw [(hinv.fresh (Bool.eq_false_iff.mpr hstart)).1]
      simp [hstart, hbuf]
  · rw [hinv.opened hbuf]
    simp [hbuf]

/-! ## Runs -/

/-- No step lowers `done`. -/
theorem sessionStep_done : Preserved SessionStep fun s => s.client.manager.done = true := by
  intro s i s' hdone h
  by_cases hcall : ∃ p, s.calls i = some p
  · obtain ⟨p, hp⟩ := hcall
    rw [(sessionStep_call h hp).2]
    by_cases hbuf : s.client.pDataBuff = none
    · rw [postSensorData_none hbuf]
      exact hdone
    · exact (postSensorData_posted hbuf).done.mpr (Or.inl hdone)
  · cases h with
    | post _ => exact absurd ⟨_, rfl⟩ hcall
    | task hflag _ => exact absurd ⟨_, if_pos hflag⟩ hcall
    | idle hflag =>
      rw [networkTask_idle hflag]
      exact hdone
    | update => exact hdone
    | setMailBox p => exact hdone

/-- **After the first response** every call with something to send succeeds, whatever is delivered. -/
theorem success_latched {ts : List (Taken Session Input)} {s s' : Session}
    (h : Run SessionStep s ts s') (hdone : s.client.manager.done = true) (i : PollInput)
    (hbuf : s'.client.pDataBuff ≠ none) : (postSensorData i s'.client).1 = some true := by
  have hlatched : s'.client.manager.done = true :=
    h.invariant (I := fun s => s.client.manager.done = true) sessionStep_done hdone
  exact postSensorData_true_iff.mpr ⟨hbuf, Or.inl hlatched⟩

/-- **When a success is its own.** In a run of a constructed client every success has a response of a
connection its transaction opened, delivered to that transaction, exactly when in every call a latched
response or one of an earlier connection comes with the transaction's own. -/
theorem success_own_iff {url : CStr} {now : UInt64} {ts : List (Taken Session Input)} {s : Session}
    (h : Run SessionStep (Session.start url now) ts s) :
    (∀ t ∈ ts, SuccessOwn t) ↔ ∀ t ∈ ts, LatchHarmless t :=
  h.forall_iff sessionStep_inv (fun _ hinv hs => successOwn_iff hinv hs) (start_inv url now)

/-- **When a transaction connects once.** In a run of a constructed client every transaction that
ends has called `mg_http_connect` exactly once, exactly when every one of them began with the
manager's latch up and had something to send. -/
theorem connects_once_iff {url : CStr} {now : UInt64} {ts : List (Taken Session Input)} {s : Session}
    (h : Run SessionStep (Session.start url now) ts s) :
    (∀ t ∈ ts, ConnectsOnce t) ↔ ∀ t ∈ ts, BeganArmed t :=
  h.forall_iff sessionStep_inv (fun _ hinv hs => connectsOnce_iff hinv hs) (start_inv url now)

/-! ## A host client -/

/-- A constructed client of the host's test server. -/
def hostStart : Session := Session.start (CStr.ofBytes (ascii "127.0.0.1:8081")) 0

/-- A record to send. -/
def hostRecord : Option CStr := some (CStr.ofBytes (ascii "12:30:00;20.500000;40"))

/-- The client with its mailbox set. -/
def hostSession : Session := { hostStart with client := hostStart.client.setMailBox hostRecord }

/-- The session after a direct call. -/
def Session.post (i : PollInput) (s : Session) : Session := s.called i (postSensorData i s.client).2

theorem host_setMailBox : SessionStep hostStart (.setMailBox hostRecord) hostSession := .setMailBox _

/-- A poll that connects and is answered. -/
def answeredPoll : PollInput := ⟨0, 0, [.connect 0, .httpMsg 0]⟩

theorem host_answered :
    SessionStep hostSession (.post answeredPoll) (hostSession.post answeredPoll) := by
  refine .post ⟨Nat.le_refl _, Nat.le_refl _, fun body _ => ?_⟩
  exact ⟨Nat.zero_lt_one, ⟨_, List.mem_cons_self, rfl⟩, trivial⟩

/-- A poll without events takes any time. -/
theorem host_silent {s : Session} {first second : UInt64} (h : s.now ≤ first) (h' : first ≤ second) :
    SessionStep s (.post ⟨first, second, []⟩) (s.post ⟨first, second, []⟩) :=
  .post ⟨h, h', fun _ _ => trivial⟩

/-- An answered first transaction: its success is its own. -/
theorem success_own_first : ∃ ts s, Run SessionStep hostStart ts s ∧
    ts.map Taken.input = [.setMailBox hostRecord, .post answeredPoll] ∧ ∀ t ∈ ts, SuccessOwn t := by
  have hrun := Run.cons host_setMailBox (.cons host_answered (.nil _))
  refine ⟨_, _, hrun, rfl, (success_own_iff hrun).mpr ?_⟩
  intro t ht
  rcases List.mem_cons.mp ht with rfl | ht
  · exact nofun
  · rw [List.mem_singleton.mp ht]
    intro i hi _ _
    cases hi
    exact ⟨0, List.mem_cons_of_mem _ List.mem_cons_self, Nat.le_refl 0⟩

/-- The second transaction, in which nothing arrives, succeeds at once. -/
theorem success_own_fails : ∃ ts s, Run SessionStep hostStart ts s ∧ ts.map Taken.input =
    [.setMailBox hostRecord, .post answeredPoll, .post ⟨0, 0, []⟩] ∧ ¬ ∀ t ∈ ts, SuccessOwn t := by
  refine ⟨_, _, .cons host_setMailBox (.cons host_answered
    (.cons (host_silent (Nat.le_refl _) (Nat.le_refl _)) (.nil _))), rfl, fun h => ?_⟩
  have hlast := h _ (List.mem_cons_of_mem _ (List.mem_cons_of_mem _ List.mem_cons_self))
  obtain ⟨c, hc, -⟩ := hlast _ rfl (postSensorData_true_iff.mpr ⟨nofun, Or.inl rfl⟩)
  cases hc

/-- The same first transaction connects once. -/
theorem connects_once_first : ∃ ts s, Run SessionStep hostStart ts s ∧
    ts.map Taken.input = [.setMailBox hostRecord, .post answeredPoll] ∧ ∀ t ∈ ts, ConnectsOnce t := by
  have hrun := Run.cons host_setMailBox (.cons host_answered (.nil _))
  refine ⟨_, _, hrun, rfl, (connects_once_iff hrun).mpr ?_⟩
  intro t ht
  rcases List.mem_cons.mp ht with rfl | ht
  · exact nofun
  · rw [List.mem_singleton.mp ht]
    intro i _ _
    exact ⟨rfl, Or.inr nofun⟩

/-- Two silences that time out: the second transaction opens no connection. -/
theorem connects_once_fails : ∃ ts s, Run SessionStep hostStart ts s ∧ ts.map Taken.input =
    [.setMailBox hostRecord, .post ⟨0, 5001, []⟩, .post ⟨5001, 10002, []⟩] ∧
      ¬ ∀ t ∈ ts, ConnectsOnce t := by
  refine ⟨_, _, .cons host_setMailBox (.cons (host_silent (by decide) (by decide))
    (.cons (host_silent (by decide) (by decide)) (.nil _))), rfl, fun h => ?_⟩
  have hlast := h _ (List.mem_cons_of_mem _ (List.mem_cons_of_mem _ List.mem_cons_self))
  have hopened := hlast _ rfl (postSensorData_ends_iff.mpr (Or.inr (Or.inr (Or.inr (by decide)))))
  exact absurd hopened (by decide)

end GenLogger.Network
