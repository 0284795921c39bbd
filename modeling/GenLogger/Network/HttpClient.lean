import GenLogger.Lib.Decimal

/-!
# The HTTP client (`httpClient.cpp`, `networkManager.cpp`)

Model of the client: `postSensorData` is called until it has a definite result. It asks
`httpConnectPost`, which opens a connection once (`_firstCall`) and polls mongoose; `mgEventHandler`
is called from the poll. It sends the request when a connection is up, and sets `done` and
`_firstCall` when a response has arrived.

* Of mongoose only the calls are modelled: `mg_http_connect` opens the next connection of `mgr`, and
  `mg_mgr_poll` delivers a list of events, which is an input.
* `Deliverable` is what mongoose promises of it: an event belongs to a connection that was opened, and
  a response to one whose request was sent.
* The two readings of `getTicks` are inputs too.
* `urlparse`, `urlHost` and `urlUri` are mongoose's, for the request text.

Results:
* `poll_spec`: a poll opens nothing, and sets both flags exactly when it delivers a response.
-/

namespace GenLogger.Network

open GenLogger.Lib

/-! ## The request -/

/-- `struct url`: offsets into the URL, `0` where a part is missing. -/
structure Url where
  user : Nat
  pass : Nat
  host : Nat
  port : Nat
  uri : Nat
  len : Nat
  deriving Repr, DecidableEq

/-- The body of the loop of `urlparse`, at offset `i`. -/
def urlStep (url : List Byte) (i : Nat) (c : Byte) (u : Url) : Url :=
  if c = 47 ∧ 0 < i ∧ u.host = 0 ∧ url[i - 1]? = some 47 then { u with host := i + 1, port := 0 }
  else if c = 93 then { u with port := 0 }
  else if c = 58 ∧ u.port = 0 ∧ u.uri = 0 then { u with port := i + 1 }
  else if c = 64 ∧ u.user = 0 ∧ u.pass = 0 ∧ u.uri = 0 then
    { u with user := u.host, pass := u.port, host := i + 1, port := 0 }
  else if c = 47 ∧ u.host ≠ 0 ∧ u.uri = 0 then { u with uri := i }
  else u

/-- `urlparse`. -/
def urlparse (url : CStr) : Url :=
  let u := url.bytes.zipIdx.foldl (fun u ci => urlStep url.bytes ci.2 ci.1 u) ⟨0, 0, 0, 0, 0, 0⟩
  { u with len := url.bytes.length }

/-- `mg_url_host`. -/
def urlHost (url : CStr) : List Byte :=
  let u := urlparse url
  let n := if u.port ≠ 0 then u.port - u.host - 1 else if u.uri ≠ 0 then u.uri - u.host
    else u.len - u.host
  (url.bytes.drop u.host).take n

/-- `mg_url_uri`. -/
def urlUri (url : CStr) : List Byte :=
  let u := urlparse url
  if u.uri ≠ 0 then url.bytes.drop u.uri else ascii "/"

/-- A request sent on a connection. -/
structure Request where
  conn : Nat
  url : CStr
  body : CStr
  deriving DecidableEq

/-- What `mg_printf` sends. -/
def Request.text (r : Request) : List Byte :=
  ascii "POST " ++ urlUri r.url ++ ascii " HTTP/1.1\r\nHost: " ++ urlHost r.url ++
    ascii "\r\nContent-Length: " ++ decimal r.body.bytes.length ++ ascii "\r\n\r\n" ++ r.body.bytes

example : (Request.mk 0 (CStr.ofBytes (ascii "http://127.0.0.0:8080/api/hello"))
      (CStr.ofBytes (ascii "1;2"))).text =
    ascii "POST /api/hello HTTP/1.1\r\nHost: 127.0.0.0\r\nContent-Length: 3\r\n\r\n1;2" := by
  decide

/-! ## The manager -/

/-- The events `mgEventHandler` reacts to, with their connection. -/
inductive Event where
  /-- `MG_EV_CONNECT`. -/
  | connect (conn : Nat)
  /-- `MG_EV_HTTP_MSG`. -/
  | httpMsg (conn : Nat)
  deriving Repr, DecidableEq

/-- `networkManager`, with what `mgr` has been asked to do: how many connections were opened, and the
requests sent. -/
structure NetworkManager where
  done : Bool
  firstCall : Bool
  opened : Nat
  sent : List Request
  deriving DecidableEq

/-- The manager as constructed and initialised. -/
def NetworkManager.init : NetworkManager := ⟨false, true, 0, []⟩

/-- `mgEventHandler`. `*_pURL` and `*_pPayload` are the client's pointers, read when the event
arrives. -/
def mgEventHandler (url body : CStr) (m : NetworkManager) : Event → NetworkManager
  | .connect c => { m with sent := m.sent ++ [⟨c, url, body⟩] }
  | .httpMsg _ => { m with done := true, firstCall := true }

/-- `mg_mgr_poll`. -/
def poll (url body : CStr) (events : List Event) (m : NetworkManager) : NetworkManager :=
  events.foldl (mgEventHandler url body) m

/-- `if (true == _firstCall)` of `httpConnectPost`. -/
def connect (m : NetworkManager) : NetworkManager :=
  if m.firstCall = true then { m with firstCall := false, opened := m.opened + 1 } else m

/-- `httpConnectPost`. -/
def httpConnectPost (url body : CStr) (events : List Event) (m : NetworkManager) :
    Bool × NetworkManager :=
  let m := poll url body events (connect m)
  (m.done, m)

/-- What mongoose may deliver in a poll, the events being handled in order. -/
def Deliverable (url body : CStr) : NetworkManager → List Event → Prop
  | _, [] => True
  | m, .connect c :: es => c < m.opened ∧
      Deliverable url body (mgEventHandler url body m (.connect c)) es
  | m, .httpMsg c :: es => (∃ r ∈ m.sent, r.conn = c) ∧
      Deliverable url body (mgEventHandler url body m (.httpMsg c)) es

/-! ## The client -/

/-- `httpClient`. `_pDataBuff` is the text it points to, or `none` for the null pointer. -/
structure HttpClient where
  connTimer : UInt64
  availableDataFlag : Bool
  pURL : CStr
  firstCall : Bool
  pDataBuff : Option CStr
  manager : NetworkManager
  deriving DecidableEq

/-- `timeout`. -/
def timeout : UInt64 := 5000

namespace HttpClient

/-- The client as constructed, after `setURL`. -/
def init (url : CStr) : HttpClient := ⟨0, false, url, true, none, .init⟩

/-- `update`. -/
def update (h : HttpClient) : HttpClient := { h with availableDataFlag := true }

/-- `setMailBox`, and every change of the text behind the pointer. -/
def setMailBox (pDataBuff : Option CStr) (h : HttpClient) : HttpClient :=
  { h with pDataBuff := pDataBuff }

/-- `setRunTaskFlag`. -/
def setRunTaskFlag (val : Bool) (h : HttpClient) : HttpClient := { h with availableDataFlag := val }

end HttpClient

/-- What a call of `postSensorData` reads: the clock at its start and after the poll, and the events
of the poll. -/
structure PollInput where
  first : UInt64
  second : UInt64
  events : List Event

/-- `postSensorData`; `none` is `std::nullopt`. -/
def postSensorData (i : PollInput) (h : HttpClient) : Option Bool × HttpClient :=
  match h.pDataBuff with
  | none => (some false, h)
  | some body =>
    let h := if h.firstCall = true then { h with firstCall := false, connTimer := i.first } else h
    let (answered, manager) := httpConnectPost h.pURL body i.events h.manager
    let h := { h with manager := manager }
    if answered = false then
      if i.second - h.connTimer > timeout then (some false, { h with firstCall := true })
      else (none, h)
    else (some true, { h with firstCall := true })

/-- `networkTask`. -/
def networkTask (i : PollInput) (h : HttpClient) : HttpClient :=
  if h.availableDataFlag = true then
    let (postResult, h) := postSensorData i h
    if postResult.isSome then h.setRunTaskFlag false else h
  else h

/-! ## What a poll does -/

/-- A response is among the events. -/
def Answered (events : List Event) : Prop := ∃ c, .httpMsg c ∈ events

theorem poll_cons (url body : CStr) (e : Event) (es : List Event) (m : NetworkManager) :
    poll url body (e :: es) m = poll url body es (mgEventHandler url body m e) := rfl

/-- A poll opens nothing, and sets both flags exactly when it delivers a response. -/
theorem poll_spec (url body : CStr) : ∀ (events : List Event) (m : NetworkManager),
    (poll url body events m).opened = m.opened ∧
      ((poll url body events m).done = true ↔ m.done = true ∨ Answered events) ∧
      ((poll url body events m).firstCall = true ↔ m.firstCall = true ∨ Answered events)
  | [], m => by simp [poll, Answered]
  | .connect c :: es, m => by
    obtain ⟨ho, hd, hf⟩ := poll_spec url body es (mgEventHandler url body m (.connect c))
    have hans : Answered (.connect c :: es) ↔ Answered es := by simp [Answered]
    rw [poll_cons, hans]
    exact ⟨ho, hd, hf⟩
  | .httpMsg c :: es, m => by
    obtain ⟨ho, hd, hf⟩ := poll_spec url body es (mgEventHandler url body m (.httpMsg c))
    have hans : Answered (.httpMsg c :: es) := ⟨c, List.mem_cons_self⟩
    rw [poll_cons]
    refine ⟨ho, ?_, ?_⟩
    · rw [hd]
      exact ⟨fun _ => Or.inr hans, fun _ => Or.inl rfl⟩
    · rw [hf]
      exact ⟨fun _ => Or.inr hans, fun _ => Or.inl rfl⟩

end GenLogger.Network
