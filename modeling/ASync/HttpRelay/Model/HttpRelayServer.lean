import ASync.Common.Run
import ASync.HttpRelay.Model.RelaySessionConnection
/-!
# The HTTP relay server

The server keeps its sessions in a map by their ids. Each request is
handled by a thread of its own, which looks its session up and works on
it; a session has a reader, and may be closed by a request, by a write
that fails, or when its reader comes to an end. Each step of one of these
threads is a turn of the machine.
-/

namespace ASync

namespace HttpRelay

open HttpRelayProtos Effect

/-! ## Messages -/

/-- A request as the server reads it: a `CONNECT` has a device id. -/
structure HttpRelayRequest extends HttpRelayPeerMessage where
  deviceId : String := ""
  deriving DecidableEq

/-- A response as the server builds it: a `PEER_CONNECTED` has a session
id, and which side of the connection the server's is. -/
structure HttpRelayResponse extends HttpRelayServerMessage where
  sessionId : String := ""
  isServerSocket : Bool := false
  deriving DecidableEq

/-- `sendData` up to the call of `close`, where a write throws. -/
def RelaySessionConnection.trySendData (failure : Option ℕ) (message : HttpRelayPeerMessage) :
    SessionM Unit := do
  let s ← get
  requireStream s.hasOutputStream
  ofExcept (checkArgument (message.messageType = .PEER_TO_RELAY) "")
  ofExcept (checkArgument (message.sessionId = s.sessionId) "")
  ofExcept (checkArgument (message.sequence = s.peerToRelaySequence + 1) "")
  if !message.data.isEmpty then
    writeTo failure message.data
    modify fun s => { s with peerToRelaySequence := message.sequence }

/-- What an exception is answered by, without its text. -/
def errorResponse : HttpRelayResponse := { messageType := .ERROR }

/-! ## The threads -/

/-- How far a thread is with closing a session. Nothing keeps another
thread out between the test of `isClosed` and its change. -/
inductive Closing
  | testing
  | marking
  | dropping
  | posting
  deriving DecidableEq

/-- How far a handler is with its request. -/
inductive Stage
  | arrived
  /-- The session is in the map, and to be connected. -/
  | opening (sessionId : String) (isServerSocket : Bool)
  | sending (sessionId : String)
  /-- The write failed, and closes the session. -/
  | failing (sessionId : String) (stage : Closing)
  | waiting (sessionId : String) (h : WaitForData)
  | closing (sessionId : String) (stage : Closing)
  deriving DecidableEq

structure Handling where
  request : HttpRelayRequest
  stage : Stage
  deriving DecidableEq

/-- What a step of a handler leads to. -/
inductive Progress
  | more (stage : Stage)
  | answer (response : HttpRelayResponse)

/-- What a handler's step meets outside the server: the session a relay
opens, with a fresh id; whether its socket gives the two streams; where a
write fails. -/
structure Outcome where
  opened : Option (String × Bool) := none
  inputStream : Bool := true
  outputStream : Bool := true
  failure : Option ℕ := none

structure HttpRelayServer where
  /-- Every session made, whether it is still in the map or not. -/
  connections : String → Option RelaySessionConnection
  relayConnectionsBySessionId : String → Bool
  isReading : String → Bool
  closers : List (String × Closing)
  handlings : List Handling
  /-- The requests answered, in order. -/
  answers : List (HttpRelayRequest × HttpRelayResponse)
  /-- What the reader of a session has received. -/
  received : String → Bytes
  /-- What was popped of the sessions, in order. -/
  popped : List (String × Bytes)

inductive ServerTurn
  | request (request : HttpRelayRequest)
  | handle (position : ℕ) (outcome : Outcome)
  | read (sessionId : String) (bytes : Bytes)
  /-- The reader comes to an end, and may start a thread that closes. -/
  | stopReading (sessionId : String) (closes : Bool)
  | close (position : ℕ)

namespace HttpRelayServer

variable (s : HttpRelayServer)

def setConnection (sessionId : String) (c : RelaySessionConnection) : HttpRelayServer :=
  { s with connections := Function.update s.connections sessionId (some c) }

def register (sessionId : String) : HttpRelayServer :=
  { s with relayConnectionsBySessionId :=
      Function.update s.relayConnectionsBySessionId sessionId true }

/-- What the session's close event does. -/
def unregister (sessionId : String) : HttpRelayServer :=
  { s with relayConnectionsBySessionId :=
      Function.update s.relayConnectionsBySessionId sessionId false }

/-- A call of `close` moves on; `none` is its end. -/
def closeStep (sessionId : String) (c : RelaySessionConnection) :
    Closing → HttpRelayServer × Option Closing
  | .testing => (s, if c.isClosed then none else some .marking)
  | .marking => (s.setConnection sessionId { c with isClosed := true }, some .dropping)
  | .dropping =>
    (s.setConnection sessionId (after RelaySessionConnection.dropStreams c), some .posting)
  | .posting => (s.unregister sessionId, none)

/-- `requireConnectionBySessionId`, and where its caller goes on. -/
def requireConnection (sessionId : String) (stage : Stage) : Progress :=
  if sessionId = "" then .answer errorResponse
  else if s.relayConnectionsBySessionId sessionId then .more stage
  else .answer errorResponse

/-- `handleMessage` up to its first wait. -/
def handleMessage (request : HttpRelayRequest) (outcome : Outcome) :
    Option (HttpRelayServer × Progress) :=
  match request.messageType with
  | .CONNECT =>
    if request.deviceId = "" then some (s, .answer errorResponse)
    else
      match outcome.opened with
      | none => some (s, .answer errorResponse)
      | some (sessionId, isServerSocket) =>
        if (s.connections sessionId).isSome then none
        else some ((s.setConnection sessionId
            { sessionId, hasInputStream := false, hasOutputStream := false }).register sessionId,
          .more (.opening sessionId isServerSocket))
  | .PEER_CLOSING =>
    some (s, s.requireConnection request.sessionId (.closing request.sessionId .testing))
  | .PEER_TO_RELAY => some (s, s.requireConnection request.sessionId (.sending request.sessionId))
  | .WAIT_FOR_DATA =>
    some (s, s.requireConnection request.sessionId (.waiting request.sessionId .arrived))

/-- A step of a handler on the session it found. -/
def sessionStep (request : HttpRelayRequest) (outcome : Outcome) (sessionId : String)
    (c : RelaySessionConnection) : Stage → Option (HttpRelayServer × Progress)
  | .arrived => none
  | .opening _ isServerSocket =>
    if outcome.inputStream && outcome.outputStream then
      some ({ s.setConnection sessionId
            { c with hasInputStream := true, hasOutputStream := true } with
          isReading := Function.update s.isReading sessionId true },
        .answer { messageType := .PEER_CONNECTED, sessionId, isServerSocket })
    else
      some (s.setConnection sessionId { c with
        hasInputStream := c.hasInputStream || outcome.inputStream }, .answer errorResponse)
  | .sending _ =>
    match (RelaySessionConnection.trySendData outcome.failure
      request.toHttpRelayPeerMessage).run c with
    | .ok () c' =>
      some (s.setConnection sessionId c', .answer { messageType := .DATA_ACCEPTED })
    -- an `IOException` is caught, and thrown again once the session is closed
    | .error (.runtime _) c' =>
      some (s.setConnection sessionId c', .more (.failing sessionId .testing))
    | .error _ c' => some (s.setConnection sessionId c', .answer errorResponse)
  | .failing _ stage =>
    match s.closeStep sessionId c stage with
    | (s', some stage') => some (s', .more (.failing sessionId stage'))
    | (s', none) => some (s', .answer errorResponse)
  | .waiting _ h =>
    let next := h.next c
    some ({ s.setConnection sessionId (after h.step c) with
        popped := s.popped ++ next.pending.toList.map fun data => (sessionId, data) },
      match next.response with
      | some response => .answer { toHttpRelayServerMessage := response }
      | none => .more (.waiting sessionId next))
  | .closing _ stage =>
    match s.closeStep sessionId c stage with
    | (s', some stage') => some (s', .more (.closing sessionId stage'))
    | (s', none) => some (s', .answer { messageType := .SERVER_CLOSING })

end HttpRelayServer

/-- The session a handler is at. -/
def Stage.session : Stage → Option String
  | .arrived => none
  | .opening sessionId _ | .sending sessionId | .failing sessionId _ | .waiting sessionId _
  | .closing sessionId _ => some sessionId

namespace HttpRelayServer

/-- A step of a handler. -/
def handle (s : HttpRelayServer) (h : Handling) (outcome : Outcome) :
    Option (HttpRelayServer × Progress) :=
  match h.stage.session with
  | none => s.handleMessage h.request outcome
  | some sessionId => do
    let c ← s.connections sessionId
    s.sessionStep h.request outcome sessionId c h.stage

def step (s : HttpRelayServer) : ServerTurn → Option HttpRelayServer
  | .request request => some { s with handlings := s.handlings ++ [⟨request, .arrived⟩] }
  | .handle position outcome => do
    let h ← s.handlings[position]?
    let (s', progress) ← s.handle h outcome
    match progress with
    | .more stage => return { s' with handlings := s.handlings.set position ⟨h.request, stage⟩ }
    | .answer response => return { s' with
        handlings := s.handlings.eraseIdx position
        answers := s.answers ++ [(h.request, response)] }
  | .read sessionId bytes => do
    let c ← s.connections sessionId
    if s.isReading sessionId then
      return { s.setConnection sessionId (after (RelaySessionConnection.appendData bytes) c) with
        received := Function.update s.received sessionId (s.received sessionId ++ bytes)
        isReading := Function.update s.isReading sessionId
          (result (RelaySessionConnection.appendData bytes) c).isSome }
    else none
  | .stopReading sessionId closes =>
    some { s with
      isReading := Function.update s.isReading sessionId false
      closers := s.closers ++ if closes then [(sessionId, .testing)] else [] }
  | .close position => do
    let (sessionId, stage) ← s.closers[position]?
    let c ← s.connections sessionId
    match s.closeStep sessionId c stage with
    | (s', some stage') => return { s' with closers := s.closers.set position (sessionId, stage') }
    | (s', none) => return { s' with closers := s.closers.eraseIdx position }

/-- A server that was just started. -/
def initial : HttpRelayServer where
  connections _ := none
  relayConnectionsBySessionId _ := false
  isReading _ := false
  closers := []
  handlings := []
  answers := []
  received _ := []
  popped := []

end HttpRelayServer

/-- The runs of a server. -/
def httpRelayServer : Machine HttpRelayServer ServerTurn :=
  Machine.ofStep HttpRelayServer.initial HttpRelayServer.step

end HttpRelay

end ASync
