import ASync.HttpRelay.Model.HttpRelayProtos
/-!
# A connection through an HTTP relay

The client's end of a session: an output stream that sends what it was
flushed under the next number, a thread that asks for data and queues it,
and an input stream that reads the queue. Each call is a function, or one
for each part another thread may come between.
-/

namespace ASync

namespace HttpRelay

open HttpRelayProtos

structure HttpRelayConnection where
  sessionId : String
  /-- The output stream's buffer. -/
  buffer : Bytes := []
  /-- The data of the tasks submitted to `outgoingExecutorService`, and
  whether it was shut down. -/
  outgoing : List Bytes := []
  isShutdown : Bool := false
  peerToRelaySequence : ℤ := 0
  relayToPeerSequence : ℤ := 0
  /-- `none` is `STREAM_CLOSED`. -/
  incomingDataQueue : List (Option Bytes) := []
  /-- What the input stream has of the chunk it took last. -/
  byteArrayInputStream : Bytes := []
  noMoreData : Bool := false
  isClosed : Bool := false

/-- A call on the connection. -/
abbrev ConnectionM := EStateM JavaException HttpRelayConnection

namespace HttpRelayConnection

/-! ## The output stream -/

/-- The check every `write` and `read` begins with. -/
def checkOpen : ConnectionM Unit := do
  ofExcept (checkArgument (!(← get).isClosed) "")

def append (bytes : Bytes) : ConnectionM Unit :=
  modify fun c => { c with buffer := c.buffer ++ bytes }

def write (bytes : Bytes) : ConnectionM Unit := do
  checkOpen
  append bytes

/-- `flush` up to the wait for its task, which an executor that was shut
down refuses. -/
def flush : ConnectionM Unit := do
  let c ← get
  let data := c.buffer
  set { c with buffer := [] }
  if !data.isEmpty then
    if c.isShutdown then throw (.runtime "RejectedExecutionException")
    else modify fun c => { c with outgoing := c.outgoing ++ [data] }

/-- A task of `outgoingExecutorService`: the message it sends. -/
def task (data : Bytes) : ConnectionM HttpRelayPeerMessage := do
  modify fun c => { c with peerToRelaySequence := c.peerToRelaySequence + 1 }
  let c ← get
  return { messageType := .PEER_TO_RELAY, sessionId := c.sessionId
           sequence := c.peerToRelaySequence, data }

/-! ## The incoming thread -/

/-- What the incoming thread does with the answer to its request;
`sendMessage` has thrown on an error. -/
def handleServerMessage (serverMessage : HttpRelayServerMessage) : ConnectionM Unit := do
  ofExcept (checkArgument (serverMessage.messageType ≠ .ERROR) "server error")
  ofExcept (checkArgument (serverMessage.messageType = .RELAY_TO_PEER) "")
  let c ← get
  ofExcept (checkArgument (serverMessage.sequence = c.relayToPeerSequence + 1) "")
  if !serverMessage.data.isEmpty then
    modify fun c => { c with incomingDataQueue := c.incomingDataQueue ++ [some serverMessage.data] }
  modify fun c => { c with relayToPeerSequence := serverMessage.sequence }

/-- The bytes in the queue. -/
def queued (c : HttpRelayConnection) : Bytes := (c.incomingDataQueue.filterMap id).flatten

/-! ## The input stream -/

/-- `read` up to its loop: whether it ends there, with −1. -/
def beginRead : ConnectionM Bool := do
  checkOpen
  return (← get).noMoreData

/-- A round of its loop, which goes on after `none` and ends with a byte,
or with −1 for `some none`. A poll that finds the queue empty runs out of
time. -/
def readRound : ConnectionM (Option (Option UInt8)) := do
  let c ← get
  match c.byteArrayInputStream, c.incomingDataQueue with
  | bite :: byteArrayInputStream, _ =>
    set { c with byteArrayInputStream }
    return some (some bite)
  | [], [] => return none
  | [], none :: incomingDataQueue =>
    set { c with incomingDataQueue, noMoreData := true }
    return some none
  | [], some data :: incomingDataQueue =>
    set { c with incomingDataQueue, byteArrayInputStream := data }
    return none

end HttpRelayConnection

end HttpRelay

end ASync
