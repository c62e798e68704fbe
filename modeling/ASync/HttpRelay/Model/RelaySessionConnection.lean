import ASync.HttpRelay.Model.HttpRelayProtos
/-!
# A session on the server

The server's end of a session: what peers send is written to the relay
socket, what the relay sends is kept in a temporary file until a peer
asks for it. `waitForDataAndGet` and `close` run on several threads, so
the parts another thread may come between are functions of their own.
-/

namespace ASync

namespace HttpRelay

open HttpRelayProtos

structure RelaySessionConnection where
  sessionId : String
  /-- `inputStream` and `outputStream` are not `null`. -/
  hasInputStream : Bool := true
  hasOutputStream : Bool := true
  /-- What has been written to the relay socket. -/
  written : Bytes := []
  /-- A write failed; a socket takes nothing after that. -/
  broken : Bool := false
  peerToRelaySequence : ℤ := 0
  relayToPeerSequence : ℤ := 0
  /-- The content of the temporary file, `none` where there is no file. -/
  tempFile : Option Bytes := none
  isClosed : Bool := false

/-- A call on the session. -/
abbrev SessionM := EStateM JavaException RelaySessionConnection

namespace RelaySessionConnection

/-! ## From peer to relay -/

/-- A write of some data, which may fail after some bytes. -/
def writeTo (failure : Option ℕ) (data : Bytes) : SessionM Unit := do
  let s ← get
  if s.broken then throw (.runtime "IOException")
  else
    match failure with
    | none => set { s with written := s.written ++ data }
    | some n =>
      set { s with written := s.written ++ data.take n, broken := true }
      throw (.runtime "IOException")

/-- The first step of `close`, which returns whether there is more to do. -/
def markClosed : SessionM Bool := do
  let s ← get
  if s.isClosed then return false
  else
    set { s with isClosed := true }
    return true

/-- The streams are closed, and those who wait for data wake up. -/
def dropStreams : SessionM Unit :=
  modify fun s => { s with hasInputStream := false, hasOutputStream := false }

def close : SessionM Unit := do
  if ← markClosed then dropStreams

/-- A use of a stream that may be `null`, such as the monitor of a
`synchronized` block. -/
def requireStream (hasStream : Bool) : SessionM Unit :=
  if hasStream then pure () else throw (.nullPointer "")

/-- `sendData`, under the monitor of the output stream. -/
def sendData (failure : Option ℕ) (message : HttpRelayPeerMessage) : SessionM Unit := do
  let s ← get
  requireStream s.hasOutputStream
  ofExcept (checkArgument (message.messageType = .PEER_TO_RELAY) "")
  ofExcept (checkArgument (message.sessionId = s.sessionId) "")
  ofExcept (checkArgument (message.sequence = s.peerToRelaySequence + 1) "")
  if !message.data.isEmpty then
    tryCatch (do
      writeTo failure message.data
      modify fun s => { s with peerToRelaySequence := message.sequence }) fun ex => do
        close
        throw ex

/-! ## From relay to peer -/

/-- What is kept for the peer. -/
def content (s : RelaySessionConnection) : Bytes := s.tempFile.getD []

/-- `getTempFile`: a missing file is created, and empty. -/
def getTempFile : SessionM Bytes := do
  let s ← get
  set { s with tempFile := some s.content }
  return s.content

def hasData : SessionM Bool := do
  requireStream (← get).hasInputStream
  return !(← getTempFile).isEmpty

/-- The file is moved away under the monitor of the input stream, and read
after that. -/
def popTempFile : SessionM Bytes := do
  if ← hasData then
    let data ← getTempFile
    modify fun s => { s with tempFile := none }
    return data
  else return []

def checkOpen : SessionM Unit := do
  ofExcept (checkArgument (!(← get).isClosed) "")

/-- The response's number is taken outside the monitor. -/
def numberData (data : Bytes) : SessionM HttpRelayServerMessage := do
  modify fun s => { s with relayToPeerSequence := s.relayToPeerSequence + 1 }
  return { messageType := .RELAY_TO_PEER, data, sequence := (← get).relayToPeerSequence }

def getData : SessionM HttpRelayServerMessage := do
  checkOpen
  let data ← popTempFile
  numberData data

/-- The block `waitForDataAndGet` begins with: whether there is something
to wait for. The wait has a timeout, so it may end whatever the answer. -/
def beginWait : SessionM Bool := do
  let s ← get
  requireStream s.hasInputStream
  if s.isClosed then return false
  else return !(← hasData)

def waitForDataAndGet : SessionM HttpRelayServerMessage := do
  discard beginWait
  if (← get).isClosed then return { messageType := .SERVER_CLOSING }
  else getData

/-- The reader appends what it received to the file, under the monitor of
the input stream. -/
def appendData (data : Bytes) : SessionM Unit := do
  requireStream (← get).hasInputStream
  let content ← getTempFile
  modify fun s => { s with tempFile := some (content ++ data) }

end RelaySessionConnection

/-! ## A handler of `WAIT_FOR_DATA` -/

/-- How far `handle` is with a request, at the places where another thread
may come in. -/
inductive WaitForData
  | arrived
  | waiting
  /-- Past the test of `isClosed`. -/
  | awake
  /-- Past the check of `getData`. -/
  | entered
  | popped (data : Bytes)
  | answered (response : HttpRelayServerMessage)
  deriving DecidableEq

namespace WaitForData

open RelaySessionConnection

def step : WaitForData → SessionM WaitForData
  | arrived => do
    discard beginWait
    return waiting
  | waiting => do
    if (← get).isClosed then return answered { messageType := .SERVER_CLOSING } else return awake
  | awake => do
    checkOpen
    return entered
  | entered => return popped (← popTempFile)
  | popped data => return answered (← numberData data)
  | answered response => return answered response

/-- An exception is answered by an error, whose text is left out. -/
def next (h : WaitForData) (s : RelaySessionConnection) : WaitForData :=
  (Effect.result h.step s).getD (answered { messageType := .ERROR })

/-- How far the handler is from its answer, once there is data to pop. -/
def rank : WaitForData → ℕ
  | arrived => 4
  | waiting => 3
  | awake => 2
  | entered => 1
  | popped _ => 7
  | answered _ => 6

/-- What was popped and has no number yet. -/
def pending : WaitForData → Option Bytes
  | popped data => some data
  | _ => none

/-- The response, once there is one. -/
def response : WaitForData → Option HttpRelayServerMessage
  | answered response => some response
  | _ => none

end WaitForData

end HttpRelay

end ASync
