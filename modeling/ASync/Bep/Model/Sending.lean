import ASync.Common.Run
import ASync.Bep.Model.Framing
/-!
# Sending on a connection

Any thread may send a message; one thread of its own writes to the
connection's stream what was handed to it, in that order. A write may fail
after a part, and any thread may close the connection in between. The
first thing handed to the thread is the hello message.
-/

namespace ASync

namespace Bep

open BlockExchageProtos Wire

namespace BlockExchageProtos

structure Hello where
  deviceName : String
  clientName : String
  clientVersion : String
  deriving DecidableEq

end BlockExchageProtos

/-! ## The hello message -/

def BlockExchangeConnectionHandler.MAGIC : ℕ := 0x2EA7D90B

/-- What `sendHelloMessage` writes; the length is cast to a short. -/
def sendHelloMessage (payload : Bytes) : Bytes :=
  writeInt BlockExchangeConnectionHandler.MAGIC ++ writeShort payload.length ++ payload

/-- A number read from the stream. -/
def readNumber (read : Bytes → Option (ℤ × Bytes)) (bs : Bytes) :
    Except JavaException (ℤ × Bytes) :=
  match read bs with
  | some r => .ok r
  | none => .error .eof

/-- `Hello.parseFrom`. -/
def parseHello [Protobuf Hello] (buffer : Bytes) : Except JavaException Hello :=
  match parseFrom buffer with
  | some hello => .ok hello
  | none => .error (.runtime "InvalidProtocolBufferException")

def receiveHelloMessage [Protobuf Hello] (bs : Bytes) : Except JavaException (Hello × Bytes) := do
  let (magic, bs) ← readNumber readInt bs
  checkArgument (magic = BlockExchangeConnectionHandler.MAGIC)
    ("magic mismatch, expected " ++ toString BlockExchangeConnectionHandler.MAGIC ++ ", got " ++
      toString magic)
  let (length, bs) ← readNumber readShort bs
  checkArgument (0 < length) ("invalid lenght, must be >0, got " ++ toString length)
  let (buffer, bs) ← readBuffer length bs
  let hello ← parseHello buffer
  return (hello, bs)

/-! ## The thread that writes -/

section Sending

variable [MessageClasses]

/-- A connection as the thread that writes sees it. -/
structure OutgoingConnection where
  isClosed : Bool := false
  /-- The executor takes no more messages. -/
  isShutdown : Bool := false
  /-- `out` is not `null`. -/
  hasOut : Bool := true
  /-- A write failed; the stream takes nothing after that. -/
  broken : Bool := false
  /-- What the thread has yet to write. -/
  queue : List Bytes
  /-- The messages that were taken, in order. -/
  accepted : List TypedMessage := []
  /-- What was written to the stream. -/
  wire : Bytes := []

/-- A step of a thread that sends, of the one that writes, or of one that
closes. -/
inductive SendingEvent
  | sendMessage (message : TypedMessage)
  /-- The first in the queue is written, or fails after a part. -/
  | write (failure : Option ℕ)
  | markClosed
  | shutdown
  | closeStreams

namespace OutgoingConnection

variable (c : OutgoingConnection)

/-- Where the stream is gone or broken the write throws, and the thread
goes on with the next. -/
def write (failure : Option ℕ) : Option OutgoingConnection :=
  match c.queue with
  | [] => none
  | frame :: queue =>
    if c.hasOut && !c.broken then
      match failure with
      | none => some { c with queue, wire := c.wire ++ frame }
      | some n => some { c with queue, wire := c.wire ++ frame.take n, broken := true }
    else some { c with queue }

def step : SendingEvent → Option OutgoingConnection
  | .sendMessage message =>
    if c.isClosed || c.isShutdown then some c
    else some { c with
      queue := c.queue ++ [sendMessage message], accepted := c.accepted ++ [message] }
  | .write failure => c.write failure
  | .markClosed => some { c with isClosed := true }
  | .shutdown => if c.isClosed then some { c with isShutdown := true } else none
  | .closeStreams => if c.isShutdown then some { c with hasOut := false } else none

end OutgoingConnection

/-- A connection that `connect` has opened, which sends its hello first. -/
def sending (payload : Bytes) : Machine OutgoingConnection SendingEvent :=
  Machine.ofStep { queue := [sendHelloMessage payload] } OutgoingConnection.step

/-- What the peer reads of a session: the hello, and some messages. -/
def receiveSession [Protobuf Hello] (n : ℕ) (bs : Bytes) :
    Except JavaException ((Hello × List TypedMessage) × Bytes) := do
  let (hello, bs) ← receiveHelloMessage bs
  let (messages, bs) ← receiveMessages n bs
  return ((hello, messages), bs)

end Sending

end Bep

end ASync
