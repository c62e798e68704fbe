import ASync.Bep.Model.Protos
/-!
# Message frames

How `BlockExchangeConnectionHandler` writes a message to its stream and
reads one back: a short header length, the header, an int body length,
the body. The reader skips zero lengths, taking them for keepalives.
-/

namespace ASync

namespace Bep

namespace BlockExchageProtos

inductive MessageCompression
  | NONE
  | LZ4
  deriving DecidableEq

structure Header where
  type : MessageType
  compression : MessageCompression
  deriving DecidableEq

/-- The number of a message type on the wire. -/
def MessageType.number : MessageType → UInt8
  | .CLUSTER_CONFIG => 0
  | .INDEX => 1
  | .INDEX_UPDATE => 2
  | .REQUEST => 3
  | .RESPONSE => 4
  | .DOWNLOAD_PROGRESS => 5
  | .PING => 6
  | .CLOSE => 7

def MessageCompression.number : MessageCompression → UInt8
  | .NONE => 0
  | .LZ4 => 1

/-- A header with both fields set: two tagged one-byte numbers. -/
def Header.toByteArray (header : Header) : Bytes :=
  [0x08, header.type.number, 0x10, header.compression.number]

end BlockExchageProtos

open BlockExchageProtos Wire

/-- The generated classes of the eight message types, the parser of the
header, and the LZ4 decompressor, which starts at the fifth byte. -/
class MessageClasses where
  Message : MessageType → Type
  toByteArray : {type : MessageType} → Message type → Bytes
  parseFrom : (type : MessageType) → Bytes → Option (Message type)
  parseHeader : Bytes → Option Header
  decompress : Bytes → ℤ → Option Bytes

/-- What the generated classes promise: parsing inverts serialising, and
a message parsed from some bytes does not serialise to none, since fields
it does not know are kept. -/
class LawfulMessageClasses [MessageClasses] : Prop where
  parseFrom_toByteArray : ∀ {type : MessageType} (m : MessageClasses.Message type),
    MessageClasses.parseFrom type (MessageClasses.toByteArray m) = some m
  parseHeader_toByteArray : ∀ header : Header,
    MessageClasses.parseHeader header.toByteArray = some header
  eq_nil_of_parseFrom : ∀ {type : MessageType} {bytes : Bytes} {m : MessageClasses.Message type},
    MessageClasses.parseFrom type bytes = some m → MessageClasses.toByteArray m = [] → bytes = []

section Frames

variable [MessageClasses]

/-- A message with its type. -/
abbrev TypedMessage := Σ type : MessageType, MessageClasses.Message type

/-- The body of a message. -/
def TypedMessage.body (message : TypedMessage) : Bytes := MessageClasses.toByteArray message.2

/-- The header `sendMessage` builds. -/
def TypedMessage.header (message : TypedMessage) : Header := ⟨message.1, .NONE⟩

/-- The frame `sendMessage` writes. -/
def sendMessage (message : TypedMessage) : Bytes :=
  writeShort message.header.toByteArray.length ++ message.header.toByteArray ++
    writeInt message.body.length ++ message.body

/-- The header length: zero shorts are skipped. -/
def readHeaderLength : Bytes → Except JavaException (ℤ × Bytes)
  | a :: b :: rest =>
    if signed [a, b] = 0 then readHeaderLength rest else .ok (signed [a, b], rest)
  | _ => .error .eof

/-- The message length: zero ints are skipped. -/
def readMessageLength : Bytes → Except JavaException (ℤ × Bytes)
  | a :: b :: c :: d :: rest =>
    if signed [a, b, c, d] = 0 then readMessageLength rest else .ok (signed [a, b, c, d], rest)
  | _ => .error .eof

/-- `readFully` into a fresh array. -/
def readBuffer (length : ℤ) (bs : Bytes) : Except JavaException (Bytes × Bytes) :=
  match readFully length.toNat bs with
  | some r => .ok r
  | none => .error .eof

/-- The body of a compressed message: an uncompressed length, then LZ4. -/
def decompressed (header : Header) (messageBuffer : Bytes) : Except JavaException Bytes :=
  match header.compression with
  | .NONE => .ok messageBuffer
  | .LZ4 =>
    match readInt messageBuffer with
    | none => .error .bufferUnderflow
    | some (uncompressedLength, _) =>
      match MessageClasses.decompress messageBuffer uncompressedLength with
      | some bytes => .ok bytes
      | none => .error (.runtime "LZ4Exception")

/-- The first half of `receiveMessage`: the header. -/
def receiveHeader (bs : Bytes) : Except JavaException (Header × Bytes) := do
  let (headerLength, bs) ← readHeaderLength bs
  checkArgument (0 < headerLength)
    ("invalid lenght, must be >0, got " ++ toString headerLength)
  let (headerBuffer, bs) ← readBuffer headerLength bs
  match MessageClasses.parseHeader headerBuffer with
  | none => throw (.runtime "InvalidProtocolBufferException")
  | some header => return (header, bs)

/-- The second half: the message the header announces. -/
def receiveBody (header : Header) (bs : Bytes) : Except JavaException (TypedMessage × Bytes) := do
  let (messageLength, bs) ← readMessageLength bs
  checkArgument (0 ≤ messageLength)
    ("invalid lenght, must be >=0, got " ++ toString messageLength)
  let (messageBuffer, bs) ← readBuffer messageLength bs
  let messageBuffer ← decompressed header messageBuffer
  match MessageClasses.parseFrom header.type messageBuffer with
  | none => throw (.runtime "InvocationTargetException")
  | some message => return (⟨header.type, message⟩, bs)

def receiveMessage (bs : Bytes) : Except JavaException (TypedMessage × Bytes) := do
  let (header, bs) ← receiveHeader bs
  receiveBody header bs

/-- `receiveMessage`, a number of times. -/
def receiveMessages : ℕ → Bytes → Except JavaException (List TypedMessage × Bytes)
  | 0, bs => return ([], bs)
  | n + 1, bs => do
    let (message, bs) ← receiveMessage bs
    let (messages, bs) ← receiveMessages n bs
    return (message :: messages, bs)

end Frames

end Bep

end ASync
