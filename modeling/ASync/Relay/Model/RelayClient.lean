import ASync.Core.Model.KeystoreHandler
import ASync.Core.Model.DeviceAddress
/-!
# The relay client

How `RelayClient` asks a relay for a session with a device and joins the
session it is invited to: the requests it writes and the reader that
takes the relay's messages apart, one signed word after the other.
-/

namespace ASync

namespace Relay

open ASync.Core Wire

/-- An internet address, by its bytes. -/
inductive InetAddress
  | inet4 (address : Bytes)
  | inet6 (address : Bytes)
  deriving DecidableEq, Repr

namespace InetAddress

/-- What an IPv4 address begins with where it is written as an IPv6 one. -/
def mappedPrefix : Bytes := List.replicate 10 0 ++ [0xff, 0xff]

/-- An IPv4 address in IPv6 form is an IPv4 address. -/
def getByAddress (address : Bytes) : Except JavaException InetAddress :=
  if address.length = 4 then .ok (.inet4 address)
  else if address.length = 16 then
    if address.take 12 = mappedPrefix then .ok (.inet4 (address.drop 12))
    else .ok (.inet6 address)
  else .error (.runtime "UnknownHostException")

/-- `0.0.0.0`. -/
def any : InetAddress := .inet4 [0, 0, 0, 0]

end InetAddress

/-- An invitation, with what the constructor checks. -/
structure SessionInvitation where
  «from» : String
  key : String
  address : InetAddress
  port : ℤ
  isServerSocket : Bool
  from_ne : «from» ≠ ""
  key_ne : key ≠ ""

/-- The constructor, which `build` calls. -/
def SessionInvitation.new («from» key : String) (address : InetAddress) (port : ℤ)
    (isServerSocket : Bool) : Except JavaException SessionInvitation :=
  if hfrom : «from» = "" then .error (.nullPointer "")
  else if hkey : key = "" then .error (.nullPointer "")
  else .ok ⟨«from», key, address, port, isServerSocket, hfrom, hkey⟩

namespace RelayClient

def MAGIC : ℕ := 0x9E79BC40

def JOIN_SESSION_REQUEST : ℕ := 3

def RESPONSE : ℤ := 4

def CONNECT_REQUEST : ℕ := 5

def SESSION_INVITATION : ℕ := 6

def RESPONSE_SUCCESS_CODE : ℤ := 0

/-! ## Reading -/

/-- `ByteBuffer.getInt`. -/
def getInt (buffer : Bytes) : Except JavaException (ℤ × Bytes) :=
  match readInt buffer with
  | some r => .ok r
  | none => .error .bufferUnderflow

/-- `ByteBuffer.getShort`. -/
def getShort (buffer : Bytes) : Except JavaException (ℤ × Bytes) :=
  match readShort buffer with
  | some r => .ok r
  | none => .error .bufferUnderflow

/-- `ByteBuffer.get` into an array of a length. -/
def getData (length : ℤ) (buffer : Bytes) : Except JavaException (Bytes × Bytes) :=
  match readFully length.toNat buffer with
  | some r => .ok r
  | none => .error .bufferUnderflow

/-- `DataInputStream.readInt`. -/
def readStreamInt (stream : Bytes) : Except JavaException (ℤ × Bytes) :=
  match readInt stream with
  | some r => .ok r
  | none => .error .eof

/-- A message's type, and what is left of its payload. -/
structure MessageReader where
  type : ℤ
  buffer : Bytes

def magicMismatch (magic : ℤ) : String :=
  "magic mismatch, got = " ++ toString magic ++ ", expected = " ++
    toString (signed (writeInt MAGIC))

/-- `RelayDataInputStream.readMessage`. -/
def readMessage (stream : Bytes) : Except JavaException (MessageReader × Bytes) := do
  let (magic, stream) ← readStreamInt stream
  checkArgument (magic = signed (writeInt MAGIC)) (magicMismatch magic)
  let (type, stream) ← readStreamInt stream
  let (length, stream) ← readStreamInt stream
  checkArgument (0 ≤ length) ""
  match readFully length.toNat stream with
  | none => throw .eof
  | some (payload, stream) => return (⟨type, payload⟩, stream)

def readLengthAndData (buffer : Bytes) : Except JavaException (Bytes × Bytes) := do
  let (length, buffer) ← getInt buffer
  checkArgument (0 ≤ length) ""
  getData length buffer

/-- A response's code and message. -/
def readResponse (buffer : Bytes) : Except JavaException (ℤ × Bytes) := do
  let (code, buffer) ← getInt buffer
  let (messageLength, buffer) ← getInt buffer
  if messageLength < 0 then throw .negativeArraySize
  else
    let (message, _) ← getData messageLength buffer
    return (code, message)

/-- `dumpMessageForDebug`, which reads a response to print it. -/
def dumpMessageForDebug (messageReader : MessageReader) : Except JavaException Unit :=
  if messageReader.type = RESPONSE then do
    let _ ← readResponse messageReader.buffer
  else return ()

/-! ## Writing -/

/-- `RelayDataOutputStream.writeHeader`. -/
def writeHeader (type length : ℕ) : Bytes := writeInt MAGIC ++ writeInt type ++ writeInt length

/-- A request that carries one field. -/
def requestOf (type : ℕ) (field : Bytes) : Bytes :=
  writeHeader type (4 + field.length) ++ writeInt field.length ++ field

variable [Guava]

/-! ## Sessions -/

def typeMismatch (type : ℤ) : String :=
  "message type mismatch, expected " ++ toString SESSION_INVITATION ++ ", got " ++ toString type

def expectedZero (zero : ℤ) : String := "expected 0, found " ++ toString zero

def invalidPort (port : ℤ) : String := "got invalid port value = " ++ toString port

/-- The address of a session: the relay's where none is given. -/
def addressOf (relayAddress : InetAddress) (address : Bytes) : Except JavaException InetAddress :=
  if address.length = 0 then .ok relayAddress
  else do
    let inetAddress ← InetAddress.getByAddress address
    if inetAddress = InetAddress.any then return relayAddress
    else return inetAddress

/-- The second block of `getSessionInvitation`, on a connection to a relay
of the given address. -/
def receiveInvitation (relayAddress : InetAddress) (stream : Bytes) :
    Except JavaException SessionInvitation := do
  let (messageReader, _) ← readMessage stream
  dumpMessageForDebug messageReader
  checkArgument (messageReader.type = SESSION_INVITATION) (typeMismatch messageReader.type)
  let (hashData, buffer) ← readLengthAndData messageReader.buffer
  let «from» ← KeystoreHandler.hashDataToDeviceIdString hashData
  let (keyData, buffer) ← readLengthAndData buffer
  let (addressData, buffer) ← readLengthAndData buffer
  let address ← addressOf relayAddress addressData
  let (zero, buffer) ← getShort buffer
  checkArgument (zero = 0) (expectedZero zero)
  let (port, buffer) ← getShort buffer
  checkArgument (0 < port) (invalidPort port)
  let (flags, _) ← getInt buffer
  SessionInvitation.new «from» (base16Encode keyData) address port (flags % 2 = 1)

/-- `getSessionInvitation`: what is sent to the relay, and the invitation
its answer gives. -/
def getSessionInvitation (relayAddress : InetAddress) (deviceId : String) (stream : Bytes) :
    Except JavaException (Bytes × SessionInvitation) := do
  let deviceIdData ← KeystoreHandler.deviceIdStringToHashData deviceId
  let invitation ← receiveInvitation relayAddress stream
  return (requestOf CONNECT_REQUEST deviceIdData, invitation)

/-- The first block of `openConnectionSessionMode`: the request to join. -/
def joinSessionRequest (sessionInvitation : SessionInvitation) : Except JavaException Bytes :=
  match base16Decode sessionInvitation.key with
  | some key => .ok (requestOf JOIN_SESSION_REQUEST key)
  | none => .error (.illegalArgument "DecodingException")

/-! ## Connections -/

/-- The sockets the client opens: what a relay sends on one is the stream,
until the client has read enough of it. -/
structure Sockets where
  getByName : String → Option InetAddress
  /-- `KeystoreHandler.createSocket`, to the relay. -/
  createSocket : InetAddress → ℤ → Except JavaException Bytes
  /-- `new Socket`, to where the session is. -/
  newSocket : InetAddress → ℤ → Except JavaException Bytes

/-- A connection through a relay: what was written to its socket, and what
of the other end's bytes is there to read. -/
structure RelayConnection where
  isServerSocket : Bool
  written : Bytes
  incoming : Bytes

def responseMismatch (code : ℤ) (message : String) : String :=
  "response code = " ++ toString code ++ " (" ++ message ++ ") expected " ++
    toString RESPONSE_SUCCESS_CODE

/-- The second block of `openConnectionSessionMode`, with what it leaves on
the socket. The message is made a string by `newString`. -/
def receiveResponse (newString : Bytes → String) (stream : Bytes) : Except JavaException Bytes := do
  let (messageReader, stream) ← readMessage stream
  checkArgument (messageReader.type = RESPONSE) ""
  let (code, message) ← readResponse messageReader.buffer
  checkArgument (code = RESPONSE_SUCCESS_CODE) (responseMismatch code (newString message))
  return stream

def openConnectionSessionMode (newString : Bytes → String) (sockets : Sockets)
    (sessionInvitation : SessionInvitation) : Except JavaException RelayConnection := do
  let stream ← sockets.newSocket sessionInvitation.address sessionInvitation.port
  let written ← joinSessionRequest sessionInvitation
  let incoming ← receiveResponse newString stream
  return ⟨sessionInvitation.isServerSocket, written, incoming⟩

/-- `openRelayConnection`: what is written to the relay, and the connection. -/
def openRelayConnection (newString : Bytes → String) (sockets : Sockets) (address : DeviceAddress) :
    Except JavaException (Bytes × RelayConnection) := do
  checkArgument (DeviceAddress.getType address.address = .RELAY) ""
  let (relayAddress, port) ← DeviceAddress.getSocketAddress sockets.getByName address.address
  let stream ← sockets.createSocket relayAddress port
  let (request, sessionInvitation) ← getSessionInvitation relayAddress address.deviceId stream
  let relayConnection ← openConnectionSessionMode newString sockets sessionInvitation
  return (request, relayConnection)

end RelayClient

end Relay

end ASync
