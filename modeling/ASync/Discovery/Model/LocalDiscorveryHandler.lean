import ASync.Common.Run
import ASync.Common.Table
import ASync.Common.Wire
import ASync.Core.Model.DeviceAddress
import ASync.Core.Model.KeystoreHandler
/-!
# Local discovery

Devices announce their addresses in datagrams. The handler keeps, for each
device, the addresses of an announce, and posts events.
-/

namespace ASync

namespace Discovery

open ASync.Core Regex

namespace LocalDiscoveryProtos

/-- `Announce`, as far as it is read here. -/
structure Announce where
  id : Bytes
  addresses : List String := []

end LocalDiscoveryProtos

/-- A datagram, and the host that sent it. -/
structure DatagramPacket where
  hostAddress : String
  data : Bytes

/-- The size of the buffer a datagram is received into. -/
def incomingBufferSize : ℕ := 1024

/-- A datagram as the socket gives it: what is over the buffer is lost. -/
def DatagramPacket.received (datagramPacket : DatagramPacket) : DatagramPacket :=
  { datagramPacket with data := datagramPacket.data.take incomingBufferSize }

/-- A `HashMultimap`: a key that has no value is not in it. -/
abbrev Multimap (α : Type) := Table String (Finset α)

namespace Multimap

variable {α : Type} [DecidableEq α]

/-- `get`. -/
def valuesOf (map : Multimap α) (key : String) : Finset α := (map.find key).getD ∅

/-- `removeAll`, with the values that were removed. -/
def removeAll (map : Multimap α) (key : String) : Finset α × Multimap α :=
  (map.valuesOf key, map.delete key)

def putAll (map : Multimap α) (key : String) (values : List α) : Multimap α :=
  if values = [] then map else map.merge key (map.valuesOf key ∪ values.toFinset)

end Multimap

inductive LocalDiscoveryEvent
  | messageReceived (deviceId : String) (deviceAddresses : List DeviceAddress)
  | newLocalPeer (deviceId : String)
  deriving DecidableEq

/-- The records of a handler, and the events it has posted. -/
structure LocalDiscorveryHandler where
  deviceId : String
  localDiscoveryRecords : Multimap DeviceAddress := ∅
  posted : List LocalDiscoveryEvent := []

namespace LocalDiscorveryHandler

def MAGIC : ℤ := 0x2EA7D90B

/-- `0.0.0.0` -/
def zeros : Regex :=
  .seq (.char (· = '0')) (.seq (.char dot) (.seq (.char (· = '0')) (.seq (.char dot)
    (.seq (.char (· = '0')) (.seq (.char dot) (.char (· = '0')))))))

/-- `tcp://(0.0.0.0|):` -/
def unspecifiedRegex : Regex :=
  lit ['t', 'c', 'p', ':', '/', '/'] (.seq (.group (.opt zeros)) (.char (· = ':')))

/-- An announced address, with the host the announce came from in the place
of one that is not specified. -/
def specified (hostAddress address : String) : String :=
  String.ofList (unspecifiedRegex.replaceFirst
    (fun _ => ("tcp://" ++ hostAddress ++ ":").toList) address.toList)

variable [Guava] [Protobuf LocalDiscoveryProtos.Announce]

/-- What a datagram announces: the device, and its addresses. -/
def announced (datagramPacket : DatagramPacket) :
    Except JavaException (String × List DeviceAddress) := do
  let (magic, rest) ← match Wire.readInt datagramPacket.data with
    | some read => Except.ok read
    | none => .error .bufferUnderflow
  checkArgument (magic = MAGIC) ("magic mismatch, expected " ++ toString MAGIC ++ ", got " ++
    toString magic)
  let announce : LocalDiscoveryProtos.Announce ← match Protobuf.parseFrom rest with
    | some announce => .ok announce
    | none => .error (.runtime "InvalidProtocolBufferException")
  let deviceId ← KeystoreHandler.hashDataToDeviceIdString announce.id
  return (deviceId, announce.addresses.map fun address =>
    { deviceId, address := specified datagramPacket.hostAddress address })

/-- An announce of another device is recorded and posted. -/
def announce (h : LocalDiscorveryHandler) (deviceId : String)
    (deviceAddresses : List DeviceAddress) : LocalDiscorveryHandler :=
  let (removed, records) := h.localDiscoveryRecords.removeAll deviceId
  let isNew := !decide (removed = ∅)
  { h with
    localDiscoveryRecords := records.putAll deviceId deviceAddresses
    posted := h.posted ++ [.messageReceived deviceId deviceAddresses] ++
      if isNew then [.newLocalPeer deviceId] else [] }

/-- The handling of a datagram that was sent; one that is not valid, as
received, is logged. -/
def receive (h : LocalDiscorveryHandler) (datagramPacket : DatagramPacket) :
    LocalDiscorveryHandler :=
  match announced datagramPacket.received with
  | .ok (deviceId, deviceAddresses) =>
    if deviceId = h.deviceId then h else h.announce deviceId deviceAddresses
  | .error _ => h

def getDeviceAddresses (h : LocalDiscorveryHandler) (deviceId : String) : Finset DeviceAddress :=
  h.localDiscoveryRecords.valuesOf deviceId

end LocalDiscorveryHandler

/-- The handler of a device, and the datagrams sent to it one after the
other. -/
def listening [Guava] [Protobuf LocalDiscoveryProtos.Announce] (deviceId : String) :
    Machine LocalDiscorveryHandler DatagramPacket :=
  Machine.ofStep { deviceId } fun h datagramPacket => some (h.receive datagramPacket)

end Discovery

end ASync
