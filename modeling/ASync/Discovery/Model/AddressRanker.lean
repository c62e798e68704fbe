import ASync.Common.Sorting
import ASync.Core.Model.DeviceAddress
/-!
# The address ranker

The ranker connects to each address and gives it a score, by the time that
took and the kind of the address. An address that is not answered has no
score, and is left out.
-/

namespace ASync

namespace Discovery

open ASync.Core

/-- What a ranker meets when it tests addresses. A socket address is tested
once, and its result kept. -/
structure Network (α : Type) where
  /-- The first value of a name among the parameters of an address, `none`
  also where the address is no URI. -/
  getUriParam : String → String → Option String
  getByName : String → Option α
  /-- The time to connect, negative where the address is not answered. -/
  testTcpConnection : α × ℤ → ℤ
  /-- The test of a device's address is not over when the ranker stops to
  wait for it. -/
  isLate : String → String → Bool

/-- `add` of a linked hash set of addresses. -/
def addDeviceAddress (res : List DeviceAddress) (deviceAddress : DeviceAddress) :
    List DeviceAddress :=
  if res.any deviceAddress.equals then res else res ++ [deviceAddress]

namespace AddressRanker

def TCP_CONNECTION_TIMEOUT : ℤ := 1000

/-- The types that have a score are those accepted. -/
def BASE_SCORE_MAP : AddressType → Option ℤ
  | .TCP => some 0
  | .RELAY => some (TCP_CONNECTION_TIMEOUT * 2)
  | .HTTP_RELAY | .HTTPS_RELAY => some (TCP_CONNECTION_TIMEOUT * TCP_CONNECTION_TIMEOUT * 2)
  | .OTHER | .NULL => none

variable {α : Type} (network : Network α)

def containsUriParamValue (deviceAddress : DeviceAddress) (key : String) : Bool :=
  (network.getUriParam deviceAddress.address key).any fun value => value != ""

/-- The HTTP relay that the address of a relay names. -/
def httpRelayAddress (deviceAddress : DeviceAddress) : Option DeviceAddress :=
  if DeviceAddress.getType deviceAddress.address = .RELAY ∧
      containsUriParamValue network deviceAddress "httpUrl" = true then
    (network.getUriParam deviceAddress.address "httpUrl").map fun httpUrl =>
      { deviceAddress with address := "relay-" ++ httpUrl }
  else none

def preprocessDeviceAddresses (list : List DeviceAddress) : List DeviceAddress :=
  list.foldl (fun res deviceAddress =>
    addDeviceAddress ((httpRelayAddress network deviceAddress).elim res (addDeviceAddress res))
      deviceAddress) []

/-- `testAndRank` of one address, where an exception is as no answer. -/
def testAndRankAddress (deviceAddress : DeviceAddress) : Option DeviceAddress := do
  let baseScore ← BASE_SCORE_MAP (DeviceAddress.getType deviceAddress.address)
  let socketAddress ←
    (DeviceAddress.getSocketAddress network.getByName deviceAddress.address).toOption
  let ping := network.testTcpConnection socketAddress
  if ping < 0 then none else some { deviceAddress with score := ping + baseScore }

/-- What the ranker gets of a test it waits for. -/
def await (deviceAddress : DeviceAddress) : Option DeviceAddress :=
  if network.isLate deviceAddress.deviceId deviceAddress.address then none
  else testAndRankAddress network deviceAddress

def testAndRank (list : List DeviceAddress) : List DeviceAddress :=
  Comparator.sort (Comparator.on compare DeviceAddress.score)
    ((preprocessDeviceAddresses network list).filterMap (await network))

end AddressRanker

end Discovery

end ASync
