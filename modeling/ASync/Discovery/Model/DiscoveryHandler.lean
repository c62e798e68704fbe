import ASync.Common.Run
import ASync.Common.Table
import ASync.Discovery.Model.AddressRanker
/-!
# The discovery handler and its suppliers

Lists of addresses come from the database, from global and from local
discovery. Each is processed by a thread of its own, which ranks it, and
for each address ranked changes the map, updates the database and posts an
event. A supplier has a queue of the addresses that work: those of the map,
which it goes through when it is made, and those of the events since. Each
step of one of these threads is an event of the machine.
-/

namespace ASync

namespace Discovery

open ASync.Core

/-- How far a supplier is. While it is made it holds the lock of its queue. -/
inductive SupplierStage
  | registered
  /-- It goes through the map: the number of changes there were when it
  began, the keys it has yet to come to, and the addresses it has taken. -/
  | loading (modCount : ℕ) (keys : List (String × String)) (taken : Multiset DeviceAddress)
  | ready
  /-- The map was changed meanwhile, and the constructor throws a
  `ConcurrentModificationException`. -/
  | failed
  | closed
  deriving DecidableEq

/-- Its constructor has the lock of the queue. -/
def SupplierStage.isLocked : SupplierStage → Bool
  | .registered | .loading _ _ _ => true
  | _ => false

/-- Its constructor has returned. -/
def SupplierStage.isMade : SupplierStage → Bool
  | .ready | .closed => true
  | _ => false

structure DeviceAddressSupplier where
  stage : SupplierStage := .registered
  deviceAddressQueue : Multiset DeviceAddress := ∅
  /-- The addresses that were polled, in order. -/
  polled : List DeviceAddress := []
  deriving DecidableEq

/-- How far a thread is with the list it processes. -/
inductive Processing
  | received (deviceAddresses : List DeviceAddress)
  | filtered (list : List DeviceAddress)
  | ranked (list : List DeviceAddress)
  /-- The address is in the map. -/
  | updating (deviceAddress : DeviceAddress) (list : List DeviceAddress)
  /-- The event is to be handed to some suppliers. -/
  | posting (deviceAddress : DeviceAddress) (subscribers : List ℕ) (list : List DeviceAddress)
  deriving DecidableEq

structure DiscoveryHandler where
  deviceAddressMap : Table (String × String) DeviceAddress := ∅
  /-- How often a key was added to the map. -/
  modCount : ℕ := 0
  isClosed : Bool := false
  processing : List Processing := []
  /-- The suppliers made so far, by their numbers. -/
  suppliers : List DeviceAddressSupplier := []
  /-- The addresses the database did not take. -/
  failed : List DeviceAddress := []

/-- A step of the handler, of a thread or of a supplier. The configured
peers, and the network, are as the step finds them. -/
inductive DiscoveryEvent (α : Type)
  | processDeviceAddressBg (deviceAddresses : List DeviceAddress)
  | filter (position : ℕ) (peers : List String)
  | rank (position : ℕ) (network : Network α)
  | put (position : ℕ)
  /-- The database takes the address, and the event is posted. -/
  | post (position : ℕ)
  | updateFails (position : ℕ)
  | handle (position : ℕ) (subscriber : ℕ)
  | newDeviceAddressSupplier
  /-- A supplier begins to go through the map, in some order of its keys. -/
  | load (supplier : ℕ) (keys : List (String × String))
  /-- It comes to the next entry, or to the end. -/
  | next (supplier : ℕ)
  | getDeviceAddress (supplier : ℕ) (deviceAddress : DeviceAddress)
  | closeSupplier (supplier : ℕ)
  | close

/-- The key of an address in the map. -/
def keyOf (deviceAddress : DeviceAddress) : String × String :=
  (deviceAddress.deviceId, deviceAddress.address)

namespace DeviceAddressSupplier

/-- `handleNewDeviceAddressAcquiredEvent`, once the lock is free. -/
def handleNewDeviceAddressAcquired (supplier : DeviceAddressSupplier)
    (deviceAddress : DeviceAddress) : DeviceAddressSupplier :=
  if deviceAddress.isWorking then
    { supplier with deviceAddressQueue := deviceAddress ::ₘ supplier.deviceAddressQueue }
  else supplier

/-- `poll`, which gives one of the addresses of the least score. -/
def poll (supplier : DeviceAddressSupplier) (deviceAddress : DeviceAddress) :
    Option DeviceAddressSupplier :=
  if deviceAddress ∈ supplier.deviceAddressQueue ∧
      ∀ other ∈ supplier.deviceAddressQueue, deviceAddress.score ≤ other.score then
    some { supplier with
      deviceAddressQueue := supplier.deviceAddressQueue.erase deviceAddress
      polled := supplier.polled ++ [deviceAddress] }
  else none

end DeviceAddressSupplier

/-- The event of an address, and what comes after the last supplier. -/
def Processing.postingTo (deviceAddress : DeviceAddress) (subscribers : List ℕ)
    (list : List DeviceAddress) : Processing :=
  if subscribers = [] then .ranked list else .posting deviceAddress subscribers list

namespace DiscoveryHandler

variable {α : Type} (s : DiscoveryHandler)

/-- The thread at a position moves on. -/
def proceed (position : ℕ) (next : Processing) : DiscoveryHandler :=
  { s with processing := s.processing.set position next }

def setSupplier (j : ℕ) (supplier : DeviceAddressSupplier) : DiscoveryHandler :=
  { s with suppliers := s.suppliers.set j supplier }

/-- What the filter keeps: addresses of peers that are not in the map. -/
def unprocessed (peers : List String) (deviceAddresses : List DeviceAddress) : List DeviceAddress :=
  deviceAddresses.filter fun deviceAddress =>
    decide (deviceAddress.deviceId ∈ peers) &&
      (s.deviceAddressMap.find (keyOf deviceAddress)).isNone

/-- What `getAllWorkingDeviceAddresses` takes of an entry. -/
def workingAt (key : String × String) : Multiset DeviceAddress :=
  match s.deviceAddressMap.find key with
  | some deviceAddress => if deviceAddress.isWorking then {deviceAddress} else 0
  | none => 0

/-- The iterator of the map's values moves on, unless a key was added since
it was made. -/
def nextOf (supplier : DeviceAddressSupplier) : Option DeviceAddressSupplier :=
  match supplier.stage with
  | .loading modCount (key :: keys) taken =>
    if s.modCount = modCount then
      some { supplier with stage := .loading modCount keys (taken + s.workingAt key) }
    else some { supplier with stage := .failed }
  | .loading _ [] taken => some { supplier with
      stage := .ready
      deviceAddressQueue := supplier.deviceAddressQueue + taken }
  | _ => none

/-- The suppliers that are registered with the event bus. -/
def subscribers : List ℕ :=
  (List.range s.suppliers.length).filter fun j =>
    s.suppliers[j]?.any fun supplier => supplier.stage != .closed

/-- A step of a thread, by how far it is. -/
def processingStep (position : ℕ) : DiscoveryEvent α → Processing → Option DiscoveryHandler
  | .filter _ peers, .received deviceAddresses =>
    some (s.proceed position (.filtered (s.unprocessed peers deviceAddresses)))
  | .rank _ network, .filtered list =>
    some (s.proceed position (.ranked (AddressRanker.testAndRank network list)))
  | .put _, .ranked (deviceAddress :: list) =>
    some { s.proceed position (.updating deviceAddress list) with
      deviceAddressMap := s.deviceAddressMap.merge (keyOf deviceAddress) deviceAddress
      modCount := if (s.deviceAddressMap.find (keyOf deviceAddress)).isSome then s.modCount
        else s.modCount + 1 }
  | .post _, .updating deviceAddress list =>
    some (s.proceed position (.postingTo deviceAddress s.subscribers list))
  -- the exception is logged, and the rest of the list is left
  | .updateFails _, .updating deviceAddress _ =>
    some { s.proceed position (.ranked []) with failed := s.failed ++ [deviceAddress] }
  | .handle _ subscriber, .posting deviceAddress subscribers list => do
    let supplier ← s.suppliers[subscriber]?
    if subscriber ∈ subscribers ∧ supplier.stage.isLocked = false then
      return (s.setSupplier subscriber
        (supplier.handleNewDeviceAddressAcquired deviceAddress)).proceed position
          (.postingTo deviceAddress (subscribers.erase subscriber) list)
    else none
  | _, _ => none

def step (event : DiscoveryEvent α) : Option DiscoveryHandler :=
  match event with
  | .processDeviceAddressBg deviceAddresses =>
    if s.isClosed then some s
    else some { s with processing := s.processing ++ [.received deviceAddresses] }
  | .filter position _ | .rank position _ | .put position | .post position
  | .updateFails position | .handle position _ => do
    s.processingStep position event (← s.processing[position]?)
  | .newDeviceAddressSupplier => some { s with suppliers := s.suppliers ++ [{}] }
  | .load j keys => do
    let supplier ← s.suppliers[j]?
    if supplier.stage = .registered ∧ keys.Nodup ∧ keys.toFinset = s.deviceAddressMap.keys then
      return s.setSupplier j { supplier with stage := .loading s.modCount keys 0 }
    else none
  | .next j => do return s.setSupplier j (← s.nextOf (← s.suppliers[j]?))
  | .getDeviceAddress j deviceAddress => do
    let supplier ← s.suppliers[j]?
    if supplier.stage.isMade then return s.setSupplier j (← supplier.poll deviceAddress) else none
  | .closeSupplier j => do
    let supplier ← s.suppliers[j]?
    if supplier.stage.isMade then return s.setSupplier j { supplier with stage := .closed }
      else none
  | .close => some { s with isClosed := true }

end DiscoveryHandler

/-- The runs of a handler. -/
def discovering (α : Type) : Machine DiscoveryHandler (DiscoveryEvent α) :=
  Machine.ofStep {} DiscoveryHandler.step

end Discovery

end ASync
