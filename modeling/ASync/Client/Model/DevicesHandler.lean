import ASync.Common.Run
import ASync.Core.Model.ConfigurationService
import ASync.Core.Model.DeviceAddress
/-!
# The devices handler

What is known of each device is a record in a map, and a change is a
record read from the map, a changed copy, and the copy put into it. Event
handlers and the periodic check do so on threads of their own; an access
to the map is one step.
-/

namespace ASync

namespace Client

open ASync.Core

inductive DeviceStatus
  | OFFLINE
  | ONLINE_ACTIVE
  | ONLINE_INACTIVE
  deriving DecidableEq, Repr

/-- The record of a device. Dates are milliseconds since the epoch, which
a clock is past. The name is not blank unless it is made of the id. -/
structure DeviceStats where
  deviceId : String
  name : String
  lastActive : ℕ := 0
  lastSeen : ℕ := 0
  status : DeviceStatus := .OFFLINE
  deviceId_ne : deviceId ≠ ""
  name_eq : isBlank (some name) = true → name = shortName deviceId

theorem nameOr_eq_shortName {deviceId : String} {name : Option String}
    (h : isBlank (some (nameOr name deviceId)) = true) :
      nameOr name deviceId = shortName deviceId :=
  nameOr_eq name deviceId h

/-- A record that is built anew. An id of which the name cannot be made is
refused where there is no name. -/
def DeviceStats.new (deviceId : String) (name : Option String) : Except JavaException DeviceStats :=
  if hne : deviceId = "" then .error (.nullPointer "")
  else if isBlank name ∧ deviceId.length < 7 then .error
    (.runtime "StringIndexOutOfBoundsException")
  else .ok {
    deviceId := deviceId
    name := nameOr name deviceId
    deviceId_ne := hne
    name_eq := nameOr_eq_shortName }

/-- What a copy of a record changes. -/
inductive StatsChange
  /-- A record is made. -/
  | created
  /-- `handleDeviceAddressActiveEvent`. -/
  | active
  /-- `handleDeviceAddressReceivedEvent`. -/
  | received
  /-- The periodic check. -/
  | inactive
  deriving DecidableEq, Repr

/-- A record about to be put, and the record it is a copy of. -/
structure StatsPut where
  change : StatsChange
  read : Option DeviceStats
  stats : DeviceStats

section DevicesHandler

variable [Guava]

/-- What a thread does next. -/
inductive StatsOp
  /-- `loadDevicesFromConfiguration`. -/
  | loadDevices
  /-- It looks for a peer in the map. -/
  | load (peer : DeviceInfo)
  | get (change : StatsChange) (deviceId : String)
  /-- A record was read. -/
  | build (change : StatsChange) (stats : DeviceStats)
  | put (put : StatsPut)
  /-- The periodic check takes the records of the map. -/
  | values

/-- A thread: what it does next, and what it has put. -/
structure StatsThread where
  ops : List StatsOp
  puts : List StatsPut := []

structure DevicesHandler where
  deviceStatsMap : Table String DeviceStats := ∅
  now : ℕ
  threads : List StatsThread := []

inductive DevicesEvent
  | handleDeviceAddressActiveEvent (deviceAddress : DeviceAddress)
  | handleDeviceAddressReceivedEvent (deviceAddresses : List DeviceAddress)
  | check
  /-- Time goes by. -/
  | tick (milliseconds : ℕ)
  /-- A thread goes on, with the peers that are configured and the records
  of the map in some order. -/
  | run (thread : ℕ) (peers : List DeviceInfo) (values : List DeviceStats)

namespace DevicesHandler

/-- The changed copy of a record, if one is made. -/
def changed (now : ℕ) (stats : DeviceStats) : StatsChange → Option DeviceStats
  | .created => some stats
  | .active => some { stats with lastActive := now, status := .ONLINE_ACTIVE }
  | .received =>
    let status := if stats.status = .OFFLINE then .ONLINE_INACTIVE else stats.status
    some { stats with status, lastSeen := now }
  | .inactive =>
    if stats.status = .ONLINE_ACTIVE ∧ now - stats.lastActive > 5 * 1000 then
      some { stats with status := .ONLINE_INACTIVE }
    else none

/-- What follows from an operation that does not put; `none` where it
throws. -/
def next (s : DevicesHandler) (peers : List DeviceInfo) (values : List DeviceStats) :
    StatsOp → Option (List StatsOp)
  | .loadDevices => some (peers.map .load)
  | .load peer =>
    if (s.deviceStatsMap.find peer.deviceId).isSome then some []
    else
      match DeviceStats.new peer.deviceId (some peer.name) with
      | .ok stats => some [.put ⟨.created, none, stats⟩]
      | .error _ => none
  | .get change deviceId =>
    match s.deviceStatsMap.find deviceId with
    | some stats => some [.build change stats]
    | none =>
      match DeviceStats.new deviceId none with
      | .ok stats => some [.put ⟨.created, none, stats⟩, .build change stats]
      | .error _ => none
  | .build change stats =>
    match changed s.now stats change with
    | some copy => some [.put ⟨change, some stats, copy⟩]
    | none => some []
  | .put _ => some []
  | .values => some (values.map (.build .inactive))

/-- A thread carries out its next operation. -/
def ran (s : DevicesHandler) (i : ℕ) (thread : StatsThread) (op : StatsOp) (ops : List StatsOp)
    (peers : List DeviceInfo) (values : List DeviceStats) : DevicesHandler :=
  match op with
  | .put put =>
    { s with
      deviceStatsMap := s.deviceStatsMap.merge put.stats.deviceId put.stats
      threads := s.threads.set i ⟨ops, thread.puts ++ [put]⟩ }
  | op => { s with
      threads := s.threads.set i
        { thread with ops := ((s.next peers values op).map (· ++ ops)).getD [] } }

end DevicesHandler

/-- The records of a new handler. -/
def loadDevicesFromConfiguration (map : Table String DeviceStats) :
    List DeviceInfo → Except JavaException (Table String DeviceStats)
  | [] => .ok map
  | peer :: peers =>
    if (map.find peer.deviceId).isSome then loadDevicesFromConfiguration map peers
    else do
      let stats ← DeviceStats.new peer.deviceId (some peer.name)
      loadDevicesFromConfiguration (map.merge stats.deviceId stats) peers

/-- A handler of which the threads take their steps in any order. -/
def devicesHandling : Machine DevicesHandler DevicesEvent where
  start s := (∃ peers, loadDevicesFromConfiguration ∅ peers = .ok s.deviceStatsMap) ∧ s.threads = []
  step s e s' :=
    match e with
    | .handleDeviceAddressActiveEvent deviceAddress =>
      s' = { s with threads := s.threads ++
        [⟨[.loadDevices, .get .active deviceAddress.deviceId], []⟩] }
    | .handleDeviceAddressReceivedEvent deviceAddresses =>
      s' = { s with threads := s.threads ++ [⟨(deviceAddresses.filter (·.isWorking)).flatMap
        fun deviceAddress => [.loadDevices, .get .received deviceAddress.deviceId], []⟩] }
    | .check => s' = { s with threads := s.threads ++ [⟨[.values], []⟩] }
    | .tick milliseconds => s' = { s with now := s.now + milliseconds }
    | .run i peers values => ∃ thread op ops, s.threads[i]? = some thread ∧ thread.ops = op :: ops ∧
        (op = .values → (values : Multiset DeviceStats) = s.deviceStatsMap.entries.map Sigma.snd) ∧
        s' = s.ran i thread op ops peers values

end DevicesHandler

end Client

end ASync
