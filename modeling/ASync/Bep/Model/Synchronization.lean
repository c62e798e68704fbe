import ASync.Common.Deltas
import ASync.Bep.Helpers.Messages
import ASync.Bep.Model.ClusterConfig
/-!
# Following the indexes of peers

This device beside the peers it shares a folder with. A peer numbers its
records of the folder; on a connection it sends those past the sequence
`connect` told it of, and whatever it records later. A connection may be
lost at any point, with the messages on their way. The peers keep to the
protocol; this device runs the index handler, and its database may fail.
-/

namespace ASync

namespace Bep

open ASync.Core Repository BlockExchageProtos Effect

variable [Guava] [FilenameUtils]

/-- What this device reads off a record of a folder. -/
def recordNumbering (accepts : BlockExchageProtos.FileInfo → Bool) :
    Numbering String BlockExchageProtos.FileInfo where
  key := BlockExchageProtos.FileInfo.name
  stamp := Bep.lastModified
  number := BlockExchageProtos.FileInfo.sequence
  accepts := accepts

structure Synchronization where
  handler : IndexHandler
  /-- The records each peer has made of the folder, in order. -/
  history : String → List BlockExchageProtos.FileInfo
  session : ℕ → Option (Channel String BlockExchageProtos.FileInfo)

inductive SyncEvent
  /-- A peer makes a record. -/
  | record (peer : String) (fileInfo : BlockExchageProtos.FileInfo)
  /-- A session begins with the cluster configuration of this device. -/
  | connect (session : ℕ) (peer : String)
  /-- The cluster configuration of a peer is processed. -/
  | clusterConfig (message : ClusterConfig)
  /-- The peer of a session sends an index message. -/
  | send (session : ℕ) (files : List BlockExchageProtos.FileInfo)
  /-- One of the messages of a session is processed. -/
  | process (session index : ℕ) (cluster : ClusterConfigInfo) (faults : ℕ → Fault)
  /-- A message of another folder is. -/
  | processOther (peer : String) (cluster : ClusterConfigInfo) (faults : ℕ → Fault)
      (message : IndexUpdate)
  /-- A session ends, and only some messages on their way arrive. -/
  | disconnect (session arrived : ℕ)

/-- Where a peer begins to send: past what this device has of its index,
or at the beginning where this device knows another index, or none. -/
def startOf (indexId : ℤ) (device : Device) : ℤ :=
  if device.indexId = some indexId then device.maxSequence.getD 0 else 0

variable [Protobuf IndexSerializationProtos.Blocks]

namespace Synchronization

/-- A message of a session is taken out of order where the index is not
zero. -/
def processMessage (folder : String) (s : Synchronization) (j n : ℕ) (cluster : ClusterConfigInfo)
    (faults : ℕ → Fault) : Option Synchronization := do
  let c ← s.session j
  let files ← c.inFlight[n]?
  let message := PeerMessage.index c.source cluster faults ⟨folder, files⟩
  return { s with
    handler := after message.process s.handler
    session := Function.update s.session j (some { c with inFlight := c.inFlight.eraseIdx n }) }

/-- The peer's index of the folder has the id `indexId peer`. -/
def step (folder : String) (indexId : String → ℤ) (s : Synchronization) :
    SyncEvent → Option Synchronization
  | .record peer fileInfo =>
    some { s with history := Function.update s.history peer (s.history peer ++ [fileInfo]) }
  | .connect j peer =>
    if (s.session j).isSome then none
    else
      match (peerDevice true peer folder).run s.handler with
      | .ok device handler => some { s with
          handler
          session := Function.update s.session j
            (some ⟨peer, startOf (indexId peer) device, [], true, true⟩) }
      | .error _ handler => some { s with handler }
  | .clusterConfig message =>
    some { s with handler := after (PeerMessage.clusterConfig message).process s.handler }
  | .send j files => do
    let c ← s.session j
    if c.isOpen then
      return { s with session := Function.update s.session j (some { c with
        cursor := max c.cursor (maxSequence files (-1)), inFlight := c.inFlight ++ [files] }) }
    else none
  | .process j n cluster faults => s.processMessage folder j n cluster faults
  | .processOther peer cluster faults message =>
    some { s with
      handler := after (PeerMessage.index peer cluster faults message).process s.handler }
  | .disconnect j n => do
    let c ← s.session j
    return { s with session := Function.update s.session j (some (c.cut n)) }

/-- Nothing is stored, recorded or connected. -/
def fresh : Synchronization where
  handler := IndexHandler.fresh
  history _ := []
  session _ := none

end Synchronization

end Bep

end ASync
