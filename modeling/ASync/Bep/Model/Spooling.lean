import ASync.Bep.Model.Recognition
/-!
# Spooled index messages

An index message that finds others waiting is written to the temporary
table, and read back when its turn comes. `Spooling` is the index handler
with the tasks submitted to its processor, whatever connection they came
on. What a message is turned into when it is received is a parameter: the
handler stores some, and `direct` stores none.
-/

namespace ASync

namespace Bep

open ASync.Core Repository BlockExchageProtos Effect

/-- A task submitted to the processor's thread, with the connection its
message came on. -/
structure Task where
  peerDeviceId : String
  clusterConfigInfo : ClusterConfigInfo
  runnable : ProcessingRunnable

section State

variable [FilenameUtils]

structure Spooling where
  handler : IndexHandler
  queue : List Task := []
  processing : Option Received := none

end State

/-- A step of the handler: a connection's thread hands it a message, with
the random key drawn; the processor's thread starts a task, pushes the
message's next record, ends it; another thread processes a cluster
configuration, pushes the record of a local edit, clears the index. -/
inductive SpoolingEvent
  | receive (peerDeviceId : String) (clusterConfigInfo : ClusterConfigInfo) (key : String)
      (data : IndexUpdate)
  | start
  | push (fault : Fault)
  | finish
  | clusterConfig (message : ClusterConfig)
  | pushRecord (fault : Fault) (folder : String) (fileInfo : BlockExchageProtos.FileInfo)
  | clearIndex (folders : List FolderInfo)

namespace Spooling

variable [Guava] [FilenameUtils] [Protobuf IndexSerializationProtos.Blocks] [Protobuf IndexUpdate]

/-- What `submit` makes of the message goes to the processor; the event
bus logs what it throws. -/
def receive (submit : String → IndexUpdate → HandlerM ProcessingRunnable) (s : Spooling)
    (peerDeviceId : String) (clusterConfigInfo : ClusterConfigInfo) (key : String)
    (data : IndexUpdate) : Spooling :=
  { s with
    handler := after (submit key data) s.handler
    queue := s.queue ++ (result (submit key data) s.handler).toList.map
      (Task.mk peerDeviceId clusterConfigInfo) }

/-- A task whose message cannot be had ends here. -/
def start (s : Spooling) : Option Spooling :=
  match s.processing, s.queue with
  | none, task :: queue =>
    match result (messageOf task.runnable) s.handler with
    | some message =>
      some { s with
        queue
        handler := after (messageOf task.runnable) s.handler
        processing := some ⟨task.peerDeviceId, task.clusterConfigInfo,
          ⟨message, message.files, [], -1⟩⟩ }
    | none =>
      some { s with
        queue, handler := after (run (discard (messageOf task.runnable))) s.handler }
  | _, _ => none

/-- One turn of the record loop. -/
def push (s : Spooling) (fault : Fault) : Option Spooling :=
  match s.processing with
  | none => none
  | some received =>
    let p := received.processing
    match p.remaining with
    | [] => none
    | fileInfo :: remaining =>
      let turn := processRecord fault p.message.folder fileInfo
      some { s with
        handler := after turn s.handler
        processing := some { received with
          processing := { p with
            remaining
            newRecords := p.newRecords ++ (result turn s.handler).join.toList
            sequence := max fileInfo.sequence p.sequence } } }

/-- The end of a message, once its records are through. -/
def finish (s : Spooling) : Option Spooling :=
  match s.processing with
  | none => none
  | some received =>
    let p := received.processing
    match p.remaining with
    | _ :: _ => none
    | [] =>
      some { s with
        handler := after (run (finishMessage received.clusterConfigInfo received.peerDeviceId
          p.message.folder p.message.files.length p.newRecords p.sequence)) s.handler
        processing := none }

def step (submit : String → IndexUpdate → HandlerM ProcessingRunnable) (s : Spooling) :
    SpoolingEvent → Option Spooling
  | .receive peerDeviceId clusterConfigInfo key data =>
    some (s.receive submit peerDeviceId clusterConfigInfo key data)
  | .start => s.start
  | .push fault => s.push fault
  | .finish => s.finish
  | .clusterConfig message =>
    some { s with handler := after (handleClusterConfigMessageProcessedEvent message) s.handler }
  | .pushRecord fault folder fileInfo =>
    some { s with handler := after (Bep.pushRecord fault folder fileInfo) s.handler }
  | .clearIndex folders => some { s with handler := after (Bep.clearIndex folders) s.handler }

end Spooling

section Machines

variable [Guava] [FilenameUtils] [Protobuf IndexSerializationProtos.Blocks] [Protobuf IndexUpdate]

/-- The runs of a handler that stores the messages that find others
waiting. -/
def spooling (handler : IndexHandler) : Machine Spooling SpoolingEvent :=
  Machine.ofStep { handler := handler } (Spooling.step handleIndexMessageReceivedEvent)

/-- The runs of a handler that keeps every message at hand, as it does
one that finds the queue empty. -/
def direct (handler : IndexHandler) : Machine Spooling SpoolingEvent :=
  Machine.ofStep { handler := handler } (Spooling.step fun _ data => processBg data)

end Machines

end Bep

end ASync
