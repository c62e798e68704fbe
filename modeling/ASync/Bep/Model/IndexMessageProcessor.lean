import ASync.Bep.Model.IndexHandler
import ASync.Common.Run
/-!
# Index messages on their way

An index message passes through three executors. The connection's reader
receives the messages in the order sent and leaves each to a pool of
threads; a thread of the pool runs the handler, which submits the message
to the one thread that goes through its records. `Acquisition` is a
connection with everything on the way, and a `Turn` is one step of one of
these threads.
-/

namespace ASync

namespace Bep

open ASync.Core Repository BlockExchageProtos Effect

/-- What is submitted to the processor's thread: a message, or the key of
a stored one. -/
inductive ProcessingRunnable
  | message (data : IndexUpdate)
  | stored (key : String)
  deriving DecidableEq

variable [Guava] [FilenameUtils] [Protobuf IndexSerializationProtos.Blocks] [Protobuf IndexUpdate]

/-! ## The handler -/

omit [Guava] [Protobuf IndexSerializationProtos.Blocks] [Protobuf IndexUpdate] in
/-- A message is counted as it is submitted. -/
def countMessage (data : IndexUpdate) : HandlerM Unit :=
  modify fun h => { h with
    queuedMessages := h.queuedMessages + 1
    queuedRecords := h.queuedRecords + data.files.length }

def processBg (data : IndexUpdate) : HandlerM ProcessingRunnable := do
  countMessage data
  return .message data

/-- The message is stored under the random key drawn. -/
def storeAndProcessBg (key : String) (data : IndexUpdate) : HandlerM ProcessingRunnable := do
  repository (pushTempData key (toByteArray data))
  countMessage data
  return .stored key

/-- `IndexMessageProcessor.handleIndexMessageReceivedEvent`. -/
def handleIndexMessageReceivedEvent (key : String) (data : IndexUpdate) :
    HandlerM ProcessingRunnable := do
  if 0 < (← get).queuedMessages then storeAndProcessBg key data else processBg data

/-- The message of a task. -/
def messageOf : ProcessingRunnable → HandlerM IndexUpdate
  | .message data => return data
  | .stored key => do
    let data ← repository (popTempData key)
    match (parseFrom data : Option IndexUpdate) with
    | some message => return message
    | none => throw (.runtime "InvalidProtocolBufferException")

/-- `runProcess` of a task. -/
def runProcess (faults : ℕ → Fault) (clusterConfigInfo : ClusterConfigInfo)
    (peerDeviceId : String) (task : ProcessingRunnable) : HandlerM Unit := do
  let message ← messageOf task
  doHandleIndexMessageReceivedEvent faults message clusterConfigInfo peerDeviceId

/-! ## The connection -/

/-- The message the processor's thread is in: what is left of its record
loop, and what the loop has gathered. -/
structure Processing where
  message : IndexUpdate
  remaining : List BlockExchageProtos.FileInfo
  newRecords : List Core.FileInfo
  sequence : ℤ

structure Acquisition where
  /-- The messages the peer sends, not received yet. -/
  wire : List IndexUpdate
  /-- The messages received whose handler has not run. -/
  received : List IndexUpdate
  /-- The tasks submitted to the processor's thread. -/
  queue : List ProcessingRunnable
  processing : Option Processing
  handler : IndexHandler
  /-- The records handed to `pushRecord`, with their folder. -/
  handed : List (String × BlockExchageProtos.FileInfo)

/-- A step of one of the threads: the reader receives a message; the pool
runs the handler of the message at a position, with the key it draws; the
processor's thread starts a task, pushes a record, ends a message. -/
inductive Turn
  | receive
  | dispatch (position : ℕ) (key : String)
  | start
  | push (fault : Fault)
  | finish
  deriving DecidableEq

namespace Acquisition

def receive (s : Acquisition) : Option Acquisition :=
  match s.wire with
  | [] => none
  | message :: wire => some { s with wire, received := s.received ++ [message] }

/-- The event bus logs what a handler throws. -/
def dispatch (s : Acquisition) (position : ℕ) (key : String) : Option Acquisition :=
  match s.received[position]? with
  | none => none
  | some message =>
    let call := handleIndexMessageReceivedEvent key message
    some { s with
      received := s.received.eraseIdx position
      handler := after call s.handler
      queue := s.queue ++ (result call s.handler).toList }

/-- A task whose message cannot be had ends here. -/
def start (s : Acquisition) : Option Acquisition :=
  match s.processing, s.queue with
  | none, task :: queue =>
    match result (messageOf task) s.handler with
    | some message =>
      some { s with
        queue
        handler := after (messageOf task) s.handler
        processing := some ⟨message, message.files, [], -1⟩ }
    | none => some { s with queue, handler := after (run (discard (messageOf task))) s.handler }
  | _, _ => none

/-- One turn of the record loop. -/
def push (s : Acquisition) (fault : Fault) : Option Acquisition :=
  match s.processing with
  | none => none
  | some p =>
    match p.remaining with
    | [] => none
    | fileInfo :: remaining =>
      let call := processRecord fault p.message.folder fileInfo
      some { s with
        handler := after call s.handler
        handed := s.handed ++ [(p.message.folder, fileInfo)]
        processing := some { p with
          remaining
          newRecords := p.newRecords ++ (result call s.handler).join.toList
          sequence := max fileInfo.sequence p.sequence } }

/-- The end of a message, once its records are through. -/
def finish (clusterConfigInfo : ClusterConfigInfo) (peerDeviceId : String) (s : Acquisition) :
    Option Acquisition :=
  match s.processing with
  | none => none
  | some p =>
    match p.remaining with
    | _ :: _ => none
    | [] =>
      some { s with
        handler := after (run (finishMessage clusterConfigInfo peerDeviceId p.message.folder
          p.message.files.length p.newRecords p.sequence)) s.handler
        processing := none }

def step (clusterConfigInfo : ClusterConfigInfo) (peerDeviceId : String) (s : Acquisition) :
    Turn → Option Acquisition
  | .receive => s.receive
  | .dispatch position key => s.dispatch position key
  | .start => s.start
  | .push fault => s.push fault
  | .finish => s.finish clusterConfigInfo peerDeviceId

/-- A connection before its peer's first index message. -/
def initial (handler : IndexHandler) (sent : List IndexUpdate) : Acquisition where
  wire := sent
  received := []
  queue := []
  processing := none
  handler := handler
  handed := []

end Acquisition

/-- The runs of a connection over which `sent` arrives. -/
def acquisition (clusterConfigInfo : ClusterConfigInfo) (peerDeviceId : String)
    (handler : IndexHandler) (sent : List IndexUpdate) : Machine Acquisition Turn :=
  Machine.ofStep (Acquisition.initial handler sent)
    (Acquisition.step clusterConfigInfo peerDeviceId)

/-! ## The next connection -/

omit [Guava] [Protobuf IndexSerializationProtos.Blocks] [Protobuf IndexUpdate] in
/-- The peer's device record in the cluster configuration `connect` sends:
the index known of it, and the sequence it is known up to. -/
def otherDevice (id : Bytes) (peerDeviceId folder : String) : HandlerM Device := do
  match ← repository (findIndexInfoByDeviceAndFolder peerDeviceId folder) with
  | some info => return ⟨id, some info.indexId, some info.localSequence⟩
  | none => return ⟨id, none, none⟩

end Bep

end ASync
