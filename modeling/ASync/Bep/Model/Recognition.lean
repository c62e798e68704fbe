import ASync.Bep.Model.BlockPusher
import ASync.Bep.Model.FileUpload
import ASync.Bep.Model.IndexMessageProcessor
/-!
# How an upload learns that it is complete

The listener `pushFile` registers with the index handler waits for an
`IndexRecordAquiredEvent` with a record of the file's path and hash. The
handler's bus is synchronous: a listener has run when `post` returns. A
`RecognitionEvent` is one call on the handler after `pushFile` registered
it, where an index message takes one for each of its records.
-/

namespace ASync

namespace Bep

open ASync.Core Repository BlockExchageProtos Effect

section State

variable [FilenameUtils]

/-- An index message in process, with the connection it came on. -/
structure Received where
  peerDeviceId : String
  clusterConfigInfo : ClusterConfigInfo
  processing : Processing

/-- The index handler, and the upload that listens to it. -/
structure Recognition where
  indexHandler : IndexHandler
  processing : Option Received := none
  isCompleted : Bool := false
  /-- The index messages processed, whether or not one threw. -/
  processed : List IndexUpdate := []

end State

/-- A step of the handler: the processor's thread starts a message, pushes
its next record, ends it; another thread processes a cluster
configuration, pushes the record of a local edit, clears the index. -/
inductive RecognitionEvent
  | start (peerDeviceId : String) (clusterConfigInfo : ClusterConfigInfo) (message : IndexUpdate)
  | push (fault : Fault)
  | finish
  | clusterConfig (message : ClusterConfig)
  | pushRecord (fault : Fault) (folder : String) (fileInfo : BlockExchageProtos.FileInfo)
  | clearIndex (folders : List FolderInfo)

namespace Recognition

variable [Guava] [FilenameUtils] [Protobuf IndexSerializationProtos.Blocks]

omit [Protobuf IndexSerializationProtos.Blocks] in
/-- `handleIndexRecordAquiredEvent`: whether it sets `isCompleted`. -/
def completes (source : DataSource) (folder path : String) : IndexEvent → Bool
  | .indexRecordAquired eventFolder newRecords _ =>
    decide (eventFolder = folder) && newRecords.any (FileUpload.isPushed source path)
  | _ => false

omit [Protobuf IndexSerializationProtos.Blocks] in
/-- A call on the handler, and the listener on what it posts. -/
def call {α : Type} (source : DataSource) (folder path : String) (m : HandlerM α)
    (s : Recognition) : Recognition :=
  let handler := after m s.indexHandler
  let posted := handler.events.drop s.indexHandler.events.length
  { s with
    indexHandler := handler
    isCompleted := s.isCompleted || posted.any (completes source folder path) }

/-- One turn of the record loop of the message in process. -/
def pushNext (source : DataSource) (folder path : String) (fault : Fault) (s : Recognition) :
    Option Recognition :=
  match s.processing with
  | none => none
  | some received =>
    let p := received.processing
    match p.remaining with
    | [] => none
    | fileInfo :: remaining =>
      let turn := processRecord fault p.message.folder fileInfo
      some { s.call source folder path turn with
        processing := some { received with
          processing := { p with
            remaining
            newRecords := p.newRecords ++ (result turn s.indexHandler).join.toList
            sequence := max fileInfo.sequence p.sequence } } }

omit [Protobuf IndexSerializationProtos.Blocks] in
/-- The end of the message in process. -/
def finish (source : DataSource) (folder path : String) (s : Recognition) : Option Recognition :=
  match s.processing with
  | none => none
  | some received =>
    let p := received.processing
    match p.remaining with
    | _ :: _ => none
    | [] =>
      some { s.call source folder path (run (finishMessage received.clusterConfigInfo
          received.peerDeviceId p.message.folder p.message.files.length p.newRecords p.sequence))
        with processing := none, processed := s.processed ++ [p.message] }

/-- Takes a step. The processor has one thread. -/
def step (source : DataSource) (folder path : String) (s : Recognition) :
    RecognitionEvent → Option Recognition
  | .start peerDeviceId clusterConfigInfo message =>
    match s.processing with
    | some _ => none
    | none =>
      some { s with
        processing := some ⟨peerDeviceId, clusterConfigInfo, ⟨message, message.files, [], -1⟩⟩ }
  | .push fault => s.pushNext source folder path fault
  | .finish => s.finish source folder path
  | .clusterConfig message =>
    some (s.call source folder path (handleClusterConfigMessageProcessedEvent message))
  | .pushRecord fault folder' fileInfo =>
    some (s.call source folder path (Bep.pushRecord fault folder' fileInfo))
  | .clearIndex folders => some (s.call source folder path (Bep.clearIndex folders))

end Recognition

/-- The runs from when `pushFile` has registered its listener, with some
handler, to `close`. -/
def recognitions [Guava] [FilenameUtils] [Protobuf IndexSerializationProtos.Blocks]
    (handler : IndexHandler) (source : DataSource) (folder path : String) :
    Machine Recognition RecognitionEvent :=
  Machine.ofStep { indexHandler := handler } (Recognition.step source folder path)

end Bep

end ASync
