import ASync.Core.Model.KeystoreHandler
import ASync.Repository.Model.SqlRepository
import ASync.Bep.Model.Protos
/-!
# The index handler

How a peer's records enter the repository: a record is built from the
message, added unless the stored one is as recent, and the message's
greatest sequence is noted once its records are through. The calls run
under the handler's write lock, so each is one computation on its state;
what is posted, logged as discarded, or signalled is part of the state.
-/

namespace ASync

namespace Bep

open ASync.Core Repository BlockExchageProtos

/-- The folders a connection shares with its peer. -/
structure ClusterConfigInfo where
  sharedFolders : List String
  deriving DecidableEq

section Events

variable [FilenameUtils]

/-- What the handler's event bus carries. -/
inductive IndexEvent
  | indexChanged (folder : String) (newRecords : List Core.FileInfo)
  | indexRecordAquired (folder : String) (newRecords : List Core.FileInfo) (indexInfo : IndexInfo)
  | fullIndexAquired (folder : String)
  deriving DecidableEq

/-- The state of the handler: its repository, its folders, the counters
of its message processor, the events posted, the records it warned of as
discarded, and how often it has woken those who wait for the index. -/
structure IndexHandler where
  indexRepository : SqlRepository
  folderInfoByFolder : Table String FolderInfo := ∅
  queuedMessages : ℤ := 0
  queuedRecords : ℤ := 0
  events : List IndexEvent := []
  discarded : List BlockExchageProtos.FileInfo := []
  notified : ℕ := 0

/-- A call on the handler. -/
abbrev HandlerM := EStateM JavaException IndexHandler

/-- A call on the handler's repository. -/
def repository {α : Type} (m : RepoM α) : HandlerM α :=
  Effect.focus IndexHandler.indexRepository (fun r h => { h with indexRepository := r }) m

def post (event : IndexEvent) : HandlerM Unit :=
  modify fun h => { h with events := h.events ++ [event] }

def postIf (c : Bool) (event : IndexEvent) : HandlerM Unit := if c then post event else pure ()

end Events

variable [Guava] [FilenameUtils] [Protobuf IndexSerializationProtos.Blocks]

/-! ## Records -/

/-- The modification time of a record, in milliseconds. -/
def lastModified (bepFileInfo : BlockExchageProtos.FileInfo) : ℤ :=
  Long.wrap (bepFileInfo.modifiedS * 1000 + bepFileInfo.modifiedNs.tdiv 1000000)

/-- The version vector of a record, empty where it has none. -/
def versionList (bepFileInfo : BlockExchageProtos.FileInfo) : List Version :=
  (bepFileInfo.version.getD []).map fun counter => ⟨counter.id, counter.value⟩

/-- The blocks of a record, their hashes in base16. -/
def blockList (bepFileInfo : BlockExchageProtos.FileInfo) : List Core.BlockInfo :=
  bepFileInfo.blocks.map fun block => ⟨block.offset, block.size, base16Encode block.hash⟩

/-- The builder `pushRecord` starts from. -/
def newBuilder (folder : String) (bepFileInfo : BlockExchageProtos.FileInfo) (type : FileType) :
    FileInfo.Builder where
  folder := folder
  path := bepFileInfo.name
  lastModified := lastModified bepFileInfo
  versionList := versionList bepFileInfo
  deleted := bepFileInfo.deleted
  type := type

/-- The first half of `pushRecord`: the record and its blocks, `none` for
a type that is not supported. -/
def buildRecord (folder : String) (bepFileInfo : BlockExchageProtos.FileInfo) :
    Except JavaException (Option (Core.FileInfo × Option FileBlocks)) := do
  match bepFileInfo.type with
  | .FILE =>
    let fileBlocks ← FileBlocks.new folder bepFileInfo.name (blockList bepFileInfo)
    let record ← { newBuilder folder bepFileInfo .FILE with
      hash := some fileBlocks.hash, size := some bepFileInfo.size }.build
    return some (record, some fileBlocks)
  | .DIRECTORY =>
    let record ← (newBuilder folder bepFileInfo .DIRECTORY).build
    return some (record, none)
  | _ => return none

/-- `addRecord`: a record that was not modified after the stored one is
discarded. -/
def addRecord (fault : Fault) (record : Core.FileInfo) (fileBlocks : Option FileBlocks) :
    HandlerM (Option Core.FileInfo) := do
  let stored ← repository (findFileInfoLastModified fault record.folder record.path)
  if stored.any fun lastModified => !decide (lastModified < record.lastModified) then
    return none
  else
    repository (updateFileInfo fault record fileBlocks)
    post (.indexChanged record.folder [record])
    return some record

def pushRecord (fault : Fault) (folder : String) (bepFileInfo : BlockExchageProtos.FileInfo) :
    HandlerM (Option Core.FileInfo) := do
  match ← ofExcept (buildRecord folder bepFileInfo) with
  | some (record, fileBlocks) => addRecord fault record fileBlocks
  | none => return none

/-- A file's record with its block list; `none` where the path has no
record. -/
def getFileInfoAndBlocksByPath (folder path : String) :
    HandlerM (Option (Core.FileInfo × FileBlocks)) := do
  match ← repository (findFileInfo none folder path) with
  | none => return none
  | some fileInfo =>
    ofExcept (checkArgument fileInfo.isFile "")
    let found ← repository (findFileBlocks folder path)
    let fileBlocks ← ofExcept (checkNotNull found "file blocks not found for file info")
    return some (fileInfo, fileBlocks)

/-! ## Life cycle -/

omit [Guava] [Protobuf IndexSerializationProtos.Blocks] in
/-- The folders of the configuration, put in order. -/
def loadFolderInfoFromConfig (folders : List FolderInfo) : HandlerM Unit :=
  modify fun h => { h with
    folderInfoByFolder := h.folderInfoByFolder.mergeAll FolderInfo.folder folders }

omit [Guava] [Protobuf IndexSerializationProtos.Blocks] in
/-- `clearIndex`, where the configuration has some folders. -/
def clearIndex (folders : List FolderInfo) : HandlerM Unit := do
  repository Repository.clearIndex
  modify fun h => { h with folderInfoByFolder := ∅ }
  loadFolderInfoFromConfig folders

/-! ## Index info -/

/-- A guarded assignment of `updateIndexInfo`: a value that is given and
passes the test is set. With the builder goes whether one ever was. -/
def assign (value : Option ℤ) (test : ℤ → Bool) (set : ℤ → IndexInfo)
    (builder : IndexInfo × Bool) : IndexInfo × Bool :=
  match value with
  | some v => if test v then (set v, true) else builder
  | none => builder

def assignIndexId (indexId : Option ℤ) (b : IndexInfo × Bool) : IndexInfo × Bool :=
  assign indexId (fun v => v ≠ b.1.indexId) (fun v => { b.1 with indexId := v }) b

def assignMaxSequence (maxSequence : Option ℤ) (b : IndexInfo × Bool) : IndexInfo × Bool :=
  assign maxSequence (fun v => b.1.maxSequence < v) (fun v => { b.1 with maxSequence := v }) b

def assignLocalSequence (localSequence : Option ℤ) (b : IndexInfo × Bool) : IndexInfo × Bool :=
  assign localSequence (fun v => b.1.localSequence < v) (fun v => { b.1 with localSequence := v }) b

def changeIndexInfo (info : IndexInfo) (indexId maxSequence localSequence : Option ℤ) :
    IndexInfo × Bool :=
  assignLocalSequence localSequence (assignMaxSequence maxSequence (assignIndexId indexId
    (info, false)))

def indexInfoNotFound (folder deviceId : String) : String :=
  "index sequence info not found, and supplied null index id (folder = " ++ folder ++
    ", device = " ++ deviceId ++ ")"

omit [Guava] [Protobuf IndexSerializationProtos.Blocks] in
/-- `updateIndexInfo`. -/
def updateIndexInfo (folder deviceId : String) (indexId maxSequence localSequence : Option ℤ) :
    HandlerM IndexInfo := do
  match ← repository (findIndexInfoByDeviceAndFolder deviceId folder) with
  | none =>
    let id ← ofExcept (checkNotNull indexId (indexInfoNotFound folder deviceId))
    let (info, _) := changeIndexInfo
      { folder, deviceId, indexId := id, localSequence := 0, maxSequence := -1 }
      indexId maxSequence localSequence
    repository (Repository.updateIndexInfo info)
    return info
  | some stored =>
    let (info, changed) := changeIndexInfo stored indexId maxSequence localSequence
    if changed then
      repository (Repository.updateIndexInfo info)
    return info

def updateFolderInfo (folder : String) (label : String) : HandlerM FolderInfo := do
  let h ← get
  match h.folderInfoByFolder.find folder with
  | some folderInfo =>
    if label = "" then return folderInfo
    else
      let folderInfo ← ofExcept (FolderInfo.new folder (some label))
      modify fun h => { h with
        folderInfoByFolder := h.folderInfoByFolder.merge folderInfo.folder folderInfo }
      return folderInfo
  | none =>
    let folderInfo ← ofExcept (FolderInfo.new folder (some label))
    modify fun h => { h with
      folderInfoByFolder := h.folderInfoByFolder.merge folderInfo.folder folderInfo }
    return folderInfo

/-- What a folder record of the cluster configuration says of one of its
devices. -/
def handleDevice (folder : String) (deviceRecord : Device) : HandlerM Unit := do
  let deviceId ← ofExcept (KeystoreHandler.hashDataToDeviceIdString deviceRecord.id)
  match deviceRecord.indexId, deviceRecord.maxSequence with
  | some indexId, some maxSequence =>
    discard (updateIndexInfo folder deviceId (some indexId) (some maxSequence) none)
  | _, _ => pure ()

def handleFolder (folderRecord : Folder) : HandlerM Unit := do
  discard (updateFolderInfo folderRecord.id folderRecord.label)
  forM folderRecord.devices (handleDevice folderRecord.id)

def handleClusterConfigMessageProcessedEvent (message : ClusterConfig) : HandlerM Unit :=
  forM message.folders handleFolder

/-- `isRemoteIndexAquired`: every shared folder's index has been received
up to the sequence announced. -/
def isRemoteIndexAquired (clusterConfigInfo : ClusterConfigInfo) (peerDeviceId : String) :
    HandlerM Bool :=
  clusterConfigInfo.sharedFolders.foldlM (fun ready folder => do
    match ← repository (findIndexInfoByDeviceAndFolder peerDeviceId folder) with
    | none => return false
    | some info => return ready && decide (info.maxSequence ≤ info.localSequence)) true

/-! ## Index messages -/

/-- One turn of the record loop: an exception is logged, the record
discarded, and its sequence counted all the same. -/
def processRecord (fault : Fault) (folder : String) (fileInfo : BlockExchageProtos.FileInfo) :
    HandlerM (Option Core.FileInfo) :=
  tryCatch (pushRecord fault folder fileInfo) fun _ => do
    modify fun h => { h with discarded := h.discarded ++ [fileInfo] }
    return none

/-- The record loop, with the statement each record's call fails at. -/
def processRecords (folder : String) :
    List (BlockExchageProtos.FileInfo × Fault) → List Core.FileInfo → ℤ →
      HandlerM (List Core.FileInfo × ℤ)
  | [], newRecords, sequence => return (newRecords, sequence)
  | (fileInfo, fault) :: rest, newRecords, sequence => do
    let newRecord ← processRecord fault folder fileInfo
    processRecords folder rest (newRecords ++ newRecord.toList) (max fileInfo.sequence sequence)

/-- What follows the loop. The log line on the remaining queue divides by
the number of records, which an empty message makes zero. -/
def finishMessage (clusterConfigInfo : ClusterConfigInfo) (peerDeviceId folder : String)
    (filesCount : ℕ) (newRecords : List Core.FileInfo) (sequence : ℤ) : HandlerM Unit := do
  let newIndexInfo ← updateIndexInfo folder peerDeviceId none none (some sequence)
  modify fun h => { h with queuedRecords := h.queuedRecords - filesCount }
  let h ← get
  let _ ← ofExcept (divide h.queuedRecords filesCount)
  postIf (!newRecords.isEmpty) (.indexRecordAquired folder newRecords newIndexInfo)
  postIf (← isRemoteIndexAquired clusterConfigInfo peerDeviceId) (.fullIndexAquired folder)
  modify fun h => { h with notified := h.notified + 1 }

/-- The records of a message, each with the statement its call fails at,
given by position. -/
def withFaults (faults : ℕ → Fault) (files : List BlockExchageProtos.FileInfo) :
    List (BlockExchageProtos.FileInfo × Fault) :=
  files.zipIdx.map fun r => (r.1, faults r.2)

/-- `doHandleIndexMessageReceivedEvent` of a message. -/
def doHandleIndexMessageReceivedEvent (faults : ℕ → Fault) (message : IndexUpdate)
    (clusterConfigInfo : ClusterConfigInfo) (peerDeviceId : String) : HandlerM Unit := do
  let (newRecords, sequence) ←
    processRecords message.folder (withFaults faults message.files) [] (-1)
  finishMessage clusterConfigInfo peerDeviceId message.folder message.files.length newRecords
    sequence

/-- `ProcessingRunnable.run`: whatever the message throws is logged. -/
def run (runProcess : HandlerM Unit) : HandlerM Unit := do
  tryCatch runProcess fun _ => pure ()
  modify fun h => { h with queuedMessages := h.queuedMessages - 1 }

end Bep

end ASync
