import ASync.Bep.Model.BlockPuller
import ASync.Bep.Model.DataSource
/-!
# Pushing a local edit

`BlockPusher` announces a local edit: a record with the next sequence,
whose version is the old version the caller gives and one more counter,
the local device's.
-/

namespace ASync

namespace Bep

open ASync.Core BlockExchageProtos

/-- The sequence counter of the local index. -/
structure Sequencer where
  indexId : ℤ
  currentSequence : ℤ
  deriving DecidableEq

/-- The next sequence, a `long`. -/
def Sequencer.nextSequence (sequencer : Sequencer) : ℤ := Long.wrap (sequencer.currentSequence + 1)

/-- The local device's id, the connection, the sequencer and the index
updates handed to the connection. -/
structure BlockPusher where
  deviceId : String
  connectionHandler : Connection
  sequencer : Sequencer
  sent : List IndexUpdate := []

/-- Code that runs on a pusher. -/
abbrev PusherM := EStateM JavaException BlockPusher

/-- `ByteBuffer.getLong`. -/
def getLong (bytes : Bytes) : Except JavaException ℤ :=
  match Wire.readFully 8 bytes with
  | some (long, _) => .ok (Wire.signed long)
  | none => .error .bufferUnderflow

variable [Guava] [FilenameUtils]

/-- The id the local device has in versions: the start of its hash. -/
def localId (deviceId : String) : Except JavaException ℤ := do
  let hashData ← KeystoreHandler.deviceIdStringToHashData deviceId
  getLong hashData

/-- A version as a counter of a message. -/
def counterOf (version : Version) : Counter := ⟨version.id, version.value⟩

namespace BlockPusher

/-- Draws the next sequence. -/
def nextSequence : PusherM ℤ := do
  let p ← get
  set { p with
    sequencer := { p.sequencer with currentSequence := p.sequencer.nextSequence } }
  return p.sequencer.nextSequence

/-- `sendMessage`, which refuses to work on a closed connection. -/
def sendMessage (indexUpdate : IndexUpdate) : PusherM Unit := do
  let p ← get
  if p.connectionHandler.closesAfter = some p.sent.length then
    throw (.illegalArgument ("connection " ++ p.connectionHandler.text ++ " closed"))
  else
    set { p with sent := p.sent ++ [indexUpdate] }

/-- The update sent for an edit at the time `now`, in milliseconds. -/
def indexUpdateOf (folder : String) (fileInfoBuilder : BlockExchageProtos.FileInfo)
    (list : List Version) (id nextSequence now : ℤ) : IndexUpdate where
  folder := folder
  files := [{ fileInfoBuilder with
    sequence := nextSequence
    version := some (list.map counterOf ++ [⟨id, nextSequence⟩])
    modifiedS := now.tdiv 1000
    modifiedNs := now.tmod 1000 * 1000000
    noPermissions := true }]

def sendIndexUpdate (now : ℤ) (folder : String) (fileInfoBuilder : BlockExchageProtos.FileInfo)
    (oldVersions : Option (List Version)) : PusherM IndexUpdate := do
  let sequence ← nextSequence
  let list := oldVersions.getD []
  let id ← ofExcept (localId (← get).deviceId)
  let indexUpdate := indexUpdateOf folder fileInfoBuilder list id sequence now
  sendMessage indexUpdate
  return indexUpdate

/-- The check that the connection shares a folder. -/
def checkFolder (folder : String) : PusherM Unit := do
  let connectionHandler := (← get).connectionHandler
  ofExcept (checkArgument (folder ∈ connectionHandler.folders)
    ("supplied connection handler " ++ connectionHandler.text ++
      " will not share folder " ++ folder))

/-- `FileInfoType.valueOf(type.name())`. -/
def typeOf : FileType → FileInfoType
  | .FILE => .FILE
  | .DIRECTORY => .DIRECTORY

/-- The folder is read from the record before the record is checked. -/
def pushDelete (now : ℤ) (fileInfo : Option Core.FileInfo) (folder path : String) :
    PusherM IndexUpdate := do
  let info ← ofExcept (checkNotNull fileInfo "")
  checkFolder info.folder
  sendIndexUpdate now folder
    { name := path, type := typeOf info.type, deleted := true } (some info.versionList)

def pushDir (now : ℤ) (folder path : String) : PusherM IndexUpdate := do
  checkFolder folder
  sendIndexUpdate now folder { name := path, type := .DIRECTORY } none

/-- `pushFile`, up to the index update. -/
def pushFile (now : ℤ) (dataSource : DataSource) (fileInfo : Option Core.FileInfo)
    (folder path : String) : PusherM IndexUpdate := do
  checkFolder folder
  ofExcept (checkArgument (fileInfo.all fun info => info.folder = folder) "")
  ofExcept (checkArgument (fileInfo.all fun info => info.path = path) "")
  tryCatch
    (sendIndexUpdate now folder
      { name := path, size := dataSource.getSize, type := .FILE, blocks := dataSource.getBlocks }
      (fileInfo.map (·.versionList)))
    fun _ => throw (.runtime "")

end BlockPusher

/-- `getFileInfoByPath`. -/
def getFileInfoByPath [Protobuf Repository.IndexSerializationProtos.Blocks]
    (fault : Repository.Fault) (folder path : String) : HandlerM (Option Core.FileInfo) :=
  repository (Repository.findFileInfo fault folder path)

end Bep

end ASync
