import ASync.Common.Table
import ASync.Common.Effect
import ASync.Core.Model.Beans
/-!
# The SQL repository

The tables and caches of `SqlRepository` and the calls on them. Every
statement commits as it runs, so a call that throws keeps what its
earlier statements wrote; a `Fault` names the statement at which the
database fails during a call. A row of `file_info` can only come from a
`FileInfo`, and carries what the constructor checked, so that reading a
row back never fails.
-/

namespace ASync

namespace Repository

open ASync.Core

variable [Guava] [FilenameUtils]

/-! ## Stored messages -/

namespace IndexSerializationProtos

structure BlockInfo where
  offset : ℤ
  size : ℤ
  hash : Bytes
  deriving DecidableEq, Repr

/-- The message in the `blocks` column. -/
structure Blocks where
  blocks : List BlockInfo
  deriving DecidableEq, Repr

end IndexSerializationProtos

variable [Protobuf IndexSerializationProtos.Blocks]

/-! ## Rows -/

/-- A row of `file_info`. Of the version vector it holds one counter. -/
@[ext] structure FileInfoRow where
  folder : String
  path : String
  fileName : String
  parent : String
  size : Option ℤ
  hash : Option String
  lastModified : ℤ
  fileType : FileType
  versionId : ℤ
  versionValue : ℤ
  isDeleted : Bool
  folder_ne : folder ≠ ""
  names_eq : PathUtils.namesOf path = .ok (fileName, parent)
  typed : Typed fileType size hash

instance : DecidableEq FileInfoRow := fun _ _ => decidable_of_iff' _ FileInfoRow.ext_iff

/-- The row `updateFileInfo` writes for a record and its last version. -/
def FileInfoRow.of (info : FileInfo) (version : Version) : FileInfoRow where
  folder := info.folder
  path := info.path
  fileName := info.fileName
  parent := info.parent
  size := info.size
  hash := info.hash
  lastModified := info.lastModified
  fileType := info.type
  versionId := version.id
  versionValue := version.value
  isDeleted := info.deleted
  folder_ne := info.folder_ne
  names_eq := info.names_eq
  typed := info.typed

/-- A row of `file_blocks`. -/
structure FileBlocksRow where
  folder : String
  path : String
  hash : String
  size : ℤ
  blocks : Bytes
  deriving DecidableEq, Repr

/-! ## State -/

/-- The tables, by primary key, and the two loading caches. The rows of
`folder_stats` and `folder_index_info` have the columns of their beans. -/
structure SqlRepository where
  folderIndexInfo : Table (String × String) IndexInfo := ∅
  folderStats : Table String FolderStats := ∅
  fileInfo : Table (String × String) FileInfoRow := ∅
  fileBlocks : Table (String × String) FileBlocksRow := ∅
  /-- `none` where the temporary table does not exist. -/
  temporaryData : Option (Table String Bytes) := none
  indexInfoByDeviceIdAndFolder : Table (String × String) (Option IndexInfo) := ∅
  folderStatsByFolder : Table String (Option FolderStats) := ∅
  /-- The `FolderStatsUpdatedEvent`s posted. -/
  posted : List FolderStats := []

/-- The statements a database failure is told apart by. -/
inductive Statement
  | getConnection
  | selectLastModified
  | mergeFileBlocks
  | selectFileInfo
  | mergeFileInfo
  | selectFolderStats
  | mergeFolderStats
  deriving DecidableEq, Repr

/-- The statement a call fails at, if it fails. -/
abbrev Fault := Option Statement

/-- A call on the repository. -/
abbrev RepoM := EStateM JavaException SqlRepository

/-- A statement runs, or fails as an `SQLException` the call wraps. -/
def execute (fault : Fault) (statement : Statement) : RepoM Unit :=
  if fault = some statement then throw (.runtime "SQLException") else pure ()

/-! ## Index info -/

/-- The cache entry, loaded from `folder_index_info` where missing. -/
def findIndexInfoByDeviceAndFolder (deviceId folder : String) : RepoM (Option IndexInfo) := do
  let s ← get
  match s.indexInfoByDeviceIdAndFolder.find (deviceId, folder) with
  | some cached => return cached
  | none =>
    let loaded := s.folderIndexInfo.find (folder, deviceId)
    modify fun s => { s with
      indexInfoByDeviceIdAndFolder :=
        s.indexInfoByDeviceIdAndFolder.merge (deviceId, folder) loaded }
    return loaded

def updateIndexInfo (indexInfo : IndexInfo) : RepoM Unit :=
  modify fun s => { s with
    folderIndexInfo := s.folderIndexInfo.merge (indexInfo.folder, indexInfo.deviceId) indexInfo
    indexInfoByDeviceIdAndFolder :=
      s.indexInfoByDeviceIdAndFolder.merge (indexInfo.deviceId, indexInfo.folder)
        (some indexInfo) }

/-! ## File info -/

/-- A row as a record: the version list is the one counter stored. -/
def readFileInfo (row : FileInfoRow) : Except JavaException FileInfo :=
  match row.fileType with
  | .DIRECTORY =>
    { folder := row.folder, path := row.path, lastModified := row.lastModified
      versionList := [⟨row.versionId, row.versionValue⟩], deleted := row.isDeleted
      type := .DIRECTORY : FileInfo.Builder }.build
  | .FILE =>
    { folder := row.folder, path := row.path, lastModified := row.lastModified
      versionList := [⟨row.versionId, row.versionValue⟩], deleted := row.isDeleted
      type := .FILE, size := some (row.size.getD 0), hash := row.hash : FileInfo.Builder }.build

def findFileInfo (fault : Fault) (folder path : String) : RepoM (Option FileInfo) := do
  execute fault .selectFileInfo
  let s ← get
  match s.fileInfo.find (folder, path) with
  | none => return none
  | some row => return some (← ofExcept (readFileInfo row))

def findFileInfoLastModified (fault : Fault) (folder path : String) : RepoM (Option ℤ) := do
  execute fault .selectLastModified
  let s ← get
  return (s.fileInfo.find (folder, path)).map FileInfoRow.lastModified

/-- A row as a block list, the hashes in base16. -/
def readFileBlocks (row : FileBlocksRow) : Except JavaException FileBlocks :=
  match (parseFrom row.blocks : Option IndexSerializationProtos.Blocks) with
  | none => .error (.runtime "InvalidProtocolBufferException")
  | some message =>
    FileBlocks.new row.folder row.path
      (message.blocks.map fun block => ⟨block.offset, block.size, base16Encode block.hash⟩)

/-- `findFileBlocks`, where the database does not fail. -/
def findFileBlocks (folder path : String) : RepoM (Option FileBlocks) := do
  let s ← get
  match s.fileBlocks.find (folder, path) with
  | none => return none
  | some row => return some (← ofExcept (readFileBlocks row))

/-! ## Folder statistics -/

/-- The cache entry, loaded from `folder_stats` where missing; a failed
load leaves no entry. -/
def findFolderStats (fault : Fault) (folder : String) : RepoM (Option FolderStats) := do
  let s ← get
  match s.folderStatsByFolder.find folder with
  | some cached => return cached
  | none =>
    execute fault .selectFolderStats
    let loaded := s.folderStats.find folder
    modify fun s => { s with folderStatsByFolder := s.folderStatsByFolder.merge folder loaded }
    return loaded

/-- `updateFolderStats(Connection, FolderStats)`. -/
def writeFolderStats (fault : Fault) (folderStats : FolderStats) : RepoM Unit := do
  ofExcept (checkArgument (0 ≤ folderStats.fileCount) "")
  ofExcept (checkArgument (0 ≤ folderStats.dirCount) "")
  ofExcept (checkArgument (0 ≤ folderStats.size) "")
  execute fault .mergeFolderStats
  modify fun s => { s with folderStats := s.folderStats.merge folderStats.folder folderStats }

/-- The statistics after a change of counts and size. -/
def newFolderStats (old : Option FolderStats) (folder : String)
    (deltaFileCount deltaDirCount deltaSize lastUpdate : ℤ) : FolderStats :=
  match old with
  | none =>
    { folder, fileCount := deltaFileCount, dirCount := deltaDirCount, size := deltaSize
      lastUpdate }
  | some old =>
    { old with
      dirCount := old.dirCount + deltaDirCount
      fileCount := old.fileCount + deltaFileCount
      size := Long.wrap (old.size + deltaSize)
      lastUpdate := if old.lastUpdate < lastUpdate then lastUpdate else old.lastUpdate }

/-- `updateFolderStats(Connection, String, …)`: the base of the change is
the cached statistics. -/
def updateFolderStats (fault : Fault) (folder : String)
    (deltaFileCount deltaDirCount deltaSize lastUpdate : ℤ) : RepoM FolderStats := do
  let oldFolderStats ← findFolderStats fault folder
  let folderStats :=
    newFolderStats oldFolderStats folder deltaFileCount deltaDirCount deltaSize lastUpdate
  writeFolderStats fault folderStats
  return folderStats

/-- What a record adds to the file count of its folder. -/
def fileShare (info : FileInfo) : ℤ := if info.deleted then 0 else if info.isFile then 1 else 0

/-- What a record adds to the directory count. -/
def dirShare (info : FileInfo) : ℤ :=
  if info.deleted then 0 else if info.isFile then 0 else if info.isDirectory then 1 else 0

/-- What a record adds to the size. -/
def sizeShare (info : FileInfo) : ℤ :=
  if info.deleted || !info.isFile then 0 else info.size.getD 0

/-! ## Updating a record -/

/-- A block as a message, its hash decoded from base16. -/
def encodeBlock (block : BlockInfo) : Except JavaException IndexSerializationProtos.BlockInfo :=
  match base16Decode block.hash with
  | some hash => .ok ⟨block.offset, block.size, hash⟩
  | none => .error (.illegalArgument "invalid base16")

/-- The `blocks` column. -/
def encodeBlocks (fileBlocks : FileBlocks) : Except JavaException Bytes := do
  let blocks ← fileBlocks.blocks.mapM encodeBlock
  return toByteArray (IndexSerializationProtos.Blocks.mk blocks)

def mergeFileBlocks (fault : Fault) (fileBlocks : FileBlocks) : RepoM Unit := do
  let blocks ← ofExcept (encodeBlocks fileBlocks)
  execute fault .mergeFileBlocks
  modify fun s => { s with
    fileBlocks := s.fileBlocks.merge (fileBlocks.folder, fileBlocks.path)
      { folder := fileBlocks.folder, path := fileBlocks.path, hash := fileBlocks.hash
        size := fileBlocks.size, blocks } }

def mergeFileInfo (fault : Fault) (fileInfo : FileInfo) (version : Version) : RepoM Unit := do
  execute fault .mergeFileInfo
  modify fun s => { s with
    fileInfo := s.fileInfo.merge (fileInfo.folder, fileInfo.path)
      (FileInfoRow.of fileInfo version) }

/-- `Iterables.getLast`. -/
def getLast (versionList : List Version) : Except JavaException Version :=
  match versionList.getLast? with
  | some version => .ok version
  | none => .error .noSuchElement

/-- `updateFileInfo`: the block list, the record, the folder statistics
and their cache, in this order and without a transaction. -/
def updateFileInfo (fault : Fault) (newFileInfo : FileInfo) (newFileBlocks : Option FileBlocks) :
    RepoM Unit := do
  let version ← ofExcept (getLast newFileInfo.versionList)
  execute fault .getConnection
  match newFileBlocks with
  | some fileBlocks =>
    ofExcept (checkBlocks newFileInfo fileBlocks)
    mergeFileBlocks fault fileBlocks
  | none => pure ()
  let oldFileInfo ← findFileInfo fault newFileInfo.folder newFileInfo.path
  mergeFileInfo fault newFileInfo version
  -- the old record leaves the counts and the new one enters them
  let deltaFileCount := fileShare newFileInfo - oldFileInfo.elim 0 fileShare
  let deltaDirCount := dirShare newFileInfo - oldFileInfo.elim 0 dirShare
  let deltaSize := Long.wrap (sizeShare newFileInfo - oldFileInfo.elim 0 sizeShare)
  let folderStats ← updateFolderStats fault newFileInfo.folder deltaFileCount deltaDirCount
    deltaSize newFileInfo.lastModified
  modify fun s => { s with
    folderStatsByFolder := s.folderStatsByFolder.merge folderStats.folder (some folderStats)
    posted := s.posted ++ [folderStats] }

/-! ## Life cycle -/

/-- `initDb`: `DROP ALL OBJECTS`, then the permanent tables anew. -/
def initDb : RepoM Unit :=
  modify fun s => { s with
    folderIndexInfo := ∅, folderStats := ∅, fileInfo := ∅, fileBlocks := ∅
    temporaryData := none }

def clearIndex : RepoM Unit := do
  initDb
  modify fun s => { s with indexInfoByDeviceIdAndFolder := ∅, folderStatsByFolder := ∅ }

/-- The repository the constructor leaves on an empty directory: `initDb` and
`recreateTemporaryTables` have run. -/
def SqlRepository.fresh : SqlRepository where
  temporaryData := some ∅

/-! ## Temporary data -/

/-- `pushTempData`, under the random key drawn. -/
def pushTempData (key : String) (data : Bytes) : RepoM Unit := do
  let s ← get
  match s.temporaryData with
  | none => throw (.runtime "SQLException")
  | some table =>
    match table.find key with
    | some _ => throw (.runtime "SQLException")
    | none => set { s with temporaryData := some (table.merge key data) }

def popTempData (key : String) : RepoM Bytes := do
  let _ ← ofExcept (checkNotNull (emptyToNull key) "")
  let s ← get
  match s.temporaryData with
  | none => throw (.runtime "SQLException")
  | some table =>
    match table.find key with
    | none => throw (.illegalArgument "")
    | some data =>
      set { s with temporaryData := some (table.delete key) }
      return data

end Repository

end ASync
