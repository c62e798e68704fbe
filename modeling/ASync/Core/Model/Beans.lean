import ASync.Core.Model.Libraries
/-!
# The records of the index

`FileInfo`, `FileBlocks`, `FolderInfo`, `FolderStats` and `IndexInfo`.
A value of the first two can only be made by the constructor of the
class, so what the constructor checks is a field of the structure.
-/

namespace ASync

namespace Core

variable [Guava] [FilenameUtils]

namespace PathUtils

/-- The path of a folder's root. -/
def ROOT_PATH : String := ""

/-- The path that stands for the parent directory. -/
def PARENT_PATH : String := ".."

/-- Separators made uniform and a leading one dropped; the normaliser's
`null` fails on the call that follows. -/
def normalizePath (path : String) : Except JavaException String :=
  match FilenameUtils.normalizeNoEndSeparator path with
  | none => .error (.nullPointer "")
  | some p =>
    match p.toList with
    | '/' :: rest => .ok (String.ofList rest)
    | _ => .ok p

def isRoot (path : String) : Bool := path = ""

def isParent (path : String) : Bool := path = PARENT_PATH

def getParentPath (path : String) : Except JavaException String := do
  checkArgument (!isRoot path) "cannot get parent of root path"
  normalizePath (path ++ "/" ++ PARENT_PATH)

def getFileName (path : String) : String := FilenameUtils.getName path

def buildPath (dir file : String) : Except JavaException String :=
  normalizePath (dir ++ "/" ++ file)

/-- The file name and the parent a record of this path has. -/
def namesOf (path : String) : Except JavaException (String × String) := do
  if isParent path then
    return (PARENT_PATH, ROOT_PATH)
  else
    let parent ← if isRoot path then pure ROOT_PATH else getParentPath path
    return (getFileName path, parent)

end PathUtils

/-! ## File records -/

inductive FileType
  | FILE
  | DIRECTORY
  deriving DecidableEq, Repr

structure Version where
  id : ℤ
  value : ℤ
  deriving DecidableEq, Repr

/-- What the constructor makes of size and hash: a directory has neither,
a file has both, and a hash that is not empty. -/
def Typed (type : FileType) (size : Option ℤ) (hash : Option String) : Prop :=
  match type with
  | .DIRECTORY => size = none ∧ hash = none
  | .FILE => size.isSome ∧ ∃ h, hash = some h ∧ h ≠ ""

omit [Guava] [FilenameUtils] in
/-- A directory without size and hash is as the constructor makes it. -/
theorem typed_directory : Typed .DIRECTORY none none := ⟨rfl, rfl⟩

/-- A record of the index. -/
structure FileInfo where
  folder : String
  fileName : String
  path : String
  parent : String
  hash : Option String
  size : Option ℤ
  lastModified : ℤ
  type : FileType
  versionList : List Version
  deleted : Bool
  folder_ne : folder ≠ ""
  names_eq : PathUtils.namesOf path = .ok (fileName, parent)
  typed : Typed type size hash
  deriving DecidableEq

namespace FileInfo

def isDirectory (info : FileInfo) : Bool := info.type = .DIRECTORY

def isFile (info : FileInfo) : Bool := info.type = .FILE

/-- The builder of a record. -/
structure Builder where
  folder : String
  path : String
  hash : Option String := none
  size : Option ℤ := none
  lastModified : ℤ := 0
  type : FileType
  versionList : List Version := []
  deleted : Bool := false

/-- The constructor: names first, then size and hash by type. -/
def Builder.build (b : Builder) : Except JavaException FileInfo :=
  if hfolder : b.folder = "" then .error (.nullPointer "")
  else
    match hnames : PathUtils.namesOf b.path with
    | .error e => .error e
    | .ok (fileName, parent) =>
      match b.type with
      | .DIRECTORY =>
        .ok { folder := b.folder, fileName, path := b.path, parent, hash := none, size := none
              lastModified := b.lastModified, type := .DIRECTORY, versionList := b.versionList
              deleted := b.deleted, folder_ne := hfolder, names_eq := hnames, typed := ⟨rfl, rfl⟩ }
      | .FILE =>
        match b.size, b.hash with
        | some size, some hash =>
          if hhash : hash = "" then .error (.nullPointer "")
          else
            .ok { folder := b.folder, fileName, path := b.path, parent, hash := some hash
                  size := some size, lastModified := b.lastModified, type := .FILE
                  versionList := b.versionList, deleted := b.deleted, folder_ne := hfolder
                  names_eq := hnames, typed := ⟨rfl, hash, rfl, hhash⟩ }
        | _, _ => .error (.nullPointer "")

end FileInfo

/-! ## Block lists -/

structure BlockInfo where
  offset : ℤ
  size : ℤ
  hash : String
  deriving DecidableEq, Repr

namespace BlockUtils

/-- `hashBlocks`: the hash of the comma-joined block hashes. -/
def hashBlocks (blocks : List BlockInfo) : String :=
  sha256Hex (getBytes (",".intercalate (blocks.map BlockInfo.hash)))

end BlockUtils

/-- The blocks of a file. -/
structure FileBlocks where
  folder : String
  path : String
  blocks : List BlockInfo
  folder_ne : folder ≠ ""
  path_ne : path ≠ ""
  deriving DecidableEq

namespace FileBlocks

/-- The constructor. -/
def new (folder path : String) (blocks : List BlockInfo) : Except JavaException FileBlocks :=
  if hfolder : folder = "" then .error (.nullPointer "")
  else if hpath : path = "" then .error (.nullPointer "")
  else .ok ⟨folder, path, blocks, hfolder, hpath⟩

/-- The sum of the block sizes. -/
def size (b : FileBlocks) : ℤ := (b.blocks.map BlockInfo.size).sum

def hash (b : FileBlocks) : String := BlockUtils.hashBlocks b.blocks

end FileBlocks

/-- `FileInfo.checkBlocks`. -/
def checkBlocks (fileInfo : FileInfo) (fileBlocks : FileBlocks) : Except JavaException Unit := do
  checkArgument (fileBlocks.folder = fileInfo.folder)
    "file info folder not match file block folder"
  checkArgument (fileBlocks.path = fileInfo.path)
    "file info path does not match file block path"
  checkArgument fileInfo.isFile
    "file info must be of type 'FILE' to have blocks"
  checkArgument (some fileBlocks.size = fileInfo.size)
    "file info size does not match file block size"
  checkArgument (some fileBlocks.hash = fileInfo.hash)
    "file info hash does not match file block hash"

/-! ## Folders -/

/-- A folder and its label, which falls back on the folder's name. -/
structure FolderInfo where
  folder : String
  label : String
  deriving DecidableEq, Repr

/-- The constructor of `FolderInfo`. -/
def FolderInfo.new (folder : String) (label : Option String) :
    Except JavaException FolderInfo := do
  let folder ← checkNotNull (emptyToNull folder) ""
  return ⟨folder, (label.bind emptyToNull).getD folder⟩

/-- The statistics of a folder. -/
structure FolderStats where
  folder : String
  fileCount : ℤ
  dirCount : ℤ
  size : ℤ
  lastUpdate : ℤ
  deriving DecidableEq, Repr

/-- What is known of a device's index of a folder: its id, the greatest
sequence received and the greatest sequence announced. Folder and device
id are not empty wherever one is built, so the constructor's checks on
them are not repeated here. -/
structure IndexInfo where
  folder : String
  deviceId : String
  indexId : ℤ
  localSequence : ℤ
  maxSequence : ℤ
  deriving DecidableEq, Repr

end Core

end ASync
