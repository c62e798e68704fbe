import ASync.Common.LoadingCache
import ASync.Common.Run
import ASync.Core.Model.ConfigurationService
import ASync.Core.Model.FileInfoOrdering
import ASync.Repository.Model.Queries
/-!
# The index browser

The caches, the current path and the preload jobs of an `IndexBrowser`,
and the calls on it. A call that reads the repository is given the fault
the database fails with, and a query for several rows the rows it gave.
The browser holds the repository as it is at the moment.
-/

namespace ASync

namespace Bep

open ASync.Core ASync.Repository

variable [FilenameUtils]

/-- A browser of a folder. The preload jobs are in the order they were
added last. -/
structure IndexBrowser where
  folder : String
  folder_ne : folder ≠ ""
  indexRepository : SqlRepository
  includeParentInList : Bool
  allowParentInRoot : Bool
  ordering : Comparator FileInfo
  currentPath : String := PathUtils.ROOT_PATH
  listFolderCache : Table String (List FileInfo) := ∅
  fileInfoCache : Table String FileInfo := ∅
  preloadJobs : List String := []
  /-- The preload runnables the executor has not begun. -/
  submitted : ℕ := 0

/-- A call on a browser. -/
abbrev BrowserM := EStateM JavaException IndexBrowser

namespace IndexBrowser

/-- What a loading cache makes of an exception of its loader. -/
def uncheckedExecution (_ : JavaException) : JavaException := .runtime "UncheckedExecutionException"

/-- A directory of the browser's folder without a version. -/
def directory (b : IndexBrowser) (path fileName parent : String)
    (h : PathUtils.namesOf path = .ok (fileName, parent)) : FileInfo where
  folder := b.folder
  fileName := fileName
  path := path
  parent := parent
  hash := none
  size := none
  lastModified := 0
  type := .DIRECTORY
  versionList := []
  deleted := false
  folder_ne := b.folder_ne
  names_eq := h
  typed := typed_directory

def PARENT_FILE_INFO (b : IndexBrowser) : FileInfo :=
  b.directory PathUtils.PARENT_PATH PathUtils.PARENT_PATH PathUtils.ROOT_PATH rfl

def ROOT_FILE_INFO (b : IndexBrowser) : FileInfo :=
  b.directory PathUtils.ROOT_PATH (PathUtils.getFileName PathUtils.ROOT_PATH)
    PathUtils.ROOT_PATH rfl

/-! ## Preloading -/

def preloadFileInfoForCurrentPath : BrowserM Unit :=
  modify fun b =>
    if b.currentPath ∈ b.preloadJobs then
      -- add last, no need to trigger a job
      { b with preloadJobs := b.preloadJobs.erase b.currentPath ++ [b.currentPath] }
    else
      { b with preloadJobs := b.preloadJobs ++ [b.currentPath], submitted := b.submitted + 1 }

def invalidateCache : BrowserM Unit := do
  modify fun b => { b with listFolderCache := ∅ }
  modify fun b => { b with fileInfoCache := ∅ }
  preloadFileInfoForCurrentPath

def isCacheReady (b : IndexBrowser) : Bool := b.preloadJobs.isEmpty

/-! ## Records -/

def doGetFileInfoByAbsolutePath (fault : Fault) (path : String) : BrowserM FileInfo := do
  let b ← get
  let fileInfo ← ofExcept (findNotDeletedFileInfo b.indexRepository fault b.folder path)
  ofExcept (checkNotNull fileInfo ("file not found for path = " ++ path))

def getFileInfoByAbsolutePath (fault : Fault) (path : String) : BrowserM FileInfo := do
  if PathUtils.isRoot path then
    let b ← get
    return b.ROOT_FILE_INFO
  else
    LoadingCache.getUnchecked fileInfoCache (fun cache b => { b with fileInfoCache := cache })
      uncheckedExecution (doGetFileInfoByAbsolutePath fault path) path

/-! ## Listings -/

/-- The parent entry is part of a directory's listing. -/
def showsParent (b : IndexBrowser) (path : String) : Bool :=
  b.includeParentInList && (!PathUtils.isRoot path || b.allowParentInRoot)

/-- The records found go into the record cache one by one; the parent
entry comes in front of them after they were sorted. -/
def doListFiles (fault : Fault) (rows : List FileInfoRow) (path : String) :
    BrowserM (List FileInfo) := do
  let list ← ofExcept (findNotDeletedFilesByFolderAndParent fault rows)
  modify fun b => { b with fileInfoCache := Table.mergeAll b.fileInfoCache FileInfo.path list }
  let b ← get
  let list := Comparator.sort b.ordering list
  return if b.showsParent path then b.PARENT_FILE_INFO :: list else list

def listFiles (fault : Fault) (rows : List FileInfoRow) (absoluteDirPath : String) :
    BrowserM (List FileInfo) :=
  LoadingCache.getUnchecked listFolderCache (fun cache b => { b with listFolderCache := cache })
    uncheckedExecution (doListFiles fault rows absoluteDirPath) absoluteDirPath

/-- The cached listings are sorted as they are. -/
def setOrdering (ordering : Comparator FileInfo) : BrowserM Unit :=
  modify fun b => { b with
    ordering
    listFolderCache := b.listFolderCache.mapRows (Comparator.sort ordering) }

/-! ## Navigation -/

def getAbsolutePath (b : IndexBrowser) (relativePath : String) : Except JavaException String :=
  if PathUtils.isParent relativePath then PathUtils.getParentPath b.currentPath
  else PathUtils.normalizePath (b.currentPath ++ "/" ++ relativePath)

/-- The absolute path in the message of the null check is computed also
where the check passes. -/
def navigateToAbsolutePath (fault : Fault) (newPath : String) : BrowserM Unit := do
  if PathUtils.isRoot newPath then
    modify fun b => { b with currentPath := PathUtils.ROOT_PATH }
  else
    let fileInfo ← getFileInfoByAbsolutePath fault newPath
    let b ← get
    let _ ← ofExcept (b.getAbsolutePath newPath)
    ofExcept (checkArgument fileInfo.isDirectory
      ("cannot navigate to path " ++ fileInfo.path ++ ": not a directory"))
    modify fun b => { b with currentPath := fileInfo.path }
  preloadFileInfoForCurrentPath

/-- The parent of the path, and of its parent, until a directory is found
or no path is left; `false` where `fuel` calls did not get there. -/
def navigateToNearestPath (fault : Fault) : ℕ → Option String → BrowserM Bool
  | 0, _ => return false
  | fuel + 1, oldPath => do
    match oldPath with
    | none => return true
    | some path =>
      if isBlank (some path) then return true
      else
        tryCatch (do
          navigateToAbsolutePath fault path
          return true) fun _ => do
          let parent ← ofExcept (PathUtils.getParentPath path)
          navigateToNearestPath fault fuel (some parent)

/-! ## Building a browser -/

/-- What a browser is built from. -/
structure Builder where
  folder : String
  indexRepository : SqlRepository
  includeParentInList : Bool := false
  allowParentInRoot : Bool := false
  ordering : Comparator FileInfo := FileInfoOrdering.ALPHA_ASC_DIR_FIRST

/-- The constructor. -/
def Builder.new (builder : Builder) : Except JavaException IndexBrowser :=
  if h : builder.folder = "" then .error (.nullPointer "")
  else .ok {
    folder := builder.folder
    folder_ne := h
    indexRepository := builder.indexRepository
    includeParentInList := builder.includeParentInList
    allowParentInRoot := builder.allowParentInRoot
    ordering := builder.ordering }

/-- `buildToNearestPath`, `none` where `fuel` calls did not get there. -/
def Builder.buildToNearestPath (builder : Builder) (fuel : ℕ) (oldPath : Option String) :
    Except JavaException (Option IndexBrowser) := do
  let b ← builder.new
  match (navigateToNearestPath none fuel oldPath).run b with
  | .ok true b' => return some b'
  | .ok false _ => return none
  | .error e _ => throw e

end IndexBrowser

/-! ## A browser in use -/

/-- The calls on a browser, and a change of its folder's index. -/
inductive BrowserEvent
  | listFiles (fault : Fault) (rows : List FileInfoRow) (path : String)
  | setOrdering (ordering : Comparator FileInfo)
  | getFileInfoByAbsolutePath (fault : Fault) (path : String)
  | navigateToAbsolutePath (fault : Fault) (newPath : String)
  | indexChanged (indexRepository : SqlRepository)

open IndexBrowser Effect in
/-- A browser, built and used by one call after another. -/
def browsing : Machine IndexBrowser BrowserEvent where
  start b := ∃ builder : Builder, builder.new = .ok b
  step b e b' :=
    match e with
    | .listFiles fault rows path =>
      b.indexRepository.Selects b.folder path rows ∧ b' = after (listFiles fault rows path) b
    | .setOrdering ordering => b' = after (setOrdering ordering) b
    | .getFileInfoByAbsolutePath fault path => b' = after (getFileInfoByAbsolutePath fault path) b
    | .navigateToAbsolutePath fault newPath => b' = after (navigateToAbsolutePath fault newPath) b
    | .indexChanged indexRepository => b' = after invalidateCache { b with indexRepository }

end Bep

end ASync
