import ASync.Bep.Model.IndexBrowser
/-!
# A browser's caches beside the index thread

The calls that fill a browser's caches read the repository and put what
they read one by one; the index thread writes a record and has both caches
dropped, in steps between theirs. Cache operations are atomic, and entries
do not expire.
-/

namespace ASync

namespace Bep

open ASync.Core ASync.Repository

variable [Guava] [FilenameUtils] [Protobuf IndexSerializationProtos.Blocks]

/-- `addRecord` up to its post: whether the record was written. -/
def storeRecord (fault : Fault) (record : FileInfo) (fileBlocks : Option FileBlocks) :
    RepoM Bool := do
  let stored ← findFileInfoLastModified fault record.folder record.path
  if stored.any fun lastModified => !decide (lastModified < record.lastModified) then
    return false
  else
    updateFileInfo fault record fileBlocks
    return true

/-- Where the index thread is in `addRecord`. -/
inductive IndexThread
  | idle
  /-- The record is written, and its event not handled. -/
  | posting (folder : String)
  /-- The handler has dropped the listings, and not the records. -/
  | listsDropped
  deriving DecidableEq

/-- A call that missed its cache. -/
inductive CacheLoad
  /-- `getFileInfoByAbsolutePath`, before and after it read. -/
  | record (path : String)
  | recordRead (path : String) (fileInfo : FileInfo)
  /-- `doListFiles`, before it read and after, with the records not yet put. -/
  | listing (path : String)
  | listingRead (path : String) (list : List FileInfo) (puts : List FileInfo)
  /-- The call has returned, or thrown. -/
  | done

/-- A browser, the calls that fill its caches, and the index thread. -/
structure BrowserCaches where
  browser : IndexBrowser
  index : IndexThread := .idle
  loads : List CacheLoad := []

inductive CacheEvent
  /-- A call that finds its cache empty there. -/
  | getFileInfo (path : String)
  | listFiles (path : String)
  /-- A call reads the repository. -/
  | read (load : ℕ) (fault : Fault) (rows : List FileInfoRow)
  /-- A call puts the next of what it read. -/
  | put (load : ℕ)
  /-- The index thread calls `addRecord`. -/
  | addRecord (fault : Fault) (record : FileInfo) (fileBlocks : Option FileBlocks)
  | invalidateLists
  | invalidateRecords

/-- The directory a call is to list. -/
def CacheLoad.listed : CacheLoad → Option String
  | .listing path => some path
  | _ => none

namespace BrowserCaches

/-- What a call goes on with after it read. -/
def readBy (s : BrowserCaches) (fault : Fault) (rows : List FileInfoRow) : CacheLoad → CacheLoad
  | .record path =>
    match findNotDeletedFileInfo s.browser.indexRepository fault s.browser.folder path with
    | .ok (some fileInfo) => .recordRead path fileInfo
    | _ => .done
  | .listing path =>
    match findNotDeletedFilesByFolderAndParent fault rows with
    | .ok list => .listingRead path list list
    | .error _ => .done
  | load => load

/-- What a call puts next, and what it goes on with. -/
def putBy (b : IndexBrowser) : CacheLoad → IndexBrowser × CacheLoad
  | .recordRead path fileInfo =>
    ({ b with fileInfoCache := b.fileInfoCache.merge path fileInfo }, .done)
  | .listingRead path list (fileInfo :: puts) =>
    ({ b with fileInfoCache := b.fileInfoCache.merge fileInfo.path fileInfo },
      .listingRead path list puts)
  | .listingRead path list [] =>
    let sorted := Comparator.sort b.ordering list
    let listing := if b.showsParent path then b.PARENT_FILE_INFO :: sorted else sorted
    ({ b with listFolderCache := b.listFolderCache.merge path listing }, .done)
  | load => (b, load)

/-- The index thread writes a record; a call that throws posts nothing. -/
def stored (s : BrowserCaches) (fault : Fault) (record : FileInfo)
    (fileBlocks : Option FileBlocks) : BrowserCaches :=
  match (storeRecord fault record fileBlocks).run s.browser.indexRepository with
  | .ok true r =>
    { s with browser := { s.browser with indexRepository := r }, index := .posting record.folder }
  | .ok false r => { s with browser := { s.browser with indexRepository := r } }
  | .error _ r => { s with browser := { s.browser with indexRepository := r } }

/-- The handler's first statement, of an event of the browser's folder. -/
def listsInvalidated (s : BrowserCaches) (folder : String) : BrowserCaches :=
  if folder = s.browser.folder then
    { s with browser := { s.browser with listFolderCache := ∅ }, index := .listsDropped }
  else { s with index := .idle }

/-- Its other statements. -/
def recordsInvalidated (s : BrowserCaches) : BrowserCaches :=
  { s with
    browser := Effect.after IndexBrowser.preloadFileInfoForCurrentPath
      { s.browser with fileInfoCache := ∅ }
    index := .idle }

end BrowserCaches

/-- A browser in use while records come in. -/
def caching : Machine BrowserCaches CacheEvent where
  start s := ∃ builder : IndexBrowser.Builder, ∃ b, builder.new = .ok b ∧ s = { browser := b }
  step s e s' :=
    match e with
    | .getFileInfo path =>
      PathUtils.isRoot path = false ∧ s.browser.fileInfoCache.find path = none ∧
        s' = { s with loads := s.loads ++ [.record path] }
    | .listFiles path =>
      s.browser.listFolderCache.find path = none ∧
        s' = { s with loads := s.loads ++ [.listing path] }
    | .read i fault rows => ∃ load, s.loads[i]? = some load ∧
        (∀ path ∈ load.listed, s.browser.indexRepository.Selects s.browser.folder path rows) ∧
        s' = { s with loads := s.loads.set i (s.readBy fault rows load) }
    | .put i => ∃ load, s.loads[i]? = some load ∧
        s' = { s with
          browser := (BrowserCaches.putBy s.browser load).1
          loads := s.loads.set i (BrowserCaches.putBy s.browser load).2 }
    | .addRecord fault record fileBlocks =>
      s.index = .idle ∧ s' = s.stored fault record fileBlocks
    | .invalidateLists => ∃ folder, s.index = .posting folder ∧ s' = s.listsInvalidated folder
    | .invalidateRecords => s.index = .listsDropped ∧ s' = s.recordsInvalidated

end Bep

end ASync
