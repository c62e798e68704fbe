import ASync.Repository.Model.SqlRepository
import ASync.Common.Run
/-!
# The statistics cache, with its readers

The same cache is filled from two sides. `updateFileInfo` reads it, adds
the change of a record, writes the row and puts the entry back; the index
handler holds its write lock around the call, so there is one at a time.
`findAllFolderStats` selects the rows and puts each into the cache as it
goes through them, with no lock. The machine here takes the two apart
into the steps another thread can come between: a cache put, the read of
the cache (a miss included, since the loading cache drops a loaded value
another put has overtaken), and the statement on `folder_stats`.
-/

namespace ASync

namespace Repository

open ASync.Core Effect

variable [Guava] [FilenameUtils] [Protobuf IndexSerializationProtos.Blocks]

/-! ## The parts of an update -/

/-- What a record changes about its folder. -/
structure StatsChange where
  folder : String
  deltaFileCount : ℤ
  deltaDirCount : ℤ
  deltaSize : ℤ
  lastUpdate : ℤ
  deriving DecidableEq, Repr

/-- The statistics a change makes of the ones it was given. -/
def StatsChange.apply (change : StatsChange) (old : Option FolderStats) : FolderStats :=
  newFolderStats old change.folder change.deltaFileCount change.deltaDirCount change.deltaSize
    change.lastUpdate

/-- `updateFileInfo` up to the change of the folder. -/
def writeRecord (fault : Fault) (newFileInfo : FileInfo) (newFileBlocks : Option FileBlocks) :
    RepoM StatsChange := do
  let version ← ofExcept (getLast newFileInfo.versionList)
  execute fault .getConnection
  match newFileBlocks with
  | some fileBlocks =>
    ofExcept (checkBlocks newFileInfo fileBlocks)
    mergeFileBlocks fault fileBlocks
  | none => pure ()
  let oldFileInfo ← findFileInfo fault newFileInfo.folder newFileInfo.path
  mergeFileInfo fault newFileInfo version
  return {
    folder := newFileInfo.folder
    deltaFileCount := fileShare newFileInfo - oldFileInfo.elim 0 fileShare
    deltaDirCount := dirShare newFileInfo - oldFileInfo.elim 0 dirShare
    deltaSize := Long.wrap (sizeShare newFileInfo - oldFileInfo.elim 0 sizeShare)
    lastUpdate := newFileInfo.lastModified }

/-- The read of the cached statistics, and what the change makes of
them. -/
def readStats (fault : Fault) (change : StatsChange) : RepoM FolderStats := do
  let oldFolderStats ← findFolderStats fault change.folder
  return change.apply oldFolderStats

/-- The put after the row is written, and the event. -/
def putStats (folderStats : FolderStats) : RepoM Unit :=
  modify fun s => { s with
    folderStatsByFolder := s.folderStatsByFolder.merge folderStats.folder (some folderStats)
    posted := s.posted ++ [folderStats] }

/-- **An update is its parts, in a row.** -/
theorem updateFileInfo_eq (fault : Fault) (newFileInfo : FileInfo)
    (newFileBlocks : Option FileBlocks) :
    updateFileInfo fault newFileInfo newFileBlocks = (do
      let change ← writeRecord fault newFileInfo newFileBlocks
      let folderStats ← readStats fault change
      writeFolderStats fault folderStats
      putStats folderStats) := by
  cases newFileBlocks <;>
    simp only [updateFileInfo, writeRecord, readStats, putStats, updateFolderStats,
      StatsChange.apply, bind_assoc, pure_bind]

/-! ## The machine -/

/-- Where an update is, and what it holds on the way. -/
inductive Writer
  /-- The record is written, the statistics are to be read. -/
  | reading (fault : Fault) (change : StatsChange)
  /-- The new statistics are computed, their row is to be written. -/
  | merging (fault : Fault) (change : StatsChange) (folderStats : FolderStats)
  /-- The row is written, the cache is to be told. -/
  | putting (folderStats : FolderStats)
  deriving DecidableEq

/-- A repository with the calls in progress on it. -/
structure StatsCache where
  repository : SqlRepository
  /-- For each call of `findAllFolderStats`, the rows it has yet to put. -/
  readers : List (List FolderStats) := []
  /-- The update that holds the write lock. -/
  writer : Option Writer := none

inductive Turn
  /-- `findAllFolderStats` gets its rows, in any order. -/
  | select (rows : List FolderStats)
  /-- The `i`-th reader puts its next row. -/
  | refresh (i : ℕ)
  /-- The `i`-th reader ends with an exception. -/
  | abandon (i : ℕ)
  /-- An update takes the lock and writes the record. -/
  | writeRecord (fault : Fault) (newFileInfo : FileInfo) (newFileBlocks : Option FileBlocks)
  | readStats
  | mergeStats
  | putStats
  /-- The cache drops an entry, as it does with all on a restart. -/
  | expire (folder : String)

namespace StatsCache

/-- The rows of `folder_stats`. -/
def rows (s : SqlRepository) : Multiset FolderStats := s.folderStats.entries.map Sigma.snd

/-- A reader's put. -/
def refresh (s : SqlRepository) (row : FolderStats) : SqlRepository :=
  { s with folderStatsByFolder := s.folderStatsByFolder.merge row.folder (some row) }

/-- A part of an update runs: what it returns is held on to, and an
exception ends the update. -/
def advance {α : Type} (s : StatsCache) (part : RepoM α) (next : α → Option Writer) :
    StatsCache :=
  { s with
    repository := after part s.repository
    writer := (result part s.repository).bind next }

def step (s : StatsCache) : Turn → Option StatsCache
  | .select selected =>
    if (selected : Multiset FolderStats) = rows s.repository then
      some { s with readers := s.readers ++ [selected] }
    else none
  | .refresh i =>
    match s.readers[i]? with
    | some (row :: more) =>
      some { s with
        repository := refresh s.repository row
        readers := s.readers.set i more }
    | _ => none
  | .abandon i => some { s with readers := s.readers.set i [] }
  | .writeRecord fault newFileInfo newFileBlocks =>
    match s.writer with
    | none =>
      some (s.advance (Repository.writeRecord fault newFileInfo newFileBlocks)
        fun change => some (.reading fault change))
    | some _ => none
  | .readStats =>
    match s.writer with
    | some (.reading fault change) =>
      some (s.advance (Repository.readStats fault change)
        fun folderStats => some (.merging fault change folderStats))
    | _ => none
  | .mergeStats =>
    match s.writer with
    | some (.merging fault _ folderStats) =>
      some (s.advance (writeFolderStats fault folderStats) fun _ => some (.putting folderStats))
    | _ => none
  | .putStats =>
    match s.writer with
    | some (.putting folderStats) =>
      some (s.advance (Repository.putStats folderStats) fun _ => none)
    | _ => none
  | .expire folder =>
    some { s with
      repository := { s.repository with
        folderStatsByFolder := s.repository.folderStatsByFolder.delete folder } }

/-- The calls on a repository, started on an empty one. -/
def machine : Machine StatsCache Turn := .ofStep { repository := .fresh } step

/-- No call is in progress. -/
def Quiet (s : StatsCache) : Prop := s.writer = none ∧ ∀ rows ∈ s.readers, rows = []

/-- An update has written the row of a folder, and puts it next. -/
def PutsNext (s : StatsCache) (folder : String) : Prop :=
  ∃ stats, s.writer = some (.putting stats) ∧ stats.folder = folder

/-- A reader puts a row that is still the table's, or the put of an
update comes after it. -/
def UpToDate (s : StatsCache) : Turn → Prop
  | .refresh i => ∀ row more, s.readers[i]? = some (row :: more) →
      s.repository.folderStats.find row.folder = some row ∨ s.PutsNext row.folder
  | _ => True

end StatsCache

end Repository

end ASync
