import ASync.Repository.Model.SqlRepository
import ASync.Core.Helpers.Beans
/-!
# What an update does

The states `updateFileInfo` can leave, statement by statement:
`withBlocks`, `withFileInfo`, `withLoadedStats`, `withStats`. One
equation says everything about a call (`run_updateFileInfo`), and the
results on the repository are read off it without opening the call again.
-/

namespace ASync

namespace Repository

open ASync.Core Effect

variable [FilenameUtils]

/-! ## Reading a row back -/

/-- The record a row reads as. -/
def FileInfoRow.info (row : FileInfoRow) : FileInfo where
  folder := row.folder
  fileName := row.fileName
  path := row.path
  parent := row.parent
  hash := row.hash
  size := row.size
  lastModified := row.lastModified
  type := row.fileType
  versionList := [⟨row.versionId, row.versionValue⟩]
  deleted := row.isDeleted
  folder_ne := row.folder_ne
  names_eq := row.names_eq
  typed := row.typed

/-- **Reading a row never fails**: its columns are those of a record. -/
theorem readFileInfo_eq (row : FileInfoRow) : readFileInfo row = .ok row.info := by
  have hself := FileInfo.build_self row.info [⟨row.versionId, row.versionValue⟩]
  have htyped := row.typed
  unfold readFileInfo
  split
  · next htype =>
    rw [htype] at htyped
    simp only [FileInfoRow.info, htype, htyped.1, htyped.2] at hself ⊢
    exact hself
  · next htype =>
    rw [htype] at htyped
    obtain ⟨n, hn⟩ := Option.isSome_iff_exists.mp htyped.1
    simp only [FileInfoRow.info, htype, hn, Option.getD_some] at hself ⊢
    exact hself

/-- A row reads as the record it was written from, down to the one
version it keeps. -/
theorem info_of (info : FileInfo) (version : Version) :
    (FileInfoRow.of info version).info = { info with versionList := [version] } := rfl

/-! ## The states along an update -/

namespace SqlRepository

/-- The record stored for a path. -/
def recordAt (s : SqlRepository) (folder path : String) : Option FileInfo :=
  (s.fileInfo.find (folder, path)).map FileInfoRow.info

/-- The statistics of a folder as the cache answers. -/
def statsOf (s : SqlRepository) (folder : String) : Option FolderStats :=
  match s.folderStatsByFolder.find folder with
  | some cached => cached
  | none => s.folderStats.find folder

/-- With a record's row written. -/
def withFileInfo (s : SqlRepository) (info : FileInfo) (version : Version) : SqlRepository :=
  { s with fileInfo := s.fileInfo.merge (info.folder, info.path) (FileInfoRow.of info version) }

/-- With a folder's statistics loaded into the cache. -/
def withLoadedStats (s : SqlRepository) (folder : String) : SqlRepository :=
  match s.folderStatsByFolder.find folder with
  | some _ => s
  | none => { s with
    folderStatsByFolder := s.folderStatsByFolder.merge folder (s.folderStats.find folder) }

/-- With a folder's statistics written and cached. -/
def withStats (s : SqlRepository) (stats : FolderStats) : SqlRepository :=
  { s with
    folderStats := s.folderStats.merge stats.folder stats
    folderStatsByFolder := s.folderStatsByFolder.merge stats.folder (some stats)
    posted := s.posted ++ [stats] }

end SqlRepository

/-- The version `updateFileInfo` stores, for a list that has one. -/
def lastVersion (info : FileInfo) : Version := info.versionList.getLast?.getD ⟨0, 0⟩

/-- The statistics an update computes. -/
def statsAfter (s : SqlRepository) (info : FileInfo) : FolderStats :=
  let old := s.recordAt info.folder info.path
  newFolderStats (s.statsOf info.folder) info.folder
    (fileShare info - old.elim 0 fileShare) (dirShare info - old.elim 0 dirShare)
    (Long.wrap (sizeShare info - old.elim 0 sizeShare)) info.lastModified

/-- The folder-statistics guards pass. -/
def statsGuard (stats : FolderStats) : Bool :=
  decide (0 ≤ stats.fileCount) && decide (0 ≤ stats.dirCount) && decide (0 ≤ stats.size)

section Blocks

variable [Guava] [Protobuf IndexSerializationProtos.Blocks]

/-- The row `mergeFileBlocks` writes. -/
def blocksRow (fileBlocks : FileBlocks) (blocks : Bytes) : FileBlocksRow where
  folder := fileBlocks.folder
  path := fileBlocks.path
  hash := fileBlocks.hash
  size := fileBlocks.size
  blocks := blocks

/-- With the block list written, if there is one that can be encoded. -/
def SqlRepository.withBlocks (s : SqlRepository) (fileBlocks : Option FileBlocks) :
    SqlRepository :=
  match fileBlocks with
  | none => s
  | some b =>
    match encodeBlocks b with
    | .ok blocks =>
      { s with fileBlocks := s.fileBlocks.merge (b.folder, b.path) (blocksRow b blocks) }
    | .error _ => s

/-- The call throws before its first statement writes: no version, no
connection, or a block list that is refused, cannot be encoded or whose
own statement fails. -/
def stopsBeforeWrites (fault : Fault) (info : FileInfo) (fileBlocks : Option FileBlocks) : Bool :=
  info.versionList.isEmpty || decide (fault = some .getConnection) ||
    match fileBlocks with
    | none => false
    | some b => !(checkBlocks info b).isOk || !(encodeBlocks b).isOk ||
        decide (fault = some .mergeFileBlocks)

/-- The state a call leaves when it returns. -/
def SqlRepository.updated (s : SqlRepository) (info : FileInfo) (fileBlocks : Option FileBlocks) :
    SqlRepository :=
  (((s.withBlocks fileBlocks).withFileInfo info (lastVersion info)).withLoadedStats
    info.folder).withStats (statsAfter s info)

end Blocks

/-! ## Statement by statement -/

section Statements

variable (s : SqlRepository) (fault : Fault)

/-- A statement fails where it is the one that fails. -/
theorem run_execute (statement : Statement) :
    (execute fault statement).run s =
      if fault = some statement then .error (.runtime "SQLException") s else .ok () s := by
  unfold execute
  split
  · rfl
  · rfl

/-- A pure result leaves the repository. -/
theorem run_ofExcept {α : Type} (x : Except JavaException α) :
    (ofExcept x : RepoM α).run s =
      match x with
      | .ok a => .ok a s
      | .error e => .error e s := by
  cases x <;> rfl

/-- The date found is that of the row stored. -/
theorem run_findFileInfoLastModified {fault : Fault} (hfault : fault ≠ some .selectLastModified)
    (folder path : String) : (findFileInfoLastModified fault folder path).run s =
      .ok ((s.fileInfo.find (folder, path)).map FileInfoRow.lastModified) s := by
  simp only [findFileInfoLastModified, EStateM.run_bind, run_execute, if_neg hfault,
    EStateM.run_get,
    EStateM.run_pure]

/-- The record found is the one stored, unless the statement fails. -/
theorem run_findFileInfo (folder path : String) :
    (findFileInfo fault folder path).run s =
      if fault = some .selectFileInfo then .error (.runtime "SQLException") s
      else .ok (s.recordAt folder path) s := by
  by_cases h : fault = some .selectFileInfo
  · simp only [findFileInfo, EStateM.run_bind, run_execute, if_pos h]
  · simp only [findFileInfo, EStateM.run_bind, run_execute, if_neg h, EStateM.run_get,
      SqlRepository.recordAt]
    cases s.fileInfo.find (folder, path) with
    | none => rfl
    | some row =>
      simp only [EStateM.run_bind, run_ofExcept, readFileInfo_eq, EStateM.run_pure, Option.map_some]

/-- A record's row is written, unless the statement fails. -/
theorem run_mergeFileInfo (info : FileInfo) (version : Version) :
    (mergeFileInfo fault info version).run s =
      if fault = some .mergeFileInfo then .error (.runtime "SQLException") s
      else .ok () (s.withFileInfo info version) := by
  by_cases h : fault = some .mergeFileInfo
  · simp only [mergeFileInfo, EStateM.run_bind, run_execute, if_pos h]
  · simp only [mergeFileInfo, EStateM.run_bind, run_execute, if_neg h, EStateM.run_modify,
      SqlRepository.withFileInfo]

/-- The statistics found are the cache's, or the table's, which the cache
then has. -/
theorem run_findFolderStats (folder : String) :
    (findFolderStats fault folder).run s =
      if s.folderStatsByFolder.find folder = none ∧ fault = some .selectFolderStats then
        .error (.runtime "SQLException") s
      else .ok (s.statsOf folder) (s.withLoadedStats folder) := by
  simp only [findFolderStats, EStateM.run_bind, EStateM.run_get, SqlRepository.statsOf,
    SqlRepository.withLoadedStats]
  cases s.folderStatsByFolder.find folder with
  | some cached => simp only [reduceCtorEq, false_and, if_false, EStateM.run_pure]
  | none =>
    by_cases h : fault = some .selectFolderStats
    · simp only [EStateM.run_bind, run_execute, if_pos h, true_and]
    · simp only [EStateM.run_bind, run_execute, if_neg h, true_and, EStateM.run_modify,
        EStateM.run_pure]

/-- Statistics are written that pass the guards, unless the statement fails.
-/
theorem run_writeFolderStats (stats : FolderStats) :
    ∃ e, (writeFolderStats fault stats).run s =
      if statsGuard stats = true ∧ fault ≠ some .mergeFolderStats then
        .ok () { s with folderStats := s.folderStats.merge stats.folder stats }
      else .error e s := by
  simp only [writeFolderStats, EStateM.run_bind, run_ofExcept, checkArgument, statsGuard,
    run_execute]
  by_cases hf : 0 ≤ stats.fileCount
  · by_cases hd : 0 ≤ stats.dirCount
    · by_cases hs : 0 ≤ stats.size
      · by_cases hm : fault = some .mergeFolderStats
        · exact ⟨.runtime "SQLException", by simp [hf, hd, hs, hm]⟩
        · exact ⟨.arithmetic, by simp [hf, hd, hs, hm]⟩
      · exact ⟨.illegalArgument "", by simp [hf, hd, hs]⟩
    · exact ⟨.illegalArgument "", by simp [hf, hd]⟩
  · exact ⟨.illegalArgument "", by simp [hf]⟩

variable [Guava] [Protobuf IndexSerializationProtos.Blocks]

/-- A record's blocks are written that can be encoded, unless the statement
fails. -/
theorem run_mergeFileBlocks (fileBlocks : FileBlocks) :
    ∃ e, (mergeFileBlocks fault fileBlocks).run s =
      if (encodeBlocks fileBlocks).isOk = true ∧ fault ≠ some .mergeFileBlocks then
        .ok () (s.withBlocks (some fileBlocks))
      else .error e s := by
  simp only [mergeFileBlocks, EStateM.run_bind, run_ofExcept, SqlRepository.withBlocks]
  cases encodeBlocks fileBlocks with
  | error e => exact ⟨e, by simp [Except.isOk, Except.toBool]⟩
  | ok blocks =>
    refine ⟨.runtime "SQLException", ?_⟩
    simp only [run_execute]
    by_cases hm : fault = some .mergeFileBlocks
    · simp [hm]
    · simp [hm, Except.isOk, Except.toBool, blocksRow]

end Statements

/-! ## What each write leaves alone -/

namespace SqlRepository

variable (s : SqlRepository) (info : FileInfo) (version : Version) (folder : String)

/-- Writing a record leaves the statistics. -/
@[simp] theorem withFileInfo_folderStats : (s.withFileInfo info version).folderStats =
    s.folderStats := rfl

/-- Writing a record leaves the statistics that would be found. -/
@[simp] theorem withFileInfo_statsOf : (s.withFileInfo info version).statsOf folder =
    s.statsOf folder := rfl

/-- Writing a record leaves the cache. -/
@[simp] theorem withFileInfo_cache :
    (s.withFileInfo info version).folderStatsByFolder = s.folderStatsByFolder := rfl

/-- Finding statistics changes the cache at most. -/
theorem withLoadedStats_eq :
    ∃ c, s.withLoadedStats folder = { s with folderStatsByFolder := c } := by
  unfold withLoadedStats
  split
  · exact ⟨s.folderStatsByFolder, rfl⟩
  · exact ⟨_, rfl⟩

/-- Finding statistics leaves the records. -/
@[simp] theorem withLoadedStats_fileInfo : (s.withLoadedStats folder).fileInfo = s.fileInfo := by
  obtain ⟨c, h⟩ := s.withLoadedStats_eq folder
  rw [h]

/-- Finding statistics leaves their table. -/
@[simp] theorem withLoadedStats_folderStats :
    (s.withLoadedStats folder).folderStats = s.folderStats := by
  obtain ⟨c, h⟩ := s.withLoadedStats_eq folder
  rw [h]

variable [Guava] [Protobuf IndexSerializationProtos.Blocks] (b : Option FileBlocks)

/-- Writing blocks changes the table of blocks at most. -/
theorem withBlocks_eq : ∃ t, s.withBlocks b = { s with fileBlocks := t } := by
  unfold withBlocks
  split
  · exact ⟨s.fileBlocks, rfl⟩
  · split
    · exact ⟨_, rfl⟩
    · exact ⟨s.fileBlocks, rfl⟩

/-- Writing blocks leaves the records. -/
@[simp] theorem withBlocks_fileInfo : (s.withBlocks b).fileInfo = s.fileInfo := by
  obtain ⟨t, h⟩ := s.withBlocks_eq b
  rw [h]

/-- Writing blocks leaves the statistics. -/
@[simp] theorem withBlocks_folderStats : (s.withBlocks b).folderStats = s.folderStats := by
  obtain ⟨t, h⟩ := s.withBlocks_eq b
  rw [h]

/-- Writing blocks leaves the cache. -/
@[simp] theorem withBlocks_cache :
    (s.withBlocks b).folderStatsByFolder = s.folderStatsByFolder := by
  obtain ⟨t, h⟩ := s.withBlocks_eq b
  rw [h]

/-- Writing blocks leaves the record that would be found. -/
@[simp] theorem withBlocks_recordAt (path : String) :
    (s.withBlocks b).recordAt folder path = s.recordAt folder path := by
  rw [recordAt, withBlocks_fileInfo, recordAt]

/-- Writing blocks leaves the statistics that would be found. -/
@[simp] theorem withBlocks_statsOf : (s.withBlocks b).statsOf folder = s.statsOf folder := by
  rw [statsOf, withBlocks_cache, withBlocks_folderStats, statsOf]

end SqlRepository

/-! ## The call as a whole -/

section Call

variable [Guava] [Protobuf IndexSerializationProtos.Blocks]
variable (s : SqlRepository) (fault : Fault) (info : FileInfo) (blocks : Option FileBlocks)

/-- The part after the block list: the record, the statistics, the
cache. -/
def finishUpdate (fault : Fault) (info : FileInfo) (version : Version) : RepoM Unit := do
  let oldFileInfo ← findFileInfo fault info.folder info.path
  mergeFileInfo fault info version
  let folderStats ← updateFolderStats fault info.folder
    (fileShare info - oldFileInfo.elim 0 fileShare) (dirShare info - oldFileInfo.elim 0 dirShare)
    (Long.wrap (sizeShare info - oldFileInfo.elim 0 sizeShare)) info.lastModified
  modify fun s => { s with
    folderStatsByFolder := s.folderStatsByFolder.merge folderStats.folder (some folderStats)
    posted := s.posted ++ [folderStats] }

/-- An update stops before it writes, or writes the blocks and goes on. -/
theorem run_updateFileInfo_eq :
    ∃ e, (updateFileInfo fault info blocks).run s =
      if stopsBeforeWrites fault info blocks = true then .error e s
      else (finishUpdate fault info (lastVersion info)).run (s.withBlocks blocks) := by
  cases hv : info.versionList.getLast? with
  | none =>
    refine ⟨.noSuchElement, ?_⟩
    have hnil : info.versionList = [] := List.getLast?_eq_none_iff.1 hv
    simp only [updateFileInfo, EStateM.run_bind, run_ofExcept, getLast, hv]
    simp [stopsBeforeWrites, hnil]
  | some version =>
    have hne : info.versionList.isEmpty = false := by
      cases hl : info.versionList with
      | nil => rw [hl] at hv; cases hv
      | cons v l => rfl
    have hlast : lastVersion info = version := by rw [lastVersion, hv, Option.getD_some]
    by_cases hc : fault = some .getConnection
    · refine ⟨.runtime "SQLException", ?_⟩
      simp [updateFileInfo, EStateM.run_bind, run_ofExcept, getLast, hv, run_execute, hc,
        stopsBeforeWrites]
    · cases blocks with
      | none =>
        refine ⟨.arithmetic, ?_⟩
        simp only [updateFileInfo, EStateM.run_bind, run_ofExcept, getLast, hv, run_execute,
          if_neg hc, stopsBeforeWrites, hne, decide_eq_false hc, Bool.or_false,
          Bool.false_eq_true, if_false, hlast, SqlRepository.withBlocks, finishUpdate]
      | some b =>
        obtain ⟨e', hm⟩ := run_mergeFileBlocks s fault b
        cases hchk : checkBlocks info b with
        | error e =>
          refine ⟨e, ?_⟩
          simp only [updateFileInfo, EStateM.run_bind, run_ofExcept, getLast, hv, run_execute,
            if_neg hc, hchk, stopsBeforeWrites, Except.isOk, Except.toBool, Bool.not_false,
            Bool.true_or, Bool.or_true, if_true]
        | ok u =>
          refine ⟨e', ?_⟩
          simp only [updateFileInfo, EStateM.run_bind, run_ofExcept, getLast, hv, run_execute,
            if_neg hc, hchk, hm]
          by_cases hw : (encodeBlocks b).isOk = true ∧ fault ≠ some .mergeFileBlocks
          · have hstop : stopsBeforeWrites fault info (some b) = false := by
              simp [stopsBeforeWrites, hne, hc, hchk, hw.1, hw.2]
              rfl
            simp only [if_pos hw, hstop, Bool.false_eq_true, if_false, hlast, finishUpdate,
              EStateM.run_bind]
          · have hstop : stopsBeforeWrites fault info (some b) = true := by
              rcases not_and_or.1 hw with h | h
              · simp [stopsBeforeWrites, h]
              · simp [stopsBeforeWrites, not_not.1 h]
            simp only [if_neg hw, hstop, if_true]

omit [Guava] [Protobuf IndexSerializationProtos.Blocks] in
/-- The rest of an update ends in one of four ways. -/
theorem run_finishUpdate (version : Version) :
    ∃ e, (finishUpdate fault info version).run s =
      if fault = some .selectFileInfo ∨ fault = some .mergeFileInfo then .error e s
      else if s.folderStatsByFolder.find info.folder = none ∧ fault = some .selectFolderStats then
        .error e (s.withFileInfo info version)
      else if statsGuard (statsAfter s info) = true ∧ fault ≠ some .mergeFolderStats then
        .ok () (((s.withFileInfo info version).withLoadedStats info.folder).withStats
          (statsAfter s info))
      else .error e ((s.withFileInfo info version).withLoadedStats info.folder) := by
  by_cases hsel : fault = some .selectFileInfo
  · refine ⟨.runtime "SQLException", ?_⟩
    simp only [finishUpdate, EStateM.run_bind, run_findFileInfo, hsel, true_or, if_true]
  by_cases hmrg : fault = some .mergeFileInfo
  · refine ⟨.runtime "SQLException", ?_⟩
    simp only [finishUpdate, EStateM.run_bind, run_findFileInfo, run_mergeFileInfo, if_neg hsel,
      if_pos hmrg, if_pos (Or.inr hmrg : fault = some .selectFileInfo ∨
        fault = some .mergeFileInfo)]
  have hno := not_or.2 ⟨hsel, hmrg⟩
  have hfind := run_findFolderStats (s.withFileInfo info version) fault info.folder
  rw [SqlRepository.withFileInfo_cache] at hfind
  by_cases hload : s.folderStatsByFolder.find info.folder = none ∧ fault = some .selectFolderStats
  · refine ⟨.runtime "SQLException", ?_⟩
    rw [if_pos hload] at hfind
    rw [if_neg hno, if_pos hload]
    simp only [finishUpdate, updateFolderStats, EStateM.run_bind, run_findFileInfo,
      run_mergeFileInfo, hfind, if_neg hsel, if_neg hmrg]
  · obtain ⟨e, hwrite⟩ := run_writeFolderStats
      ((s.withFileInfo info version).withLoadedStats info.folder) fault (statsAfter s info)
    refine ⟨e, ?_⟩
    have hstats : statsAfter s info = newFolderStats (s.statsOf info.folder) info.folder
        (fileShare info - (s.recordAt info.folder info.path).elim 0 fileShare)
        (dirShare info - (s.recordAt info.folder info.path).elim 0 dirShare)
        (Long.wrap (sizeShare info - (s.recordAt info.folder info.path).elim 0 sizeShare))
        info.lastModified := rfl
    rw [if_neg hload, SqlRepository.withFileInfo_statsOf] at hfind
    rw [if_neg hno, if_neg hload]
    by_cases hg : statsGuard (statsAfter s info) = true ∧ fault ≠ some .mergeFolderStats
    · rw [if_pos hg] at hwrite ⊢
      simp only [finishUpdate, updateFolderStats, EStateM.run_bind, run_findFileInfo,
        run_mergeFileInfo, hfind, if_neg hsel, if_neg hmrg, ← hstats, hwrite, EStateM.run_pure,
        EStateM.run_modify, SqlRepository.withStats]
    · rw [if_neg hg] at hwrite ⊢
      simp only [finishUpdate, updateFolderStats, EStateM.run_bind, run_findFileInfo,
        run_mergeFileInfo, hfind, if_neg hsel, if_neg hmrg, ← hstats, hwrite]

/-- **How far a call got.** It stops before its first write, after the
block list, after the record, after the statistics were loaded, or
returns. -/
theorem run_updateFileInfo :
    ∃ e, (updateFileInfo fault info blocks).run s =
      if stopsBeforeWrites fault info blocks = true then .error e s
      else if fault = some .selectFileInfo ∨ fault = some .mergeFileInfo then
        .error e (s.withBlocks blocks)
      else if s.folderStatsByFolder.find info.folder = none ∧ fault = some .selectFolderStats then
        .error e ((s.withBlocks blocks).withFileInfo info (lastVersion info))
      else if statsGuard (statsAfter s info) = true ∧ fault ≠ some .mergeFolderStats then
        .ok () (s.updated info blocks)
      else .error e (((s.withBlocks blocks).withFileInfo info (lastVersion info)).withLoadedStats
        info.folder) := by
  obtain ⟨e, heq⟩ := run_updateFileInfo_eq s fault info blocks
  by_cases hstop : stopsBeforeWrites fault info blocks = true
  · refine ⟨e, ?_⟩
    rw [heq, if_pos hstop, if_pos hstop]
  · obtain ⟨e', hfin⟩ := run_finishUpdate (s.withBlocks blocks) fault info
      (lastVersion info)
    have hstats : statsAfter (s.withBlocks blocks) info = statsAfter s info := by
      simp only [statsAfter, SqlRepository.withBlocks_recordAt, SqlRepository.withBlocks_statsOf]
    refine ⟨e', ?_⟩
    rw [heq, if_neg hstop, if_neg hstop, hfin, SqlRepository.withBlocks_cache, hstats]
    rfl

variable {s fault info blocks} in
/-- A call that returns wrote everything. -/
theorem updateFileInfo_eq_ok {u : Unit} {s' : SqlRepository}
    (h : (updateFileInfo fault info blocks).run s = .ok u s') :
    stopsBeforeWrites fault info blocks = false ∧ statsGuard (statsAfter s info) = true ∧
      s' = s.updated info blocks := by
  obtain ⟨e, heq⟩ := run_updateFileInfo s fault info blocks
  rw [heq] at h
  split at h
  · cases h
  · next hstop =>
    split at h
    · cases h
    · split at h
      · cases h
      · split at h
        · next hg =>
          cases h
          exact ⟨by simpa using hstop, hg.1, rfl⟩
        · cases h

omit [Guava] [Protobuf IndexSerializationProtos.Blocks] in
/-- **Without a database failure** the rest of an update that has passed
the checks writes the record, even where the statistics then refuse. -/
theorem fileInfo_after_finishUpdate (version : Version) :
    (after (finishUpdate none info version) s).fileInfo =
      (s.withFileInfo info version).fileInfo := by
  obtain ⟨e, heq⟩ := run_finishUpdate s none info version
  simp only [reduceCtorEq, or_self, and_false, if_false, ne_eq, not_false_eq_true, and_true] at heq
  by_cases hg : statsGuard (statsAfter s info) = true
  · rw [if_pos hg] at heq
    rw [after_of_ok heq, SqlRepository.withStats, SqlRepository.withLoadedStats_fileInfo]
  · rw [if_neg hg] at heq
    rw [after_of_error heq, SqlRepository.withLoadedStats_fileInfo]

variable {info blocks} in
/-- A call that passes the checks writes the record, whatever the
statistics do. -/
theorem fileInfo_after_updateFileInfo (hstop : stopsBeforeWrites none info blocks = false) :
    (after (updateFileInfo none info blocks) s).fileInfo =
      (s.withFileInfo info (lastVersion info)).fileInfo := by
  obtain ⟨e, heq⟩ := run_updateFileInfo_eq s none info blocks
  rw [hstop] at heq
  rw [after, heq]
  exact (fileInfo_after_finishUpdate (s.withBlocks blocks) info (lastVersion info)).trans
    (by simp only [SqlRepository.withFileInfo, SqlRepository.withBlocks_fileInfo])

variable {s info blocks} in
/-- The rows an update leaves. -/
theorem updated_fileInfo : (s.updated info blocks).fileInfo =
    (s.withFileInfo info (lastVersion info)).fileInfo := by
  simp only [SqlRepository.updated, SqlRepository.withStats, SqlRepository.withLoadedStats_fileInfo,
    SqlRepository.withFileInfo, SqlRepository.withBlocks_fileInfo]

variable {s info blocks} in
/-- The block lists it leaves. -/
theorem updated_fileBlocks : (s.updated info blocks).fileBlocks =
    (s.withBlocks blocks).fileBlocks := by
  obtain ⟨c, hc⟩ := ((s.withBlocks blocks).withFileInfo info (lastVersion info)).withLoadedStats_eq
    info.folder
  rw [SqlRepository.updated, hc]
  rfl

/-- **What a call leaves alone**, however it ends; and it has written the
row of its record or no row. -/
theorem after_updateFileInfo_eq :
    ∃ fileInfo fileBlocks folderStats folderStatsByFolder posted,
      after (updateFileInfo fault info blocks) s =
        { s with fileInfo, fileBlocks, folderStats, folderStatsByFolder, posted } ∧
      (fileInfo = s.fileInfo ∨
        fileInfo = (s.withFileInfo info (lastVersion info)).fileInfo) := by
  obtain ⟨t, ht⟩ := s.withBlocks_eq blocks
  obtain ⟨c, hc⟩ := ((s.withBlocks blocks).withFileInfo info (lastVersion info)).withLoadedStats_eq
    info.folder
  obtain ⟨e, heq⟩ := run_updateFileInfo s fault info blocks
  by_cases h₁ : stopsBeforeWrites fault info blocks = true
  · rw [if_pos h₁] at heq
    exact ⟨_, _, _, _, _, after_of_error heq, .inl rfl⟩
  rw [if_neg h₁] at heq
  by_cases h₂ : fault = some .selectFileInfo ∨ fault = some .mergeFileInfo
  · rw [if_pos h₂, ht] at heq
    exact ⟨_, _, _, _, _, after_of_error heq, .inl rfl⟩
  rw [if_neg h₂] at heq
  by_cases h₃ : s.folderStatsByFolder.find info.folder = none ∧ fault = some .selectFolderStats
  · rw [if_pos h₃, ht] at heq
    exact ⟨_, _, _, _, _, after_of_error heq, .inr rfl⟩
  rw [if_neg h₃] at heq
  by_cases h₄ : statsGuard (statsAfter s info) = true ∧ fault ≠ some .mergeFolderStats
  · rw [if_pos h₄, SqlRepository.updated, hc, ht] at heq
    exact ⟨_, _, _, _, _, after_of_ok heq, .inr rfl⟩
  · rw [if_neg h₄, hc, ht] at heq
    exact ⟨_, _, _, _, _, after_of_error heq, .inr rfl⟩

end Call

end Repository

end ASync
