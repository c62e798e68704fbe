import Mathlib
import ASync.Common.Run
import ASync.Core.Helpers.Sample
import ASync.Repository.Helpers.UpdateFileInfo
/-!
# Folder statistics are the aggregates of the index

`folder_stats` is maintained by differences: a call adds what the new
record counts for and takes away what the old one did, on top of what
the cache answers. `total` is the aggregate such a number should be, and
`StatsInv` says every row of `folder_stats` carries the three totals of
its folder, with the cache in agreement. Each call keeps it, so no run
parts the two, and the guards of `updateFolderStats`, which test the
totals for a sign, have nothing to refuse.
-/

namespace ASync

namespace Repository

open ASync.Core Effect

/-! ## The statistics after a change -/

section NewStats

variable {folder : String} (old : Option FolderStats) (a b c d : ℤ)

/-- New statistics are of the folder they are made for. -/
theorem newFolderStats_folder (h : ∀ stats, old = some stats → stats.folder = folder) :
    (newFolderStats old folder a b c d).folder = folder := by
  cases old with
  | none => rfl
  | some stats => exact h stats rfl

/-- New statistics count the files there were and the difference. -/
theorem newFolderStats_fileCount :
    (newFolderStats old folder a b c d).fileCount = old.elim 0 FolderStats.fileCount + a := by
  cases old with
  | none => exact (zero_add a).symm
  | some stats => rfl

/-- New statistics count the directories there were and the difference. -/
theorem newFolderStats_dirCount :
    (newFolderStats old folder a b c d).dirCount = old.elim 0 FolderStats.dirCount + b := by
  cases old with
  | none => exact (zero_add b).symm
  | some stats => rfl

/-- New statistics add the sizes, where a long holds the sum. -/
theorem newFolderStats_size (hlo : -2 ^ 63 ≤ old.elim 0 FolderStats.size + c)
    (hhi : old.elim 0 FolderStats.size + c < 2 ^ 63) :
    (newFolderStats old folder a b c d).size = old.elim 0 FolderStats.size + c := by
  cases old with
  | none => exact (zero_add c).symm
  | some stats => exact Long.wrap_eq hlo hhi

/-- The time of the last update, `⊥` where there are no statistics. -/
def lastUpdateOf (old : Option FolderStats) : WithBot ℤ :=
  old.elim ⊥ fun stats => (stats.lastUpdate : WithBot ℤ)

/-- New statistics keep the later date. -/
theorem newFolderStats_lastUpdate :
    lastUpdateOf (some (newFolderStats old folder a b c d)) = max (lastUpdateOf old) (d : ℤ) := by
  cases old with
  | none => simp [lastUpdateOf, newFolderStats]
  | some stats =>
    simp only [lastUpdateOf, newFolderStats, Option.elim_some]
    split
    · next h => rw [max_eq_right (by exact_mod_cast h.le)]
    · next h => rw [max_eq_left (by exact_mod_cast not_lt.1 h)]

end NewStats

/-! ## The aggregates -/

section Statistics

variable [FilenameUtils]

/-- The sum, over the rows of a folder, of what their records count
for. -/
def total (m : FileInfo → ℤ) (s : SqlRepository) (folder : String) : ℤ :=
  s.fileInfo.sum fun key row => if key.1 = folder then m row.info else 0

/-- A row of the folder that is a live record of the given type. -/
def isLive (type : FileType) (folder : String) (key : String × String) (row : FileInfoRow) : Bool :=
  key.1 = folder && !row.isDeleted && row.fileType = type

/-- The number of live `FILE` rows of a folder. -/
def fileCountOf (s : SqlRepository) (folder : String) : ℕ := s.fileInfo.count (isLive .FILE folder)

/-- The number of live `DIRECTORY` rows of a folder. -/
def dirCountOf (s : SqlRepository) (folder : String) : ℕ :=
  s.fileInfo.count (isLive .DIRECTORY folder)

/-- The sum of the sizes of the live `FILE` rows of a folder. -/
def sizeOf (s : SqlRepository) (folder : String) : ℤ :=
  s.fileInfo.sum fun key row => if isLive .FILE folder key row then row.size.getD 0 else 0

variable {m : FileInfo → ℤ} {s : SqlRepository} {folder : String} {info : FileInfo}

/-- The files of a folder are a total over its rows. -/
theorem fileCountOf_eq_total : (fileCountOf s folder : ℤ) = total fileShare s folder := by
  rw [fileCountOf, Table.count_eq_sum, total]
  congr 1
  funext key row
  by_cases hf : key.1 = folder
  · cases hd : row.isDeleted <;> cases ht : row.fileType <;>
      simp [isLive, fileShare, FileInfoRow.info, FileInfo.isFile, hf, hd, ht]
  · simp [isLive, hf]

/-- The directories of a folder are a total over its rows. -/
theorem dirCountOf_eq_total : (dirCountOf s folder : ℤ) = total dirShare s folder := by
  rw [dirCountOf, Table.count_eq_sum, total]
  congr 1
  funext key row
  by_cases hf : key.1 = folder
  · cases hd : row.isDeleted <;> cases ht : row.fileType <;>
      simp [isLive, dirShare, FileInfoRow.info, FileInfo.isFile, FileInfo.isDirectory, hf, hd, ht]
  · simp [isLive, hf]

/-- The size of a folder is a total over its rows. -/
theorem sizeOf_eq_total : sizeOf s folder = total sizeShare s folder := by
  rw [sizeOf, total]
  congr 1
  funext key row
  by_cases hf : key.1 = folder
  · cases hd : row.isDeleted <;> cases ht : row.fileType <;>
      simp [isLive, sizeShare, FileInfoRow.info, FileInfo.isFile, hf, hd, ht]
  · simp [isLive, hf]

/-- **Writing a record moves its folder's total by the difference** the
call computes, and no other folder's. -/
theorem total_withFileInfo (s : SqlRepository) (info : FileInfo) (folder : String)
    (hm : ∀ info versionList, m { info with versionList } = m info)
    (version : Version) :
    total m (s.withFileInfo info version) folder =
      total m s folder +
        if info.folder = folder then m info - (s.recordAt info.folder info.path).elim 0 m
        else 0 := by
  unfold total SqlRepository.withFileInfo
  rw [Table.sum_merge, info_of, hm, Table.share, SqlRepository.recordAt]
  by_cases hf : info.folder = folder
  · cases s.fileInfo.find (info.folder, info.path) with
    | none => simp only [Option.elim_none, Option.map_none, if_pos hf]; omega
    | some row => simp only [Option.elim_some, Option.map_some, if_pos hf]; omega
  · cases s.fileInfo.find (info.folder, info.path) with
    | none => simp only [Option.elim_none, if_neg hf]; omega
    | some row => simp only [Option.elim_some, if_neg hf]; omega

/-- No record takes from the size. -/
theorem sizeShare_nonneg (h : ∀ n, info.size = some n → 0 ≤ n) : 0 ≤ sizeShare info := by
  unfold sizeShare
  split
  · exact le_refl 0
  · cases hn : info.size with
    | none => exact le_refl 0
    | some n => exact h n hn

/-- No folder's size is negative. -/
theorem total_sizeShare_nonneg (folder : String)
    (hrows : ∀ key row, s.fileInfo.find key = some row → 0 ≤ sizeShare row.info) :
    0 ≤ total sizeShare s folder := by
  refine Table.sum_nonneg _ fun key row hrow => ?_
  split
  · exact hrows key row hrow
  · exact le_refl 0

/-- Totals read `file_info` only. -/
theorem total_congr {t : SqlRepository} (h : t.fileInfo = s.fileInfo) :
    total m t folder = total m s folder := by
  rw [total, total, h]

/-! ## Runs of calls -/

/-- The calls that touch the statistics, and the expiry of a cache
entry. -/
inductive Call
  | updateFileInfo (newFileInfo : FileInfo) (newFileBlocks : Option FileBlocks)
  | clearIndex
  | findFolderStats (folder : String)
  | expire (folder : String)

variable [Guava] [Protobuf IndexSerializationProtos.Blocks]

/-- Perform a call to completion, with no database failure. -/
def Call.perform : Call → RepoM Unit
  | .updateFileInfo newFileInfo newFileBlocks =>
    Repository.updateFileInfo none newFileInfo newFileBlocks
  | .clearIndex => Repository.clearIndex
  | .findFolderStats folder => discard (Repository.findFolderStats none folder)
  | .expire folder =>
    modify fun s => { s with folderStatsByFolder := s.folderStatsByFolder.delete folder }

/-- Calls one after the other, from an empty repository. -/
def calls : Machine SqlRepository Call where
  start s := s = SqlRepository.fresh
  step s call s' := s' = after call.perform s

/-- A call is given a size that is not negative, and leaves the total
size of the folder within a `long`. -/
def FitsLong (_ : List Call) (s : SqlRepository) : Call → Prop
  | .updateFileInfo info _ =>
    (∀ n, info.size = some n → 0 ≤ n) ∧
      sizeOf (s.withFileInfo info (lastVersion info)) info.folder < 2 ^ 63
  | _ => True

/-- The modification times written for a folder since the index was last
cleared. -/
def lastModifiedsWritten (folder : String) (es : List Call) : List ℤ :=
  es.foldl (fun times call =>
    match call with
    | .updateFileInfo info blocks =>
      if info.folder = folder ∧ stopsBeforeWrites none info blocks = false then
        times ++ [info.lastModified]
      else times
    | .clearIndex => []
    | _ => times) []

/-! ## The invariant -/

/-- Every row of `folder_stats` carries the totals of its folder, a
folder without one has the totals of no rows, and the cache agrees. -/
structure StatsInv (es : List Call) (s : SqlRepository) : Prop where
  nonneg : ∀ key row, s.fileInfo.find key = some row → 0 ≤ sizeShare row.info
  small : ∀ folder, total sizeShare s folder < 2 ^ 63
  folder_eq : ∀ folder stats, s.folderStats.find folder = some stats → stats.folder = folder
  fileCount : ∀ folder,
    (s.folderStats.find folder).elim 0 FolderStats.fileCount = total fileShare s folder
  dirCount : ∀ folder,
    (s.folderStats.find folder).elim 0 FolderStats.dirCount = total dirShare s folder
  size : ∀ folder, (s.folderStats.find folder).elim 0 FolderStats.size = total sizeShare s folder
  lastUpdate : ∀ folder,
    lastUpdateOf (s.folderStats.find folder) = (lastModifiedsWritten folder es).maximum
  cache : ∀ folder stats,
    s.folderStatsByFolder.find folder = some stats → stats = s.folderStats.find folder

section Step

variable {es : List Call} {blocks : Option FileBlocks}

/-- The statistics found are the table's. -/
theorem StatsInv.statsOf_eq (h : StatsInv es s) : s.statsOf folder = s.folderStats.find folder := by
  unfold SqlRepository.statsOf
  split
  · next stats hc => exact h.cache folder stats hc
  · rfl

/-- An update writes one row of the statistics. -/
theorem updated_folderStats : (s.updated info blocks).folderStats =
    s.folderStats.merge (statsAfter s info).folder (statsAfter s info) := by
  simp only [SqlRepository.updated, SqlRepository.withStats,
    SqlRepository.withLoadedStats_folderStats, SqlRepository.withFileInfo_folderStats,
    SqlRepository.withBlocks_folderStats]

/-- The cache answers the new statistics for the record's folder, and
what it did for any other. -/
theorem updated_cache (hfolder : (statsAfter s info).folder = info.folder) :
    (s.updated info blocks).folderStatsByFolder.find folder =
      if folder = info.folder then some (some (statsAfter s info))
      else s.folderStatsByFolder.find folder := by
  simp only [SqlRepository.updated, SqlRepository.withStats, hfolder, Table.find_merge]
  by_cases hf : folder = info.folder
  · rw [if_pos hf, if_pos hf]
  · rw [if_neg hf, if_neg hf]
    unfold SqlRepository.withLoadedStats
    split
    · rw [SqlRepository.withFileInfo_cache, SqlRepository.withBlocks_cache]
    · rw [Table.find_merge_of_ne hf, SqlRepository.withFileInfo_cache,
        SqlRepository.withBlocks_cache]

/-- The counters of `statsAfter`, as totals once the record is written. -/
theorem StatsInv.statsAfter_folder (h : StatsInv es s) :
    (statsAfter s info).folder = info.folder := by
  unfold statsAfter
  rw [h.statsOf_eq]
  exact newFolderStats_folder _ _ _ _ _ (h.folder_eq info.folder)

/-- The row counts the files that are stored then. -/
theorem StatsInv.statsAfter_fileCount (h : StatsInv es s) : (statsAfter s info).fileCount =
    total fileShare (s.withFileInfo info (lastVersion info)) info.folder := by
  rw [total_withFileInfo _ _ _ (fun _ _ => rfl), if_pos rfl, ← h.fileCount, ← h.statsOf_eq]
  exact newFolderStats_fileCount _ _ _ _ _

/-- The row counts the directories that are stored then. -/
theorem StatsInv.statsAfter_dirCount (h : StatsInv es s) : (statsAfter s info).dirCount =
    total dirShare (s.withFileInfo info (lastVersion info)) info.folder := by
  rw [total_withFileInfo _ _ _ (fun _ _ => rfl), if_pos rfl, ← h.dirCount, ← h.statsOf_eq]
  exact newFolderStats_dirCount _ _ _ _ _

/-- No row has a negative size after it. -/
theorem StatsInv.nonneg_withFileInfo (h : StatsInv es s) (hsize : 0 ≤ sizeShare info)
    (version : Version) :
    ∀ key row, (s.withFileInfo info version).fileInfo.find key = some row →
      0 ≤ sizeShare row.info := by
  intro key row hrow
  rw [SqlRepository.withFileInfo, Table.find_merge] at hrow
  split at hrow
  · cases hrow
    exact hsize
  · exact h.nonneg key row hrow

/-- No sum on the way wraps: both totals lie in the non-negative half of
a `long`, so their difference is one too. -/
theorem StatsInv.statsAfter_size (h : StatsInv es s) (hsize : 0 ≤ sizeShare info)
    (hsmall : total sizeShare (s.withFileInfo info (lastVersion info)) info.folder < 2 ^ 63) :
    (statsAfter s info).size =
      total sizeShare (s.withFileInfo info (lastVersion info)) info.folder := by
  have hdelta := total_withFileInfo s info info.folder (m := sizeShare) (fun _ _ => rfl)
    (lastVersion info)
  rw [if_pos rfl] at hdelta
  have hold := total_sizeShare_nonneg info.folder h.nonneg
  have holdSmall := h.small info.folder
  have hnew := total_sizeShare_nonneg info.folder
    (h.nonneg_withFileInfo hsize (lastVersion info))
  have hbase : (s.statsOf info.folder).elim 0 FolderStats.size = total sizeShare s info.folder := by
    rw [h.statsOf_eq, h.size]
  have hwrap : Long.wrap (sizeShare info - (s.recordAt info.folder info.path).elim 0 sizeShare) =
      sizeShare info - (s.recordAt info.folder info.path).elim 0 sizeShare := by
    refine Long.wrap_eq ?_ ?_ <;> omega
  simp only [statsAfter, hwrap]
  rw [newFolderStats_size _ _ _ _ _ (by rw [hbase]; omega) (by rw [hbase]; omega), hbase, hdelta]

/-- The row's date is the latest of those written. -/
theorem StatsInv.statsAfter_lastUpdate (h : StatsInv es s) :
    lastUpdateOf (some (statsAfter s info)) =
      max (lastModifiedsWritten info.folder es).maximum (info.lastModified : ℤ) := by
  rw [← h.lastUpdate, ← h.statsOf_eq]
  exact newFolderStats_lastUpdate _ _ _ _ _

/-- **The guards have nothing to refuse**: what they test are totals. -/
theorem StatsInv.statsGuard_statsAfter (h : StatsInv es s) (hsize : 0 ≤ sizeShare info)
    (hsmall : total sizeShare (s.withFileInfo info (lastVersion info)) info.folder < 2 ^ 63) :
    statsGuard (statsAfter s info) = true := by
  have hf : 0 ≤ (statsAfter s info).fileCount := by
    rw [h.statsAfter_fileCount, ← fileCountOf_eq_total]
    exact Int.natCast_nonneg _
  have hd : 0 ≤ (statsAfter s info).dirCount := by
    rw [h.statsAfter_dirCount, ← dirCountOf_eq_total]
    exact Int.natCast_nonneg _
  have hs : 0 ≤ (statsAfter s info).size := by
    rw [h.statsAfter_size hsize hsmall]
    exact total_sizeShare_nonneg _ (h.nonneg_withFileInfo hsize _)
  simp only [statsGuard, hf, hd, hs, decide_true, Bool.and_self]

/-- **A counter that is right for the record's folder is right for all**
once the update has written it: no other folder's rows or statistics
moved. -/
theorem StatsInv.updated_counter (h : StatsInv es s) {m : FileInfo → ℤ} {f : FolderStats → ℤ}
    (hm : ∀ info versionList, m { info with versionList } = m info)
    (hold : ∀ folder, (s.folderStats.find folder).elim 0 f = total m s folder)
    (hnew : f (statsAfter s info) =
      total m (s.withFileInfo info (lastVersion info)) info.folder) :
    ((s.updated info blocks).folderStats.find folder).elim 0 f =
      total m (s.updated info blocks) folder := by
  rw [total_congr updated_fileInfo, updated_folderStats, h.statsAfter_folder, Table.find_merge]
  by_cases hf : folder = info.folder
  · rw [if_pos hf, Option.elim_some, hnew, hf]
  · rw [if_neg hf, total_withFileInfo _ _ _ hm, if_neg (Ne.symm hf), add_zero]
    exact hold folder

/-- An update adds its record's date, if it writes the record. -/
theorem lastModifiedsWritten_append_updateFileInfo :
    lastModifiedsWritten folder (es ++ [.updateFileInfo info blocks]) =
      if info.folder = folder ∧ stopsBeforeWrites none info blocks = false then
        lastModifiedsWritten folder es ++ [info.lastModified]
      else lastModifiedsWritten folder es := by
  rw [lastModifiedsWritten, List.foldl_append]
  rfl

/-- **An update that writes keeps the invariant.** -/
theorem StatsInv.updated (h : StatsInv es s) (hsize : 0 ≤ sizeShare info)
    (hsmall : total sizeShare (s.withFileInfo info (lastVersion info)) info.folder < 2 ^ 63)
    (hwrites : stopsBeforeWrites none info blocks = false) :
    StatsInv (es ++ [.updateFileInfo info blocks]) (s.updated info blocks) where
  nonneg := by
    rw [updated_fileInfo]
    exact h.nonneg_withFileInfo hsize _
  small folder := by
    rw [total_congr updated_fileInfo]
    by_cases hf : info.folder = folder
    · rw [← hf]
      exact hsmall
    · rw [total_withFileInfo _ _ _ (fun _ _ => rfl), if_neg hf, add_zero]
      exact h.small folder
  folder_eq folder stats hstats := by
    rw [updated_folderStats, h.statsAfter_folder, Table.find_merge] at hstats
    split at hstats
    · next hf =>
      cases hstats
      rw [h.statsAfter_folder, hf]
    · exact h.folder_eq folder stats hstats
  fileCount _ := h.updated_counter (fun _ _ => rfl) h.fileCount h.statsAfter_fileCount
  dirCount _ := h.updated_counter (fun _ _ => rfl) h.dirCount h.statsAfter_dirCount
  size _ := h.updated_counter (fun _ _ => rfl) h.size (h.statsAfter_size hsize hsmall)
  lastUpdate folder := by
    rw [lastModifiedsWritten_append_updateFileInfo, updated_folderStats, h.statsAfter_folder,
      Table.find_merge]
    by_cases hf : folder = info.folder
    · rw [if_pos hf, if_pos ⟨hf.symm, hwrites⟩, List.maximum_concat, hf, h.statsAfter_lastUpdate]
    · rw [if_neg hf, if_neg fun h' => hf h'.1.symm]
      exact h.lastUpdate folder
  cache folder stats hstats := by
    rw [updated_cache h.statsAfter_folder] at hstats
    rw [updated_folderStats, h.statsAfter_folder, Table.find_merge]
    split at hstats
    · next hf =>
      cases hstats
      rw [if_pos hf]
    · next hf =>
      rw [if_neg hf]
      exact h.cache folder stats hstats

/-- What a call does where the database does not fail. -/
theorem run_updateFileInfo_none (s : SqlRepository) (info : FileInfo)
    (blocks : Option FileBlocks) :
    ∃ e, (updateFileInfo none info blocks).run s =
      if stopsBeforeWrites none info blocks = true then .error e s
      else if statsGuard (statsAfter s info) = true then .ok () (s.updated info blocks)
      else .error e (((s.withBlocks blocks).withFileInfo info (lastVersion info)).withLoadedStats
        info.folder) := by
  obtain ⟨e, heq⟩ := run_updateFileInfo s none info blocks
  refine ⟨e, ?_⟩
  rw [heq]
  simp only [reduceCtorEq, or_self, if_false, and_false, ne_eq, not_false_eq_true, and_true]

/-! ## Every call, every run -/

/-- A new repository has no record and no statistics. -/
theorem StatsInv.fresh : StatsInv [] SqlRepository.fresh where
  nonneg _ _ h := by simp [SqlRepository.fresh] at h
  small _ := by simp [total, SqlRepository.fresh]
  folder_eq _ _ h := by simp [SqlRepository.fresh] at h
  fileCount _ := by simp [total, SqlRepository.fresh]
  dirCount _ := by simp [total, SqlRepository.fresh]
  size _ := by simp [total, SqlRepository.fresh]
  lastUpdate _ := by simp [SqlRepository.fresh, lastUpdateOf, lastModifiedsWritten]
  cache _ _ h := by simp [SqlRepository.fresh] at h

/-- A change of caches other than the statistics' own, or of a cache
entry that agrees with its table, is none to the invariant. -/
theorem StatsInv.of_cache {t : SqlRepository} {call : Call} (h : StatsInv es s)
    (hinfo : t.fileInfo = s.fileInfo) (hstats : t.folderStats = s.folderStats)
    (hcache : ∀ folder stats,
      t.folderStatsByFolder.find folder = some stats → stats = s.folderStats.find folder)
    (hwritten : ∀ folder, lastModifiedsWritten folder (es ++ [call]) =
      lastModifiedsWritten folder es) : StatsInv (es ++ [call]) t where
  nonneg := by
    rw [hinfo]
    exact h.nonneg
  small folder := by
    rw [total_congr hinfo]
    exact h.small folder
  folder_eq := by
    rw [hstats]
    exact h.folder_eq
  fileCount folder := by
    rw [total_congr hinfo, hstats]
    exact h.fileCount folder
  dirCount folder := by
    rw [total_congr hinfo, hstats]
    exact h.dirCount folder
  size folder := by
    rw [total_congr hinfo, hstats]
    exact h.size folder
  lastUpdate folder := by
    rw [hstats, hwritten]
    exact h.lastUpdate folder
  cache := by
    rw [hstats]
    exact hcache

/-- An update without a failing statement writes all or nothing. -/
theorem after_updateFileInfo_none (h : StatsInv es s)
    (hfits : FitsLong es s (.updateFileInfo info blocks)) :
    after (updateFileInfo none info blocks) s =
      if stopsBeforeWrites none info blocks = true then s else s.updated info blocks := by
  obtain ⟨e, heq⟩ := run_updateFileInfo_none s info blocks
  have hguard := h.statsGuard_statsAfter (sizeShare_nonneg hfits.1)
    (sizeOf_eq_total (s := s.withFileInfo info (lastVersion info)) ▸ hfits.2)
  by_cases hstop : stopsBeforeWrites none info blocks = true
  · rw [if_pos hstop] at heq ⊢
    exact after_of_error heq
  · rw [if_neg hstop, if_pos hguard] at heq
    rw [if_neg hstop]
    exact after_of_ok heq

/-- **Each call keeps the statistics true.** -/
theorem StatsInv.step {call : Call} (h : StatsInv es s) (hfits : FitsLong es s call) :
    StatsInv (es ++ [call]) (after call.perform s) := by
  cases call with
  | updateFileInfo info blocks =>
    rw [Call.perform, after_updateFileInfo_none h hfits]
    by_cases hstop : stopsBeforeWrites none info blocks = true
    · rw [if_pos hstop]
      refine h.of_cache rfl rfl h.cache fun folder => ?_
      rw [lastModifiedsWritten_append_updateFileInfo, if_neg fun hw => ?_]
      rw [hstop] at hw
      exact Bool.noConfusion hw.2
    · rw [if_neg hstop]
      exact h.updated (sizeShare_nonneg hfits.1) (sizeOf_eq_total ▸ hfits.2) (by simpa using hstop)
  | clearIndex =>
    -- no rows are left, and nothing has been written since
    have hempty : after (Call.perform .clearIndex) s =
        { s with folderIndexInfo := ∅, folderStats := ∅, fileInfo := ∅, fileBlocks := ∅
                 temporaryData := none, indexInfoByDeviceIdAndFolder := ∅
                 folderStatsByFolder := ∅ } := rfl
    have hwritten : ∀ folder, lastModifiedsWritten folder (es ++ [.clearIndex]) = [] := by
      intro folder
      rw [lastModifiedsWritten, List.foldl_append]
      rfl
    rw [hempty]
    refine ⟨?_, ?_, ?_, ?_, ?_, ?_, ?_, ?_⟩ <;> simp [total, lastUpdateOf, hwritten]
  | findFolderStats folder =>
    have hrun : (discard (findFolderStats none folder) : RepoM Unit).run s =
        .ok () (s.withLoadedStats folder) := by
      have hfind := run_findFolderStats s none folder
      simp only [reduceCtorEq, and_false, if_false] at hfind
      exact run_discard_of_ok hfind
    rw [Call.perform, after_of_ok hrun]
    refine h.of_cache (s.withLoadedStats_fileInfo folder) (s.withLoadedStats_folderStats folder)
      (fun folder' stats hstats => ?_) fun folder' => ?_
    · unfold SqlRepository.withLoadedStats at hstats
      split at hstats
      · exact h.cache folder' stats hstats
      · rw [Table.find_merge] at hstats
        split at hstats
        · next hf =>
          cases hstats
          rw [hf]
        · exact h.cache folder' stats hstats
    · rw [lastModifiedsWritten, List.foldl_append]
      rfl
  | expire folder =>
    refine h.of_cache rfl rfl (fun folder' stats hstats => ?_) fun folder' => ?_
    · have hfind : (s.folderStatsByFolder.delete folder).find folder' = some stats := hstats
      by_cases hf : folder' = folder
      · rw [hf, Table.find_delete_self] at hfind
        cases hfind
      · rw [Table.find_delete_of_ne hf] at hfind
        exact h.cache folder' stats hfind
    · rw [lastModifiedsWritten, List.foldl_append]
      rfl

/-- **The invariant holds** in every run that fits. -/
theorem statsInv_of_run (h : calls.Run FitsLong es s) : StatsInv es s := by
  refine h.invariant (fun s hs => ?_) fun es s call s' _ hinv hfits hstep => ?_
  · rw [show s = SqlRepository.fresh from hs]
    exact StatsInv.fresh
  · rw [show s' = after call.perform s from hstep]
    exact hinv.step hfits

end Step

/-- A run that fits goes on with a call that does. -/
theorem perform_run {es : List Call} {s : SqlRepository} (h : calls.Run FitsLong es s)
    (call : Call) (hfits : FitsLong es s call) :
    calls.Run FitsLong (es ++ [call]) (after call.perform s) := h.step hfits rfl

/-- **Folder statistics are exactly the aggregates of the index.** After
any run of calls, each row of `folder_stats` holds the numbers of its
folder's live rows and the greatest modification time written, and
`findFolderStats` answers that row; and a call that throws has not been
stopped by the guards on the counters, but by a check that comes before
the first write. -/
theorem folderStats_eq_aggregates {es : List Call} {s : SqlRepository}
    (h : calls.Run FitsLong es s) :
    (∀ folder stats, s.folderStats.find folder = some stats →
      stats.folder = folder ∧ stats.fileCount = fileCountOf s folder ∧
        stats.dirCount = dirCountOf s folder ∧ stats.size = sizeOf s folder ∧
        (lastModifiedsWritten folder es).maximum = (stats.lastUpdate : ℤ) ∧
        ∃ s', (findFolderStats none folder).run s = .ok (some stats) s') ∧
    ∀ info blocks, FitsLong es s (.updateFileInfo info blocks) →
      statsGuard (statsAfter s info) = true ∧
        ∀ e s', (updateFileInfo none info blocks).run s = .error e s' →
          stopsBeforeWrites none info blocks = true := by
  have hinv := statsInv_of_run h
  refine ⟨fun folder stats hrow => ?_, fun info blocks hfits => ?_⟩
  · have hfile := hinv.fileCount folder
    have hdir := hinv.dirCount folder
    have hsize := hinv.size folder
    have hlast := hinv.lastUpdate folder
    rw [hrow] at hfile hdir hsize hlast
    refine ⟨hinv.folder_eq folder stats hrow, ?_, ?_, ?_, hlast.symm, ?_⟩
    · rw [fileCountOf_eq_total]
      exact hfile
    · rw [dirCountOf_eq_total]
      exact hdir
    · rw [sizeOf_eq_total]
      exact hsize
    · have hfind := run_findFolderStats s none folder
      simp only [reduceCtorEq, and_false, if_false] at hfind
      rw [hinv.statsOf_eq, hrow] at hfind
      exact ⟨_, hfind⟩
  · have hguard := hinv.statsGuard_statsAfter (sizeShare_nonneg hfits.1) (sizeOf_eq_total ▸ hfits.2)
    refine ⟨hguard, fun e s' herr => ?_⟩
    obtain ⟨e', heq⟩ := run_updateFileInfo_none s info blocks
    by_contra hstop
    rw [if_neg hstop, if_pos hguard, herr] at heq
    cases heq

end Statistics

section Sample

attribute [local instance] Sample.guava Sample.filenameUtils Sample.protobuf

/-- The sample's hash is not empty. -/
theorem zeros_ne : "00" ≠ "" := by decide

/-- A directory, then a file of five bytes, in a folder. -/
def sampleCalls : List Call :=
  [ .updateFileInfo (Sample.directory Sample.names_d 10) none
  , .updateFileInfo (Sample.file Sample.names_f zeros_ne 7 5) none ]

/-- The calls meet the conditions, and the statistics they leave are
those the theorem gives. -/
theorem folderStats_sampleCalls :
    ∃ s, calls.Run FitsLong sampleCalls s ∧
      ∃ stats, s.folderStats.find "default" = some stats ∧ stats = ⟨"default", 1, 1, 5, 10⟩ ∧
        stats.fileCount = fileCountOf s "default" := by
  have h₀ : calls.Run FitsLong [] SqlRepository.fresh := .start rfl
  have h₁ := perform_run h₀ (.updateFileInfo (Sample.directory Sample.names_d 10) none)
    ⟨fun n h => (by cases h), by decide⟩
  have h₂ := perform_run h₁ (.updateFileInfo (Sample.file Sample.names_f zeros_ne 7 5) none)
    ⟨fun n h => (by cases h; decide), by decide⟩
  exact ⟨_, h₂, ⟨"default", 1, 1, 5, 10⟩, by decide, rfl,
    ((folderStats_eq_aggregates h₂).1 "default" _ (by decide)).2.1⟩

end Sample

end Repository

end ASync
