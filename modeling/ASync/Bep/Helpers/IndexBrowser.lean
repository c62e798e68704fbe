import ASync.Bep.Model.IndexBrowser
import ASync.Core.Helpers.FileInfoOrdering
import ASync.Repository.Helpers.UpdateFileInfo
/-!
# What the calls on a browser read

The queries answer with records, since reading a row never fails; a
listing is the records sorted, behind the parent entry where the
directory shows it.
-/

namespace ASync

namespace Bep

open ASync.Core ASync.Repository Effect

/-! ## The queries -/

section Queries

variable [FilenameUtils]
variable {s : SqlRepository} {row : FileInfoRow} {folder path parent : String}
variable {rows rows' : List FileInfoRow}

theorem selectNotDeleted_eq_some : s.selectNotDeleted folder path = some row ↔
    s.Holds row ∧ row.folder = folder ∧ row.path = path ∧ row.isDeleted = false := by
  unfold SqlRepository.selectNotDeleted SqlRepository.Holds
  rw [Option.filter_eq_some_iff]
  simp only [Bool.and_eq_true, decide_eq_true_eq, Bool.not_eq_true', and_assoc]
  constructor
  · rintro ⟨hfind, rfl, rfl, hdeleted⟩
    exact ⟨hfind, rfl, rfl, hdeleted⟩
  · rintro ⟨hfind, rfl, rfl, hdeleted⟩
    exact ⟨hfind, rfl, rfl, hdeleted⟩

theorem findNotDeletedFileInfo_none : findNotDeletedFileInfo s none folder path =
    .ok ((s.selectNotDeleted folder path).map FileInfoRow.info) := by
  unfold findNotDeletedFileInfo answered
  rw [if_neg nofun]
  rcases s.selectNotDeleted folder path with _ | row
  · rfl
  · rw [Option.mapM_some, readFileInfo_eq]
    rfl

theorem mapM_readFileInfo (rows : List FileInfoRow) :
    rows.mapM readFileInfo = .ok (rows.map FileInfoRow.info) := by
  induction rows with
  | nil => rfl
  | cons row rows ih =>
    rw [List.mapM_cons, readFileInfo_eq, ih]
    rfl

theorem findNotDeletedFilesByFolderAndParent_none :
    findNotDeletedFilesByFolderAndParent none rows = .ok (rows.map FileInfoRow.info) := by
  unfold findNotDeletedFilesByFolderAndParent answered
  rw [if_neg nofun, mapM_readFileInfo]

/-- A row is read off the record it reads as. -/
theorem info_injective : Function.Injective (FileInfoRow.info) := by
  intro row row' h
  have hversion : row.info.versionList = row'.info.versionList := by rw [h]
  obtain ⟨hid, hvalue⟩ := Version.mk.inj (List.cons.inj hversion).1
  refine FileInfoRow.ext ?_ ?_ ?_ ?_ ?_ ?_ ?_ ?_ hid hvalue ?_
  · exact congrArg FileInfo.folder h
  · exact congrArg FileInfo.path h
  · exact congrArg FileInfo.fileName h
  · exact congrArg FileInfo.parent h
  · exact congrArg FileInfo.size h
  · exact congrArg FileInfo.hash h
  · exact congrArg FileInfo.lastModified h
  · exact congrArg FileInfo.type h
  · exact congrArg FileInfo.deleted h

/-- A query is answered by one set of rows. -/
theorem perm_of_selects (h : s.Selects folder parent rows)
    (h' : s.Selects folder parent rows') : rows.Perm rows' :=
  (List.perm_ext_iff_of_nodup h.nodup h'.nodup).2 fun row => by rw [h.mem_iff, h'.mem_iff]

/-- Rows of one path are one row. -/
theorem row_eq_of_path {row' : FileInfoRow} (h : s.Selects folder parent rows)
    (hrow : row ∈ rows) (hrow' : row' ∈ rows) (hpath : row.path = row'.path) : row = row' := by
  obtain ⟨hfind, hfolder, -⟩ := (h.mem_iff row).1 hrow
  obtain ⟨hfind', hfolder', -⟩ := (h.mem_iff row').1 hrow'
  unfold SqlRepository.Holds at hfind hfind'
  rw [hfolder, hpath, ← hfolder', hfind'] at hfind
  exact (Option.some.inj hfind).symm

end Queries

namespace IndexBrowser

section Calls

variable [FilenameUtils] {b : IndexBrowser} {path : String} {rows : List FileInfoRow}

/-! ## Preloading -/

/-- Triggering a preload leaves the browser where it is. -/
theorem currentPath_preload (b : IndexBrowser) :
    (after preloadFileInfoForCurrentPath b).currentPath = b.currentPath := by
  change (if b.currentPath ∈ b.preloadJobs then _ else _ : IndexBrowser).currentPath = _
  split
  · rfl
  · rfl

/-! ## Listings -/

/-- The parent entry, where the directory shows it, before some records. -/
def withParent (b : IndexBrowser) (path : String) (list : List FileInfo) : List FileInfo :=
  if b.showsParent path then b.PARENT_FILE_INFO :: list else list

theorem parentFileInfo_ne_info (row : FileInfoRow) : b.PARENT_FILE_INFO ≠ row.info := by
  intro h
  cases congrArg FileInfo.versionList h

theorem nodup_withParent (hnodup : rows.Nodup) (path : String) :
    (b.withParent path (rows.map FileInfoRow.info)).Nodup := by
  have hinfos : (rows.map FileInfoRow.info).Nodup := hnodup.map info_injective
  unfold withParent
  split
  · refine List.nodup_cons.2 ⟨fun hmem => ?_, hinfos⟩
    obtain ⟨row, -, hrow⟩ := List.mem_map.1 hmem
    exact parentFileInfo_ne_info row hrow.symm
  · exact hinfos

/-- **A listing loaded.** -/
theorem run_doListFiles (rows : List FileInfoRow) (path : String) :
    (doListFiles none rows path).run b =
      .ok (b.withParent path (Comparator.sort b.ordering (rows.map FileInfoRow.info)))
        { b with
          fileInfoCache :=
            Table.mergeAll b.fileInfoCache FileInfo.path (rows.map FileInfoRow.info) } := by
  unfold doListFiles
  rw [run_bind_of_ok (run_ofExcept_of_ok findNotDeletedFilesByFolderAndParent_none b)]
  rfl

/-- A query that fails leaves the browser as it was. -/
theorem run_doListFiles_of_fault {fault : Fault} (hfault : fault = some .selectFileInfo) :
    (doListFiles fault rows path).run b = .error (.runtime "SQLException") b := by
  subst hfault
  rfl

theorem doListFiles_of_no_fault {fault : Fault} (hfault : fault ≠ some .selectFileInfo) :
    doListFiles fault rows path = doListFiles none rows path := by
  unfold doListFiles findNotDeletedFilesByFolderAndParent answered
  rw [if_neg hfault, if_neg nofun]

/-! ## What the calls keep -/

section Kept

variable {I : IndexBrowser → Prop}

/-- A lookup writes to the cache of records alone. -/
theorem preserves_getFileInfoByAbsolutePath
    (hcache : ∀ b cache, I b → I { b with fileInfoCache := cache }) (fault : Fault)
      (path : String) :
    Preserves I (getFileInfoByAbsolutePath fault path) := by
  unfold getFileInfoByAbsolutePath
  refine Preserves.ite (Preserves.bind Preserves.get fun b => Preserves.pure _) ?_
  refine LoadingCache.preserves_getUnchecked ?_ fun b info h => hcache b _ h
  exact Preserves.bind Preserves.get fun b =>
    Preserves.bind (Preserves.ofExcept _) fun info => Preserves.ofExcept _

/-- A listing is put into the one cache and its records into the other. -/
theorem preserves_listFiles (hcache : ∀ b cache, I b → I { b with fileInfoCache := cache })
    (hlist : ∀ b cache, I b → I { b with listFolderCache := cache }) (fault : Fault)
    (rows : List FileInfoRow) (path : String) : Preserves I (listFiles fault rows path) := by
  unfold listFiles
  refine LoadingCache.preserves_getUnchecked ?_ fun b info h => hlist b _ h
  unfold doListFiles
  refine Preserves.bind (Preserves.ofExcept _) fun list => ?_
  refine Preserves.bind (Preserves.modify fun b h => hcache b _ h) fun _ => ?_
  exact Preserves.bind Preserves.get fun b => Preserves.pure _

theorem preserves_navigateToAbsolutePath
    (hcache : ∀ b cache, I b → I { b with fileInfoCache := cache })
    (hpath : ∀ b path, I b → I { b with currentPath := path })
    (hpreload : Preserves I preloadFileInfoForCurrentPath) (fault : Fault) (newPath : String) :
    Preserves I (navigateToAbsolutePath fault newPath) := by
  unfold navigateToAbsolutePath
  split
  · exact Preserves.bind (Preserves.modify fun b h => hpath b _ h) fun _ => hpreload
  · refine Preserves.bind (preserves_getFileInfoByAbsolutePath hcache fault newPath) fun info => ?_
    refine Preserves.bind Preserves.get fun b => Preserves.bind (Preserves.ofExcept _) fun _ => ?_
    refine Preserves.bind (Preserves.ofExcept _) fun _ => ?_
    exact Preserves.bind (Preserves.modify fun b h => hpath b _ h) fun _ => hpreload

end Kept

end Calls

end IndexBrowser

/-! ## A sample index -/

section Sample

attribute [local instance] FilenameUtils.commonsIo

def musicRow : FileInfoRow := FileInfoRow.of musicDirectory ⟨0, 0⟩

def photosRow : FileInfoRow := FileInfoRow.of photosDirectory ⟨0, 0⟩

/-- An index of two directories. -/
def twoDirectories : SqlRepository where
  fileInfo := ((∅ : Table _ _).merge ("default", "music") musicRow).merge ("default",
    "photos") photosRow

theorem selects_twoDirectories : twoDirectories.Selects "default" "" [photosRow, musicRow] where
  nodup := by decide +kernel
  mem_iff row := by
    unfold SqlRepository.Holds twoDirectories
    rw [Table.find_merge, Table.find_merge, Table.find_empty]
    constructor
    · intro hrow
      rcases List.mem_cons.1 hrow with rfl | hrow
      · decide +kernel
      · rw [List.mem_singleton.1 hrow]
        decide +kernel
    · rintro ⟨hfind, -⟩
      split at hfind
      · rw [← Option.some.inj hfind]
        exact List.mem_cons_self
      · split at hfind
        · rw [← Option.some.inj hfind]
          exact List.mem_cons_of_mem _ List.mem_cons_self
        · cases hfind

end Sample

end Bep

end ASync
