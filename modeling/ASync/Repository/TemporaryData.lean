import ASync.Common.Frames
import ASync.Repository.Model.SqlRepository
/-!
# The temporary table

What is pushed is popped once, under a key of its own. The calls that
read and write the other tables neither see the temporary table nor
touch it: each runs the same whatever is in it.
-/

namespace ASync

namespace Repository

open ASync.Core Effect

section Store

variable [FilenameUtils] {r r' : SqlRepository} {key : String} {data : Bytes}
variable {table : Table String Bytes}

/-- With another temporary table, or with none. -/
def SqlRepository.setTemporary (t : Option (Table String Bytes)) (r : SqlRepository) :
    SqlRepository := { r with temporaryData := t }

/-- What is stored under a key. -/
def SqlRepository.temporary (r : SqlRepository) (key : String) : Option Bytes :=
  r.temporaryData.bind fun table => table.find key

/-- Putting back the table that was there changes nothing. -/
@[simp] theorem SqlRepository.setTemporary_self (r : SqlRepository) :
    r.setTemporary r.temporaryData = r := rfl

/-- What is found is found in the table that was put. -/
@[simp] theorem SqlRepository.temporary_setTemporary :
    (r.setTemporary (some table)).temporary key = table.find key := rfl

/-- What is found is found in the table there is. -/
theorem SqlRepository.temporary_of_some (h : r.temporaryData = some table) (key : String) :
    r.temporary key = table.find key := by
  rw [SqlRepository.temporary, h, Option.bind_some]

/-! ## Pushing and popping -/

/-- **A push**, under a key not in use. -/
theorem run_pushTempData (htable : r.temporaryData = some table) (hfree : table.find key = none)
    (data : Bytes) : (pushTempData key data).run r =
      .ok () (r.setTemporary (some (table.merge key data))) := by
  rw [pushTempData, run_get_bind]
  simp only [htable, hfree]
  rfl

/-- Without the table nothing is pushed. -/
theorem run_pushTempData_of_none (htable : r.temporaryData = none) (data : Bytes) :
    (pushTempData key data).run r = .error (.runtime "SQLException") r := by
  rw [pushTempData, run_get_bind]
  simp only [htable]
  rfl

/-- **A pop**, of a key in use. -/
theorem run_popTempData (htable : r.temporaryData = some table) (hne : key ≠ "")
    (hfind : table.find key = some data) : (popTempData key).run r =
      .ok data (r.setTemporary (some (table.delete key))) := by
  have hcheck : checkNotNull (emptyToNull key) "" = .ok key := by
    simp [checkNotNull, emptyToNull, hne]
  rw [popTempData, run_bind_of_ok (run_ofExcept_of_ok hcheck _), run_get_bind]
  simp only [htable, hfind]
  rfl

/-- A pop that returns is of a key in use. -/
theorem popTempData_eq_ok (h : (popTempData key).run r = .ok data r') :
    ∃ table, key ≠ "" ∧ r.temporaryData = some table ∧ table.find key = some data ∧
      r' = r.setTemporary (some (table.delete key)) := by
  rw [popTempData, run_bind_eq_ok] at h
  obtain ⟨_, r₁, hcheck, h⟩ := h
  obtain ⟨hkey, rfl⟩ := ofExcept_eq_ok hcheck
  have hne : key ≠ "" := by
    rintro rfl
    simp [checkNotNull, emptyToNull] at hkey
  rw [run_get_bind] at h
  cases htable : r₁.temporaryData with
  | none =>
    simp only [htable] at h
    cases h
  | some table =>
    cases hfind : table.find key with
    | none =>
      simp only [htable, hfind] at h
      cases h
    | some found =>
      have hrun := run_popTempData htable hne hfind
      simp only [htable, hfind] at h
      cases h
      exact ⟨table, hne, rfl, hfind, rfl⟩

/-- What a push and a pop of any key do to the table: the data comes back
once, and the other keys read what they read before. -/
structure Spools (r : SqlRepository) : Prop where
  /-- Under a key not in use the data is stored, and had by the next pop,
  which leaves the repository as it was before the push. -/
  popped : ∀ key data, key ≠ "" → r.temporary key = none →
    ∃ r', (pushTempData key data).run r = .ok () r' ∧ (popTempData key).run r' = .ok data r ∧
      ∀ key', key' ≠ key → r'.temporary key' = r.temporary key'
  /-- A key in use is popped once. -/
  once : ∀ key data r', (popTempData key).run r = .ok data r' →
    r.temporary key = some data ∧ result (popTempData key) r' = none ∧
      ∀ key', key' ≠ key → r'.temporary key' = r.temporary key'
  /-- It stays in use until it is popped. -/
  kept : ∀ key data data', r.temporary key = some data →
    result (pushTempData key data') r = none ∧ after (pushTempData key data') r = r

/-- A repository with its table spools. -/
theorem spools_of_some (htable : r.temporaryData = some table) : Spools r where
  popped key data hne hfree := by
    rw [SqlRepository.temporary_of_some htable] at hfree
    refine ⟨_, run_pushTempData htable hfree data, ?_, fun key' hkey' => ?_⟩
    · have hpop : (popTempData key).run (r.setTemporary (some (table.merge key data))) = _ :=
        run_popTempData rfl hne Table.find_merge_self
      have hback : (table.merge key data).delete key = table := by
        refine Table.ext_find fun key' => ?_
        by_cases hkey' : key' = key
        · rw [hkey', Table.find_delete_self, hfree]
        · rw [Table.find_delete_of_ne hkey', Table.find_merge_of_ne hkey']
      rw [hpop, hback]
      show EStateM.Result.ok data (r.setTemporary (some table)) = _
      rw [← htable, SqlRepository.setTemporary_self]
    · rw [SqlRepository.temporary_setTemporary, Table.find_merge_of_ne hkey',
        SqlRepository.temporary_of_some htable]
  once key data r' hpop := by
    obtain ⟨table', hne, htable', hfind, rfl⟩ := popTempData_eq_ok hpop
    refine ⟨by rw [SqlRepository.temporary_of_some htable', hfind], ?_, fun key' hkey' => ?_⟩
    · cases hagain : result (popTempData key) (r.setTemporary (some (table'.delete key))) with
      | none => rfl
      | some data' =>
        obtain ⟨table'', _, htable'', hfind', _⟩ := popTempData_eq_ok (run_eq_ok_after hagain)
        obtain rfl : table'.delete key = table'' := Option.some.inj htable''
        rw [Table.find_delete_self] at hfind'
        cases hfind'
    · rw [SqlRepository.temporary_setTemporary, Table.find_delete_of_ne hkey',
        SqlRepository.temporary_of_some htable']
  kept key data data' hused := by
    rw [SqlRepository.temporary_of_some htable] at hused
    have hrun : (pushTempData key data').run r = .error (.runtime "SQLException") r := by
      rw [pushTempData, run_get_bind]
      simp only [htable, hused]
      rfl
    exact ⟨result_of_error hrun, after_of_error hrun⟩

end Store

/-! ## The other tables -/

section Apart

variable [Guava] [FilenameUtils]
variable {t : Option (Table String Bytes)} {fault : Fault}

/-- The call runs the same whatever the temporary table holds. -/
def Apart {α : Type} (m : RepoM α) : Prop := ∀ t, Framed (SqlRepository.setTemporary t) m

omit [Guava] in
/-- A statement of another table leaves the temporary data, and is not led
by it. -/
theorem apart_execute (statement : Statement) : Apart (execute fault statement) :=
  fun _ => Framed.ite (Framed.throw _) (Framed.pure _)

omit [Guava] in
/-- Reading an index info is apart from the temporary data. -/
theorem apart_findIndexInfo (deviceId folder : String) :
    Apart (findIndexInfoByDeviceAndFolder deviceId folder) := by
  intro t
  refine Framed.get_bind (fun _ => rfl) fun s => ?_
  cases s.indexInfoByDeviceIdAndFolder.find (deviceId, folder) with
  | some cached => exact Framed.pure _
  | none => exact Framed.bind (Framed.modify fun _ => rfl) fun _ => Framed.pure _

omit [Guava] in
/-- Writing an index info is apart from it. -/
theorem apart_updateIndexInfo (info : IndexInfo) : Apart (Repository.updateIndexInfo info) :=
  fun _ => Framed.modify fun _ => rfl

omit [Guava] in
/-- Reading a record is apart from it. -/
theorem apart_findFileInfo (folder path : String) : Apart (findFileInfo fault folder path) := by
  intro t
  refine Framed.bind (apart_execute _ t) fun _ => Framed.get_bind (fun _ => rfl) fun s => ?_
  cases s.fileInfo.find (folder, path) with
  | none => exact Framed.pure _
  | some row => exact Framed.bind (Framed.ofExcept _) fun _ => Framed.pure _

omit [Guava] in
/-- Reading a record's date is apart from it. -/
theorem apart_findFileInfoLastModified (folder path : String) :
    Apart (findFileInfoLastModified fault folder path) :=
  fun t => Framed.bind (apart_execute _ t) fun _ =>
    Framed.get_bind (fun _ => rfl) fun _ => Framed.pure _

omit [Guava] in
/-- Reading statistics is apart from it. -/
theorem apart_findFolderStats (folder : String) : Apart (findFolderStats fault folder) := by
  intro t
  refine Framed.get_bind (fun _ => rfl) fun s => ?_
  cases s.folderStatsByFolder.find folder with
  | some cached => exact Framed.pure _
  | none =>
    exact Framed.bind (apart_execute _ t) fun _ =>
      Framed.bind (Framed.modify fun _ => rfl) fun _ => Framed.pure _

omit [Guava] in
/-- Writing statistics is apart from it. -/
theorem apart_writeFolderStats (stats : FolderStats) : Apart (writeFolderStats fault stats) :=
  fun t => Framed.bind (Framed.ofExcept _) fun _ => Framed.bind (Framed.ofExcept _) fun _ =>
    Framed.bind (Framed.ofExcept _) fun _ => Framed.bind (apart_execute _ t) fun _ =>
      Framed.modify fun _ => rfl

omit [Guava] in
/-- Updating statistics is apart from it. -/
theorem apart_updateFolderStats (folder : String) (files dirs size lastUpdate : ℤ) :
    Apart (updateFolderStats fault folder files dirs size lastUpdate) :=
  fun t => Framed.bind (apart_findFolderStats folder t) fun _ =>
    Framed.bind (apart_writeFolderStats _ t) fun _ => Framed.pure _

omit [Guava] in
/-- Writing a record is apart from it. -/
theorem apart_mergeFileInfo (info : FileInfo) (version : Version) :
    Apart (mergeFileInfo fault info version) :=
  fun t => Framed.bind (apart_execute _ t) fun _ => Framed.modify fun _ => rfl

variable [Protobuf IndexSerializationProtos.Blocks]

/-- Writing a record's blocks is apart from it. -/
theorem apart_mergeFileBlocks (blocks : FileBlocks) : Apart (mergeFileBlocks fault blocks) :=
  fun t => Framed.bind (Framed.ofExcept _) fun _ => Framed.bind (apart_execute _ t) fun _ =>
    Framed.modify fun _ => rfl

/-- **A record is written the same.** -/
theorem apart_updateFileInfo (info : FileInfo) (blocks : Option FileBlocks) :
    Apart (updateFileInfo fault info blocks) := by
  intro t
  have hrest : ∀ version, Framed (SqlRepository.setTemporary t) (do
      let oldFileInfo ← findFileInfo fault info.folder info.path
      mergeFileInfo fault info version
      let folderStats ← updateFolderStats fault info.folder
        (fileShare info - oldFileInfo.elim 0 fileShare)
        (dirShare info - oldFileInfo.elim 0 dirShare)
        (Long.wrap (sizeShare info - oldFileInfo.elim 0 sizeShare)) info.lastModified
      modify fun s => { s with
        folderStatsByFolder := s.folderStatsByFolder.merge folderStats.folder (some folderStats)
        posted := s.posted ++ [folderStats] }) := fun version =>
    Framed.bind (apart_findFileInfo _ _ t) fun _ => Framed.bind (apart_mergeFileInfo _ _ t) fun _ =>
      Framed.bind (apart_updateFolderStats _ _ _ _ _ t) fun _ => Framed.modify fun _ => rfl
  refine Framed.bind (Framed.ofExcept _) fun version => Framed.bind (apart_execute _ t) fun _ => ?_
  cases blocks with
  | none => exact hrest version
  | some fileBlocks =>
    exact Framed.bind (Framed.ofExcept _) fun _ => Framed.bind (apart_mergeFileBlocks _ t) fun _ =>
      hrest version

end Apart

end Repository

end ASync
