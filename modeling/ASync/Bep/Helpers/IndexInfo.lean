import ASync.Bep.Model.IndexHandler
/-!
# What a call does to the index info

`updateIndexInfo` and `isRemoteIndexAquired` go through a cache in front
of `folder_index_info`. Where the two agree (`IndexTable`), each call is
described by the table alone: `nextIndexInfo` is the row a change leaves,
and nothing else of the handler moves.
-/

namespace ASync

namespace Bep

open ASync.Core Repository BlockExchageProtos Effect

/-! ## Table and cache -/

/-- The rows stand under their own key, and the cache answers the table's
rows. -/
structure IndexTable (table : Table (String × String) IndexInfo)
    (cache : Table (String × String) (Option IndexInfo)) : Prop where
  keyed : ∀ key info, table.find key = some info → key = (info.folder, info.deviceId)
  cached : ∀ device folder entry,
    cache.find (device, folder) = some entry → entry = table.find (folder, device)

section Table

variable {table : Table (String × String) IndexInfo}
variable {cache : Table (String × String) (Option IndexInfo)}
variable {device folder : String}

/-- Loading an entry from the table. -/
theorem IndexTable.load (h : IndexTable table cache) :
    IndexTable table (cache.merge (device, folder) (table.find (folder, device))) where
  keyed := h.keyed
  cached device' folder' entry hentry := by
    rw [Table.find_merge] at hentry
    split at hentry
    · next hk =>
      cases hk
      cases hentry
      rfl
    · exact h.cached device' folder' entry hentry

/-- Writing a row to the table and the cache. -/
theorem IndexTable.write (h : IndexTable table cache) (info : IndexInfo) :
    IndexTable (table.merge (info.folder, info.deviceId) info)
      (cache.merge (info.deviceId, info.folder) (some info)) where
  keyed key info' hinfo := by
    rw [Table.find_merge] at hinfo
    split at hinfo
    · next hk =>
      cases hinfo
      exact hk
    · exact h.keyed key info' hinfo
  cached device' folder' entry hentry := by
    rw [Table.find_merge] at hentry ⊢
    by_cases hk : (device', folder') = (info.deviceId, info.folder)
    · cases hk
      rw [if_pos rfl] at hentry ⊢
      cases hentry
      rfl
    · rw [if_neg hk] at hentry
      rw [if_neg fun h' => hk (by cases h'; rfl)]
      exact h.cached device' folder' entry hentry

end Table

/-! ## The handler's index info -/

namespace IndexHandler

variable [FilenameUtils] (h : IndexHandler)

/-- The stored index info of a device and folder. -/
def indexInfoOf (device folder : String) : Option IndexInfo :=
  h.indexRepository.folderIndexInfo.find (folder, device)

/-- The table and its cache. -/
def IndexTable : Prop :=
  Bep.IndexTable h.indexRepository.folderIndexInfo h.indexRepository.indexInfoByDeviceIdAndFolder

/-- With another table and cache of index info. -/
def withIndex (table : Table (String × String) IndexInfo)
    (cache : Table (String × String) (Option IndexInfo)) : IndexHandler :=
  { h with indexRepository := { h.indexRepository with
      folderIndexInfo := table, indexInfoByDeviceIdAndFolder := cache } }

end IndexHandler

/-- The row a change leaves: none where there is none and no index id to
make one with. -/
def nextIndexInfo (stored : Option IndexInfo) (folder device : String)
    (indexId maxSequence localSequence : Option ℤ) : Option IndexInfo :=
  match stored, indexId with
  | some info, _ => some (changeIndexInfo info indexId maxSequence localSequence).1
  | none, some id =>
    some (changeIndexInfo
      { folder, deviceId := device, indexId := id, localSequence := 0, maxSequence := -1 }
      indexId maxSequence localSequence).1
  | none, none => none

section Change

variable {info : IndexInfo} {builder : IndexInfo × Bool}
variable {indexId maxSequence localSequence : Option ℤ}

/-- An index id that is given is assigned. -/
theorem assignIndexId_fst : (assignIndexId indexId builder).1 =
    { builder.1 with indexId := indexId.getD builder.1.indexId } := by
  unfold assignIndexId assign
  split
  · next id =>
    by_cases hid : id = builder.1.indexId
    · simp [hid]
    · simp [hid]
  · rfl

/-- A maximum that is given is assigned where it is greater. -/
theorem assignMaxSequence_fst : (assignMaxSequence maxSequence builder).1 =
    { builder.1 with
      maxSequence := max builder.1.maxSequence (maxSequence.getD builder.1.maxSequence) } := by
  unfold assignMaxSequence assign
  split
  · next sequence =>
    rcases lt_or_ge builder.1.maxSequence sequence with hlt | hge
    · simp only [decide_eq_true hlt, if_true, Option.getD_some, max_eq_right hlt.le]
    · simp only [decide_eq_false (not_lt.2 hge), Bool.false_eq_true, if_false, Option.getD_some,
        max_eq_left hge]
  · rw [Option.getD_none, max_self]

/-- A local sequence that is given is assigned where it is greater. -/
theorem assignLocalSequence_fst : (assignLocalSequence localSequence builder).1 =
    { builder.1 with
      localSequence := max builder.1.localSequence
        (localSequence.getD builder.1.localSequence) } := by
  unfold assignLocalSequence assign
  split
  · next sequence =>
    rcases lt_or_ge builder.1.localSequence sequence with hlt | hge
    · simp only [decide_eq_true hlt, if_true, Option.getD_some, max_eq_right hlt.le]
    · simp only [decide_eq_false (not_lt.2 hge), Bool.false_eq_true, if_false, Option.getD_some,
        max_eq_left hge]
  · rw [Option.getD_none, max_self]

/-- **The index info after a change**: the index id given, and the
greater of the old and the given sequences. -/
theorem changeIndexInfo_fst : (changeIndexInfo info indexId maxSequence localSequence).1 =
    { info with
      indexId := indexId.getD info.indexId
      maxSequence := max info.maxSequence (maxSequence.getD info.maxSequence)
      localSequence := max info.localSequence (localSequence.getD info.localSequence) } := by
  rw [changeIndexInfo, assignLocalSequence_fst, assignMaxSequence_fst, assignIndexId_fst]

/-- A change keeps the folder. -/
theorem changeIndexInfo_folder :
    (changeIndexInfo info indexId maxSequence localSequence).1.folder = info.folder := by
  rw [changeIndexInfo_fst]

/-- A change keeps the device. -/
theorem changeIndexInfo_deviceId :
    (changeIndexInfo info indexId maxSequence localSequence).1.deviceId = info.deviceId := by
  rw [changeIndexInfo_fst]

/-- An assignment that was not made leaves the builder. -/
theorem assign_eq_self {value : Option ℤ} {test : ℤ → Bool} {set : ℤ → IndexInfo}
    (h : (assign value test set builder).2 = false) : assign value test set builder = builder := by
  unfold assign at h ⊢
  cases value with
  | none => rfl
  | some v =>
    dsimp only at h ⊢
    split at h
    · cases h
    · next hno => rw [if_neg hno]

/-- Where no assignment was made, the index info is the old one. -/
theorem changeIndexInfo_eq_self
    (h : (changeIndexInfo info indexId maxSequence localSequence).2 = false) :
    (changeIndexInfo info indexId maxSequence localSequence).1 = info := by
  have hlocal : changeIndexInfo info indexId maxSequence localSequence =
      assignMaxSequence maxSequence (assignIndexId indexId (info, false)) := assign_eq_self h
  rw [hlocal] at h ⊢
  have hmax : assignMaxSequence maxSequence (assignIndexId indexId (info, false)) =
      assignIndexId indexId (info, false) := assign_eq_self h
  rw [hmax] at h ⊢
  have hid : assignIndexId indexId (info, false) = (info, false) := assign_eq_self h
  rw [hid]

end Change

/-! ## The calls -/

section Calls

variable [FilenameUtils] {h h' h'' : IndexHandler} {device folder : String}
variable {indexId maxSequence localSequence : Option ℤ}

/-- `h'` differs from `h` in its index info, its events and its counters
at most. -/
structure SameRecords (h h' : IndexHandler) : Prop where
  indexRepository : ∃ t c, h'.indexRepository = (h.withIndex t c).indexRepository
  discarded : h'.discarded = h.discarded
  queuedMessages : h'.queuedMessages = h.queuedMessages
  folderInfoByFolder : h'.folderInfoByFolder = h.folderInfoByFolder

/-- The records are the same. -/
theorem SameRecords.fileInfo (hs : SameRecords h h') :
    h'.indexRepository.fileInfo = h.indexRepository.fileInfo := by
  obtain ⟨t, c, hr⟩ := hs.indexRepository
  rw [hr]
  rfl

/-- The temporary data is the same. -/
theorem SameRecords.temporaryData (hs : SameRecords h h') :
    h'.indexRepository.temporaryData = h.indexRepository.temporaryData := by
  obtain ⟨t, c, hr⟩ := hs.indexRepository
  rw [hr]
  rfl

/-- Two steps that leave the records are one. -/
theorem SameRecords.trans (h₁ : SameRecords h h') (h₂ : SameRecords h' h'') :
    SameRecords h h'' := by
  obtain ⟨_, _, hr₁⟩ := h₁.indexRepository
  obtain ⟨t, c, hr₂⟩ := h₂.indexRepository
  refine ⟨⟨t, c, ?_⟩, h₂.discarded.trans h₁.discarded, h₂.queuedMessages.trans h₁.queuedMessages,
    h₂.folderInfoByFolder.trans h₁.folderInfoByFolder⟩
  rw [hr₂]
  simp only [IndexHandler.withIndex, hr₁]

/-- The call only loaded cache entries: every index info is as it was. -/
structure IndexLoad (h h' : IndexHandler) : Prop where
  same : SameRecords h h'
  indexTable : h'.IndexTable
  indexInfoOf : ∀ device folder, h'.indexInfoOf device folder = h.indexInfoOf device folder

/-- The call made `next` the index info of the device and folder, and
left every other. -/
structure IndexChange (h h' : IndexHandler) (device folder : String) (next : Option IndexInfo) :
    Prop where
  same : SameRecords h h'
  indexTable : h'.IndexTable
  indexInfoOf_self : h'.indexInfoOf device folder = next
  indexInfoOf_of_ne : ∀ device' folder', (folder', device') ≠ (folder, device) →
    h'.indexInfoOf device' folder' = h.indexInfoOf device' folder'

/-- Loading nothing is a load. -/
theorem IndexLoad.refl (ht : h.IndexTable) : IndexLoad h h :=
  ⟨⟨⟨_, _, rfl⟩, rfl, rfl, rfl⟩, ht, fun _ _ => rfl⟩

/-- Two loads are one. -/
theorem IndexLoad.trans (h₁ : IndexLoad h h') (h₂ : IndexLoad h' h'') : IndexLoad h h'' :=
  ⟨h₁.same.trans h₂.same, h₂.indexTable,
    fun device folder => (h₂.indexInfoOf device folder).trans (h₁.indexInfoOf device folder)⟩

/-- A change after a load is a change. -/
theorem IndexChange.of_load {next : Option IndexInfo} (hl : IndexLoad h h')
    (hc : IndexChange h' h'' device folder next) : IndexChange h h'' device folder next :=
  ⟨hl.same.trans hc.same, hc.indexTable, hc.indexInfoOf_self, fun device' folder' hne =>
    (hc.indexInfoOf_of_ne device' folder' hne).trans (hl.indexInfoOf device' folder')⟩

/-- A change before a load is a change. -/
theorem IndexChange.load {next : Option IndexInfo} (hc : IndexChange h h' device folder next)
    (hl : IndexLoad h' h'') : IndexChange h h'' device folder next :=
  ⟨hc.same.trans hl.same, hl.indexTable, (hl.indexInfoOf device folder).trans hc.indexInfoOf_self,
    fun device' folder' hne =>
      (hl.indexInfoOf device' folder').trans (hc.indexInfoOf_of_ne device' folder' hne)⟩

/-- A load changes no index info. -/
theorem IndexLoad.indexChange (device folder : String) (hl : IndexLoad h h') :
    IndexChange h h' device folder (h.indexInfoOf device folder) :=
  ⟨hl.same, hl.indexTable, hl.indexInfoOf device folder, fun device' folder' _ =>
    hl.indexInfoOf device' folder'⟩

/-- A call of the repository that returns leaves the rest of the handler. -/
theorem run_repository_of_ok {α : Type} {m : RepoM α} {a : α} {s : SqlRepository}
    (hm : m.run h.indexRepository = .ok a s) :
    (repository m).run h = .ok a { h with indexRepository := s } := run_focus_of_ok hm

/-- A call of the repository that throws leaves it, too. -/
theorem run_repository_of_error {α : Type} {m : RepoM α} {e : JavaException} {s : SqlRepository}
    (hm : m.run h.indexRepository = .error e s) :
    (repository m).run h = .error e { h with indexRepository := s } := run_focus_of_error hm

/-- A lookup answers the entry cached, or the row, which it caches. -/
theorem run_lookup_cases (h : IndexHandler) (device folder : String) :
    (∃ entry, h.indexRepository.indexInfoByDeviceIdAndFolder.find (device, folder) = some entry ∧
      (repository (findIndexInfoByDeviceAndFolder device folder)).run h = .ok entry h) ∨
    (h.indexRepository.indexInfoByDeviceIdAndFolder.find (device, folder) = none ∧
      (repository (findIndexInfoByDeviceAndFolder device folder)).run h =
        .ok (h.indexInfoOf device folder) { h with
          indexRepository := { h.indexRepository with
            indexInfoByDeviceIdAndFolder := h.indexRepository.indexInfoByDeviceIdAndFolder.merge
              (device, folder) (h.indexInfoOf device folder) } }) := by
  rcases hc : h.indexRepository.indexInfoByDeviceIdAndFolder.find (device, folder) with _ | entry
  · refine Or.inr ⟨rfl, run_repository_of_ok ?_⟩
    simp only [findIndexInfoByDeviceAndFolder, EStateM.run_bind, EStateM.run_get, hc,
      EStateM.run_modify, EStateM.run_pure, IndexHandler.indexInfoOf]
  · refine Or.inl ⟨entry, rfl, run_repository_of_ok (s := h.indexRepository) ?_⟩
    simp only [findIndexInfoByDeviceAndFolder, EStateM.run_bind, EStateM.run_get, hc,
      EStateM.run_pure]

/-- Looking an index info up answers the stored one. -/
theorem run_findIndexInfo (device folder : String) (ht : h.IndexTable) :
    ∃ h', (repository (findIndexInfoByDeviceAndFolder device folder)).run h =
        .ok (h.indexInfoOf device folder) h' ∧ IndexLoad h h' := by
  rcases run_lookup_cases h device folder with ⟨entry, hentry, hrun⟩ | ⟨-, hrun⟩
  · rw [ht.cached device folder entry hentry] at hrun
    exact ⟨h, hrun, IndexLoad.refl ht⟩
  · exact ⟨_, hrun, ⟨⟨_, _, rfl⟩, rfl, rfl, rfl⟩, IndexTable.load ht, fun _ _ => rfl⟩

/-- Writing an index info under its own key. -/
theorem run_writeIndexInfo (info : IndexInfo) (ht : h.IndexTable) (hfolder : info.folder = folder)
    (hdevice : info.deviceId = device) :
    ∃ h', (repository (Repository.updateIndexInfo info)).run h = .ok () h' ∧
      IndexChange h h' device folder (some info) := by
  subst hfolder hdevice
  refine ⟨_, rfl, ⟨⟨_, _, rfl⟩, rfl, rfl, rfl⟩, IndexTable.write ht info, Table.find_merge_self,
    ?_⟩
  intro device' folder' hne
  exact Table.find_merge_of_ne hne

/-- **`updateIndexInfo` stores the change, or fails where there is
nothing to change.** -/
theorem run_updateIndexInfo (folder device : String) (indexId maxSequence localSequence : Option ℤ)
    (ht : h.IndexTable) :
    ∃ h', (updateIndexInfo folder device indexId maxSequence localSequence).run h =
        (match nextIndexInfo (h.indexInfoOf device folder) folder device indexId maxSequence
            localSequence with
          | some info => .ok info h'
          | none => .error (.nullPointer (indexInfoNotFound folder device)) h') ∧
      IndexChange h h' device folder (nextIndexInfo (h.indexInfoOf device folder) folder device
        indexId maxSequence localSequence) := by
  -- whatever is stored, the lookup may only load it into the cache
  obtain ⟨h₁, hfind, hload⟩ := run_findIndexInfo device folder ht
  cases hstored : h.indexInfoOf device folder with
  | some stored =>
    have hkey : (folder, device) = (stored.folder, stored.deviceId) := ht.keyed _ _ hstored
    obtain ⟨hfolder, hdevice⟩ := Prod.mk.inj hkey
    have hnext : nextIndexInfo (some stored) folder device indexId maxSequence localSequence =
        some (changeIndexInfo stored indexId maxSequence localSequence).1 := rfl
    rw [hstored] at hfind
    by_cases hchanged : (changeIndexInfo stored indexId maxSequence localSequence).2 = true
    · obtain ⟨h₂, hwrite, hchange⟩ := run_writeIndexInfo
        (changeIndexInfo stored indexId maxSequence localSequence).1 hload.indexTable
        (changeIndexInfo_folder.trans hfolder.symm) (changeIndexInfo_deviceId.trans hdevice.symm)
      refine ⟨h₂, ?_, hchange.of_load hload⟩
      rw [updateIndexInfo, run_bind_of_ok hfind]
      simp only [hchanged, if_true]
      rw [run_bind_of_ok hwrite]
      rfl
    · -- an update that changes nothing writes nothing
      have hsame := changeIndexInfo_eq_self (Bool.not_eq_true _ ▸ hchanged)
      refine ⟨h₁, ?_, ?_⟩
      · rw [updateIndexInfo, run_bind_of_ok hfind]
        simp only [hchanged]
        rfl
      · rw [hnext, hsame, ← hstored]
        exact hload.indexChange _ _
  | none =>
    rw [hstored] at hfind
    -- without a row, only a caller that gives the index id makes one
    cases hid : indexId with
    | none =>
      refine ⟨h₁, ?_, ?_⟩
      · rw [updateIndexInfo, run_bind_of_ok hfind]
        rfl
      · have hload' := hload.indexChange device folder
        rw [hstored] at hload'
        exact hload'
    | some id =>
      obtain ⟨h₂, hwrite, hchange⟩ := run_writeIndexInfo
        (changeIndexInfo ⟨folder, device, id, 0, -1⟩ (some id) maxSequence
          localSequence).1 hload.indexTable
        changeIndexInfo_folder changeIndexInfo_deviceId
      refine ⟨h₂, ?_, hchange.of_load hload⟩
      rw [updateIndexInfo, run_bind_of_ok hfind]
      simp only [checkNotNull, ofExcept, nextIndexInfo]
      change (do
        repository (Repository.updateIndexInfo (changeIndexInfo ⟨folder, device, id, 0, -1⟩
          (some id) maxSequence localSequence).1)
        return (changeIndexInfo ⟨folder, device, id, 0, -1⟩ (some id) maxSequence
          localSequence).1 : HandlerM IndexInfo).run h₁ = _
      rw [run_bind_of_ok hwrite]
      rfl

omit [FilenameUtils] in
/-- A conjunction folded from the left. -/
theorem foldl_and {α : Type} (p : α → Bool) (xs : List α) (ready : Bool) :
    xs.foldl (fun ready x => ready && p x) ready = (ready && xs.all p) := by
  induction xs generalizing ready with
  | nil => rw [List.foldl_nil, List.all_nil, Bool.and_true]
  | cons x xs ih => rw [List.foldl_cons, ih, List.all_cons, Bool.and_assoc]

/-- The lookups of `isRemoteIndexAquired`, by what each answers wherever the
ones before it lead. -/
theorem run_aquired_of_lookups {P : IndexHandler → Prop} {infoOf : String → Option IndexInfo}
    {peerDeviceId : String}
    (hlookup : ∀ folder h₁, P h₁ → ∃ h₂,
      (repository (findIndexInfoByDeviceAndFolder peerDeviceId folder)).run h₁ =
      .ok (infoOf folder) h₂ ∧ P h₂)
    (hh : P h) (cluster : ClusterConfigInfo) :
    ∃ h', (isRemoteIndexAquired cluster peerDeviceId).run h =
        .ok (cluster.sharedFolders.all fun folder => (infoOf folder).any
          fun info => decide (info.maxSequence ≤ info.localSequence)) h' ∧ P h' := by
  have hfold := foldl_and (fun folder => (infoOf folder).any
    fun info => decide (info.maxSequence ≤ info.localSequence)) cluster.sharedFolders true
  rw [Bool.true_and] at hfold
  rw [← hfold, isRemoteIndexAquired]
  refine exists_foldlM_eq_ok ?_ cluster.sharedFolders true hh
  intro ready folder h₁ hh₁
  obtain ⟨h₂, hfind, hh₂⟩ := hlookup folder h₁ hh₁
  refine ⟨h₂, ?_, hh₂⟩
  rw [run_bind_of_ok hfind]
  rcases infoOf folder with _ | info
  · rw [Option.any_none, Bool.and_false]
    rfl
  · rfl

/-- **The index is aquired** exactly when every shared folder's stored
local sequence has reached its greatest. -/
theorem run_isRemoteIndexAquired (ht : h.IndexTable) (cluster : ClusterConfigInfo)
    (peerDeviceId : String) :
    ∃ h', (isRemoteIndexAquired cluster peerDeviceId).run h =
        .ok (cluster.sharedFolders.all fun folder => (h.indexInfoOf peerDeviceId folder).any
          fun info => decide (info.maxSequence ≤ info.localSequence)) h' ∧ IndexLoad h h' := by
  refine run_aquired_of_lookups (fun folder h₁ hload => ?_) (IndexLoad.refl ht) cluster
  obtain ⟨h₂, hfind, hload₂⟩ := run_findIndexInfo peerDeviceId folder hload.indexTable
  rw [hload.indexInfoOf] at hfind
  exact ⟨h₂, hfind, hload.trans hload₂⟩

end Calls

end Bep

end ASync
