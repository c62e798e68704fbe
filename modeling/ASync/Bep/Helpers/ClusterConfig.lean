import ASync.Bep.Helpers.Records
/-!
# What a cluster configuration does

`handleClusterConfigMessageProcessedEvent` takes folders and devices in
turn and gives the message up at the first that is malformed. Its effect
on the index info is that of its `announcements`.
-/

namespace ASync

namespace Bep

open ASync.Core Repository BlockExchageProtos Effect

variable [Guava] [FilenameUtils]

/-! ## What a cluster configuration announces -/

/-- One device's index of one folder, as announced. -/
structure Announcement where
  deviceId : String
  folder : String
  indexId : ℤ
  maxSequence : ℤ
  deriving DecidableEq

/-- The steps through a cluster configuration: each folder, then its
devices. -/
def clusterSteps (message : ClusterConfig) : List (Folder × Option Device) :=
  message.folders.flatMap fun record =>
    (record, none) :: record.devices.map fun deviceRecord => (record, some deviceRecord)

/-- A step the handler takes without an exception: the folder has an id,
the device's is a hash. -/
def wellFormed : Folder × Option Device → Bool
  | (record, none) => record.id ≠ ""
  | (_, some deviceRecord) => (KeystoreHandler.hashDataToDeviceIdString deviceRecord.id).isOk

/-- What a step announces. -/
def announcement : Folder × Option Device → Option Announcement
  | (_, none) => none
  | (record, some deviceRecord) =>
    match KeystoreHandler.hashDataToDeviceIdString deviceRecord.id, deviceRecord.indexId,
        deviceRecord.maxSequence with
    | .ok deviceId, some indexId, some maxSequence =>
      some ⟨deviceId, record.id, indexId, maxSequence⟩
    | _, _, _ => none

/-- The announcements of a cluster configuration, up to the first folder
or device that is malformed: there the handler gives the message up. -/
def announcements (message : ClusterConfig) : List Announcement :=
  ((clusterSteps message).takeWhile wellFormed).filterMap announcement

/-- What an announcement makes of a device's index info of a folder. -/
def announceTo (device folder : String) (stored : Option IndexInfo) (a : Announcement) :
    Option IndexInfo :=
  if a.deviceId = device ∧ a.folder = folder then
    nextIndexInfo stored folder device (some a.indexId) (some a.maxSequence) none
  else stored

variable {h h' h'' : IndexHandler} {device folder : String}

/-- `h'` is `h` after some announcements. -/
structure Announced (h h' : IndexHandler) (as : List Announcement) : Prop where
  indexTable : h'.IndexTable
  noEmpty : h'.folderInfoByFolder.find "" = none
  fileInfo : h'.indexRepository.fileInfo = h.indexRepository.fileInfo
  temporaryData : h'.indexRepository.temporaryData = h.indexRepository.temporaryData
  discarded : h'.discarded = h.discarded
  indexInfoOf : ∀ device folder,
    h'.indexInfoOf device folder = as.foldl (announceTo device folder) (h.indexInfoOf device folder)

omit [Guava] in
theorem Announced.refl (ht : h.IndexTable) (hne : h.folderInfoByFolder.find "" = none) :
    Announced h h [] := ⟨ht, hne, rfl, rfl, rfl, fun _ _ => rfl⟩

omit [Guava] in
theorem Announced.trans {as bs : List Announcement} (h₁ : Announced h h' as)
    (h₂ : Announced h' h'' bs) : Announced h h'' (as ++ bs) where
  indexTable := h₂.indexTable
  noEmpty := h₂.noEmpty
  fileInfo := h₂.fileInfo.trans h₁.fileInfo
  temporaryData := h₂.temporaryData.trans h₁.temporaryData
  discarded := h₂.discarded.trans h₁.discarded
  indexInfoOf device folder := by
    rw [h₂.indexInfoOf, h₁.indexInfoOf, List.foldl_append]

/-- A step of the handler. -/
def handleStep : Folder × Option Device → HandlerM Unit
  | (record, none) => discard (updateFolderInfo record.id record.label)
  | (record, some deviceRecord) => handleDevice record.id deviceRecord

omit [Guava] in
theorem announced_of_folder (ht : h.IndexTable) (hne : h.folderInfoByFolder.find "" = none)
    (info : FolderInfo) (hinfo : info.folder ≠ "") :
    Announced h { h with
      folderInfoByFolder := h.folderInfoByFolder.merge info.folder info } [] where
  indexTable := ht
  noEmpty := (Table.find_merge_of_ne (Ne.symm hinfo)).trans hne
  fileInfo := rfl
  temporaryData := rfl
  discarded := rfl
  indexInfoOf _ _ := rfl

omit [Guava] in
/-- A change of index info, as an announcement. -/
theorem IndexChange.announced {deviceId folder : String} {indexId maxSequence : ℤ}
    (hc : IndexChange h h' deviceId folder (nextIndexInfo (h.indexInfoOf deviceId folder) folder
      deviceId (some indexId) (some maxSequence) none))
    (hne : h.folderInfoByFolder.find "" = none) :
    Announced h h' [⟨deviceId, folder, indexId, maxSequence⟩] where
  indexTable := hc.indexTable
  noEmpty := by
    rw [hc.same.folderInfoByFolder]
    exact hne
  fileInfo := hc.same.fileInfo
  temporaryData := hc.same.temporaryData
  discarded := hc.same.discarded
  indexInfoOf device' folder' := by
    rw [List.foldl_cons, List.foldl_nil, announceTo]
    by_cases hk : deviceId = device' ∧ folder = folder'
    · obtain ⟨rfl, rfl⟩ := hk
      rw [if_pos ⟨rfl, rfl⟩]
      exact hc.indexInfoOf_self
    · rw [if_neg hk]
      exact hc.indexInfoOf_of_ne device' folder' fun h' => hk ⟨by cases h'; rfl, by cases h'; rfl⟩

/-- A folder record is taken exactly when it has an id. -/
theorem handleStep_folder (ht : h.IndexTable) (hne : h.folderInfoByFolder.find "" = none)
    (record : Folder) :
    (record.id ≠ "" → ∃ h', (handleStep (record, none)).run h = .ok () h' ∧ Announced h h' []) ∧
      (record.id = "" → ∃ e, (handleStep (record, none)).run h = .error e h) := by
  have hnew : ∀ label, record.id ≠ "" →
      ∃ l, FolderInfo.new record.id label = .ok ⟨record.id, l⟩ := by
    intro label hid
    refine ⟨(label.bind emptyToNull).getD record.id, ?_⟩
    simp only [FolderInfo.new, emptyToNull, if_neg hid, checkNotNull]
    rfl
  constructor
  · intro hid
    cases hfind : h.folderInfoByFolder.find record.id with
    | some stored =>
      by_cases hlabel : record.label = ""
      · have hrun : (updateFolderInfo record.id record.label).run h = .ok stored h := by
          simp only [updateFolderInfo, EStateM.run_bind, EStateM.run_get, hfind, if_pos hlabel,
            EStateM.run_pure]
        exact ⟨h, run_discard_of_ok hrun, Announced.refl ht hne⟩
      · obtain ⟨l, hl⟩ := hnew (some record.label) hid
        have hrun : (updateFolderInfo record.id record.label).run h = .ok ⟨record.id, l⟩ { h with
            folderInfoByFolder := h.folderInfoByFolder.merge record.id ⟨record.id, l⟩ } := by
          simp only [updateFolderInfo, EStateM.run_bind, EStateM.run_get, hfind, if_neg hlabel, hl]
          rfl
        exact ⟨_, run_discard_of_ok hrun, announced_of_folder ht hne ⟨record.id, l⟩ hid⟩
    | none =>
      obtain ⟨l, hl⟩ := hnew (some record.label) hid
      have hrun : (updateFolderInfo record.id record.label).run h = .ok ⟨record.id, l⟩ { h with
          folderInfoByFolder := h.folderInfoByFolder.merge record.id ⟨record.id, l⟩ } := by
        simp only [updateFolderInfo, EStateM.run_bind, EStateM.run_get, hfind, hl]
        rfl
      exact ⟨_, run_discard_of_ok hrun, announced_of_folder ht hne ⟨record.id, l⟩ hid⟩
  · intro hid
    refine ⟨.nullPointer "", run_discard_of_error ?_⟩
    simp only [updateFolderInfo, EStateM.run_bind, EStateM.run_get, hid, hne]
    rfl

/-- **A step announces what it says, or throws and announces nothing.** -/
theorem handleStep_announced (ht : h.IndexTable) (hne : h.folderInfoByFolder.find "" = none)
    (step : Folder × Option Device) :
    (wellFormed step = true → ∃ h', (handleStep step).run h = .ok () h' ∧
        Announced h h' (announcement step).toList) ∧
      (wellFormed step = false → ∃ e, (handleStep step).run h = .error e h) := by
  obtain ⟨record, _ | deviceRecord⟩ := step
  · have hfolder := handleStep_folder ht hne record
    simpa only [wellFormed, decide_eq_true_eq, decide_eq_false_iff_not, not_not, announcement,
      Option.toList_none] using hfolder
  · cases hid : KeystoreHandler.hashDataToDeviceIdString deviceRecord.id with
    | error e =>
      refine ⟨fun hw => ?_, fun _ => ⟨e, ?_⟩⟩
      · rw [wellFormed, hid] at hw
        cases hw
      · simp only [handleStep, handleDevice, hid]
        rfl
    | ok deviceId =>
      refine ⟨fun _ => ?_, fun hw => ?_⟩
      · simp only [announcement, handleStep, handleDevice, hid]
        cases deviceRecord.indexId with
        | none => exact ⟨h, rfl, Announced.refl ht hne⟩
        | some indexId =>
          cases deviceRecord.maxSequence with
          | none => exact ⟨h, rfl, Announced.refl ht hne⟩
          | some maxSequence =>
            obtain ⟨h', hupdate, hchange⟩ := run_updateIndexInfo record.id deviceId
              (some indexId) (some maxSequence) none ht
            have hann := hchange.announced hne
            cases hnext : nextIndexInfo (h.indexInfoOf deviceId record.id) record.id deviceId
                (some indexId) (some maxSequence) none with
            | none =>
              cases hs : h.indexInfoOf deviceId record.id <;> rw [hs] at hnext <;> cases hnext
            | some info =>
              rw [hnext] at hupdate
              exact ⟨h', run_discard_of_ok hupdate, hann⟩
      · rw [wellFormed, hid] at hw
        cases hw

theorem handleClusterConfig_eq_steps (message : ClusterConfig) :
    handleClusterConfigMessageProcessedEvent message = forM (clusterSteps message) handleStep := by
  have hdevices : ∀ (record : Folder) (devices : List Device),
      forM (devices.map fun deviceRecord => (record, some deviceRecord)) handleStep =
        forM devices (handleDevice record.id) := by
    intro record devices
    induction devices with
    | nil => rfl
    | cons d devices ih =>
      simp only [List.map_cons, List.forM_cons, ih]
      rfl
  have hfolders : ∀ folders : List Folder, forM folders handleFolder =
      forM (folders.flatMap fun record => (record, none) ::
        record.devices.map fun deviceRecord => (record, some deviceRecord)) handleStep := by
    intro folders
    induction folders with
    | nil => rfl
    | cons record folders ih =>
      rw [List.flatMap_cons, List.forM_append, ← ih, List.forM_cons, List.forM_cons, hdevices]
      rfl
  exact hfolders message.folders

/-- **A cluster configuration is its announcements**, whether it is
processed to its end or given up. -/
theorem handleClusterConfig_announced (ht : h.IndexTable)
    (hne : h.folderInfoByFolder.find "" = none) (message : ClusterConfig) :
    Announced h (after (handleClusterConfigMessageProcessedEvent message) h)
      (announcements message) := by
  have hsteps : ∀ (steps : List (Folder × Option Device)) (h : IndexHandler), h.IndexTable →
      h.folderInfoByFolder.find "" = none →
      Announced h (after (forM steps handleStep) h)
        ((steps.takeWhile wellFormed).filterMap announcement) := by
    intro steps
    induction steps with
    | nil =>
      intro h ht hne
      exact Announced.refl ht hne
    | cons step steps ih =>
      intro h ht hne
      obtain ⟨hgood, hbad⟩ := handleStep_announced ht hne step
      rw [List.forM_cons]
      cases hw : wellFormed step with
      | true =>
        obtain ⟨h', hrun, hann⟩ := hgood hw
        have hrest := hann.trans (ih h' hann.indexTable hann.noEmpty)
        rw [after_bind_of_ok hrun, List.takeWhile_cons_of_pos hw]
        cases hstep : announcement step with
        | none =>
          rw [hstep] at hrest
          rw [List.filterMap_cons_none hstep]
          exact hrest
        | some a =>
          rw [hstep] at hrest
          rw [List.filterMap_cons_some hstep]
          exact hrest
      | false =>
        obtain ⟨e, hrun⟩ := hbad hw
        rw [after_bind_of_error hrun, List.takeWhile_cons_of_neg (by simp [hw])]
        exact Announced.refl ht hne
  rw [handleClusterConfig_eq_steps]
  exact hsteps (clusterSteps message) h ht hne

end Bep

end ASync
