import ASync.Repository.Helpers.UpdateFileInfo
import ASync.Bep.Helpers.IndexInfo
/-!
# What a record does to the handler

One turn of the record loop ends in one of five ways (`Processed`); the
loop is the turns in order, and a message is the loop and one change of
index info. Everything the results on index messages need of the handler
is read off these three.
-/

namespace ASync

namespace Bep

open ASync.Core Repository BlockExchageProtos Effect

variable [FilenameUtils] {h h' : IndexHandler} {fault : Fault} {folder : String}
variable {fileInfo : BlockExchageProtos.FileInfo} {info : Core.FileInfo}
variable {blocks : Option FileBlocks}

/-- The row stored for a path. -/
def IndexHandler.rowOf (h : IndexHandler) (folder path : String) : Option FileInfoRow :=
  h.indexRepository.fileInfo.find (folder, path)

/-- The record was modified after the row stored for its path. -/
def Newer (h : IndexHandler) (info : Core.FileInfo) : Prop :=
  ∀ row, h.rowOf info.folder info.path = some row → row.lastModified < info.lastModified

instance : Decidable (Newer h info) :=
  match hrow : h.rowOf info.folder info.path with
  | none => isTrue fun row h' => by rw [hrow] at h'; cases h'
  | some row =>
    if hlt : row.lastModified < info.lastModified then
      isTrue fun row' h' => by rw [hrow] at h'; cases h'; exact hlt
    else isFalse fun h' => hlt (h' row hrow)

/-- The date found is that of the row stored. -/
theorem run_repository_findFileInfoLastModified (h : IndexHandler) (folder path : String)
    (hfault : fault ≠ some .selectLastModified) :
    (repository (findFileInfoLastModified fault folder path)).run h =
      .ok ((h.rowOf folder path).map FileInfoRow.lastModified) h :=
  run_repository_of_ok (run_findFileInfoLastModified h.indexRepository hfault folder path)

/-- The test of `addRecord` stops a record that is not newer than the row.
-/
theorem any_lastModified_iff :
    (((h.rowOf info.folder info.path).map FileInfoRow.lastModified).any
      fun lastModified => !decide (lastModified < info.lastModified)) = true ↔ ¬ Newer h info := by
  unfold Newer
  cases h.rowOf info.folder info.path with
  | none => simp
  | some row => simp

/-- What a turn leaves alone. -/
structure RecordFrame (h h' : IndexHandler) : Prop where
  folderIndexInfo : h'.indexRepository.folderIndexInfo = h.indexRepository.folderIndexInfo
  indexInfoCache : h'.indexRepository.indexInfoByDeviceIdAndFolder =
    h.indexRepository.indexInfoByDeviceIdAndFolder
  temporaryData : h'.indexRepository.temporaryData = h.indexRepository.temporaryData
  queuedMessages : h'.queuedMessages = h.queuedMessages
  folderInfoByFolder : h'.folderInfoByFolder = h.folderInfoByFolder

/-- Nothing moves where nothing is done. -/
theorem RecordFrame.refl (h : IndexHandler) : RecordFrame h h := ⟨rfl, rfl, rfl, rfl, rfl⟩

/-- Two steps within the frame are one. -/
theorem RecordFrame.trans {h'' : IndexHandler} (h₁ : RecordFrame h h') (h₂ : RecordFrame h' h'') :
    RecordFrame h h'' :=
  ⟨h₂.folderIndexInfo.trans h₁.folderIndexInfo, h₂.indexInfoCache.trans h₁.indexInfoCache,
    h₂.temporaryData.trans h₁.temporaryData, h₂.queuedMessages.trans h₁.queuedMessages,
    h₂.folderInfoByFolder.trans h₁.folderInfoByFolder⟩

/-- The index info stays under its own keys. -/
theorem RecordFrame.indexTable (hf : RecordFrame h h') (ht : h.IndexTable) : h'.IndexTable := by
  unfold IndexHandler.IndexTable
  rw [hf.folderIndexInfo, hf.indexInfoCache]
  exact ht

/-- The index info of a folder stays as it is. -/
theorem RecordFrame.indexInfoOf (hf : RecordFrame h h') (device folder : String) :
    h'.indexInfoOf device folder = h.indexInfoOf device folder := by
  rw [IndexHandler.indexInfoOf, hf.folderIndexInfo, IndexHandler.indexInfoOf]

section IndexOnly

variable {h₀ : IndexHandler} {device : String} {next : Option IndexInfo}

/-- Posting and counting move no index info. -/
theorem preserves_modify {f : IndexHandler → IndexHandler}
    (hf : ∀ h, h.IndexTable → IndexLoad h (f h)) :
    Preserves (fun h => IndexChange h₀ h device folder next) (modify f : HandlerM PUnit) :=
  Preserves.modify fun h hc => hc.load (hf h hc.indexTable)

/-- Posting an event leaves the index info. -/
theorem preserves_postIf (c : Bool) (event : IndexEvent) :
    Preserves (fun h => IndexChange h₀ h device folder next) (postIf c event) :=
  Preserves.ite (preserves_modify fun _ ht =>
    ⟨⟨⟨_, _, rfl⟩, rfl, rfl, rfl⟩, ht, fun _ _ => rfl⟩) (Preserves.pure _)

/-- A pure result leaves the index info. -/
theorem preserves_ofExcept {α : Type} (x : Except JavaException α) :
    Preserves (fun h => IndexChange h₀ h device folder next) (ofExcept x : HandlerM α) := by
  cases x with
  | ok a => exact Preserves.pure a
  | error e => exact Preserves.throw e

/-- Asking whether an index is acquired leaves the index info. -/
theorem preserves_isRemoteIndexAquired (cluster : ClusterConfigInfo) (peerDeviceId : String) :
    Preserves (fun h => IndexChange h₀ h device folder next)
      (isRemoteIndexAquired cluster peerDeviceId) := by
  intro h hc
  obtain ⟨h', hrun, hload⟩ := run_isRemoteIndexAquired hc.indexTable cluster peerDeviceId
  rw [after_of_ok hrun]
  exact hc.load hload

end IndexOnly

variable [Guava] [Protobuf IndexSerializationProtos.Blocks]

/-- **The ways a turn of the record loop ends.** -/
inductive Processed (fault : Fault) (folder : String) (fileInfo : BlockExchageProtos.FileInfo)
    (h : IndexHandler) : IndexHandler → Prop
  /-- A type that is not supported. -/
  | unsupported : buildRecord folder fileInfo = .ok none → Processed fault folder fileInfo h h
  /-- The stored row is as recent. -/
  | notNewer {info : Core.FileInfo} {blocks : Option FileBlocks} :
      buildRecord folder fileInfo = .ok (some (info, blocks)) → ¬ Newer h info →
      Processed fault folder fileInfo h h
  /-- The record is stored. -/
  | stored {info : Core.FileInfo} {blocks : Option FileBlocks} {s : SqlRepository} :
      buildRecord folder fileInfo = .ok (some (info, blocks)) → Newer h info →
      (updateFileInfo fault info blocks).run h.indexRepository = .ok () s →
      Processed fault folder fileInfo h
        { h with indexRepository := s, events := h.events ++ [.indexChanged info.folder [info]] }
  /-- The record cannot be built, or the stored row not be read. -/
  | refused :
      (∃ e, buildRecord folder fileInfo = .error e) ∨ fault = some .selectLastModified →
      Processed fault folder fileInfo h { h with discarded := h.discarded ++ [fileInfo] }
  /-- The update fails, and what it wrote before stays. -/
  | failed {info : Core.FileInfo} {blocks : Option FileBlocks} {e : JavaException}
      {s : SqlRepository} :
      buildRecord folder fileInfo = .ok (some (info, blocks)) → Newer h info →
      (updateFileInfo fault info blocks).run h.indexRepository = .error e s →
      Processed fault folder fileInfo h
        { h with indexRepository := s, discarded := h.discarded ++ [fileInfo] }

/-! ## Building the record -/

omit [Protobuf IndexSerializationProtos.Blocks] in
/-- What a record that can be built is built to. -/
theorem buildRecord_eq_ok (hb : buildRecord folder fileInfo = .ok (some (info, blocks))) :
    info.folder = folder ∧ info.path = fileInfo.name ∧ info.lastModified = lastModified fileInfo ∧
      info.versionList = versionList fileInfo ∧ info.deleted = fileInfo.deleted ∧
      (fileInfo.type = .DIRECTORY ∧ info.type = .DIRECTORY ∧ blocks = none ∨
        fileInfo.type = .FILE ∧ info.type = .FILE ∧ info.size = some fileInfo.size ∧
          info.hash = some (BlockUtils.hashBlocks (blockList fileInfo)) ∧
          ∃ b, blocks = some b ∧ b.folder = folder ∧ b.path = fileInfo.name ∧
            b.blocks = blockList fileInfo) := by
  unfold buildRecord at hb
  cases htype : fileInfo.type with
  | FILE =>
    rw [htype] at hb
    obtain ⟨b, hnew, hb⟩ := except_bind_eq_ok hb
    obtain ⟨info', hbuild, hb⟩ := except_bind_eq_ok hb
    cases hb
    obtain ⟨hfolder, hpath, hblocks⟩ := FileBlocks.new_eq_ok hnew
    obtain ⟨hf, hp, hm, ht, hv, hd, hsh⟩ := FileInfo.Builder.build_eq_ok hbuild
    obtain ⟨hsize, hhash⟩ := hsh rfl
    refine ⟨hf, hp, hm, hv, hd, .inr ⟨rfl, ht, hsize, ?_, b, rfl, hfolder, hpath, hblocks⟩⟩
    rw [hhash, FileBlocks.hash, hblocks]
  | DIRECTORY =>
    rw [htype] at hb
    obtain ⟨info', hbuild, hb⟩ := except_bind_eq_ok hb
    cases hb
    obtain ⟨hf, hp, hm, ht, hv, hd, _⟩ := FileInfo.Builder.build_eq_ok hbuild
    exact ⟨hf, hp, hm, hv, hd, .inl ⟨rfl, ht, rfl⟩⟩
  | SYMLINK_FILE =>
    rw [htype] at hb
    cases hb
  | SYMLINK_DIRECTORY =>
    rw [htype] at hb
    cases hb
  | SYMLINK_UNKNOWN =>
    rw [htype] at hb
    cases hb

/-! ## One turn -/

/-- A turn whose call on the record throws. -/
theorem run_processRecord_of_error {e : JavaException}
    (hrun : (pushRecord fault folder fileInfo).run h = .error e h') :
    (processRecord fault folder fileInfo).run h =
      .ok none { h' with discarded := h'.discarded ++ [fileInfo] } := by
  rw [processRecord, run_tryCatch_of_error hrun]
  rfl

/-- **Every turn returns**, in one of the five ways. -/
theorem run_processRecord (fault : Fault) (folder : String)
    (fileInfo : BlockExchageProtos.FileInfo) (h : IndexHandler) :
    ∃ newRecord h', (processRecord fault folder fileInfo).run h = .ok newRecord h' ∧
      Processed fault folder fileInfo h h' := by
  cases hbuild : buildRecord folder fileInfo with
  | error e =>
    have hrun : (pushRecord fault folder fileInfo).run h = .error e h := by
      rw [pushRecord, hbuild]
      rfl
    exact ⟨_, _, run_processRecord_of_error hrun, .refused (.inl ⟨e, hbuild⟩)⟩
  | ok built =>
    cases built with
    | none =>
      have hrun : (pushRecord fault folder fileInfo).run h = .ok none h := by
        rw [pushRecord, hbuild]
        rfl
      exact ⟨_, _, run_tryCatch_of_ok hrun, .unsupported hbuild⟩
    | some built =>
      obtain ⟨info, blocks⟩ := built
      have hpush : (pushRecord fault folder fileInfo).run h = (addRecord fault info blocks).run h :=
        by rw [pushRecord, hbuild]; rfl
      by_cases hfault : fault = some .selectLastModified
      · have hrun : (pushRecord fault folder fileInfo).run h =
            .error (.runtime "SQLException") h := by
          rw [hpush, hfault]
          rfl
        exact ⟨_, _, run_processRecord_of_error hrun, .refused (.inr hfault)⟩
      · have hread := run_repository_findFileInfoLastModified h info.folder info.path hfault
        by_cases hnewer : Newer h info
        · have hany := mt any_lastModified_iff.1 (not_not.2 hnewer)
          cases hupdate : (updateFileInfo fault info blocks).run h.indexRepository with
          | error e s =>
            have hrun : (pushRecord fault folder fileInfo).run h =
                .error e { h with indexRepository := s } := by
              rw [hpush, addRecord, run_bind_of_ok hread, if_neg hany]
              exact run_bind_of_error (run_repository_of_error hupdate) _
            exact ⟨_, _, run_processRecord_of_error hrun, .failed hbuild hnewer hupdate⟩
          | ok u s =>
            have hrun : (pushRecord fault folder fileInfo).run h = .ok (some info)
                { h with indexRepository := s
                         events := h.events ++ [.indexChanged info.folder [info]] } := by
              rw [hpush, addRecord, run_bind_of_ok hread, if_neg hany,
                run_bind_of_ok (run_repository_of_ok hupdate)]
              rfl
            exact ⟨_, _, run_tryCatch_of_ok hrun, .stored hbuild hnewer hupdate⟩
        · have hany := any_lastModified_iff.2 hnewer
          have hrun : (pushRecord fault folder fileInfo).run h = .ok none h := by
            rw [hpush, addRecord, run_bind_of_ok hread, if_pos hany]
            rfl
          exact ⟨_, _, run_tryCatch_of_ok hrun, .notNewer hbuild hnewer⟩

/-- **What an accepted record went through.** -/
theorem pushRecord_eq_some (hrun : (pushRecord fault folder fileInfo).run h = .ok (some info) h') :
    ∃ blocks s, buildRecord folder fileInfo = .ok (some (info, blocks)) ∧
      (updateFileInfo fault info blocks).run h.indexRepository = .ok () s ∧
      h'.indexRepository = s := by
  cases hbuild : buildRecord folder fileInfo with
  | error e =>
    rw [pushRecord, hbuild] at hrun
    cases hrun
  | ok built =>
    rw [pushRecord, hbuild] at hrun
    cases built with
    | none => cases hrun
    | some built =>
      obtain ⟨built, blocks⟩ := built
      change (addRecord fault built blocks).run h = _ at hrun
      have hfault : fault ≠ some .selectLastModified := by
        rintro rfl
        cases hrun
      rw [addRecord, run_bind_of_ok (run_repository_findFileInfoLastModified h _ _ hfault)] at hrun
      split at hrun
      · cases hrun
      · obtain ⟨_, h₁, hupdate, hrun⟩ := run_bind_eq_ok.1 hrun
        cases hs : (updateFileInfo fault built blocks).run h.indexRepository with
        | error e s =>
          rw [run_repository_of_error hs] at hupdate
          cases hupdate
        | ok _ s =>
          rw [run_repository_of_ok hs] at hupdate
          cases hupdate
          cases hrun
          exact ⟨blocks, s, rfl, hs, rfl⟩

/-- Processing a record stays within the frame. -/
theorem Processed.frame (hp : Processed fault folder fileInfo h h') : RecordFrame h h' := by
  cases hp with
  | unsupported => exact RecordFrame.refl h
  | notNewer => exact RecordFrame.refl h
  | @stored info blocks s _ _ hupdate =>
    obtain ⟨t, b, st, c, p, heq, _⟩ := after_updateFileInfo_eq h.indexRepository fault
      info blocks
    rw [after_of_ok hupdate] at heq
    rw [heq]
    exact ⟨rfl, rfl, rfl, rfl, rfl⟩
  | refused => exact ⟨rfl, rfl, rfl, rfl, rfl⟩
  | @failed info blocks e s _ _ hupdate =>
    obtain ⟨t, b, st, c, p, heq, _⟩ := after_updateFileInfo_eq h.indexRepository fault
      info blocks
    rw [after_of_error hupdate] at heq
    rw [heq]
    exact ⟨rfl, rfl, rfl, rfl, rfl⟩

/-- A turn, as the handler it leaves. -/
theorem processRecord_after (fault : Fault) (folder : String)
    (fileInfo : BlockExchageProtos.FileInfo) (h : IndexHandler) :
    (∃ newRecord, (processRecord fault folder fileInfo).run h =
        .ok newRecord (after (processRecord fault folder fileInfo) h)) ∧
      Processed fault folder fileInfo h (after (processRecord fault folder fileInfo) h) := by
  obtain ⟨newRecord, h', hrun, hturn⟩ := run_processRecord fault folder fileInfo h
  rw [after_of_ok hrun]
  exact ⟨⟨newRecord, hrun⟩, hturn⟩

/-! ## The loop -/

/-- The handler after the turns of some records. -/
def processed (folder : String) (records : List (BlockExchageProtos.FileInfo × Fault))
    (h : IndexHandler) : IndexHandler :=
  records.foldl (fun h r => after (processRecord r.2 folder r.1) h) h

/-- Records are processed in order. -/
theorem processed_cons (r : BlockExchageProtos.FileInfo × Fault)
    (records : List (BlockExchageProtos.FileInfo × Fault)) (h : IndexHandler) :
    processed folder (r :: records) h =
      processed folder records (after (processRecord r.2 folder r.1) h) := rfl

/-- The greatest sequence of some records, and of one more number. -/
def maxSequence (files : List BlockExchageProtos.FileInfo) (sequence : ℤ) : ℤ :=
  files.foldl (fun sequence fileInfo => max fileInfo.sequence sequence) sequence

/-- The records of a message that were accepted. -/
def acceptedRecords (folder : String) :
    List (BlockExchageProtos.FileInfo × Fault) → IndexHandler → List Core.FileInfo
  | [], _ => []
  | (fileInfo, fault) :: rest, h =>
    (result (processRecord fault folder fileInfo) h).join.toList ++
      acceptedRecords folder rest (after (processRecord fault folder fileInfo) h)

/-- **The loop is its turns, in order**, and never throws. It returns the
records accepted. -/
theorem run_processRecords (folder : String) (records : List (BlockExchageProtos.FileInfo × Fault))
    (newRecords : List Core.FileInfo) (sequence : ℤ) (h : IndexHandler) :
    (processRecords folder records newRecords sequence).run h =
      .ok (newRecords ++ acceptedRecords folder records h,
          maxSequence (records.map Prod.fst) sequence) (processed folder records h) := by
  induction records generalizing newRecords sequence h with
  | nil =>
    rw [acceptedRecords, List.append_nil]
    rfl
  | cons r records ih =>
    obtain ⟨⟨newRecord, hrun⟩, _⟩ := processRecord_after r.2 folder r.1 h
    rw [processRecords, run_bind_of_ok hrun, ih, acceptedRecords, result_of_ok hrun,
      List.append_assoc, processed_cons]
    rfl

/-- Processing records stays within the frame. -/
theorem frame_processed (folder : String) (records : List (BlockExchageProtos.FileInfo × Fault))
    (h : IndexHandler) : RecordFrame h (processed folder records h) := by
  induction records generalizing h with
  | nil => exact RecordFrame.refl h
  | cons r records ih =>
    rw [processed_cons]
    exact (processRecord_after r.2 folder r.1 h).2.frame.trans (ih _)

/-! ## The message -/

omit [Guava] [Protobuf IndexSerializationProtos.Blocks] in
/-- **The end of a message** is one change of index info, whether it
returns or throws. -/
theorem finishMessage_change (ht : h.IndexTable) (cluster : ClusterConfigInfo)
    (peerDeviceId folder : String) (filesCount : ℕ) (newRecords : List Core.FileInfo)
    (sequence : ℤ) :
    IndexChange h
      (after (finishMessage cluster peerDeviceId folder filesCount newRecords sequence) h)
      peerDeviceId folder (nextIndexInfo (h.indexInfoOf peerDeviceId folder) folder peerDeviceId
        none none (some sequence)) := by
  obtain ⟨h', hrun, hchange⟩ := run_updateIndexInfo folder peerDeviceId none none
    (some sequence) ht
  cases hnext : nextIndexInfo (h.indexInfoOf peerDeviceId folder) folder peerDeviceId none none
      (some sequence) with
  | none =>
    rw [hnext] at hrun hchange
    rw [finishMessage, after_bind_of_error hrun]
    exact hchange
  | some info =>
    rw [hnext] at hrun hchange
    rw [finishMessage, after_bind_of_ok hrun]
    refine Preserves.bind (preserves_modify ?_) (fun _ => Preserves.bind Preserves.get fun _ =>
      Preserves.bind (preserves_ofExcept _) fun _ => Preserves.bind (preserves_postIf _ _) fun _ =>
      Preserves.bind (preserves_isRemoteIndexAquired _ _) fun _ =>
      Preserves.bind (preserves_postIf _ _) fun _ => preserves_modify ?_) h' hchange
    · exact fun _ ht => ⟨⟨⟨_, _, rfl⟩, rfl, rfl, rfl⟩, ht, fun _ _ => rfl⟩
    · exact fun _ ht => ⟨⟨⟨_, _, rfl⟩, rfl, rfl, rfl⟩, ht, fun _ _ => rfl⟩

omit [FilenameUtils] [Guava] [Protobuf IndexSerializationProtos.Blocks] in
/-- The faults leave the records as they are. -/
theorem map_fst_withFaults (faults : ℕ → Fault) (files : List BlockExchageProtos.FileInfo) :
    (withFaults faults files).map Prod.fst = files := by
  rw [withFaults, List.map_map]
  exact List.zipIdx_map_fst 0 files

/-- **A message is its turns and one change of index info**: the greatest
of its sequences is noted, whatever became of its records. -/
theorem doHandle_change (faults : ℕ → Fault) (message : IndexUpdate) (ht : h.IndexTable)
    (cluster : ClusterConfigInfo) (peerDeviceId : String) :
    IndexChange (processed message.folder (withFaults faults message.files) h)
      (after (doHandleIndexMessageReceivedEvent faults message cluster peerDeviceId) h)
      peerDeviceId message.folder
      (nextIndexInfo (h.indexInfoOf peerDeviceId message.folder) message.folder peerDeviceId none
        none (some (maxSequence message.files (-1)))) := by
  have hrun := run_processRecords message.folder
    (withFaults faults message.files) [] (-1) h
  have hframe := frame_processed message.folder (withFaults faults message.files) h
  rw [map_fst_withFaults] at hrun
  rw [doHandleIndexMessageReceivedEvent, after_bind_of_ok hrun, ← hframe.indexInfoOf]
  exact finishMessage_change (hframe.indexTable ht) _ _ _ _ _ _

omit [Guava] [Protobuf IndexSerializationProtos.Blocks] in
/-- A task of the processor logs what its message throws, and counts the
message down. -/
theorem after_run (m : HandlerM Unit) (h : IndexHandler) :
    after (run m) h = { after m h with queuedMessages := (after m h).queuedMessages - 1 } := by
  cases hm : m.run h with
  | ok u h' =>
    rw [run, after_bind_of_ok (run_tryCatch_of_ok hm), after_of_ok hm]
    rfl
  | error e h' =>
    have hcatch : (tryCatch m fun _ => pure ()).run h = .ok () h' := by
      rw [run_tryCatch_of_error hm]
      rfl
    rw [run, after_bind_of_ok hcatch, after_of_error hm]
    rfl

end Bep

end ASync
