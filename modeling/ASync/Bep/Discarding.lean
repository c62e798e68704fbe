import ASync.Bep.Helpers.Messages
/-!
# What becomes of a record whose storing fails

The record loop catches what a call throws, warns that the record is
discarded, and counts its sequence with the others. So each record
received is either represented — its path has a row at least as recent —
or among those discarded, and the stored local sequence covers both.
-/

namespace ASync

namespace Bep

open ASync.Core Repository BlockExchageProtos Effect

section Discarding

variable [Guava] [FilenameUtils] [Protobuf IndexSerializationProtos.Blocks]
variable {h h' h'' : IndexHandler} {fault : Fault} {folder : String}
variable {r : BlockExchageProtos.FileInfo}

/-- The record is represented by a row of its path at least as recent, or
was discarded. -/
def Accounted (h : IndexHandler) (folder : String) (r : BlockExchageProtos.FileInfo) : Prop :=
  (∃ row, h.rowOf folder r.name = some row ∧ lastModified r ≤ row.lastModified) ∨ r ∈ h.discarded

/-- Rows are replaced by more recent ones only, and the discarded records
are remembered. -/
structure Grows (h h' : IndexHandler) : Prop where
  rowOf : ∀ folder path row, h.rowOf folder path = some row →
    ∃ row', h'.rowOf folder path = some row' ∧ row.lastModified ≤ row'.lastModified
  discarded : ∀ r ∈ h.discarded, r ∈ h'.discarded

omit [Guava] [Protobuf IndexSerializationProtos.Blocks] in
theorem Grows.of_same (hrows : h'.indexRepository.fileInfo = h.indexRepository.fileInfo)
    (hdiscarded : ∀ r ∈ h.discarded, r ∈ h'.discarded) : Grows h h' where
  rowOf folder path row hrow := by
    refine ⟨row, ?_, le_refl _⟩
    rw [IndexHandler.rowOf, hrows]
    exact hrow
  discarded := hdiscarded

omit [Guava] [Protobuf IndexSerializationProtos.Blocks] in
theorem Grows.trans (h₁ : Grows h h') (h₂ : Grows h' h'') : Grows h h'' where
  rowOf folder path row hrow := by
    obtain ⟨row', hrow', hle⟩ := h₁.rowOf folder path row hrow
    obtain ⟨row'', hrow'', hle'⟩ := h₂.rowOf folder path row' hrow'
    exact ⟨row'', hrow'', hle.trans hle'⟩
  discarded r hr := h₂.discarded r (h₁.discarded r hr)

omit [Guava] [Protobuf IndexSerializationProtos.Blocks] in
theorem Accounted.grows (ha : Accounted h folder r) (hg : Grows h h') : Accounted h' folder r := by
  rcases ha with ⟨row, hrow, hle⟩ | hmem
  · obtain ⟨row', hrow', hle'⟩ := hg.rowOf folder r.name row hrow
    exact .inl ⟨row', hrow', hle.trans hle'⟩
  · exact .inr (hg.discarded r hmem)

/-! ## One turn -/

omit [Guava] [Protobuf IndexSerializationProtos.Blocks] in
/-- Writing a record newer than the row of its path. -/
theorem grows_of_newer {info : Core.FileInfo} {version : Version} (hnewer : Newer h info)
    (hrows : h'.indexRepository.fileInfo =
      (h.indexRepository.withFileInfo info version).fileInfo)
    (hdiscarded : ∀ r ∈ h.discarded, r ∈ h'.discarded) : Grows h h' where
  rowOf folder path row hrow := by
    rw [IndexHandler.rowOf, hrows, SqlRepository.withFileInfo, Table.find_merge]
    by_cases hk : (folder, path) = (info.folder, info.path)
    · obtain ⟨rfl, rfl⟩ := Prod.mk.inj hk
      rw [if_pos rfl]
      exact ⟨_, rfl, (hnewer row hrow).le⟩
    · rw [if_neg hk]
      exact ⟨row, hrow, le_refl _⟩
  discarded := hdiscarded

/-- What a call on the repository makes of the rows, however it ends. -/
theorem grows_of_update {info : Core.FileInfo} {blocks : Option FileBlocks} (hnewer : Newer h info)
    (hrepo : h'.indexRepository = after (updateFileInfo fault info blocks) h.indexRepository)
    (hdiscarded : ∀ r ∈ h.discarded, r ∈ h'.discarded) : Grows h h' := by
  obtain ⟨t, b, st, c, p, heq, hrows⟩ :=
    after_updateFileInfo_eq h.indexRepository fault info blocks
  rw [heq] at hrepo
  have ht : h'.indexRepository.fileInfo = t := by rw [hrepo]
  rcases hrows with hsame | hwritten
  · exact Grows.of_same (ht.trans hsame) hdiscarded
  · exact grows_of_newer hnewer (ht.trans hwritten) hdiscarded

/-- **A turn loses no row and no record it discards.** -/
theorem Processed.grows (hp : Processed fault folder r h h') : Grows h h' := by
  cases hp with
  | unsupported => exact Grows.of_same rfl fun _ hr => hr
  | notNewer => exact Grows.of_same rfl fun _ hr => hr
  | stored _ hnewer hrun =>
    exact grows_of_update hnewer (after_of_ok hrun).symm fun _ hr => hr
  | refused => exact Grows.of_same rfl fun _ hr => List.mem_append_left _ hr
  | failed _ hnewer hrun =>
    exact grows_of_update hnewer (after_of_error hrun).symm fun _ hr => List.mem_append_left _ hr

omit [Protobuf IndexSerializationProtos.Blocks] in
/-- A file or directory record is not one the program does not support. -/
theorem buildRecord_ne_none (htype : r.type = .FILE ∨ r.type = .DIRECTORY) :
    buildRecord folder r ≠ .ok none := by
  intro hnone
  unfold buildRecord at hnone
  rcases htype with htype | htype
  · rw [htype] at hnone
    obtain ⟨_, _, hnone⟩ := except_bind_eq_ok hnone
    obtain ⟨_, _, hnone⟩ := except_bind_eq_ok hnone
    cases hnone
  · rw [htype] at hnone
    obtain ⟨_, _, hnone⟩ := except_bind_eq_ok hnone
    cases hnone

/-- **A turn accounts for its record**: it is stored, or a row as recent
was there, or it is discarded. -/
theorem Processed.accounted (hp : Processed fault folder r h h')
    (htype : r.type = .FILE ∨ r.type = .DIRECTORY) : Accounted h' folder r := by
  cases hp with
  | unsupported hnone => exact absurd hnone (buildRecord_ne_none htype)
  | @notNewer info blocks hb hnot =>
    obtain ⟨hfolder, hpath, hmod, _⟩ := buildRecord_eq_ok hb
    simp only [Newer, hfolder, hpath, hmod, not_forall, not_lt] at hnot
    obtain ⟨row, hrow, hle⟩ := hnot
    exact .inl ⟨row, hrow, hle⟩
  | @stored info blocks s hb _ hrun =>
    obtain ⟨hfolder, hpath, hmod, _⟩ := buildRecord_eq_ok hb
    obtain ⟨_, _, hs⟩ := updateFileInfo_eq_ok hrun
    refine .inl ⟨FileInfoRow.of info (lastVersion info), ?_, hmod.symm.le⟩
    rw [IndexHandler.rowOf, hs, updated_fileInfo, SqlRepository.withFileInfo, hfolder, hpath]
    exact Table.find_merge_self
  | refused => exact .inr (List.mem_append_right _ List.mem_cons_self)
  | failed => exact .inr (List.mem_append_right _ List.mem_cons_self)

/-! ## Messages -/

theorem grows_processed (folder : String)
    (records : List (BlockExchageProtos.FileInfo × Fault)) (h : IndexHandler) :
    Grows h (processed folder records h) := by
  induction records generalizing h with
  | nil => exact Grows.of_same rfl fun _ hr => hr
  | cons record records ih =>
    rw [processed_cons]
    exact (processRecord_after record.2 folder record.1 h).2.grows.trans (ih _)

/-- **The loop accounts for every record**, whichever calls fail. -/
theorem accounted_processed (folder : String)
    (records : List (BlockExchageProtos.FileInfo × Fault)) (h : IndexHandler)
    (hr : r ∈ records.map Prod.fst) (htype : r.type = .FILE ∨ r.type = .DIRECTORY) :
    Accounted (processed folder records h) folder r := by
  induction records generalizing h with
  | nil => cases hr
  | cons record records ih =>
    rw [processed_cons]
    rcases List.mem_cons.1 hr with hself | hrest
    · have hturn := (processRecord_after record.2 folder record.1 h).2
      rw [← hself] at hturn ⊢
      exact (hturn.accounted htype).grows (grows_processed folder records _)
    · exact ih _ hrest

/-- Every record of every message so far is accounted for. -/
def AllAccounted (es : List PeerMessage) (h : IndexHandler) : Prop :=
  ∀ peerDeviceId cluster faults message, .index peerDeviceId cluster faults message ∈ es →
    ∀ r ∈ message.files, r.type = .FILE ∨ r.type = .DIRECTORY → Accounted h message.folder r

theorem AllAccounted.step {es : List PeerMessage} (hn : Noted es h) (ha : AllAccounted es h)
    (message : PeerMessage) : AllAccounted (es ++ [message]) (after message.process h) := by
  intro peerDeviceId cluster faults m hmem r hr htype
  cases message with
  | clusterConfig message =>
    have hann := handleClusterConfig_announced hn.indexTable hn.noEmpty message
    have hbefore : PeerMessage.index peerDeviceId cluster faults m ∈ es := by
      rcases List.mem_append.1 hmem with hmem | hmem
      · exact hmem
      · cases List.mem_singleton.1 hmem
    refine (ha _ _ _ m hbefore r hr htype).grows (Grows.of_same hann.fileInfo fun r' hr' => ?_)
    have hdiscarded : (after (PeerMessage.clusterConfig message).process h).discarded =
        h.discarded := hann.discarded
    rw [hdiscarded]
    exact hr'
  | index peerDeviceId' cluster' faults' message =>
    have hchange := doHandle_change faults' message hn.indexTable cluster' peerDeviceId'
    have hend : Grows (processed message.folder (withFaults faults' message.files) h)
        (after (PeerMessage.index peerDeviceId' cluster' faults' message).process h) := by
      rw [PeerMessage.process, after_run]
      refine Grows.of_same hchange.same.fileInfo fun r' hr' => ?_
      have hdiscarded := hchange.same.discarded
      exact hdiscarded.symm ▸ hr'
    rcases List.mem_append.1 hmem with hmem | hmem
    · exact ((ha _ _ _ m hmem r hr htype).grows (grows_processed _ _ h)).grows hend
    · cases List.mem_singleton.1 hmem
      refine (accounted_processed m.folder (withFaults faults m.files) h ?_ htype).grows hend
      rw [map_fst_withFaults]
      exact hr

end Discarding

section Sample

attribute [local instance] Sample.guava Sample.filenameUtils Sample.protobuf

end Sample

end Bep

end ASync
