import ASync.Common.Run
import ASync.Core.Helpers.Sample
import ASync.Bep.Helpers.ClusterConfig
/-!
# Runs of messages

The messages of peers, processed one after the other, and what they say
of one device's index of one folder: `noted_of_run` shows the stored
index info is the fold of these notes, `noteStep`, over any run.
-/

namespace ASync

namespace Bep

open ASync.Core Repository BlockExchageProtos Effect

section Messages

variable [Guava] [FilenameUtils] [Protobuf IndexSerializationProtos.Blocks]
variable {h h' : IndexHandler} {device folder : String}

/-- A message of some peer: its cluster configuration, or an index
message received on a connection that shares some folders. -/
inductive PeerMessage
  | clusterConfig (message : ClusterConfig)
  | index (peerDeviceId : String) (cluster : ClusterConfigInfo) (faults : ℕ → Fault)
      (message : IndexUpdate)

def PeerMessage.process : PeerMessage → HandlerM Unit
  | .clusterConfig message => handleClusterConfigMessageProcessedEvent message
  | .index peerDeviceId cluster faults message =>
    run (doHandleIndexMessageReceivedEvent faults message cluster peerDeviceId)

/-- A handler with an empty repository, before any message. -/
def IndexHandler.fresh : IndexHandler := { indexRepository := SqlRepository.fresh }

/-- Messages processed one after the other, from an empty repository. -/
def messages : Machine IndexHandler PeerMessage where
  start h := h.indexRepository = SqlRepository.fresh ∧ h.folderInfoByFolder.find "" = none
  step h message h' := h' = after message.process h

/-- What a message says of one device's index of one folder. -/
inductive Note
  | announced (indexId maxSequence : ℤ)
  | received (files : List BlockExchageProtos.FileInfo)

/-- The note of an announcement, for one device and folder. -/
def Announcement.note (device folder : String) (a : Announcement) : Option Note :=
  if a.deviceId = device ∧ a.folder = folder then some (.announced a.indexId a.maxSequence)
  else none

def PeerMessage.notes (device folder : String) : PeerMessage → List Note
  | .clusterConfig message => (announcements message).filterMap (Announcement.note device folder)
  | .index peerDeviceId _ _ message =>
    if peerDeviceId = device ∧ message.folder = folder then [.received message.files] else []

/-- What a note makes of the stored index info. -/
def noteStep (device folder : String) (stored : Option IndexInfo) : Note → Option IndexInfo
  | .announced indexId maxSequence =>
    nextIndexInfo stored folder device (some indexId) (some maxSequence) none
  | .received files =>
    nextIndexInfo stored folder device none none (some (maxSequence files (-1)))

/-- The index info some notes leave. -/
def storedBy (device folder : String) (notes : List Note) : Option IndexInfo :=
  notes.foldl (noteStep device folder) none

/-- The notes of a run. -/
def notesOf (device folder : String) (es : List PeerMessage) : List Note :=
  es.flatMap (PeerMessage.notes device folder)

omit [Guava] [FilenameUtils] [Protobuf IndexSerializationProtos.Blocks] in
/-- Announcements make of an index info what their notes do. -/
theorem foldl_announceTo (as : List Announcement) (stored : Option IndexInfo) :
    as.foldl (announceTo device folder) stored =
      (as.filterMap (Announcement.note device folder)).foldl (noteStep device folder) stored := by
  rw [List.foldl_filterMap]
  congr 1
  funext stored a
  by_cases hk : a.deviceId = device ∧ a.folder = folder
  · rw [announceTo, Announcement.note, if_pos hk, if_pos hk]
    rfl
  · rw [announceTo, Announcement.note, if_neg hk, if_neg hk]

/-- What an index message leaves. -/
theorem process_index (ht : h.IndexTable) (hne : h.folderInfoByFolder.find "" = none)
    (peerDeviceId : String) (cluster : ClusterConfigInfo) (faults : ℕ → Fault)
    (message : IndexUpdate) :
    (after (PeerMessage.index peerDeviceId cluster faults message).process h).IndexTable ∧
      (after (PeerMessage.index peerDeviceId cluster faults message).process
        h).folderInfoByFolder.find "" = none ∧
      (after (PeerMessage.index peerDeviceId cluster faults message).process
        h).indexRepository.temporaryData = h.indexRepository.temporaryData ∧
      ∀ device folder,
        (after (PeerMessage.index peerDeviceId cluster faults message).process h).indexInfoOf
            device folder =
          ((PeerMessage.index peerDeviceId cluster faults message).notes device folder).foldl
            (noteStep device folder) (h.indexInfoOf device folder) := by
  have hframe := frame_processed message.folder (withFaults faults message.files) h
  have hchange := doHandle_change faults message ht cluster peerDeviceId
  rw [PeerMessage.process, after_run]
  refine ⟨hchange.indexTable, ?_, hchange.same.temporaryData.trans hframe.temporaryData,
    fun device folder => ?_⟩
  · have hsame := hchange.same.folderInfoByFolder.trans hframe.folderInfoByFolder
    rw [hsame]
    exact hne
  · by_cases hk : peerDeviceId = device ∧ message.folder = folder
    · obtain ⟨rfl, rfl⟩ := hk
      rw [PeerMessage.notes, if_pos ⟨rfl, rfl⟩]
      exact hchange.indexInfoOf_self
    · rw [PeerMessage.notes, if_neg hk, List.foldl_nil, ← hframe.indexInfoOf]
      refine hchange.indexInfoOf_of_ne device folder fun h' => hk ?_
      cases h'
      exact ⟨rfl, rfl⟩

/-- The rows an index message leaves are those its record loop does. -/
theorem fileInfo_process_index (ht : h.IndexTable) (peerDeviceId : String)
    (cluster : ClusterConfigInfo) (faults : ℕ → Fault) (message : IndexUpdate) :
    (after (PeerMessage.index peerDeviceId cluster faults message).process
        h).indexRepository.fileInfo =
      (processed message.folder (withFaults faults message.files) h).indexRepository.fileInfo := by
  have hchange := doHandle_change faults message ht cluster peerDeviceId
  rw [PeerMessage.process, after_run]
  exact hchange.same.fileInfo

/-- The handler's index info is what the notes of a run leave. -/
structure Noted (es : List PeerMessage) (h : IndexHandler) : Prop where
  indexTable : h.IndexTable
  noEmpty : h.folderInfoByFolder.find "" = none
  temporaryData : h.indexRepository.temporaryData.isSome = true
  indexInfoOf : ∀ device folder,
    h.indexInfoOf device folder = storedBy device folder (notesOf device folder es)

omit [Protobuf IndexSerializationProtos.Blocks] in
/-- Nothing is noted of a new handler. -/
theorem noted_start (hfresh : h.indexRepository = SqlRepository.fresh)
    (hne : h.folderInfoByFolder.find "" = none) : Noted [] h where
  indexTable := by
    unfold IndexHandler.IndexTable
    rw [hfresh]
    exact ⟨fun _ _ h' => by simp [SqlRepository.fresh] at h',
      fun _ _ _ h' => by simp [SqlRepository.fresh] at h'⟩
  noEmpty := hne
  temporaryData := by
    rw [hfresh]
    rfl
  indexInfoOf device folder := by
    rw [IndexHandler.indexInfoOf, hfresh]
    exact Table.find_empty _

/-- **Processing a message adds its notes.** -/
theorem Noted.step {es : List PeerMessage} (hn : Noted es h) (message : PeerMessage) :
    Noted (es ++ [message]) (after message.process h) := by
  have hmessage : (after message.process h).IndexTable ∧
      (after message.process h).folderInfoByFolder.find "" = none ∧
      (after message.process h).indexRepository.temporaryData =
        h.indexRepository.temporaryData ∧
      ∀ device folder, (after message.process h).indexInfoOf device folder =
        (message.notes device folder).foldl (noteStep device folder)
          (h.indexInfoOf device folder) := by
    cases message with
    | clusterConfig message =>
      have hann := handleClusterConfig_announced hn.indexTable hn.noEmpty message
      refine ⟨hann.indexTable, hann.noEmpty, hann.temporaryData, fun device folder => ?_⟩
      rw [PeerMessage.notes, ← foldl_announceTo]
      exact hann.indexInfoOf device folder
    | index peerDeviceId cluster faults message =>
      exact process_index hn.indexTable hn.noEmpty peerDeviceId cluster faults message
  obtain ⟨ht, hne, htemporary, hinfo⟩ := hmessage
  refine ⟨ht, hne, htemporary ▸ hn.temporaryData, fun device folder => ?_⟩
  rw [hinfo, hn.indexInfoOf, storedBy, storedBy, notesOf, notesOf, List.flatMap_append,
    List.flatMap_singleton, List.foldl_append]

/-- **The stored index info is what the notes leave**, in every run. -/
theorem noted_of_run {ok : List PeerMessage → IndexHandler → PeerMessage → Prop}
    {es : List PeerMessage} (hrun : messages.Run ok es h) : Noted es h := by
  refine hrun.invariant (fun h hs => noted_start hs.1 hs.2) fun es h message h' _ hn _ hstep => ?_
  rw [show h' = after message.process h from hstep]
  exact hn.step message

end Messages

/-! ## A sample device -/

section Sample

attribute [local instance] Sample.guava Sample.filenameUtils Sample.protobuf

/-- The device whose certificate hash is zero. -/
def sampleDevice : String := "AAAAAAA-AAAAAAA-AAAAAAA-AAAAAAA-AAAAAAA-AAAAAAA-AAAAAAA-AAAAAAA"

/-- The device announces an index of a folder. -/
def sampleAnnouncement (indexId maxSequence : ℤ) : PeerMessage :=
  .clusterConfig ⟨[⟨"default", "", [⟨Sample.zeroHash, some indexId, some maxSequence⟩]⟩]⟩

/-- The sample's device id is that of a hash of zeros. -/
theorem hashDataToDeviceIdString_zero :
    KeystoreHandler.hashDataToDeviceIdString Sample.zeroHash = .ok sampleDevice := by
  decide +kernel

/-- The sample's announcement is one note. -/
theorem notes_sampleAnnouncement (indexId maxSequence : ℤ) :
    (sampleAnnouncement indexId maxSequence).notes sampleDevice "default" =
      [.announced indexId maxSequence] := by
  have hann : announcements ⟨[⟨"default", "", [⟨Sample.zeroHash, some indexId,
      some maxSequence⟩]⟩]⟩ = [⟨sampleDevice, "default", indexId, maxSequence⟩] := by
    simp [announcements, clusterSteps, wellFormed, List.filterMap, announcement,
      hashDataToDeviceIdString_zero, List.takeWhile, Except.isOk, Except.toBool]
  rw [sampleAnnouncement, PeerMessage.notes, hann]
  rfl

end Sample

end Bep

end ASync
