import ASync.Bep.Helpers.Messages
import ASync.Bep.Model.BlockExchangeConnectionHandler
import ASync.Bep.Model.IndexMessageProcessor
/-!
# How an index message ends

The record loop never throws, and what follows it looks an index info up,
writes it, and posts events. One line of it divides by the number of
records, so a message without records throws there, after the counters of
the queue moved and before anyone is told (`completes_iff`).
-/

namespace ASync

namespace Bep

open ASync.Core Repository BlockExchageProtos Effect

section Completion

variable [FilenameUtils] {h h' h'' : IndexHandler} {fault : Fault} {folder : String}
variable {fileInfo : BlockExchageProtos.FileInfo} {info : IndexInfo}
variable {message : IndexUpdate} {cluster : ClusterConfigInfo} {peerDeviceId : String}

/-! ## Looking up an index info -/

/-- The index info a lookup answers: the cached entry, else the row. -/
def IndexHandler.found (h : IndexHandler) (device folder : String) : Option IndexInfo :=
  (h.indexRepository.indexInfoByDeviceIdAndFolder.find (device, folder)).getD
    (h.indexRepository.folderIndexInfo.find (folder, device))

/-- Every shared folder's index info is found, and complete. -/
def IndexHandler.aquired (h : IndexHandler) (cluster : ClusterConfigInfo) (peerDeviceId : String) :
    Bool :=
  cluster.sharedFolders.all fun folder => (h.found peerDeviceId folder).any
    fun info => decide (info.maxSequence ≤ info.localSequence)

/-- What the lookups of a call leave alone. -/
structure LookupFrame (h h' : IndexHandler) : Prop where
  found : ∀ device folder, h'.found device folder = h.found device folder
  queuedRecords : h'.queuedRecords = h.queuedRecords
  events : h'.events = h.events
  notified : h'.notified = h.notified

theorem LookupFrame.refl (h : IndexHandler) : LookupFrame h h := ⟨fun _ _ => rfl, rfl, rfl, rfl⟩

theorem LookupFrame.trans (h₁ : LookupFrame h h') (h₂ : LookupFrame h' h'') : LookupFrame h h'' :=
  ⟨fun device folder => (h₂.found device folder).trans (h₁.found device folder),
    h₂.queuedRecords.trans h₁.queuedRecords, h₂.events.trans h₁.events,
    h₂.notified.trans h₁.notified⟩

theorem LookupFrame.aquired (hf : LookupFrame h h') (cluster : ClusterConfigInfo)
    (peerDeviceId : String) : h'.aquired cluster peerDeviceId = h.aquired cluster peerDeviceId := by
  rw [IndexHandler.aquired, IndexHandler.aquired]
  simp only [hf.found]

/-- **A lookup answers the index info found**, whatever cache and table
hold, and answers it again. -/
theorem run_lookup (h : IndexHandler) (device folder : String) :
    ∃ h', (repository (findIndexInfoByDeviceAndFolder device folder)).run h =
        .ok (h.found device folder) h' ∧ LookupFrame h h' := by
  rcases run_lookup_cases h device folder with ⟨entry, hentry, hrun⟩ | ⟨hnone, hrun⟩
  · have hfound : h.found device folder = entry := by
      rw [IndexHandler.found, hentry, Option.getD_some]
    rw [hfound]
    exact ⟨h, hrun, .refl h⟩
  · have hfound : h.found device folder = h.indexInfoOf device folder := by
      rw [IndexHandler.found, hnone, Option.getD_none, IndexHandler.indexInfoOf]
    rw [hfound]
    refine ⟨_, hrun, fun device' folder' => ?_, rfl, rfl, rfl⟩
    -- what is cached now was found before
    rw [IndexHandler.found, Table.find_merge]
    split
    · next hkey =>
      obtain ⟨rfl, rfl⟩ := Prod.mk.inj hkey
      exact hfound.symm
    · rfl

/-- A local sequence is noted where an index info is found. -/
theorem run_noteSequence (hinfo : h.found peerDeviceId folder = some info) (sequence : ℤ) :
    ∃ newInfo h', (updateIndexInfo folder peerDeviceId none none (some sequence)).run h =
        .ok newInfo h' ∧ h'.queuedRecords = h.queuedRecords ∧ h'.events = h.events ∧
      h'.notified = h.notified := by
  obtain ⟨h₁, hfind, hframe⟩ := run_lookup h peerDeviceId folder
  rw [hinfo] at hfind
  rw [updateIndexInfo, run_bind_of_ok hfind]
  by_cases hchanged : (changeIndexInfo info none none (some sequence)).2 = true
  · simp only [hchanged, if_true]
    exact ⟨_, _, rfl, hframe.queuedRecords, hframe.events, hframe.notified⟩
  · simp only [hchanged]
    exact ⟨_, h₁, rfl, hframe.queuedRecords, hframe.events, hframe.notified⟩

/-- **Whether the index is aquired** is answered in any state. -/
theorem run_aquired (h : IndexHandler) (cluster : ClusterConfigInfo) (peerDeviceId : String) :
    ∃ h', (isRemoteIndexAquired cluster peerDeviceId).run h =
        .ok (h.aquired cluster peerDeviceId) h' ∧ LookupFrame h h' := by
  refine run_aquired_of_lookups (fun folder h₁ hframe => ?_) (LookupFrame.refl h) cluster
  obtain ⟨h₂, hfind, hframe₂⟩ := run_lookup h₁ peerDeviceId folder
  rw [hframe.found] at hfind
  exact ⟨h₂, hfind, hframe.trans hframe₂⟩

theorem result_aquired (h : IndexHandler) (cluster : ClusterConfigInfo) (peerDeviceId : String) :
    result (isRemoteIndexAquired cluster peerDeviceId) h =
      some (h.aquired cluster peerDeviceId) := by
  obtain ⟨h', hrun, _⟩ := run_aquired h cluster peerDeviceId
  exact result_of_ok hrun

/-! ## The end of a message -/

theorem run_postIf (c : Bool) (event : IndexEvent) (h : IndexHandler) :
    (postIf c event).run h = .ok () { h with events := h.events ++ if c then [event] else [] } := by
  cases c with
  | false =>
    rw [if_neg Bool.false_ne_true, List.append_nil]
    rfl
  | true => rfl

/-- **A message with records ends as it should.** -/
theorem run_finishMessage (cluster : ClusterConfigInfo)
    (hinfo : h.found peerDeviceId folder = some info) {filesCount : ℕ}
    (hcount : filesCount ≠ 0) (newRecords : List Core.FileInfo) (sequence : ℤ) :
    ∃ newInfo h', (finishMessage cluster peerDeviceId folder filesCount newRecords sequence).run h =
        .ok () h' ∧
      h'.queuedRecords = h.queuedRecords - filesCount ∧ h'.notified = h.notified + 1 ∧
      h'.events = h.events ++
        (if newRecords = [] then [] else [.indexRecordAquired folder newRecords newInfo]) ++
        (if h'.aquired cluster peerDeviceId then [.fullIndexAquired folder] else []) := by
  obtain ⟨newInfo, h₁, hupdate, hqueued, hevents, hnotified⟩ := run_noteSequence hinfo sequence
  let h₂ : IndexHandler := { h₁ with queuedRecords := h₁.queuedRecords - filesCount }
  let h₃ : IndexHandler := { h₂ with
    events := h₂.events ++
      if !newRecords.isEmpty then [.indexRecordAquired folder newRecords newInfo] else [] }
  obtain ⟨h₄, haquired, hframe⟩ := run_aquired h₃ cluster peerDeviceId
  have hcounted : (modify fun h : IndexHandler => { h with
      queuedRecords := h.queuedRecords - filesCount } : HandlerM PUnit).run h₁ = .ok () h₂ := rfl
  have hdivide : divide h₂.queuedRecords filesCount = .ok (h₂.queuedRecords.tdiv filesCount) := by
    rw [divide, if_neg (by exact_mod_cast hcount)]
  refine ⟨newInfo, { h₄ with
    events := h₄.events ++
      if h₃.aquired cluster peerDeviceId then [.fullIndexAquired folder] else []
    notified := h₄.notified + 1 }, ?_, ?_, ?_, ?_⟩
  · rw [finishMessage, run_bind_of_ok hupdate, run_bind_of_ok hcounted, run_get_bind,
      run_bind_of_ok (run_ofExcept_of_ok hdivide _), run_bind_of_ok (run_postIf _ _ _),
      run_bind_of_ok haquired, run_bind_of_ok (run_postIf _ _ _)]
    rfl
  · show h₄.queuedRecords = _
    rw [hframe.queuedRecords]
    exact congrArg (· - (filesCount : ℤ)) hqueued
  · show h₄.notified + 1 = _
    rw [hframe.notified]
    exact congrArg (· + 1) hnotified
  · show h₄.events ++ (if h₃.aquired cluster peerDeviceId then _ else _) = h.events ++ _ ++
      if h₄.aquired cluster peerDeviceId then _ else _
    rw [hframe.events, hframe.aquired]
    show (h₁.events ++ _) ++ _ = _
    rw [hevents]
    cases newRecords with
    | nil => rfl
    | cons record newRecords => rfl

/-- A message without records throws once the counter moved. -/
theorem run_finishMessage_zero (cluster : ClusterConfigInfo)
    (hinfo : h.found peerDeviceId folder = some info)
    (newRecords : List Core.FileInfo) (sequence : ℤ) :
    ∃ h', (finishMessage cluster peerDeviceId folder 0 newRecords sequence).run h =
        .error .arithmetic h' ∧ h'.notified = h.notified ∧ h'.events = h.events := by
  obtain ⟨newInfo, h₁, hupdate, hqueued, hevents, hnotified⟩ := run_noteSequence hinfo sequence
  rw [finishMessage, run_bind_of_ok hupdate]
  exact ⟨_, rfl, hnotified, hevents⟩

/-! ## The message -/

section Message

variable [Guava] [Protobuf IndexSerializationProtos.Blocks]

/-- A turn of the record loop posts its own events only, and leaves the
lookups and the counters. -/
structure TurnFrame (h h' : IndexHandler) : Prop where
  found : ∀ device folder, h'.found device folder = h.found device folder
  queuedRecords : h'.queuedRecords = h.queuedRecords
  notified : h'.notified = h.notified

omit [Guava] [Protobuf IndexSerializationProtos.Blocks] in
theorem RecordFrame.found (hf : RecordFrame h h') (device folder : String) :
    h'.found device folder = h.found device folder := by
  rw [IndexHandler.found, hf.folderIndexInfo, hf.indexInfoCache, IndexHandler.found]

theorem Processed.turnFrame (hp : Processed fault folder fileInfo h h') : TurnFrame h h' := by
  refine ⟨hp.frame.found, ?_, ?_⟩
  · cases hp with
    | _ => rfl
  · cases hp with
    | _ => rfl

theorem turnFrame_processed (folder : String)
    (records : List (BlockExchageProtos.FileInfo × Fault)) (h : IndexHandler) :
    TurnFrame h (processed folder records h) := by
  induction records generalizing h with
  | nil => exact ⟨fun _ _ => rfl, rfl, rfl⟩
  | cons r records ih =>
    rw [processed_cons]
    have hturn := (processRecord_after r.2 folder r.1 h).2.turnFrame
    have hrest := ih (after (processRecord r.2 folder r.1) h)
    exact ⟨fun device folder => (hrest.found device folder).trans (hturn.found device folder),
      hrest.queuedRecords.trans hturn.queuedRecords, hrest.notified.trans hturn.notified⟩

variable {faults : ℕ → Fault}

/-- **A message processed to its end**: it returns, takes from the counter
of the queue what queuing it added, wakes those who wait, and posts the
records accepted, if any, and the full index, if it is aquired then. -/
structure Completed (faults : ℕ → Fault) (message : IndexUpdate) (cluster : ClusterConfigInfo)
    (peerDeviceId : String) (h h' : IndexHandler) : Prop where
  returns : (doHandleIndexMessageReceivedEvent faults message cluster peerDeviceId).run h =
    .ok () h'
  queuedRecords : (after (countMessage message) h').queuedRecords = h.queuedRecords
  notified : h'.notified = h.notified + 1
  events : ∃ newIndexInfo aquired,
    result (isRemoteIndexAquired cluster peerDeviceId) h' = some aquired ∧
    h'.events = (processed message.folder (withFaults faults message.files) h).events ++
      (if acceptedRecords message.folder (withFaults faults message.files) h = [] then []
        else [.indexRecordAquired message.folder
          (acceptedRecords message.folder (withFaults faults message.files) h) newIndexInfo]) ++
      if aquired then [.fullIndexAquired message.folder] else []

/-- **An index message is processed to its end exactly when it has a
record**, whatever becomes of the records: where an index info is found
for it, one with none throws in the log line that divides by their
number. -/
theorem completes_iff (faults : ℕ → Fault) (message : IndexUpdate) (cluster : ClusterConfigInfo)
    (peerDeviceId : String) {h : IndexHandler} {info : IndexInfo}
    (hinfo : h.found peerDeviceId message.folder = some info) :
    (∃ h', Completed faults message cluster peerDeviceId h h') ↔ message.files ≠ [] := by
  have hloop := run_processRecords message.folder (withFaults faults message.files) []
    (-1) h
  have hframe := turnFrame_processed message.folder (withFaults faults message.files) h
  have hfound := (hframe.found peerDeviceId message.folder).trans hinfo
  constructor
  · rintro ⟨h', hcompleted⟩ hempty
    have hreturns := hcompleted.returns
    obtain ⟨h₁, hrun, _⟩ := run_finishMessage_zero cluster hfound
      ([] ++ acceptedRecords message.folder (withFaults faults message.files) h)
      (maxSequence ((withFaults faults message.files).map Prod.fst) (-1))
    rw [doHandleIndexMessageReceivedEvent, run_bind_of_ok hloop] at hreturns
    simp only [hempty, List.length_nil] at hreturns hrun
    rw [hrun] at hreturns
    cases hreturns
  · intro hfiles
    obtain ⟨newInfo, h', hrun, hqueued, hnotified, hevents⟩ := run_finishMessage cluster
      hfound (List.length_pos_of_ne_nil hfiles).ne'
      ([] ++ acceptedRecords message.folder (withFaults faults message.files) h)
      (maxSequence ((withFaults faults message.files).map Prod.fst) (-1))
    refine ⟨h', ?_, ?_, ?_, newInfo, _, result_aquired h' cluster peerDeviceId, hevents⟩
    · rw [doHandleIndexMessageReceivedEvent, run_bind_of_ok hloop]
      exact hrun
    · show h'.queuedRecords + message.files.length = h.queuedRecords
      have hloopQueued := hframe.queuedRecords
      omega
    · exact hnotified.trans (congrArg (· + 1) hframe.notified)

end Message

end Completion

section Sample

attribute [local instance] Sample.guava Sample.filenameUtils Sample.protobuf

/-- A directory record, the last of its index. -/
def sampleFifth : BlockExchageProtos.FileInfo :=
  { name := "d", type := .DIRECTORY, version := some [⟨1, 1⟩], sequence := 5 }

/-- A message of one record. -/
theorem completes_iff_sample :
    ∃ h info, messages.Reaches [sampleAnnouncement 1 5] h ∧
      h.found sampleDevice "default" = some info ∧
      ((∃ h', Completed (fun _ => none) ⟨"default", [sampleFifth]⟩ ⟨["default"]⟩ sampleDevice
        h h') ↔ [sampleFifth] ≠ []) := by
  have h₀ : messages.Reaches [] IndexHandler.fresh := .start ⟨rfl, rfl⟩
  have h₁ := h₀.step (e := sampleAnnouncement 1 5) trivial rfl
  have hfound : ((after (sampleAnnouncement 1 5).process IndexHandler.fresh).found sampleDevice
      "default").isSome = true := by
    decide +kernel
  obtain ⟨info, hinfo⟩ := Option.isSome_iff_exists.1 hfound
  exact ⟨_, info, h₁, hinfo, completes_iff (fun _ => none) ⟨"default", [sampleFifth]⟩
    ⟨["default"]⟩ sampleDevice hinfo⟩

/-- **The empty index each side sends on connecting** throws, and nobody
is told. -/
theorem empty_index_throws :
    ∃ h info, messages.Reaches [sampleAnnouncement 1 5] h ∧
      h.found sampleDevice "default" = some info ∧
      result (doHandleIndexMessageReceivedEvent (fun _ => none)
        (BlockExchangeConnectionHandler.indexMessage "default") ⟨["default"]⟩ sampleDevice) h =
          none ∧
      ¬∃ h', Completed (fun _ => none) (BlockExchangeConnectionHandler.indexMessage "default")
        ⟨["default"]⟩ sampleDevice h h' := by
  have h₀ : messages.Reaches [] IndexHandler.fresh := .start ⟨rfl, rfl⟩
  have h₁ := h₀.step (e := sampleAnnouncement 1 5) trivial rfl
  have hfound : ((after (sampleAnnouncement 1 5).process IndexHandler.fresh).found sampleDevice
      "default").isSome = true := by
    decide +kernel
  have hthrows : (result (doHandleIndexMessageReceivedEvent (fun _ => none)
      (BlockExchangeConnectionHandler.indexMessage "default") ⟨["default"]⟩ sampleDevice)
        (after (sampleAnnouncement 1 5).process IndexHandler.fresh)).isNone = true := by
    decide +kernel
  obtain ⟨info, hinfo⟩ := Option.isSome_iff_exists.1 hfound
  refine ⟨_, info, h₁, hinfo, Option.isNone_iff_eq_none.1 hthrows, ?_⟩
  rintro ⟨h', hcompleted⟩
  rw [result_of_ok hcompleted.returns] at hthrows
  cases hthrows

end Sample

end Bep

end ASync
