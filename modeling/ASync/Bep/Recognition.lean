import ASync.Bep.BlockLayout
import ASync.Bep.Coherence
import ASync.Bep.Completion
import ASync.Bep.Versions
import ASync.Bep.Model.Recognition
/-!
# Uploads that know they are complete

An upload is complete once a peer's index repeats the record it sent. The
index handler looks at that record as at any other: it drops it where the
row of the path is as recent, where the statistics of the folder refuse
it, and it forgets it where the end of its message throws. The upload
then waits for ever. Where the record is accepted and its message ends,
`isCompleted` is set, whatever happens in between (`isCompleted_of_echo`).
-/

namespace ASync

namespace Bep

open ASync.Core Repository BlockExchageProtos Effect

section Recognition

variable [Guava] [FilenameUtils] [Protobuf IndexSerializationProtos.Blocks]
variable {source : DataSource} {folder path : String} {sent r : BlockExchageProtos.FileInfo}
variable {h : IndexHandler} {fault : Fault} {info : Core.FileInfo} {s s' : Recognition}
variable {es : List RecognitionEvent} {received : Received}

/-! ## The record sent, and its echo -/

/-- The record repeats the one sent: its name and type, its blocks, its
size and its modification time. -/
def Echoes (sent r : BlockExchageProtos.FileInfo) : Prop :=
  r.name = sent.name ∧ r.type = sent.type ∧ r.blocks = sent.blocks ∧ r.size = sent.size ∧
    r.modifiedS = sent.modifiedS ∧ r.modifiedNs = sent.modifiedNs

instance (sent r : BlockExchageProtos.FileInfo) : Decidable (Echoes sent r) :=
  inferInstanceAs (Decidable (_ ∧ _))

/-- The record is one `pushFile` sends for the source. -/
structure Describing (source : DataSource) (path : String) (sent : BlockExchageProtos.FileInfo) :
    Prop where
  name : sent.name = path
  type : sent.type = .FILE
  blocks : sent.blocks = source.getBlocks
  size : sent.size = source.getSize

omit [Protobuf IndexSerializationProtos.Blocks] in
/-- **What `pushFile` sends.** -/
theorem pushFile_eq_ok {p p' : BlockPusher} {now : ℤ} {fileInfo : Option Core.FileInfo}
    {update : IndexUpdate}
    (h : (BlockPusher.pushFile now source fileInfo folder path).run p = .ok update p')
    (hsent : sent ∈ update.files) : Describing source path sent := by
  obtain ⟨_, p₁, _, h⟩ := run_bind_eq_ok.1 h
  obtain ⟨_, p₂, _, h⟩ := run_bind_eq_ok.1 h
  obtain ⟨_, p₃, _, h⟩ := run_bind_eq_ok.1 h
  have hupdate := tryCatch_throw_eq_ok h
  obtain ⟨nextSequence, p₄, _, hupdate⟩ := run_bind_eq_ok.1 hupdate
  obtain ⟨_, p₅, _, hupdate⟩ := run_bind_eq_ok.1 hupdate
  obtain ⟨id, p₆, _, hupdate⟩ := run_bind_eq_ok.1 hupdate
  obtain ⟨_, p₇, _, hupdate⟩ := run_bind_eq_ok.1 hupdate
  cases hupdate
  cases List.mem_singleton.1 hsent
  exact ⟨rfl, rfl, rfl, rfl⟩

omit [FilenameUtils] [Protobuf IndexSerializationProtos.Blocks] in
/-- The size sent is the sum of the sizes of the blocks sent. -/
theorem Describing.size_eq_sum (hd : Describing source path sent) :
    sent.size = (sent.blocks.map (·.size)).sum := by
  have hlengths : ∀ reads : List Bytes,
      (reads.map fun block => (block.length : ℤ)).sum = reads.flatten.length := by
    intro reads
    induction reads with
    | nil => rfl
    | cons block reads ih =>
      rw [List.map_cons, List.sum_cons, ih, List.flatten_cons, List.length_append]
      push_cast
      rfl
  rw [hd.size, hd.blocks, DataSource.getSize_eq, DataSource.getBlocks_eq,
    DataSource.map_size_blocksFrom, hlengths,
    source.reads_flatten]

omit [Protobuf IndexSerializationProtos.Blocks] in
/-- **The listener knows an echo**: the hash of the source is that of the
record, by the same block hashes. -/
theorem isPushed_of_echo {blocks : Option FileBlocks} (hd : Describing source path sent)
    (hr : Echoes sent r) (hb : buildRecord folder r = .ok (some (info, blocks))) :
    FileUpload.isPushed source path info = true := by
  obtain ⟨hname, htype, hblocks, _⟩ := hr
  obtain ⟨_, hpath, _, _, _, hcases⟩ := buildRecord_eq_ok hb
  have hhash : info.hash = some source.getHash := by
    rcases hcases with ⟨hdir, _⟩ | ⟨_, _, _, hhash, _⟩
    · rw [htype, hd.type] at hdir
      cases hdir
    · rw [hhash, blockList, hblocks, hd.blocks]
      rfl
  exact decide_eq_true ⟨hpath.trans (hname.trans hd.name), hhash⟩

/-! ## The turn of a record -/

/-- The statements an update of a file executes succeed. The statistics
are not selected where they are cached. -/
def answers (fault : Fault) (s : SqlRepository) (folder : String) : Bool :=
  decide (fault = none) ||
    decide (fault = some .selectFolderStats) && (s.folderStatsByFolder.find folder).isSome

/-- **When a file's record is accepted**: it can be built and has a
version, it was modified after the row of its path, the statistics of its
folder pass their check with it, and the database answers. -/
def accepts (fault : Fault) (folder : String) (r : BlockExchageProtos.FileInfo)
    (h : IndexHandler) : Bool :=
  match buildRecord folder r with
  | .ok (some (info, _)) =>
    !info.versionList.isEmpty && decide (Newer h info) &&
      statsGuard (statsAfter h.indexRepository info) && answers fault h.indexRepository info.folder
  | _ => false

/-- Where the update of a file with its block list returns. -/
theorem updateFileInfo_returns_iff [LawfulBase16] {b : FileBlocks}
    (hcheck : checkBlocks info b = .ok ()) (hb : b.blocks = blockList r)
    (hfault : fault ≠ some .selectLastModified) (s : SqlRepository) :
    (∃ s', (updateFileInfo fault info (some b)).run s = .ok () s') ↔
      info.versionList.isEmpty = false ∧ statsGuard (statsAfter s info) = true ∧
        answers fault s info.folder = true := by
  obtain ⟨e, hrun⟩ := run_updateFileInfo s fault info (some b)
  have hstop : stopsBeforeWrites fault info (some b) =
      (info.versionList.isEmpty || decide (fault = some .getConnection) ||
        decide (fault = some .mergeFileBlocks)) := by
    simp only [stopsBeforeWrites, hcheck, encodeBlocks_isOk hb]
    rfl
  rw [hrun, hstop]
  unfold answers
  cases hversion : info.versionList.isEmpty with
  | true => simp
  | false =>
    cases fault with
    | none => by_cases hg : statsGuard (statsAfter s info) = true <;> simp [hg]
    | some statement =>
      cases statement with
      | selectLastModified => exact absurd rfl hfault
      | selectFolderStats =>
        by_cases hg : statsGuard (statsAfter s info) = true <;>
          cases s.folderStatsByFolder.find info.folder <;> simp [hg]
      | _ => simp

/-- A record that can be built is compared with the row of its path. -/
theorem run_pushRecord_of_build {blocks : Option FileBlocks}
    (hb : buildRecord folder r = .ok (some (info, blocks)))
    (hfault : fault ≠ some .selectLastModified) (h : IndexHandler) :
    (pushRecord fault folder r).run h =
      if Newer h info then
        (do repository (updateFileInfo fault info blocks)
            post (.indexChanged info.folder [info])
            return some info : HandlerM (Option Core.FileInfo)).run h
      else .ok none h := by
  have hpush : (pushRecord fault folder r).run h = (addRecord fault info blocks).run h := by
    rw [pushRecord, hb]
    rfl
  have hread := run_repository_findFileInfoLastModified h info.folder info.path hfault
  rw [hpush, addRecord, run_bind_of_ok hread]
  by_cases hnewer : Newer h info
  · rw [if_pos hnewer, if_neg (mt any_lastModified_iff.1 (not_not.2 hnewer))]
  · rw [if_neg hnewer, if_pos (any_lastModified_iff.2 hnewer)]
    rfl

/-- **A file's record is reported exactly when it is accepted.** -/
theorem returns_record_iff [LawfulBase16] {b : FileBlocks}
    (hb : buildRecord folder r = .ok (some (info, some b)))
    (hsize : r.size = (r.blocks.map (·.size)).sum) :
    result (pushRecord fault folder r) h = some (some info) ↔ accepts fault folder r h = true := by
  have hcheck := checkBlocks_of_build hb hsize
  obtain ⟨_, _, _, _, _, hcases⟩ := buildRecord_eq_ok hb
  rcases hcases with ⟨_, _, hnone⟩ | ⟨_, _, _, _, _, hb', _, _, hbb⟩
  · cases hnone
  cases hb'
  have haccepts : accepts fault folder r h = (!info.versionList.isEmpty && decide (Newer h info) &&
      statsGuard (statsAfter h.indexRepository info) &&
      answers fault h.indexRepository info.folder) := by
    rw [accepts, hb]
  rw [haccepts]
  by_cases hfault : fault = some .selectLastModified
  · have hnot : answers fault h.indexRepository info.folder = false := by
      rw [hfault]
      rfl
    have hrun : (pushRecord fault folder r).run h = .error (.runtime "SQLException") h := by
      rw [pushRecord, hb, hfault]
      rfl
    rw [hnot, Bool.and_false, result_of_error hrun]
    exact iff_of_false (fun heq => by cases heq) Bool.false_ne_true
  have hreturns := updateFileInfo_returns_iff hcheck hbb hfault h.indexRepository
  rw [result, run_pushRecord_of_build hb hfault]
  by_cases hnewer : Newer h info
  · rw [if_pos hnewer]
    cases hupdate : (updateFileInfo fault info (some b)).run h.indexRepository with
    | ok u t =>
      rw [hupdate] at hreturns
      rw [run_bind_of_ok (run_repository_of_ok hupdate)]
      obtain ⟨hversion, hstats, hanswers⟩ := hreturns.1 ⟨t, rfl⟩
      exact iff_of_true rfl (by simp [hversion, hnewer, hstats, hanswers])
    | error e t =>
      rw [hupdate] at hreturns
      rw [run_bind_of_error (run_repository_of_error hupdate)]
      refine iff_of_false (fun heq => by cases heq) fun hall => ?_
      simp only [Bool.and_eq_true, Bool.not_eq_true', decide_eq_true_eq] at hall
      obtain ⟨t', ht'⟩ := hreturns.2 ⟨hall.1.1.1, hall.1.2, hall.2⟩
      cases ht'
  · rw [if_neg hnewer]
    exact iff_of_false (fun heq => by cases heq) (by simp [hnewer])

/-! ## The end of a message -/

omit [Guava] [Protobuf IndexSerializationProtos.Blocks] in
/-- Without an index info nothing can be noted, and the message ends with
an exception. -/
theorem run_finishMessage_of_not_found (cluster : ClusterConfigInfo) {peerDeviceId : String}
    (hinfo : h.found peerDeviceId folder = none) (filesCount : ℕ)
    (newRecords : List Core.FileInfo) (sequence : ℤ) :
    ∃ e h', (finishMessage cluster peerDeviceId folder filesCount newRecords sequence).run h =
        .error e h' ∧ h'.events = h.events := by
  obtain ⟨h₁, hfind, hframe⟩ := run_lookup h peerDeviceId folder
  rw [hinfo] at hfind
  have hupdate : (updateIndexInfo folder peerDeviceId none none (some sequence)).run h =
      .error (.nullPointer (indexInfoNotFound folder peerDeviceId)) h₁ := by
    rw [updateIndexInfo, run_bind_of_ok hfind]
    rfl
  exact ⟨_, h₁, run_bind_of_error hupdate _, hframe.events⟩

omit [Guava] [Protobuf IndexSerializationProtos.Blocks] in
/-- The message in process after the turn of a record. -/
def Received.next (received : Received) (fileInfo : BlockExchageProtos.FileInfo)
    (remaining : List BlockExchageProtos.FileInfo) (newRecord : Option Core.FileInfo) : Received :=
  { received with
    processing := { received.processing with
      remaining
      newRecords := received.processing.newRecords ++ newRecord.toList
      sequence := max fileInfo.sequence received.processing.sequence } }

namespace Recognition

omit [Protobuf IndexSerializationProtos.Blocks] in
/-- **When the end of a message completes the upload**: the index info of
its sender is found, it has records, and one of those accepted is the
file. -/
theorem any_completes_finish (cluster : ClusterConfigInfo) (peerDeviceId folder' : String)
    (filesCount : ℕ) (newRecords : List Core.FileInfo) (sequence : ℤ) (h : IndexHandler) :
    ((after (Bep.run (finishMessage cluster peerDeviceId folder' filesCount newRecords sequence))
        h).events.drop h.events.length).any (completes source folder path) =
      ((h.found peerDeviceId folder').isSome && decide (filesCount ≠ 0) &&
        (decide (folder' = folder) && newRecords.any (FileUpload.isPushed source path))) := by
  have hfull : completes source folder path (.fullIndexAquired folder') = false := rfl
  rw [after_run]
  cases hinfo : h.found peerDeviceId folder' with
  | none =>
    obtain ⟨e, h', hrun, hevents⟩ := run_finishMessage_of_not_found cluster hinfo
      filesCount newRecords sequence
    show ((after (finishMessage cluster peerDeviceId folder' filesCount newRecords sequence)
      h).events.drop h.events.length).any _ = _
    rw [after_of_error hrun, hevents, List.drop_length]
    rfl
  | some info =>
    by_cases hcount : filesCount = 0
    · obtain ⟨h', hrun, _, hevents⟩ := run_finishMessage_zero cluster hinfo newRecords sequence
      subst hcount
      show ((after (finishMessage cluster peerDeviceId folder' 0 newRecords sequence)
        h).events.drop h.events.length).any _ = _
      rw [after_of_error hrun, hevents, List.drop_length]
      rfl
    · obtain ⟨newInfo, h', hrun, _, _, hevents⟩ := run_finishMessage cluster hinfo hcount
        newRecords sequence
      show ((after (finishMessage cluster peerDeviceId folder' filesCount newRecords sequence)
        h).events.drop h.events.length).any _ = _
      rw [after_of_ok hrun, hevents, List.append_assoc, List.drop_left, List.any_append]
      have hposted : (if newRecords = [] then []
          else [IndexEvent.indexRecordAquired folder' newRecords newInfo]).any
            (completes source folder path) =
          (decide (folder' = folder) && newRecords.any (FileUpload.isPushed source path)) := by
        by_cases hempty : newRecords = []
        · rw [if_pos hempty, hempty, List.any_nil, List.any_nil, Bool.and_false]
        · rw [if_neg hempty, List.any_cons, List.any_nil, Bool.or_false]
          rfl
      have hrest : (if h'.aquired cluster peerDeviceId = true then
          [IndexEvent.fullIndexAquired folder'] else []).any (completes source folder path) =
          false := by
        split
        · rw [List.any_cons, hfull]
          rfl
        · rfl
      rw [hposted, hrest]
      simp [hcount]

/-! ## Runs -/

/-- The upload is complete, or the message in process is of its folder and
has brought its record. -/
def recognised (source : DataSource) (folder path : String) (s : Recognition)
    (received : Received) : Bool :=
  s.isCompleted || decide (received.processing.message.folder = folder) &&
    received.processing.newRecords.any (FileUpload.isPushed source path)

/-- **The condition on a step**: an echo of the record sent is accepted at
its turn, and the end of a message with an echo finds the index info of
its sender, unless the upload is recognised without it. -/
def Passes (source : DataSource) (folder path : String) (sent : BlockExchageProtos.FileInfo)
    (s : Recognition) : RecognitionEvent → Prop
  | .push fault => ∀ received ∈ s.processing, ∀ r ∈ received.processing.remaining.head?,
    received.processing.message.folder = folder → Echoes sent r →
      s.recognised source folder path received = true ∨
        accepts fault folder r s.indexHandler = true
  | .finish => ∀ received ∈ s.processing, received.processing.message.folder = folder →
    (∃ r ∈ received.processing.message.files, Echoes sent r) →
      s.isCompleted = true ∨ (s.indexHandler.found received.peerDeviceId folder).isSome = true
  | _ => True

instance (e : RecognitionEvent) : Decidable (Passes source folder path sent s e) :=
  match e with
  | .push _ => inferInstanceAs (Decidable (∀ received ∈ s.processing, _))
  | .finish => inferInstanceAs (Decidable (∀ received ∈ s.processing, _))
  | .start .. => isTrue trivial
  | .clusterConfig _ => isTrue trivial
  | .pushRecord .. => isTrue trivial
  | .clearIndex _ => isTrue trivial

/-- What the runs keep: an echo in the message in process is still to come
or has been recognised, and a message processed with one has completed
the upload. -/
structure Watched (source : DataSource) (folder path : String)
    (sent : BlockExchageProtos.FileInfo) (s : Recognition) : Prop where
  processing : ∀ received, s.processing = some received →
    received.processing.message.folder = folder →
    ∀ r ∈ received.processing.message.files, Echoes sent r →
      r ∈ received.processing.remaining ∨ s.recognised source folder path received = true
  processed : ∀ message ∈ s.processed, message.folder = folder →
    (∃ r ∈ message.files, Echoes sent r) → s.isCompleted = true

omit [Protobuf IndexSerializationProtos.Blocks] in
/-- An upload that is complete stays so. -/
theorem isCompleted_call {α : Type} (m : HandlerM α) (h : s.isCompleted = true) :
    (s.call source folder path m).isCompleted = true := by
  show (s.isCompleted || _) = true
  rw [h, Bool.true_or]

omit [Protobuf IndexSerializationProtos.Blocks] in
theorem recognised_mono (hmono : s.isCompleted = true → s'.isCompleted = true)
    (h : s.recognised source folder path received = true) :
    s'.recognised source folder path received = true := by
  unfold recognised at h ⊢
  rcases Bool.or_eq_true_iff.1 h with hdone | hrecord
  · rw [hmono hdone, Bool.true_or]
  · rw [hrecord, Bool.or_true]

omit [Protobuf IndexSerializationProtos.Blocks] in
/-- A call of another thread. -/
theorem Watched.call {α : Type} (hw : Watched source folder path sent s) (m : HandlerM α) :
    Watched source folder path sent (s.call source folder path m) where
  processing received hreceived hfolder r hr hecho :=
    (hw.processing received hreceived hfolder r hr hecho).imp_right
      (recognised_mono (isCompleted_call m))
  processed message hmessage hfolder hecho :=
    isCompleted_call m (hw.processed message hmessage hfolder hecho)

/-- An echo accepted at its turn is what the turn returns. -/
theorem exists_of_accepts [LawfulBase16] (hd : Describing source path sent) (hr : Echoes sent r)
    (haccepts : accepts fault folder r h = true) :
    ∃ info, result (processRecord fault folder r) h = some (some info) ∧
      FileUpload.isPushed source path info = true := by
  have hbuild : ∃ info b, buildRecord folder r = .ok (some (info, some b)) := by
    cases hb : buildRecord folder r with
    | error e =>
      rw [accepts, hb] at haccepts
      cases haccepts
    | ok built =>
      cases built with
      | none =>
        rw [accepts, hb] at haccepts
        cases haccepts
      | some built =>
        obtain ⟨info, blocks⟩ := built
        obtain ⟨_, _, _, _, _, hcases⟩ := buildRecord_eq_ok hb
        rcases hcases with ⟨hdir, _⟩ | ⟨_, _, _, _, b, hb', _⟩
        · rw [hr.2.1, hd.type] at hdir
          cases hdir
        · exact ⟨info, b, by rw [hb']⟩
  obtain ⟨info, b, hb⟩ := hbuild
  have hsize : r.size = (r.blocks.map (·.size)).sum := by
    obtain ⟨_, _, hblocks, hsize, _⟩ := hr
    rw [hsize, hblocks]
    exact hd.size_eq_sum
  have hresult := (returns_record_iff hb hsize).2 haccepts
  refine ⟨info, ?_, isPushed_of_echo hd hr hb⟩
  rw [processRecord, result_of_ok (run_tryCatch_of_ok (run_eq_ok_after hresult))]

/-- What a turn does. -/
theorem pushNext_eq_some (h : s.pushNext source folder path fault = some s') :
    ∃ received fileInfo remaining, s.processing = some received ∧
      received.processing.remaining = fileInfo :: remaining ∧
      s' = { s.call source folder path
          (processRecord fault received.processing.message.folder fileInfo) with
        processing := some (Received.next received fileInfo remaining (result (processRecord fault
          received.processing.message.folder fileInfo) s.indexHandler).join) } := by
  unfold Recognition.pushNext at h
  split at h
  · cases h
  · next received hreceived =>
    dsimp only at h
    split at h
    · cases h
    · next fileInfo remaining hremaining =>
      exact ⟨received, fileInfo, remaining, hreceived, hremaining, (Option.some.inj h).symm⟩

omit [Protobuf IndexSerializationProtos.Blocks] in
/-- What the end of a message does. -/
theorem finish_eq_some (h : s.finish source folder path = some s') :
    ∃ received, s.processing = some received ∧ received.processing.remaining = [] ∧
      s' = { s.call source folder path (Bep.run (finishMessage received.clusterConfigInfo
            received.peerDeviceId received.processing.message.folder
            received.processing.message.files.length received.processing.newRecords
            received.processing.sequence)) with
        processing := none, processed := s.processed ++ [received.processing.message] } := by
  unfold Recognition.finish at h
  split at h
  · cases h
  · next received hreceived =>
    dsimp only at h
    split at h
    · cases h
    · next hremaining => exact ⟨received, hreceived, hremaining, (Option.some.inj h).symm⟩

omit [Protobuf IndexSerializationProtos.Blocks] in
/-- What a message has brought stays brought. -/
theorem recognised_next {fileInfo : BlockExchageProtos.FileInfo}
    {remaining : List BlockExchageProtos.FileInfo} (newRecord : Option Core.FileInfo)
    (hmono : s.isCompleted = true → s'.isCompleted = true)
    (h : s.recognised source folder path received = true) :
    s'.recognised source folder path (received.next fileInfo remaining newRecord) = true := by
  unfold recognised at h ⊢
  rcases Bool.or_eq_true_iff.1 h with hdone | hrecord
  · rw [hmono hdone, Bool.true_or]
  · obtain ⟨hfolder, hany⟩ := Bool.and_eq_true_iff.1 hrecord
    have hmore : (received.next fileInfo remaining newRecord).processing.newRecords.any
        (FileUpload.isPushed source path) = true := by
      show (received.processing.newRecords ++ newRecord.toList).any _ = true
      rw [List.any_append, hany, Bool.true_or]
    rw [hmore, show decide ((received.next fileInfo remaining
      newRecord).processing.message.folder = folder) = true from hfolder]
    exact Bool.or_true _

omit [Protobuf IndexSerializationProtos.Blocks] in
/-- The record of the file is one more. -/
theorem recognised_next_of_isPushed {fileInfo : BlockExchageProtos.FileInfo}
    {remaining : List BlockExchageProtos.FileInfo}
    (hfolder : received.processing.message.folder = folder)
    (hpushed : FileUpload.isPushed source path info = true) :
    s.recognised source folder path (received.next fileInfo remaining (some info)) = true := by
  have hany : (received.next fileInfo remaining (some info)).processing.newRecords.any
      (FileUpload.isPushed source path) = true := by
    show (received.processing.newRecords ++ [info]).any _ = true
    rw [List.any_append, List.any_cons, hpushed, Bool.true_or, Bool.or_true]
  unfold recognised
  rw [hany, show decide ((received.next fileInfo remaining
    (some info)).processing.message.folder = folder) = true from decide_eq_true hfolder]
  exact Bool.or_true _

/-- A turn of the record loop. -/
theorem Watched.pushNext [LawfulBase16] (hd : Describing source path sent)
    (hw : Watched source folder path sent s) (hok : Passes source folder path sent s (.push fault))
    (h : s.pushNext source folder path fault = some s') : Watched source folder path sent s' := by
  obtain ⟨received, fileInfo, remaining, hreceived, hremaining, rfl⟩ := pushNext_eq_some h
  have hmono : s.isCompleted = true → (s.call source folder path
      (processRecord fault received.processing.message.folder fileInfo)).isCompleted = true :=
    isCompleted_call _
  refine ⟨fun received' hreceived' hfolder r hr hecho => ?_, fun message hmessage hfolder hecho =>
    hmono (hw.processed message hmessage hfolder hecho)⟩
  obtain rfl := Option.some.inj hreceived'
  rcases hw.processing received hreceived hfolder r hr hecho with hmem | hrecognised
  · rw [hremaining] at hmem
    rcases List.mem_cons.1 hmem with rfl | hrest
    · -- the echo's own turn
      right
      have hhead : r ∈ received.processing.remaining.head? := by
        rw [hremaining]
        rfl
      rcases hok received hreceived r hhead hfolder hecho with hrecognised | haccepts
      · exact recognised_next _ hmono hrecognised
      · obtain ⟨info, hresult, hpushed⟩ := exists_of_accepts hd hecho haccepts
        have hfolder' : received.processing.message.folder = folder := hfolder
        rw [← hfolder'] at hresult
        rw [hresult]
        exact recognised_next_of_isPushed hfolder' hpushed
    · exact Or.inl hrest
  · exact Or.inr (recognised_next _ hmono hrecognised)

omit [Protobuf IndexSerializationProtos.Blocks] in
/-- The end of a message. -/
theorem Watched.finish (hw : Watched source folder path sent s)
    (hok : Passes source folder path sent s .finish)
    (h : s.finish source folder path = some s') : Watched source folder path sent s' := by
  obtain ⟨received, hreceived, hremaining, rfl⟩ := finish_eq_some h
  refine ⟨fun _ hnone => (nomatch hnone), fun message hmessage hfolder hecho => ?_⟩
  rcases List.mem_append.1 hmessage with hbefore | hlast
  · exact isCompleted_call _ (hw.processed message hbefore hfolder hecho)
  · obtain rfl := List.mem_singleton.1 hlast
    obtain ⟨r, hr, hrecho⟩ := hecho
    have hrecognised : s.recognised source folder path received = true := by
      rcases hw.processing received hreceived hfolder r hr hrecho with hmem | hrecognised
      · rw [hremaining] at hmem
        cases hmem
      · exact hrecognised
    have hfiles : received.processing.message.files.length ≠ 0 :=
      (List.length_pos_of_mem hr).ne'
    rcases hok received hreceived hfolder ⟨r, hr, hrecho⟩ with hdone | hfound
    · exact isCompleted_call _ hdone
    · rcases Bool.or_eq_true_iff.1 hrecognised with hdone | hbrought
      · exact isCompleted_call _ hdone
      · show (s.isCompleted || List.any _ (completes source folder path)) = true
        rw [any_completes_finish, hfolder, hfound, decide_eq_true hfiles]
        rw [hfolder] at hbrought
        rw [hbrought]
        exact Bool.or_true _

/-- Every step keeps the watch. -/
theorem Watched.step [LawfulBase16] {e : RecognitionEvent} (hd : Describing source path sent)
    (hw : Watched source folder path sent s) (hok : Passes source folder path sent s e)
    (h : s.step source folder path e = some s') : Watched source folder path sent s' := by
  cases e with
  | start peerDeviceId clusterConfigInfo message =>
    dsimp only [Recognition.step] at h
    split at h
    · cases h
    · obtain rfl := Option.some.inj h
      refine ⟨fun received hreceived hfolder r hr hecho => ?_, hw.processed⟩
      obtain rfl := Option.some.inj hreceived
      exact Or.inl hr
  | push fault => exact hw.pushNext hd hok h
  | finish => exact hw.finish hok h
  | clusterConfig message =>
    obtain rfl := Option.some.inj h
    exact hw.call _
  | pushRecord fault folder' fileInfo =>
    obtain rfl := Option.some.inj h
    exact hw.call _
  | clearIndex folders =>
    obtain rfl := Option.some.inj h
    exact hw.call _

end Recognition

/-- **An upload knows it is complete.** Whatever the index holds when
`pushFile` is called and whatever is received afterwards: as soon as an
index message of the folder with an echo of the record sent has been
processed, `isCompleted` is true, where each step met its condition. -/
theorem isCompleted_of_echo [LawfulBase16] {handler : IndexHandler} {p p' : BlockPusher} {now : ℤ}
    {fileInfo : Option Core.FileInfo} {update : IndexUpdate}
    (hpush : (BlockPusher.pushFile now source fileInfo folder path).run p = .ok update p')
    (hsent : sent ∈ update.files)
    (hrun : (recognitions handler source folder path).Run
      (fun _ s e => s.Passes source folder path sent e) es s) :
    ∀ message ∈ s.processed, message.folder = folder → (∃ r ∈ message.files, Echoes sent r) →
      s.isCompleted = true := by
  have hd := pushFile_eq_ok hpush hsent
  have hwatched : Recognition.Watched source folder path sent s := by
    refine hrun.invariant (I := fun _ s => Recognition.Watched source folder path sent s) ?_ ?_
    · rintro _ rfl
      exact ⟨fun _ hnone => (nomatch hnone), fun _ hmessage => (nomatch hmessage)⟩
    · intro _ s e s' _ hw hok hstep
      exact hw.step hd hok hstep
  exact hwatched.processed

/-! ## The listener as a thread of the upload -/

namespace FileUpload

variable {u : FileUpload} {i : ℕ}

omit [Protobuf IndexSerializationProtos.Blocks] in
theorem step_run_indexListener {newRecords : List Core.FileInfo} {notifying : Bool}
    (hthread : u.threads[i]? = some (.indexListener newRecords notifying)) :
    step source folder path u (.run i none) =
      listenerStep source path u i newRecords notifying := by
  show u.threads[i]?.bind _ = _
  rw [hthread]
  rfl

omit [Guava] [Protobuf IndexSerializationProtos.Blocks] in
theorem getElem?_setThread {thread thread' : UploadThread} (hthread : u.threads[i]? = some thread) :
    (u.setThread i thread').threads[i]? = some thread' :=
  List.getElem?_set_self (List.getElem?_eq_some_iff.1 hthread).1

omit [Protobuf IndexSerializationProtos.Blocks] in
/-- **What the listener does to the upload**: its thread, run to its end,
sets `isCompleted` where one of the records is the file. -/
theorem exists_run_indexListener (newRecords : List Core.FileInfo)
    (hthread : u.threads[i]? = some (.indexListener newRecords false)) :
    ∃ n u', (List.replicate n (UploadEvent.run i none)).foldlM (step source folder path) u =
        some u' ∧ u'.threads[i]? = some (.indexListener [] false) ∧
      u'.isCompleted = (u.isCompleted || newRecords.any (isPushed source path)) := by
  induction newRecords generalizing u with
  | nil => exact ⟨0, u, rfl, hthread, (Bool.or_false _).symm⟩
  | cons info newRecords ih =>
    by_cases hpushed : isPushed source path info = true
    · -- the flag is set in one step, and the waiting thread notified in the next
      let u₁ : FileUpload := { u.setThread i (.indexListener newRecords true) with
        isCompleted := true }
      have h₁ : step source folder path u (.run i none) = some u₁ := by
        rw [step_run_indexListener hthread, listenerStep, if_pos hpushed]
      have hthread₁ : u₁.threads[i]? = some (.indexListener newRecords true) :=
        getElem?_setThread hthread
      have h₂ : step source folder path u₁ (.run i none) =
          some (u₁.setThread i (.indexListener newRecords false)).notifyAll := by
        rw [step_run_indexListener hthread₁, listenerStep]
      obtain ⟨n, u', hrun, hend, hdone⟩ := ih
        (u := (u₁.setThread i (.indexListener newRecords false)).notifyAll)
        (getElem?_setThread hthread₁)
      refine ⟨n + 2, u', ?_, hend, ?_⟩
      · rw [List.replicate_succ, List.foldlM_cons, h₁, List.replicate_succ]
        show (List.foldlM _ u₁ _) = _
        rw [List.foldlM_cons, h₂]
        exact hrun
      · rw [hdone, List.any_cons, hpushed]
        exact (Bool.or_true u.isCompleted).symm
    · have h₁ : step source folder path u (.run i none) =
          some (u.setThread i (.indexListener newRecords false)) := by
        rw [step_run_indexListener hthread, listenerStep, if_neg hpushed]
      obtain ⟨n, u', hrun, hend, hdone⟩ := ih
        (u := u.setThread i (.indexListener newRecords false)) (getElem?_setThread hthread)
      refine ⟨n + 1, u', ?_, hend, ?_⟩
      · rw [List.replicate_succ, List.foldlM_cons, h₁]
        exact hrun
      · rw [hdone, List.any_cons, Bool.eq_false_iff.2 hpushed, Bool.false_or]
        rfl

end FileUpload

end Recognition

section Sample

attribute [local instance] Sample.guavaOfBlocks Sample.filenameUtils Sample.protobufOfAB
attribute [local instance] Sample.lawfulBase16OfBlocks

/-- What is sent when `ab` is pushed at the time 1000. -/
def Sample.pushedAB : BlockExchageProtos.FileInfo where
  name := "f"
  size := 2
  modifiedS := 1
  noPermissions := true
  sequence := 42
  version := some [⟨0, 42⟩]
  blocks := [⟨0, 2, Sample.digestOfAB⟩]

theorem Sample.pushFile_ab : result (BlockPusher.pushFile 1000 wholeSource none "default" "f")
    samplePusher = some ⟨"default", [Sample.pushedAB]⟩ := by
  decide +kernel

/-- A peer's index repeats the record. -/
def Sample.echo : List RecognitionEvent :=
  [.start sampleDevice ⟨["default"]⟩ ⟨"default", [Sample.pushedAB]⟩, .push none, .finish]

theorem isCompleted_of_echo_sample :
    ∃ s : Recognition, s.processed = [⟨"default", [Sample.pushedAB]⟩] ∧ s.isCompleted = true := by
  have hany : (Sample.echo.foldlM (fun s e =>
      if decide (Recognition.Passes wholeSource "default" "f" Sample.pushedAB s e) then
        Recognition.step wholeSource "default" "f" s e else none)
      ({ indexHandler := after (sampleAnnouncement 7 2).process IndexHandler.fresh } :
        Recognition)).any
        (fun s => decide (s.processed = [⟨"default", [Sample.pushedAB]⟩])) = true := by
    decide +kernel
  obtain ⟨s, hsteps, hlast⟩ := Machine.exists_run_of_any hany
  have hprocessed : s.processed = [⟨"default", [Sample.pushedAB]⟩] := of_decide_eq_true hlast
  have hrun : (recognitions (after (sampleAnnouncement 7 2).process IndexHandler.fresh) wholeSource
      "default" "f").Run (fun _ s e => s.Passes wholeSource "default" "f" Sample.pushedAB e)
      Sample.echo s :=
    hsteps.mono fun _ _ _ hok => of_decide_eq_true hok
  refine ⟨s, hprocessed, ?_⟩
  refine isCompleted_of_echo (run_eq_ok_after Sample.pushFile_ab) List.mem_cons_self hrun
    ⟨"default", [Sample.pushedAB]⟩ ?_ rfl ⟨Sample.pushedAB, List.mem_cons_self, by decide⟩
  rw [hprocessed]
  exact List.mem_cons_self

/-- Before the push, the peer announced its index, and an empty file at
the path with a time its own clock is ahead by. -/
def Sample.clockAhead : List PeerMessage :=
  [sampleAnnouncement 7 2, .index sampleDevice ⟨["default"]⟩ (fun _ => none)
    ⟨"default", [{ name := "f", modifiedS := 5, version := some [⟨1, 1⟩], sequence := 1 }]⟩]

/-- **An upload that waits for ever**: the peer's clock was ahead when it
wrote the file replaced, so the echo of the record sent is dropped. -/
theorem echo_is_dropped :
    ∃ handler s, messages.Reaches Sample.clockAhead handler ∧
      result (BlockPusher.pushFile 1000 wholeSource none "default" "f") samplePusher =
        some ⟨"default", [Sample.pushedAB]⟩ ∧
      (recognitions handler wholeSource "default" "f").Reaches Sample.echo s ∧
      s.processed = [⟨"default", [Sample.pushedAB]⟩] ∧ s.isCompleted = false := by
  have h₀ : messages.Reaches [] IndexHandler.fresh := .start ⟨rfl, rfl⟩
  have h₁ := h₀.step (e := sampleAnnouncement 7 2) trivial rfl
  have h₂ := h₁.step (e := .index sampleDevice ⟨["default"]⟩ (fun _ => none)
    ⟨"default", [{ name := "f", modifiedS := 5, version := some [⟨1, 1⟩], sequence := 1 }]⟩)
    trivial rfl
  have hany : (Sample.echo.foldlM (fun s e =>
      if (fun _ _ => true : Recognition → RecognitionEvent → Bool) s e then
        Recognition.step wholeSource "default" "f" s e else none)
      ({ indexHandler :=
        (Sample.clockAhead.foldl (fun h e => after e.process h) IndexHandler.fresh) } :
        Recognition)).any
        (fun s => decide (s.processed = [⟨"default", [Sample.pushedAB]⟩] ∧
          s.isCompleted = false)) = true := by
    decide +kernel
  obtain ⟨s, hsteps, hlast⟩ := Machine.exists_run_of_any hany
  obtain ⟨hprocessed, hwaits⟩ := of_decide_eq_true hlast
  exact ⟨_, s, h₂, Sample.pushFile_ab, hsteps.reaches,
    hprocessed, hwaits⟩

end Sample

end Bep

end ASync
