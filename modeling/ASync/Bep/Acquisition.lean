import ASync.Bep.Helpers.IndexMessageProcessor
import ASync.Bep.Helpers.Messages
/-!
# Whether the index is acquired in order

The stored sequence of a peer's folder should never pass a record that
waits. It does not as long as the pool runs the handlers of a folder's
messages in the order the messages came: the records handed to
`pushRecord` and those still waiting are then, in this order, the records
sent. The pool promises no order, and two handlers out of order make the
index look acquired while a record waits.
-/

namespace ASync

namespace Bep

open ASync.Core Repository BlockExchageProtos Effect

/-! ## What is handed and what waits -/

namespace Acquisition

variable [FilenameUtils] {folder : String}

/-- The records of a folder handed to `pushRecord`. -/
def handedOf (s : Acquisition) (folder : String) : List BlockExchageProtos.FileInfo :=
  s.handed.filterMap fun r => if r.1 = folder then some r.2 else none

/-- The records of a folder left in the message being processed. -/
def pendingOf (folder : String) : Option Processing → List BlockExchageProtos.FileInfo
  | some p => if p.message.folder = folder then p.remaining else []
  | none => []

/-- The records of a folder that wait, in the order they are processed;
`queued` are the messages of the tasks. -/
def waiting (s : Acquisition) (folder : String) (queued : List IndexUpdate) :
    List BlockExchageProtos.FileInfo :=
  pendingOf folder s.processing ++ recordsOf folder (queued ++ s.received ++ s.wire)

/-- A record of the folder was handed. -/
theorem mem_handedOf {s : Acquisition} {r : BlockExchageProtos.FileInfo} :
    r ∈ s.handedOf folder ↔ (folder, r) ∈ s.handed := by
  rw [handedOf, List.mem_filterMap]
  constructor
  · rintro ⟨⟨folder', r'⟩, hmem, hsome⟩
    split at hsome
    · next heq =>
      cases hsome
      rwa [← show folder' = folder from heq]
    · cases hsome
  · intro hmem
    exact ⟨(folder, r), hmem, if_pos rfl⟩

/-- The handlers run in the folder's order: the message whose handler runs
carries no record of the folder, or no message received before it does.
The key drawn is not in use. -/
def inOrder (folder : String) (s : Acquisition) : Turn → Bool
  | .dispatch position key =>
    decide (key ≠ "") && decide (s.handler.temporary key = none) &&
      ((recordsOf folder s.received[position]?.toList).isEmpty ||
        (recordsOf folder (s.received.take position)).isEmpty)
  | _ => true

end Acquisition

section Tracked

variable [FilenameUtils] [Protobuf IndexUpdate] {folder device : String} {h : IndexHandler}
variable {sent queued : List IndexUpdate} {message : IndexUpdate} {s s' : Acquisition}

/-- **The invariant of a connection in order.** -/
structure Tracked (device folder : String) (sent queued : List IndexUpdate) (s : Acquisition) :
    Prop where
  indexTable : s.handler.IndexTable
  temporaryData : s.handler.indexRepository.temporaryData.isSome = true
  /-- The messages on their way survive the temporary table. -/
  codec : ∀ message ∈ s.received ++ s.wire, parseFrom (toByteArray message) = some message
  /-- The tasks carry the messages queued, under keys of their own. -/
  carries : List.Forall₂ (Carries s.handler) s.queue queued
  keys : (s.queue.filterMap ProcessingRunnable.key).Nodup
  /-- No record is lost, doubled or overtaken. -/
  partition : s.handedOf folder ++ s.waiting folder queued = recordsOf folder sent
  /-- The sequence gathered is that of a record handed. -/
  sequence : ∀ p, s.processing = some p → p.message.folder = folder →
    p.sequence = -1 ∨ ∃ r ∈ s.handedOf folder, r.sequence = p.sequence
  /-- The sequence stored is below all that waits. -/
  below : ∀ info, s.handler.indexInfoOf device folder = some info →
    0 ≤ info.localSequence ∧ ∀ r ∈ s.waiting folder queued, info.localSequence < r.sequence

/-! ## One lemma a turn -/

/-- The reader only moves a message on. -/
theorem Tracked.receive (ht : Tracked device folder sent queued s) (h : s.receive = some s') :
    Tracked device folder sent queued s' := by
  rw [Acquisition.receive] at h
  split at h
  · cases h
  · next message wire hwire =>
    cases h
    have hwaiting : Acquisition.waiting { s with
        wire, received := s.received ++ [message] } folder queued = s.waiting folder queued := by
      simp only [Acquisition.waiting, hwire, List.append_assoc, List.singleton_append]
    have hcodec := ht.codec
    rw [hwire, List.append_cons] at hcodec
    exact ⟨ht.indexTable, ht.temporaryData, hcodec, ht.carries, ht.keys,
      by rw [hwaiting]; exact ht.partition, ht.sequence, by rw [hwaiting]; exact ht.below⟩

omit [FilenameUtils] [Protobuf IndexUpdate] in
/-- A handler that runs in order leaves the records in order. -/
theorem recordsOf_eraseIdx {received : List IndexUpdate} {position : ℕ}
    (hmessage : received[position]? = some message)
    (horder : recordsOf folder [message] = [] ∨ recordsOf folder (received.take position) = []) :
    recordsOf folder ([message] ++ received.eraseIdx position) = recordsOf folder received := by
  have hsplit : received = received.take position ++ [message] ++ received.drop (position + 1) := by
    obtain ⟨hlt, rfl⟩ := List.getElem?_eq_some_iff.1 hmessage
    simp
  rw [List.eraseIdx_eq_take_drop_succ, recordsOf_append, recordsOf_append]
  conv_rhs => rw [hsplit]
  rw [recordsOf_append, recordsOf_append]
  rcases horder with hnone | hnone
  · rw [hnone, List.nil_append, List.append_nil]
  · rw [hnone, List.nil_append, List.nil_append]

omit [Protobuf IndexUpdate] in
/-- What a handler that may run finds. -/
theorem order_of_inOrder {position : ℕ} {key : String}
    (hmessage : s.received[position]? = some message)
    (h : Acquisition.inOrder folder s (.dispatch position key) = true) :
    key ≠ "" ∧ s.handler.temporary key = none ∧ (recordsOf folder [message] = [] ∨
      recordsOf folder (s.received.take position) = []) := by
  simp only [Acquisition.inOrder, hmessage, Bool.and_eq_true, Bool.or_eq_true, decide_eq_true_eq,
    List.isEmpty_iff, Option.toList_some] at h
  exact ⟨h.1.1, h.1.2, h.2⟩

/-- **A handler that runs in order** moves its message to the end of the
queue, past messages without records only. -/
theorem Tracked.dispatch {position : ℕ} {key : String}
    (ht : Tracked device folder sent queued s) (hs : s.dispatch position key = some s')
    (hok : Acquisition.inOrder folder s (.dispatch position key) = true) :
    ∃ queued', Tracked device folder sent queued' s' := by
  rw [Acquisition.dispatch] at hs
  split at hs
  · cases hs
  · next message hmessage =>
    obtain ⟨hne, hfree, horder⟩ := order_of_inOrder hmessage hok
    obtain ⟨table, htable⟩ := Option.isSome_iff_exists.1 ht.temporaryData
    have hfind : table.find key = none := by
      rw [IndexHandler.temporary, htable] at hfree
      exact hfree
    obtain ⟨task, h', hrun, hframe, hcarries, htask, table', htable', hkeep⟩ :=
      run_handleIndexMessage htable hne hfind (ht.codec message
        (List.mem_append_left _ (List.mem_of_getElem? hmessage)))
    simp only [result_of_ok hrun, after_of_ok hrun, Option.toList_some] at hs
    cases hs
    have hnew := Carries.notMem_keys ht.carries hfree
    -- the tasks of the queue find their messages where they were
    have hold : ∀ other ∈ s.queue.filterMap ProcessingRunnable.key,
        h'.temporary other = s.handler.temporary other := by
      intro other hother
      have hdiff : other ≠ key := fun heq => hnew (heq ▸ hother)
      rw [IndexHandler.temporary, htable', IndexHandler.temporary, htable]
      exact hkeep other hdiff
    -- the message passes only such as have no record of the folder
    have hwaiting : Acquisition.waiting { s with
        received := s.received.eraseIdx position, handler := h', queue := s.queue ++ [task] }
          folder (queued ++ [message]) = s.waiting folder queued := by
      have hmoved := recordsOf_eraseIdx hmessage horder
      rw [recordsOf_append] at hmoved
      simp only [Acquisition.waiting, recordsOf_append, List.append_assoc]
      rw [← List.append_assoc (recordsOf folder [message]), hmoved]
    refine ⟨queued ++ [message], hframe.indexTable ht.indexTable, by rw [htable']; rfl, ?_, ?_, ?_,
      ?_, ht.sequence, ?_⟩
    · intro other hother
      refine ht.codec other ?_
      rcases List.mem_append.1 hother with hreceived | hwire
      · exact List.mem_append_left _ (List.mem_of_mem_eraseIdx hreceived)
      · exact List.mem_append_right _ hwire
    · exact List.rel_append (Carries.forall_mono ht.carries hold)
        (List.Forall₂.cons hcarries List.Forall₂.nil)
    · exact nodup_keys_append ht.keys hnew htask
    · rw [hwaiting]
      exact ht.partition
    · rw [hwaiting]
      intro info hinfo
      exact ht.below info ((hframe.indexInfoOf device folder).symm.trans hinfo)

/-- **The thread takes the first task**, and the message it carries. -/
theorem Tracked.start (ht : Tracked device folder sent queued s) (hs : s.start = some s') :
    ∃ queued', Tracked device folder sent queued' s' := by
  rw [Acquisition.start] at hs
  split at hs
  · next task queue hprocessing hqueue =>
    have hcarries := ht.carries
    have hkeys := ht.keys
    rw [hqueue] at hcarries hkeys
    obtain ⟨message, queued', hc, hrest, rfl⟩ := List.forall₂_cons_left_iff.1 hcarries
    obtain ⟨h', hrun, hframe, htable, hkeep⟩ := run_messageOf hc
    rw [result_of_ok hrun, after_of_ok hrun] at hs
    cases hs
    obtain ⟨hrestKeys, hother⟩ := nodup_keys_tail hkeys
    have hold : ∀ key ∈ queue.filterMap ProcessingRunnable.key,
        h'.temporary key = s.handler.temporary key := fun key hkey => hkeep key (hother key hkey)
    have hwaiting : Acquisition.waiting { s with
        queue, handler := h', processing := some ⟨message, message.files, [], -1⟩ }
          folder queued' = s.waiting folder (message :: queued') := by
      simp only [Acquisition.waiting, hprocessing, Acquisition.pendingOf, List.nil_append,
        List.cons_append]
      rw [← List.singleton_append (x := message), recordsOf_append folder [message],
        recordsOf_singleton]
    refine ⟨queued', hframe.indexTable ht.indexTable, htable.trans ht.temporaryData, ht.codec,
      Carries.forall_mono hrest hold, hrestKeys, ?_, ?_, ?_⟩
    · rw [hwaiting]
      exact ht.partition
    · intro p hp _
      cases hp
      exact Or.inl rfl
    · rw [hwaiting]
      intro info hinfo
      exact ht.below info ((hframe.indexInfoOf device folder).symm.trans hinfo)
  · cases hs

end Tracked

section Processing

variable [Guava] [FilenameUtils] [Protobuf IndexSerializationProtos.Blocks] [Protobuf IndexUpdate]
variable {folder device : String} {sent queued : List IndexUpdate} {s s' : Acquisition}
variable {cluster : ClusterConfigInfo}

/-- **A record is handed to `pushRecord`**: the first of those that wait,
if it is one of the folder. -/
theorem Tracked.push {fault : Fault} (ht : Tracked device folder sent queued s)
    (hs : s.push fault = some s') : Tracked device folder sent queued s' := by
  rw [Acquisition.push] at hs
  split at hs
  · cases hs
  · next p hp =>
    split at hs
    · cases hs
    · next fileInfo remaining hremaining =>
      cases hs
      have hframe := (processRecord_after fault p.message.folder fileInfo s.handler).2.frame
      have htemporary : ∀ key, (after (processRecord fault p.message.folder fileInfo)
          s.handler).temporary key = s.handler.temporary key := fun key => by
        rw [IndexHandler.temporary, hframe.temporaryData, IndexHandler.temporary]
      -- only a message of the folder moves a record of the folder
      have hmoved : ∀ (h' : IndexHandler) (p' : Processing), p'.message = p.message →
          p'.remaining = remaining →
          Acquisition.handedOf { s with
              handler := h', handed := s.handed ++ [(p.message.folder, fileInfo)]
              processing := some p' } folder ++
            Acquisition.waiting { s with
              handler := h', handed := s.handed ++ [(p.message.folder, fileInfo)]
              processing := some p' } folder queued =
          s.handedOf folder ++ s.waiting folder queued ∧
          Acquisition.waiting { s with
              handler := h', handed := s.handed ++ [(p.message.folder, fileInfo)]
              processing := some p' } folder queued ⊆ s.waiting folder queued := by
        intro h' p' hmessage hrest
        simp only [Acquisition.handedOf, Acquisition.waiting, Acquisition.pendingOf, hp,
          List.filterMap_append, hmessage, hrest, hremaining]
        by_cases hfolder : p.message.folder = folder
        · simp [hfolder]
        · simp [hfolder]
      obtain ⟨hpartition, hsubset⟩ := hmoved
        (after (processRecord fault p.message.folder fileInfo) s.handler)
        { p with
          remaining
          newRecords := p.newRecords ++ (result (processRecord fault p.message.folder fileInfo)
            s.handler).join.toList
          sequence := max fileInfo.sequence p.sequence } rfl rfl
      refine ⟨hframe.indexTable ht.indexTable, ?_, ht.codec,
        Carries.forall_mono ht.carries fun key _ => htemporary key, ht.keys,
          hpartition.trans ht.partition, ?_, ?_⟩
      · rw [hframe.temporaryData]
        exact ht.temporaryData
      · rintro p' hp' hfolder
        cases hp'
        rcases le_total fileInfo.sequence p.sequence with hle | hge
        · -- the greatest sequence so far stays, and its record was handed
          rcases ht.sequence p hp hfolder with hnone | ⟨r, hr, hsequence⟩
          · exact Or.inl ((max_eq_right hle).trans hnone)
          · refine Or.inr ⟨r, ?_, hsequence.trans (max_eq_right hle).symm⟩
            rw [Acquisition.mem_handedOf] at hr ⊢
            exact List.mem_append_left _ hr
        · refine Or.inr ⟨fileInfo, ?_, (max_eq_left hge).symm⟩
          rw [Acquisition.mem_handedOf, ← hfolder]
          exact List.mem_append_right _ List.mem_cons_self
      · intro info hinfo
        obtain ⟨hnonneg, hbelow⟩ :=
          ht.below info ((hframe.indexInfoOf device folder).symm.trans hinfo)
        exact ⟨hnonneg, fun r hr => hbelow r (hsubset hr)⟩

omit [Guava] [Protobuf IndexSerializationProtos.Blocks] in
/-- **A message ends**: its greatest sequence is stored, and everything
that waits lies above it. -/
theorem Tracked.finish (hincreasing : (recordsOf folder sent).Pairwise (·.sequence < ·.sequence))
    (ht : Tracked device folder sent queued s) (hs : s.finish cluster device = some s') :
    Tracked device folder sent queued s' := by
  rw [Acquisition.finish] at hs
  split at hs
  · cases hs
  · next p hp =>
    split at hs
    · cases hs
    · next hremaining =>
      cases hs
      have hchange := finishMessage_change ht.indexTable cluster device p.message.folder
        p.message.files.length p.newRecords p.sequence
      have htable := hchange.same.temporaryData
      rw [after_run]
      -- no record of the message remains to be stored
      have hpending : Acquisition.pendingOf folder s.processing = [] := by
        rw [hp, Acquisition.pendingOf, hremaining, ite_self]
      have hwaiting : s.waiting folder queued =
          recordsOf folder (queued ++ s.received ++ s.wire) := by
        rw [Acquisition.waiting, hpending, List.nil_append]
      have hpartition := ht.partition
      have hbelow := ht.below
      rw [hwaiting] at hpartition hbelow
      refine ⟨hchange.indexTable, htable ▸ ht.temporaryData, ht.codec,
        Carries.forall_mono ht.carries fun key _ =>
          congrArg (fun table : Option (Table String Bytes) =>
            table.bind fun t => t.find key) htable,
        ht.keys, hpartition, fun p' hp' => (by cases hp'), ?_⟩
      intro info hinfo
      by_cases hfolder : p.message.folder = folder
      · subst hfolder
        have hnext := hchange.indexInfoOf_self.symm.trans hinfo
        cases hstored : s.handler.indexInfoOf device p.message.folder with
        | none =>
          rw [hstored] at hnext
          cases hnext
        | some old =>
          rw [hstored, nextIndexInfo, changeIndexInfo_fst] at hnext
          cases hnext
          obtain ⟨hnonneg, hold⟩ := hbelow old hstored
          refine ⟨hnonneg.trans (le_max_left _ _), ?_⟩
          -- the greatest of the message lies below all that still waits
          intro r hr
          have hlt : p.sequence < r.sequence := by
            rcases ht.sequence p hp rfl with hnone | ⟨d, hd, hsequence⟩
            · have := hold r hr
              omega
            · rw [← hsequence]
              rw [← hpartition, List.pairwise_append] at hincreasing
              exact hincreasing.2.2 d hd r hr
          exact max_lt (hold r hr) hlt
      · have hother := hchange.indexInfoOf_of_ne device folder fun heq =>
          hfolder (Prod.mk.inj heq).1.symm
        exact hbelow info (hother.symm.trans hinfo)

/-- **One turn.** -/
theorem Tracked.step {turn : Turn}
    (hincreasing : (recordsOf folder sent).Pairwise (·.sequence < ·.sequence))
    (ht : Tracked device folder sent queued s)
    (hok : Acquisition.inOrder folder s turn = true) (hs : s.step cluster device turn = some s') :
    ∃ queued', Tracked device folder sent queued' s' := by
  cases turn with
  | receive => exact ⟨queued, ht.receive hs⟩
  | dispatch position key => exact ht.dispatch hs hok
  | start => exact ht.start hs
  | push fault => exact ⟨queued, ht.push hs⟩
  | finish => exact ⟨queued, ht.finish hincreasing hs⟩

/-! ## Whole runs -/

omit [Guava] [Protobuf IndexSerializationProtos.Blocks] [Protobuf IndexUpdate] in
/-- A handler as it is found when a connection starts. -/
structure Ready (h : IndexHandler) : Prop where
  indexTable : h.IndexTable
  temporaryData : h.indexRepository.temporaryData.isSome = true
  nonneg : ∀ device folder info, h.indexInfoOf device folder = some info → 0 ≤ info.localSequence

variable {h : IndexHandler} {turns : List Turn}

/-- The records of a connection are tracked in every run in order. -/
theorem tracked_of_run (hready : Ready h)
    (hcodec : ∀ message ∈ sent, parseFrom (toByteArray message) = some message)
    (hincreasing : (recordsOf folder sent).Pairwise (·.sequence < ·.sequence))
    (hnew : ∀ info, h.indexInfoOf device folder = some info →
      ∀ r ∈ recordsOf folder sent, info.localSequence < r.sequence)
    (hrun : (acquisition cluster device h sent).Run
      (fun _ s turn => Acquisition.inOrder folder s turn = true) turns s) :
    ∃ queued, Tracked device folder sent queued s := by
  refine hrun.invariant (I := fun _ s => ∃ queued, Tracked device folder sent queued s) ?_ ?_
  · rintro s rfl
    refine ⟨[], hready.indexTable, hready.temporaryData, hcodec, List.Forall₂.nil,
      List.nodup_nil, rfl,
      fun p hp => (by cases hp), ?_⟩
    intro info hinfo
    exact ⟨hready.nonneg device folder info hinfo, hnew info hinfo⟩
  · rintro turns s turn s' _ ⟨queued, ht⟩ hok hstep
    exact ht.step hincreasing hok hstep

omit [Guava] [Protobuf IndexSerializationProtos.Blocks] in
/-- Every record of the folder with a sequence up to the one stored was
handed to `pushRecord`. -/
theorem Tracked.handed (ht : Tracked device folder sent queued s) {info : IndexInfo}
    (hinfo : s.handler.indexInfoOf device folder = some info)
    {r : BlockExchageProtos.FileInfo} (hr : r ∈ recordsOf folder sent)
    (hle : r.sequence ≤ info.localSequence) : (folder, r) ∈ s.handed := by
  rw [← ht.partition] at hr
  rcases List.mem_append.1 hr with hhanded | hwaiting
  · exact Acquisition.mem_handedOf.1 hhanded
  · have hlt := (ht.below info hinfo).2 r hwaiting
    omega

/-! ## What is answered -/

omit [Guava] [Protobuf IndexSerializationProtos.Blocks] [Protobuf IndexUpdate] in
/-- **The index is acquired as stored.** The records of the folder up to
the sequence stored have been handed to `pushRecord`, so have those up to
the greatest announced once the index is taken for acquired, and those up
to the sequence the next connection advertises. -/
structure Sound (cluster : ClusterConfigInfo) (device folder : String) (sent : List IndexUpdate)
    (s : Acquisition) : Prop where
  stored : ∀ info, s.handler.indexInfoOf device folder = some info →
    ∀ r ∈ recordsOf folder sent, r.sequence ≤ info.localSequence → (folder, r) ∈ s.handed
  acquired : result (isRemoteIndexAquired cluster device) s.handler = some true →
    ∃ info, s.handler.indexInfoOf device folder = some info ∧
      ∀ r ∈ recordsOf folder sent, r.sequence ≤ info.maxSequence → (folder, r) ∈ s.handed
  advertised : ∀ id record sequence, result (otherDevice id device folder) s.handler = some record →
    record.maxSequence = some sequence →
    ∀ r ∈ recordsOf folder sent, r.sequence ≤ sequence → (folder, r) ∈ s.handed

omit [Guava] [Protobuf IndexSerializationProtos.Blocks] in
theorem Tracked.sound (ht : Tracked device folder sent queued s)
    (hshared : folder ∈ cluster.sharedFolders) : Sound cluster device folder sent s where
  stored info hinfo r hr hle := ht.handed hinfo hr hle
  acquired hacquired := by
    obtain ⟨h', hrun, _⟩ := run_isRemoteIndexAquired ht.indexTable cluster device
    rw [result_of_ok hrun, Option.some_inj, List.all_eq_true] at hacquired
    have hany := hacquired folder hshared
    cases hinfo : s.handler.indexInfoOf device folder with
    | none =>
      rw [hinfo] at hany
      cases hany
    | some info =>
      rw [hinfo, Option.any_some, decide_eq_true_eq] at hany
      exact ⟨info, rfl, fun r hr hle => ht.handed hinfo hr (hle.trans hany)⟩
  advertised id record sequence hrecord hsequence r hr hle := by
    obtain ⟨h', hrun, _⟩ := run_findIndexInfo device folder ht.indexTable
    cases hinfo : s.handler.indexInfoOf device folder with
    | none =>
      rw [hinfo] at hrun
      rw [otherDevice, result, run_bind_of_ok hrun] at hrecord
      cases hrecord
      cases hsequence
    | some info =>
      rw [hinfo] at hrun
      rw [otherDevice, result, run_bind_of_ok hrun] at hrecord
      cases hrecord
      cases hsequence
      exact ht.handed hinfo hr hle

/-- **Acquisition is sound when the handlers run in order**, in every
state a connection reaches: over it the peer sends records of increasing
sequences, above the one stored when the connection starts. -/
theorem acquisition_sound (hready : Ready h)
    (hcodec : ∀ message ∈ sent, parseFrom (toByteArray message) = some message)
    (hincreasing : (recordsOf folder sent).Pairwise (·.sequence < ·.sequence))
    (hnew : ∀ info, h.indexInfoOf device folder = some info →
      ∀ r ∈ recordsOf folder sent, info.localSequence < r.sequence)
    (hshared : folder ∈ cluster.sharedFolders)
    (hrun : (acquisition cluster device h sent).Run
      (fun _ s turn => Acquisition.inOrder folder s turn = true) turns s) :
    Sound cluster device folder sent s := by
  obtain ⟨queued, ht⟩ := tracked_of_run hready hcodec hincreasing hnew hrun
  exact ht.sound hshared

end Processing

/-! ## The turns of a task -/

section Turns

variable [Guava] [FilenameUtils] [Protobuf IndexSerializationProtos.Blocks] [Protobuf IndexUpdate]
variable {folder device : String} {s : Acquisition} {p : Processing} {h' : IndexHandler}
variable {cluster : ClusterConfigInfo} {records : List (BlockExchageProtos.FileInfo × Fault)}
variable {newRecords : List Core.FileInfo} {sequence : ℤ} {task : ProcessingRunnable}
variable {queue : List ProcessingRunnable}

/-- The turns of the processor's thread over a message it can have. -/
def turnsOf (faults : ℕ → Fault) (message : IndexUpdate) : List Turn :=
  Turn.start :: (withFaults faults message.files).map (fun r => Turn.push r.2) ++ [Turn.finish]

/-- The record loop, turn by turn. -/
theorem foldlM_push (cluster : ClusterConfigInfo) (device : String) (hp : s.processing = some p)
    (hremaining : p.remaining = records.map Prod.fst)
    (hrun : (processRecords p.message.folder records p.newRecords p.sequence).run s.handler =
      .ok (newRecords, sequence) h') :
    (records.map fun r => Turn.push r.2).foldlM (Acquisition.step cluster device) s =
      some { s with
        handler := h'
        handed := s.handed ++ records.map fun r => (p.message.folder, r.1)
        processing := some ⟨p.message, [], newRecords, sequence⟩ } := by
  induction records generalizing s p with
  | nil =>
    cases hrun
    obtain ⟨message, remaining, newRecords, sequence⟩ := p
    obtain rfl : remaining = [] := hremaining
    obtain ⟨wire, received, queue, processing, handler, handed⟩ := s
    obtain rfl : processing = _ := hp
    simp
  | cons r records ih =>
    obtain ⟨⟨newRecord, hrecord⟩, _⟩ := processRecord_after r.2 p.message.folder r.1 s.handler
    rw [processRecords, run_bind_of_ok hrecord] at hrun
    have hpush : s.push r.2 = some { s with
        handler := after (processRecord r.2 p.message.folder r.1) s.handler
        handed := s.handed ++ [(p.message.folder, r.1)]
        processing := some ⟨p.message, records.map Prod.fst, p.newRecords ++ newRecord.toList,
          max r.1.sequence p.sequence⟩ } := by
      simp only [Acquisition.push, hp, hremaining, List.map_cons, result_of_ok hrecord,
        Option.join_some]
    rw [List.map_cons, List.foldlM_cons, Acquisition.step, hpush, Option.bind_eq_bind,
      Option.bind_some, ih rfl rfl hrun]
    simp

/-- **The turns of a task are its `run`**: with no other turn between,
they leave the handler as `ProcessingRunnable.run` does. -/
theorem foldlM_turnsOf {message : IndexUpdate} (faults : ℕ → Fault) (hidle : s.processing = none)
    (hqueue : s.queue = task :: queue) (hmessage : result (messageOf task) s.handler =
      some message) :
    (turnsOf faults message).foldlM (Acquisition.step cluster device) s = some { s with
      queue
      handler := after (run (runProcess faults cluster device task)) s.handler
      handed := s.handed ++ message.files.map fun r => (message.folder, r) } := by
  have hfirst := run_eq_ok_after hmessage
  obtain ⟨newRecords, hloop⟩ :
      ∃ newRecords, (processRecords message.folder (withFaults faults message.files) []
      (-1)).run (after (messageOf task) s.handler) = .ok (newRecords, _) _ :=
    ⟨_, run_processRecords message.folder (withFaults faults message.files) [] (-1) _⟩
  have hstart : s.start = some { s with
      queue
      handler := after (messageOf task) s.handler
      processing := some ⟨message, message.files, [], -1⟩ } := by
    simp only [Acquisition.start, hidle, hqueue, hmessage]
  have hfiles := map_fst_withFaults faults message.files
  have hpush := foldlM_push cluster device (s := { s with
      queue
      handler := after (messageOf task) s.handler
      processing := some ⟨message, message.files, [], -1⟩ }) rfl hfiles.symm hloop
  rw [turnsOf, List.cons_append, List.foldlM_cons, Acquisition.step, hstart, Option.bind_eq_bind,
    Option.bind_some, List.foldlM_append, hpush, Option.bind_eq_bind, Option.bind_some,
    List.foldlM_cons, Acquisition.step, Acquisition.finish]
  have hrun : after (runProcess faults cluster device task) s.handler =
      after (finishMessage cluster device message.folder message.files.length newRecords
        (maxSequence message.files (-1))) (processed message.folder
          (withFaults faults message.files) (after (messageOf task) s.handler)) := by
    rw [hfiles] at hloop
    rw [runProcess, after_bind_of_ok hfirst, doHandleIndexMessageReceivedEvent,
      after_bind_of_ok hloop]
  obtain ⟨wire, received, queue', processing, handler, handed⟩ := s
  obtain rfl : processing = none := hidle
  have hpair : (withFaults faults message.files).map (fun r => (message.folder, r.1)) =
      message.files.map fun r => (message.folder, r) := by
    rw [← hfiles, List.map_map, hfiles]
    rfl
  simp only [after_run, hrun, hfiles, hpair, List.foldlM_nil, Option.bind_eq_bind,
    Option.bind_some]
  rfl

/-- A task whose message cannot be had is all of its `run`. -/
theorem start_of_error (faults : ℕ → Fault) (hidle : s.processing = none)
    (hqueue : s.queue = task :: queue) (hmessage : result (messageOf task) s.handler = none) :
    s.start = some { s with
      queue, handler := after (run (runProcess faults cluster device task)) s.handler } := by
  obtain ⟨e, h', hrun⟩ : ∃ e h', (messageOf task).run s.handler = .error e h' := by
    rw [result] at hmessage
    split at hmessage
    · cases hmessage
    · exact ⟨_, _, ‹_›⟩
  have hdiscard : after (discard (messageOf task)) s.handler = h' :=
    after_of_error (run_discard_of_error hrun)
  have hprocess : after (runProcess faults cluster device task) s.handler = h' :=
    after_bind_of_error hrun _
  simp only [Acquisition.start, hidle, hqueue, hmessage, after_run, hdiscard, hprocess]

end Turns

/-! ## Where a connection starts -/

section Ready

variable [Guava] [FilenameUtils] [Protobuf IndexSerializationProtos.Blocks]
variable {h : IndexHandler} {device folder : String} {notes : List Note}

omit [Guava] [FilenameUtils] [Protobuf IndexSerializationProtos.Blocks] in
/-- A note keeps the stored sequence at zero or more. -/
theorem noteStep_localSequence {stored : Option IndexInfo} {note : Note} {info : IndexInfo}
    (hstored : ∀ old, stored = some old → 0 ≤ old.localSequence)
    (hinfo : noteStep device folder stored note = some info) : 0 ≤ info.localSequence := by
  cases stored with
  | none =>
    cases note with
    | announced id m =>
      rw [noteStep, nextIndexInfo, changeIndexInfo_fst] at hinfo
      cases hinfo
      exact le_max_left _ _
    | received files => cases hinfo
  | some old =>
    have hold := hstored old rfl
    cases note with
    | announced id m | received files =>
      rw [noteStep, nextIndexInfo, changeIndexInfo_fst] at hinfo
      cases hinfo
      exact hold.trans (le_max_left _ _)

omit [Guava] [FilenameUtils] [Protobuf IndexSerializationProtos.Blocks] in
/-- So do any number of notes. -/
theorem foldl_noteStep_localSequence {stored : Option IndexInfo} {info : IndexInfo}
    (hstored : ∀ old, stored = some old → 0 ≤ old.localSequence)
    (hinfo : notes.foldl (noteStep device folder) stored = some info) : 0 ≤ info.localSequence := by
  induction notes generalizing stored with
  | nil => exact hstored info hinfo
  | cons note notes ih => exact ih (fun old hold => noteStep_localSequence hstored hold) hinfo

/-- **The messages of earlier connections leave a handler ready** for the
next. -/
theorem ready_of_run {es : List PeerMessage} (hrun : messages.Reaches es h) : Ready h := by
  have hn := noted_of_run hrun
  refine ⟨hn.indexTable, hn.temporaryData, fun device folder info hinfo => ?_⟩
  rw [hn.indexInfoOf] at hinfo
  exact foldl_noteStep_localSequence (fun old hold => (by cases hold)) hinfo

end Ready

/-! ## A sample connection -/

section Sample

attribute [local instance] Sample.guava Sample.filenameUtils Sample.protobuf

/-- A message with one directory record, and its encoding. -/
def sampleUpdate (sequence : ℤ) : IndexUpdate :=
  ⟨"default", [{ name := "d", type := .DIRECTORY, version := some [⟨1, 1⟩], sequence }]⟩

def sampleUpdateBytes (sequence : UInt8) : Bytes :=
  [0x0a, 7, 0x64, 0x65, 0x66, 0x61, 0x75, 0x6c, 0x74, 0x12, 15, 0x0a, 1, 0x64, 0x10, 1, 0x4a, 6,
    0x0a, 4, 8, 1, 0x10, 1, 0x50, sequence]

@[reducible] def sampleCodec : Protobuf IndexUpdate where
  toByteArray message :=
    if message = sampleUpdate 1 then sampleUpdateBytes 1
    else if message = sampleUpdate 2 then sampleUpdateBytes 2 else []
  parseFrom bytes :=
    if bytes = sampleUpdateBytes 1 then some (sampleUpdate 1)
    else if bytes = sampleUpdateBytes 2 then some (sampleUpdate 2) else none

attribute [local instance] sampleCodec

/-- The peer has announced an index of two records. -/
def sampleHandler : IndexHandler := after (sampleAnnouncement 7 2).process IndexHandler.fresh

/-- Turns of the connection over which the two records come. -/
def sampleTurns (test : Acquisition → Turn → Bool) (turns : List Turn) : Option Acquisition :=
  turns.foldlM (fun s turn =>
    if test s turn then s.step ⟨["default"]⟩ sampleDevice turn else none)
    (Acquisition.initial sampleHandler [sampleUpdate 1, sampleUpdate 2])

theorem sampleHandler_reached : messages.Reaches [sampleAnnouncement 7 2] sampleHandler :=
  Machine.Run.step (M := messages) (.start ⟨rfl, rfl⟩) trivial rfl

/-- Both records are handed before the index is taken for acquired. -/
theorem acquisition_sound_sample :
    ∃ s, (acquisition ⟨["default"]⟩ sampleDevice sampleHandler [sampleUpdate 1, sampleUpdate 2]).Run
        (fun _ s turn => Acquisition.inOrder "default" s turn = true)
        [.receive, .receive, .dispatch 0 "k0", .dispatch 0 "k1", .start, .push none, .finish,
          .start, .push none, .finish] s ∧
      result (isRemoteIndexAquired ⟨["default"]⟩ sampleDevice) s.handler = some true ∧
      Sound ⟨["default"]⟩ sampleDevice "default" [sampleUpdate 1, sampleUpdate 2] s := by
  have hany : (sampleTurns (Acquisition.inOrder "default") [.receive, .receive,
      .dispatch 0 "k0", .dispatch 0 "k1", .start, .push none, .finish, .start, .push none,
      .finish]).any (fun s => result (isRemoteIndexAquired ⟨["default"]⟩ sampleDevice) s.handler =
        some true) =
        true := by
    decide +kernel
  obtain ⟨s, hrun, hacquired⟩ := Machine.exists_run_of_any hany
  refine ⟨s, hrun, of_decide_eq_true hacquired, ?_⟩
  refine acquisition_sound (ready_of_run sampleHandler_reached) ?_ (by decide) ?_
    (List.mem_singleton.2 rfl) hrun
  · decide
  · have hinfo : sampleHandler.indexInfoOf sampleDevice "default" =
        some ⟨"default", sampleDevice, 7, 0, 2⟩ := by decide +kernel
    intro info hstored
    rw [hinfo] at hstored
    cases hstored
    decide

/-- **Two handlers out of order.** The second message is dispatched first:
once it is through, the index is taken for acquired and two is advertised,
and the first record has not been handed to `pushRecord`. -/
theorem acquisition_out_of_order :
    ∃ s, (acquisition ⟨["default"]⟩ sampleDevice sampleHandler
        [sampleUpdate 1, sampleUpdate 2]).Reaches
          [.receive, .receive, .dispatch 1 "k0", .start, .push none, .finish] s ∧
      result (isRemoteIndexAquired ⟨["default"]⟩ sampleDevice) s.handler = some true ∧
      result (otherDevice Sample.zeroHash sampleDevice "default") s.handler =
        some ⟨Sample.zeroHash, some 7, some 2⟩ ∧
      (∀ r ∈ (sampleUpdate 1).files, ("default", r) ∉ s.handed) ∧
      ¬ Sound ⟨["default"]⟩ sampleDevice "default" [sampleUpdate 1, sampleUpdate 2] s := by
  have hany : (sampleTurns (fun _ _ => true)
      [.receive, .receive, .dispatch 1 "k0", .start, .push none, .finish]).any (fun s =>
        result (isRemoteIndexAquired ⟨["default"]⟩ sampleDevice) s.handler = some true ∧
        result (otherDevice Sample.zeroHash sampleDevice "default") s.handler =
          some ⟨Sample.zeroHash, some 7, some 2⟩ ∧
        s.handler.indexInfoOf sampleDevice "default" = some ⟨"default", sampleDevice, 7, 2, 2⟩ ∧
        s.handed = (sampleUpdate 2).files.map fun r => ("default", r)) = true := by
    decide +kernel
  obtain ⟨s, hsteps, hparts⟩ := Machine.exists_run_of_any hany
  rw [decide_eq_true_eq] at hparts
  obtain ⟨hacquired, hadvertised, hinfo, hhanded⟩ := hparts
  have hmissing : ∀ r ∈ (sampleUpdate 1).files, ("default", r) ∉ s.handed := by
    rw [hhanded]
    decide
  refine ⟨s, hsteps.reaches, hacquired, hadvertised, hmissing,
    fun hsound => ?_⟩
  refine hmissing _ (List.mem_singleton.2 rfl) (hsound.stored _ hinfo _ ?_ ?_)
  · decide
  · decide

end Sample

end Bep

end ASync
