import ASync.Repository.TemporaryData
import ASync.Bep.Acquisition
import ASync.Bep.Model.Spooling
/-!
# Spooled messages and messages at hand

What becomes of a message should not depend on whether it was stored
while others waited. It does not, as long as the temporary table is there:
a run of the handler has a run that stores nothing, over the same events,
that leaves the other tables the same (`spooled_eq_direct`). `clearIndex`
drops the temporary table, and nothing makes it anew.
-/

namespace ASync

namespace Bep

open ASync.Core Repository BlockExchageProtos Effect

/-! ## The handler apart from the temporary table -/

section Apart

variable [FilenameUtils] {h : IndexHandler} {fault : Fault} {folder : String}

/-- With another temporary table, or with none. -/
def IndexHandler.setTemporary (t : Option (Table String Bytes)) (h : IndexHandler) :
    IndexHandler := { h with indexRepository := h.indexRepository.setTemporary t }

/-- The temporary table. -/
def IndexHandler.temporaryData (h : IndexHandler) : Option (Table String Bytes) :=
  h.indexRepository.temporaryData

@[simp] theorem IndexHandler.setTemporary_self (h : IndexHandler) :
    h.setTemporary h.temporaryData = h := rfl

@[simp] theorem IndexHandler.temporaryData_setTemporary (t : Option (Table String Bytes)) :
    (h.setTemporary t).temporaryData = t := rfl

/-- The call runs the same whatever the temporary table holds. -/
def Aside {α : Type} (m : HandlerM α) : Prop := ∀ t, Framed (IndexHandler.setTemporary t) m

/-- Such a call leaves the temporary table as it was. -/
theorem Aside.temporaryData_after {α : Type} {m : HandlerM α} (hm : Aside m) (h : IndexHandler) :
    (after m h).temporaryData = h.temporaryData := by
  have hself := (hm h.temporaryData).after_eq h
  rw [IndexHandler.setTemporary_self] at hself
  rw [hself, IndexHandler.temporaryData_setTemporary]

theorem aside_repository {α : Type} {m : RepoM α} (hm : Repository.Apart m) :
    Aside (repository m) :=
  fun t => Framed.focus (hm t) (fun _ => rfl) fun _ _ => rfl

theorem aside_postIf (c : Bool) (event : IndexEvent) : Aside (postIf c event) :=
  fun _ => Framed.ite (Framed.modify fun _ => rfl) (Framed.pure _)

theorem aside_updateIndexInfo (folder deviceId : String)
    (indexId maxSequence localSequence : Option ℤ) :
    Aside (updateIndexInfo folder deviceId indexId maxSequence localSequence) := by
  intro t
  refine Framed.bind (aside_repository (apart_findIndexInfo _ _) t) fun stored => ?_
  cases stored with
  | none =>
    exact Framed.bind (Framed.ofExcept _) fun _ =>
      Framed.bind (aside_repository (apart_updateIndexInfo _) t) fun _ => Framed.pure _
  | some stored =>
    exact Framed.ite (Framed.bind (aside_repository (apart_updateIndexInfo _) t) fun _ =>
      Framed.pure _) (Framed.pure _)

theorem aside_isRemoteIndexAquired (cluster : ClusterConfigInfo) (peerDeviceId : String) :
    Aside (isRemoteIndexAquired cluster peerDeviceId) := by
  intro t
  refine Framed.foldlM (fun ready folder => ?_) _ _
  refine Framed.bind (aside_repository (apart_findIndexInfo _ _) t) fun stored => ?_
  cases stored with
  | none => exact Framed.pure _
  | some info => exact Framed.pure _

variable [Guava]

omit [Guava] in
theorem aside_updateFolderInfo (folder label : String) : Aside (updateFolderInfo folder label) := by
  intro t
  have hput : Framed (IndexHandler.setTemporary t) (do
      let folderInfo ← ofExcept (FolderInfo.new folder (some label))
      modify fun h : IndexHandler => { h with
        folderInfoByFolder := h.folderInfoByFolder.merge folderInfo.folder folderInfo }
      return folderInfo) :=
    Framed.bind (Framed.ofExcept _) fun _ => Framed.bind (Framed.modify fun _ => rfl) fun _ =>
      Framed.pure _
  refine Framed.get_bind (fun _ => rfl) fun h => ?_
  cases h.folderInfoByFolder.find folder with
  | none => exact hput
  | some folderInfo => exact Framed.ite (Framed.pure _) hput

theorem aside_handleClusterConfig (message : ClusterConfig) :
    Aside (handleClusterConfigMessageProcessedEvent message) := by
  intro t
  refine Framed.forM (fun folderRecord => ?_) _
  refine Framed.bind (Framed.discard (aside_updateFolderInfo _ _ t)) fun _ => ?_
  refine Framed.forM (fun deviceRecord => ?_) _
  refine Framed.bind (Framed.ofExcept _) fun deviceId => ?_
  cases deviceRecord.indexId with
  | none => exact Framed.pure _
  | some indexId =>
    cases deviceRecord.maxSequence with
    | none => exact Framed.pure _
    | some maxSequence => exact Framed.discard (aside_updateIndexInfo _ _ _ _ _ t)

omit [Guava] in
/-- The end of a message. -/
theorem aside_run_finishMessage (cluster : ClusterConfigInfo) (peerDeviceId folder : String)
    (filesCount : ℕ) (newRecords : List Core.FileInfo) (sequence : ℤ) :
    Aside (run (finishMessage cluster peerDeviceId folder filesCount newRecords sequence)) := by
  intro t
  have hfinish : Framed (IndexHandler.setTemporary t)
      (finishMessage cluster peerDeviceId folder filesCount newRecords sequence) := by
    refine Framed.bind (aside_updateIndexInfo _ _ _ _ _ t) fun newIndexInfo => ?_
    refine Framed.bind (Framed.modify fun _ => rfl) fun _ =>
      Framed.get_bind (fun _ => rfl) fun h => ?_
    refine Framed.bind (Framed.ofExcept _) fun _ => Framed.bind (aside_postIf _ _ t) fun _ => ?_
    refine Framed.bind (aside_isRemoteIndexAquired _ _ t) fun acquired => ?_
    exact Framed.bind (aside_postIf _ _ t) fun _ => Framed.modify fun _ => rfl
  exact Framed.bind (Framed.tryCatch hfinish fun _ => Framed.pure _) fun _ =>
    Framed.modify fun _ => rfl

variable [Protobuf IndexSerializationProtos.Blocks]

theorem aside_pushRecord (fault : Fault) (folder : String)
    (fileInfo : BlockExchageProtos.FileInfo) : Aside (pushRecord fault folder fileInfo) := by
  intro t
  refine Framed.bind (Framed.ofExcept _) fun built => ?_
  cases built with
  | none => exact Framed.pure _
  | some built =>
    refine Framed.bind (aside_repository (apart_findFileInfoLastModified _ _) t) fun stored => ?_
    refine Framed.ite (Framed.pure _) ?_
    exact Framed.bind (aside_repository (apart_updateFileInfo _ _) t) fun _ =>
      Framed.bind (Framed.modify fun _ => rfl) fun _ => Framed.pure _

/-- One turn of the record loop. -/
theorem aside_processRecord (fault : Fault) (folder : String)
    (fileInfo : BlockExchageProtos.FileInfo) : Aside (processRecord fault folder fileInfo) :=
  fun t => Framed.tryCatch (aside_pushRecord fault folder fileInfo t) fun _ =>
    Framed.bind (Framed.modify fun _ => rfl) fun _ => Framed.pure _

omit [Guava] [Protobuf IndexSerializationProtos.Blocks] in
/-- What `clearIndex` leaves does not depend on the temporary table, and
has none. -/
theorem after_clearIndex (folders : List FolderInfo) (t : Option (Table String Bytes)) :
    after (Bep.clearIndex folders) (h.setTemporary t) = after (Bep.clearIndex folders) h ∧
      (after (Bep.clearIndex folders) h).temporaryData = none := ⟨rfl, rfl⟩

end Apart

/-! ## Stored and at hand -/

section Alike

variable [Guava] [FilenameUtils] [Protobuf IndexSerializationProtos.Blocks] [Protobuf IndexUpdate]
variable {h : IndexHandler} {s s' d : Spooling} {es : List SpoolingEvent}

omit [Guava] [FilenameUtils] [Protobuf IndexSerializationProtos.Blocks] [Protobuf IndexUpdate] in
/-- The task with its message at hand. -/
def Task.withMessage (task : Task) (message : IndexUpdate) : Task :=
  { task with runnable := .message message }

/-- The tasks of a queue. -/
def Spooling.runnables (s : Spooling) : List ProcessingRunnable := s.queue.map Task.runnable

/-- The message a connection hands over. -/
def SpoolingEvent.received : SpoolingEvent → Option IndexUpdate
  | .receive _ _ _ data => some data
  | _ => none

/-- When a step keeps every message: one that finds others waiting can be
stored, in the temporary table and under a key not in use; and the index
is cleared while no stored message waits. -/
def Spooling.storable (s : Spooling) : SpoolingEvent → Bool
  | .receive _ _ key _ =>
    decide (s.handler.queuedMessages ≤ 0) ||
      decide (key ≠ "") && s.handler.temporaryData.any fun table => (table.find key).isNone
  | .clearIndex _ => (s.runnables.filterMap ProcessingRunnable.key).isEmpty
  | _ => true

/-- The handler that stores nothing is where the handler that stores is,
apart from the temporary table, and has at hand what the other's tasks
carry. -/
structure Alike (s d : Spooling) : Prop where
  handler : d.handler.setTemporary s.handler.temporaryData = s.handler
  processing : d.processing = s.processing
  queue : ∃ queued, List.Forall₂ (Carries s.handler) s.runnables queued ∧
    d.queue = List.zipWith Task.withMessage s.queue queued
  keys : (s.runnables.filterMap ProcessingRunnable.key).Nodup

omit [Guava] [Protobuf IndexSerializationProtos.Blocks] in
theorem Alike.start_self (h : IndexHandler) :
    Alike { handler := h } { handler := h } where
  handler := rfl
  processing := rfl
  queue := ⟨[], List.Forall₂.nil, rfl⟩
  keys := List.nodup_nil

omit [Guava] [Protobuf IndexSerializationProtos.Blocks] in
/-- A call that keeps aside returns the same on both sides. -/
theorem Alike.result_eq {α : Type} {m : HandlerM α} (hm : Aside m) (h : Alike s d) :
    result m s.handler = result m d.handler := by
  rw [← h.handler]
  exact (hm _).result_eq _

omit [Guava] [Protobuf IndexSerializationProtos.Blocks] in
/-- **Such a call keeps the two sides together.** -/
theorem Alike.call {α : Type} {m : HandlerM α} (hm : Aside m) (h : Alike s d)
    (processing : Option Received) :
    Alike { s with handler := after m s.handler, processing }
      { d with handler := after m d.handler, processing } := by
  have htable := hm.temporaryData_after s.handler
  obtain ⟨queued, hcarries, hqueue⟩ := h.queue
  refine ⟨?_, rfl, ⟨queued, ?_, hqueue⟩, h.keys⟩
  · show (after m d.handler).setTemporary (after m s.handler).temporaryData = after m s.handler
    rw [htable, ← (hm _).after_eq, h.handler]
  · refine Carries.forall_mono hcarries fun key _ => ?_
    show (after m s.handler).temporaryData.bind (fun table => table.find key) = _
    rw [htable]
    rfl

omit [Guava] [Protobuf IndexSerializationProtos.Blocks] in
/-- So does one beside the processor's thread. -/
theorem Alike.call_idle {α : Type} {m : HandlerM α} (hm : Aside m) (h : Alike s d) :
    Alike { s with handler := after m s.handler } { d with handler := after m d.handler } := by
  have hcall := h.call hm s.processing
  obtain ⟨handler, queue, processing⟩ := d
  obtain rfl : processing = s.processing := h.processing
  exact hcall

omit [Guava] [Protobuf IndexSerializationProtos.Blocks] in
/-- **A message is received** on both sides. -/
theorem Alike.receive {peerDeviceId key : String} {cluster : ClusterConfigInfo}
    {data : IndexUpdate} (h : Alike s d)
    (hok : s.storable (.receive peerDeviceId cluster key data) = true)
    (hcodec : parseFrom (toByteArray data) = some data) :
    Alike (s.receive handleIndexMessageReceivedEvent peerDeviceId cluster key data)
      (d.receive (fun _ data => processBg data) peerDeviceId cluster key data) := by
  obtain ⟨queued, hcarries, hqueue⟩ := h.queue
  have hlength : s.queue.length = queued.length := by
    rw [← hcarries.length_eq, Spooling.runnables, List.length_map]
  have hdirect : d.receive (fun _ data => processBg data) peerDeviceId cluster key data =
      { d with
        handler := d.handler.counting data
        queue := d.queue ++ [⟨peerDeviceId, cluster, .message data⟩] } := rfl
  by_cases hqueued : 0 < s.handler.queuedMessages
  · -- something is queued, so the message goes to the temporary table
    obtain ⟨hne, table, htable, hfree⟩ : key ≠ "" ∧ ∃ table,
        s.handler.temporaryData = some table ∧ table.find key = none := by
      rw [Spooling.storable, Bool.or_eq_true, Bool.and_eq_true, decide_eq_true_eq,
        decide_eq_true_eq, Option.any_eq_true] at hok
      rcases hok with hidle | ⟨hne, table, htable, hfree⟩
      · omega
      · exact ⟨hne, table, htable, Option.isNone_iff_eq_none.1 hfree⟩
    have hrun : (handleIndexMessageReceivedEvent key data).run s.handler = _ :=
      run_handleIndexMessage_of_queued hqueued htable hfree
    -- the key is fresh: it is on no task of the queue
    have hunused : s.handler.temporary key = none := by
      show s.handler.temporaryData.bind (fun table => table.find key) = none
      rw [htable, Option.bind_some, hfree]
    have hnew := Carries.notMem_keys hcarries hunused
    rw [hdirect, Spooling.receive, result_of_ok hrun, after_of_ok hrun]
    refine ⟨?_, h.processing, ⟨queued ++ [data], ?_, ?_⟩, ?_⟩
    · show ((d.handler.counting data).setTemporary _) = _
      rw [← h.handler]
      rfl
    · show List.Forall₂ _ ((s.queue ++ [Task.mk peerDeviceId cluster (.stored key)]).map
          Task.runnable) _
      rw [List.map_append]
      refine List.rel_append (Carries.forall_mono hcarries fun other hother => ?_)
        (List.Forall₂.cons ⟨hne, ?_⟩ List.Forall₂.nil)
      · have hdiff : other ≠ key := fun heq => hnew (heq ▸ hother)
        show (table.merge key (toByteArray data)).find other =
          s.handler.temporaryData.bind fun table => table.find other
        rw [htable, Option.bind_some, Table.find_merge_of_ne hdiff]
      · show ((table.merge key (toByteArray data)).find key).bind parseFrom = some data
        rw [Table.find_merge_self, Option.bind_some, hcodec]
    · show d.queue ++ _ = List.zipWith Task.withMessage (s.queue ++ [_]) (queued ++ [data])
      rw [List.zipWith_append hlength, hqueue]
      rfl
    · show (((s.queue ++ [_]).map Task.runnable).filterMap ProcessingRunnable.key).Nodup
      rw [List.map_append]
      exact nodup_keys_append h.keys hnew
        (Or.inr rfl : ProcessingRunnable.stored key = .message data ∨ _)
  · -- nothing is queued, so the task carries the message itself
    have hrun : (handleIndexMessageReceivedEvent key data).run s.handler = _ :=
      run_handleIndexMessage_of_idle hqueued
    rw [hdirect, Spooling.receive, result_of_ok hrun, after_of_ok hrun]
    refine ⟨?_, h.processing, ⟨queued ++ [data], ?_, ?_⟩, ?_⟩
    · show ((d.handler.counting data).setTemporary _) = _
      rw [← h.handler]
      rfl
    · show List.Forall₂ _ ((s.queue ++ [Task.mk peerDeviceId cluster (.message data)]).map
          Task.runnable) _
      rw [List.map_append]
      exact List.rel_append (Carries.forall_mono hcarries fun _ _ => rfl)
        (List.Forall₂.cons rfl List.Forall₂.nil)
    · show d.queue ++ _ = List.zipWith Task.withMessage (s.queue ++ [_]) (queued ++ [data])
      rw [List.zipWith_append hlength, hqueue]
      rfl
    · show (((s.queue ++ [_]).map Task.runnable).filterMap ProcessingRunnable.key).Nodup
      rw [List.map_append, List.filterMap_append]
      exact (List.append_nil _).symm ▸ h.keys

omit [Guava] [Protobuf IndexSerializationProtos.Blocks] in
/-- **A task is taken** on both sides, with the same message. -/
theorem Alike.start (h : Alike s d) (hs : s.start = some s') :
    ∃ d', d.start = some d' ∧ Alike s' d' := by
  rw [Spooling.start] at hs
  split at hs
  · next task queue hprocessing hqueue =>
    obtain ⟨queued, hcarries, hdirect⟩ := h.queue
    have hkeys := h.keys
    rw [Spooling.runnables, hqueue, List.map_cons] at hcarries hkeys
    obtain ⟨message, queued', hc, hrest, rfl⟩ := List.forall₂_cons_left_iff.1 hcarries
    obtain ⟨hrestKeys, hother⟩ := nodup_keys_tail hkeys
    obtain ⟨h', hrun, _, _, hkeep⟩ := run_messageOf hc
    have hsame : d.handler.setTemporary h'.temporaryData = h' := by
      cases hrunnable : task.runnable with
      | message data =>
        rw [hrunnable] at hrun
        cases hrun
        exact h.handler
      | stored key =>
        rw [hrunnable] at hrun hc
        obtain ⟨table, _, hrun'⟩ := run_messageOf_stored hc
        rw [hrun] at hrun'
        cases hrun'
        show d.handler.setTemporary (some (table.delete key)) =
          s.handler.setTemporary (some (table.delete key))
        rw [← h.handler]
        rfl
    rw [result_of_ok hrun, after_of_ok hrun] at hs
    cases hs
    rw [hqueue, List.zipWith_cons_cons] at hdirect
    refine ⟨{ d with
      queue := List.zipWith Task.withMessage queue queued'
      processing := some ⟨task.peerDeviceId, task.clusterConfigInfo,
        ⟨message, message.files, [], -1⟩⟩ }, ?_, hsame, rfl, ⟨queued', ?_, rfl⟩, hrestKeys⟩
    · rw [Spooling.start, h.processing, hprocessing, hdirect]
      rfl
    · exact Carries.forall_mono hrest fun key hkey => hkeep key (hother key hkey)
  · cases hs

omit [Guava] [Protobuf IndexSerializationProtos.Blocks] in
/-- **The index is cleared** on both sides, while no stored message waits. -/
theorem Alike.clearIndex {folders : List FolderInfo} (h : Alike s d)
    (hok : s.storable (.clearIndex folders) = true) :
    Alike { s with handler := after (Bep.clearIndex folders) s.handler }
      { d with handler := after (Bep.clearIndex folders) d.handler } := by
  obtain ⟨queued, hcarries, hqueue⟩ := h.queue
  have hnone : s.runnables.filterMap ProcessingRunnable.key = [] := List.isEmpty_iff.1 hok
  have hclear := after_clearIndex (h := d.handler) folders s.handler.temporaryData
  rw [h.handler] at hclear
  refine ⟨?_, h.processing, ⟨queued, ?_, hqueue⟩, h.keys⟩
  · show (after (Bep.clearIndex folders) d.handler).setTemporary
      (after (Bep.clearIndex folders) s.handler).temporaryData =
        after (Bep.clearIndex folders) s.handler
    rw [hclear.1]
    exact IndexHandler.setTemporary_self _
  · refine Carries.forall_mono hcarries fun key hkey => ?_
    change key ∈ s.runnables.filterMap ProcessingRunnable.key at hkey
    rw [hnone] at hkey
    cases hkey

/-- **One step** of the handler that stores has a step of the handler that
does not. -/
theorem Alike.step {e : SpoolingEvent} (h : Alike s d) (hok : s.storable e = true)
    (hcodec : ∀ data ∈ e.received, parseFrom (toByteArray data) = some data)
    (hs : Spooling.step handleIndexMessageReceivedEvent s e = some s') :
    ∃ d', Spooling.step (fun _ data => processBg data) d e = some d' ∧ Alike s' d' := by
  cases e with
  | receive peerDeviceId cluster key data =>
    cases hs
    exact ⟨_, rfl, h.receive hok (hcodec data rfl)⟩
  | start => exact h.start hs
  | push fault =>
    have hprocessing := h.processing
    rw [Spooling.step, Spooling.push] at hs
    cases hs₀ : s.processing with
    | none =>
      rw [hs₀] at hs
      cases hs
    | some received =>
      obtain ⟨peerDeviceId, cluster, message, remaining, newRecords, sequence⟩ := received
      rw [hs₀] at hs hprocessing
      cases remaining with
      | nil => cases hs
      | cons fileInfo remaining =>
        cases hs
        have hturn := aside_processRecord fault message.folder fileInfo
        refine ⟨_, by rw [Spooling.step, Spooling.push, hprocessing], ?_⟩
        rw [← h.result_eq hturn]
        exact h.call hturn _
  | finish =>
    have hprocessing := h.processing
    rw [Spooling.step, Spooling.finish] at hs
    cases hs₀ : s.processing with
    | none =>
      rw [hs₀] at hs
      cases hs
    | some received =>
      obtain ⟨peerDeviceId, cluster, message, remaining, newRecords, sequence⟩ := received
      rw [hs₀] at hs hprocessing
      cases remaining with
      | cons _ _ => cases hs
      | nil =>
        cases hs
        exact ⟨_, by rw [Spooling.step, Spooling.finish, hprocessing],
          h.call (aside_run_finishMessage _ _ _ _ _ _) none⟩
  | clusterConfig message =>
    cases hs
    exact ⟨_, rfl, h.call_idle (aside_handleClusterConfig message)⟩
  | pushRecord fault folder fileInfo =>
    cases hs
    exact ⟨_, rfl, h.call_idle (aside_pushRecord fault folder fileInfo)⟩
  | clearIndex folders =>
    cases hs
    exact ⟨_, rfl, h.clearIndex hok⟩

/-- **Stored or at hand, a message ends in the same tables.** Over every
run in which no message is refused by the temporary table or dropped from
it, the handler that stores messages is where one that stores none is
after the same events, apart from the temporary table; and where the
temporary table is, it gives back once what is put into it. -/
theorem spooled_eq_direct
    (hcodec : ∀ e ∈ es, ∀ data ∈ e.received, parseFrom (toByteArray data) = some data)
    (hrun : (spooling h).Run (fun _ s e => s.storable e = true) es s) :
    (∃ d, (direct h).Reaches es d ∧ d.handler.setTemporary s.handler.temporaryData = s.handler ∧
      d.processing = s.processing ∧ d.queue.length = s.queue.length) ∧
    (s.handler.temporaryData.isSome → Spools s.handler.indexRepository) := by
  constructor
  · obtain ⟨d, hd, halike⟩ := (hrun.and_of_forall_mem hcodec).exists_related
      (N := direct h) (R := Alike) (fun s hs => ⟨_, rfl, hs ▸ Alike.start_self h⟩)
      fun _ s e s' d hok halike hstep => halike.step hok.1 hok.2 hstep
    obtain ⟨queued, hcarries, hqueue⟩ := halike.queue
    refine ⟨d, hd, halike.handler, halike.processing, ?_⟩
    have hlength : s.queue.length = queued.length := by
      rw [← hcarries.length_eq, Spooling.runnables, List.length_map]
    rw [hqueue, List.length_zipWith, ← hlength, Nat.min_self]
  · intro hsome
    obtain ⟨table, htable⟩ := Option.isSome_iff_exists.1 hsome
    exact spools_of_some htable

omit [Guava] [Protobuf IndexSerializationProtos.Blocks] in
/-- A message that finds others waiting, and no temporary table, is lost:
the call throws, and nothing has changed. -/
theorem receive_of_cleared {submitted key : String} {cluster : ClusterConfigInfo}
    {data : IndexUpdate} (hqueued : 0 < s.handler.queuedMessages)
    (htable : s.handler.temporaryData = none) :
    s.receive handleIndexMessageReceivedEvent submitted cluster key data = s := by
  have hpush : (repository (pushTempData key (toByteArray data))).run s.handler =
      .error (.runtime "SQLException") s.handler :=
    run_repository_of_error (run_pushTempData_of_none htable _)
  have hrun : (handleIndexMessageReceivedEvent key data).run s.handler =
      .error (.runtime "SQLException") s.handler := by
    change EStateM.run (if 0 < s.handler.queuedMessages then storeAndProcessBg key data
      else processBg data) s.handler = _
    rw [if_pos hqueued, storeAndProcessBg, run_bind_of_error hpush]
  rw [Spooling.receive, result_of_error hrun, after_of_error hrun]
  simp

end Alike

/-! ## Sample runs -/

section Sample

attribute [local instance] Sample.guava Sample.filenameUtils Sample.protobuf sampleCodec

/-- Two messages of a peer, the second received while the first waits. -/
def sampleReceipts : List SpoolingEvent :=
  [.receive sampleDevice ⟨["default"]⟩ "k0" (sampleUpdate 1),
    .receive sampleDevice ⟨["default"]⟩ "k1" (sampleUpdate 2)]

/-- A message processed. -/
def sampleTurn : List SpoolingEvent := [.start, .push none, .finish]

/-- The index is cleared, and announced again. -/
def sampleClear : List SpoolingEvent :=
  [.clearIndex [], .clusterConfig ⟨[⟨"default", "", [⟨Sample.zeroHash, some 7, some 2⟩]⟩]⟩]

/-- The stored message is processed as the one at hand. -/
theorem spooled_eq_direct_sample :
    ∃ s, (spooling sampleHandler).Run (fun _ s e => s.storable e = true)
        (sampleReceipts ++ sampleTurn ++ sampleTurn) s ∧
      s.handler.indexInfoOf sampleDevice "default" = some ⟨"default", sampleDevice, 7, 2, 2⟩ ∧
      (∃ d, (direct sampleHandler).Reaches (sampleReceipts ++ sampleTurn ++ sampleTurn) d ∧
        d.handler.setTemporary s.handler.temporaryData = s.handler ∧
        d.processing = s.processing ∧ d.queue.length = s.queue.length) ∧
      (s.handler.temporaryData.isSome → Spools s.handler.indexRepository) := by
  obtain ⟨s, hrun, hinfo⟩ : ∃ s, (spooling sampleHandler).Run (fun _ s e => s.storable e = true)
      (sampleReceipts ++ sampleTurn ++ sampleTurn) s ∧
      decide (s.handler.indexInfoOf sampleDevice "default" =
        some ⟨"default", sampleDevice, 7, 2, 2⟩) = true :=
    Machine.exists_run_of_any (by decide +kernel)
  exact ⟨s, hrun, of_decide_eq_true hinfo, spooled_eq_direct (by decide) hrun⟩

/-- **After `clearIndex` a message is lost.** The second message finds the
first waiting and no temporary table to be stored in: once the processor
is idle the index stands at the first message, and nothing can be pushed.
A handler that stores nothing, after the same events and the turns of the
second message, has both. -/
theorem second_message_is_lost :
    ∃ s d, (spooling sampleHandler).Reaches (sampleClear ++ sampleReceipts ++ sampleTurn) s ∧
      (direct sampleHandler).Reaches
        (sampleClear ++ sampleReceipts ++ sampleTurn ++ sampleTurn) d ∧
      s.processing.isNone ∧ s.queue.length = 0 ∧ s.handler.queuedMessages = 0 ∧
      d.processing.isNone ∧ d.queue.length = 0 ∧ d.handler.queuedMessages = 0 ∧
      s.handler.indexInfoOf sampleDevice "default" = some ⟨"default", sampleDevice, 7, 1, 2⟩ ∧
      d.handler.indexInfoOf sampleDevice "default" = some ⟨"default", sampleDevice, 7, 2, 2⟩ ∧
      result (pushTempData "k2" []) s.handler.indexRepository = none := by
  obtain ⟨s, hs, hparts⟩ : ∃ s, (spooling sampleHandler).Run (fun _ _ _ => true = true)
      (sampleClear ++ sampleReceipts ++ sampleTurn) s ∧
      decide (s.processing.isNone ∧ s.queue.length = 0 ∧ s.handler.queuedMessages = 0 ∧
        s.handler.indexInfoOf sampleDevice "default" =
          some ⟨"default", sampleDevice, 7, 1, 2⟩ ∧
        result (pushTempData "k2" []) s.handler.indexRepository = none) = true :=
    Machine.exists_run_of_any (by decide +kernel)
  obtain ⟨d, hd, hparts'⟩ : ∃ d, (direct sampleHandler).Run (fun _ _ _ => true = true)
      (sampleClear ++ sampleReceipts ++ sampleTurn ++ sampleTurn) d ∧
      decide (d.processing.isNone ∧ d.queue.length = 0 ∧ d.handler.queuedMessages = 0 ∧
        d.handler.indexInfoOf sampleDevice "default" =
          some ⟨"default", sampleDevice, 7, 2, 2⟩) = true :=
    Machine.exists_run_of_any (by decide +kernel)
  obtain ⟨hprocessing, hqueue, hqueued, hinfo, hpush⟩ := of_decide_eq_true hparts
  obtain ⟨hprocessing', hqueue', hqueued', hinfo'⟩ := of_decide_eq_true hparts'
  exact ⟨s, d, hs.reaches, hd.reaches, hprocessing, hqueue, hqueued, hprocessing', hqueue',
    hqueued', hinfo, hinfo', hpush⟩

end Sample

end Bep

end ASync
