import ASync.Bep.Model.IndexMessageProcessor
import ASync.Bep.Helpers.Records
import ASync.Repository.TemporaryData
/-!
# Messages on their way

What submitting a message and taking its task do to the handler: the
message comes out as it went in, at hand or through the temporary table,
and no index info moves.
-/

namespace ASync

namespace Bep

open ASync.Core Repository BlockExchageProtos Effect

/-- The records some messages carry for a folder. -/
def recordsOf (folder : String) (messages : List IndexUpdate) : List BlockExchageProtos.FileInfo :=
  messages.flatMap fun message => if message.folder = folder then message.files else []

theorem recordsOf_append (folder : String) (xs ys : List IndexUpdate) :
    recordsOf folder (xs ++ ys) = recordsOf folder xs ++ recordsOf folder ys :=
  List.flatMap_append

theorem recordsOf_singleton (folder : String) (message : IndexUpdate) :
    recordsOf folder [message] = if message.folder = folder then message.files else [] :=
  List.flatMap_singleton _ _

section Tracked

variable [FilenameUtils] {h h' : IndexHandler} {folder device : String}
variable {sent queued : List IndexUpdate} {message : IndexUpdate} {s s' : Acquisition}

/-! ## Temporary data -/

/-- What is stored under a key. -/
def IndexHandler.temporary (h : IndexHandler) (key : String) : Option Bytes :=
  h.indexRepository.temporaryData.bind fun table => table.find key

/-- Only the temporary data and the counters of the queue moved. -/
structure QueueFrame (h h' : IndexHandler) : Prop where
  folderIndexInfo : h'.indexRepository.folderIndexInfo = h.indexRepository.folderIndexInfo
  indexInfoCache : h'.indexRepository.indexInfoByDeviceIdAndFolder =
    h.indexRepository.indexInfoByDeviceIdAndFolder

/-- With another temporary table. -/
def IndexHandler.withTemporary (h : IndexHandler) (table : Table String Bytes) : IndexHandler :=
  { h with indexRepository := { h.indexRepository with temporaryData := some table } }

/-- With one more message counted. -/
def IndexHandler.counting (h : IndexHandler) (data : IndexUpdate) : IndexHandler :=
  { h with
    queuedMessages := h.queuedMessages + 1
    queuedRecords := h.queuedRecords + data.files.length }

theorem QueueFrame.indexTable (hf : QueueFrame h h') (ht : h.IndexTable) : h'.IndexTable := by
  unfold IndexHandler.IndexTable
  rw [hf.folderIndexInfo, hf.indexInfoCache]
  exact ht

theorem QueueFrame.indexInfoOf (hf : QueueFrame h h') (device folder : String) :
    h'.indexInfoOf device folder = h.indexInfoOf device folder := by
  rw [IndexHandler.indexInfoOf, hf.folderIndexInfo, IndexHandler.indexInfoOf]

variable [Protobuf IndexUpdate]

/-- The task stands for the message. -/
def Carries (h : IndexHandler) : ProcessingRunnable → IndexUpdate → Prop
  | .message data, message => data = message
  | .stored key, message => key ≠ "" ∧ (h.temporary key).bind parseFrom = some message

/-- The key a task reads. -/
def ProcessingRunnable.key : ProcessingRunnable → Option String
  | .message _ => none
  | .stored key => some key

/-- A task that reads a key keeps its message where the key is kept. -/
theorem Carries.mono {task : ProcessingRunnable} (hc : Carries h task message)
    (hkeep : ∀ key, task.key = some key → h'.temporary key = h.temporary key) :
    Carries h' task message := by
  cases task with
  | message data => exact hc
  | stored key =>
    obtain ⟨hne, hdata⟩ := hc
    exact ⟨hne, by rw [hkeep key rfl, hdata]⟩

theorem Carries.isSome_temporary (hc : Carries h (.stored key) message) :
    (h.temporary key).isSome := by
  cases hdata : h.temporary key with
  | none =>
    obtain ⟨_, hbind⟩ := hc
    rw [hdata] at hbind
    cases hbind
  | some data => rfl

/-- So do the tasks of a queue. -/
theorem Carries.forall_mono {queue : List ProcessingRunnable} {queued : List IndexUpdate}
    (hall : List.Forall₂ (Carries h) queue queued)
    (hkeep : ∀ key ∈ queue.filterMap ProcessingRunnable.key, h'.temporary key = h.temporary key) :
    List.Forall₂ (Carries h') queue queued := by
  induction hall with
  | nil => exact List.Forall₂.nil
  | @cons task message queue queued hc _ ih =>
    refine List.Forall₂.cons (hc.mono fun key hkey => hkeep key ?_)
      (ih fun key hkey => hkeep key ?_)
    · exact List.mem_filterMap.2 ⟨task, List.mem_cons_self, hkey⟩
    · obtain ⟨task', hmem, hkey'⟩ := List.mem_filterMap.1 hkey
      exact List.mem_filterMap.2 ⟨task', List.mem_cons_of_mem task hmem, hkey'⟩

/-- The keys of a queue are in use. -/
theorem Carries.isSome_of_mem_keys {queue : List ProcessingRunnable} {queued : List IndexUpdate}
    (hall : List.Forall₂ (Carries h) queue queued) {key : String}
    (hkey : key ∈ queue.filterMap ProcessingRunnable.key) : (h.temporary key).isSome := by
  induction hall with
  | nil => cases hkey
  | @cons task message queue queued hc _ ih =>
    obtain ⟨task', hmem, hkey'⟩ := List.mem_filterMap.1 hkey
    rcases List.mem_cons.1 hmem with rfl | hrest
    · cases task' with
      | message data => cases hkey'
      | stored key' =>
        cases hkey'
        exact hc.isSome_temporary
    · exact ih (List.mem_filterMap.2 ⟨task', hrest, hkey'⟩)

/-- A key not in use is not the key of a task. -/
theorem Carries.notMem_keys {queue : List ProcessingRunnable} {queued : List IndexUpdate}
    (hall : List.Forall₂ (Carries h) queue queued) {key : String} (hfree : h.temporary key = none) :
    key ∉ queue.filterMap ProcessingRunnable.key := by
  intro hmem
  have hsome := Carries.isSome_of_mem_keys hall hmem
  rw [hfree] at hsome
  cases hsome

omit [FilenameUtils] [Protobuf IndexUpdate] in
/-- The keys of the queue stay apart as a task is submitted, at hand or
under a key that is none of them. -/
theorem nodup_keys_append {queue : List ProcessingRunnable} {task : ProcessingRunnable}
    {key : String} (hkeys : (queue.filterMap ProcessingRunnable.key).Nodup)
    (hnew : key ∉ queue.filterMap ProcessingRunnable.key)
    (htask : task = .message message ∨ task = .stored key) :
    ((queue ++ [task]).filterMap ProcessingRunnable.key).Nodup := by
  rw [List.filterMap_append, List.nodup_append]
  rcases htask with rfl | rfl
  · exact ⟨hkeys, List.nodup_nil, fun _ _ _ hmem => by cases hmem⟩
  · refine ⟨hkeys, List.nodup_singleton key, ?_⟩
    intro other hother other' hother' heq
    rw [List.mem_singleton.1 hother'] at heq
    exact hnew (heq ▸ hother)

omit [FilenameUtils] [Protobuf IndexUpdate] in
/-- They stay apart as the first task is taken, whose key is then none of
them. -/
theorem nodup_keys_tail {queue : List ProcessingRunnable} {task : ProcessingRunnable}
    (hkeys : ((task :: queue).filterMap ProcessingRunnable.key).Nodup) :
    (queue.filterMap ProcessingRunnable.key).Nodup ∧
      ∀ key ∈ queue.filterMap ProcessingRunnable.key, task.key ≠ some key := by
  cases hkey : task.key with
  | none =>
    rw [List.filterMap_cons_none hkey] at hkeys
    exact ⟨hkeys, fun _ _ => nofun⟩
  | some key =>
    rw [List.filterMap_cons_some hkey, List.nodup_cons] at hkeys
    refine ⟨hkeys.2, fun other hother heq => hkeys.1 ?_⟩
    rwa [Option.some.inj heq]

/-- A message that finds others waiting is stored. -/
theorem run_handleIndexMessage_of_queued {key : String} {table : Table String Bytes}
    (hqueued : 0 < h.queuedMessages) (htable : h.indexRepository.temporaryData = some table)
    (hfree : table.find key = none) : (handleIndexMessageReceivedEvent key message).run h =
      .ok (.stored key)
        ((h.withTemporary (table.merge key (toByteArray message))).counting message) := by
  change EStateM.run (if 0 < h.queuedMessages then storeAndProcessBg key message
    else processBg message) h = _
  rw [if_pos hqueued, storeAndProcessBg,
    run_bind_of_ok (run_repository_of_ok (run_pushTempData htable hfree _))]
  rfl

/-- A message that finds none waiting stays at hand. -/
theorem run_handleIndexMessage_of_idle {key : String} (hidle : ¬ 0 < h.queuedMessages) :
    (handleIndexMessageReceivedEvent key message).run h =
      .ok (.message message) (h.counting message) := by
  change EStateM.run (if 0 < h.queuedMessages then storeAndProcessBg key message
    else processBg message) h = _
  rw [if_neg hidle]
  rfl

/-- **A message is submitted**, at hand or under a key not in use. -/
theorem run_handleIndexMessage {key : String} {table : Table String Bytes}
    (htable : h.indexRepository.temporaryData = some table) (hne : key ≠ "")
    (hfree : table.find key = none) (hcodec : parseFrom (toByteArray message) = some message) :
    ∃ task h', (handleIndexMessageReceivedEvent key message).run h = .ok task h' ∧
      QueueFrame h h' ∧ Carries h' task message ∧
      (task = .message message ∨ task = .stored key) ∧
      ∃ table', h'.indexRepository.temporaryData = some table' ∧
        ∀ key', key' ≠ key → table'.find key' = table.find key' := by
  by_cases hqueued : 0 < h.queuedMessages
  · refine ⟨_, _, run_handleIndexMessage_of_queued hqueued htable hfree, ⟨rfl, rfl⟩, ⟨hne, ?_⟩,
      Or.inr rfl, table.merge key _, rfl, ?_⟩
    · change ((table.merge key (toByteArray message)).find key).bind parseFrom = some message
      rw [Table.find_merge_self, Option.bind_some, hcodec]
    · intro key' hkey'
      exact Table.find_merge_of_ne hkey'
  · exact ⟨_, _, run_handleIndexMessage_of_idle hqueued, ⟨rfl, rfl⟩, rfl, Or.inl rfl, table, htable,
      fun _ _ => rfl⟩

/-- **The message of a stored task** is read and deleted. -/
theorem run_messageOf_stored {key : String} (hc : Carries h (.stored key) message) :
    ∃ table, h.indexRepository.temporaryData = some table ∧
      (messageOf (.stored key)).run h = .ok message (h.withTemporary (table.delete key)) := by
  obtain ⟨hne, hdata⟩ := hc
  cases htable : h.indexRepository.temporaryData with
  | none =>
    rw [IndexHandler.temporary, htable] at hdata
    cases hdata
  | some table =>
    rw [IndexHandler.temporary, htable, Option.bind_some] at hdata
    obtain ⟨data, hfind, hparse⟩ := Option.bind_eq_some_iff.1 hdata
    refine ⟨table, rfl, ?_⟩
    rw [messageOf, run_bind_of_ok (run_repository_of_ok (run_popTempData htable hne hfind)), hparse]
    rfl

/-- **A task's message is had**, and with it the task's key is given up. -/
theorem run_messageOf {task : ProcessingRunnable} (hc : Carries h task message) :
    ∃ h', (messageOf task).run h = .ok message h' ∧ QueueFrame h h' ∧
      (h'.indexRepository.temporaryData.isSome = h.indexRepository.temporaryData.isSome) ∧
      ∀ key, task.key ≠ some key → h'.temporary key = h.temporary key := by
  cases task with
  | message data =>
    obtain rfl : data = message := hc
    exact ⟨h, rfl, ⟨rfl, rfl⟩, rfl, fun _ _ => rfl⟩
  | stored key =>
    obtain ⟨table, htable, hrun⟩ := run_messageOf_stored hc
    refine ⟨_, hrun, ⟨rfl, rfl⟩, by rw [htable]; rfl, ?_⟩
    intro key' hkey'
    have hother : key' ≠ key := fun heq => hkey' (by rw [heq]; rfl)
    change (table.delete key).find key' = h.temporary key'
    rw [IndexHandler.temporary, htable, Option.bind_some, Table.find_delete_of_ne hother]

end Tracked

end Bep

end ASync
