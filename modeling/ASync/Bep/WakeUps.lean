import Mathlib
import ASync.Bep.FileDownload
import ASync.Bep.FileUpload
import ASync.Bep.BlockLayout
/-!
# Wake-ups

Both observers test their condition outside the lock they then wait on,
so a notification can come between the test and the wait. `Lost` is the
state this leads to: the thread waits, what it waits for has happened,
and nobody is left to notify it. A run does not get there as long as the
last notification does not fall where the waiting thread no longer looks
and does not wait yet (`no_lost_wakeup`).
-/

namespace ASync

namespace Bep

open ASync.Core BlockExchageProtos

section WakeUps

variable [Guava]

/-! ## Downloads -/

namespace FileDownload

variable {fileBlocks : FileBlocks} {d d' : FileDownload} {es : List DownloadEvent} {i : ℕ}

omit [Guava] in
/-- The thread in `waitForComplete` waits though no hash is missing or an
error is set, and every handler has ended. -/
def Lost (d : FileDownload) : Prop :=
  d.waiter = .waiting ∧ (d.puller.isCompleted = true ∨ d.puller.error ≠ none) ∧
    ∀ handler ∈ d.handlers, handler.phase = .finished

/-- The steps allowed: no handler notifies that the last hash is there
while the waiting thread is between its test and `wait`, unless an error is
set, which the thread still looks at. Nobody calls `close`. -/
def mayNotify (d : FileDownload) : DownloadEvent → Bool
  | .handle i =>
    match d.handlers[i]? with
    | some handler =>
      !(handler.phase = .stored || handler.phase = .failed) ||
        !(d.puller.isCompleted && d.puller.error.isNone && decide (d.waiter = .entering))
    | none => true
  | .close => false
  | .closing _ => false
  | _ => true

omit [Guava] in
/-- Somebody is about to notify wherever the waiting thread needs it. -/
structure Heard (d : FileDownload) : Prop where
  completed : d.waiter = .entering ∨ d.waiter = .waiting → d.puller.missingHashes = ∅ →
    d.puller.error = none → ∃ handler ∈ d.handlers, handler.phase.locking = true
  failed : d.waiter = .waiting → d.puller.error ≠ none →
    ∃ handler ∈ d.handlers, handler.phase.locking = true

omit [Guava] in
/-- A step that leaves a handler under the lock. -/
theorem Heard.of_locking (h : ∃ handler ∈ d.handlers, handler.phase.locking = true) : Heard d :=
  ⟨fun _ _ _ => h, fun _ _ => h⟩

omit [Guava] in
/-- A thread that neither waits nor is about to. -/
theorem Heard.of_away (hentering : d.waiter ≠ .entering) (hwaiting : d.waiter ≠ .waiting) :
    Heard d := by
  refine ⟨?_, fun hwaiter => absurd hwaiter hwaiting⟩
  rintro (hwaiter | hwaiter)
  · exact absurd hwaiter hentering
  · exact absurd hwaiter hwaiting

omit [Guava] in
/-- Where nobody is under the lock, nothing has been missed. -/
theorem Heard.not_of_free (h : Heard d) (hfree : d.locked = false) :
    (d.waiter = .entering ∨ d.waiter = .waiting → d.puller.error = none →
        d.puller.missingHashes ≠ ∅) ∧
      (d.waiter = .waiting → d.puller.error = none) := by
  have hnone := not_locking_of_not_locked hfree
  refine ⟨?_, ?_⟩
  · intro hwaiter herror hmiss
    obtain ⟨handler, hmem, hlocking⟩ := h.completed hwaiter hmiss herror
    exact hnone handler hmem hlocking
  · intro hwaiter
    by_contra herror
    obtain ⟨handler, hmem, hlocking⟩ := h.failed hwaiter herror
    exact hnone handler hmem hlocking

/-- A handler that takes the lock: it stays in it, or changes nothing the
waiting thread looks at. -/
theorem Heard.receive {handler : ResponseHandler} (h : Heard d)
    (hi : d.handlers[i]? = some handler) (hfree : d.locked = false) :
    Heard { d.setHandler i handler.message (d.puller.receive handler.message).2 with
      puller := (d.puller.receive handler.message).1 } := by
  rcases d.puller.receive_cases handler.message with ⟨_, cache, heq⟩ | ⟨ex, heq⟩ | ⟨cache, heq⟩
  · rw [heq]
    exact Heard.of_locking (Threads.exists_mem_set_self hi rfl)
  · rw [heq]
    exact Heard.of_locking (Threads.exists_mem_set_self hi rfl)
  · obtain ⟨hcompleted, hfailed⟩ := h.not_of_free hfree
    rw [heq]
    exact ⟨fun hwaiter hmiss herror => absurd hmiss (hcompleted hwaiter herror),
      fun hwaiter herror => absurd (hfailed hwaiter) herror⟩

omit [Guava] in
/-- A notification wakes the thread that waits, and is allowed only where
one that is about to wait has nothing to wait for. -/
theorem Heard.notify (message : Response)
    (hok : ¬ (d.puller.isCompleted = true ∧ d.puller.error = none ∧ d.waiter = .entering)) :
    Heard (d.setHandler i message .finished).notify := by
  by_cases hwaiting : d.waiter = .waiting
  · have hwoken : (d.setHandler i message .finished).notify.waiter = .woken := if_pos hwaiting
    refine Heard.of_away ?_ ?_
    · rw [hwoken]
      exact nofun
    · rw [hwoken]
      exact nofun
  · have hsame : (d.setHandler i message .finished).notify.waiter = d.waiter := if_neg hwaiting
    refine ⟨?_, ?_⟩
    · rw [hsame]
      rintro (hentering | hwaiter) hmiss herror
      · exact absurd ⟨decide_eq_true hmiss, herror, hentering⟩ hok
      · exact absurd hwaiter hwaiting
    · rw [hsame]
      intro hwaiter
      exact absurd hwaiter hwaiting

theorem Heard.handlerStep {handler : ResponseHandler} (h : Heard d)
    (hi : d.handlers[i]? = some handler) (hok : mayNotify d (.handle i) = true)
    (hstep : d.handlerStep i handler.message handler.phase = some d') : Heard d' := by
  have hallowed : handler.phase = .stored ∨ handler.phase = .failed →
      ¬ (d.puller.isCompleted = true ∧ d.puller.error = none ∧ d.waiter = .entering) := by
    rintro hphase ⟨hcompleted, herror, hentering⟩
    simp only [mayNotify, hi, hcompleted, herror, hentering] at hok
    rcases hphase with hphase | hphase
    · simp [hphase] at hok
    · simp [hphase] at hok
  obtain ⟨message, phase⟩ := handler
  cases phase with
  | delivered =>
    change (if d.locked then none else some _) = some d' at hstep
    split at hstep
    · cases hstep
    · next hlocked =>
      cases hstep
      exact h.receive hi (Bool.eq_false_iff.2 hlocked)
  | removed hash data =>
    cases hstep
    exact Heard.of_locking (Threads.exists_mem_set_self hi rfl)
  | stored =>
    cases hstep
    exact Heard.notify message (hallowed (.inl rfl))
  | failed =>
    cases hstep
    exact Heard.notify message (hallowed (.inr rfl))
  | finished => cases hstep

omit [Guava] in
/-- The waiting thread goes on to wait only where nothing has happened. -/
theorem Heard.waiterStep (h : Heard d) (hstep : d.waiterStep = some d') : Heard d' := by
  unfold FileDownload.waiterStep at hstep
  split at hstep
  · -- from `idle`
    cases hstep
    exact Heard.of_away nofun nofun
  · -- the test of the loop
    cases hstep
    split
    · exact Heard.of_away nofun nofun
    · exact Heard.of_away nofun nofun
  · -- the test of `waitForProgressUpdate`
    cases hstep
    split
    · exact Heard.of_away nofun nofun
    · next hmissing =>
      refine ⟨fun _ hmiss _ => ?_, fun hw => by cases hw⟩
      exact absurd (decide_eq_true hmiss) hmissing
  · next hentering =>
    -- under the lock: the error is looked at, and `wait` begins
    split at hstep
    · cases hstep
    · next hlocked =>
      obtain ⟨hcompleted, _⟩ := h.not_of_free (Bool.eq_false_iff.2 hlocked)
      split at hstep
      · cases hstep
        exact Heard.of_away nofun nofun
      · next hnone =>
        cases hstep
        exact ⟨fun _ hmiss _ => absurd hmiss (hcompleted (.inl hentering) hnone),
          fun _ herror => absurd hnone herror⟩
  · split at hstep
    · cases hstep
    · split at hstep
      · cases hstep
        exact Heard.of_away nofun nofun
      · cases hstep
        exact Heard.of_away nofun nofun
  · cases hstep

theorem heard_of_run
    (hrun : (downloads fileBlocks).Run (fun _ d e => mayNotify d e = true) es d) : Heard d := by
  refine hrun.invariant (I := fun _ d => Heard d) ?_ ?_
  · rintro d ⟨_, _, _, _, p, _, rfl⟩
    exact Heard.of_away nofun nofun
  · intro es d e d' _ h hok hstep
    change d.step e = some d' at hstep
    cases e with
    | deliver message =>
      cases hstep
      have hmore : (∃ handler ∈ d.handlers, handler.phase.locking = true) →
          ∃ handler ∈ d.handlers ++ [⟨message, .delivered⟩], handler.phase.locking = true := by
        rintro ⟨handler, hmem, hlocking⟩
        exact ⟨handler, List.mem_append_left _ hmem, hlocking⟩
      exact ⟨fun hw hmiss hnone => hmore (h.completed hw hmiss hnone),
        fun hw he => hmore (h.failed hw he)⟩
    | handle i =>
      obtain ⟨handler, hi, hstep⟩ := Option.bind_eq_some_iff.1 hstep
      exact h.handlerStep hi hok hstep
    | close => cases hok
    | closing i => cases hok
    | wait => exact h.waiterStep hstep

/-- **No download is lost.** -/
theorem not_lost_of_run
    (hrun : (downloads fileBlocks).Run (fun _ d e => mayNotify d e = true) es d) : ¬ d.Lost := by
  rintro ⟨hwaiting, hhappened, hended⟩
  have h := heard_of_run hrun
  have hpending : ∃ handler ∈ d.handlers, handler.phase.locking = true := by
    by_cases herror : d.puller.error = none
    · have hcompleted := hhappened.resolve_right (not_not.2 herror)
      exact h.completed (.inr hwaiting) (of_decide_eq_true hcompleted) herror
    · exact h.failed hwaiting herror
  obtain ⟨handler, hmem, hlocking⟩ := hpending
  rw [hended handler hmem] at hlocking
  cases hlocking

end FileDownload

/-! ## Uploads -/

section Uploads

variable [FilenameUtils] {source : DataSource} {folder path : String} {u u' : FileUpload}
variable {es : List UploadEvent} {i : ℕ} {thread : UploadThread} {failure : Option JavaException}

/-- A thread that notifies next. -/
def UploadThread.notifies : UploadThread → Bool
  | .handler _ phase _ => phase = .notifying
  | .task _ phase => phase = .notifying
  | .indexListener _ notifying => notifying

/-- A thread that has ended. -/
def UploadThread.ended : UploadThread → Bool
  | .handler _ phase _ => phase = .finished
  | .task _ phase => phase = .finished
  | .indexListener newRecords notifying => newRecords.isEmpty && !notifying

namespace FileUpload

/-- The thread in `waitForComplete` waits though the upload is complete or
an error is set, and every other thread has ended. -/
def Lost (u : FileUpload) : Prop :=
  u.waiter = .waiting ∧ (u.isCompleted = true ∨ u.uploadError ≠ none) ∧
    ∀ thread ∈ u.threads, thread.ended = true

/-- The waiting thread is on its way to wait, or waits, for something
that has happened: it looks at the error only after it has waited, and
at completion no more once its test has failed. -/
def due (u : FileUpload) : Bool :=
  match u.waiter with
  | .idle | .testing => u.uploadError.isSome && !u.isCompleted
  | .entering | .waiting => u.uploadError.isSome || u.isCompleted
  | _ => false

/-- The steps allowed: the last thread that notifies of what has happened
does so while the waiting thread waits, or where it will still look. -/
def MayNotify (u : FileUpload) : UploadEvent → Prop
  | .run i _ => ∀ thread, u.threads[i]? = some thread → thread.notifies = true →
      u.waiter ≠ .waiting → u.due = true →
      Threads.Another (fun thread => thread.notifies = true) u.threads i
  | _ => True

/-- **What a step of a thread does** to what the waiting thread looks at:
it sets something and notifies next, or touches nothing, or notifies. -/
inductive Stepped (u : FileUpload) (i : ℕ) (thread : UploadThread) (u' : FileUpload) : Prop
  | sets (moved : UploadThread) : u'.threads = u.threads.set i moved → moved.notifies = true →
      Stepped u i thread u'
  | passes (moved : UploadThread) (more : List UploadThread) :
      u'.threads = u.threads.set i moved ++ more → thread.notifies = false →
      u'.waiter = u.waiter → u'.isCompleted = u.isCompleted → u'.uploadError = u.uploadError →
      Stepped u i thread u'
  | wakes (moved : UploadThread) : u' = (u.setThread i moved).notifyAll →
      thread.notifies = true → Stepped u i thread u'

omit [Guava] in
theorem taskStep_stepped {hash : String} {phase : TaskPhase}
    (h : u.taskStep i failure hash phase = some u') : Stepped u i (.task hash phase) u' := by
  cases phase with
  | getting =>
    cases failure with
    | none =>
      cases h
      exact .sets _ rfl rfl
    | some ex =>
      cases h
      exact .sets _ rfl rfl
  | notifying =>
    cases h
    exact .wakes _ rfl rfl
  | finished => cases h

theorem listenerStep_stepped {newRecords : List Core.FileInfo} {notifying : Bool}
    (h : u.listenerStep source path i newRecords notifying = some u') :
    Stepped u i (.indexListener newRecords notifying) u' := by
  cases notifying with
  | true =>
    rw [FileUpload.listenerStep] at h
    cases h
    exact .wakes _ rfl rfl
  | false =>
    cases newRecords with
    | nil => cases h
    | cons fileInfo newRecords =>
      rw [FileUpload.listenerStep] at h
      split at h
      · cases h
        exact .sets _ rfl rfl
      · cases h
        exact .passes _ [] (List.append_nil _).symm rfl rfl rfl rfl

theorem handlerStep_stepped {request : Request} {sent : List Response} {phase : HandlerPhase}
    (h : u.handlerStep source i failure request sent phase = some u') :
    Stepped u i (.handler request phase sent) u' := by
  cases phase with
  | delivered =>
    simp only [handlerStep] at h
    split at h
    · cases h
      exact .passes _ [] (List.append_nil _).symm rfl rfl rfl rfl
    · cases h
      exact .passes _ [] (List.append_nil _).symm rfl rfl rfl rfl
    · cases h
      exact .passes _ [] (List.append_nil _).symm rfl rfl rfl rfl
  | answered =>
    rw [handlerStep] at h
    split at h
    · cases h
      exact .passes _ [] (List.append_nil _).symm rfl rfl rfl rfl
    · cases h
      exact .passes _ [_] rfl rfl rfl rfl rfl
  | caught ex =>
    cases failure with
    | none =>
      cases h
      exact .passes _ [] (List.append_nil _).symm rfl rfl rfl rfl
    | some ex' =>
      cases h
      exact .passes _ [] (List.append_nil _).symm rfl rfl rfl rfl
  | refused ex =>
    cases h
    exact .sets _ rfl rfl
  | notifying =>
    cases h
    exact .wakes _ rfl rfl
  | finished => cases h

theorem threadStep_stepped (h : u.threadStep source path i failure thread = some u') :
    Stepped u i thread u' := by
  cases thread with
  | handler request phase sent => exact handlerStep_stepped h
  | task hash phase => exact taskStep_stepped h
  | indexListener newRecords notifying => exact listenerStep_stepped h

omit [Guava] in
/-- Whether the waiting thread is due is read off three fields. -/
theorem due_congr (hwaiter : u'.waiter = u.waiter) (hcompleted : u'.isCompleted = u.isCompleted)
    (herror : u'.uploadError = u.uploadError) : u'.due = u.due := by
  rw [due, hwaiter, hcompleted, herror, due]

/-- **Where the waiting thread is due, somebody notifies.** -/
def Heard (u : FileUpload) : Prop :=
  u.due = true → ∃ thread ∈ u.threads, thread.notifies = true

omit [Guava] in
theorem Heard.stepped (h : Heard u) (hi : u.threads[i]? = some thread)
    (hok : MayNotify u (.run i failure)) (hstep : Stepped u i thread u') : Heard u' := by
  intro hdue
  cases hstep with
  | sets moved hthreads hnotifies =>
    rw [hthreads]
    exact Threads.exists_mem_set_self hi hnotifies
  | passes moved more hthreads hnot hwaiter hcompleted herror =>
    rw [due_congr hwaiter hcompleted herror] at hdue
    obtain ⟨other, hmem, hnotifies⟩ := Threads.exists_mem_set_of_not hi
      (by rw [hnot]; exact Bool.false_ne_true) (h hdue) moved
    rw [hthreads]
    exact ⟨other, List.mem_append_left _ hmem, hnotifies⟩
  | wakes moved heq hnotifies =>
    subst heq
    by_cases hwaiting : u.waiter = .waiting
    · -- the thread that waited is woken, and will look again
      have hwoken : (u.setThread i moved).notifyAll.waiter = .woken := if_pos hwaiting
      rw [due, hwoken] at hdue
      cases hdue
    · have hsame : (u.setThread i moved).notifyAll.waiter = u.waiter := if_neg hwaiting
      rw [due_congr hsame rfl rfl] at hdue
      exact Threads.exists_mem_set_of_ne (hok thread hi hnotifies hwaiting hdue) moved

omit [Guava] in
theorem Heard.waiterStep (h : Heard u) (hstep : u.waiterStep = some u') : Heard u' := by
  unfold FileUpload.waiterStep at hstep
  split at hstep
  · next hidle =>
    cases hstep
    intro hdue
    refine h ?_
    rwa [due, hidle]
  · next htesting =>
    cases hstep
    split
    · intro hdue
      cases hdue
    · next hnot =>
      -- an error that is set already was missed by the test
      intro hdue
      refine h ?_
      have hfalse : u.isCompleted = false := Bool.eq_false_iff.2 hnot
      simp only [due, hfalse, Bool.or_false] at hdue
      simp only [due, htesting, hfalse, Bool.not_false, Bool.and_true]
      exact hdue
  · next hentering =>
    cases hstep
    intro hdue
    refine h ?_
    rwa [due, hentering]
  · split at hstep
    · cases hstep
      intro hdue
      cases hdue
    · next hnone =>
      cases hstep
      intro hdue
      simp only [due, hnone] at hdue
      cases hdue
  · cases hstep

omit [Guava] in
theorem Heard.add (h : Heard u) (more : UploadThread) : Heard (u.addThread more) := by
  intro hdue
  obtain ⟨thread, hmem, hnotifies⟩ := h hdue
  exact ⟨thread, List.mem_append_left _ hmem, hnotifies⟩

theorem heard_of_run
    (hrun : (uploads source folder path).Run (fun _ u e => MayNotify u e) es u) : Heard u := by
  refine hrun.invariant (I := fun _ u => Heard u) ?_ ?_
  · rintro u rfl
    intro hdue
    cases hdue
  · intro es u e u' _ h hok hstep
    change step source folder path u e = some u' at hstep
    cases e with
    | deliver request =>
      rw [step] at hstep
      split at hstep
      · cases hstep
        exact h.add _
      · cases hstep
        exact h
    | indexRecordAquired eventFolder newRecords =>
      rw [step] at hstep
      split at hstep
      · cases hstep
        exact h.add _
      · cases hstep
        exact h
    | run i failure =>
      obtain ⟨thread, hi, hstep⟩ := Option.bind_eq_some_iff.1 hstep
      exact h.stepped hi hok (threadStep_stepped hstep)
    | outOfMemory i =>
      rw [step, outOfMemory] at hstep
      split at hstep
      · next request sent hi =>
        split at hstep
        · cases hstep
          intro hdue
          exact Threads.exists_mem_set_of_not hi Bool.false_ne_true (h hdue) _
        · cases hstep
      · cases hstep
    | shutdown =>
      cases hstep
      exact h
    | wait => exact h.waiterStep hstep

/-- **No upload is lost.** -/
theorem not_lost_of_run
    (hrun : (uploads source folder path).Run (fun _ u e => MayNotify u e) es u) : ¬ u.Lost := by
  rintro ⟨hwaiting, hhappened, hended⟩
  have hdue : u.due = true := by
    rw [due, hwaiting, Bool.or_eq_true]
    rcases hhappened with hcompleted | herror
    · exact .inr hcompleted
    · exact .inl (Option.isSome_iff_ne_none.2 herror)
  obtain ⟨thread, hmem, hnotifies⟩ := heard_of_run hrun hdue
  have hends := hended thread hmem
  cases thread with
  | handler request phase sent =>
    rw [of_decide_eq_true hnotifies] at hends
    cases hends
  | task hash phase =>
    rw [of_decide_eq_true hnotifies] at hends
    cases hends
  | indexListener newRecords notifying =>
    rw [UploadThread.ended, show notifying = true from hnotifies, Bool.not_true,
      Bool.and_false] at hends
    cases hends

end FileUpload

end Uploads

/-- **No lost wake-up**, in a download or an upload, where no thread
notifies for the last time between the other one's test and its wait. -/
theorem no_lost_wakeup [FilenameUtils] (fileBlocks : FileBlocks) (source : DataSource)
    (folder path : String) :
    (∀ es d, (FileDownload.downloads fileBlocks).Run
      (fun _ d e => FileDownload.mayNotify d e = true) es d → ¬ d.Lost) ∧
    ∀ es u, (FileUpload.uploads source folder path).Run
      (fun _ u e => FileUpload.MayNotify u e) es u → ¬ u.Lost :=
  ⟨fun _ _ hrun => FileDownload.not_lost_of_run hrun,
    fun _ _ hrun => FileUpload.not_lost_of_run hrun⟩

end WakeUps

section Sample

attribute [local instance] Sample.guavaOfBlocks Sample.filenameUtils

/-- The puller of the sample list. -/
def Sample.awaitedPuller : BlockPuller :=
  Effect.after (BlockPuller.pullBlocks Sample.iteration (fun n => n) Sample.blocks)
    (BlockPuller.fresh Sample.damagedCache Sample.connection)

theorem Sample.start_awaited :
    (FileDownload.downloads Sample.blocks).start { puller := Sample.awaitedPuller } :=
  ⟨Sample.iteration, fun n => n, Sample.damagedCache, Sample.connection, Sample.awaitedPuller,
    Effect.run_eq_ok_after (by decide +kernel), rfl⟩

/-- Two handlers, each from start to end. -/
def Sample.handlings : List DownloadEvent :=
  [.deliver ⟨0, [0x61], .NO_ERROR⟩, .deliver ⟨1, [0x62], .NO_ERROR⟩, .handle 0,
    .handle 0, .handle 0,
    .handle 1, .handle 1, .handle 1]

theorem Sample.hash_ne : wholeSource.getHash ≠ "" := by decide +kernel

/-- The pushed record, as the peer sends it back. -/
def Sample.echoes : List UploadEvent :=
  [.indexRecordAquired "default" [Sample.file Sample.names_f Sample.hash_ne 1 2], .run 0 none,
    .run 0 none]

/-- The thread waits when the blocks come. -/
def Sample.heardBlocks : List DownloadEvent := [.wait, .wait, .wait, .wait] ++ Sample.handlings

/-- The thread waits when the record comes. -/
def Sample.heardRecord : List UploadEvent := [.wait, .wait, .wait] ++ Sample.echoes

/-- The blocks come between the test and the wait. -/
def Sample.missedBlocks : List DownloadEvent := [.wait, .wait, .wait] ++ Sample.handlings ++ [.wait]

/-- The record comes between the test and the wait. -/
def Sample.missedRecord : List UploadEvent := [.wait, .wait] ++ Sample.echoes ++ [.wait]

/-- A thread that waits when the blocks come and one that waits when the
record comes. -/
theorem no_lost_wakeup_sample :
    (∃ d, (FileDownload.downloads Sample.blocks).Run
        (fun _ d e => FileDownload.mayNotify d e = true) Sample.heardBlocks d ∧
      d.waiter = .woken ∧ d.puller.isCompleted = true ∧ ¬ d.Lost) ∧
    ∃ u, (FileUpload.uploads wholeSource "default" "f").Run
        (fun _ u e => FileUpload.MayNotify u e) Sample.heardRecord u ∧
      u.waiter = .woken ∧ u.isCompleted = true ∧ ¬ u.Lost := by
  have hdownload : (Sample.heardBlocks.foldlM (fun d e =>
      if FileDownload.mayNotify d e then d.step e else none)
      { puller := Sample.awaitedPuller : FileDownload }).any (fun d =>
        decide (d.waiter = .woken ∧ d.puller.isCompleted = true)) = true := by decide +kernel
  have hupload : (Sample.heardRecord.foldlM (fun u e =>
      if !(u.due && decide (u.waiter ≠ .waiting)) then
        FileUpload.step wholeSource "default" "f" u e else none) ({} : FileUpload)).any (fun u =>
        decide (u.waiter = .woken ∧ u.isCompleted = true)) = true := by decide +kernel
  obtain ⟨d, hsteps, hlast⟩ :=
    Machine.exists_run_of_foldlM Sample.start_awaited (fun _ _ _ hstep => hstep) hdownload
  obtain ⟨u, hchecked, hlast'⟩ := Machine.exists_run_of_any hupload
  have hsteps' : (FileUpload.uploads wholeSource "default" "f").Run
      (fun _ u e => FileUpload.MayNotify u e) Sample.heardRecord u := by
    refine hchecked.mono ?_
    intro es u e hok
    cases e with
    | run i failure =>
      intro thread _ _ hnot hdue
      rw [hdue, decide_eq_true hnot] at hok
      cases hok
    | deliver | indexRecordAquired | outOfMemory | shutdown | wait => trivial
  obtain ⟨hdown, hup⟩ := no_lost_wakeup Sample.blocks wholeSource "default" "f"
  obtain ⟨hwoken, hcompleted⟩ := of_decide_eq_true hlast
  obtain ⟨hwoken', hcompleted'⟩ := of_decide_eq_true hlast'
  exact ⟨⟨d, hsteps, hwoken, hcompleted, hdown _ d hsteps⟩,
    u, hsteps', hwoken', hcompleted', hup _ u hsteps'⟩

/-- All blocks of a download, or the record of an upload, arrive after
the test and before the wait: the thread waits for ever. -/
theorem wake_up_lost :
    (∃ d, (FileDownload.downloads Sample.blocks).Reaches Sample.missedBlocks d ∧ d.Lost) ∧
      ∃ u, (FileUpload.uploads wholeSource "default" "f").Reaches Sample.missedRecord u ∧
        u.Lost := by
  have hdownload : (Sample.missedBlocks.foldlM (fun d e =>
      if (fun _ _ => true : FileDownload → DownloadEvent → Bool) d e then d.step e else none)
      { puller := Sample.awaitedPuller : FileDownload }).any (fun d =>
        decide (d.waiter = .waiting ∧ d.puller.isCompleted = true ∧
          ∀ handler ∈ d.handlers, handler.phase = .finished)) = true := by decide +kernel
  have hupload : (Sample.missedRecord.foldlM (fun u e =>
      if (fun _ _ => true : FileUpload → UploadEvent → Bool) u e then
        FileUpload.step wholeSource "default" "f" u e else none) ({} : FileUpload)).any (fun u =>
        decide (u.waiter = .waiting ∧ u.isCompleted = true ∧
          ∀ thread ∈ u.threads, thread.ended = true)) = true := by decide +kernel
  obtain ⟨d, hsteps, hlast⟩ :=
    Machine.exists_run_of_foldlM Sample.start_awaited (fun _ _ _ hstep => hstep) hdownload
  obtain ⟨u, hsteps', hlast'⟩ := Machine.exists_run_of_any hupload
  obtain ⟨hwaiting, hcompleted, hended⟩ := of_decide_eq_true hlast
  obtain ⟨hwaiting', hcompleted', hended'⟩ := of_decide_eq_true hlast'
  refine ⟨⟨d, ?_, hwaiting, .inl hcompleted, hended⟩, u, ?_, hwaiting', .inl hcompleted', hended'⟩
  · exact hsteps.reaches
  · exact hsteps'.reaches

end Sample

end Bep

end ASync
