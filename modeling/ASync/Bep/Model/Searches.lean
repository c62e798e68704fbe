import ASync.Bep.Model.IndexFinder
import ASync.Common.Run
import ASync.Core.Model.ConfigurationService
/-!
# Searches of several threads

An `IndexFinder` with its query executor, its event bus and the threads
that call it. A submit cancels the query before; a cancelled query that
was not begun is skipped, and one that runs goes on. The bus hands an event
to the listeners registered when it is posted, each on a thread of its own.
-/

namespace ASync

namespace Bep

open ASync.Core

variable [FilenameUtils]

/-- A query, told apart from others of its term. -/
structure Search where
  id : ℕ
  term : String
  deriving DecidableEq

/-- The future of a query the executor has not begun. -/
structure QueryTask where
  search : Search
  cancelled : Bool
  deriving DecidableEq

/-- A thread in `doSearch`. It holds its lock until it waits, which is
right after it submitted. -/
inductive SearchThread
  /-- The listener is registered. -/
  | registered (term : String)
  /-- In `lock.wait`, with what the listener has set. -/
  | waiting (search : Search) (reference : Option SearchCompletedEvent)
  /-- The listener is unregistered. -/
  | finished

/-- The query a thread is blocked for: none once its reference is set. -/
def SearchThread.blockedOn : SearchThread → Option Search
  | .waiting search none => some search
  | _ => none

/-- The listener of the thread gets the events posted. -/
def SearchThread.listens : SearchThread → Bool
  | .registered _ => true
  | .waiting _ _ => true
  | .finished => false

/-- An event on its way to the listener of a thread. -/
structure Delivery where
  thread : ℕ
  event : SearchCompletedEvent

structure IndexFinder where
  maxResults : ℤ
  threads : List SearchThread := []
  queue : List QueryTask := []
  running : Option Search := none
  previousQuery : Option ℕ := none
  nextId : ℕ := 0
  deliveries : List Delivery := []

namespace IndexFinder

/-- `Future.cancel(false)` on a query not begun. -/
def cancel (id : Option ℕ) (task : QueryTask) : QueryTask :=
  if id = some task.search.id then { task with cancelled := true } else task

def submitSearch (s : IndexFinder) (term : String) : Except JavaException IndexFinder := do
  checkArgument (!isBlank (some term)) "query term cannot be blank"
  return { s with
    queue := s.queue.map (cancel s.previousQuery) ++ [⟨⟨s.nextId, term⟩, false⟩]
    previousQuery := some s.nextId
    nextId := s.nextId + 1 }

/-- `EventBus.post`. -/
def post (s : IndexFinder) (event : SearchCompletedEvent) : IndexFinder :=
  let listeners := (List.range s.threads.length).filter fun i =>
    (s.threads[i]?.map SearchThread.listens).getD false
  { s with deliveries := s.deliveries ++ listeners.map fun i => ⟨i, event⟩ }

/-- A listener sets the reference of its thread and notifies it, where the
event is for the thread's term. -/
def handled (event : SearchCompletedEvent) : SearchThread → SearchThread
  | .waiting search reference =>
    .waiting search (if event.query = search.term then some event else reference)
  | thread => thread

end IndexFinder

/-- What the threads, the executor and the bus do. -/
inductive SearchEvent
  /-- A thread calls `doSearch` and registers its listener. -/
  | register (term : String)
  /-- A registered thread submits its query, and waits. -/
  | submit (thread : ℕ)
  /-- A call of `submitSearch` whose caller does not wait. -/
  | submitSearch (term : String)
  /-- The executor takes the next query. -/
  | begin
  /-- The repository answers the query that runs. -/
  | complete (countFileInfo : Except JavaException ℤ)
      (findFileInfo : Except JavaException (List FileInfo))
  /-- A listener gets an event. -/
  | deliver (delivery : ℕ)
  /-- A notified thread returns from `doSearch`. -/
  | wake (thread : ℕ)
  /-- A waiting thread is interrupted. -/
  | interrupt (thread : ℕ)

open IndexFinder in
/-- One step of a finder that is not closed. -/
def IndexFinder.step (s : IndexFinder) : SearchEvent → Option IndexFinder
  | .register term => some { s with threads := s.threads ++ [.registered term] }
  | .submit i =>
    match s.threads[i]? with
    | some (.registered term) =>
      match s.submitSearch term with
      | .ok s' => some { s' with threads := s'.threads.set i (.waiting ⟨s.nextId, term⟩ none) }
      | .error _ => some { s with threads := s.threads.set i .finished }
    | _ => none
  | .submitSearch term =>
    match s.submitSearch term with
    | .ok s' => some s'
    | .error _ => some s
  | .begin =>
    match s.running, s.queue with
    | none, task :: queue =>
      if task.cancelled then some { s with queue }
        else some { s with queue, running := some task.search }
    | _, _ => none
  | .complete countFileInfo findFileInfo =>
    match s.running with
    | none => none
    | some search =>
      match runQuery s.maxResults search.term countFileInfo findFileInfo with
      | .ok event => some ({ s with running := none }.post event)
      | .error _ => some { s with running := none }
  | .deliver k =>
    match s.deliveries[k]? with
    | none => none
    | some ⟨i, event⟩ =>
      match s.threads[i]? with
      | none => none
      | some (.registered term) =>
        -- the thread holds the lock the listener needs
        if event.query = term then none else some { s with deliveries := s.deliveries.eraseIdx k }
      | some thread =>
        some { s with
          deliveries := s.deliveries.eraseIdx k
          threads := s.threads.set i (handled event thread) }
  | .wake i =>
    match s.threads[i]? with
    | some (.waiting _ (some _)) => some { s with threads := s.threads.set i .finished }
    | _ => none
  | .interrupt i =>
    match s.threads[i]? with
    | some (.waiting _ _) => some { s with threads := s.threads.set i .finished }
    | _ => none

/-- A finder in use before it is closed. -/
def searching (maxResults : ℤ) : Machine IndexFinder SearchEvent :=
  Machine.ofStep { maxResults } IndexFinder.step

end Bep

end ASync
