import ASync.Common.Run
import ASync.Bep.Model.DataSource
/-!
# An upload

The threads of `BlockPusher.pushFile` and of its `FileUploadObserver`:
those that handle a request of the peer, the tasks that wait for an
answer to be sent, those that handle an `IndexRecordAquiredEvent`, and
the one in `waitForComplete`. A step takes one thread to its next access
to what they share. A block `synchronized (updateLock)` of this code only
notifies or waits, so it is one step.
-/

namespace ASync

namespace Bep

open ASync.Core BlockExchageProtos

/-- Where the handler of a request is. -/
inductive HandlerPhase
  /-- Before the block is read. -/
  | delivered
  /-- The answer is sent, the task that waits for it not submitted. -/
  | answered
  /-- In the `catch`. -/
  | caught (ex : JavaException)
  /-- The error response is sent. -/
  | refused (ex : JavaException)
  /-- The error is set, nobody is notified yet. -/
  | notifying
  | finished
  deriving DecidableEq

/-- Where a task that waits for an answer to be sent is. -/
inductive TaskPhase
  | getting
  | notifying
  | finished
  deriving DecidableEq

section Threads

variable [FilenameUtils]

/-- A thread, with what it was started with: the handler of a request,
which keeps the responses it has sent, a task for the hash of a block, or
the index listener before the records still to be looked at. -/
inductive UploadThread
  | handler (request : Request) (phase : HandlerPhase) (sent : List Response)
  | task (hash : String) (phase : TaskPhase)
  | indexListener (newRecords : List Core.FileInfo) (notifying : Bool)
  deriving DecidableEq

end Threads

/-- Where the thread in `waitForComplete` is. -/
inductive Waiter
  /-- It has not called it yet. -/
  | idle
  /-- Before the test of the loop. -/
  | testing
  /-- Before the test `waitForProgressUpdate` makes itself. -/
  | retesting
  /-- The test failed, and `wait` is next. -/
  | entering
  /-- In `wait`. -/
  | waiting
  /-- Notified. -/
  | woken
  | returned
  /-- Out of it with an exception around the error that was set. -/
  | threw (ex : JavaException)
  deriving DecidableEq

/-- What the threads of an upload share. -/
structure FileUpload [FilenameUtils] where
  threads : List UploadThread := []
  /-- Whether `close` has shut down the executor of the tasks. -/
  isShutdown : Bool := false
  sentBlocks : Finset String := ∅
  uploadError : Option JavaException := none
  isCompleted : Bool := false
  waiter : Waiter := .idle

/-- The steps of an upload. -/
inductive UploadEvent [FilenameUtils]
  /-- A request is delivered. -/
  | deliver (request : Request)
  /-- An `IndexRecordAquiredEvent` is delivered. -/
  | indexRecordAquired (folder : String) (newRecords : List Core.FileInfo)
  /-- A thread runs on; the connection may fail it. -/
  | run (thread : ℕ) (failure : Option JavaException)
  /-- A handler finds no memory for the block. -/
  | outOfMemory (thread : ℕ)
  /-- `close`, after it unregistered the listeners: what the bus has
  dispatched by then is delivered all the same. -/
  | shutdown
  /-- The waiting thread runs on. -/
  | wait

namespace FileUpload

variable [Guava] [FilenameUtils]

omit [Guava] in
def setThread (u : FileUpload) (i : ℕ) (thread : UploadThread) : FileUpload :=
  { u with threads := u.threads.set i thread }

omit [Guava] in
def addThread (u : FileUpload) (thread : UploadThread) : FileUpload :=
  { u with threads := u.threads ++ [thread] }

omit [Guava] in
/-- `updateLock.notifyAll()`. -/
def notifyAll (u : FileUpload) : FileUpload :=
  { u with waiter := if u.waiter = .waiting then .woken else u.waiter }

/-- The test of the index listener. -/
def isPushed (source : DataSource) (path : String) (fileInfo : Core.FileInfo) : Bool :=
  fileInfo.path = path ∧ fileInfo.hash = some source.getHash

/-- `handleRequestMessageReceivedEvent`, from one access to the next. -/
def handlerStep (source : DataSource) (u : FileUpload) (i : ℕ) (failure : Option JavaException)
    (request : Request) (sent : List Response) : HandlerPhase → Option FileUpload
  | .delivered =>
    match source.getBlock request.offset request.size (base16Encode request.hash), failure with
    | .error ex, _ => some (u.setThread i (.handler request (.caught ex) sent))
    | .ok _, some ex => some (u.setThread i (.handler request (.caught ex) sent))
    | .ok data, none =>
      some (u.setThread i (.handler request .answered (sent ++ [⟨request.id, data, .NO_ERROR⟩])))
  | .answered =>
    if u.isShutdown then
      some (u.setThread i
        (.handler request (.caught (.runtime "RejectedExecutionException")) sent))
    else
      some ((u.setThread i (.handler request .finished sent)).addThread
        (.task (base16Encode request.hash) .getting))
  | .caught ex =>
    match failure with
    | none =>
      some (u.setThread i (.handler request (.refused ex) (sent ++ [⟨request.id, [], .GENERIC⟩])))
    -- what is thrown in the `catch` leaves the handler
    | some _ => some (u.setThread i (.handler request .finished sent))
  | .refused ex =>
    some { u.setThread i (.handler request .notifying sent) with uploadError := some ex }
  | .notifying => some (u.setThread i (.handler request .finished sent)).notifyAll
  | .finished => none

omit [Guava] in
/-- The task that waits for an answer to be sent. -/
def taskStep (u : FileUpload) (i : ℕ) (failure : Option JavaException) (hash : String) :
    TaskPhase → Option FileUpload
  | .getting =>
    match failure with
    | none =>
      some { u.setThread i (.task hash .notifying) with sentBlocks := insert hash u.sentBlocks }
    | some ex => some { u.setThread i (.task hash .notifying) with uploadError := some ex }
  | .notifying => some (u.setThread i (.task hash .finished)).notifyAll
  | .finished => none

/-- `handleIndexRecordAquiredEvent`, a record or a notification a step. -/
def listenerStep (source : DataSource) (path : String) (u : FileUpload) (i : ℕ) :
    List Core.FileInfo → Bool → Option FileUpload
  | newRecords, true => some (u.setThread i (.indexListener newRecords false)).notifyAll
  | [], false => none
  | fileInfo :: newRecords, false =>
    if isPushed source path fileInfo then
      some { u.setThread i (.indexListener newRecords true) with isCompleted := true }
    else some (u.setThread i (.indexListener newRecords false))

def threadStep (source : DataSource) (path : String) (u : FileUpload) (i : ℕ)
    (failure : Option JavaException) : UploadThread → Option FileUpload
  | .handler request phase sent => handlerStep source u i failure request sent phase
  | .task hash phase => taskStep u i failure hash phase
  | .indexListener newRecords notifying => listenerStep source path u i newRecords notifying

omit [Guava] in
/-- `waitForComplete`, and `waitForProgressUpdate` in its loop. -/
def waiterStep (u : FileUpload) : Option FileUpload :=
  match u.waiter with
  | .idle => some { u with waiter := .testing }
  | .testing => some { u with waiter := if u.isCompleted then .returned else .entering }
  | .entering => some { u with waiter := .waiting }
  | .woken =>
    match u.uploadError with
    | some ex => some { u with waiter := .threw ex }
    | none => some { u with waiter := .testing }
  | _ => none

/-- A handler without memory for the block ends with an `Error`, which no
`catch` takes. -/
def outOfMemory (u : FileUpload) (i : ℕ) : Option FileUpload :=
  match u.threads[i]? with
  | some (.handler request .delivered sent) =>
    if 0 < request.size then some (u.setThread i (.handler request .finished sent)) else none
  | _ => none

/-- Takes a step. Both listeners pass over what is not for the file. -/
def step (source : DataSource) (folder path : String) (u : FileUpload) :
    UploadEvent → Option FileUpload
  | .deliver request =>
    if request.folder = folder ∧ request.name = path then
      some (u.addThread (.handler request .delivered []))
    else some u
  | .indexRecordAquired eventFolder newRecords =>
    if eventFolder = folder then some (u.addThread (.indexListener newRecords false)) else some u
  | .run i failure => u.threads[i]?.bind (threadStep source path u i failure)
  | .outOfMemory i => u.outOfMemory i
  | .shutdown => some { u with isShutdown := true }
  | .wait => u.waiterStep

/-- The runs of an upload, from when `pushFile` has registered its
listeners. -/
def uploads (source : DataSource) (folder path : String) : Machine FileUpload UploadEvent :=
  Machine.ofStep {} (step source folder path)

end FileUpload

end Bep

end ASync
