import ASync.Common.Run
import ASync.Bep.Model.BlockPuller
import ASync.Bep.Model.FileUpload
/-!
# A download

The threads that work on one call of `pullBlocks` once it has returned:
the handlers of responses, which run under the lock, those in `close`,
which take no lock, and the one in `waitForComplete`. A step takes one
thread to its next access to what they share.
-/

namespace ASync

namespace Bep

open ASync.Core BlockExchageProtos

/-- Where the handler of a response is. From `removed` to `failed` it
holds the lock. -/
inductive ResponsePhase
  /-- Before it takes the lock. -/
  | delivered
  /-- The hash is no longer missing, its data not yet put. -/
  | removed (hash : String) (data : Bytes)
  /-- The data is put, nobody is notified yet. -/
  | stored
  /-- The error is set, nobody is notified yet. -/
  | failed
  | finished
  deriving DecidableEq

/-- The handler of a response. -/
structure ResponseHandler where
  message : Response
  phase : ResponsePhase := .delivered
  deriving DecidableEq

/-- Which of its collections a thread in `close` has cleared. -/
inductive ClosePhase
  | called
  | missingHashesCleared
  | hashListCleared
  | blocksByHashCleared
  | finished
  deriving DecidableEq

/-- What the threads of a download share. -/
structure FileDownload where
  puller : BlockPuller
  handlers : List ResponseHandler := []
  closers : List ClosePhase := []
  waiter : Waiter := .idle

/-- The steps of a download. -/
inductive DownloadEvent
  /-- A response is delivered. -/
  | deliver (message : Response)
  /-- A handler runs on. -/
  | handle (handler : ℕ)
  /-- A thread calls `close`. -/
  | close
  /-- A thread in `close` runs on. -/
  | closing (closer : ℕ)
  /-- The waiting thread runs on. -/
  | wait
  deriving DecidableEq

namespace ResponsePhase

/-- The handler is inside `synchronized (lock)`. -/
def locking : ResponsePhase → Bool
  | .removed _ _ | .stored | .failed => true
  | _ => false

/-- The handler is between the two collections. -/
def removing : ResponsePhase → Bool
  | .removed _ _ => true
  | _ => false

end ResponsePhase

variable [Guava]

/-- The handler of a response up to its next step: a hash that was missing
is removed, and the data is about to be put. -/
def BlockPuller.receive (p : BlockPuller) (message : Response) : BlockPuller × ResponsePhase :=
  if message.id ∉ p.requestIds then (p, .finished)
  else
    match checkArgument (message.code = .NO_ERROR)
        ("received error response, code = " ++ message.code.name) with
    | .error ex => ({ p with error := some ex }, .failed)
    | .ok _ =>
      let hash := sha256Hex message.data
      let p := { p with blockCache := (p.blockCache.pushBlock message.data).2 }
      if hash ∈ p.missingHashes then
        ({ p with missingHashes := p.missingHashes.erase hash }, .removed hash message.data)
      else (p, .finished)

namespace FileDownload

omit [Guava] in
/-- Some handler holds the lock. -/
def locked (d : FileDownload) : Bool := d.handlers.any fun handler => handler.phase.locking

omit [Guava] in
def setHandler (d : FileDownload) (i : ℕ) (message : Response) (phase : ResponsePhase) :
    FileDownload :=
  { d with handlers := d.handlers.set i ⟨message, phase⟩ }

omit [Guava] in
/-- `lock.notify()`. -/
def notify (d : FileDownload) : FileDownload :=
  { d with waiter := if d.waiter = .waiting then .woken else d.waiter }

/-- `handleResponseMessageReceivedEvent`, from one access to the next. -/
def handlerStep (d : FileDownload) (i : ℕ) (message : Response) :
    ResponsePhase → Option FileDownload
  | .delivered =>
    if d.locked then none
    else some { d.setHandler i message (d.puller.receive message).2 with
      puller := (d.puller.receive message).1 }
  | .removed hash data => some { d.setHandler i message .stored with
      puller := { d.puller with blocksByHash := d.puller.blocksByHash.merge hash data } }
  | .stored => some (d.setHandler i message .finished).notify
  | .failed => some (d.setHandler i message .finished).notify
  | .finished => none

omit [Guava] in
/-- `close`, which clears one collection after the other. -/
def closeStep (d : FileDownload) (i : ℕ) : ClosePhase → Option FileDownload
  | .called => some { d with
      closers := d.closers.set i .missingHashesCleared
      puller := { d.puller with missingHashes := ∅ } }
  | .missingHashesCleared => some { d with
      closers := d.closers.set i .hashListCleared
      puller := { d.puller with hashList := [] } }
  | .hashListCleared => some { d with
      closers := d.closers.set i .blocksByHashCleared
      puller := { d.puller with blocksByHash := ∅ } }
  | .blocksByHashCleared => some { d with
      closers := d.closers.set i .finished
      puller := { d.puller with listening := false } }
  | .finished => none

omit [Guava] in
/-- `waitForComplete`, and `waitForProgressUpdate` in its loop. -/
def waiterStep (d : FileDownload) : Option FileDownload :=
  match d.waiter with
  | .idle => some { d with waiter := .testing }
  | .testing => some { d with waiter := if d.puller.isCompleted then .returned else .retesting }
  | .retesting => some { d with waiter := if d.puller.isCompleted then .testing else .entering }
  | .entering =>
    if d.locked then none
    else
      match d.puller.error with
      | some ex => some { d with waiter := .threw ex }
      | none => some { d with waiter := .waiting }
  | .woken =>
    if d.locked then none
    else
      match d.puller.error with
      | some ex => some { d with waiter := .threw ex }
      | none => some { d with waiter := .testing }
  | _ => none

/-- Takes a step. -/
def step (d : FileDownload) : DownloadEvent → Option FileDownload
  | .deliver message => some { d with handlers := d.handlers ++ [⟨message, .delivered⟩] }
  | .handle i => d.handlers[i]?.bind fun handler => d.handlerStep i handler.message handler.phase
  | .close => some { d with closers := d.closers ++ [.called] }
  | .closing i => d.closers[i]?.bind (d.closeStep i)
  | .wait => d.waiterStep

/-- The runs of a download, from when `pullBlocks` has returned on a new
puller. -/
def downloads (fileBlocks : FileBlocks) : Machine FileDownload DownloadEvent where
  start d := ∃ iteration random blockCache connectionHandler p,
    (BlockPuller.pullBlocks iteration random fileBlocks).run
        { blockCache, connectionHandler : BlockPuller } = .ok () p ∧
      d = { puller := p }
  step d e d' := d.step e = some d'

end FileDownload

end Bep

end ASync
