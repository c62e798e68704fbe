import ASync.Common.Run
import ASync.Core.Model.ConfigurationService
/-!
# Persisting the configuration

Threads edit the configuration and have it stored, at once or by the
executor. A step takes a thread to its next access to the flag, the
configuration or the file. The executor has one thread, which runs the
tasks in the order they were submitted in.
-/

namespace ASync

namespace Core

/-- Where a call of `storeConfiguration` is. -/
inductive StoreConfiguration
  | called
  /-- The flag was set, and is cleared. -/
  | cleared
  /-- The configuration is exported, and not written. -/
  | exported (properties : Properties)
  | returned

/-- A thread that persists. -/
inductive PersistThread
  | persistNow
  | persistLater
  /-- `persistLater`, before it submits the task. -/
  | submitting
  /-- In `storeConfiguration`, on the executor or not. -/
  | storing (executor : Bool) (store : StoreConfiguration)

/-- How writing the file ends. -/
inductive WriteOutcome
  | stored
  /-- An `IOException`, and what the file has in it then. -/
  | failed (content : Option Properties)

/-- What the file has in it after some properties were to be written. -/
def WriteOutcome.left (properties : Properties) : WriteOutcome → Option Properties
  | .stored => some properties
  | .failed content => content

section Persisting

variable [Guava] [Base64] [Gson (List FolderConfig)] [Gson (List DeviceConfig)] [JavaSystem]

/-- The configuration in memory and in its file, the flag, and the threads
that persist, tasks of the executor among them. -/
structure Persisting where
  memory : ConfigurationService
  isDirty : Bool := false
  file : Option Properties
  threads : List PersistThread := []

inductive PersistEvent
  | edit (edit : ConfigurationService.Edit)
  | persistNow
  | persistLater
  /-- A thread goes on. -/
  | run (thread : ℕ) (outcome : WriteOutcome)

namespace Persisting

/-- A thread moves on to somewhere. -/
def moved (s : Persisting) (i : ℕ) (thread : PersistThread) : Persisting :=
  { s with threads := s.threads.set i thread }

/-- `storeConfiguration`. -/
def storeConfiguration (s : Persisting) (i : ℕ) (executor : Bool) (outcome : WriteOutcome) :
    StoreConfiguration → Persisting
  | .called =>
    if s.memory.configuration.isSome then
      if s.isDirty then { s.moved i (.storing executor .cleared) with isDirty := false }
      else s.moved i (.storing executor .returned)
    -- no file is set
    else s.moved i (.storing executor .returned)
  | .cleared => s.moved i (.storing executor (.exported s.memory.exported))
  -- an exception is logged
  | .exported properties =>
    { s.moved i (.storing executor .returned) with file := outcome.left properties }
  | .returned => s

def ran (s : Persisting) (i : ℕ) (outcome : WriteOutcome) : PersistThread → Persisting
  | .persistNow => { s.moved i (.storing false .called) with isDirty := true }
  | .persistLater => { s.moved i .submitting with isDirty := true }
  | .submitting =>
    { s with threads := s.threads.set i (.storing false .returned) ++ [.storing true .called] }
  | .storing executor store => s.storeConfiguration i executor outcome store

/-- A task waits for those submitted before it. -/
def MayRun (s : Persisting) (i : ℕ) (thread : PersistThread) : Prop :=
  ∀ store, thread = .storing true store → ∀ earlier, .storing true earlier ∈ s.threads.take i →
    earlier = .returned

/-- No persist call and no store task is pending or running. -/
def Idle (s : Persisting) : Prop :=
  ∀ thread ∈ s.threads, ∃ executor, thread = .storing executor .returned

end Persisting

/-- A configuration in use, from when it was loaded. -/
def persisting (c : ConfigurationService) : Machine Persisting PersistEvent where
  start s := s.memory = c ∧ s.isDirty = false ∧ s.threads = []
  step s e s' :=
    match e with
    | .edit edit => s' = { s with memory := s.memory.edit edit }
    | .persistNow => s' = { s with threads := s.threads ++ [.persistNow] }
    | .persistLater => s' = { s with threads := s.threads ++ [.persistLater] }
    | .run i outcome => ∃ thread, s.threads[i]? = some thread ∧ s.MayRun i thread ∧
        s' = s.ran i outcome thread

end Persisting

end Core

end ASync
