import ASync.Bep.Model.IndexBrowser
/-!
# The preload runnable

A browser with its executor. The runnable takes the last preload job,
looks up what the job's path needs one lookup after another, and removes
the job; calls on the browser and updates of the index come in between. A
lookup that throws ends the runnable where it is.
-/

namespace ASync

namespace Bep

open ASync.Core ASync.Repository

variable [FilenameUtils]

/-- A lookup of the runnable. -/
inductive Lookup
  /-- `getFileInfoByAbsolutePath`. -/
  | info (path : String)
  /-- The record of the path's parent, which is listed next. -/
  | parentOf (path : String)
  /-- `listFiles`. -/
  | list (path : String)
  /-- `listFiles` of the job's path, whose directories are listed next. -/
  | children (path : String)
  deriving DecidableEq

/-- The lookups for a path. -/
def lookupsOf (preloadPath : String) : List Lookup :=
  if PathUtils.isRoot preloadPath then [.info preloadPath, .children preloadPath]
  else [.info preloadPath, .parentOf preloadPath, .children preloadPath]

/-- The directories listed after their parent was. -/
def directoriesOf (list : List FileInfo) : List Lookup :=
  (list.filter fun record => record.path ≠ PathUtils.PARENT_PATH && record.isDirectory).map
    fun record =>
    .list record.path

open IndexBrowser in
/-- One lookup, and those that follow from it. -/
def Lookup.run (fault : Fault) (rows : List FileInfoRow) : Lookup → BrowserM (List Lookup)
  | .info path => do
    let _ ← getFileInfoByAbsolutePath fault path
    return []
  | .parentOf path => do
    let parent ← ofExcept (PathUtils.getParentPath path)
    let _ ← getFileInfoByAbsolutePath fault parent
    return [.list parent]
  | .list path => do
    let _ ← listFiles fault rows path
    return []
  | .children path => do
    let list ← listFiles fault rows path
    return directoriesOf list

/-- The directory a lookup lists, if it lists one. -/
def Lookup.listed : Lookup → Option String
  | .info _ => none
  | .parentOf _ => none
  | .list path => some path
  | .children path => some path

/-- A runnable that has taken its job. -/
structure Runnable where
  preloadPath : String
  lookups : List Lookup
  deriving DecidableEq

/-- A browser, its executor, and the threads in `waitForCacheReady`: those
that wait, and those that were notified. -/
structure Preloading where
  browser : IndexBrowser
  running : Option Runnable := none
  waiting : ℕ := 0
  notified : ℕ := 0

namespace Preloading

/-- The executor begins a runnable, which takes the last job; without a
job its `checkArgument` fails. -/
def begun (s : Preloading) : Preloading :=
  match s.browser.preloadJobs.getLast? with
  | none => { s with browser := { s.browser with submitted := s.browser.submitted - 1 } }
  | some preloadPath =>
    { s with
      browser := { s.browser with submitted := s.browser.submitted - 1 }
      running := some ⟨preloadPath, lookupsOf preloadPath⟩ }

/-- A lookup of the runnable returns or throws. -/
def lookedUp (s : Preloading) (fault : Fault) (rows : List FileInfoRow) (preloadPath : String)
    (lookup : Lookup) (lookups : List Lookup) : Preloading :=
  match (lookup.run fault rows).run s.browser with
  | .ok more browser => { s with browser, running := some ⟨preloadPath, more ++ lookups⟩ }
  | .error _ browser => { s with browser, running := none }

/-- The job is removed; the runnable submits itself again where others are
left, and notifies the waiting threads where none is. -/
def finished (s : Preloading) (preloadPath : String) : Preloading :=
  let browser := { s.browser with preloadJobs := s.browser.preloadJobs.erase preloadPath }
  if browser.isCacheReady then
    { s with browser, running := none, waiting := 0, notified := s.notified + s.waiting }
  else
    { s with browser := { browser with submitted := browser.submitted + 1 }, running := none }

end Preloading

/-- What the browser's user, the index and the executor do. -/
inductive PreloadEvent
  /-- A call on the browser, or the event of a change of the index. -/
  | call (event : BrowserEvent)
  /-- The repository is written, and the event not posted yet. -/
  | indexUpdated (indexRepository : SqlRepository)
  | begin
  | lookup (fault : Fault) (rows : List FileInfoRow)
  | finish
  /-- A thread calls `waitForCacheReady`, or was notified there. -/
  | waitForCacheReady
  | notified

/-- A thread that finds jobs left waits. -/
def Preloading.checked (s : Preloading) : Preloading :=
  if s.browser.isCacheReady then s else { s with waiting := s.waiting + 1 }

/-- A browser in use while its executor preloads. -/
def preloading : Machine Preloading PreloadEvent where
  start s := ∃ b, browsing.start b ∧ s = { browser := b }
  step s e s' :=
    match e with
    | .call event => ∃ b, browsing.step s.browser event b ∧ s' = { s with browser := b }
    | .indexUpdated indexRepository => s' = { s with browser := { s.browser with indexRepository } }
    | .begin => s.running = none ∧ 0 < s.browser.submitted ∧ s' = s.begun
    | .lookup fault rows => ∃ preloadPath lookup lookups,
        s.running = some ⟨preloadPath, lookup :: lookups⟩ ∧
        (∀ path ∈ lookup.listed, s.browser.indexRepository.Selects s.browser.folder path rows) ∧
        s' = s.lookedUp fault rows preloadPath lookup lookups
    | .finish => ∃ preloadPath, s.running = some ⟨preloadPath, []⟩ ∧ s' = s.finished preloadPath
    | .waitForCacheReady => s' = s.checked
    | .notified => 0 < s.notified ∧
        s' = Preloading.checked { s with notified := s.notified - 1 }

end Bep

end ASync
