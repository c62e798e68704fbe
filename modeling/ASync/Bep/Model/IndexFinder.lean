import ASync.Core.Model.FileInfoOrdering
import ASync.Common.Effect
/-!
# A search and its results

What the query runnable of `IndexFinder` makes of the repository's
answers, and the event it posts. The event keeps the list the repository
returned, and `getResultList` sorts that list in place by the finder's
ordering of the moment.
-/

namespace ASync

namespace Bep

open ASync.Core

variable [FilenameUtils]

/-- A `SearchCompletedEvent` with the list it captured, `none` for `null`. -/
structure SearchCompletedEvent where
  query : String
  resultCount : ℤ
  hasTooManyResults : Bool
  hasGoodResults : Bool
  list : Option (List FileInfo)

/-- The query runnable up to its post, by what
`countFileInfoBySearchTerm` and `findFileInfoBySearchTerm` answer. -/
def runQuery (maxResults : ℤ) (query : String) (countFileInfo : Except JavaException ℤ)
    (findFileInfo : Except JavaException (List FileInfo)) :
    Except JavaException SearchCompletedEvent := do
  let count ← countFileInfo
  let hasTooManyResults := decide (maxResults < count)
  let hasGoodResults := decide (0 < count) && decide (count ≤ maxResults)
  let list ← if hasGoodResults then some <$> findFileInfo else pure none
  return { query, resultCount := count, hasTooManyResults, hasGoodResults, list }

/-- The ordering of the finder and an event it posted. -/
structure Results where
  ordering : Comparator FileInfo
  event : SearchCompletedEvent

/-- A call on the finder or the event. -/
abbrev ResultsM := EStateM JavaException Results

def Results.setOrdering (ordering : Comparator FileInfo) : ResultsM Unit :=
  modify fun s => { s with ordering }

/-- The copy is taken first, and it is the shared list that is sorted. -/
def Results.getResultList : ResultsM (List FileInfo) := do
  let s ← get
  let list ← ofExcept (checkNotNull s.event.list
    "this query has no good results (got either too many results or zero results)")
  let res := list
  set { s with event := { s.event with list := some (Comparator.sort s.ordering list) } }
  return res

/-- The calls of a user of the event. -/
inductive ResultsCall
  | setOrdering (ordering : Comparator FileInfo)
  | getResultList

/-- A list returned, with the ordering in force at the call. -/
structure ResultList where
  ordering : Comparator FileInfo
  list : List FileInfo

/-- What the `getResultList` calls among `calls` return. -/
def Results.resultLists (s : Results) : List ResultsCall → List ResultList
  | [] => []
  | .setOrdering ordering :: calls => (Effect.after (setOrdering ordering) s).resultLists calls
  | .getResultList :: calls =>
    match getResultList.run s with
    | .ok list s' => ⟨s.ordering, list⟩ :: s'.resultLists calls
    | .error _ s' => s'.resultLists calls

end Bep

end ASync
