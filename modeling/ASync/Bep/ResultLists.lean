import ASync.Bep.Model.IndexFinder
import ASync.Core.Helpers.FileInfoOrdering
/-!
# The order of search results

`getResultList` copies the list the repository returned, sorts the list,
and returns the copy. So a call returns what the sort of the call before
left, and the first call what the repository returned:
`resultLists_sorted_iff` says for which calls that is nonetheless sorted.
-/

namespace ASync

namespace Bep

open ASync.Core Effect Comparator

section Results

variable [FilenameUtils]
variable {ordering : Comparator FileInfo} {sorts : List (Comparator FileInfo)}
variable {list current : List FileInfo} {calls : List ResultsCall} {event : SearchCompletedEvent}
variable {a b : FileInfo}

/-! ## One call -/

/-- **What a query with good results posts**: the repository's list. -/
theorem list_of_hasGoodResults {maxResults count : ℤ} {query : String}
    (h : runQuery maxResults query (.ok count) (.ok list) = .ok event)
    (hgood : event.hasGoodResults = true) : event.list = some list := by
  rw [runQuery] at h
  cases hcount : decide (0 < count) && decide (count ≤ maxResults) with
  | false =>
    simp only [bind, Except.bind, hcount] at h
    obtain rfl := Except.ok.inj h
    cases hgood
  | true =>
    simp only [bind, Except.bind, hcount] at h
    obtain rfl := Except.ok.inj h
    rfl

/-- **One call**: the list as it was, and the list sorted behind it. -/
theorem resultLists_getResultList (h : event.list = some list) :
    Results.resultLists ⟨ordering, event⟩ (.getResultList :: calls) =
      ⟨ordering, list⟩ ::
        Results.resultLists ⟨ordering, { event with list := some (sort ordering list) }⟩ calls := by
  have hrun : Results.getResultList.run (⟨ordering, event⟩ : Results) =
      .ok list ⟨ordering, { event with list := some (sort ordering list) }⟩ := by
    unfold Results.getResultList
    rw [run_get_bind, h]
    rfl
  rw [Results.resultLists, hrun]

/-! ## The order left by sorts -/

/-- Of two records of a list, one is before the other after sorts of it,
the latest first: the latest that does not tie them has decided, or the
list. -/
def Precedes (list : List FileInfo) : List (Comparator FileInfo) → FileInfo → FileInfo → Prop
  | [], a, b => [a, b].Sublist list
  | c :: sorts, a, b =>
    (c a b = .lt ∧ a ∈ list ∧ b ∈ list) ∨ (c a b = .eq ∧ Precedes list sorts a b)

/-- The list after the sorts, the latest first. -/
def sortedBy (list : List FileInfo) (sorts : List (Comparator FileInfo)) : List FileInfo :=
  sorts.foldr sort list

theorem perm_sortedBy (list : List FileInfo) (sorts : List (Comparator FileInfo)) :
    (sortedBy list sorts).Perm list := by
  induction sorts with
  | nil => exact List.Perm.refl list
  | cons c sorts ih => exact (sort_perm c _).trans ih

theorem pair_sublist_sortedBy (hsorts : ∀ c ∈ sorts, Std.TransCmp c) :
    [a, b].Sublist (sortedBy list sorts) ↔ Precedes list sorts a b := by
  induction sorts with
  | nil => exact Iff.rfl
  | cons c sorts ih =>
    have htrans : Std.TransCmp c := hsorts c List.mem_cons_self
    have hrest := ih fun c hc => hsorts c (List.mem_cons_of_mem _ hc)
    have hmem : ∀ x, x ∈ sortedBy list sorts ↔ x ∈ list :=
      fun x => (perm_sortedBy list sorts).mem_iff
    unfold sortedBy Precedes
    rw [List.foldr_cons, pair_sublist_sort, ← sortedBy, hrest, hmem, hmem]

/-! ## A sequence of calls -/

/-- The calls find the records in order: none is asked for in an ordering
that has two records the other way round than the sorts before left them. -/
def Prepared (list : List FileInfo) :
    List (Comparator FileInfo) → Comparator FileInfo → List ResultsCall → Prop
  | _, _, [] => True
  | sorts, _, .setOrdering ordering :: calls => Prepared list sorts ordering calls
  | sorts, ordering, .getResultList :: calls =>
    (∀ a b, Precedes list sorts a b → ordering a b ≠ .gt) ∧
      Prepared list (ordering :: sorts) ordering calls

/-- The orderings set by calls. -/
def orderings (calls : List ResultsCall) : List (Comparator FileInfo) :=
  calls.filterMap fun
    | .setOrdering ordering => some ordering
    | .getResultList => none

theorem sorted_sortedBy_iff (hsorts : ∀ c ∈ sorts, Std.TransCmp c) :
    Sorted ordering (sortedBy list sorts) ↔ ∀ a b, Precedes list sorts a b →
    ordering a b ≠ .gt := by
  rw [sorted_iff]
  refine forall_congr' fun a => forall_congr' fun b => ?_
  rw [pair_sublist_sortedBy hsorts, Ordering.isLE_iff_ne_gt]

/-- The calls from the list some sorts left. -/
theorem resultLists_sorted_iff_from (hlist : event.list = some (sortedBy list sorts))
    (hsorts : ∀ c ∈ sorts, Std.TransCmp c)
    (horderings : ∀ c ∈ ordering :: orderings calls, Std.TransCmp c) :
    (∀ r ∈ Results.resultLists ⟨ordering, event⟩ calls,
      r.list.Perm list ∧ Sorted r.ordering r.list) ↔ Prepared list sorts ordering calls := by
  induction calls generalizing ordering sorts event with
  | nil => exact ⟨fun _ => trivial, fun _ r hr => by cases hr⟩
  | cons call calls ih =>
    rcases call with next | _
    · -- the list is left alone
      have hset : ∀ c ∈ next :: orderings calls, Std.TransCmp c :=
        fun c hc => horderings c (List.mem_cons_of_mem ordering hc)
      exact ih hlist hsorts hset
    · have hnow : Std.TransCmp ordering := horderings ordering List.mem_cons_self
      have hsorts' : ∀ c ∈ ordering :: sorts, Std.TransCmp c :=
        List.forall_mem_cons.2 ⟨hnow, hsorts⟩
      rw [resultLists_getResultList hlist, List.forall_mem_cons, Prepared,
        ← sorted_sortedBy_iff hsorts]
      exact and_congr (and_iff_right (perm_sortedBy list sorts)) (ih rfl hsorts' horderings)

/-- **When search results are sorted.** Every list returned has the
repository's records; all are sorted exactly when the repository's list is
already in the order of the first call, and no later call asks for two
records the other way round than the orderings of the calls before it. -/
theorem resultLists_sorted_iff {maxResults count : ℤ} {query : String}
    (h : runQuery maxResults query (.ok count) (.ok list) = .ok event)
    (hgood : event.hasGoodResults = true)
    (horderings : ∀ c ∈ ordering :: orderings calls, Std.TransCmp c) :
    (∀ r ∈ Results.resultLists ⟨ordering, event⟩ calls,
      r.list.Perm list ∧ Sorted r.ordering r.list) ↔ Prepared list [] ordering calls := by
  have hlist : event.list = some (sortedBy list []) := list_of_hasGoodResults h hgood
  exact resultLists_sorted_iff_from hlist (fun c hc => by cases hc) horderings

end Results

/-! ## A sample search -/

section Sample

attribute [local instance] FilenameUtils.commonsIo

/-- What a search that found records posts. -/
def found (list : List FileInfo) : SearchCompletedEvent where
  query := "o"
  resultCount := list.length
  hasTooManyResults := false
  hasGoodResults := true
  list := some list

open FileInfoOrdering

theorem resultLists_sorted_iff_sample :
    Prepared [musicDirectory, photosDirectory] [] ALPHA_ASC_DIR_FIRST [.getResultList,
      .getResultList] := by
  have horderings : ∀ c ∈ ALPHA_ASC_DIR_FIRST :: orderings [.getResultList, .getResultList],
      Std.TransCmp c := by
    intro c hc
    rw [List.mem_singleton.1 hc]
    infer_instance
  have hquery : runQuery 16 "o" (.ok 2) (.ok [musicDirectory, photosDirectory]) =
      .ok (found [musicDirectory, photosDirectory]) := by rfl
  exact (resultLists_sorted_iff hquery rfl horderings).1 (by decide +kernel)

/-- **The first call returns the repository's order**, and a call after a
change of the ordering the order of the call before. -/
theorem first_results_are_unsorted :
    runQuery 16 "o" (.ok 2) (.ok [photosDirectory, musicDirectory]) =
      .ok (found [photosDirectory, musicDirectory]) ∧
    (Results.resultLists ⟨ALPHA_ASC_DIR_FIRST, found [photosDirectory, musicDirectory]⟩
      [.getResultList, .setOrdering LAST_MOD_DESC, .getResultList]).map ResultList.list =
      [[photosDirectory, musicDirectory], [musicDirectory, photosDirectory]] ∧
    ¬ Sorted ALPHA_ASC_DIR_FIRST [photosDirectory, musicDirectory] ∧
    ¬ Sorted LAST_MOD_DESC [musicDirectory, photosDirectory] := by
  refine ⟨by rfl, by decide +kernel, by decide +kernel, by decide +kernel⟩

end Sample

end Bep

end ASync
