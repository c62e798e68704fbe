import ASync.Bep.Model.Searches
import ASync.Core.Helpers.FileInfoOrdering
/-!
# Threads that wait for a search

A thread blocked in `doSearch` is served while its query is queued or runs,
or an event for its term is on its way to it (`Served`). Two steps take
that away: a submit while the previous query is still queued, and a query
that throws, each where a blocked thread has nothing else to wake it. In a
run without such a step every blocked thread is served, and no longer
(`served_step_iff`).
-/

namespace ASync

namespace Bep

open ASync.Core

section Searches

variable [FilenameUtils]

namespace IndexFinder

variable {s s' : IndexFinder} {e : SearchEvent} {es : List SearchEvent} {maxResults : ℤ}
variable {i j : ℕ} {term : String} {search : Search} {thread : SearchThread}
variable {event : SearchCompletedEvent}

/-! ## Being served -/

/-- The query the thread at a place is blocked for. -/
def blocked (s : IndexFinder) (i : ℕ) : Option Search := s.threads[i]?.bind SearchThread.blockedOn

/-- An event for a term is on its way to a thread. -/
def OnItsWay (s : IndexFinder) (i : ℕ) (term : String) : Prop :=
  ∃ d ∈ s.deliveries, d.thread = i ∧ d.event.query = term

/-- The query is queued or runs, or an event for it is on its way. -/
def Serves (s : IndexFinder) (i : ℕ) (search : Search) : Prop :=
  ⟨search, false⟩ ∈ s.queue ∨ s.running = some search ∨ s.OnItsWay i search.term

/-- Every blocked thread is served. -/
def Served (s : IndexFinder) : Prop := ∀ i search, s.blocked i = some search → s.Serves i search

/-- Every thread blocked for a query of some kind has an event on its way. -/
def Spared (s : IndexFinder) (kind : Search → Prop) : Prop :=
  ∀ i search, s.blocked i = some search → kind search → s.OnItsWay i search.term

/-- The query is the one a submit cancels, and was not begun. -/
def IsPrevious (s : IndexFinder) (search : Search) : Prop :=
  s.previousQuery = some search.id ∧ ⟨search, false⟩ ∈ s.queue

/-- The repository fails the query. -/
def Fails (maxResults : ℤ) (countFileInfo : Except JavaException ℤ)
    (findFileInfo : Except JavaException (List FileInfo)) : Prop :=
  ∀ count, countFileInfo = .ok count →
    0 < count ∧ count ≤ maxResults ∧ ∀ list, findFileInfo ≠ .ok list

/-- A query is submitted only while no thread has nothing but the previous
one to wake it, and fails only while no thread has nothing but it. -/
def Spares (s : IndexFinder) : SearchEvent → Prop
  | .submit i => ∀ term, s.threads[i]? = some (.registered term) → isBlank (some term) = false →
      s.Spared s.IsPrevious
  | .submitSearch term => isBlank (some term) = false → s.Spared s.IsPrevious
  | .complete countFileInfo findFileInfo => Fails s.maxResults countFileInfo findFileInfo →
      s.Spared fun search => s.running = some search
  | _ => True

/-- Every blocked thread is served, and queries have ids of their own. -/
structure Coherent (s : IndexFinder) : Prop where
  served : s.Served
  queue_lt : ∀ task ∈ s.queue, task.search.id < s.nextId
  running_lt : ∀ search ∈ s.running, search.id < s.nextId
  nodup : (s.queue.map fun task => task.search.id).Nodup
  apart : ∀ search ∈ s.running, ∀ task ∈ s.queue, task.search.id ≠ search.id

/-! ## Threads that move -/

theorem blocked_set (h : ({ s with threads := s.threads.set i thread } : IndexFinder).blocked j =
    some search) : (j = i ∧ thread.blockedOn = some search) ∨
      (j ≠ i ∧ s.blocked j = some search) := by
  unfold blocked at h
  by_cases hj : j = i
  · subst hj
    rcases lt_or_ge j s.threads.length with hlt | hge
    · rw [List.getElem?_set_self hlt] at h
      exact Or.inl ⟨rfl, h⟩
    · rw [List.getElem?_eq_none (by rw [List.length_set]; exact hge)] at h
      cases h
  · rw [List.getElem?_set_ne (Ne.symm hj)] at h
    exact Or.inr ⟨hj, h⟩

/-- A thread that comes out not blocked takes nothing from the others. -/
theorem Served.set (h : s.Served) (hthread : thread.blockedOn = none) :
    Served { s with threads := s.threads.set i thread } := by
  intro j search hblocked
  rcases blocked_set hblocked with ⟨-, hon⟩ | ⟨-, hold⟩
  · rw [hthread] at hon
    cases hon
  · exact h j search hold

theorem Coherent.set (h : s.Coherent) (hthread : thread.blockedOn = none) :
    Coherent { s with threads := s.threads.set i thread } :=
  ⟨h.served.set hthread, h.queue_lt, h.running_lt, h.nodup, h.apart⟩

theorem Coherent.register (h : s.Coherent) (term : String) :
    Coherent { s with threads := s.threads ++ [.registered term] } := by
  refine ⟨fun i search hblocked => h.served i search ?_, h.queue_lt, h.running_lt, h.nodup, h.apart⟩
  unfold blocked at hblocked ⊢
  rcases lt_or_ge i s.threads.length with hlt | hge
  · rwa [List.getElem?_append_left hlt] at hblocked
  · rw [List.getElem?_append_right hge] at hblocked
    rcases List.getElem?_eq_some_iff.1 (Option.bind_eq_some_iff.1 hblocked).choose_spec.1
      with ⟨hlt, hget⟩
    have hzero : i - s.threads.length = 0 := by
      rw [List.length_singleton] at hlt
      omega
    rw [hzero] at hblocked
    cases hblocked

/-! ## Submitting -/

/-- What a submit leaves of a finder. -/
def submitted (s : IndexFinder) (term : String) : IndexFinder :=
  { s with
    queue := s.queue.map (cancel s.previousQuery) ++ [⟨⟨s.nextId, term⟩, false⟩]
    previousQuery := some s.nextId
    nextId := s.nextId + 1 }

theorem submitSearch_of_not_blank (h : isBlank (some term) = false) :
    s.submitSearch term = .ok (s.submitted term) := by
  unfold submitSearch
  rw [h]
  rfl

theorem submitSearch_of_blank (h : isBlank (some term) = true) :
    s.submitSearch term = .error (.illegalArgument "query term cannot be blank") := by
  unfold submitSearch
  rw [h]
  rfl

omit [FilenameUtils] in
@[simp] theorem search_cancel (id : Option ℕ) (task : QueryTask) :
    (cancel id task).search = task.search := by
  unfold cancel
  split
  · rfl
  · rfl

omit [FilenameUtils] in
/-- A query cancelled does not count as queued. -/
theorem mem_map_cancel {id : Option ℕ} {queue : List QueryTask} :
    ⟨search, false⟩ ∈ queue.map (cancel id) ↔ ⟨search, false⟩ ∈ queue ∧ id ≠ some search.id := by
  rw [List.mem_map]
  constructor
  · rintro ⟨task, hmem, heq⟩
    unfold cancel at heq
    split at heq
    · cases congrArg QueryTask.cancelled heq
    · next hid =>
      subst heq
      exact ⟨hmem, hid⟩
  · rintro ⟨hmem, hid⟩
    refine ⟨_, hmem, ?_⟩
    unfold cancel
    rw [if_neg hid]

theorem Coherent.submitted (h : s.Coherent) (term : String) (hspared : s.Spared s.IsPrevious) :
    (s.submitted term).Coherent := by
  have hids : (s.queue.map (cancel s.previousQuery)).map (fun task => task.search.id) =
      s.queue.map fun task => task.search.id := by
    rw [List.map_map]
    exact List.map_congr_left fun task _ => congrArg Search.id (search_cancel _ task)
  have hmem : ∀ task ∈ (s.submitted term).queue,
      task.search.id = s.nextId ∨ ∃ old ∈ s.queue, task.search = old.search := by
    intro task htask
    rcases List.mem_append.1 htask with hold | hnew
    · obtain ⟨old, hmem, rfl⟩ := List.mem_map.1 hold
      exact Or.inr ⟨old, hmem, search_cancel _ old⟩
    · rw [List.mem_singleton.1 hnew]
      exact Or.inl rfl
  refine ⟨fun i search hblocked => ?_, fun task htask => ?_, fun search hrunning => ?_, ?_,
    fun search hrunning task htask => ?_⟩
  · rcases h.served i search hblocked with hqueue | hrunning | hway
    · by_cases hprevious : s.previousQuery = some search.id
      · exact Or.inr (Or.inr (hspared i search hblocked ⟨hprevious, hqueue⟩))
      · exact Or.inl (List.mem_append_left _ (mem_map_cancel.2 ⟨hqueue, hprevious⟩))
    · exact Or.inr (Or.inl hrunning)
    · exact Or.inr (Or.inr hway)
  · change task.search.id < s.nextId + 1
    rcases hmem task htask with hnew | ⟨old, hold, heq⟩
    · omega
    · have hlt := h.queue_lt old hold
      rw [heq]
      omega
  · exact Nat.lt_succ_of_lt (h.running_lt search hrunning)
  · unfold IndexFinder.submitted
    rw [List.map_append, hids, List.map_singleton]
    refine List.nodup_append.2 ⟨h.nodup, List.nodup_singleton _, fun id hid id' hid' => ?_⟩
    obtain ⟨task, htask, rfl⟩ := List.mem_map.1 hid
    rw [List.mem_singleton.1 hid']
    exact (h.queue_lt task htask).ne
  · rcases hmem task htask with hnew | ⟨old, hold, heq⟩
    · have hlt := h.running_lt search hrunning
      omega
    · rw [heq]
      exact h.apart search hrunning old hold

/-- The thread that submitted is served by its own query. -/
theorem Coherent.submit (h : (s.submitted term).Coherent) :
    Coherent { s.submitted term with
      threads := (s.submitted term).threads.set i (.waiting ⟨s.nextId, term⟩ none) } := by
  refine ⟨fun j search hblocked => ?_, h.queue_lt, h.running_lt, h.nodup, h.apart⟩
  rcases blocked_set hblocked with ⟨-, hon⟩ | ⟨-, hold⟩
  · obtain rfl := Option.some.inj hon
    exact Or.inl (List.mem_append_right _ List.mem_cons_self)
  · exact h.served j search hold

/-! ## The executor and the bus -/

theorem runQuery_isOk_iff {query : String} {countFileInfo : Except JavaException ℤ}
    {findFileInfo : Except JavaException (List FileInfo)} :
    (∃ event, runQuery maxResults query countFileInfo findFileInfo = .ok event) ↔
      ¬ Fails maxResults countFileInfo findFileInfo := by
  unfold Fails
  cases countFileInfo with
  | error e =>
    refine iff_of_false ?_ fun h => h fun count hcount => by cases hcount
    rintro ⟨event, h⟩
    cases h
  | ok count =>
    simp only [Except.ok.injEq, forall_eq']
    by_cases hgood : 0 < count ∧ count ≤ maxResults
    · have hdecide : (decide (0 < count) && decide (count ≤ maxResults)) = true := by simp [hgood]
      cases findFileInfo with
      | error e =>
        refine iff_of_false ?_ fun h => h ⟨hgood.1, hgood.2, nofun⟩
        rintro ⟨event, h⟩
        simp only [runQuery, bind, Except.bind, hdecide] at h
        cases h
      | ok list =>
        refine iff_of_true ?_ fun h => h.2.2 list rfl
        simp only [runQuery, bind, Except.bind, hdecide]
        exact ⟨_, rfl⟩
    · have hdecide : (decide (0 < count) && decide (count ≤ maxResults)) = false := by
        rw [Bool.and_eq_false_iff, decide_eq_false_iff_not, decide_eq_false_iff_not]
        exact not_and_or.1 hgood
      refine iff_of_true ?_ fun h => hgood ⟨h.1, h.2.1⟩
      simp only [runQuery, bind, Except.bind, hdecide]
      exact ⟨_, rfl⟩

/-- The event a query posts is for its term. -/
theorem query_of_runQuery {query : String} {countFileInfo : Except JavaException ℤ}
    {findFileInfo : Except JavaException (List FileInfo)}
    (h : runQuery maxResults query countFileInfo findFileInfo = .ok event) :
      event.query = query := by
  unfold runQuery at h
  obtain ⟨count, -, h⟩ := except_bind_eq_ok h
  simp only at h
  split at h
  · obtain ⟨list, -, h⟩ := except_bind_eq_ok h
    obtain rfl := Except.ok.inj h
    rfl
  · obtain rfl := Except.ok.inj h
    rfl

theorem Coherent.begin {task : QueryTask} {queue : List QueryTask} (h : s.Coherent)
    (hrunning : s.running = none) (hqueue : s.queue = task :: queue) :
    Coherent (if task.cancelled then { s with queue }
      else { s with queue, running := some task.search }) := by
  have hnodup := h.nodup
  rw [hqueue, List.map_cons, List.nodup_cons] at hnodup
  have hrest : ∀ t ∈ queue, t ∈ s.queue := fun t ht => hqueue ▸ List.mem_cons_of_mem _ ht
  have hhead : task ∈ s.queue := hqueue ▸ List.mem_cons_self
  have hserved : ∀ i search, s.blocked i = some search →
      (⟨search, false⟩ : QueryTask) = task ∨ ⟨search, false⟩ ∈ queue ∨
        s.OnItsWay i search.term := by
    intro i search hblocked
    rcases h.served i search hblocked with hmem | hrun | hway
    · rw [hqueue, List.mem_cons] at hmem
      exact hmem.imp_right Or.inl
    · rw [hrunning] at hrun
      cases hrun
    · exact Or.inr (Or.inr hway)
  split
  · next hcancelled =>
    refine ⟨fun i search hblocked => ?_, fun t ht => h.queue_lt t (hrest t ht),
      h.running_lt, hnodup.2,
      fun search hrun t ht => h.apart search hrun t (hrest t ht)⟩
    rcases hserved i search hblocked with rfl | hmem | hway
    · cases hcancelled
    · exact Or.inl hmem
    · exact Or.inr (Or.inr hway)
  · refine ⟨fun i search hblocked => ?_, fun t ht => h.queue_lt t (hrest t ht),
      fun search hrun => ?_,
      hnodup.2, fun search hrun t ht heq => ?_⟩
    · rcases hserved i search hblocked with rfl | hmem | hway
      · exact Or.inr (Or.inl rfl)
      · exact Or.inl hmem
      · exact Or.inr (Or.inr hway)
    · obtain rfl := Option.some.inj hrun
      exact h.queue_lt task hhead
    · obtain rfl := Option.some.inj hrun
      exact hnodup.1 (heq ▸ List.mem_map_of_mem ht)

/-- A query that completes, where it is the one a thread is blocked for,
has an event on the way to the thread. -/
theorem Coherent.post (h : s.Coherent) (hrunning : s.running = some search)
    (hquery : event.query = search.term) :
    Coherent (({ s with running := none } : IndexFinder).post event) := by
  refine ⟨fun i search' hblocked => ?_, h.queue_lt, fun _ hrun => (by cases hrun), h.nodup,
    fun _ hrun => (by cases hrun)⟩
  rcases h.served i search' hblocked with hqueue | hrun | ⟨d, hd, hthread, hterm⟩
  · exact Or.inl hqueue
  · obtain rfl := Option.some.inj (hrunning.symm.trans hrun)
    refine Or.inr (Or.inr ⟨⟨i, event⟩, List.mem_append_right _ (List.mem_map.2 ⟨i, ?_, rfl⟩),
      rfl, hquery⟩)
    -- the listener of a blocked thread is registered
    obtain ⟨thread, hget, hon⟩ := Option.bind_eq_some_iff.1 hblocked
    obtain ⟨hlt, -⟩ := List.getElem?_eq_some_iff.1 hget
    refine List.mem_filter.2 ⟨List.mem_range.2 hlt, ?_⟩
    change (s.threads[i]?.map SearchThread.listens).getD false = true
    have hget' : s.threads[i]? = some thread := hget
    rw [hget', Option.map_some, Option.getD_some]
    cases thread with
    | registered term => rfl
    | waiting search reference => rfl
    | finished => cases hon
  · exact Or.inr (Or.inr ⟨d, List.mem_append_left _ hd, hthread, hterm⟩)

/-- A query that fails, where no thread has nothing but it. -/
theorem Coherent.failed (h : s.Coherent)
    (hspared : s.Spared fun search => s.running = some search) :
    Coherent { s with running := none } := by
  refine ⟨fun i search hblocked => ?_, h.queue_lt, fun _ hrun => (by cases hrun), h.nodup,
    fun _ hrun => (by cases hrun)⟩
  rcases h.served i search hblocked with hqueue | hrun | hway
  · exact Or.inl hqueue
  · exact Or.inr (Or.inr (hspared i search hblocked hrun))
  · exact Or.inr (Or.inr hway)

/-- Of the deliveries under way, taking one takes no other. -/
theorem mem_deliveries_of_ne {k : ℕ} {d : Delivery} (hk : s.deliveries[k]? = some ⟨i, event⟩)
    (hd : d ∈ s.deliveries) (hne : d ≠ ⟨i, event⟩) : d ∈ s.deliveries.eraseIdx k := by
  obtain ⟨l, hl⟩ := List.getElem?_of_mem hd
  refine List.mem_eraseIdx_iff_getElem?.2 ⟨l, ?_, hl⟩
  rintro rfl
  exact hne (Option.some.inj (hl.symm.trans hk))

/-- An event handled: the thread it was for is blocked no longer. -/
theorem Coherent.deliver (h : s.Coherent) {k : ℕ} (hk : s.deliveries[k]? = some ⟨i, event⟩)
    (hi : s.threads[i]? = some thread) :
    Coherent { s with
      deliveries := s.deliveries.eraseIdx k
      threads := s.threads.set i (handled event thread) } := by
  refine ⟨fun j search hblocked => ?_, h.queue_lt, h.running_lt, h.nodup, h.apart⟩
  -- a thread still blocked was so before, and the event was not for it
  have hbefore : s.blocked j = some search ∧ ¬ (j = i ∧ event.query = search.term) := by
    rcases blocked_set hblocked with ⟨rfl, hon⟩ | ⟨hj, hold⟩
    · unfold handled SearchThread.blockedOn at hon
      unfold blocked
      rw [hi, Option.bind_some]
      cases thread with
      | registered term => cases hon
      | finished => cases hon
      | waiting own reference =>
        by_cases hquery : event.query = own.term
        · simp only [if_pos hquery] at hon
          cases hon
        · simp only [if_neg hquery] at hon
          split at hon
          · next heq =>
            obtain rfl := Option.some.inj hon
            obtain ⟨rfl, rfl⟩ := SearchThread.waiting.inj heq
            exact ⟨rfl, fun hboth => hquery hboth.2⟩
          · cases hon
    · exact ⟨hold, fun hboth => hj hboth.1⟩
  rcases h.served j search hbefore.1 with hqueue | hrun | ⟨d, hd, rfl, hterm⟩
  · exact Or.inl hqueue
  · exact Or.inr (Or.inl hrun)
  · refine Or.inr (Or.inr ⟨d, mem_deliveries_of_ne hk hd ?_, rfl, hterm⟩)
    rintro rfl
    exact hbefore.2 ⟨rfl, hterm⟩

/-- An event dropped by a listener it is not for. -/
theorem Coherent.drop (h : s.Coherent) {k : ℕ} (hk : s.deliveries[k]? = some ⟨i, event⟩)
    (hi : s.blocked i = none) : Coherent { s with deliveries := s.deliveries.eraseIdx k } := by
  refine ⟨fun j search hblocked => ?_, h.queue_lt, h.running_lt, h.nodup, h.apart⟩
  have hbefore : s.blocked j = some search := hblocked
  rcases h.served j search hbefore with hqueue | hrun | ⟨d, hd, rfl, hterm⟩
  · exact Or.inl hqueue
  · exact Or.inr (Or.inl hrun)
  · refine Or.inr (Or.inr ⟨d, mem_deliveries_of_ne hk hd ?_, rfl, hterm⟩)
    rintro rfl
    rw [hi] at hbefore
    cases hbefore

/-! ## Runs -/

/-- **One step.** -/
theorem Coherent.step (h : s.Coherent) (hspares : s.Spares e) (hstep : s.step e = some s') :
    s'.Coherent := by
  unfold IndexFinder.step at hstep
  cases e with
  | register term =>
    obtain rfl := Option.some.inj hstep
    exact h.register term
  | submit i =>
    simp only at hstep
    split at hstep
    · next term hthread =>
      -- a blank term is answered at once, and no search is queued for it
      cases hblank : isBlank (some term) with
      | true =>
        rw [submitSearch_of_blank hblank] at hstep
        obtain rfl := Option.some.inj hstep
        exact h.set rfl
      | false =>
        rw [submitSearch_of_not_blank hblank] at hstep
        obtain rfl := Option.some.inj hstep
        exact (h.submitted term (hspares term hthread hblank)).submit
    · cases hstep
  | submitSearch term =>
    simp only at hstep
    cases hblank : isBlank (some term) with
    | true =>
      rw [submitSearch_of_blank hblank] at hstep
      obtain rfl := Option.some.inj hstep
      exact h
    | false =>
      rw [submitSearch_of_not_blank hblank] at hstep
      obtain rfl := Option.some.inj hstep
      exact h.submitted term (hspares hblank)
  | begin =>
    simp only at hstep
    split at hstep
    · next task queue hrunning hqueue =>
      -- a task cancelled while it was queued is taken out and not run
      have hbegun := h.begin hrunning hqueue
      split at hstep
      · next hcancelled =>
        rw [if_pos hcancelled] at hbegun
        obtain rfl := Option.some.inj hstep
        exact hbegun
      · next hcancelled =>
        rw [if_neg hcancelled] at hbegun
        obtain rfl := Option.some.inj hstep
        exact hbegun
    · cases hstep
  | complete countFileInfo findFileInfo =>
    simp only at hstep
    split at hstep
    · cases hstep
    · next search hrunning =>
      split at hstep
      · next event hquery =>
        obtain rfl := Option.some.inj hstep
        exact h.post hrunning (query_of_runQuery hquery)
      · -- a query that failed posts nothing, so nobody may be waiting for it
        next hquery =>
        obtain rfl := Option.some.inj hstep
        refine h.failed (hspares (not_not.1 fun hnot => ?_))
        obtain ⟨event, hok⟩ := runQuery_isOk_iff.2 hnot
        rw [hquery] at hok
        cases hok
  | deliver k =>
    simp only at hstep
    split at hstep
    · cases hstep
    · next i event hk =>
      split at hstep
      · cases hstep
      · next term hi =>
        split at hstep
        · cases hstep
        · obtain rfl := Option.some.inj hstep
          refine h.drop hk ?_
          unfold blocked
          rw [hi]
          rfl
      · next hi =>
        obtain rfl := Option.some.inj hstep
        exact h.deliver hk hi
  | wake i =>
    simp only at hstep
    split at hstep
    · obtain rfl := Option.some.inj hstep
      exact h.set rfl
    · cases hstep
  | interrupt i =>
    simp only at hstep
    split at hstep
    · obtain rfl := Option.some.inj hstep
      exact h.set rfl
    · cases hstep

theorem coherent_of_run (h : (searching maxResults).Run (fun _ s e => s.Spares e) es s) :
    s.Coherent := by
  refine h.invariant (I := fun _ s => s.Coherent) ?_ fun _ _ _ _ _ hI hspares hstep =>
    hI.step hspares hstep
  rintro s rfl
  refine ⟨fun i search hblocked => (by cases hblocked), fun task htask => (by cases htask),
    fun search hrun => (by cases hrun), List.nodup_nil, fun search hrun => (by cases hrun)⟩

/-- **No search is orphaned** in a run in which a query is submitted, or
fails, only while no blocked thread has nothing but the query cancelled,
or failed, to wake it. -/
theorem served_of_run (h : (searching maxResults).Run (fun _ s e => s.Spares e) es s) : s.Served :=
  (coherent_of_run h).served

/-! ## No other run -/

/-- Submitting a query leaves a thread blocked for the previous one
without it. -/
theorem Coherent.not_serves_submitted (h : s.Coherent) (hprevious : s.IsPrevious search)
    (hway : ¬ s.OnItsWay i search.term) (term : String) : ¬ (s.submitted term).Serves i search := by
  rintro (hmem | hrun | hway')
  · rcases List.mem_append.1 hmem with hold | hnew
    · exact (mem_map_cancel.1 hold).2 hprevious.1
    · have heq := congrArg (fun task => task.search.id) (List.mem_singleton.1 hnew)
      exact (h.queue_lt _ hprevious.2).ne heq
  · exact h.apart search hrun _ hprevious.2 rfl
  · exact hway hway'

theorem not_spared {kind : Search → Prop} (h : ¬ s.Spared kind) :
    ∃ i search, s.blocked i = some search ∧ kind search ∧ ¬ s.OnItsWay i search.term := by
  unfold Spared at h
  push Not at h
  exact h

/-- **From such a run the next step leaves every blocked thread served**
exactly when it is such a step. -/
theorem served_step_iff (h : (searching maxResults).Run (fun _ s e => s.Spares e) es s)
    (hstep : s.step e = some s') : s'.Served ↔ s.Spares e := by
  have hcoherent := coherent_of_run h
  refine ⟨fun hserved => ?_, fun hspares => (hcoherent.step hspares hstep).served⟩
  unfold IndexFinder.step at hstep
  cases e with
  | submit i =>
    intro term hthread hblank
    by_contra hnot
    obtain ⟨j, search, hblocked, hprevious, hway⟩ := not_spared hnot
    simp only [hthread, submitSearch_of_not_blank hblank] at hstep
    obtain rfl := Option.some.inj hstep
    refine hcoherent.not_serves_submitted hprevious hway term (hserved j search ?_)
    -- the thread that submits was not blocked
    have hij : j ≠ i := by
      rintro rfl
      unfold blocked at hblocked
      rw [hthread] at hblocked
      cases hblocked
    unfold blocked at hblocked ⊢
    rwa [List.getElem?_set_ne (Ne.symm hij)]
  | submitSearch term =>
    intro hblank
    by_contra hnot
    obtain ⟨j, search, hblocked, hprevious, hway⟩ := not_spared hnot
    simp only [submitSearch_of_not_blank hblank] at hstep
    obtain rfl := Option.some.inj hstep
    exact hcoherent.not_serves_submitted hprevious hway term (hserved j search hblocked)
  | complete countFileInfo findFileInfo =>
    intro hfails
    by_contra hnot
    obtain ⟨j, search, hblocked, hrunning, hway⟩ := not_spared hnot
    simp only [hrunning] at hstep
    split at hstep
    · next event hquery => exact runQuery_isOk_iff.1 ⟨event, hquery⟩ hfails
    · obtain rfl := Option.some.inj hstep
      rcases hserved j search hblocked with hmem | hrun | hway'
      · exact hcoherent.apart search hrunning _ hmem rfl
      · cases hrun
      · exact hway hway'
  | register _ => trivial
  | begin => trivial
  | deliver _ => trivial
  | wake _ => trivial
  | interrupt _ => trivial

end IndexFinder

end Searches

/-! ## Sample runs -/

section Sample

attribute [local instance] FilenameUtils.commonsIo

/-- A step that orphans nobody: the query submitted before is not queued any
more, or the repository answers. -/
def sparesClearly (s : IndexFinder) : SearchEvent → Bool
  | .submit _ | .submitSearch _ => s.queue.all fun task => s.previousQuery ≠ some task.search.id
  | .complete countFileInfo findFileInfo => countFileInfo.isOk && findFileInfo.isOk
  | _ => true

theorem spares_of_sparesClearly {s : IndexFinder} {e : SearchEvent} (h : sparesClearly s e = true) :
    s.Spares e := by
  have hbegun : (s.queue.all fun task => s.previousQuery ≠ some task.search.id) = true →
      s.Spared s.IsPrevious := by
    intro hall i search _ hprevious
    have hother := List.all_eq_true.1 hall _ hprevious.2
    exact absurd hprevious.1 (of_decide_eq_true hother)
  cases e with
  | submit i => exact fun _ _ _ => hbegun h
  | submitSearch term => exact fun _ => hbegun h
  | complete countFileInfo findFileInfo =>
    intro hfails
    obtain ⟨hcount, hfind⟩ := (Bool.and_eq_true _ _).mp h
    cases countFileInfo with
    | error e => cases hcount
    | ok count =>
      cases findFileInfo with
      | error e => cases hfind
      | ok list => exact absurd rfl ((hfails count rfl).2.2 list)
  | register _ => trivial
  | begin => trivial
  | deliver _ => trivial
  | wake _ => trivial
  | interrupt _ => trivial

/-- Two threads search at once. The second submits while the query of the
first runs, and is blocked when the first has its results. -/
def overlappingSearches : List SearchEvent :=
  [.register "photos", .register "music", .submit 0, .begin, .submit 1,
    .complete (.ok 1) (.ok [photosDirectory]), .deliver 0, .deliver 0, .wake 0]

theorem served_of_run_sample :
    ∃ s, (searching 16).Run (fun _ s e => s.Spares e) overlappingSearches s ∧
      s.blocked 0 = none ∧ s.blocked 1 = some ⟨1, "music"⟩ ∧ s.Served := by
  obtain ⟨s, hrun, hend⟩ : ∃ s, (searching 16).Run (fun _ s e => sparesClearly s e = true)
      overlappingSearches s ∧
        decide (s.blocked 0 = none ∧ s.blocked 1 = some ⟨1, "music"⟩) = true :=
    Machine.exists_run_of_any (by decide +kernel)
  have hspares := hrun.mono fun _ s e h => spares_of_sparesClearly h
  obtain ⟨hfirst, hsecond⟩ := of_decide_eq_true hend
  exact ⟨s, hspares, hfirst, hsecond, IndexFinder.served_of_run hspares⟩

/-- **A thread is left blocked** by a search of another before its query
began, and by a query that fails: its query is neither queued nor runs,
and no event is on its way to anyone. -/
theorem search_is_orphaned :
    (∃ s, (searching 16).Run (fun _ _ _ => true = true)
        [.register "photos", .submit 0, .submitSearch "music"] s ∧
      decide (s.blocked 0 = some ⟨0, "photos"⟩ ∧
        s.queue = [⟨⟨0, "photos"⟩, true⟩, ⟨⟨1, "music"⟩, false⟩] ∧
        s.running = none ∧ s.deliveries.length = 0) = true) ∧
    ∃ s, (searching 16).Run (fun _ _ _ => true = true)
        [.register "(", .submit 0, .begin, .complete (.error (.runtime "SQLException"))
          (.ok [])] s ∧
      decide (s.blocked 0 = some ⟨0, "("⟩ ∧ s.queue = [] ∧ s.running = none ∧
        s.deliveries.length = 0) = true :=
  ⟨Machine.exists_run_of_any (by decide +kernel), Machine.exists_run_of_any (by decide +kernel)⟩

end Sample

end Bep

end ASync
