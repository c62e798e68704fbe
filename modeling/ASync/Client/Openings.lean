import ASync.Client.Model.Openings
/-!
# No connection is lost

However many threads open connections, close them and close the client,
an open connection that was added is in the client's list; the handlers
that are not given to a caller are closed; and what was in the list when
the client was closed is closed in the end. A closed connection may stay
in the list, where its event was posted before it was added.
-/

namespace ASync

namespace Client

/-! ## Threads on their way to the closed event -/

/-- The thread has marked the handler, and is to post the event. -/
def Closing.leaves : Closing → Bool
  | .posting => true
  | _ => false

def Opening.leaves : Opening → Bool
  | .failing closing | .restarting closing => closing.leaves
  | _ => false

/-- The call of `openConnection` has gone another way than to return this
handler, and is done with it. -/
def Opening.isOver : Opening → Bool
  | .failed | .restarted => true
  | _ => false

def ClosingThread.leaves (id : ℕ) : ClosingThread → Bool
  | .connection id' closing => decide (id' = id) && closing.leaves
  | .client _ [] _ => false
  | .client _ (id' :: _) closing => decide (id' = id) && closing.leaves

variable {s s' : ClientConnections} {id n : ℕ} {handler handler' : OpenedHandler}
variable {thread thread' : ClosingThread} {threads : List ClosingThread}

/-- Some of the threads is to post the event of a handler. -/
def SomeLeaves (id : ℕ) (threads : List ClosingThread) : Prop := ∃ t ∈ threads, t.leaves id = true

/-- Some thread is to post the event of a handler. -/
def ClientConnections.Leaves (s : ClientConnections) (id : ℕ) : Prop :=
  (∃ handler, s.handlers[id]? = some handler ∧ handler.opening.leaves = true) ∨
    SomeLeaves id s.threads

/-- Some thread leaves a connection if the first does or another. -/
theorem someLeaves_cons : SomeLeaves id (thread :: threads) ↔
    thread.leaves id = true ∨ SomeLeaves id threads := by
  simp [SomeLeaves]

/-- The order of the threads does not matter. -/
theorem someLeaves_of_perm {threads' : List ClosingThread} (h : threads.Perm threads') :
    SomeLeaves id threads ↔ SomeLeaves id threads' := by
  simp only [SomeLeaves, h.mem_iff]

/-- A new thread counts with the others. -/
theorem someLeaves_append_singleton : SomeLeaves id (threads ++ [thread]) ↔
    SomeLeaves id threads ∨ thread.leaves id = true := by
  simp [SomeLeaves, or_and_right, exists_or]

/-! ## One handler -/

/-- A handler as it should be, where `listed` says that the list has it and
`leaves` that some thread is to post its event. -/
structure Fit (handler : OpenedHandler) (listed leaves : Prop) : Prop where
  mem_of_open : handler.isClosed = false → handler.opening.isAdded = true → listed
  isAdded : listed → handler.opening.isAdded = true
  isClosed_of_leaves : leaves → handler.isClosed = true
  isClosed_of_isOver : handler.opening.isOver = true → handler.isClosed = true
  leaves_or_late : handler.isClosed = true → (handler.opening.isAdded = true → listed) →
    leaves ∨ handler.late = true

section Fit

variable {listed leaves : Prop} {opening : Opening}

/-- The thread that opens it is elsewhere. -/
theorem Fit.of_opening (h : Fit handler listed leaves)
    (hadded : opening.isAdded = handler.opening.isAdded)
    (hover : opening.isOver = true → handler.isClosed = true) :
    Fit { handler with opening } listed leaves where
  mem_of_open hopen hadd := h.mem_of_open hopen (hadded ▸ hadd)
  isAdded hlisted := hadded.trans (h.isAdded hlisted)
  isClosed_of_leaves := h.isClosed_of_leaves
  isClosed_of_isOver := hover
  leaves_or_late hclosed hlisted := h.leaves_or_late hclosed fun hadd => hlisted (hadded.trans hadd)

/-- The handler is added to the list. It may be closed by then. -/
theorem Fit.add (h : Fit handler listed leaves) (hadding : handler.opening = .adding) :
    Fit { handler with opening := .checking } True leaves where
  mem_of_open _ _ := trivial
  isAdded _ := rfl
  isClosed_of_leaves := h.isClosed_of_leaves
  isClosed_of_isOver hover := by cases hover
  leaves_or_late hclosed _ := h.leaves_or_late hclosed fun hadd => by
    rw [hadding] at hadd
    cases hadd

/-- A thread marks the handler. -/
theorem Fit.mark (h : Fit handler listed leaves) :
    Fit { handler with isClosed := true } listed True where
  mem_of_open hopen := by cases hopen
  isAdded := h.isAdded
  isClosed_of_leaves _ := rfl
  isClosed_of_isOver _ := rfl
  leaves_or_late _ _ := .inl trivial

/-- A thread posts the event, which leaves the handler out of the list. -/
theorem Fit.post (h : Fit handler listed True) :
    Fit { handler with late := handler.late || !handler.opening.isAdded } False leaves where
  mem_of_open hopen := by
    have hclosed := h.isClosed_of_leaves trivial
    rw [hopen] at hclosed
    cases hclosed
  isAdded hlisted := hlisted.elim
  isClosed_of_leaves _ := h.isClosed_of_leaves trivial
  isClosed_of_isOver := h.isClosed_of_isOver
  leaves_or_late _ hlisted := by
    -- a handler that was never added is late
    right
    have hnot : handler.opening.isAdded = false := by
      rcases hadd : handler.opening.isAdded with _ | _
      · rfl
      · exact (hlisted hadd).elim
    rw [hnot, Bool.not_false, Bool.or_true]

end Fit

/-! ## All of them -/

def ClientConnections.IsClosed (s : ClientConnections) (id : ℕ) : Prop :=
  ∃ handler, s.handlers[id]? = some handler ∧ handler.isClosed = true

/-- Every handler is as it should be, and what a client that is being closed
knew is closed or is yet to be. -/
structure ClientConnections.Tended (s : ClientConnections) : Prop where
  fit : ∀ id handler, s.handlers[id]? = some handler →
    Fit handler (id ∈ s.connections) (s.Leaves id)
  nodup : s.connections.Nodup
  lt_length : ∀ id ∈ s.connections, id < s.handlers.length
  leaves_lt_length : ∀ id, SomeLeaves id s.threads → id < s.handlers.length
  known : ∀ known remaining closing, ClosingThread.client known remaining closing ∈ s.threads →
    ∀ id ∈ known, id ∈ remaining ∨ s.IsClosed id

/-- Setting one handler leaves the others. -/
theorem getElem?_set_of_ne {handlers : List OpenedHandler} {id' : ℕ} (hne : id' ≠ id) :
    (handlers.set id handler')[id']? = handlers[id']? :=
  List.getElem?_set_ne hne.symm

variable (handler') in
/-- A handler that is set is found. -/
theorem getElem?_set_of_some {handlers : List OpenedHandler} (h : handlers[id]? = some handler) :
    (handlers.set id handler')[id]? = some handler' := by
  obtain ⟨hlt, -⟩ := List.getElem?_eq_some_iff.1 h
  rw [List.getElem?_set_self hlt]

/-- **One handler changes and no other does.** -/
theorem ClientConnections.Tended.update (hs : s.Tended) (hid : s.handlers[id]? = some handler)
    (hhandlers : s'.handlers = s.handlers.set id handler')
    (hconnections : ∀ id' ≠ id, id' ∈ s'.connections ↔ id' ∈ s.connections)
    (hnodup : s'.connections.Nodup)
    (hthreads : ∀ id' ≠ id, SomeLeaves id' s'.threads ↔ SomeLeaves id' s.threads)
    (hfit : Fit handler' (id ∈ s'.connections) (s'.Leaves id))
    (hclosed : handler.isClosed = true → handler'.isClosed = true)
    (hknown : ∀ known remaining closing, ClosingThread.client known remaining closing ∈ s'.threads →
      ∀ id' ∈ known, id' ∈ remaining ∨ s.IsClosed id' ∨ (id' = id ∧ handler'.isClosed = true)) :
    s'.Tended := by
  have hget := getElem?_set_of_some handler' hid
  obtain ⟨hlt, -⟩ := List.getElem?_eq_some_iff.1 hid
  refine ⟨fun id' h hget' => ?_, hnodup, fun id' hmem => ?_, fun id' hleaves => ?_,
    fun known remaining closing hmem id' hid' => ?_⟩
  · rw [hhandlers] at hget'
    by_cases heq : id' = id
    · subst heq
      rw [hget] at hget'
      cases hget'
      exact hfit
    · rw [getElem?_set_of_ne heq] at hget'
      have hleaves : s'.Leaves id' ↔ s.Leaves id' := by
        rw [ClientConnections.Leaves, ClientConnections.Leaves, hhandlers, getElem?_set_of_ne heq,
          hthreads id' heq]
      rw [propext (hconnections id' heq), propext hleaves]
      exact hs.fit id' h hget'
  · rw [hhandlers, List.length_set]
    by_cases heq : id' = id
    · exact heq ▸ hlt
    · exact hs.lt_length id' ((hconnections id' heq).1 hmem)
  · rw [hhandlers, List.length_set]
    by_cases heq : id' = id
    · exact heq ▸ hlt
    · exact hs.leaves_lt_length id' ((hthreads id' heq).1 hleaves)
  · rcases hknown known remaining closing hmem id' hid' with hrem | ⟨h, hget', hshut⟩ | ⟨rfl, hshut⟩
    · exact .inl hrem
    · right
      by_cases heq : id' = id
      · subst heq
        rw [hid] at hget'
        cases hget'
        exact ⟨handler', hhandlers ▸ hget, hclosed hshut⟩
      · exact ⟨h, by rw [hhandlers, getElem?_set_of_ne heq, hget'], hshut⟩
    · exact .inr ⟨handler', hhandlers ▸ hget, hshut⟩

/-! ## The threads that open -/

section Opening

variable {opening : Opening} {outcome : TurnOutcome} {closing : Closing}

/-- A connection is left by its own opening or by a thread that closes. -/
theorem leaves_iff (hid : s.handlers[id]? = some handler) :
    s.Leaves id ↔ handler.opening.leaves = true ∨ SomeLeaves id s.threads := by
  rw [ClientConnections.Leaves, hid]
  simp

/-- What fits a handler depends on whether it is listed and left. -/
theorem Fit.congr {listed listed' leaves leaves' : Prop} (h : Fit handler listed leaves)
    (hlisted : listed ↔ listed') (hleaves : leaves ↔ leaves') : Fit handler listed' leaves' := by
  rwa [← propext hlisted, ← propext hleaves]

variable (handler') in
/-- A handler that is set can be changed there. -/
theorem modify_set (hid : s.handlers[id]? = some handler) (f : OpenedHandler → OpenedHandler) :
    (s.handlers.set id handler').modify id f = s.handlers.set id (f handler') := by
  obtain ⟨hlt, -⟩ := List.getElem?_eq_some_iff.1 hid
  refine List.ext_getElem? fun id' => ?_
  by_cases heq : id' = id
  · subst heq
    rw [List.getElem?_modify_eq f, getElem?_set_of_some _ hid, getElem?_set_of_some _ hid]
    rfl
  · rw [List.getElem?_modify_ne f _ (Ne.symm heq), getElem?_set_of_ne heq, getElem?_set_of_ne heq]

/-- Setting a handler as it is changes nothing. -/
theorem set_self (hid : s.handlers[id]? = some handler) :
    s.handlers.set id handler = s.handlers := by
  obtain ⟨hlt, rfl⟩ := List.getElem?_eq_some_iff.1 hid
  exact List.set_getElem_self hlt

/-- An opening that moves on is set in its handler. -/
theorem handlers_setOpening (hid : s.handlers[id]? = some handler) (opening : Opening) :
    (s.setOpening id opening).handlers = s.handlers.set id { handler with opening } := by
  have hmodify := modify_set handler hid fun handler => { handler with opening }
  rw [set_self hid] at hmodify
  exact hmodify

/-- What a client's close knows of stays accounted for. -/
theorem known_weaken (hs : s.Tended) {P : ℕ → Prop} : ∀ known remaining closing,
    ClosingThread.client known remaining closing ∈ s.threads →
      ∀ id' ∈ known, id' ∈ remaining ∨ s.IsClosed id' ∨ P id' := by
  intro known remaining closing hmem id' hid'
  rcases hs.known known remaining closing hmem id' hid' with hrem | hclosed
  · exact .inl hrem
  · exact .inr (.inl hclosed)

/-- The thread that opens a handler goes on, with nothing to post. -/
theorem ClientConnections.Tended.setOpening (hs : s.Tended) (hid : s.handlers[id]? = some handler)
    (hadded : opening.isAdded = handler.opening.isAdded)
    (hleaves : opening.leaves = handler.opening.leaves)
    (hover : opening.isOver = true → handler.isClosed = true) :
      (s.setOpening id opening).Tended := by
  have hhandlers := handlers_setOpening hid opening
  have hget : (s.setOpening id opening).handlers[id]? = some { handler with opening } := by
    rw [hhandlers]
    exact getElem?_set_of_some _ hid
  refine hs.update hid hhandlers (fun _ _ => Iff.rfl) hs.nodup (fun _ _ => Iff.rfl) ?_ (fun h => h)
    (known_weaken hs)
  refine ((hs.fit id handler hid).of_opening hadded hover).congr Iff.rfl ?_
  rw [leaves_iff hid, leaves_iff hget, ← hleaves]
  rfl

/-- A handler is made. -/
theorem ClientConnections.Tended.newHandler (hs : s.Tended) : s.newHandler.Tended := by
  have hold : ∀ id' < s.handlers.length, s.newHandler.handlers[id']? = s.handlers[id']? :=
    fun id' hlt => List.getElem?_append_left hlt
  have hlength : s.newHandler.handlers.length = s.handlers.length + 1 := by
    simp [ClientConnections.newHandler]
  have hclosed : ∀ id', s.IsClosed id' → s.newHandler.IsClosed id' := by
    rintro id' ⟨h, hget, hshut⟩
    obtain ⟨hlt, -⟩ := List.getElem?_eq_some_iff.1 hget
    exact ⟨h, (hold id' hlt).trans hget, hshut⟩
  refine ⟨fun id' h hget => ?_, hs.nodup, fun id' hmem => ?_, fun id' hleaves => ?_,
    fun known remaining closing hmem id' hid' => ?_⟩
  · rcases Nat.lt_or_ge id' s.handlers.length with hlt | hge
    · rw [hold id' hlt] at hget
      refine (hs.fit id' h hget).congr Iff.rfl ?_
      rw [leaves_iff hget, leaves_iff ((hold id' hlt).trans hget)]
      rfl
    · -- the new handler: no one has heard of it
      have hnew : h = {} ∧ id' = s.handlers.length := by
        rw [ClientConnections.newHandler, List.getElem?_append_right hge] at hget
        obtain ⟨hlt, hval⟩ := List.getElem?_eq_some_iff.1 hget
        rw [List.length_singleton] at hlt
        refine ⟨?_, by omega⟩
        rw [← hval, List.getElem_singleton]
      have hnone : ¬ s.newHandler.Leaves id' := by
        rw [leaves_iff hget, hnew.1]
        rintro (hleaves | hleaves)
        · cases hleaves
        · have hlt := hs.leaves_lt_length id' hleaves
          omega
      obtain ⟨rfl, -⟩ := hnew
      refine ⟨fun _ hadd => (by cases hadd), fun hmem => ?_, fun h => absurd h hnone,
        fun hover => (by cases hover), fun hshut => (by cases hshut)⟩
      have hlt := hs.lt_length id' hmem
      omega
  · have hlt := hs.lt_length id' hmem
    omega
  · have hlt := hs.leaves_lt_length id' hleaves
    omega
  · rcases hs.known known remaining closing hmem id' hid' with hrem | hshut
    · exact .inl hrem
    · exact .inr (hclosed id' hshut)

/-- A handler is added to the list. -/
theorem tended_add (hs : s.Tended) (hid : s.handlers[id]? = some handler)
    (hadding : handler.opening = .adding) :
    ClientConnections.Tended
      { s.setOpening id .checking with connections := s.connections ++ [id] } := by
  have hhandlers := handlers_setOpening hid .checking
  have hget : (s.setOpening id .checking).handlers[id]? =
      some { handler with opening := .checking } := by
    rw [hhandlers]
    exact getElem?_set_of_some _ hid
  have hnot : id ∉ s.connections := by
    intro hmem
    have hadd := (hs.fit id handler hid).isAdded hmem
    rw [hadding] at hadd
    cases hadd
  refine hs.update hid hhandlers (fun id' hne => ?_) ?_ (fun _ _ => Iff.rfl) ?_ (fun h => h)
    (known_weaken hs)
  · simp [hne]
  · refine List.nodup_append.2 ⟨hs.nodup, List.nodup_singleton id, ?_⟩
    intro a ha b hb heq
    rw [List.mem_singleton] at hb
    exact hnot (hb ▸ heq ▸ ha)
  · refine ((hs.fit id handler hid).add hadding).congr (by simp) ?_
    rw [leaves_iff hid, leaves_iff (s := { s.setOpening id .checking with
      connections := s.connections ++ [id] }) hget, hadding]
    rfl

/-! ## A call of `close` -/

/-- A step of a close leaves the threads. -/
theorem threads_of_closeStep {s₁ : ClientConnections} {next : Option Closing}
    (hstep : s.closeStep id handler closing = (s₁, next)) : s₁.threads = s.threads := by
  rcases closing with _ | _ | _
  all_goals
    cases hstep
    rfl

/-- Only the list's entry of the handler may go. -/
theorem connections_closeStep (id : ℕ) (hnodup : s.connections.Nodup) (handler : OpenedHandler)
    (closing : Closing) : (s.closeStep id handler closing).1.connections.Nodup ∧
      ∀ id' ≠ id, id' ∈ (s.closeStep id handler closing).1.connections ↔ id' ∈ s.connections := by
  rcases closing with _ | _ | _
  · exact ⟨hnodup, fun _ _ => Iff.rfl⟩
  · exact ⟨hnodup, fun _ _ => Iff.rfl⟩
  · exact ⟨hnodup.erase id, fun id' hne => List.mem_erase_of_ne hne⟩

/-- **One step of a call of `close`** leaves its handler as it should be,
closed where the call is over. Here `others` says that another thread is to
post the handler's event. -/
theorem fit_closeStep {others : Prop} (hnodup : s.connections.Nodup)
    (hid : s.handlers[id]? = some handler)
    (hfit : Fit handler (id ∈ s.connections) (closing.leaves = true ∨ others)) :
    ∃ handler', (s.closeStep id handler closing).1.handlers = s.handlers.set id handler' ∧
      handler'.opening = handler.opening ∧
      (handler.isClosed = true → handler'.isClosed = true) ∧
      ((s.closeStep id handler closing).2 = none → handler'.isClosed = true) ∧
      Fit handler' (id ∈ (s.closeStep id handler closing).1.connections)
        ((s.closeStep id handler closing).2.any Closing.leaves = true ∨ others) := by
  rcases closing with _ | _ | _
  · refine ⟨handler, (set_self hid).symm, rfl, fun h => h, fun hnext => ?_, hfit.congr Iff.rfl ?_⟩
    · by_contra hopen
      rw [ClientConnections.closeStep, if_neg hopen] at hnext
      cases hnext
    · rw [ClientConnections.closeStep]
      rcases handler.isClosed with _ | _ <;> exact Iff.rfl
  · refine ⟨_, rfl, rfl, fun _ => rfl, fun _ => rfl, ?_⟩
    exact hfit.mark.congr Iff.rfl (by simp [ClientConnections.closeStep, Closing.leaves])
  · have hposts : Fit handler (id ∈ s.connections) True :=
      hfit.congr Iff.rfl (by simp [Closing.leaves])
    refine ⟨_, rfl, rfl, fun h => h, fun _ => hposts.isClosed_of_leaves trivial, ?_⟩
    refine hposts.post.congr ?_ Iff.rfl
    exact ⟨False.elim, fun hmem => hnodup.not_mem_erase hmem⟩

/-- The call is made by the thread that opened the handler. -/
theorem tended_closeOpening (wrap : Closing → Opening) (after : Opening) (hs : s.Tended)
    (hid : s.handlers[id]? = some handler) (hopening : handler.opening = wrap closing)
    (hadded : ∀ c, (wrap c).isAdded = after.isAdded) (hwrap : ∀ c, (wrap c).leaves = c.leaves)
    (hgoes : ∀ c, (wrap c).isOver = false) (hover : after.leaves = false) {s₁ : ClientConnections}
    {next : Option Closing} (hstep : s.closeStep id handler closing = (s₁, next)) :
    (s₁.setOpening id (next.elim after wrap)).Tended := by
  have hbefore := hs.fit id handler hid
  rw [propext (leaves_iff hid), hopening, hwrap] at hbefore
  obtain ⟨handler', hhandlers, hsame, hclosed, hdone, hfit⟩ := fit_closeStep hs.nodup hid hbefore
  obtain ⟨hnodup, hconnections⟩ := connections_closeStep id hs.nodup handler closing
  have hthreads := threads_of_closeStep hstep
  rw [hstep] at hhandlers hdone hfit hnodup hconnections
  dsimp only at hhandlers hdone hfit hnodup hconnections
  have hset : (s₁.setOpening id (next.elim after wrap)).handlers =
      s.handlers.set id { handler' with opening := next.elim after wrap } := by
    rw [ClientConnections.setOpening, hhandlers]
    exact modify_set handler' hid _
  have hget := getElem?_set_of_some { handler' with opening := next.elim after wrap } hid
  rw [← hset] at hget
  have hleaves : (next.elim after wrap).leaves = next.any Closing.leaves := by
    rcases next with _ | c
    · exact hover
    · exact hwrap c
  refine hs.update hid hset hconnections hnodup (fun id' _ => ?_) ?_ hclosed ?_
  · change SomeLeaves id' s₁.threads ↔ SomeLeaves id' s.threads
    rw [hthreads]
  · refine (hfit.of_opening ?_ ?_).congr Iff.rfl ?_
    · rw [hsame, hopening, hadded]
      rcases next with _ | c
      · rfl
      · exact hadded c
    · intro hisOver
      rcases next with _ | c
      · exact hdone rfl
      · rw [Option.elim_some, hgoes] at hisOver
        cases hisOver
    · rw [leaves_iff hget, hleaves]
      change _ ↔ _ ∨ SomeLeaves id s₁.threads
      rw [hthreads]
  · intro known remaining c hmem
    change ClosingThread.client known remaining c ∈ s₁.threads at hmem
    rw [hthreads] at hmem
    exact known_weaken hs known remaining c hmem

/-- The call is made by a thread that closes. -/
theorem tended_closeThread (hs : s.Tended) (hid : s.handlers[id]? = some handler)
    {rest threads' : List ClosingThread} {l : Option ClosingThread}
    (hperm : s.threads.Perm (thread :: rest)) (hperm' : threads'.Perm (l.toList ++ rest))
    (hthread : thread.leaves id = closing.leaves)
    (haway : ∀ id' ≠ id, thread.leaves id' = false ∧ l.any (ClosingThread.leaves id') = false)
    {s₁ : ClientConnections} {next : Option Closing}
    (hstep : s.closeStep id handler closing = (s₁, next))
    (hleft : l.any (ClosingThread.leaves id) = next.any Closing.leaves)
    (hknown : ∀ known remaining c, l = some (.client known remaining c) → ∀ id' ∈ known,
      id' ∈ remaining ∨ s.IsClosed id' ∨ (id' = id ∧ next = none)) :
    ClientConnections.Tended { s₁ with threads := threads' } := by
  -- who is about to take out a connection, with the thread itself set apart
  have hsome : ∀ id', SomeLeaves id' threads' ↔
      l.any (ClosingThread.leaves id') = true ∨ SomeLeaves id' rest := by
    intro id'
    rw [someLeaves_of_perm hperm']
    rcases l with _ | t
    · simp
    · exact someLeaves_cons
  have hbefore : Fit handler (id ∈ s.connections) (closing.leaves = true ∨
      (handler.opening.leaves = true ∨ SomeLeaves id rest)) := by
    refine (hs.fit id handler hid).congr Iff.rfl ?_
    rw [leaves_iff hid, someLeaves_of_perm hperm, someLeaves_cons, hthread]
    exact or_left_comm
  obtain ⟨handler', hhandlers, hsame, hclosed, hdone, hfit⟩ := fit_closeStep hs.nodup hid hbefore
  obtain ⟨hnodup, hconnections⟩ := connections_closeStep id hs.nodup handler closing
  rw [hstep] at hhandlers hdone hfit hnodup hconnections
  dsimp only at hhandlers hdone hfit hnodup hconnections
  have hget := getElem?_set_of_some handler' hid
  rw [← hhandlers] at hget
  refine hs.update hid hhandlers hconnections hnodup (fun id' hne => ?_) ?_ hclosed ?_
  · obtain ⟨hno, hno'⟩ := haway id' hne
    change SomeLeaves id' threads' ↔ _
    rw [hsome, someLeaves_of_perm hperm, someLeaves_cons, hno, hno']
  · refine hfit.congr Iff.rfl ?_
    rw [leaves_iff (s := { s₁ with threads := threads' }) hget, hsome, hleft, hsame]
    exact or_left_comm
  · intro known remaining c hmem id' hid'
    rcases List.mem_append.1 (hperm'.mem_iff.1 hmem) with hmem | hmem
    · rcases hknown known remaining c (Option.mem_toList.1 hmem) id' hid'
        with hrem | hshut | ⟨heq, hnone⟩
      · exact .inl hrem
      · exact .inr (.inl hshut)
      · exact .inr (.inr ⟨heq, hdone hnone⟩)
    · exact known_weaken (P := fun id' => id' = id ∧ handler'.isClosed = true) hs known remaining c
        (hperm.mem_iff.2 (List.mem_cons_of_mem _ hmem)) id' hid'

end Opening

/-! ## Every turn -/

section Turns

variable {outcome : TurnOutcome}

/-- **A step of an opening keeps every connection tended.** -/
theorem tended_openingStep (hs : s.Tended) (hid : s.handlers[id]? = some handler)
    (hstep : s.openingStep id handler outcome = some s') : s'.Tended := by
  -- a turn that neither adds the handler nor closes it
  have hgoes : ∀ opening : Opening, opening.isAdded = handler.opening.isAdded →
      opening.leaves = handler.opening.leaves → opening.isOver = false →
      (s.setOpening id opening).Tended := by
    intro opening hadded hleaves hover
    refine hs.setOpening hid hadded hleaves fun h => ?_
    rw [hover] at h
    cases h
  rw [ClientConnections.openingStep] at hstep
  rcases hopening : handler.opening with _ | _ | _ | _ | closing | closing | _ | _ | _ | _
  all_goals rw [hopening] at hstep hgoes
  · cases hstep
    rcases outcome.throws with _ | _
    · exact hgoes .connecting rfl rfl rfl
    · exact hgoes .refused rfl rfl rfl
  · cases hstep
    rcases outcome.throws with _ | _
    · exact hgoes .adding rfl rfl rfl
    · exact hgoes (.failing .testing) rfl rfl rfl
  · cases hstep
    exact tended_add hs hid hopening
  · cases hstep
    rcases outcome.shouldRestartForNewFolder with _ | _
    · exact hgoes .returned rfl rfl rfl
    · exact hgoes (.restarting .testing) rfl rfl rfl
  · dsimp only at hstep
    rcases hclose : s.closeStep id handler closing with ⟨s₁, next⟩
    have htended := tended_closeOpening .failing .failed hs hid hopening (fun _ => rfl)
      (fun _ => rfl) (fun _ => rfl) rfl hclose
    rw [hclose] at hstep
    rcases next with _ | next
    · cases hstep
      exact htended
    · cases hstep
      exact htended
  · dsimp only at hstep
    rcases hclose : s.closeStep id handler closing with ⟨s₁, next⟩
    have htended := tended_closeOpening .restarting .restarted hs hid hopening (fun _ => rfl)
      (fun _ => rfl) (fun _ => rfl) rfl hclose
    rw [hclose] at hstep
    rcases next with _ | next
    · cases hstep
      exact htended.newHandler
    · cases hstep
      exact htended
  all_goals cases hstep

/-- A thread can be taken out of the list, and put back changed. -/
theorem perm_of_getElem? (hn : s.threads[n]? = some thread) :
    s.threads.Perm (thread :: s.threads.eraseIdx n) ∧
      ∀ thread', (s.threads.set n thread').Perm (thread' :: s.threads.eraseIdx n) := by
  obtain ⟨hlt, rfl⟩ := List.getElem?_eq_some_iff.1 hn
  exact ⟨(List.getElem_cons_eraseIdx_perm hlt).symm, fun _ => List.set_perm_cons_eraseIdx hlt _⟩

/-- A close leaves its own connection. -/
theorem leaves_self (id : ℕ) (closing : Closing) :
    (decide (id = id) && closing.leaves) = closing.leaves := by
  rw [decide_eq_true rfl, Bool.true_and]

/-- A close leaves no other connection. -/
theorem leaves_of_ne {id' : ℕ} (hne : id' ≠ id) (closing : Closing) :
    (decide (id = id') && closing.leaves) = false := by
  rw [decide_eq_false (Ne.symm hne), Bool.false_and]

/-- **A step of a close keeps every connection tended.** -/
theorem tended_closingStep (hs : s.Tended) (hn : s.threads[n]? = some thread)
    (hstep : s.closingStep n thread = some s') : s'.Tended := by
  obtain ⟨hperm, hset⟩ := perm_of_getElem? hn
  rcases thread with ⟨id, closing⟩ | ⟨known, _ | ⟨id, remaining⟩, closing⟩
  · rw [ClientConnections.closingStep, Option.bind_eq_bind, Option.bind_eq_some_iff] at hstep
    obtain ⟨handler, hid, hstep⟩ := hstep
    -- a thread that closes one connection
    rcases hclose : s.closeStep id handler closing with ⟨s₁, _ | next⟩
    · rw [hclose] at hstep
      cases hstep
      rw [threads_of_closeStep hclose]
      exact tended_closeThread (l := none) hs hid hperm (List.Perm.refl _) (leaves_self id closing)
        (fun id' hne => ⟨leaves_of_ne hne closing, rfl⟩) hclose rfl
        fun _ _ _ heq => by cases heq
    · rw [hclose] at hstep
      cases hstep
      rw [threads_of_closeStep hclose]
      exact tended_closeThread (l := some (.connection id next)) hs hid hperm (hset _)
        (leaves_self id closing) (fun id' hne => ⟨leaves_of_ne hne closing, leaves_of_ne hne next⟩)
        hclose (leaves_self id next) fun _ _ _ heq => by cases heq
  · cases hstep
  · rw [ClientConnections.closingStep, Option.bind_eq_bind, Option.bind_eq_some_iff] at hstep
    obtain ⟨handler, hid, hstep⟩ := hstep
    have hknown := hs.known known (id :: remaining) closing (List.mem_of_getElem? hn)
    -- the close of the client, at the first of those that remain
    rcases hclose : s.closeStep id handler closing with ⟨s₁, _ | next⟩
    · rw [hclose] at hstep
      cases hstep
      rw [threads_of_closeStep hclose]
      -- done with one, it has not yet tested the next
      have htesting :
          ∀ id', (ClosingThread.client known remaining .testing).leaves id' = false := by
        intro id'
        rcases remaining with _ | ⟨id₁, remaining⟩
        · rfl
        · exact Bool.and_false _
      refine tended_closeThread (l := some (.client known remaining .testing)) hs hid hperm
        (hset _) (leaves_self id closing) (fun id' hne => ⟨leaves_of_ne hne closing, htesting id'⟩)
        hclose (htesting id) fun _ _ _ heq id' hid' => ?_
      cases heq
      rcases hknown id' hid' with hrem | hshut
      · rcases List.mem_cons.1 hrem with rfl | hrem
        · exact .inr (.inr ⟨rfl, rfl⟩)
        · exact .inl hrem
      · exact .inr (.inl hshut)
    · rw [hclose] at hstep
      cases hstep
      rw [threads_of_closeStep hclose]
      refine tended_closeThread (l := some (.client known (id :: remaining) next)) hs hid hperm
        (hset _) (leaves_self id closing)
        (fun id' hne => ⟨leaves_of_ne hne closing, leaves_of_ne hne next⟩) hclose
        (leaves_self id next) fun _ _ _ heq id' hid' => ?_
      cases heq
      rcases hknown id' hid' with hrem | hshut
      · exact .inl hrem
      · exact .inr (.inl hshut)

/-- A thread that closes comes in, with nothing to post yet. -/
theorem ClientConnections.Tended.newThread (hs : s.Tended)
    (hleaves : ∀ id, thread.leaves id = false)
    (hknown : ∀ known remaining closing, thread = .client known remaining closing →
      ∀ id ∈ known, id ∈ remaining ∨ s.IsClosed id) :
    ClientConnections.Tended { s with threads := s.threads ++ [thread] } := by
  have hsome : ∀ id, SomeLeaves id (s.threads ++ [thread]) ↔ SomeLeaves id s.threads := by
    intro id
    rw [someLeaves_append_singleton, hleaves id]
    simp
  refine ⟨fun id h hget => (hs.fit id h hget).congr Iff.rfl ?_, hs.nodup, hs.lt_length,
    fun id h => hs.leaves_lt_length id ((hsome id).1 h), fun known remaining closing hmem => ?_⟩
  · rw [ClientConnections.Leaves, ClientConnections.Leaves, hsome]
  · rcases List.mem_append.1 hmem with hmem | hmem
    · exact hs.known known remaining closing hmem
    · exact hknown known remaining closing (List.mem_singleton.1 hmem).symm

/-- The connections added are those whose opening came to the list. -/
theorem mem_added : id ∈ s.added ↔
    ∃ handler, s.handlers[id]? = some handler ∧ handler.opening.isAdded = true := by
  rw [ClientConnections.added, List.mem_filter, List.mem_range, Option.any_eq_true]
  constructor
  · exact fun h => h.2
  · rintro ⟨handler, hget, hadd⟩
    exact ⟨(List.getElem?_eq_some_iff.1 hget).1, handler, hget, hadd⟩

/-- **Every turn keeps everything as it should be.** -/
theorem ClientConnections.Tended.step {e : ConnectionEvent} (hs : s.Tended)
    (hstep : s.step e = some s') : s'.Tended := by
  cases e with
  | openConnection =>
    cases hstep
    exact hs.newHandler
  | opening =>
    rw [ClientConnections.step, Option.bind_eq_bind, Option.bind_eq_some_iff] at hstep
    obtain ⟨handler, hid, hstep⟩ := hstep
    exact tended_openingStep hs hid hstep
  | close =>
    rw [ClientConnections.step] at hstep
    split at hstep
    · cases hstep
      exact hs.newThread (fun _ => Bool.and_false _) fun _ _ _ heq => by cases heq
    · cases hstep
  | closeClient =>
    cases hstep
    refine hs.newThread (fun id => ?_) fun known remaining closing heq id hid => ?_
    · rcases s.connections with _ | ⟨id', connections⟩
      · rfl
      · exact Bool.and_false _
    · -- what is in the list is yet to be closed, and what is not is closed
      cases heq
      obtain ⟨handler, hget, hadd⟩ := mem_added.1 hid
      rcases hclosed : handler.isClosed with _ | _
      · exact .inl ((hs.fit id handler hget).mem_of_open hclosed hadd)
      · exact .inr ⟨handler, hget, hclosed⟩
  | closing =>
    rw [ClientConnections.step, Option.bind_eq_bind, Option.bind_eq_some_iff] at hstep
    obtain ⟨thread, hn, hstep⟩ := hstep
    exact tended_closingStep hs hn hstep

end Turns

end Client

end ASync
