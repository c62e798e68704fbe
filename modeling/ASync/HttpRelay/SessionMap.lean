import ASync.HttpRelay.Sessions
/-!
# The server's map of sessions

A session is entered in the map before its id is answered, and its close
event takes it out. Many threads may close one session at once, and more
than one of them may find it open; each that does posts the event. So an
open session is in the map, and a closed one is not once the threads that
closed it are done.
-/

namespace ASync

namespace HttpRelay

open HttpRelayProtos Effect

variable {s s' s₁ : HttpRelayServer} {sessionId sessionId' : String} {c c' : RelaySessionConnection}
variable {request : HttpRelayRequest} {outcome : Outcome} {stage : Stage} {progress : Progress}

/-! ## Threads on their way to the close event -/

/-- The thread closed the session, and is to post the event. -/
def Closing.leaves : Closing → Bool
  | .testing | .marking => false
  | .dropping | .posting => true

def Stage.leaves (sessionId : String) : Stage → Bool
  | .failing sessionId' stage | .closing sessionId' stage =>
    decide (sessionId' = sessionId) && stage.leaves
  | _ => false

/-- How many of some handlers are to post the event of a session. -/
def leavingOf (sessionId : String) (handlings : List Handling) : ℕ :=
  handlings.countP fun h => h.stage.leaves sessionId

/-- How many of the threads a reader started are. -/
def closingOf (sessionId : String) (closers : List (String × Closing)) : ℕ :=
  closers.countP fun p => decide (p.1 = sessionId) && p.2.leaves

/-- How many threads are to post the close event of a session. -/
def HttpRelayServer.leavers (s : HttpRelayServer) (sessionId : String) : ℕ :=
  leavingOf sessionId s.handlings + closingOf sessionId s.closers

theorem leavingOf_append (hs hs' : List Handling) :
    leavingOf sessionId (hs ++ hs') = leavingOf sessionId hs + leavingOf sessionId hs' :=
  List.countP_append

theorem closingOf_append (ps ps' : List (String × Closing)) :
    closingOf sessionId (ps ++ ps') = closingOf sessionId ps + closingOf sessionId ps' :=
  List.countP_append

theorem leavingOf_singleton (request : HttpRelayRequest) (stage : Stage) :
    leavingOf sessionId [⟨request, stage⟩] = if stage.leaves sessionId then 1 else 0 := by
  simp [leavingOf, List.countP_cons]

theorem closingOf_singleton (closing : Closing) :
    closingOf sessionId [(sessionId', closing)] =
      if sessionId' = sessionId ∧ closing.leaves = true then 1 else 0 := by
  simp [closingOf, List.countP_cons]

/-- A thread that is at another session leaves none of this one. -/
theorem leaves_of_session_ne (h : stage.session ≠ some sessionId) :
    stage.leaves sessionId = false := by
  cases stage with
  | arrived => rfl
  | opening => rfl
  | sending => rfl
  | failing sessionId' =>
    have hne : sessionId' ≠ sessionId := fun heq => h (by rw [Stage.session, heq])
    rw [Stage.leaves, decide_eq_false hne, Bool.false_and]
  | waiting => rfl
  | closing sessionId' =>
    have hne : sessionId' ≠ sessionId := fun heq => h (by rw [Stage.session, heq])
    rw [Stage.leaves, decide_eq_false hne, Bool.false_and]

/-! ## What a thread's step does to the map -/

/-- **What one step of a thread does to a session's entry**, where `n` and
`n'` tell whether the thread is to post the event, before and after: it
changes nothing; or it closes the session, and is then to post the event;
or it posts the event. -/
inductive Departs (c c' : RelaySessionConnection) (r r' : Bool) (n n' : ℕ) : Prop
  | stay : c'.isClosed = c.isClosed → r' = r → n' = n → Departs c c' r r' n n'
  | mark : c'.isClosed = true → r' = r → n = 0 → n' = 1 → Departs c c' r r' n n'
  | post : c'.isClosed = c.isClosed → r' = false → n = 1 → n' = 0 → Departs c c' r r' n n'

/-- A session's entry as it should be, with `n` threads to take it out: an
open session has one and none of these; a closed one that is still there
has some. -/
structure Entered (c : RelaySessionConnection) (r : Bool) (n : ℕ) : Prop where
  isOpen : c.isClosed = false → r = true ∧ n = 0
  isClosed : c.isClosed = true → r = true → 0 < n

theorem Entered.of_departs {r r' : Bool} {n n' k : ℕ} (h : Entered c r (n + k))
    (hd : Departs c c' r r' n n') : Entered c' r' (n' + k) := by
  rcases hd with ⟨hclosed, hr, hn⟩ | ⟨hclosed, hr, hn, hn'⟩ | ⟨hclosed, hr, hn, hn'⟩
  · refine ⟨fun hopen => ?_, fun hshut hentry => ?_⟩
    · rw [hr, hn]
      exact h.isOpen (hclosed ▸ hopen)
    · rw [hn]
      exact h.isClosed (hclosed ▸ hshut) (hr ▸ hentry)
  · refine ⟨fun hopen => ?_, fun _ _ => by omega⟩
    rw [hclosed] at hopen
    cases hopen
  · -- an open session has no thread that is to post, such as this one
    have hshut : c.isClosed = true := by
      by_contra hopen
      have hzero := (h.isOpen (by simpa using hopen)).2
      omega
    refine ⟨fun hopen => ?_, fun _ hentry => ?_⟩
    · rw [hclosed, hshut] at hopen
      cases hopen
    · rw [hr] at hentry
      cases hentry

/-- A step of `close`. -/
theorem departs_closeStep (hc : s.connections sessionId = some c) (closing : Closing) :
    ∃ c', (s.closeStep sessionId c closing).1.connections =
        Function.update s.connections sessionId (some c') ∧
      (∀ sessionId' ≠ sessionId,
        (s.closeStep sessionId c closing).1.relayConnectionsBySessionId sessionId' =
          s.relayConnectionsBySessionId sessionId') ∧
      Departs c c' (s.relayConnectionsBySessionId sessionId)
        ((s.closeStep sessionId c closing).1.relayConnectionsBySessionId sessionId)
        (if closing.leaves then 1 else 0)
        (if (s.closeStep sessionId c closing).2.any Closing.leaves then 1 else 0) := by
  cases closing with
  | testing =>
    refine ⟨c, (Function.update_eq_self_iff.2 hc.symm).symm, fun _ _ => rfl, .stay rfl rfl ?_⟩
    rw [HttpRelayServer.closeStep]
    rcases c.isClosed with _ | _ <;> rfl
  | marking => exact ⟨_, rfl, fun _ _ => rfl, .mark rfl rfl rfl rfl⟩
  | dropping => exact ⟨_, rfl, fun _ _ => rfl, .stay rfl rfl rfl⟩
  | posting =>
    refine ⟨c, (Function.update_eq_self_iff.2 hc.symm).symm,
      fun _ hne => Function.update_of_ne hne .., ?_⟩
    exact .post rfl (Function.update_self ..) rfl rfl

/-- How many of what a step leaves are to post the event. -/
theorem leavingOf_handlingOf_more (request : HttpRelayRequest) (stage : Stage) :
    leavingOf sessionId (Progress.handlingOf request (.more stage)) =
      if stage.leaves sessionId then 1 else 0 :=
  leavingOf_singleton request stage

/-- What a step of a handler does to the entry of its session. -/
structure Moved (s s₁ : HttpRelayServer) (request : HttpRelayRequest) (sessionId : String)
    (c : RelaySessionConnection) (stage : Stage) (progress : Progress) : Prop where
  closers : s₁.closers = s.closers
  entry : ∀ sessionId' ≠ sessionId,
    s₁.relayConnectionsBySessionId sessionId' = s.relayConnectionsBySessionId sessionId'
  departs : ∃ c', s₁.connections = Function.update s.connections sessionId (some c') ∧
    Departs c c' (s.relayConnectionsBySessionId sessionId)
      (s₁.relayConnectionsBySessionId sessionId) (leavingOf sessionId [⟨request, stage⟩])
      (leavingOf sessionId (progress.handlingOf request))

/-- A request is written, or refused, and the session is as open as before. -/
theorem moved_sending
    (hstep : s.sessionStep request outcome sessionId c (.sending sessionId) =
      some (s₁, progress)) : Moved s s₁ request sessionId c (.sending sessionId) progress := by
  rw [HttpRelayServer.sessionStep] at hstep
  have hstay : ∀ c' : RelaySessionConnection, c'.isClosed = c.isClosed →
      s₁ = s.setConnection sessionId c' → leavingOf sessionId (progress.handlingOf request) = 0 →
      Moved s s₁ request sessionId c (.sending sessionId) progress := by
    rintro c' hclosed rfl hzero
    exact ⟨rfl, fun _ _ => rfl, c', rfl, .stay hclosed rfl hzero⟩
  have hfailing : leavingOf sessionId (Progress.handlingOf request
      (.more (.failing sessionId .testing))) = 0 := by
    rw [leavingOf_handlingOf_more, Stage.leaves, Closing.leaves, Bool.and_false,
      if_neg Bool.false_ne_true]
  rcases trySendData_sent outcome.failure request.toHttpRelayPeerMessage c with
    ⟨e, he, hrun⟩ | ⟨-, hrun⟩ | ⟨-, -, -, hrun⟩ | ⟨m, n, -, -, hrun⟩ | ⟨m, hrun⟩
  · rw [hrun] at hstep
    rcases e with _ | _ | _ | _ | _ | _ | _ | m
    all_goals first
      | exact absurd rfl (he m)
      | (cases hstep; exact hstay c rfl rfl rfl)
  · rw [hrun] at hstep
    cases hstep
    exact hstay c rfl rfl rfl
  · rw [hrun] at hstep
    cases hstep
    refine hstay _ ?_ rfl rfl
    rfl
  · rw [hrun] at hstep
    cases hstep
    refine hstay _ ?_ rfl hfailing
    rfl
  · rw [hrun] at hstep
    cases hstep
    exact hstay c rfl rfl hfailing

/-- A step of a call of `close`, whatever the call is part of. -/
theorem moved_closeStep {response : HttpRelayResponse} {closing : Closing}
    {next : Option Closing} (wrap : Closing → Stage) (hc : s.connections sessionId = some c)
    (hwrap : ∀ x, (wrap x).leaves sessionId = (decide (sessionId = sessionId) && x.leaves))
    (hclose : s.closeStep sessionId c closing = (s₁, next)) :
    Moved s s₁ request sessionId c (wrap closing)
      (next.elim (.answer response) fun x => .more (wrap x)) := by
  obtain ⟨c', hconn, hentry, hdeparts⟩ := departs_closeStep hc closing
  have hclosers : (s.closeStep sessionId c closing).1.closers = s.closers := by
    rcases closing with _ | _ | _ | _ <;> rfl
  rw [hclose] at hconn hentry hdeparts hclosers
  have hone : ∀ x, leavingOf sessionId [⟨request, wrap x⟩] = if x.leaves then 1 else 0 := by
    intro x
    rw [leavingOf_singleton, hwrap, decide_eq_true rfl, Bool.true_and]
  refine ⟨hclosers, hentry, c', hconn, ?_⟩
  rw [hone]
  rcases next with _ | closing'
  · exact hdeparts
  · have hnext := hone closing'
    change Departs c c' _ _ _ (leavingOf sessionId [⟨request, wrap closing'⟩])
    rw [hnext]
    exact hdeparts

/-- Waiting for data closes nothing. -/
theorem isClosed_after_step {w : WaitForData} (hopen : w.response = none) :
    (after w.step c).isClosed = c.isClosed := by
  have hturn := handlerStep w c hopen
  generalize after w.step c = c' at hturn ⊢
  generalize w.next c = next at hturn
  rcases hturn with _ | _ | _ | _
  · rfl
  · rfl
  · rfl
  · rfl

/-- **A step of a handler on its session.** -/
theorem moved_of_sessionStep (hc : s.connections sessionId = some c)
    (hsession : stage.session = some sessionId) (hsuits : stage.Suits request)
    (hstep : s.sessionStep request outcome sessionId c stage = some (s₁, progress)) :
    Moved s s₁ request sessionId c stage progress := by
  cases stage with
  | arrived => cases hsession
  | opening =>
    obtain rfl := Option.some.inj hsession
    rw [HttpRelayServer.sessionStep] at hstep
    split at hstep
    · cases hstep
      exact ⟨rfl, fun _ _ => rfl, _, rfl, .stay rfl rfl rfl⟩
    · cases hstep
      exact ⟨rfl, fun _ _ => rfl, _, rfl, .stay rfl rfl rfl⟩
  | sending =>
    obtain rfl := Option.some.inj hsession
    exact moved_sending hstep
  | failing sessionId' closing =>
    obtain rfl := Option.some.inj hsession
    rw [HttpRelayServer.sessionStep] at hstep
    rcases hclose : s.closeStep sessionId' c closing with ⟨s₂, next⟩
    -- a failed write closes the session, one step of `close` after another
    have hmoved : Moved s s₂ request sessionId' c (.failing sessionId' closing)
        (next.elim (.answer errorResponse) fun x => .more (.failing sessionId' x)) :=
      moved_closeStep (.failing sessionId') hc (fun _ => rfl) hclose
    rw [hclose] at hstep
    rcases next with _ | closing'
    · cases hstep
      exact hmoved
    · cases hstep
      exact hmoved
  | waiting _ w =>
    obtain rfl := Option.some.inj hsession
    rw [HttpRelayServer.sessionStep] at hstep
    dsimp only at hstep
    rcases hresponse : (w.next c).response with _ | response
    · rw [hresponse] at hstep
      cases hstep
      exact ⟨rfl, fun _ _ => rfl, _, rfl, .stay (isClosed_after_step hsuits.2.2) rfl rfl⟩
    · rw [hresponse] at hstep
      cases hstep
      exact ⟨rfl, fun _ _ => rfl, _, rfl, .stay (isClosed_after_step hsuits.2.2) rfl rfl⟩
  | closing sessionId' closing =>
    obtain rfl := Option.some.inj hsession
    rw [HttpRelayServer.sessionStep] at hstep
    rcases hclose : s.closeStep sessionId' c closing with ⟨s₂, next⟩
    have hmoved : Moved s s₂ request sessionId' c (.closing sessionId' closing)
        (next.elim (.answer { messageType := .SERVER_CLOSING })
          fun x => .more (.closing sessionId' x)) :=
      moved_closeStep (.closing sessionId') hc (fun _ => rfl) hclose
    rw [hclose] at hstep
    rcases next with _ | closing'
    · cases hstep
      exact hmoved
    · cases hstep
      exact hmoved

/-! ## The map over a run -/

/-- Every session's entry is as it should be, and no other id has one. -/
structure HttpRelayServer.Registered (s : HttpRelayServer) : Prop where
  entered : ∀ sessionId c, s.connections sessionId = some c →
    Entered c (s.relayConnectionsBySessionId sessionId) (s.leavers sessionId)
  unknown : ∀ sessionId, s.connections sessionId = none →
    s.relayConnectionsBySessionId sessionId = false ∧ s.leavers sessionId = 0

section Registered

variable {n : ℕ} {h : Handling}

/-- **One session's entry changes and no other's does.** -/
theorem registered_of_departs {k k' m : ℕ} (hr : s.Registered)
    (hc : s.connections sessionId = some c)
    (hconnections : s'.connections = Function.update s.connections sessionId (some c'))
    (hentry : ∀ sessionId' ≠ sessionId,
      s'.relayConnectionsBySessionId sessionId' = s.relayConnectionsBySessionId sessionId')
    (hother : ∀ sessionId' ≠ sessionId, s'.leavers sessionId' = s.leavers sessionId')
    (hbefore : s.leavers sessionId = k + m) (hafter : s'.leavers sessionId = k' + m)
    (hdeparts : Departs c c' (s.relayConnectionsBySessionId sessionId)
      (s'.relayConnectionsBySessionId sessionId) k k') : s'.Registered := by
  refine ⟨fun sessionId' d hd => ?_, fun sessionId' hd => ?_⟩
  · rw [hconnections] at hd
    by_cases heq : sessionId' = sessionId
    · subst heq
      rw [Function.update_self] at hd
      cases hd
      have hentered := hr.entered sessionId' c hc
      rw [hbefore] at hentered
      rw [hafter]
      exact hentered.of_departs hdeparts
    · rw [Function.update_of_ne heq] at hd
      rw [hentry sessionId' heq, hother sessionId' heq]
      exact hr.entered sessionId' d hd
  · rw [hconnections] at hd
    have heq : sessionId' ≠ sessionId := by
      rintro rfl
      rw [Function.update_self] at hd
      cases hd
    rw [Function.update_of_ne heq] at hd
    rw [hentry sessionId' heq, hother sessionId' heq]
    exact hr.unknown sessionId' hd

theorem leavingOf_of_perm {hs hs' rest : List Handling} (hperm : hs.Perm (hs' ++ rest)) :
    leavingOf sessionId hs = leavingOf sessionId hs' + leavingOf sessionId rest := by
  rw [← leavingOf_append]
  exact hperm.countP_eq _

@[simp] theorem closers_proceed (request : HttpRelayRequest) (progress : Progress) :
    (s.proceed s₁ n request progress).closers = s₁.closers := by
  rcases progress with _ | _ <;> rfl

@[simp] theorem relayConnectionsBySessionId_proceed (request : HttpRelayRequest)
    (progress : Progress) : (s.proceed s₁ n request progress).relayConnectionsBySessionId =
      s₁.relayConnectionsBySessionId := by
  rcases progress with _ | _ <;> rfl

variable (s₁ sessionId progress) in
/-- The threads about to post a session's event, before and after a step
of one handler. -/
theorem leavers_proceed (hn : s.handlings[n]? = some h) (hclosers : s₁.closers = s.closers) :
    s.leavers sessionId = leavingOf sessionId [h] +
      (leavingOf sessionId (s.handlings.eraseIdx n) + closingOf sessionId s.closers) ∧
    (s.proceed s₁ n h.request progress).leavers sessionId =
      leavingOf sessionId (progress.handlingOf h.request) +
        (leavingOf sessionId (s.handlings.eraseIdx n) + closingOf sessionId s.closers) := by
  have hbefore : leavingOf sessionId s.handlings = leavingOf sessionId [h] + _ :=
    leavingOf_of_perm (perm_cons_of_getElem? hn)
  have hafter : leavingOf sessionId (s.proceed s₁ n h.request progress).handlings =
      leavingOf sessionId (progress.handlingOf h.request) + _ :=
    leavingOf_of_perm (handlings_proceed s₁ progress hn)
  constructor
  · rw [HttpRelayServer.leavers, hbefore]
    omega
  · rw [HttpRelayServer.leavers, hafter, closers_proceed, hclosers]
    omega

theorem leavingOf_eq_zero {hs : List Handling} (hleaves : ∀ x ∈ hs,
    x.stage.leaves sessionId = false) : leavingOf sessionId hs = 0 := by
  refine List.countP_eq_zero.2 fun x hx hl => ?_
  rw [hleaves x hx] at hl
  cases hl

/-- A handler takes a step on its session. -/
theorem registered_of_moved (hr : s.Registered) (hn : s.handlings[n]? = some h)
    (hc : s.connections sessionId = some c) (hsession : h.stage.session = some sessionId)
    (hnext : ∀ x ∈ progress.handlingOf h.request, x.stage.session = some sessionId)
    (hmoved : Moved s s₁ h.request sessionId c h.stage progress) :
    (s.proceed s₁ n h.request progress).Registered := by
  obtain ⟨c', hconnections, hdeparts⟩ := hmoved.departs
  obtain ⟨hbefore, hafter⟩ := leavers_proceed s₁ sessionId progress hn hmoved.closers
  have hother : ∀ sessionId' ≠ sessionId,
      (s.proceed s₁ n h.request progress).leavers sessionId' = s.leavers sessionId' := by
    intro sessionId' hne
    obtain ⟨hbefore', hafter'⟩ := leavers_proceed s₁ sessionId' progress hn hmoved.closers
    have haway : ∀ x : Handling, x.stage.session = some sessionId →
        x.stage.leaves sessionId' = false := by
      intro x hx
      refine leaves_of_session_ne fun heq => hne ?_
      rw [hx] at heq
      exact (Option.some.inj heq).symm
    have hzero : leavingOf sessionId' [h] = 0 := by
      refine leavingOf_eq_zero fun x hx => ?_
      rw [List.mem_singleton.1 hx]
      exact haway h hsession
    have hzero' : leavingOf sessionId' (progress.handlingOf h.request) = 0 :=
      leavingOf_eq_zero fun x hx => haway x (hnext x hx)
    omega
  refine registered_of_departs hr hc (by rw [connections_proceed, hconnections]) ?_ hother hbefore
    hafter ?_
  · rw [relayConnectionsBySessionId_proceed]
    exact hmoved.entry
  · rw [relayConnectionsBySessionId_proceed]
    exact hdeparts

theorem leavingOf_requireConnection (sessionId' : String)
    (hleaves : stage.leaves sessionId = false) :
    leavingOf sessionId ((s.requireConnection sessionId' stage).handlingOf request) = 0 := by
  rw [HttpRelayServer.requireConnection]
  split_ifs
  · rfl
  · rw [leavingOf_handlingOf_more, hleaves, if_neg Bool.false_ne_true]
  · rfl

/-- A handler that takes up its request has closed nothing yet. -/
theorem leavingOf_handleMessage (hstep : s.handleMessage request outcome = some (s₁, progress)) :
    leavingOf sessionId (progress.handlingOf request) = 0 := by
  rw [HttpRelayServer.handleMessage] at hstep
  rcases htype : request.messageType with _ | _ | _ | _
  · rw [htype] at hstep
    dsimp only at hstep
    split at hstep
    · cases hstep
      rfl
    · split at hstep
      · cases hstep
        rfl
      · split at hstep
        · cases hstep
        · cases hstep
          rfl
  · rw [htype] at hstep
    cases hstep
    exact leavingOf_requireConnection _ rfl
  · rw [htype] at hstep
    cases hstep
    exact leavingOf_requireConnection _ rfl
  · rw [htype] at hstep
    cases hstep
    exact leavingOf_requireConnection _ (Bool.and_false _)

/-- A handler takes up its request: the session it may make has an entry
from the start. -/
theorem registered_of_handleMessage (hr : s.Registered) (hn : s.handlings[n]? = some h)
    (harrived : h.stage = .arrived)
    (hstep : s.handleMessage h.request outcome = some (s₁, progress)) :
    (s.proceed s₁ n h.request progress).Registered := by
  -- a handler that has just arrived closes no session
  have hnone : ∀ sessionId, leavingOf sessionId [h] = 0 := by
    intro sessionId
    refine leavingOf_eq_zero fun x hx => ?_
    rw [List.mem_singleton.1 hx, harrived]
    rfl
  -- either a session is made, or the map stays as it is
  rcases handleMessage_cases hstep with ⟨sessionId, isServerSocket, hfresh, rfl, rfl, -⟩ | ⟨rfl, -⟩
  · have hsame : ∀ sessionId', (s.proceed (s.takeIn sessionId) n h.request
        (.more (.opening sessionId isServerSocket))).leavers sessionId' = s.leavers sessionId' := by
      intro sessionId'
      obtain ⟨hbefore, hafter⟩ := leavers_proceed (s.takeIn sessionId) sessionId'
        (.more (.opening sessionId isServerSocket)) hn rfl
      have hopening : leavingOf sessionId' (Progress.handlingOf h.request
          (.more (.opening sessionId isServerSocket))) = 0 := leavingOf_handleMessage hstep
      have hzero := hnone sessionId'
      omega
    refine ⟨fun sessionId' d hd => ?_, fun sessionId' hd => ?_⟩
    · rw [connections_proceed, connections_takeIn] at hd
      rw [hsame, relayConnectionsBySessionId_proceed]
      by_cases heq : sessionId' = sessionId
      · subst heq
        rw [Function.update_self] at hd
        cases hd
        refine ⟨fun _ => ⟨Function.update_self .., (hr.unknown sessionId' hfresh).2⟩,
          fun hshut => ?_⟩
        cases hshut
      · rw [Function.update_of_ne heq] at hd
        change Entered d (Function.update s.relayConnectionsBySessionId sessionId true sessionId') _
        rw [Function.update_of_ne heq]
        exact hr.entered sessionId' d hd
    · rw [connections_proceed, connections_takeIn] at hd
      have heq : sessionId' ≠ sessionId := by
        rintro rfl
        rw [Function.update_self] at hd
        cases hd
      rw [Function.update_of_ne heq] at hd
      rw [hsame, relayConnectionsBySessionId_proceed]
      change Function.update s.relayConnectionsBySessionId sessionId true sessionId' = false ∧ _
      rw [Function.update_of_ne heq]
      exact hr.unknown sessionId' hd
  · have hsame : ∀ sessionId, (s₁.proceed s₁ n h.request progress).leavers sessionId =
        s₁.leavers sessionId := by
      intro sessionId
      obtain ⟨hbefore, hafter⟩ := leavers_proceed s₁ sessionId progress hn rfl
      have hzero := hnone sessionId
      have hzero' : leavingOf sessionId (progress.handlingOf h.request) = 0 :=
        leavingOf_handleMessage hstep
      omega
    refine ⟨fun sessionId d hd => ?_, fun sessionId hd => ?_⟩
    · rw [connections_proceed] at hd
      rw [hsame, relayConnectionsBySessionId_proceed]
      exact hr.entered sessionId d hd
    · rw [connections_proceed] at hd
      rw [hsame, relayConnectionsBySessionId_proceed]
      exact hr.unknown sessionId hd

/-- A thread that closes a session moves on. -/
theorem registered_of_close {position : ℕ} (hr : s.Registered)
    (hstep : s.step (.close position) = some s') : s'.Registered := by
  rw [HttpRelayServer.step, Option.bind_eq_bind, Option.bind_eq_some_iff] at hstep
  obtain ⟨⟨sessionId, closing⟩, hposition, hstep⟩ := hstep
  rw [Option.bind_eq_bind, Option.bind_eq_some_iff] at hstep
  obtain ⟨c, hc, hstep⟩ := hstep
  obtain ⟨c', hconn, hentry, hdeparts⟩ := departs_closeStep hc closing
  obtain ⟨-, -, -, -, -, -, -, -, -, hhand⟩ := closeStep_cases s hc closing
  obtain ⟨hlt, hget⟩ := List.getElem?_eq_some_iff.1 hposition
  have hperm : s.closers.Perm ([(sessionId, closing)] ++ s.closers.eraseIdx position) := by
    have hcons := (List.getElem_cons_eraseIdx_perm hlt).symm
    rw [hget] at hcons
    exact hcons
  -- the threads that are to post the event, with this one apart
  have hcount : ∀ sessionId', closingOf sessionId' s.closers =
      closingOf sessionId' [(sessionId, closing)] +
        closingOf sessionId' (s.closers.eraseIdx position) := by
    intro sessionId'
    rw [← closingOf_append]
    exact hperm.countP_eq _
  have haway : ∀ sessionId' ≠ sessionId, ∀ closing' : Closing,
      closingOf sessionId' [(sessionId, closing')] = 0 := by
    intro sessionId' hne closing'
    rw [closingOf_singleton, if_neg fun hand => hne hand.1.symm]
  have hself : ∀ closing' : Closing, closingOf sessionId [(sessionId, closing')] =
      if closing'.leaves then 1 else 0 := by
    intro closing'
    simp [closingOf_singleton]
  obtain ⟨next, closers, hnext, rfl, hclosers⟩ : ∃ next closers,
      (s.closeStep sessionId c closing).2 = next ∧
      s' = { (s.closeStep sessionId c closing).1 with closers } ∧
      closers.Perm ((next.toList.map fun closing' => (sessionId, closing')) ++
        s.closers.eraseIdx position) := by
    rcases hclose : s.closeStep sessionId c closing with ⟨s₂, _ | closing'⟩
    · rw [hclose] at hstep
      cases hstep
      exact ⟨none, _, rfl, rfl, List.Perm.refl _⟩
    · rw [hclose] at hstep
      cases hstep
      exact ⟨some closing', _, rfl, rfl, List.set_perm_cons_eraseIdx hlt _⟩
  rw [hnext] at hdeparts
  have hcount' : ∀ sessionId', closingOf sessionId' closers =
      closingOf sessionId' (next.toList.map fun closing' => (sessionId, closing')) +
        closingOf sessionId' (s.closers.eraseIdx position) := by
    intro sessionId'
    rw [← closingOf_append]
    exact hclosers.countP_eq _
  refine registered_of_departs (k := if closing.leaves then 1 else 0)
    (m := leavingOf sessionId s.handlings + closingOf sessionId (s.closers.eraseIdx position))
    hr hc hconn hentry ?_ ?_ ?_ hdeparts
  · intro sessionId' hne
    rw [HttpRelayServer.leavers, HttpRelayServer.leavers, hhand, hcount sessionId',
      haway sessionId' hne closing]
    have hzero :
        closingOf sessionId' (next.toList.map fun closing' => (sessionId, closing')) = 0 := by
      rcases next with _ | closing'
      · rfl
      · exact haway sessionId' hne closing'
    have hrest := hcount' sessionId'
    dsimp only
    omega
  · rw [HttpRelayServer.leavers, hcount sessionId, hself]
    omega
  · rw [HttpRelayServer.leavers, hhand]
    have hone : closingOf sessionId (next.toList.map fun closing' => (sessionId, closing')) =
        if next.any Closing.leaves then 1 else 0 := by
      rcases next with _ | closing'
      · rfl
      · exact hself closing'
    have hrest := hcount' sessionId
    dsimp only
    omega

theorem isClosed_appendData (bytes : Bytes) :
    (after (RelaySessionConnection.appendData bytes) c).isClosed = c.isClosed := by
  by_cases hstream : c.hasInputStream = true
  · rw [after_of_ok (run_appendData bytes hstream)]
  · rw [after_of_error (run_appendData_of_closed bytes hstream)]

/-- **Every turn keeps the entries as they should be.** -/
theorem registered_step {turn : ServerTurn} {requests : List HttpRelayRequest}
    (hb : s.Balanced requests) (hr : s.Registered)
    (hstep : s.step turn = some s') : s'.Registered := by
  cases turn with
  | request request =>
    cases hstep
    -- a new handler is not about to take any session out
    have hsame : ∀ sessionId, HttpRelayServer.leavers { s with
        handlings := s.handlings ++ [⟨request, .arrived⟩] } sessionId = s.leavers sessionId := by
      intro sessionId
      rw [HttpRelayServer.leavers, HttpRelayServer.leavers]
      dsimp only
      rw [leavingOf_append, leavingOf_singleton]
      rfl
    refine ⟨fun sessionId c hc => ?_, fun sessionId hnone => ?_⟩
    · rw [hsame]
      exact hr.entered sessionId c hc
    · rw [hsame]
      exact hr.unknown sessionId hnone
  | handle position outcome =>
    obtain ⟨h, s₁, progress, hn, hhandle, rfl⟩ := step_handle hstep
    rw [HttpRelayServer.handle] at hhandle
    rcases hsession : h.stage.session with _ | sessionId
    · rw [hsession] at hhandle
      exact registered_of_handleMessage hr hn (stage_of_session_none hsession) hhandle
    · rw [hsession] at hhandle
      dsimp only at hhandle
      rw [Option.bind_eq_bind, Option.bind_eq_some_iff] at hhandle
      obtain ⟨c, hc, hhandle⟩ := hhandle
      have hsuits := hb.suits h (List.mem_of_getElem? hn)
      exact registered_of_moved hr hn hc hsession
        (fun x hx => ((stepped_of_sessionStep hc hsession hsuits hhandle).suits x hx).2)
        (moved_of_sessionStep hc hsession hsuits hhandle)
  | read sessionId bytes =>
    rw [HttpRelayServer.step, Option.bind_eq_bind, Option.bind_eq_some_iff] at hstep
    obtain ⟨c, hc, hstep⟩ := hstep
    split at hstep
    · cases hstep
      exact registered_of_departs (k := 0) (m := s.leavers sessionId) hr hc rfl (fun _ _ => rfl)
        (fun _ _ => rfl) (Nat.zero_add _).symm (Nat.zero_add _).symm
        (.stay (isClosed_appendData bytes) rfl rfl)
    · cases hstep
  | stopReading sessionId closes =>
    cases hstep
    -- the thread that stops reading may close, but has not yet tested `isClosed`
    have hsame : ∀ sessionId', closingOf sessionId'
        (s.closers ++ if closes then [(sessionId, .testing)] else []) =
          closingOf sessionId' s.closers := by
      intro sessionId'
      rw [closingOf_append]
      cases closes
      · rfl
      · simp [closingOf_singleton, Closing.leaves]
    refine ⟨fun sessionId' c hc => ?_, fun sessionId' hnone => ?_⟩
    · rw [HttpRelayServer.leavers, hsame]
      exact hr.entered sessionId' c hc
    · rw [HttpRelayServer.leavers, hsame]
      exact hr.unknown sessionId' hnone
  | close position => exact registered_of_close hr hstep

theorem registered_of_run {es : List ServerTurn} (h : httpRelayServer.Reaches es s) :
    s.Registered := by
  refine h.invariant (I := fun _ s => s.Registered) ?_ fun _ _ _ _ hrun hr _ hstep =>
    registered_step (balanced_of_run hrun) hr hstep
  rintro _ rfl
  exact ⟨(fun _ _ hc => by cases hc), fun _ _ => ⟨rfl, rfl⟩⟩

end Registered

/-- **The map holds the open sessions**: an open session is in the map; what
is in the map is an open session, or there is a thread that closed it and
is to take it out; and there is none such for a session that is open. -/
theorem map_holds_open_sessions {es : List ServerTurn} (h : httpRelayServer.Reaches es s)
    (sessionId : String) :
    (∀ c, s.connections sessionId = some c → c.isClosed = false →
      s.relayConnectionsBySessionId sessionId = true ∧ s.leavers sessionId = 0) ∧
    (s.relayConnectionsBySessionId sessionId = true → s.leavers sessionId = 0 →
      ∃ c, s.connections sessionId = some c ∧ c.isClosed = false) := by
  have hr := registered_of_run h
  refine ⟨fun c hc hopen => (hr.entered sessionId c hc).isOpen hopen, fun hentry hzero => ?_⟩
  rcases hc : s.connections sessionId with _ | c
  · rw [(hr.unknown sessionId hc).1] at hentry
    cases hentry
  · refine ⟨c, rfl, ?_⟩
    by_contra hshut
    have hpos := (hr.entered sessionId c hc).isClosed (by simpa using hshut) hentry
    omega

/-- Two threads find the first session open, and one of them has closed it
and is done with it; the second session stays open. -/
def sampleClosing : List ServerTurn :=
  [.request { messageType := .CONNECT, sessionId := "", deviceId := "x" },
    .handle 0 { opened := some ("a", true) }, .handle 0 {},
    .request { messageType := .CONNECT, sessionId := "", deviceId := "y" },
    .handle 0 { opened := some ("b", true) }, .handle 0 {},
    .request { messageType := .PEER_CLOSING, sessionId := "a" }, .handle 0 {}, .handle 0 {},
    .stopReading "a" true, .close 0, .handle 0 {}, .handle 0 {}, .handle 0 {}, .close 0]

theorem map_holds_open_sessions_sample : ∃ s, httpRelayServer.Reaches sampleClosing s ∧
    s.leavers "a" = 1 ∧ s.relayConnectionsBySessionId "a" = false ∧
    s.relayConnectionsBySessionId "b" = true := by
  obtain ⟨s, hrun, hs⟩ : ∃ s, httpRelayServer.Run (fun _ _ _ => true = true) sampleClosing s ∧
      decide (s.leavers "a" = 1 ∧ s.relayConnectionsBySessionId "a" = false ∧
        (s.connections "b").any (fun c => !c.isClosed)) = true :=
    Machine.exists_run_of_any (by decide +kernel)
  obtain ⟨hone, hgone, hopen⟩ := of_decide_eq_true hs
  obtain ⟨c, hc, hc'⟩ := (Option.any_eq_true ..).1 hopen
  refine ⟨s, hrun.reaches, hone, hgone, ?_⟩
  exact ((map_holds_open_sessions hrun.reaches "b").1 c hc (by simpa using hc')).1

end HttpRelay

end ASync
