import ASync.HttpRelay.Helpers.RelaySessionConnection
import ASync.HttpRelay.Model.HttpRelayServer
/-!
# The sessions of a relay server

Any number of requests for any number of sessions is handled at once, and
each session keeps to itself: what its socket is given are the chunks of
the requests accepted for it, in the order of their numbers, and what is
answered for it came from its own socket. A session that is closed leaves
the map.
-/

namespace ASync

namespace HttpRelay

open HttpRelayProtos Effect

/-! ## Calls on a session -/

section Calls

open RelaySessionConnection

variable {c : RelaySessionConnection}

theorem run_appendData (bytes : Bytes) (hstream : c.hasInputStream = true) :
    (appendData bytes).run c = .ok () { c with tempFile := some (c.content ++ bytes) } := by
  rw [appendData, run_get_bind, run_bind_of_ok (run_requireStream hstream c)]
  rfl

theorem run_appendData_of_closed (bytes : Bytes) (hstream : ¬ c.hasInputStream = true) :
    (appendData bytes).run c = .error (.nullPointer "") c := by
  rw [appendData, run_get_bind, run_bind_of_error (run_requireStream_of_closed hstream c)]

end Calls

/-! ## The books of a session -/

/-- What a run has done for one session: the requests accepted, the chunks
answered, the chunks popped and those a handler has yet to number, what
its reader received, and how many handlers are to connect it. -/
structure Ledger where
  connection : RelaySessionConnection
  openings : ℕ
  accepted : List HttpRelayRequest
  chunks : List HttpRelayServerMessage
  pending : List Bytes
  popped : List Bytes
  received : Bytes
  isReading : Bool

/-- The numbers one, two, three. -/
def numbersTo (n : ℕ) : List ℤ := (List.range n).map fun i : ℕ => (i : ℤ) + 1

theorem numbersTo_succ (n : ℕ) : numbersTo (n + 1) = numbersTo n ++ [(n : ℤ) + 1] := by
  rw [numbersTo, List.range_succ, List.map_append]
  rfl

namespace Ledger

/-- The socket has the chunks of the requests accepted, numbered from one,
and a part of the next that was sent after a write failed; what was popped
and what is kept are what was received, up to what the reader lost with
the stream; and each chunk popped was answered once, or is about to be. -/
structure Sound (sent : HttpRelayRequest → Prop) (l : Ledger) : Prop where
  number : l.connection.broken = false →
    l.connection.peerToRelaySequence = l.accepted.length
  numbered : l.accepted.map (fun r => r.sequence) = numbersTo l.accepted.length
  written : l.connection.broken = false →
    l.connection.written = (l.accepted.map fun r => r.data).flatten
  torn : l.connection.broken = true → ∃ r, sent r ∧ r.sequence = l.accepted.length + 1 ∧
    ∃ n, l.connection.written = (l.accepted.map fun r => r.data).flatten ++ r.data.take n
  taken : l.popped.flatten ++ l.connection.content <+: l.received
  rest : l.isReading = true → l.popped.flatten ++ l.connection.content = l.received
  answered : l.popped.Perm (l.chunks.map HttpRelayServerMessage.data ++ l.pending)
  opened : l.openings ≤ 1
  unread : l.openings = 1 → l.received = [] ∧ l.isReading = false

variable {sent : HttpRelayRequest → Prop} {l : Ledger} {c : RelaySessionConnection}

/-- A session that was just made. -/
theorem sound_new (sessionId : String) (hasInputStream hasOutputStream : Bool) :
    Sound sent ⟨{ sessionId, hasInputStream, hasOutputStream }, 1, [], [], [], [], [], false⟩ where
  number _ := rfl
  numbered := rfl
  written _ := rfl
  torn h := by cases h
  taken := List.prefix_refl _
  rest h := by cases h
  answered := List.Perm.refl _
  opened := le_refl 1
  unread _ := ⟨rfl, rfl⟩

/-- Closing, refusing and waiting change neither direction. -/
theorem Sound.keep (h : l.Sound sent) (hout : SameOutput l.connection c)
    (hin : SameInput l.connection c) : Sound sent { l with connection := c } where
  number hopen := by
    rw [hout.peerToRelaySequence]
    exact h.number (hout.broken ▸ hopen)
  numbered := h.numbered
  written hopen := by
    rw [hout.written]
    exact h.written (hout.broken ▸ hopen)
  torn hbroken := by
    rw [hout.written]
    exact h.torn (hout.broken ▸ hbroken)
  taken := by
    rw [hin.content]
    exact h.taken
  rest hreading := by
    rw [hin.content]
    exact h.rest hreading
  answered := h.answered
  opened := h.opened
  unread := h.unread

/-- The handler that made the session connects it. -/
theorem Sound.connect (h : l.Sound sent) (hone : l.openings = 1) (hout : SameOutput l.connection c)
    (hin : SameInput l.connection c) :
    Sound sent { l with connection := c, isReading := true, openings := 0 } := by
  have hkept := h.keep hout hin
  obtain ⟨hreceived, -⟩ := h.unread hone
  refine ⟨hkept.number, hkept.numbered, hkept.written, hkept.torn, hkept.taken, fun _ => ?_,
    hkept.answered, Nat.zero_le 1, fun hzero => ?_⟩
  · have htaken := hkept.taken
    dsimp only at htaken ⊢
    rw [hreceived] at htaken ⊢
    exact List.prefix_nil.1 htaken
  · cases hzero

/-- It may fail to. -/
theorem Sound.disconnect (h : l.Sound sent) : Sound sent { l with openings := 0 } :=
  ⟨h.number, h.numbered, h.written, h.torn, h.taken, h.rest, h.answered,
    Nat.zero_le 1, fun hzero => absurd hzero (by simp)⟩

/-- **A request is accepted** under the next number. -/
theorem Sound.accept {r : HttpRelayRequest} (h : l.Sound sent) (hopen : l.connection.broken = false)
    (hnext : r.sequence = l.connection.peerToRelaySequence + 1) :
    Sound sent { l with
      connection := { l.connection with
        written := l.connection.written ++ r.data, peerToRelaySequence := r.sequence }
      accepted := l.accepted ++ [r] } := by
  have hnumber := h.number hopen
  have hseq : r.sequence = (l.accepted.length : ℤ) + 1 := by omega
  have hdata : ((l.accepted ++ [r]).map fun r => r.data).flatten =
      (l.accepted.map fun r => r.data).flatten ++ r.data := by
    rw [List.map_append, List.flatten_append]
    simp
  refine ⟨fun _ => ?_, ?_, fun _ => ?_, fun hbroken => ?_, h.taken, h.rest, h.answered,
    h.opened, h.unread⟩
  · dsimp only
    rw [List.length_append, hseq]
    rfl
  · dsimp only
    rw [List.map_append, List.length_append, h.numbered, List.length_singleton, numbersTo_succ,
      List.map_singleton, hseq]
  · dsimp only
    rw [hdata, h.written hopen]
  · rw [show l.connection.broken = true from hbroken] at hopen
    cases hopen

/-- A write of a request under the next number fails after a part. -/
theorem Sound.fail {r : HttpRelayRequest} (h : l.Sound sent) (hopen : l.connection.broken = false)
    (hsent : sent r) (hnext : r.sequence = l.connection.peerToRelaySequence + 1) (n : ℕ) :
    Sound sent { l with
      connection := { l.connection with
        written := l.connection.written ++ r.data.take n, broken := true } } where
  number hopen := by cases hopen
  numbered := h.numbered
  written hopen := by cases hopen
  torn _ := by
    have hnumber := h.number hopen
    refine ⟨r, hsent, ?_, n, ?_⟩
    · rw [hnext, hnumber]
    · dsimp only
      rw [h.written hopen]
  taken := h.taken
  rest := h.rest
  answered := h.answered
  opened := h.opened
  unread := h.unread

/-- The order in which handlers stand does not matter. -/
theorem Sound.perm {pending : List Bytes} (h : l.Sound sent) (hperm : l.pending.Perm pending) :
    Sound sent { l with pending } :=
  ⟨h.number, h.numbered, h.written, h.torn, h.taken, h.rest,
    h.answered.trans (hperm.append_left _), h.opened, h.unread⟩

/-- **A handler pops all there is.** -/
theorem Sound.pop {tempFile : Option Bytes} (h : l.Sound sent) (hempty : tempFile.getD [] = []) :
    Sound sent { l with
      connection := { l.connection with tempFile }
      popped := l.popped ++ [l.connection.content]
      pending := l.connection.content :: l.pending } := by
  have hall : (l.popped ++ [l.connection.content]).flatten ++ tempFile.getD [] =
      l.popped.flatten ++ l.connection.content := by
    rw [hempty, List.flatten_append, List.flatten_singleton, List.append_nil]
  refine ⟨h.number, h.numbered, h.written, h.torn, ?_, fun hreading => ?_, ?_, h.opened, h.unread⟩
  · change (l.popped ++ [l.connection.content]).flatten ++ tempFile.getD [] <+: l.received
    rw [hall]
    exact h.taken
  · change (l.popped ++ [l.connection.content]).flatten ++ tempFile.getD [] = l.received
    rw [hall]
    exact h.rest hreading
  · refine (h.answered.append_right _).trans ?_
    rw [List.append_assoc]
    exact List.perm_append_comm.append_left _

/-- **A handler numbers what it popped**, and answers it. -/
theorem Sound.answer {data : Bytes} {pending : List Bytes} (h : l.Sound sent)
    (hpending : l.pending.Perm (data :: pending)) :
    Sound sent { l with
      connection := { l.connection with
        relayToPeerSequence := l.connection.relayToPeerSequence + 1 }
      chunks := l.chunks ++ [⟨.RELAY_TO_PEER, l.connection.relayToPeerSequence + 1, data⟩]
      pending } := by
  refine ⟨h.number, h.numbered, h.written, h.torn, h.taken, h.rest, ?_, h.opened, h.unread⟩
  refine h.answered.trans ((hpending.append_left _).trans ?_)
  rw [List.map_append, List.append_assoc]
  exact List.Perm.refl _

/-- **The reader appends what it received**, or finds the stream gone. -/
theorem Sound.read (h : l.Sound sent) (bytes : Bytes) (hreading : l.isReading = true) :
    Sound sent { l with
      connection := after (RelaySessionConnection.appendData bytes) l.connection
      received := l.received ++ bytes
      isReading := (result (RelaySessionConnection.appendData bytes) l.connection).isSome } := by
  have hrest := h.rest hreading
  have hunread : l.openings ≠ 1 := by
    intro hone
    rw [(h.unread hone).2] at hreading
    cases hreading
  by_cases hstream : l.connection.hasInputStream = true
  · have hrun := run_appendData bytes hstream
    rw [after_of_ok hrun, result_of_ok hrun]
    have hall : l.popped.flatten ++ (l.connection.content ++ bytes) = l.received ++ bytes := by
      rw [← List.append_assoc, hrest]
    exact ⟨h.number, h.numbered, h.written, h.torn, hall ▸ List.prefix_refl _, fun _ => hall,
      h.answered, h.opened, fun hone => absurd hone hunread⟩
  · have hrun := run_appendData_of_closed bytes hstream
    rw [after_of_error hrun, result_of_error hrun]
    refine ⟨h.number, h.numbered, h.written, h.torn, ?_, fun hsome => ?_, h.answered,
      h.opened, fun hone => absurd hone hunread⟩
    · exact h.taken.trans (List.prefix_append _ _)
    · cases hsome

theorem Sound.stop (h : l.Sound sent) : Sound sent { l with isReading := false } :=
  ⟨h.number, h.numbered, h.written, h.torn, h.taken, (fun hr => by cases hr), h.answered,
    h.opened, fun hone => ⟨(h.unread hone).1, rfl⟩⟩

end Ledger

/-! ## The books of a server -/

/-- The requests with data that were accepted for a session. -/
def acceptedOf (sessionId : String) (answers : List (HttpRelayRequest × HttpRelayResponse)) :
    List HttpRelayRequest :=
  (answers.filter fun a => decide (a.1.sessionId = sessionId) &&
    decide (a.1.messageType = .PEER_TO_RELAY) && decide (a.2.messageType = .DATA_ACCEPTED) &&
      !a.1.data.isEmpty).map Prod.fst

/-- The chunks answered for a session. -/
def chunksOf (sessionId : String) (answers : List (HttpRelayRequest × HttpRelayResponse)) :
    List HttpRelayServerMessage :=
  (answers.filter fun a => decide (a.1.sessionId = sessionId) &&
    decide (a.2.messageType = .RELAY_TO_PEER)).map fun a => a.2.toHttpRelayServerMessage

/-- What a handler at some stage popped of a session and has to number. -/
def Stage.pendingIn (sessionId : String) : Stage → Option Bytes
  | .waiting sessionId' h => if sessionId' = sessionId then h.pending else none
  | _ => none

/-- What the handlers popped of a session and have to number. -/
def pendingOf (sessionId : String) (handlings : List Handling) : List Bytes :=
  handlings.filterMap fun h => h.stage.pendingIn sessionId

/-- A handler at this stage is to connect the session. -/
def Stage.opens (sessionId : String) : Stage → Bool
  | .opening sessionId' _ => decide (sessionId' = sessionId)
  | _ => false

/-- How many handlers are to connect a session. -/
def openingsOf (sessionId : String) (handlings : List Handling) : ℕ :=
  handlings.countP fun h => h.stage.opens sessionId

/-- What was popped of a session. -/
def poppedOf (sessionId : String) (popped : List (String × Bytes)) : List Bytes :=
  (popped.filter fun p => decide (p.1 = sessionId)).map Prod.snd

variable {s s' : HttpRelayServer} {sessionId sessionId' : String} {c : RelaySessionConnection}
variable {request : HttpRelayRequest} {response : HttpRelayResponse} {stage : Stage}
variable {answers : List (HttpRelayRequest × HttpRelayResponse)}

/-- The books of a session, beside its connection. -/
def HttpRelayServer.ledger (s : HttpRelayServer) (sessionId : String) (c : RelaySessionConnection) :
    Ledger where
  connection := c
  openings := openingsOf sessionId s.handlings
  accepted := acceptedOf sessionId s.answers
  chunks := chunksOf sessionId s.answers
  pending := pendingOf sessionId s.handlings
  popped := poppedOf sessionId s.popped
  received := s.received sessionId
  isReading := s.isReading sessionId

theorem acceptedOf_append (answers more : List (HttpRelayRequest × HttpRelayResponse)) :
    acceptedOf sessionId (answers ++ more) =
      acceptedOf sessionId answers ++ acceptedOf sessionId more := by
  rw [acceptedOf, List.filter_append, List.map_append, acceptedOf, acceptedOf]

theorem chunksOf_append (answers more : List (HttpRelayRequest × HttpRelayResponse)) :
    chunksOf sessionId (answers ++ more) =
      chunksOf sessionId answers ++ chunksOf sessionId more := by
  rw [chunksOf, List.filter_append, List.map_append, chunksOf, chunksOf]

theorem poppedOf_append (popped more : List (String × Bytes)) :
    poppedOf sessionId (popped ++ more) = poppedOf sessionId popped ++ poppedOf sessionId more := by
  rw [poppedOf, List.filter_append, List.map_append, poppedOf, poppedOf]

/-! ## One handler among the others -/

/-- What a step of a handler answers, if anything. -/
def Progress.answerOf (request : HttpRelayRequest) :
    Progress → List (HttpRelayRequest × HttpRelayResponse)
  | .more _ => []
  | .answer response => [(request, response)]

/-- The handler a step leaves, if any. -/
def Progress.handlingOf (request : HttpRelayRequest) : Progress → List Handling
  | .more stage => [⟨request, stage⟩]
  | .answer _ => []

/-- The server after a step of one handler, by what the step did to it. -/
def HttpRelayServer.proceed (s s₁ : HttpRelayServer) (n : ℕ) (request : HttpRelayRequest) :
    Progress → HttpRelayServer
  | .more stage => { s₁ with handlings := s.handlings.set n ⟨request, stage⟩ }
  | .answer response => { s₁ with
      handlings := s.handlings.eraseIdx n, answers := s.answers ++ [(request, response)] }

theorem pendingOf_append (hs hs' : List Handling) :
    pendingOf sessionId (hs ++ hs') = pendingOf sessionId hs ++ pendingOf sessionId hs' :=
  List.filterMap_append

theorem openingsOf_append (hs hs' : List Handling) :
    openingsOf sessionId (hs ++ hs') = openingsOf sessionId hs + openingsOf sessionId hs' :=
  List.countP_append

/-- The handlers are one of them and the others. -/
theorem perm_cons_of_getElem? {hs : List Handling} {n : ℕ} {h : Handling} (hn : hs[n]? = some h) :
    hs.Perm (h :: hs.eraseIdx n) := by
  obtain ⟨hlt, rfl⟩ := List.getElem?_eq_some_iff.1 hn
  exact (List.getElem_cons_eraseIdx_perm hlt).symm

section Proceed

variable {s₁ : HttpRelayServer} {n : ℕ} {h : Handling} (progress : Progress)

variable (s₁) in
theorem handlings_proceed (hn : s.handlings[n]? = some h) :
    (s.proceed s₁ n h.request progress).handlings.Perm
      (progress.handlingOf h.request ++ s.handlings.eraseIdx n) := by
  obtain ⟨hlt, -⟩ := List.getElem?_eq_some_iff.1 hn
  rcases progress with stage | response
  · exact List.set_perm_cons_eraseIdx hlt ⟨h.request, stage⟩
  · exact List.Perm.refl _

theorem answers_proceed (hsame : s₁.answers = s.answers) (request : HttpRelayRequest) :
    (s.proceed s₁ n request progress).answers = s.answers ++ progress.answerOf request := by
  rcases progress with stage | response
  · exact hsame.trans (List.append_nil _).symm
  · rfl

end Proceed

/-! ## What a step of a handler does to the books -/

/-- A stage goes with the handler's request. -/
def Stage.Suits (request : HttpRelayRequest) : Stage → Prop
  | .arrived => True
  | .opening _ _ => request.messageType = .CONNECT
  | .sending sessionId => request.sessionId = sessionId ∧ request.messageType = .PEER_TO_RELAY
  | .failing sessionId _ | .closing sessionId _ => request.sessionId = sessionId
  | .waiting sessionId h => request.sessionId = sessionId ∧
      request.messageType = .WAIT_FOR_DATA ∧ h.response = none

namespace Ledger

variable {sent : HttpRelayRequest → Prop} {l l' : Ledger}

/-- The books with some more handlers at work. -/
def withHandlers (l : Ledger) (sessionId : String) (hs : List Handling) : Ledger :=
  { l with
    openings := openingsOf sessionId hs + l.openings, pending :=
      pendingOf sessionId hs ++ l.pending }

/-- The books with some more answers. -/
def withAnswers (l : Ledger) (sessionId : String)
    (answers : List (HttpRelayRequest × HttpRelayResponse)) : Ledger :=
  { l with
    accepted := l.accepted ++ acceptedOf sessionId answers
    chunks := l.chunks ++ chunksOf sessionId answers }

/-- The order of the handlers aside. -/
structure Same (l l' : Ledger) : Prop where
  connection : l'.connection = l.connection
  openings : l'.openings = l.openings
  accepted : l'.accepted = l.accepted
  chunks : l'.chunks = l.chunks
  pending : l.pending.Perm l'.pending
  popped : l'.popped = l.popped
  received : l'.received = l.received
  isReading : l'.isReading = l.isReading

theorem Sound.of_same (h : l.Sound sent) (hs : Same l l') : l'.Sound sent := by
  obtain ⟨c, o, a, ch, p, po, r, i⟩ := l
  obtain ⟨c', o', a', ch', p', po', r', i'⟩ := l'
  obtain ⟨rfl, rfl, rfl, rfl, hperm, rfl, rfl, rfl⟩ := hs
  exact h.perm hperm

/-- Neither the handlers nor the answers concern the session. -/
theorem withAnswers_withHandlers_nil {hs : List Handling}
    {answers : List (HttpRelayRequest × HttpRelayResponse)}
    (hpending : pendingOf sessionId hs = []) (hopenings : openingsOf sessionId hs = 0)
    (haccepted : acceptedOf sessionId answers = []) (hchunks : chunksOf sessionId answers = []) :
    (l.withAnswers sessionId answers).withHandlers sessionId hs = l := by
  rw [withHandlers, withAnswers, hpending, hopenings, haccepted, hchunks, List.append_nil,
    List.append_nil, List.nil_append, Nat.zero_add]

end Ledger

/-- Answers that carry no data concern no session's books. -/
theorem acceptedOf_eq_nil (h : response.messageType ≠ .DATA_ACCEPTED) :
    acceptedOf sessionId [(request, response)] = [] := by
  simp [acceptedOf, h]

theorem chunksOf_eq_nil (h : response.messageType ≠ .RELAY_TO_PEER) :
    chunksOf sessionId [(request, response)] = [] := by
  simp [chunksOf, h]

/-- So do answers to another session's requests. -/
theorem acceptedOf_eq_nil_of_ne (h : request.sessionId ≠ sessionId) :
    acceptedOf sessionId [(request, response)] = [] := by
  simp [acceptedOf, h]

theorem chunksOf_eq_nil_of_ne (h : request.sessionId ≠ sessionId) :
    chunksOf sessionId [(request, response)] = [] := by
  simp [chunksOf, h]

/-- One of the requests, and it sends to the session. -/
def SentTo (requests : List HttpRelayRequest) (sessionId : String) (r : HttpRelayRequest) : Prop :=
  r ∈ requests ∧ r.sessionId = sessionId ∧ r.messageType = .PEER_TO_RELAY

/-- What a step of a handler does to the session it is at, and that it
does nothing to another. -/
structure Stepped (s s₁ : HttpRelayServer) (request : HttpRelayRequest) (sessionId : String)
    (c : RelaySessionConnection) (stage : Stage) (progress : Progress) : Prop where
  answers : s₁.answers = s.answers
  received : s₁.received = s.received
  isReading : ∀ sessionId' ≠ sessionId, s₁.isReading sessionId' = s.isReading sessionId'
  popped : ∀ sessionId' ≠ sessionId,
    poppedOf sessionId' s₁.popped = poppedOf sessionId' s.popped
  connection : ∃ c', s₁.connections = Function.update s.connections sessionId (some c') ∧
    c'.sessionId = c.sessionId ∧
    ∀ (requests : List HttpRelayRequest) (l : Ledger), request ∈ requests → l.connection = c →
      l.popped = poppedOf sessionId s.popped → l.received = s.received sessionId →
      l.isReading = s.isReading sessionId →
      (l.withHandlers sessionId [⟨request, stage⟩]).Sound (SentTo requests sessionId) →
      ((({ l with
        connection := c'
        popped := poppedOf sessionId s₁.popped
        isReading := s₁.isReading sessionId } : Ledger).withAnswers sessionId
          (progress.answerOf request)).withHandlers sessionId (progress.handlingOf request)).Sound
            (SentTo requests sessionId)
  suits : ∀ h ∈ progress.handlingOf request,
    h.stage.Suits h.request ∧ h.stage.session = some sessionId
  quiet : ∀ sessionId' ≠ sessionId, acceptedOf sessionId' (progress.answerOf request) = [] ∧
    chunksOf sessionId' (progress.answerOf request) = []

section Stepped

variable {s₁ : HttpRelayServer} {progress : Progress} {c' : RelaySessionConnection}
variable {outcome : Outcome}

/-- A stage at which no data is held and no session to be connected. -/
def Stage.Idle (stage : Stage) : Prop :=
  ∀ sessionId, stage.pendingIn sessionId = none ∧ stage.opens sessionId = false

/-- A step after which the handler holds nothing, and answers nothing that
carries data. -/
def Progress.Idle : Progress → Prop
  | .more stage => stage.Idle
  | .answer response => response.messageType ≠ .DATA_ACCEPTED ∧
      response.messageType ≠ .RELAY_TO_PEER

theorem Stage.Idle.pendingOf (h : stage.Idle) (request : HttpRelayRequest) :
    pendingOf sessionId [⟨request, stage⟩] = [] := by
  simp [HttpRelay.pendingOf, (h sessionId).1]

theorem Stage.Idle.openingsOf (h : stage.Idle) (request : HttpRelayRequest) :
    openingsOf sessionId [⟨request, stage⟩] = 0 := by
  simp [HttpRelay.openingsOf, (h sessionId).2]

theorem Progress.Idle.pendingOf (h : progress.Idle) (request : HttpRelayRequest) :
    pendingOf sessionId (progress.handlingOf request) = [] := by
  cases progress with
  | more stage => exact Stage.Idle.pendingOf h request
  | answer response => rfl

theorem Progress.Idle.openingsOf (h : progress.Idle) (request : HttpRelayRequest) :
    openingsOf sessionId (progress.handlingOf request) = 0 := by
  cases progress with
  | more stage => exact Stage.Idle.openingsOf h request
  | answer response => rfl

theorem Progress.Idle.acceptedOf (h : progress.Idle) (request : HttpRelayRequest) :
    acceptedOf sessionId (progress.answerOf request) = [] := by
  cases progress with
  | more stage => rfl
  | answer response => exact acceptedOf_eq_nil h.1

theorem Progress.Idle.chunksOf (h : progress.Idle) (request : HttpRelayRequest) :
    chunksOf sessionId (progress.answerOf request) = [] := by
  cases progress with
  | more stage => rfl
  | answer response => exact chunksOf_eq_nil h.2

/-- With nothing held before or after, the books are those of the session
alone. -/
theorem withHandlers_idle {l : Ledger} (h : stage.Idle) :
    l.withHandlers sessionId [⟨request, stage⟩] = l := by
  rw [Ledger.withHandlers, h.pendingOf, h.openingsOf, List.nil_append, Nat.zero_add]

/-- A step after which the handler holds nothing, and whose answer is none
to write down. -/
structure Progress.Quiet (progress : Progress) (request : HttpRelayRequest) : Prop where
  pendingOf : ∀ sessionId, HttpRelay.pendingOf sessionId (progress.handlingOf request) = []
  openingsOf : ∀ sessionId, HttpRelay.openingsOf sessionId (progress.handlingOf request) = 0
  acceptedOf : ∀ sessionId, HttpRelay.acceptedOf sessionId (progress.answerOf request) = []
  chunksOf : ∀ sessionId, HttpRelay.chunksOf sessionId (progress.answerOf request) = []

theorem Progress.Idle.quiet (h : progress.Idle) (request : HttpRelayRequest) :
    progress.Quiet request :=
  ⟨fun _ => h.pendingOf request, fun _ => h.openingsOf request, fun _ => h.acceptedOf request,
    fun _ => h.chunksOf request⟩

/-- A handler that goes on without data is as quiet. -/
theorem Stage.Idle.quiet (h : stage.Idle) (request : HttpRelayRequest) :
    (Progress.more stage).Quiet request := by
  have hidle : (Progress.more stage).Idle := h
  exact hidle.quiet request

theorem withAnswers_withHandlers_quiet {l : Ledger} (h : progress.Quiet request) :
    (l.withAnswers sessionId (progress.answerOf request)).withHandlers sessionId
      (progress.handlingOf request) = l :=
  Ledger.withAnswers_withHandlers_nil (h.pendingOf sessionId) (h.openingsOf sessionId)
    (h.acceptedOf sessionId) (h.chunksOf sessionId)

/-- **A step that holds no data and answers none** does to the books what
it does to the connection. -/
theorem stepped_of_quiet (hidle : stage.Idle) (hquiet : progress.Quiet request)
    (hanswers : s₁.answers = s.answers) (hreceived : s₁.received = s.received)
    (hreading : s₁.isReading = s.isReading) (hpopped : s₁.popped = s.popped)
    (hconnections : s₁.connections = Function.update s.connections sessionId (some c'))
    (hid : c'.sessionId = c.sessionId)
    (hsuits : ∀ h ∈ progress.handlingOf request,
      h.stage.Suits h.request ∧ h.stage.session = some sessionId)
    (hsound : ∀ (requests : List HttpRelayRequest) (l : Ledger), request ∈ requests →
      l.connection = c → l.Sound (SentTo requests sessionId) →
        Ledger.Sound (SentTo requests sessionId) { l with connection := c' }) :
    Stepped s s₁ request sessionId c stage progress where
  answers := hanswers
  received := hreceived
  isReading _ _ := by rw [hreading]
  popped _ _ := by rw [hpopped]
  connection := by
    refine ⟨c', hconnections, hid, fun requests l hmem hl hpop hrec hread h => ?_⟩
    rw [withHandlers_idle hidle] at h
    rw [withAnswers_withHandlers_quiet hquiet, hpopped, hreading, ← hpop, ← hread]
    exact hsound requests l hmem hl h
  suits := hsuits
  quiet sessionId' _ := ⟨hquiet.acceptedOf sessionId', hquiet.chunksOf sessionId'⟩

/-- What closing does to a session. -/
theorem closeStep_cases (s : HttpRelayServer) (hc : s.connections sessionId = some c)
    (stage : Closing) : ∃ c', (s.closeStep sessionId c stage).1.connections =
        Function.update s.connections sessionId (some c') ∧
      c'.sessionId = c.sessionId ∧ SameOutput c c' ∧ SameInput c c' ∧
      (s.closeStep sessionId c stage).1.answers = s.answers ∧
      (s.closeStep sessionId c stage).1.received = s.received ∧
      (s.closeStep sessionId c stage).1.isReading = s.isReading ∧
      (s.closeStep sessionId c stage).1.popped = s.popped ∧
      (s.closeStep sessionId c stage).1.handlings = s.handlings := by
  cases stage with
  | testing =>
    refine ⟨c, ?_, rfl, sameOutput_refl c, sameInput_refl c, rfl, rfl, rfl, rfl, rfl⟩
    exact (Function.update_eq_self_iff.2 hc.symm).symm
  | marking => exact ⟨_, rfl, rfl, ⟨rfl, rfl, rfl⟩, ⟨rfl, rfl⟩, rfl, rfl, rfl, rfl, rfl⟩
  | dropping => exact ⟨_, rfl, rfl, ⟨rfl, rfl, rfl⟩, ⟨rfl, rfl⟩, rfl, rfl, rfl, rfl, rfl⟩
  | posting =>
    refine ⟨c, ?_, rfl, sameOutput_refl c, sameInput_refl c, rfl, rfl, rfl, rfl, rfl⟩
    exact (Function.update_eq_self_iff.2 hc.symm).symm

theorem idle_closing (sessionId : String) (stage : Closing) :
    (Stage.closing sessionId stage).Idle := fun _ => ⟨rfl, rfl⟩

theorem idle_failing (sessionId : String) (stage : Closing) :
    (Stage.failing sessionId stage).Idle := fun _ => ⟨rfl, rfl⟩

theorem idle_sending (sessionId : String) : (Stage.sending sessionId).Idle := fun _ => ⟨rfl, rfl⟩

theorem idle_error : (Progress.answer errorResponse).Idle := by
  refine ⟨?_, ?_⟩ <;> decide

/-- A step of a call of `close`, whatever the call is part of. -/
theorem stepped_closeStep {closing : Closing} {next : Option Closing} (wrap : Closing → Stage)
    (hc : s.connections sessionId = some c)
    (hwrap : ∀ x, (wrap x).Idle ∧ (wrap x).Suits request ∧ (wrap x).session = some sessionId)
    (hresponse : (Progress.answer response).Idle)
    (hclose : s.closeStep sessionId c closing = (s₁, next)) :
    Stepped s s₁ request sessionId c (wrap closing)
      (next.elim (.answer response) fun x => .more (wrap x)) := by
  obtain ⟨c', hconn, hid, hout, hin, hans, hrec, hread, hpop, -⟩ := closeStep_cases s hc closing
  rw [hclose] at hconn hans hrec hread hpop
  have hkeep : ∀ (requests : List HttpRelayRequest) (l : Ledger), request ∈ requests →
      l.connection = c → l.Sound (SentTo requests sessionId) →
        Ledger.Sound (SentTo requests sessionId) { l with connection := c' } := by
    rintro requests l - rfl h
    exact h.keep hout hin
  rcases next with _ | closing'
  · exact stepped_of_quiet (hwrap closing).1 (hresponse.quiet request) hans hrec hread hpop hconn
      hid (fun h hmem => by cases hmem) hkeep
  · refine stepped_of_quiet (hwrap closing).1 ((hwrap closing').1.quiet request) hans hrec hread
      hpop hconn hid (fun h hmem => ?_) hkeep
    rw [List.mem_singleton.1 hmem]
    exact (hwrap closing').2

theorem stepped_closing {closing : Closing} (hc : s.connections sessionId = some c)
    (hsuits : request.sessionId = sessionId)
    (hstep : s.sessionStep request outcome sessionId c (.closing sessionId closing) =
      some (s₁, progress)) :
    Stepped s s₁ request sessionId c (.closing sessionId closing) progress := by
  rw [HttpRelayServer.sessionStep] at hstep
  rcases hclose : s.closeStep sessionId c closing with ⟨s₂, next⟩
  have hstepped := stepped_closeStep (.closing sessionId) hc
    (fun x => ⟨idle_closing sessionId x, hsuits, rfl⟩)
    (show (Progress.answer { messageType := .SERVER_CLOSING }).Idle from ⟨by simp, by simp⟩) hclose
  rw [hclose] at hstep
  rcases next with _ | closing'
  · cases hstep
    exact hstepped
  · cases hstep
    exact hstepped

theorem stepped_failing {closing : Closing} (hc : s.connections sessionId = some c)
    (hsuits : request.sessionId = sessionId)
    (hstep : s.sessionStep request outcome sessionId c (.failing sessionId closing) =
      some (s₁, progress)) :
    Stepped s s₁ request sessionId c (.failing sessionId closing) progress := by
  rw [HttpRelayServer.sessionStep] at hstep
  rcases hclose : s.closeStep sessionId c closing with ⟨s₂, next⟩
  have hstepped := stepped_closeStep (.failing sessionId) hc
    (fun x => ⟨idle_failing sessionId x, hsuits, rfl⟩) idle_error hclose
  rw [hclose] at hstep
  rcases next with _ | closing'
  · cases hstep
    exact hstepped
  · cases hstep
    exact hstepped

theorem stepped_sending (hsuits : (Stage.sending sessionId).Suits request)
    (hstep : s.sessionStep request outcome sessionId c (.sending sessionId) =
      some (s₁, progress)) :
    Stepped s s₁ request sessionId c (.sending sessionId) progress := by
  obtain ⟨hsession, htype⟩ := hsuits
  -- one case for each way the `try` of `sendData` ends
  rw [HttpRelayServer.sessionStep] at hstep
  rcases trySendData_sent outcome.failure request.toHttpRelayPeerMessage c with
    ⟨e, he, hrun⟩ | ⟨hempty, hrun⟩ | ⟨hdata, hopen, hnext, hrun⟩ |
      ⟨m, n, hopen, hnext, hrun⟩ | ⟨m, hrun⟩
  · -- it threw before anything was written: the request is refused
    rw [hrun] at hstep
    obtain ⟨rfl, rfl⟩ : s₁ = s.setConnection sessionId c ∧ progress = .answer errorResponse := by
      rcases e with _ | _ | _ | _ | _ | _ | _ | m
      all_goals first
        | exact absurd rfl (he m)
        | exact (Prod.mk.inj (Option.some.inj hstep)).imp Eq.symm Eq.symm
    refine stepped_of_quiet (idle_sending sessionId) (idle_error.quiet request) rfl rfl rfl rfl rfl
      rfl (fun h hmem => by cases hmem) ?_
    rintro requests l - rfl h
    exact h
  · -- an empty body is accepted, and adds nothing to what was written
    rw [hrun] at hstep
    cases hstep
    have hquiet : (Progress.answer { messageType := .DATA_ACCEPTED }).Quiet request := by
      refine ⟨fun _ => rfl, fun _ => rfl, fun sessionId' => ?_, fun _ => chunksOf_eq_nil (by simp)⟩
      simp [Progress.answerOf, acceptedOf, hempty]
    refine stepped_of_quiet (idle_sending sessionId) hquiet rfl rfl rfl rfl rfl rfl
      (fun h hmem => by cases hmem) ?_
    rintro requests l - rfl h
    exact h
  · -- the one case that writes the whole body, and so accepts it
    rw [hrun] at hstep
    cases hstep
    have haccepted : acceptedOf sessionId
        [(request, ({ messageType := .DATA_ACCEPTED } : HttpRelayResponse))] = [request] := by
      simp [acceptedOf, hsession, htype, hdata]
    refine ⟨rfl, rfl, fun _ _ => rfl, fun _ _ => rfl, ⟨_, rfl, rfl, ?_⟩,
      (fun h hmem => by cases hmem), fun sessionId' hne => ⟨?_, chunksOf_eq_nil (by simp)⟩⟩
    · intro requests l _ hl hpop hrec hread h
      rw [withHandlers_idle (idle_sending sessionId)] at h
      subst hl
      refine (h.accept hopen hnext).of_same ⟨rfl, ?_, ?_, ?_, ?_, hpop.symm, rfl, hread.symm⟩
      · exact Nat.zero_add _
      · exact congrArg (l.accepted ++ ·) haccepted
      · exact (congrArg (l.chunks ++ ·) (chunksOf_eq_nil (by simp))).trans (List.append_nil _)
      · exact List.Perm.refl _
    · exact acceptedOf_eq_nil_of_ne fun h => hne (h.symm.trans hsession)
  · -- a part was written, and the session is to be closed
    rw [hrun] at hstep
    cases hstep
    refine stepped_of_quiet (idle_sending sessionId)
      ((idle_failing sessionId .testing).quiet request) rfl rfl rfl rfl rfl rfl
      (fun h hmem => ?_) ?_
    · rw [List.mem_singleton.1 hmem]
      exact ⟨hsession, rfl⟩
    · rintro requests l hmem rfl h
      exact h.fail hopen ⟨hmem, hsession, htype⟩ hnext n
  · -- nothing was written, and the session is to be closed
    rw [hrun] at hstep
    cases hstep
    refine stepped_of_quiet (idle_sending sessionId)
      ((idle_failing sessionId .testing).quiet request) rfl rfl rfl rfl rfl rfl
      (fun h hmem => ?_) ?_
    · rw [List.mem_singleton.1 hmem]
      exact ⟨hsession, rfl⟩
    · rintro requests l - rfl h
      exact h

theorem stepped_opening {isServerSocket : Bool}
    (hstep : s.sessionStep request outcome sessionId c (.opening sessionId isServerSocket) =
      some (s₁, progress)) :
    Stepped s s₁ request sessionId c (.opening sessionId isServerSocket) progress := by
  have hopening : openingsOf sessionId [⟨request, .opening sessionId isServerSocket⟩] = 1 := by
    simp [openingsOf, Stage.opens]
  -- the one handler that is to connect the session is this
  have hone : ∀ (requests : List HttpRelayRequest) (l : Ledger), (l.withHandlers sessionId
      [⟨request, .opening sessionId isServerSocket⟩]).Sound (SentTo requests sessionId) →
      (l.withHandlers sessionId [⟨request, .opening sessionId isServerSocket⟩]).openings = 1 ∧
        l.openings = 0 := by
    intro requests l h
    have hle :
        openingsOf sessionId [⟨request, .opening sessionId isServerSocket⟩] + l.openings ≤ 1 :=
      h.opened
    rw [hopening] at hle
    refine ⟨?_, by omega⟩
    change openingsOf sessionId [⟨request, .opening sessionId isServerSocket⟩] + l.openings = 1
    rw [hopening]
    omega
  rw [HttpRelayServer.sessionStep] at hstep
  -- either the socket is connected, or a stream is missing
  split at hstep
  · cases hstep
    refine ⟨rfl, rfl, fun sessionId' hne => Function.update_of_ne hne .., fun _ _ => rfl,
      ⟨_, rfl, rfl, ?_⟩, (fun h hmem => by cases hmem),
      fun _ _ => ⟨acceptedOf_eq_nil (by simp), chunksOf_eq_nil (by simp)⟩⟩
    intro requests l _ hl hpop hrec hread h
    obtain ⟨hopenings, hzero⟩ := hone requests l h
    subst hl
    refine (h.connect hopenings (c := { l.connection with
      hasInputStream := true, hasOutputStream := true }) ⟨rfl, rfl, rfl⟩ ⟨rfl, rfl⟩).of_same ?_
    rw [Progress.answerOf, Progress.handlingOf, Ledger.withAnswers_withHandlers_nil rfl rfl
      (acceptedOf_eq_nil (by simp)) (chunksOf_eq_nil (by simp))]
    exact ⟨rfl, hzero, rfl, rfl, List.Perm.refl _, hpop.symm, rfl, Function.update_self ..⟩
  · cases hstep
    refine ⟨rfl, rfl, fun _ _ => rfl, fun _ _ => rfl, ⟨_, rfl, rfl, ?_⟩,
      (fun h hmem => by cases hmem), fun _ _ => ⟨acceptedOf_eq_nil (by simp [errorResponse]),
        chunksOf_eq_nil (by simp [errorResponse])⟩⟩
    intro requests l _ hl hpop hrec hread h
    obtain ⟨-, hzero⟩ := hone requests l h
    subst hl
    refine ((h.keep (c := { l.connection with
      hasInputStream := l.connection.hasInputStream || outcome.inputStream }) ⟨rfl, rfl, rfl⟩
        ⟨rfl, rfl⟩).disconnect).of_same ?_
    rw [Progress.answerOf, Progress.handlingOf, Ledger.withAnswers_withHandlers_nil rfl rfl
      (acceptedOf_eq_nil (by simp [errorResponse])) (chunksOf_eq_nil (by simp [errorResponse]))]
    exact ⟨rfl, hzero, rfl, rfl, List.Perm.refl _, hpop.symm, rfl, hread.symm⟩

/-- A handler that has popped nothing holds nothing. -/
theorem idle_waiting {w : WaitForData} (h : w.pending = none) :
    (Stage.waiting sessionId w).Idle := by
  refine fun sessionId' => ⟨?_, rfl⟩
  rw [Stage.pendingIn, h, ite_self]

theorem poppedOf_singleton (data : Bytes) : poppedOf sessionId [(sessionId, data)] = [data] := by
  simp [poppedOf]

theorem poppedOf_singleton_of_ne (h : sessionId' ≠ sessionId) (data : Bytes) :
    poppedOf sessionId' [(sessionId, data)] = [] := by
  simp [poppedOf, Ne.symm h]

/-- An answer to a request that waits accepts nothing. -/
theorem acceptedOf_eq_nil_of_wait (htype : request.messageType = .WAIT_FOR_DATA)
    (sessionId : String) (response : HttpRelayResponse) :
    acceptedOf sessionId [(request, response)] = [] := by
  simp [acceptedOf, htype]

/-- **A handler pops** all the session kept, and holds it. -/
theorem stepped_popped (hsession : request.sessionId = sessionId)
    (htype : request.messageType = .WAIT_FOR_DATA) {tempFile : Option Bytes}
    (hempty : tempFile.getD [] = []) :
    Stepped s { s.setConnection sessionId { c with tempFile } with
        popped := s.popped ++ [(sessionId, c.content)] }
      request sessionId c (.waiting sessionId .entered)
      (.more (.waiting sessionId (.popped c.content))) := by
  have hpending : pendingOf sessionId [⟨request, .waiting sessionId (.popped c.content)⟩] =
      [c.content] := by
    simp [pendingOf, Stage.pendingIn, WaitForData.pending]
  refine ⟨rfl, rfl, fun _ _ => rfl, fun sessionId' hne => ?_, ⟨_, rfl, rfl, ?_⟩, fun h hmem => ?_,
    fun sessionId' _ => ⟨rfl, rfl⟩⟩
  · dsimp only
    rw [poppedOf_append, poppedOf_singleton_of_ne hne, List.append_nil]
  · intro requests l _ hl hpop hrec hread h
    rw [withHandlers_idle (idle_waiting rfl)] at h
    subst hl
    refine (h.pop hempty).of_same ⟨rfl, ?_, ?_, ?_, ?_, ?_, rfl, hread.symm⟩
    · exact Nat.zero_add _
    · exact List.append_nil _
    · exact List.append_nil _
    · exact List.Perm.of_eq (congrArg (· ++ l.pending) hpending).symm
    · dsimp only [Ledger.withHandlers, Ledger.withAnswers]
      rw [poppedOf_append, poppedOf_singleton, hpop]
  · rw [List.mem_singleton.1 hmem]
    exact ⟨⟨hsession, htype, rfl⟩, rfl⟩

/-- **A handler answers** with what it popped, under the next number. -/
theorem stepped_numbered (hsession : request.sessionId = sessionId)
    (htype : request.messageType = .WAIT_FOR_DATA) (data : Bytes) :
    Stepped s (s.setConnection sessionId
        { c with relayToPeerSequence := c.relayToPeerSequence + 1 })
      request sessionId c (.waiting sessionId (.popped data)) (.answer
        { toHttpRelayServerMessage := ⟨.RELAY_TO_PEER, c.relayToPeerSequence + 1, data⟩ }) := by
  have hpending : pendingOf sessionId [⟨request, .waiting sessionId (.popped data)⟩] = [data] := by
    simp [pendingOf, Stage.pendingIn, WaitForData.pending]
  have hzero : openingsOf sessionId [⟨request, .waiting sessionId (.popped data)⟩] = 0 := by
    simp [openingsOf, Stage.opens]
  have hchunks : chunksOf sessionId [(request, ({ toHttpRelayServerMessage :=
      ⟨.RELAY_TO_PEER, c.relayToPeerSequence + 1, data⟩ } : HttpRelayResponse))] =
      [⟨.RELAY_TO_PEER, c.relayToPeerSequence + 1, data⟩] := by
    simp [chunksOf, hsession]
  refine ⟨rfl, rfl, fun _ _ => rfl, fun _ _ => rfl, ⟨_, rfl, rfl, ?_⟩,
    (fun h hmem => by cases hmem), fun sessionId' hne =>
      ⟨acceptedOf_eq_nil_of_wait htype sessionId' _,
        chunksOf_eq_nil_of_ne fun h => hne (h.symm.trans hsession)⟩⟩
  intro requests l _ hl hpop hrec hread h
  subst hl
  -- what was pending with the handler is taken off, and becomes the chunk
  have hperm : (l.withHandlers sessionId
      [⟨request, .waiting sessionId (.popped data)⟩]).pending.Perm (data :: l.pending) :=
    List.Perm.of_eq (congrArg (· ++ l.pending) hpending)
  refine (h.answer hperm).of_same ⟨rfl, ?_, ?_, ?_, List.Perm.refl _, hpop.symm, rfl, hread.symm⟩
  · change 0 + l.openings = openingsOf sessionId _ + l.openings
    rw [hzero]
  · exact (congrArg (l.accepted ++ ·) (acceptedOf_eq_nil_of_wait htype sessionId _)).trans
      (List.append_nil _)
  · exact congrArg (l.chunks ++ ·) hchunks

theorem stepped_waiting {w : WaitForData} (hsuits : (Stage.waiting sessionId w).Suits request)
    (hstep : s.sessionStep request outcome sessionId c (.waiting sessionId w) =
      some (s₁, progress)) :
    Stepped s s₁ request sessionId c (.waiting sessionId w) progress := by
  obtain ⟨hsession, htype, hopen⟩ := hsuits
  rw [HttpRelayServer.sessionStep] at hstep
  -- the handler moves in one of four ways, and only two touch the books
  generalize hnext : w.next c = next at hstep
  generalize hafter : after w.step c = c' at hstep
  have hturn := handlerStep w c hopen
  rw [hnext, hafter] at hturn
  cases hturn with
  | @pop tempFile hempty =>
    cases hstep
    exact stepped_popped hsession htype hempty
  | @number data =>
    cases hstep
    simp only [WaitForData.pending, Option.toList_none, List.map_nil, List.append_nil]
    exact stepped_numbered hsession htype data
  | @refuse _ tempFile response hpending hsame hkind hnodata _ =>
    cases hstep
    have hquiet : (Progress.answer { toHttpRelayServerMessage := response }).Quiet request :=
      ⟨fun _ => rfl, fun _ => rfl, fun sessionId' => acceptedOf_eq_nil_of_wait htype sessionId' _,
        fun _ => chunksOf_eq_nil hkind⟩
    refine stepped_of_quiet (idle_waiting hpending) hquiet rfl rfl rfl (List.append_nil _) rfl rfl
      (fun h hmem => by cases hmem) ?_
    rintro requests l - rfl h
    exact h.keep ⟨rfl, rfl, rfl⟩ ⟨hsame, rfl⟩
  | @move _ next tempFile hpending _ hsame hpending' hresponse _ =>
    rw [hresponse, hpending'] at hstep
    cases hstep
    refine stepped_of_quiet (idle_waiting hpending) ((idle_waiting hpending').quiet request) rfl rfl
      rfl (List.append_nil _) rfl rfl (fun h hmem => ?_) ?_
    · rw [List.mem_singleton.1 hmem]
      exact ⟨⟨hsession, htype, hresponse⟩, rfl⟩
    · rintro requests l - rfl h
      exact h.keep ⟨rfl, rfl, rfl⟩ ⟨hsame, rfl⟩

/-- **A step of a handler on its session**, whatever its stage. -/
theorem stepped_of_sessionStep (hc : s.connections sessionId = some c)
    (hsession : stage.session = some sessionId) (hsuits : stage.Suits request)
    (hstep : s.sessionStep request outcome sessionId c stage = some (s₁, progress)) :
    Stepped s s₁ request sessionId c stage progress := by
  cases stage with
  | arrived => cases hsession
  | opening sessionId' isServerSocket =>
    obtain rfl := Option.some.inj hsession
    exact stepped_opening hstep
  | sending sessionId' =>
    obtain rfl := Option.some.inj hsession
    exact stepped_sending hsuits hstep
  | failing sessionId' closing =>
    obtain rfl := Option.some.inj hsession
    exact stepped_failing hc hsuits hstep
  | waiting sessionId' w =>
    obtain rfl := Option.some.inj hsession
    exact stepped_waiting hsuits hstep
  | closing sessionId' closing =>
    obtain rfl := Option.some.inj hsession
    exact stepped_closing hc hsuits hstep

end Stepped

/-! ## Every session's books -/

/-- Nothing was ever done for the session. -/
structure Ledger.Blank (l : Ledger) : Prop where
  openings : l.openings = 0
  accepted : l.accepted = []
  chunks : l.chunks = []
  pending : l.pending = []
  popped : l.popped = []
  received : l.received = []
  isReading : l.isReading = false

theorem Ledger.Blank.of_same {l l' : Ledger} (h : l.Blank) (hs : l.Same l') : l'.Blank where
  openings := hs.openings.trans h.openings
  accepted := hs.accepted.trans h.accepted
  chunks := hs.chunks.trans h.chunks
  pending := List.nil_perm.1 (h.pending ▸ hs.pending)
  popped := hs.popped.trans h.popped
  received := hs.received.trans h.received
  isReading := hs.isReading.trans h.isReading

/-- A session before it is connected. -/
def unconnected (sessionId : String) : RelaySessionConnection :=
  { sessionId, hasInputStream := false, hasOutputStream := false }

/-- The server with one more session. -/
def HttpRelayServer.takeIn (s : HttpRelayServer) (sessionId : String) : HttpRelayServer :=
  (s.setConnection sessionId (unconnected sessionId)).register sessionId

@[simp] theorem connections_takeIn (s : HttpRelayServer) (sessionId : String) :
    (s.takeIn sessionId).connections =
      Function.update s.connections sessionId (some (unconnected sessionId)) := rfl

/-- A blank session, about to be connected. -/
theorem Ledger.Blank.sound_new {sent : HttpRelayRequest → Prop} {l : Ledger} (h : l.Blank)
    (sessionId : String) :
    Ledger.Sound sent { l with connection := unconnected sessionId, openings := 1 } := by
  obtain ⟨c, o, a, ch, p, po, r, i⟩ := l
  obtain ⟨-, rfl, rfl, rfl, rfl, rfl, rfl⟩ := h
  exact Ledger.sound_new sessionId false false

/-- Every session of the server has sound books, and goes by its own id;
nothing was done for any other; the handlers are at requests that came. -/
structure HttpRelayServer.Balanced (requests : List HttpRelayRequest) (s : HttpRelayServer) :
    Prop where
  sound : ∀ sessionId c, s.connections sessionId = some c →
    c.sessionId = sessionId ∧ (s.ledger sessionId c).Sound (SentTo requests sessionId)
  blank : ∀ sessionId c, s.connections sessionId = none → (s.ledger sessionId c).Blank
  suits : ∀ h ∈ s.handlings, h.stage.Suits h.request
  came : ∀ h ∈ s.handlings, h.request ∈ requests

/-- The handler has nothing of the session, and is not to connect it. -/
def Stage.Away (sessionId : String) (stage : Stage) : Prop :=
  stage.pendingIn sessionId = none ∧ stage.opens sessionId = false

theorem away_of_session_ne (h : stage.session ≠ some sessionId) : stage.Away sessionId := by
  cases stage with
  | arrived => exact ⟨rfl, rfl⟩
  | opening =>
    refine ⟨rfl, decide_eq_false fun heq => h ?_⟩
    rw [Stage.session, heq]
  | sending => exact ⟨rfl, rfl⟩
  | failing => exact ⟨rfl, rfl⟩
  | waiting =>
    refine ⟨if_neg fun heq => h ?_, rfl⟩
    rw [Stage.session, heq]
  | closing => exact ⟨rfl, rfl⟩

theorem stage_of_session_none (h : stage.session = none) : stage = .arrived := by
  rcases stage with _ | _ | _ | _ | _ | _
  · rfl
  all_goals cases h

theorem pendingOf_eq_nil {hs : List Handling} (h : ∀ x ∈ hs, x.stage.Away sessionId) :
    pendingOf sessionId hs = [] :=
  List.filterMap_eq_nil_iff.2 fun x hx => (h x hx).1

theorem openingsOf_eq_zero {hs : List Handling} (h : ∀ x ∈ hs, x.stage.Away sessionId) :
    openingsOf sessionId hs = 0 := by
  refine List.countP_eq_zero.2 fun x hx hopens => ?_
  rw [(h x hx).2] at hopens
  cases hopens

section Balanced

variable {requests : List HttpRelayRequest} {s₁ : HttpRelayServer} {n : ℕ} {h : Handling}
variable {progress : Progress}

@[simp] theorem connections_proceed (request : HttpRelayRequest) (progress : Progress) :
    (s.proceed s₁ n request progress).connections = s₁.connections := by
  rcases progress with _ | _ <;> rfl

@[simp] theorem received_proceed (request : HttpRelayRequest) (progress : Progress) :
    (s.proceed s₁ n request progress).received = s₁.received := by
  rcases progress with _ | _ <;> rfl

@[simp] theorem isReading_proceed (request : HttpRelayRequest) (progress : Progress) :
    (s.proceed s₁ n request progress).isReading = s₁.isReading := by
  rcases progress with _ | _ <;> rfl

@[simp] theorem popped_proceed (request : HttpRelayRequest) (progress : Progress) :
    (s.proceed s₁ n request progress).popped = s₁.popped := by
  rcases progress with _ | _ <;> rfl

/-- The books of a session before a step of a handler are those of the
handler and of the others. -/
theorem same_withHandlers (hn : s.handlings[n]? = some h) :
    Ledger.Same (s.ledger sessionId c) (({ s.ledger sessionId c with
        openings := openingsOf sessionId (s.handlings.eraseIdx n)
        pending := pendingOf sessionId (s.handlings.eraseIdx n) } : Ledger).withHandlers
          sessionId [h]) := by
  have hperm : s.handlings.Perm ([h] ++ s.handlings.eraseIdx n) := perm_cons_of_getElem? hn
  refine ⟨rfl, ?_, rfl, rfl, ?_, rfl, rfl, rfl⟩
  · change openingsOf sessionId [h] + openingsOf sessionId (s.handlings.eraseIdx n) =
      openingsOf sessionId s.handlings
    rw [← openingsOf_append]
    exact (hperm.countP_eq _).symm
  · change (pendingOf sessionId s.handlings).Perm
      (pendingOf sessionId [h] ++ pendingOf sessionId (s.handlings.eraseIdx n))
    rw [← pendingOf_append]
    exact hperm.filterMap _

/-- And after it, those of what is left of the handler and of the others. -/
theorem same_proceed (hn : s.handlings[n]? = some h) (hanswers : s₁.answers = s.answers)
    (hreceived : s₁.received sessionId = s.received sessionId) :
    Ledger.Same ((({ s.ledger sessionId c with
        openings := openingsOf sessionId (s.handlings.eraseIdx n)
        pending := pendingOf sessionId (s.handlings.eraseIdx n)
        popped := poppedOf sessionId s₁.popped
        isReading := s₁.isReading sessionId } : Ledger).withAnswers sessionId
          (progress.answerOf h.request)).withHandlers sessionId (progress.handlingOf h.request))
      ((s.proceed s₁ n h.request progress).ledger sessionId c) := by
  have hperm := handlings_proceed s₁ progress hn
  have hans := answers_proceed (n := n) progress hanswers h.request
  refine ⟨rfl, ?_, ?_, ?_, ?_, ?_, ?_, ?_⟩
  · change openingsOf sessionId (s.proceed s₁ n h.request progress).handlings =
      openingsOf sessionId (progress.handlingOf h.request) +
        openingsOf sessionId (s.handlings.eraseIdx n)
    rw [← openingsOf_append]
    exact hperm.countP_eq _
  · change acceptedOf sessionId (s.proceed s₁ n h.request progress).answers = _
    rw [hans, acceptedOf_append]
    rfl
  · change chunksOf sessionId (s.proceed s₁ n h.request progress).answers = _
    rw [hans, chunksOf_append]
    rfl
  · change (pendingOf sessionId (progress.handlingOf h.request) ++
      pendingOf sessionId (s.handlings.eraseIdx n)).Perm
        (pendingOf sessionId (s.proceed s₁ n h.request progress).handlings)
    rw [← pendingOf_append]
    exact (hperm.filterMap _).symm
  · change poppedOf sessionId (s.proceed s₁ n h.request progress).popped = _
    rw [popped_proceed]
    rfl
  · change (s.proceed s₁ n h.request progress).received sessionId = s.received sessionId
    rw [received_proceed, hreceived]
  · change (s.proceed s₁ n h.request progress).isReading sessionId = s₁.isReading sessionId
    rw [isReading_proceed]

/-- **A step of a handler that is not at a session** leaves the session's
books as they are. -/
theorem same_of_away (hn : s.handlings[n]? = some h) (hanswers : s₁.answers = s.answers)
    (hreceived : s₁.received sessionId = s.received sessionId)
    (hreading : s₁.isReading sessionId = s.isReading sessionId)
    (hpopped : poppedOf sessionId s₁.popped = poppedOf sessionId s.popped)
    (haway : h.stage.Away sessionId)
    (haway' : ∀ x ∈ progress.handlingOf h.request, x.stage.Away sessionId)
    (haccepted : acceptedOf sessionId (progress.answerOf h.request) = [])
    (hchunks : chunksOf sessionId (progress.answerOf h.request) = []) :
    Ledger.Same (s.ledger sessionId c)
      ((s.proceed s₁ n h.request progress).ledger sessionId c) := by
  have hbefore : Ledger.Same (s.ledger sessionId c) _ := same_withHandlers hn
  have hafter : Ledger.Same _ ((s.proceed s₁ n h.request progress).ledger sessionId c) :=
    same_proceed hn hanswers hreceived
  rw [Ledger.withAnswers_withHandlers_nil (pendingOf_eq_nil haway') (openingsOf_eq_zero haway')
    haccepted hchunks, hpopped, hreading] at hafter
  have hnone : ∀ x ∈ [h], x.stage.Away sessionId := by
    intro x hx
    rw [List.mem_singleton.1 hx]
    exact haway
  rw [Ledger.withHandlers, pendingOf_eq_nil hnone, openingsOf_eq_zero hnone, Nat.zero_add,
    List.nil_append] at hbefore
  refine ⟨rfl, hafter.openings.trans hbefore.openings, hafter.accepted, hafter.chunks,
    hbefore.pending.trans hafter.pending, hafter.popped, hafter.received, hafter.isReading⟩

theorem suits_proceed (hb : s.Balanced requests)
    (hsuits : ∀ x ∈ progress.handlingOf h.request, x.stage.Suits x.request) :
    ∀ x ∈ (s.proceed s₁ n h.request progress).handlings, x.stage.Suits x.request := by
  intro x hx
  rcases progress with stage | response
  · rcases List.mem_or_eq_of_mem_set hx with hmem | rfl
    · exact hb.suits x hmem
    · exact hsuits _ (List.mem_singleton_self _)
  · exact hb.suits x (List.mem_of_mem_eraseIdx hx)

theorem came_proceed (hb : s.Balanced requests) (hn : s.handlings[n]? = some h) :
    ∀ x ∈ (s.proceed s₁ n h.request progress).handlings, x.request ∈ requests := by
  intro x hx
  rcases progress with stage | response
  · rcases List.mem_or_eq_of_mem_set hx with hmem | rfl
    · exact hb.came x hmem
    · exact hb.came h (List.mem_of_getElem? hn)
  · exact hb.came x (List.mem_of_mem_eraseIdx hx)

/-- **A handler takes a step on its session**: its books stay sound, and
no other session's change. -/
theorem balanced_of_stepped (hb : s.Balanced requests) (hn : s.handlings[n]? = some h)
    (hc : s.connections sessionId = some c) (hsession : h.stage.session = some sessionId)
    (hstepped : Stepped s s₁ h.request sessionId c h.stage progress) :
    (s.proceed s₁ n h.request progress).Balanced requests := by
  obtain ⟨c', hconnections, hid, hsound⟩ := hstepped.connection
  obtain ⟨hname, hbooks⟩ := hb.sound sessionId c hc
  -- another session's books
  have hother : ∀ sessionId' ≠ sessionId, ∀ d, Ledger.Same (s.ledger sessionId' d)
      ((s.proceed s₁ n h.request progress).ledger sessionId' d) := by
    intro sessionId' hne d
    obtain ⟨haccepted, hchunks⟩ := hstepped.quiet sessionId' hne
    refine same_of_away hn hstepped.answers (congrFun hstepped.received _)
      (hstepped.isReading _ hne) (hstepped.popped _ hne) ?_ (fun x hx => ?_) haccepted hchunks
    · refine away_of_session_ne fun heq => hne ?_
      rw [hsession] at heq
      exact (Option.some.inj heq).symm
    · refine away_of_session_ne fun heq => hne ?_
      rw [(hstepped.suits x hx).2] at heq
      exact (Option.some.inj heq).symm
  refine ⟨fun sessionId' d hd => ?_, fun sessionId' d hd => ?_,
    suits_proceed hb fun x hx => (hstepped.suits x hx).1, came_proceed hb hn⟩
  · rw [connections_proceed, hconnections] at hd
    by_cases heq : sessionId' = sessionId
    · subst heq
      rw [Function.update_self] at hd
      cases hd
      refine ⟨hid.trans hname, ?_⟩
      have hcame := hb.came h (List.mem_of_getElem? hn)
      refine (hsound requests _ hcame rfl rfl rfl rfl
        (hbooks.of_same (same_withHandlers hn))).of_same ?_
      exact same_proceed hn hstepped.answers (congrFun hstepped.received _)
    · rw [Function.update_of_ne heq] at hd
      obtain ⟨hname', hbooks'⟩ := hb.sound sessionId' d hd
      exact ⟨hname', hbooks'.of_same (hother sessionId' heq d)⟩
  · rw [connections_proceed, hconnections] at hd
    have heq : sessionId' ≠ sessionId := by
      rintro rfl
      rw [Function.update_self] at hd
      cases hd
    rw [Function.update_of_ne heq] at hd
    exact (hb.blank sessionId' d hd).of_same (hother sessionId' heq d)

/-- What `handleMessage` comes to: a session is made under a fresh id, or
the server is left as it is. -/
theorem handleMessage_cases {outcome : Outcome}
    (hstep : s.handleMessage request outcome = some (s₁, progress)) :
    (∃ sessionId isServerSocket, s.connections sessionId = none ∧
      s₁ = s.takeIn sessionId ∧
      progress = .more (.opening sessionId isServerSocket) ∧ request.messageType = .CONNECT) ∨
    (s₁ = s ∧ progress.Idle ∧ ∀ x ∈ progress.handlingOf request,
      x.stage.Suits x.request ∧ x.stage.session = some request.sessionId) := by
  have herror : (Progress.answer errorResponse).Idle ∧
      ∀ x ∈ (Progress.answer errorResponse).handlingOf request,
        x.stage.Suits x.request ∧ x.stage.session = some request.sessionId :=
    ⟨idle_error, fun x hx => by cases hx⟩
  -- the requests for a session that exists
  have hrequire : ∀ stage : Stage, stage.Idle → stage.Suits request →
      stage.session = some request.sessionId →
      (s.requireConnection request.sessionId stage).Idle ∧
        ∀ x ∈ (s.requireConnection request.sessionId stage).handlingOf request,
          x.stage.Suits x.request ∧ x.stage.session = some request.sessionId := by
    intro stage hidle hsuits hsession
    rw [HttpRelayServer.requireConnection]
    split_ifs
    · exact herror
    · refine ⟨hidle, fun x hx => ?_⟩
      rw [List.mem_singleton.1 hx]
      exact ⟨hsuits, hsession⟩
    · exact herror
  rw [HttpRelayServer.handleMessage] at hstep
  rcases htype : request.messageType with _ | _ | _ | _
  · rw [htype] at hstep
    dsimp only at hstep
    split at hstep
    · cases hstep
      exact .inr ⟨rfl, herror⟩
    · rcases hopened : outcome.opened with _ | ⟨sessionId, isServerSocket⟩
      · rw [hopened] at hstep
        cases hstep
        exact .inr ⟨rfl, herror⟩
      · rw [hopened] at hstep
        dsimp only at hstep
        split at hstep
        · cases hstep
        · next hfresh =>
          cases hstep
          exact .inl ⟨sessionId, isServerSocket, by simpa using hfresh, rfl, rfl, rfl⟩
  · rw [htype] at hstep
    cases hstep
    exact .inr ⟨rfl, hrequire _ (idle_sending _) ⟨rfl, htype⟩ rfl⟩
  · rw [htype] at hstep
    cases hstep
    exact .inr ⟨rfl, hrequire _ (idle_waiting rfl) ⟨rfl, htype, rfl⟩ rfl⟩
  · rw [htype] at hstep
    cases hstep
    exact .inr ⟨rfl, hrequire _ (idle_closing _ _) rfl rfl⟩

/-- **A session is made**: its books are blank but for the handler that is
to connect it. -/
theorem balanced_of_takeIn {isServerSocket : Bool} (hb : s.Balanced requests)
    (hn : s.handlings[n]? = some h) (hidle : h.stage.Idle)
    (hfresh : s.connections sessionId = none) (htype : h.request.messageType = .CONNECT) :
    (s.proceed (s.takeIn sessionId) n h.request
      (.more (.opening sessionId isServerSocket))).Balanced requests := by
  -- the books of every other session stay as they were
  have hother : ∀ sessionId' ≠ sessionId, ∀ d, Ledger.Same (s.ledger sessionId' d)
      ((s.proceed (s.takeIn sessionId) n h.request
        (.more (.opening sessionId isServerSocket))).ledger sessionId' d) := by
    intro sessionId' hne d
    refine same_of_away hn rfl rfl rfl rfl (hidle sessionId') (fun x hx => ?_) rfl rfl
    rw [List.mem_singleton.1 hx]
    exact ⟨rfl, decide_eq_false fun heq => hne heq.symm⟩
  refine ⟨fun sessionId' d hd => ?_, fun sessionId' d hd => ?_, suits_proceed hb fun x hx => ?_,
    came_proceed hb hn⟩
  · rw [connections_proceed, connections_takeIn] at hd
    by_cases heq : sessionId' = sessionId
    · subst heq
      rw [Function.update_self] at hd
      cases hd
      refine ⟨rfl, ?_⟩
      -- nothing was written down under a session that did not exist
      have hblank := hb.blank sessionId' (unconnected sessionId') hfresh
      have hbefore : Ledger.Same (s.ledger sessionId' (unconnected sessionId')) _ :=
        same_withHandlers hn
      rw [withHandlers_idle hidle] at hbefore
      have hafter : Ledger.Same _ ((s.proceed (s.takeIn sessionId') n h.request
          (.more (.opening sessionId' isServerSocket))).ledger sessionId'
            (unconnected sessionId')) := same_proceed hn rfl rfl
      have hone : openingsOf sessionId' [⟨h.request, .opening sessionId' isServerSocket⟩] = 1 := by
        simp [openingsOf, Stage.opens]
      refine (hblank.sound_new sessionId').of_same ⟨hafter.connection, ?_,
        hafter.accepted.trans (List.append_nil _), hafter.chunks.trans (List.append_nil _),
        hbefore.pending.trans hafter.pending, hafter.popped, hafter.received, hafter.isReading⟩
      refine hafter.openings.trans ?_
      change openingsOf sessionId' [⟨h.request, .opening sessionId' isServerSocket⟩] +
        openingsOf sessionId' (s.handlings.eraseIdx n) = 1
      have hzero : openingsOf sessionId' (s.handlings.eraseIdx n) = 0 :=
        hbefore.openings.trans hblank.openings
      rw [hone, hzero]
    · rw [Function.update_of_ne heq] at hd
      obtain ⟨hname, hbooks⟩ := hb.sound sessionId' d hd
      exact ⟨hname, hbooks.of_same (hother sessionId' heq d)⟩
  · rw [connections_proceed, connections_takeIn] at hd
    have heq : sessionId' ≠ sessionId := by
      rintro rfl
      rw [Function.update_self] at hd
      cases hd
    rw [Function.update_of_ne heq] at hd
    exact (hb.blank sessionId' d hd).of_same (hother sessionId' heq d)
  · rw [List.mem_singleton.1 hx]
    exact htype

/-- **A handler takes up its request.** -/
theorem balanced_of_handleMessage {outcome : Outcome} (hb : s.Balanced requests)
    (hn : s.handlings[n]? = some h) (harrived : h.stage = .arrived)
    (hstep : s.handleMessage h.request outcome = some (s₁, progress)) :
    (s.proceed s₁ n h.request progress).Balanced requests := by
  have hidle : h.stage.Idle := by
    intro sessionId
    rw [harrived]
    exact ⟨rfl, rfl⟩
  rcases handleMessage_cases hstep with ⟨sessionId, isServerSocket, hfresh, rfl, rfl, htype⟩ |
    ⟨rfl, hquiet, hsuits⟩
  · exact balanced_of_takeIn hb hn hidle hfresh htype
  · have hsame : ∀ sessionId d, Ledger.Same (s₁.ledger sessionId d)
        ((s₁.proceed s₁ n h.request progress).ledger sessionId d) := by
      intro sessionId d
      refine same_of_away hn rfl rfl rfl rfl (hidle sessionId) (fun x hx => ?_)
        (hquiet.acceptedOf _) (hquiet.chunksOf _)
      rcases progress with stage | response
      · rw [List.mem_singleton.1 hx]
        exact hquiet sessionId
      · cases hx
    refine ⟨fun sessionId d hd => ?_, fun sessionId d hd => ?_,
      suits_proceed hb fun x hx => (hsuits x hx).1, came_proceed hb hn⟩
    · rw [connections_proceed] at hd
      obtain ⟨hname, hbooks⟩ := hb.sound sessionId d hd
      exact ⟨hname, hbooks.of_same (hsame sessionId d)⟩
    · rw [connections_proceed] at hd
      exact (hb.blank sessionId d hd).of_same (hsame sessionId d)

/-- A turn of one session alone. -/
theorem balanced_of_update {c' : RelaySessionConnection} (hb : s.Balanced requests)
    (hc : s.connections sessionId = some c)
    (hconnections : s'.connections = Function.update s.connections sessionId (some c'))
    (hid : c'.sessionId = c.sessionId) (hhandlings : s'.handlings = s.handlings)
    (hanswers : s'.answers = s.answers) (hpopped : s'.popped = s.popped)
    (hreceived : ∀ sessionId' ≠ sessionId, s'.received sessionId' = s.received sessionId')
    (hreading : ∀ sessionId' ≠ sessionId, s'.isReading sessionId' = s.isReading sessionId')
    (hsound : (s.ledger sessionId c).Sound (SentTo requests sessionId) →
      (s'.ledger sessionId c').Sound (SentTo requests sessionId)) : s'.Balanced requests := by
  obtain ⟨hname, hbooks⟩ := hb.sound sessionId c hc
  have hother : ∀ sessionId' ≠ sessionId, ∀ d,
      s'.ledger sessionId' d = s.ledger sessionId' d := by
    intro sessionId' hne d
    rw [HttpRelayServer.ledger, HttpRelayServer.ledger, hhandlings, hanswers, hpopped,
      hreceived sessionId' hne, hreading sessionId' hne]
  refine ⟨fun sessionId' d hd => ?_, fun sessionId' d hd => ?_, ?_, ?_⟩
  · rw [hconnections] at hd
    by_cases heq : sessionId' = sessionId
    · subst heq
      rw [Function.update_self] at hd
      cases hd
      exact ⟨hid.trans hname, hsound hbooks⟩
    · rw [Function.update_of_ne heq] at hd
      rw [hother sessionId' heq]
      exact hb.sound sessionId' d hd
  · rw [hconnections] at hd
    have heq : sessionId' ≠ sessionId := by
      rintro rfl
      rw [Function.update_self] at hd
      cases hd
    rw [Function.update_of_ne heq] at hd
    rw [hother sessionId' heq]
    exact hb.blank sessionId' d hd
  · rw [hhandlings]
    exact hb.suits
  · rw [hhandlings]
    exact hb.came

theorem id_appendData (bytes : Bytes) :
    (after (RelaySessionConnection.appendData bytes) c).sessionId = c.sessionId := by
  by_cases hstream : c.hasInputStream = true
  · rw [after_of_ok (run_appendData bytes hstream)]
  · rw [after_of_error (run_appendData_of_closed bytes hstream)]

/-- A reader takes in some bytes. -/
theorem balanced_of_read {bytes : Bytes} (hb : s.Balanced requests)
    (hstep : s.step (.read sessionId bytes) = some s') : s'.Balanced requests := by
  rw [HttpRelayServer.step, Option.bind_eq_bind, Option.bind_eq_some_iff] at hstep
  obtain ⟨c, hc, hstep⟩ := hstep
  split at hstep
  · next hreading =>
    cases hstep
    refine balanced_of_update hb hc rfl (id_appendData bytes) rfl rfl rfl
      (fun _ hne => Function.update_of_ne hne ..) (fun _ hne => Function.update_of_ne hne ..)
      fun hbooks => ?_
    refine (hbooks.read bytes hreading).of_same
      ⟨rfl, rfl, rfl, rfl, List.Perm.refl _, rfl, ?_, ?_⟩
    · exact Function.update_self ..
    · exact Function.update_self ..
  · cases hstep

/-- A reader comes to an end. -/
theorem balanced_of_stopReading {closes : Bool} (hb : s.Balanced requests)
    (hstep : s.step (.stopReading sessionId closes) = some s') : s'.Balanced requests := by
  cases hstep
  have hreading : ∀ sessionId' d, Ledger.Same
      { s.ledger sessionId' d with
        isReading := Function.update s.isReading sessionId false sessionId' }
      (HttpRelayServer.ledger { s with
        isReading := Function.update s.isReading sessionId false
        closers := s.closers ++ if closes then [(sessionId, .testing)] else [] } sessionId' d) :=
    fun _ _ => ⟨rfl, rfl, rfl, rfl, List.Perm.refl _, rfl, rfl, rfl⟩
  refine ⟨fun sessionId' d hd => ?_, fun sessionId' d hd => ?_, hb.suits, hb.came⟩
  · obtain ⟨hname, hbooks⟩ := hb.sound sessionId' d hd
    refine ⟨hname, Ledger.Sound.of_same ?_ (hreading sessionId' d)⟩
    by_cases heq : sessionId' = sessionId
    · rw [heq, Function.update_self]
      exact (heq ▸ hbooks).stop
    · rw [Function.update_of_ne heq]
      exact hbooks
  · have hblank := hb.blank sessionId' d hd
    refine ⟨hblank.openings, hblank.accepted, hblank.chunks, hblank.pending, hblank.popped,
      hblank.received, ?_⟩
    by_cases heq : sessionId' = sessionId
    · change Function.update s.isReading sessionId false sessionId' = false
      rw [heq, Function.update_self]
    · exact (Function.update_of_ne heq ..).trans hblank.isReading

/-- What a step of a thread that closes is. -/
theorem step_close {position : ℕ} (hstep : s.step (.close position) = some s') :
    ∃ sessionId c closing closers, s.connections sessionId = some c ∧
      s' = { (s.closeStep sessionId c closing).1 with closers } := by
  rw [HttpRelayServer.step, Option.bind_eq_bind, Option.bind_eq_some_iff] at hstep
  obtain ⟨⟨sessionId, closing⟩, -, hstep⟩ := hstep
  rw [Option.bind_eq_bind, Option.bind_eq_some_iff] at hstep
  obtain ⟨c, hc, hstep⟩ := hstep
  rcases hclose : s.closeStep sessionId c closing with ⟨s₂, _ | closing'⟩
  · rw [hclose] at hstep
    cases hstep
    exact ⟨sessionId, c, closing, _, hc, by rw [hclose]⟩
  · rw [hclose] at hstep
    cases hstep
    exact ⟨sessionId, c, closing, _, hc, by rw [hclose]⟩

/-- A thread that closes a session moves on. -/
theorem balanced_of_close {position : ℕ} (hb : s.Balanced requests)
    (hstep : s.step (.close position) = some s') : s'.Balanced requests := by
  obtain ⟨sessionId, c, closing, closers, hc, rfl⟩ := step_close hstep
  obtain ⟨c', hconn, hid, hout, hin, hans, hrec, hread, hpop, hhand⟩ := closeStep_cases s hc closing
  refine balanced_of_update hb hc hconn hid hhand hans hpop (fun _ _ => congrFun hrec _)
    (fun _ _ => congrFun hread _) fun hbooks => ?_
  rw [HttpRelayServer.ledger, hhand, hans, hpop, hrec, hread]
  exact hbooks.keep hout hin

/-- A request comes in. -/
theorem balanced_of_request (hb : s.Balanced requests) (hcame : request ∈ requests)
    (hstep : s.step (.request request) = some s') : s'.Balanced requests := by
  cases hstep
  have hidle : Stage.Idle .arrived := fun _ => ⟨rfl, rfl⟩
  have hsame : ∀ sessionId d, Ledger.Same (s.ledger sessionId d) (HttpRelayServer.ledger { s with
      handlings := s.handlings ++ [⟨request, .arrived⟩] } sessionId d) := by
    intro sessionId d
    refine ⟨rfl, ?_, rfl, rfl, List.Perm.of_eq ?_, rfl, rfl, rfl⟩
    · change openingsOf sessionId (s.handlings ++ [⟨request, .arrived⟩]) = _
      rw [openingsOf_append, hidle.openingsOf]
      rfl
    · change _ = pendingOf sessionId (s.handlings ++ [⟨request, .arrived⟩])
      rw [pendingOf_append, hidle.pendingOf, List.append_nil]
      rfl
  refine ⟨fun sessionId d hd => ?_, fun sessionId d hd => ?_, fun h hmem => ?_,
    fun h hmem => ?_⟩
  · obtain ⟨hname, hbooks⟩ := hb.sound sessionId d hd
    exact ⟨hname, hbooks.of_same (hsame sessionId d)⟩
  · exact (hb.blank sessionId d hd).of_same (hsame sessionId d)
  · rcases List.mem_append.1 hmem with hold | hnew
    · exact hb.suits h hold
    · rw [List.mem_singleton.1 hnew]
      trivial
  · rcases List.mem_append.1 hmem with hold | hnew
    · exact hb.came h hold
    · rw [List.mem_singleton.1 hnew]
      exact hcame

/-- What a step of a handler is: `handle`, and what it leaves. -/
theorem step_handle {position : ℕ} {outcome : Outcome}
    (hstep : s.step (.handle position outcome) = some s') :
    ∃ h s₁ progress, s.handlings[position]? = some h ∧
      s.handle h outcome = some (s₁, progress) ∧ s' = s.proceed s₁ position h.request progress := by
  rw [HttpRelayServer.step, Option.bind_eq_bind, Option.bind_eq_some_iff] at hstep
  obtain ⟨h, hn, hstep⟩ := hstep
  rw [Option.bind_eq_bind, Option.bind_eq_some_iff] at hstep
  obtain ⟨⟨s₁, progress⟩, hhandle, hstep⟩ := hstep
  refine ⟨h, s₁, progress, hn, hhandle, ?_⟩
  rcases progress with stage | response
  · cases hstep
    rfl
  · cases hstep
    rfl

/-- A request that comes in. -/
def requestOf : ServerTurn → Option HttpRelayRequest
  | .request request => some request
  | _ => none

/-- **Every turn keeps every session's books.** -/
theorem balanced_step {turn : ServerTurn} (hb : s.Balanced requests)
    (hcame : ∀ request, requestOf turn = some request → request ∈ requests)
    (hstep : s.step turn = some s') : s'.Balanced requests := by
  cases turn with
  | request request => exact balanced_of_request hb (hcame request rfl) hstep
  | handle position outcome =>
    obtain ⟨h, s₁, progress, hn, hhandle, rfl⟩ := step_handle hstep
    rw [HttpRelayServer.handle] at hhandle
    rcases hsession : h.stage.session with _ | sessionId
    · rw [hsession] at hhandle
      exact balanced_of_handleMessage hb hn (stage_of_session_none hsession) hhandle
    · rw [hsession] at hhandle
      dsimp only at hhandle
      rw [Option.bind_eq_bind, Option.bind_eq_some_iff] at hhandle
      obtain ⟨c, hc, hhandle⟩ := hhandle
      exact balanced_of_stepped hb hn hc hsession (stepped_of_sessionStep hc hsession
        (hb.suits h (List.mem_of_getElem? hn)) hhandle)
  | read sessionId bytes => exact balanced_of_read hb hstep
  | stopReading sessionId closes => exact balanced_of_stopReading hb hstep
  | close position => exact balanced_of_close hb hstep

theorem balanced_initial : HttpRelayServer.initial.Balanced [] where
  sound _ _ hc := by cases hc
  blank _ _ _ := ⟨rfl, rfl, rfl, rfl, rfl, rfl, rfl⟩
  suits _ hh := by cases hh
  came _ hh := by cases hh

/-- More requests may come in later. -/
theorem HttpRelayServer.Balanced.mono {more : List HttpRelayRequest} (hb : s.Balanced requests)
    (hsub : requests ⊆ more) : s.Balanced more where
  sound sessionId c hc := by
    obtain ⟨hname, hbooks⟩ := hb.sound sessionId c hc
    refine ⟨hname, { hbooks with torn := fun hbroken => ?_ }⟩
    obtain ⟨r, ⟨hmem, hto⟩, hpart⟩ := hbooks.torn hbroken
    exact ⟨r, ⟨hsub hmem, hto⟩, hpart⟩
  blank := hb.blank
  suits := hb.suits
  came h hh := hsub (hb.came h hh)

theorem balanced_of_run {es : List ServerTurn} (h : httpRelayServer.Reaches es s) :
    s.Balanced (es.filterMap requestOf) := by
  refine h.invariant (I := fun es s => s.Balanced (es.filterMap requestOf)) ?_ ?_
  · rintro _ rfl
    exact balanced_initial
  · intro es s turn s' _ hb _ hstep
    rw [List.filterMap_append]
    refine balanced_step (hb.mono (List.subset_append_left _ _)) (fun request hturn => ?_) hstep
    exact List.mem_append_right _ (List.mem_filterMap.2 ⟨turn, List.mem_singleton_self _, hturn⟩)

end Balanced

/-! ## Each session keeps to itself -/

variable {es : List ServerTurn}

/-- Two sessions are opened, two requests for them overlap, of which the
second one's write fails, and what the first one's relay sent is asked
for. -/
def sampleTurns : List ServerTurn :=
  [.request { messageType := .CONNECT, sessionId := "", deviceId := "x" },
    .handle 0 { opened := some ("a", true) }, .handle 0 {},
    .request { messageType := .CONNECT, sessionId := "", deviceId := "y" },
    .handle 0 { opened := some ("b", false) }, .handle 0 {},
    .request { messageType := .PEER_TO_RELAY, sessionId := "a", sequence := 1, data := [1] },
    .request { messageType := .PEER_TO_RELAY, sessionId := "b", sequence := 1, data := [2, 3] },
    .handle 1 {}, .handle 0 {}, .handle 1 { failure := some 1 }, .handle 0 {},
    .read "a" [7], .request { messageType := .WAIT_FOR_DATA, sessionId := "a" },
    .handle 1 {}, .handle 1 {}, .handle 1 {}, .handle 1 {}, .handle 1 {}, .handle 1 {}]

/-- The first session of the sample has sent and was answered, and a write
of the second one failed. -/
def sampleServed (s : HttpRelayServer) : Bool :=
  match s.connections "a", s.connections "b" with
  | some a, some b => decide (a.written = [1]) && !a.broken &&
      decide (chunksOf "a" s.answers = [⟨.RELAY_TO_PEER, 1, [7]⟩]) && b.broken
  | _, _ => false

theorem sampleServed_sound (h : sampleServed s = true) : ∃ a b, s.connections "a" = some a ∧
    s.connections "b" = some b ∧ a.written = [1] ∧ a.broken = false ∧
    chunksOf "a" s.answers = [⟨.RELAY_TO_PEER, 1, [7]⟩] ∧ b.broken = true := by
  rw [sampleServed] at h
  split at h
  · next a b ha hb =>
    simp only [Bool.and_eq_true, decide_eq_true_eq, Bool.not_eq_true'] at h
    obtain ⟨⟨⟨hwritten, hopen⟩, hchunks⟩, hbroken⟩ := h
    exact ⟨a, b, ha, hb, hwritten, hopen, hchunks, hbroken⟩
  · cases h

theorem exists_sampleTurns : ∃ s, httpRelayServer.Reaches sampleTurns s ∧
    sampleServed s = true := by
  obtain ⟨s, hrun, hs⟩ : ∃ s, httpRelayServer.Run (fun _ _ _ => true = true) sampleTurns s ∧
      sampleServed s = true := Machine.exists_run_of_any (by decide +kernel)
  exact ⟨s, hrun.reaches, hs⟩

/-- **What is answered for one session came from its own socket**: what
was popped of it, followed by what is kept, is what its reader received,
without an end the reader lost with the stream; each piece popped was
answered once, or is held by a handler that has yet to. -/
theorem answers_of_received (h : httpRelayServer.Reaches es s)
    (hc : s.connections sessionId = some c) :
    (poppedOf sessionId s.popped).flatten ++ c.content <+: s.received sessionId ∧
    (s.isReading sessionId = true →
      (poppedOf sessionId s.popped).flatten ++ c.content = s.received sessionId) ∧
    (poppedOf sessionId s.popped).Perm ((chunksOf sessionId s.answers).map
      HttpRelayServerMessage.data ++ pendingOf sessionId s.handlings) := by
  obtain ⟨-, hbooks⟩ := (balanced_of_run h).sound sessionId c hc
  exact ⟨hbooks.taken, hbooks.rest, hbooks.answered⟩

theorem answers_of_received_sample : ∃ s c, httpRelayServer.Reaches sampleTurns s ∧
    s.connections "a" = some c ∧ chunksOf "a" s.answers = [⟨.RELAY_TO_PEER, 1, [7]⟩] ∧
    (poppedOf "a" s.popped).flatten ++ c.content <+: s.received "a" ∧
    (poppedOf "a" s.popped).Perm ((chunksOf "a" s.answers).map
      HttpRelayServerMessage.data ++ pendingOf "a" s.handlings) := by
  obtain ⟨s, hrun, hs⟩ := exists_sampleTurns
  obtain ⟨c, -, hc, -, -, -, hchunks, -⟩ := sampleServed_sound hs
  obtain ⟨htaken, -, hanswered⟩ := answers_of_received hrun hc
  exact ⟨s, c, hrun, hc, hchunks, htaken, hanswered⟩

end HttpRelay

end ASync
