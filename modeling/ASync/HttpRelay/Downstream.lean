import ASync.Common.Run
import ASync.Common.Sequenced
import ASync.HttpRelay.Helpers.HttpRelayConnection
/-!
# The numbers of what is read from a session

The reader of a session appends to a file what the relay sends; each
request for data pops the file under the monitor of the input stream and
takes its response's number outside it. While the handlers number their
data in the order of their pops, the numbers are those of the chunks and
a client takes a prefix of what was received (`agrees_of_run`); two
handlers that overtake each other swap their chunks
(`numbers_out_of_order`).
-/

namespace ASync

namespace HttpRelay

open HttpRelayProtos Effect Sequenced

/-! ## The direction from relay to client -/

structure Downstream where
  server : RelaySessionConnection
  /-- The reader is in its loop. -/
  isReading : Bool
  /-- What the reader has received from the relay. -/
  received : Bytes
  /-- The requests being handled, the one that moved last at the end. -/
  handlers : List WaitForData
  /-- What was popped, in order. -/
  popped : List Bytes
  /-- The responses, each of which may reach the client at any time, any
  number of times, or never. -/
  responses : List HttpRelayServerMessage
  client : HttpRelayConnection
  /-- What the client's input stream has taken from the queue. -/
  polled : Bytes

inductive DownstreamTurn
  | read (bytes : Bytes)
  | stopReading
  | request
  | handle (position : ℕ)
  | receive (position : ℕ)
  | poll
  | closeServer
  | dropStreams

namespace Downstream

def step (s : Downstream) : DownstreamTurn → Option Downstream
  | .read bytes =>
    if s.isReading then some { s with
      server := after (RelaySessionConnection.appendData bytes) s.server
      received := s.received ++ bytes
      isReading := (result (RelaySessionConnection.appendData bytes) s.server).isSome }
    else none
  | .stopReading => some { s with isReading := false }
  | .request => some { s with handlers := s.handlers ++ [.arrived] }
  | .handle position =>
    match s.handlers[position]? with
    | some h =>
      let next := h.next s.server
      some { s with
        server := after h.step s.server
        handlers := s.handlers.eraseIdx position ++ if next.response.isNone then [next] else []
        popped := s.popped ++ next.pending.toList
        responses := s.responses ++ next.response.toList }
    | none => none
  | .receive position =>
    match s.responses[position]? with
    | some response => some { s with
        client := after (HttpRelayConnection.handleServerMessage response) s.client }
    | none => none
  | .poll =>
    match s.client.incomingDataQueue with
    | data :: incomingDataQueue => some { s with
        client := { s.client with incomingDataQueue }
        polled := s.polled ++ data.getD [] }
    | [] => none
  | .closeServer => some { s with server := after RelaySessionConnection.markClosed s.server }
  | .dropStreams =>
    if s.server.isClosed then
      some { s with server := after RelaySessionConnection.dropStreams s.server }
    else none

/-- A session that has just been opened. -/
def initial (sessionId : String) : Downstream where
  server := { sessionId }
  isReading := true
  received := []
  handlers := []
  popped := []
  responses := []
  client := { sessionId }
  polled := []

/-- What the client has accepted. -/
def accepted (s : Downstream) : Bytes := s.polled ++ s.client.queued

/-- A handler that numbers its data popped before the others that have
data to number. -/
def InTurn (s : Downstream) : DownstreamTurn → Bool
  | .handle position =>
    ((s.handlers[position]?.bind WaitForData.pending).isNone ||
      ((s.handlers.take position).filterMap WaitForData.pending).isEmpty)
  | _ => true

end Downstream

/-- The runs of a session, in the direction from relay to client. -/
def downstream (sessionId : String) : Machine Downstream DownstreamTurn :=
  Machine.ofStep (Downstream.initial sessionId) Downstream.step

/-! ## What a run keeps while the handlers take turns -/

namespace Downstream

/-- The chunks popped and the file hold what was received, up to what a
reader lost that found the stream gone; the chunks that have no number are
those of the handlers between pop and number, in order; and each response
has the chunk of its number. -/
structure Inv (s : Downstream) : Prop where
  taken : s.popped.flatten ++ s.server.content <+: s.received
  rest : s.isReading = true → s.popped.flatten ++ s.server.content = s.received
  unanswered : ∀ h ∈ s.handlers, h.response = none
  inOrder : ∃ n : ℕ, (n : ℤ) = s.server.relayToPeerSequence ∧ n ≤ s.popped.length ∧
    s.popped.drop n = s.handlers.filterMap WaitForData.pending
  numbered : ∀ response ∈ s.responses, response.messageType = .RELAY_TO_PEER →
    Carries s.popped response.sequence response.data
  accepted : Received s.popped s.client.relayToPeerSequence s.accepted

variable {s s' : Downstream} {server : RelaySessionConnection} {bytes data : Bytes}
variable {h : WaitForData} {position : ℕ} {response : HttpRelayServerMessage}

theorem inv_initial (sessionId : String) : Inv (initial sessionId) where
  taken := List.prefix_refl _
  rest _ := rfl
  unanswered h hh := by cases hh
  inOrder := ⟨0, rfl, le_refl _, rfl⟩
  numbered response hresponse := by cases hresponse
  accepted := received_zero _

/-- Closing the session changes neither what it keeps nor its number. -/
theorem Inv.sameInput (hs : Inv s) (hsame : SameInput s.server server) :
    Inv { s with server } where
  taken := by
    show s.popped.flatten ++ server.content <+: s.received
    rw [hsame.content]
    exact hs.taken
  rest hreading := by
    show s.popped.flatten ++ server.content = s.received
    rw [hsame.content]
    exact hs.rest hreading
  unanswered := hs.unanswered
  inOrder := by
    show ∃ n : ℕ, (n : ℤ) = server.relayToPeerSequence ∧ _
    rw [hsame.relayToPeerSequence]
    exact hs.inOrder
  numbered := hs.numbered
  accepted := hs.accepted

/-- What the reader received is kept, unless the stream is gone; then it
is the last. -/
theorem Inv.read (hs : Inv s) (hreading : s.isReading = true) :
    Inv { s with
      server := after (RelaySessionConnection.appendData bytes) s.server
      received := s.received ++ bytes
      isReading := (result (RelaySessionConnection.appendData bytes) s.server).isSome } := by
  have hall := hs.rest hreading
  by_cases hstream : s.server.hasInputStream = true
  · have hrun : (RelaySessionConnection.appendData bytes).run s.server =
        .ok () { s.server with tempFile := some (s.server.content ++ bytes) } := by
      rw [RelaySessionConnection.appendData, run_get_bind,
        run_bind_of_ok (run_requireStream hstream s.server),
          run_bind_of_ok (run_getTempFile s.server)]
      rfl
    rw [after_of_ok hrun]
    have hkept : s.popped.flatten ++ (s.server.content ++ bytes) = s.received ++ bytes := by
      rw [← List.append_assoc, hall]
    refine ⟨?_, fun _ => hkept, hs.unanswered, hs.inOrder, hs.numbered, hs.accepted⟩
    show s.popped.flatten ++ (s.server.content ++ bytes) <+: _
    rw [hkept]
  · have hrun : (RelaySessionConnection.appendData bytes).run s.server =
        .error (.nullPointer "") s.server := by
      rw [RelaySessionConnection.appendData, run_get_bind,
        run_bind_of_error (run_requireStream_of_closed hstream s.server)]
    rw [after_of_error hrun]
    refine ⟨hs.taken.trans (List.prefix_append _ _), fun h => ?_, hs.unanswered, hs.inOrder,
      hs.numbered, hs.accepted⟩
    rw [result_of_error hrun] at h
    cases h

theorem Inv.request (hs : Inv s) : Inv { s with handlers := s.handlers ++ [.arrived] } where
  taken := hs.taken
  rest := hs.rest
  unanswered h hh := by
    rcases List.mem_append.1 hh with hold | hnew
    · exact hs.unanswered h hold
    · rw [List.mem_singleton.1 hnew]
      rfl
  inOrder := by
    obtain ⟨n, hn, hle, hdrop⟩ := hs.inOrder
    refine ⟨n, hn, hle, ?_⟩
    rw [List.filterMap_append]
    exact hdrop.trans (List.append_nil _).symm
  numbered := hs.numbered
  accepted := hs.accepted

theorem Inv.receive (hs : Inv s) (hsent : response ∈ s.responses) :
    Inv { s with client := after (HttpRelayConnection.handleServerMessage response) s.client } := by
  rcases HttpRelayConnection.handleServerMessage_cases response s.client with
    hsame | ⟨htype, hsequence, hqueued, hnumber⟩
  · rw [hsame]
    exact hs
  · -- the number says that this is the next chunk
    have hcarries := hsequence ▸ hs.numbered response hsent htype
    refine ⟨hs.taken, hs.rest, hs.unanswered, hs.inOrder, hs.numbered, ?_⟩
    show Received s.popped (after _ s.client).relayToPeerSequence
      (s.polled ++ (after _ s.client).queued)
    rw [hnumber, hqueued, hsequence, ← List.append_assoc]
    exact hs.accepted.accept hcarries

theorem Inv.poll {chunk : Option Bytes} {incomingDataQueue : List (Option Bytes)} (hs : Inv s)
    (hnext : s.client.incomingDataQueue = chunk :: incomingDataQueue) :
    Inv { s with
      client := { s.client with incomingDataQueue }
      polled := s.polled ++ chunk.getD [] } := by
  have hsame : s.polled ++ chunk.getD [] ++ (incomingDataQueue.filterMap id).flatten =
      s.accepted := by
    rw [Downstream.accepted, HttpRelayConnection.queued, hnext, List.append_assoc]
    cases chunk <;> rfl
  refine ⟨hs.taken, hs.rest, hs.unanswered, hs.inOrder, hs.numbered, ?_⟩
  show Received _ _ (s.polled ++ chunk.getD [] ++ (incomingDataQueue.filterMap id).flatten)
  rw [hsame]
  exact hs.accepted

theorem filterMap_eraseIdx_of_none {handlers : List WaitForData}
    (hget : handlers[position]? = some h) (hpending : h.pending = none) :
    (handlers.eraseIdx position).filterMap WaitForData.pending =
      handlers.filterMap WaitForData.pending := by
  obtain ⟨hlt, rfl⟩ := List.getElem?_eq_some_iff.1 hget
  conv_rhs => rw [← List.take_append_drop position handlers, List.drop_eq_getElem_cons hlt]
  rw [List.eraseIdx_eq_take_drop_succ, List.filterMap_append, List.filterMap_append,
    List.filterMap_cons_none hpending]

/-- The chunk of a handler in turn is the first without a number. -/
theorem filterMap_eq_cons {handlers : List WaitForData}
    (hget : handlers[position]? = some (.popped data))
    (hfirst : (handlers.take position).filterMap WaitForData.pending = []) :
    handlers.filterMap WaitForData.pending =
      data :: (handlers.eraseIdx position).filterMap WaitForData.pending := by
  obtain ⟨hlt, hpopped⟩ := List.getElem?_eq_some_iff.1 hget
  conv_lhs => rw [← List.take_append_drop position handlers, List.drop_eq_getElem_cons hlt]
  rw [List.eraseIdx_eq_take_drop_succ, List.filterMap_append, List.filterMap_append, hfirst,
    hpopped]
  rfl

/-- A pop moves all that was kept to the chunks. -/
theorem Inv.pop {tempFile : Option Bytes} (hs : Inv s) (hget : s.handlers[position]? = some h)
    (hpending : h.pending = none) (hnone : tempFile.getD [] = []) :
    Inv { s with
      server := { s.server with tempFile }
      handlers := s.handlers.eraseIdx position ++ [.popped s.server.content]
      popped := s.popped ++ [s.server.content] } := by
  have hall : (s.popped ++ [s.server.content]).flatten ++ tempFile.getD [] =
      s.popped.flatten ++ s.server.content := by
    rw [hnone, List.append_nil, List.flatten_append, List.flatten_singleton]
  obtain ⟨n, hn, hle, hdrop⟩ := hs.inOrder
  refine ⟨?_, fun hreading => ?_, fun h' hh' => ?_, ⟨n, hn, ?_, ?_⟩, ?_, hs.accepted.append⟩
  · show _ ++ tempFile.getD [] <+: s.received
    rw [hall]
    exact hs.taken
  · exact hall.trans (hs.rest hreading)
  · rcases List.mem_append.1 hh' with hold | hnew
    · exact hs.unanswered h' (List.mem_of_mem_eraseIdx hold)
    · rw [List.mem_singleton.1 hnew]
      rfl
  · show n ≤ (s.popped ++ [s.server.content]).length
    rw [List.length_append]
    omega
  · show (s.popped ++ [s.server.content]).drop n =
      (s.handlers.eraseIdx position ++ [WaitForData.popped s.server.content]).filterMap _
    rw [List.filterMap_append, filterMap_eraseIdx_of_none hget hpending, ← hdrop,
      List.drop_append_of_le_length hle]
    rfl
  · intro response hresponse htype
    exact (hs.numbered response hresponse htype).append

/-- **The first chunk that has no number takes the next.** -/
theorem Inv.number (hs : Inv s) (hget : s.handlers[position]? = some (.popped data))
    (hfirst : (s.handlers.take position).filterMap WaitForData.pending = []) :
    Inv { s with
      server := { s.server with relayToPeerSequence := s.server.relayToPeerSequence + 1 }
      handlers := s.handlers.eraseIdx position
      responses := s.responses ++ [⟨.RELAY_TO_PEER, s.server.relayToPeerSequence + 1, data⟩] } := by
  obtain ⟨n, hn, hle, hdrop⟩ := hs.inOrder
  have hcons := hdrop.trans (filterMap_eq_cons hget hfirst)
  have hlt : n < s.popped.length := by
    by_contra hge
    rw [List.drop_of_length_le (by omega)] at hcons
    cases hcons
  refine ⟨hs.taken, hs.rest, fun h' hh' => ?_, ⟨n + 1, ?_, hlt, ?_⟩, ?_, hs.accepted⟩
  · exact hs.unanswered h' (List.mem_of_mem_eraseIdx hh')
  · show ((n + 1 : ℕ) : ℤ) = s.server.relayToPeerSequence + 1
    omega
  · show s.popped.drop (n + 1) = (s.handlers.eraseIdx position).filterMap _
    rw [← List.drop_drop, hcons]
    rfl
  · intro response hresponse htype
    rcases List.mem_append.1 hresponse with hold | hnew
    · exact hs.numbered response hold htype
    · rw [List.mem_singleton.1 hnew]
      show Carries s.popped (s.server.relayToPeerSequence + 1) data
      rw [← hn]
      exact carries_of_drop_eq_cons hcons

/-- Any other step of a handler leaves what is kept and what is numbered. -/
theorem Inv.other {next : WaitForData} (hs : Inv s) (hget : s.handlers[position]? = some h)
    (hpending : h.pending = none) (hnext : next.pending = none) (hsame : SameInput s.server server)
    (htype : ∀ response, next.response = some response → response.messageType ≠ .RELAY_TO_PEER) :
    Inv { s with
      server
      handlers := s.handlers.eraseIdx position ++ if next.response.isNone then [next] else []
      responses := s.responses ++ next.response.toList } := by
  have hinput := hs.sameInput hsame
  refine ⟨hinput.taken, hinput.rest, fun h' hh' => ?_, ?_, ?_, hs.accepted⟩
  · rcases List.mem_append.1 hh' with hold | hnew
    · exact hs.unanswered h' (List.mem_of_mem_eraseIdx hold)
    · split at hnew
      · next hnone =>
        rw [List.mem_singleton.1 hnew]
        exact Option.isNone_iff_eq_none.1 hnone
      · cases hnew
  · obtain ⟨n, hn, hle, hdrop⟩ := hinput.inOrder
    refine ⟨n, hn, hle, ?_⟩
    have hnothing : (if next.response.isNone then [next] else []).filterMap
        WaitForData.pending = [] := by
      split
      · rw [List.filterMap_cons_none hnext, List.filterMap_nil]
      · rfl
    show s.popped.drop n = (s.handlers.eraseIdx position ++ _).filterMap _
    rw [List.filterMap_append, filterMap_eraseIdx_of_none hget hpending, hnothing,
      List.append_nil]
    exact hdrop
  · intro response hresponse hrelay
    rcases List.mem_append.1 hresponse with hold | hnew
    · exact hs.numbered response hold hrelay
    · exact absurd hrelay (htype response (Option.mem_toList.1 hnew))

/-- **A step of a handler**, in turn if it takes a number. -/
theorem Inv.handle (hs : Inv s) (hget : s.handlers[position]? = some h)
    (hturn : s.InTurn (.handle position) = true) :
    Inv { s with
      server := after h.step s.server
      handlers := s.handlers.eraseIdx position ++
        if (h.next s.server).response.isNone then [h.next s.server] else []
      popped := s.popped ++ (h.next s.server).pending.toList
      responses := s.responses ++ (h.next s.server).response.toList } := by
  have hstep := handlerStep h s.server (hs.unanswered h (List.mem_of_getElem? hget))
  generalize h.next s.server = next at hstep ⊢
  generalize after h.step s.server = server at hstep ⊢
  cases hstep with
  | pop hnone =>
    have hpop := hs.pop hget rfl hnone
    rw [← List.append_nil s.responses] at hpop
    exact hpop
  | number =>
    have hfirst : (s.handlers.take position).filterMap WaitForData.pending = [] := by
      rw [InTurn, hget] at hturn
      exact List.isEmpty_iff.1 hturn
    have hnumber := hs.number hget hfirst
    rw [← List.append_nil (s.handlers.eraseIdx position), ← List.append_nil s.popped] at hnumber
    exact hnumber
  | @refuse _ tempFile response hpending hsame htype _ _ =>
    have hanswer : (WaitForData.answered response).pending = none := rfl
    have hinput : SameInput s.server { s.server with tempFile } := ⟨hsame, rfl⟩
    have hother := hs.other hget hpending hanswer hinput fun response' hresponse => by
      rw [← Option.some.inj hresponse]
      exact htype
    rw [← List.append_nil s.popped] at hother
    exact hother
  | @move _ next tempFile hpending _ hsame hnext hnone _ =>
    have hinput : SameInput s.server { s.server with tempFile } := ⟨hsame, rfl⟩
    rw [hnext, Option.toList_none, List.append_nil]
    refine hs.other hget hpending hnext hinput fun response hresponse => ?_
    rw [hnone] at hresponse
    cases hresponse

theorem Inv.step {turn : DownstreamTurn} (hs : Inv s) (hturn : s.InTurn turn = true)
    (hstep : s.step turn = some s') : Inv s' := by
  unfold Downstream.step at hstep
  split at hstep
  · -- `read`
    split at hstep
    · next hreading =>
      cases hstep
      exact hs.read hreading
    · cases hstep
  · -- `stopReading`
    cases hstep
    refine ⟨hs.taken, fun hreading => ?_, hs.unanswered, hs.inOrder, hs.numbered, hs.accepted⟩
    cases hreading
  · -- `request`
    cases hstep
    exact hs.request
  · -- `handle`
    split at hstep
    · next hget =>
      cases hstep
      exact hs.handle hget hturn
    · cases hstep
  · -- `receive`
    split at hstep
    · next hget =>
      cases hstep
      exact hs.receive (List.mem_of_getElem? hget)
    · cases hstep
  · -- `poll`
    split at hstep
    · next hnext =>
      cases hstep
      exact hs.poll hnext
    · cases hstep
  · -- `closeServer`
    cases hstep
    exact hs.sameInput (sameInput_markClosed s.server)
  · -- `dropStreams`
    split at hstep
    · cases hstep
      exact hs.sameInput ⟨rfl, rfl⟩
    · cases hstep

/-- **The numbers agree with the order of the bytes**: a response carries
the chunk of its number, the responses from the first on hold a prefix of
what was received, and so does the client. -/
structure Agrees (s : Downstream) : Prop where
  numbered : ∀ response ∈ s.responses, response.messageType = .RELAY_TO_PEER →
    Carries s.popped response.sequence response.data
  isPrefix : ∀ responses : List HttpRelayServerMessage,
    (∀ (i : ℕ) (response : HttpRelayServerMessage), responses[i]? = some response →
      response ∈ s.responses ∧ response.messageType = .RELAY_TO_PEER ∧
        response.sequence = i + 1) →
    (responses.map HttpRelayServerMessage.data).flatten <+: s.received
  accepted : s.accepted <+: s.received

theorem Inv.agrees (hs : Inv s) : s.Agrees := by
  have hpopped : s.popped.flatten <+: s.received := (List.prefix_append _ _).trans hs.taken
  refine ⟨hs.numbered, fun responses hall => ?_, hs.accepted.isPrefix.trans hpopped⟩
  have hreceived : Received s.popped (responses.map HttpRelayServerMessage.data).length
      (responses.map HttpRelayServerMessage.data).flatten := by
    refine received_of_forall fun i chunk hchunk => ?_
    rw [List.getElem?_map, Option.map_eq_some_iff] at hchunk
    obtain ⟨response, hget, rfl⟩ := hchunk
    obtain ⟨hmem, htype, hsequence⟩ := hall i response hget
    exact hsequence ▸ hs.numbered response hmem htype
  exact hreceived.isPrefix.trans hpopped

end Downstream

section Runs

variable {sessionId : String} {turns : List DownstreamTurn} {s : Downstream}

/-- **While each handler numbers its data before any that popped later**,
the numbers agree with the order of the bytes. -/
theorem agrees_of_run
    (h : (downstream sessionId).Run (fun _ s turn => s.InTurn turn = true) turns s) :
    s.Agrees := by
  refine Downstream.Inv.agrees (Machine.Run.invariant (I := fun _ s => s.Inv) h ?_ ?_)
  · rintro _ rfl
    exact Downstream.inv_initial sessionId
  · intro _ _ _ _ _ hinv hturn hstep
    exact hinv.step hturn hstep

/-- Two requests at once, whose handlers take turns. -/
def downstreamSample : List DownstreamTurn :=
  [.request, .request, .handle 0, .handle 0, .handle 0, .handle 0, .handle 0, .handle 0,
    .read [97], .handle 0, .read [98], .handle 0, .handle 0, .handle 0, .receive 1, .receive 0,
    .receive 1, .poll]

theorem agrees_of_run_sample :
    ∃ s, (downstream "session").Run (fun _ s turn => s.InTurn turn = true) downstreamSample s ∧
      s.received = [97, 98] ∧ s.accepted = [97, 98] ∧ s.Agrees := by
  have hany : (downstreamSample.foldlM (fun s e => if Downstream.InTurn s e then Downstream.step s e
      else none) (Downstream.initial "session")).any (fun s =>
        s.received = [97, 98] ∧ s.accepted = [97, 98]) = true := by
    decide +kernel
  obtain ⟨s, hsteps, hparts⟩ := Machine.exists_run_of_any hany
  rw [decide_eq_true_eq] at hparts
  exact ⟨s, hsteps, hparts.1, hparts.2, agrees_of_run hsteps⟩

/-- **Two handlers that overtake each other**: the second popped `b`, and
numbers it first; the client accepts `b` where `a` was received first. -/
theorem numbers_out_of_order :
    ∃ turns s, (downstream "session").Reaches turns s ∧ s.received = [97, 98] ∧
      s.popped = [[97], [98]] ∧ s.responses = [⟨.RELAY_TO_PEER, 1, [98]⟩] ∧
      s.accepted = [98] ∧ ¬ s.Agrees := by
  have hany : (List.foldlM (fun s e => if (fun _ _ => true) s e then Downstream.step s e else none)
      (Downstream.initial "session") [.request, .request, .handle 0, .handle 0,
        .handle 0, .handle 0,
        .handle 0, .handle 0, .read [97], .handle 0, .read [98], .handle 0, .handle 1,
        .receive 0]).any (fun s =>
        s.received = [97, 98] ∧ s.popped = [[97], [98]] ∧
          s.responses = [⟨.RELAY_TO_PEER, 1, [98]⟩] ∧ s.accepted = [98]) = true := by
    decide +kernel
  obtain ⟨s, hsteps, hparts⟩ := Machine.exists_run_of_any hany
  rw [decide_eq_true_eq] at hparts
  obtain ⟨hreceived, hpopped, hresponses, haccepted⟩ := hparts
  refine ⟨_, s, hsteps.reaches, hreceived, hpopped, hresponses,
    haccepted, fun hagrees => ?_⟩
  have hprefix := hagrees.accepted
  rw [haccepted, hreceived] at hprefix
  exact absurd hprefix (by decide)

end Runs

end HttpRelay

end ASync
