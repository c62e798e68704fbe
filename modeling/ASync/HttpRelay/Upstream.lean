import ASync.Common.Run
import ASync.Common.Sequenced
import ASync.HttpRelay.Helpers.HttpRelayConnection
/-!
# What a peer writes arrives in order

The output stream of a connection cuts what it is given into chunks, each
sent under the next number whether or not it arrives; the session writes
a chunk to the relay socket only under the number after the last. The
requests on their way may be lost, delayed and repeated, and both ends may
close at any moment: the socket has been given a prefix of what the caller
wrote (`upstream_isPrefix`).
-/

namespace ASync

namespace HttpRelay

open HttpRelayProtos Effect Sequenced

/-! ## The direction from client to relay -/

structure Upstream where
  client : HttpRelayConnection
  /-- A call of `write` past its check, under the stream's monitor. -/
  writing : Option Bytes
  /-- The requests sent, in order. Each may arrive at any time, any number
  of times, or never. -/
  requests : List HttpRelayPeerMessage
  server : RelaySessionConnection
  /-- What the caller has written. -/
  written : Bytes

/-- A step of one of the threads. `flush` may be the caller's, the
periodic flusher's or that of `close`; that its caller waits for its task
is left out, so there are more runs here than schedules. -/
inductive UpstreamTurn
  | beginWrite (bytes : Bytes)
  | endWrite
  | flush
  | send
  | deliver (position : ℕ) (failure : Option ℕ)
  | closeClient
  | shutdown
  | closeServer
  | dropStreams

namespace Upstream

def step (s : Upstream) : UpstreamTurn → Option Upstream
  | .beginWrite bytes =>
    match s.writing, result HttpRelayConnection.checkOpen s.client with
    | none, some () => some { s with writing := some bytes }
    | _, _ => none
  | .endWrite =>
    match s.writing with
    | some bytes => some { s with
        client := after (HttpRelayConnection.append bytes) s.client
        writing := none, written := s.written ++ bytes }
    | none => none
  | .flush =>
    match s.writing with
    | none => some { s with client := after HttpRelayConnection.flush s.client }
    | some _ => none
  | .send =>
    match s.client.outgoing with
    | data :: outgoing =>
      let client := { s.client with outgoing }
      some { s with
        client := after (HttpRelayConnection.task data) client
        requests := s.requests ++ (result (HttpRelayConnection.task data) client).toList }
    | [] => none
  | .deliver position failure =>
    match s.requests[position]? with
    | some message => some { s with
        server := after (RelaySessionConnection.sendData failure message) s.server }
    | none => none
  | .closeClient => some { s with client := { s.client with isClosed := true } }
  | .shutdown =>
    if s.client.isClosed then some { s with client := { s.client with isShutdown := true } }
    else none
  | .closeServer => some { s with server := after RelaySessionConnection.markClosed s.server }
  | .dropStreams =>
    if s.server.isClosed then
      some { s with server := after RelaySessionConnection.dropStreams s.server }
    else none

/-- A session that has just been opened. -/
def initial (sessionId : String) : Upstream where
  client := { sessionId }
  writing := none
  requests := []
  server := { sessionId }
  written := []

/-- The chunks sent. -/
def chunks (s : Upstream) : List Bytes := s.requests.map HttpRelayPeerMessage.data

end Upstream

/-- The runs of a session, in the direction from client to relay. -/
def upstream (sessionId : String) : Machine Upstream UpstreamTurn :=
  Machine.ofStep (Upstream.initial sessionId) Upstream.step

/-! ## What every state keeps -/

namespace Upstream

/-- The numbers are those of the chunks sent; the chunks sent and those to
be sent are, in order, what the caller wrote, up to what a connection that
was shut down dropped; and the socket has what the chunks taken carry. -/
structure Inv (s : Upstream) : Prop where
  numbered : s.client.peerToRelaySequence = s.requests.length
  carried : ∀ m ∈ s.requests, Carries s.chunks m.sequence m.data
  taken : (s.chunks ++ s.client.outgoing).flatten <+: s.written
  rest : s.client.isShutdown = false →
    (s.chunks ++ s.client.outgoing).flatten ++ s.client.buffer = s.written
  received : s.server.broken = false →
    Received s.chunks s.server.peerToRelaySequence s.server.written
  isPrefix : s.server.written <+: s.chunks.flatten

variable {s s' : Upstream} {bytes : Bytes} {position : ℕ} {failure : Option ℕ}
variable {message : HttpRelayPeerMessage} {server : RelaySessionConnection}

/-- Nothing is in flight at the beginning. -/
theorem inv_initial (sessionId : String) : Inv (initial sessionId) where
  numbered := rfl
  carried m hm := by cases hm
  taken := List.prefix_refl _
  rest _ := rfl
  received _ := received_zero _
  isPrefix := List.prefix_refl _

/-- Bytes that are written stand last. -/
theorem Inv.endWrite (h : Inv s) :
    Inv { s with
      client := after (HttpRelayConnection.append bytes) s.client
      writing := none, written := s.written ++ bytes } where
  numbered := h.numbered
  carried := h.carried
  taken := h.taken.trans (List.prefix_append _ _)
  rest hopen := by
    have hrest := h.rest hopen
    show _ ++ (s.client.buffer ++ bytes) = s.written ++ bytes
    rw [← List.append_assoc, ← hrest]
    rfl
  received := h.received
  isPrefix := h.isPrefix

/-- A flush makes a chunk of what was written since the last. -/
theorem Inv.flush (h : Inv s) :
    Inv { s with client := after HttpRelayConnection.flush s.client } := by
  rw [HttpRelayConnection.after_flush]
  by_cases hdropped : s.client.isShutdown = true ∨ s.client.buffer = []
  · simp only [if_pos hdropped]
    refine ⟨h.numbered, h.carried, h.taken, fun hopen => ?_, h.received, h.isPrefix⟩
    -- what is dropped of an open connection is nothing
    have hempty : s.client.buffer = [] := hdropped.resolve_left (by simpa using hopen)
    have hrest := h.rest hopen
    rw [hempty] at hrest
    exact hrest
  · simp only [if_neg hdropped]
    have hopen : s.client.isShutdown = false := by
      by_contra hshutdown
      exact hdropped (.inl (by simpa using hshutdown))
    have hall : (s.chunks ++ (s.client.outgoing ++ [s.client.buffer])).flatten = s.written := by
      rw [← List.append_assoc, List.flatten_append, List.flatten_singleton]
      exact h.rest hopen
    refine ⟨h.numbered, h.carried, ?_, fun _ => ?_, h.received, h.isPrefix⟩
    · exact hall ▸ List.prefix_refl _
    · exact (List.append_nil _).trans hall

/-- The task sends its chunk under the next number. -/
theorem Inv.send {data : Bytes} {outgoing : List Bytes} (h : Inv s)
    (hnext : s.client.outgoing = data :: outgoing) :
    Inv { s with
      client := after (HttpRelayConnection.task data) { s.client with outgoing }
      requests := s.requests ++
        (result (HttpRelayConnection.task data) { s.client with outgoing }).toList } := by
  have hchunks : chunks { s with
      client := after (HttpRelayConnection.task data) { s.client with outgoing }
      requests := s.requests ++
        (result (HttpRelayConnection.task data) { s.client with outgoing }).toList } =
      s.chunks ++ [data] := by
    rw [chunks, List.map_append]
    rfl
  have hsame : s.chunks ++ [data] ++ outgoing = s.chunks ++ s.client.outgoing := by
    rw [hnext, List.append_assoc, List.singleton_append]
  have hnumber : s.client.peerToRelaySequence + 1 = s.chunks.length + 1 := by
    rw [h.numbered, chunks, List.length_map]
  refine ⟨?_, fun m hm => ?_, ?_, fun hopen => ?_, fun hbroken => ?_, ?_⟩
  · show s.client.peerToRelaySequence + 1 = _
    rw [h.numbered, List.length_append]
    rfl
  · rw [hchunks]
    rcases List.mem_append.1 hm with hold | hnew
    · exact (h.carried m hold).append
    · obtain rfl := List.mem_singleton.1 hnew
      show Carries _ (s.client.peerToRelaySequence + 1) data
      rw [hnumber]
      exact carries_concat _ _
  · rw [hchunks]
    show (s.chunks ++ [data] ++ outgoing).flatten <+: s.written
    rw [hsame]
    exact h.taken
  · rw [hchunks]
    show (s.chunks ++ [data] ++ outgoing).flatten ++ s.client.buffer = s.written
    rw [hsame]
    exact h.rest hopen
  · rw [hchunks]
    exact (h.received hbroken).append
  · rw [hchunks, List.flatten_append]
    exact h.isPrefix.trans (List.prefix_append _ _)

/-- Closing the session changes nothing the socket has been given. -/
theorem Inv.sameOutput (h : Inv s) (hsame : SameOutput s.server server) :
    Inv { s with server } where
  numbered := h.numbered
  carried := h.carried
  taken := h.taken
  rest := h.rest
  received hbroken := by
    show Received _ server.peerToRelaySequence server.written
    rw [hsame.written, hsame.peerToRelaySequence]
    exact h.received (hsame.broken ▸ hbroken)
  isPrefix := by
    show server.written <+: _
    rw [hsame.written]
    exact h.isPrefix

/-- **A request that arrives**, be it for the first time, late or again. -/
theorem Inv.deliver (h : Inv s) (hsent : message ∈ s.requests) :
    Inv { s with server := after (RelaySessionConnection.sendData failure message) s.server } := by
  rcases sendData_cases failure message s.server with
    hsame | ⟨hsequence, hbroken, ⟨hwritten, hnumber, _⟩ | ⟨⟨n, hwritten⟩, hbroken'⟩⟩
  · exact h.sameOutput hsame
  · -- the number says that this is the next chunk
    have hcarries := hsequence ▸ h.carried message hsent
    have haccepted := (h.received hbroken).accept hcarries
    refine ⟨h.numbered, h.carried, h.taken, h.rest, fun _ => ?_, ?_⟩
    · rw [hnumber, hwritten, hsequence]
      exact haccepted
    · rw [hwritten]
      exact haccepted.isPrefix
  · have hcarries := hsequence ▸ h.carried message hsent
    refine ⟨h.numbered, h.carried, h.taken, h.rest, fun hopen => ?_, ?_⟩
    · rw [hbroken'] at hopen
      cases hopen
    · rw [hwritten]
      exact (h.received hbroken).isPrefix_part hcarries (List.take_prefix _ _)

/-- **Every step keeps the invariant.** -/
theorem Inv.step {turn : UpstreamTurn} (h : Inv s) (hstep : s.step turn = some s') : Inv s' := by
  unfold Upstream.step at hstep
  split at hstep
  · -- `beginWrite`
    split at hstep
    · cases hstep
      exact ⟨h.numbered, h.carried, h.taken, h.rest, h.received, h.isPrefix⟩
    · cases hstep
  · -- `endWrite`
    split at hstep
    · cases hstep
      exact h.endWrite
    · cases hstep
  · -- `flush`
    split at hstep
    · cases hstep
      exact h.flush
    · cases hstep
  · -- `send`
    split at hstep
    · next hnext =>
      cases hstep
      exact h.send hnext
    · cases hstep
  · -- `deliver`
    split at hstep
    · next hsent =>
      cases hstep
      exact h.deliver (List.mem_of_getElem? hsent)
    · cases hstep
  · -- `closeClient`
    cases hstep
    exact ⟨h.numbered, h.carried, h.taken, h.rest, h.received, h.isPrefix⟩
  · -- `shutdown`
    split at hstep
    · cases hstep
      refine ⟨h.numbered, h.carried, h.taken, fun hopen => ?_, h.received, h.isPrefix⟩
      cases hopen
    · cases hstep
  · -- `closeServer`
    cases hstep
    exact h.sameOutput (sameOutput_markClosed s.server)
  · -- `dropStreams`
    split at hstep
    · cases hstep
      exact h.sameOutput ⟨rfl, rfl, rfl⟩
    · cases hstep

end Upstream

section Runs

variable {sessionId : String} {turns : List UpstreamTurn} {s : Upstream}

/-- The invariant holds in every run. -/
theorem inv_of_reaches (h : (upstream sessionId).Reaches turns s) : s.Inv := by
  refine Machine.Run.invariant (I := fun _ s => s.Inv) h ?_ ?_
  · rintro _ rfl
    exact Upstream.inv_initial sessionId
  · intro _ _ _ _ _ hinv _ hstep
    exact hinv.step hstep

/-- **The relay socket has been given a prefix of what the caller wrote**,
whatever the schedule and whatever becomes of the requests. -/
theorem upstream_isPrefix (h : (upstream sessionId).Reaches turns s) :
    s.server.written <+: s.written :=
  (inv_of_reaches h).isPrefix.trans
    ((List.prefix_append _ _).trans (List.flatten_append ▸ (inv_of_reaches h).taken))

/-- A chunk that arrives twice, and one whose write fails halfway. -/
def upstreamSample : List UpstreamTurn :=
  [.beginWrite [97, 98], .endWrite, .flush, .beginWrite [99, 100], .endWrite, .send,
    .deliver 0 none,
    .closeClient, .flush, .send, .deliver 0 none, .deliver 1 (some 1), .deliver 1 none]

/-- A chunk that is still to be sent is missing at the socket. -/
theorem upstream_isPrefix_sample :
    ∃ s, (upstream "session").Reaches upstreamSample s ∧ s.written = [97, 98, 99, 100] ∧
      s.server.written = [97, 98, 99] ∧ s.server.written <+: s.written := by
  have hany :
      (upstreamSample.foldlM (fun s e => if (fun _ _ => true) s e then Upstream.step s e else
      none) (Upstream.initial "session")).any (fun s =>
        s.written = [97, 98, 99, 100] ∧ s.server.written = [97, 98, 99]) = true := by
    decide +kernel
  obtain ⟨s, hsteps, hparts⟩ := Machine.exists_run_of_any hany
  rw [decide_eq_true_eq] at hparts
  have hrun : (upstream "session").Reaches upstreamSample s :=
    hsteps.reaches
  exact ⟨s, hrun, hparts.1, hparts.2, upstream_isPrefix hrun⟩

end Runs

end HttpRelay

end ASync
