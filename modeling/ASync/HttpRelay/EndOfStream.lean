import ASync.Common.Run
import ASync.HttpRelay.Helpers.HttpRelayConnection
/-!
# What becomes of the bytes before an end of stream

The relay socket delivers some bytes and then its end. The session closes
at the end of the stream, whether or not a peer has asked for what it
keeps, and a connection closes on that news, whether or not its reader has
taken what is queued. Where neither closes on bytes it still holds, every
byte is returned by `read` before `read` ends otherwise
(`delivered_of_run`); where the session does, they are lost
(`truncated_at_end`).
-/

namespace ASync

namespace HttpRelay

open HttpRelayProtos Effect

/-! ## A session up to its end -/

/-- Where the incoming thread is in its loop. -/
inductive Incoming
  | idle
  | calling (h : WaitForData)
  | stopped

structure Session where
  /-- What the relay socket has still to deliver. -/
  toRead : Bytes
  /-- The reader has met the end, and closes the session. -/
  atEnd : Bool
  server : RelaySessionConnection
  /-- The session is among `relayConnectionsBySessionId`. -/
  isRegistered : Bool
  incoming : Incoming
  client : HttpRelayConnection
  /-- A call of `read` is in its loop. -/
  isReading : Bool
  /-- What the calls of `read` have returned. -/
  returned : Bytes
  /-- A call of `read` has thrown, or returned −1. -/
  hasEnded : Bool

inductive SessionTurn
  | read (count : ℕ)
  | endOfFile
  | closeServer
  | dropStreams
  | unregister
  | request
  | handle
  | respond
  | closeClient
  | markStreamClosed
  | beginRead
  | readRound
  deriving DecidableEq

namespace Session

def step (s : Session) : SessionTurn → Option Session
  | .read count =>
    if s.atEnd then none
    else some { s with
      server := after (RelaySessionConnection.appendData (s.toRead.take count)) s.server
      toRead := s.toRead.drop count }
  | .endOfFile => if s.toRead.isEmpty then some { s with atEnd := true } else none
  | .closeServer =>
    -- the closing client asks for it too
    if s.atEnd || s.client.isClosed then
      some { s with server := after RelaySessionConnection.markClosed s.server }
    else none
  | .dropStreams =>
    if s.server.isClosed then
      some { s with server := after RelaySessionConnection.dropStreams s.server }
    else none
  | .unregister =>
    if s.server.hasInputStream then none else some { s with isRegistered := false }
  | .request =>
    match s.incoming with
    | .idle =>
      if s.client.isClosed then some { s with incoming := .stopped }
      else some { s with
        incoming :=
          .calling (if s.isRegistered then .arrived else .answered { messageType := .ERROR }) }
    | _ => none
  | .handle =>
    match s.incoming with
    | .calling h =>
      if h.response.isSome then none
      else some { s with server := after h.step s.server, incoming := .calling (h.next s.server) }
    | _ => none
  | .respond =>
    match s.incoming with
    | .calling (.answered response) =>
      if s.client.isClosed then some { s with incoming := .stopped }
      else some { s with
        client := after (HttpRelayConnection.handleServerMessage response) s.client
        incoming :=
          if (result (HttpRelayConnection.handleServerMessage response) s.client).isSome then .idle
          else .stopped }
    | _ => none
  | .closeClient =>
    -- by `closeBg`, when the incoming thread has met an exception
    match s.incoming with
    | .stopped => some { s with client := { s.client with isClosed := true } }
    | _ => none
  | .markStreamClosed =>
    if s.client.isClosed then some { s with
      client := { s.client with incomingDataQueue := s.client.incomingDataQueue ++ [none] } }
    else none
  | .beginRead =>
    if s.isReading then none
    else
      let ends := (result HttpRelayConnection.beginRead s.client).getD true
      some { s with isReading := !ends, hasEnded := s.hasEnded || ends }
  | .readRound =>
    if s.isReading then
      match result HttpRelayConnection.readRound s.client with
      | some (some bite) => some { s with
          client := after HttpRelayConnection.readRound s.client
          isReading := false
          returned := s.returned ++ bite.toList
          hasEnded := s.hasEnded || bite.isNone }
      | _ => some { s with client := after HttpRelayConnection.readRound s.client }
    else none

/-- A session that has just been opened. -/
def initial (sessionId : String) (total : Bytes) : Session where
  toRead := total
  atEnd := false
  server := { sessionId }
  isRegistered := true
  incoming := .idle
  client := { sessionId }
  isReading := false
  returned := []
  hasEnded := false

/-- What has reached the connection and was not returned. -/
def undelivered (s : Session) : Bytes := s.client.byteArrayInputStream ++ s.client.queued

/-- Neither end closes on bytes it holds, but for those a call that is
past its check still takes: a pop, or the last byte of a `read`. -/
def Kept (s : Session) : SessionTurn → Bool
  | .closeServer =>
    s.server.content.isEmpty || (match s.incoming with | .calling .entered => true | _ => false)
  | .dropStreams => s.server.content.isEmpty
  | .closeClient => s.undelivered.isEmpty || (s.isReading && s.undelivered.length == 1)
  | _ => true

end Session

/-- The runs of a session whose socket delivers `total` before its end. -/
def session (sessionId : String) (total : Bytes) : Machine Session SessionTurn :=
  Machine.ofStep (Session.initial sessionId total) Session.step

/-! ## What a run keeps -/

namespace Incoming

/-- What a request has taken from the session and not brought yet. -/
def carried : Incoming → Bytes
  | calling (.popped data) => data
  | calling (.answered response) => response.data
  | _ => []

/-- The request is the only one, so the numbers are in step; where it is
refused the session has closed on nothing. -/
def InStep (s : RelaySessionConnection) (c : HttpRelayConnection) : Incoming → Prop
  | idle => s.relayToPeerSequence = c.relayToPeerSequence
  | calling (.answered response) =>
    (response.messageType = .RELAY_TO_PEER ∧ response.sequence = c.relayToPeerSequence + 1 ∧
        s.relayToPeerSequence = c.relayToPeerSequence + 1) ∨
      (response.messageType ≠ .RELAY_TO_PEER ∧ response.data = [] ∧ s.isClosed = true ∧
        s.content = [])
  | calling _ => s.relayToPeerSequence = c.relayToPeerSequence
  | stopped => s.isClosed = true ∧ s.content = []

theorem carried_calling {h : WaitForData} (hpending : h.pending = none)
    (hanswer : h.response = none) : (calling h).carried = [] := by
  cases h with
  | popped data => cases hpending
  | answered response => cases hanswer
  | _ => rfl

theorem inStep_calling {h : WaitForData} (hanswer : h.response = none)
    {s : RelaySessionConnection} {c : HttpRelayConnection} :
    (calling h).InStep s c ↔ s.relayToPeerSequence = c.relayToPeerSequence := by
  cases h with
  | answered response => cases hanswer
  | _ => rfl

/-- Neither a change that keeps the number nor closing on nothing brings
a request out of step. -/
theorem InStep.server {s s' : RelaySessionConnection} {c : HttpRelayConnection}
    {incoming : Incoming} (h : incoming.InStep s c)
    (hnumber : s'.relayToPeerSequence = s.relayToPeerSequence)
    (hover : s.isClosed = true → s.content = [] → s'.isClosed = true ∧ s'.content = []) :
    incoming.InStep s' c := by
  unfold InStep at h ⊢
  rw [hnumber]
  split at h
  · exact h
  · rcases h with hrelay | ⟨htype, hdata, hclosed, hcontent⟩
    · exact .inl hrelay
    · exact .inr ⟨htype, hdata, hover hclosed hcontent⟩
  · exact h
  · exact hover h.1 h.2

end Incoming

namespace Session

/-- Nothing is lost, and who closes holds nothing, or a last piece that a
call past its check is about to take. -/
structure Inv (total : Bytes) (s : Session) : Prop where
  whole : s.returned ++ (s.undelivered ++ (s.incoming.carried ++ (s.server.content ++ s.toRead))) =
    total
  atEnd : s.atEnd = true → s.toRead = []
  inStep : s.incoming.InStep s.server s.client
  closed : s.server.isClosed = true →
    s.atEnd = true ∧ (s.server.content = [] ∨ s.incoming = .calling .entered)
  stream : ¬ s.server.hasInputStream = true → s.server.isClosed = true ∧ s.server.content = []
  registered : s.isRegistered = false → ¬ s.server.hasInputStream = true
  clientClosed : s.client.isClosed = true → s.incoming = .stopped ∧
    (s.undelivered = [] ∨ (s.isReading = true ∧ s.undelivered.length = 1))
  queue : ∃ (chunks : List Bytes) (marks : ℕ),
    s.client.incomingDataQueue = chunks.map some ++ List.replicate marks none ∧
      (s.client.isClosed = false → marks = 0)
  noMoreData : s.client.noMoreData = true → s.returned = total
  hasEnded : s.hasEnded = true → s.returned = total

variable {total : Bytes} {s s' : Session}

theorem inv_initial (sessionId : String) (total : Bytes) :
    Inv total (initial sessionId total) where
  whole := rfl
  atEnd h := by cases h
  inStep := rfl
  closed h := by cases h
  stream h := by exact absurd rfl h
  registered h := by cases h
  clientClosed h := by cases h
  queue := ⟨[], 0, rfl, fun _ => rfl⟩
  noMoreData h := by cases h
  hasEnded h := by cases h

/-- A stopped thread has nothing behind it. -/
theorem Inv.nothing_behind (hs : Inv total s) (hstopped : s.incoming = .stopped) :
    s.incoming.carried = [] ∧ s.server.content = [] ∧ s.toRead = [] := by
  have hstep := hs.inStep
  rw [hstopped] at hstep
  refine ⟨?_, hstep.2, hs.atEnd (hs.closed hstep.1).1⟩
  rw [hstopped]
  rfl

/-- Then what was not delivered is what the connection has. -/
theorem Inv.whole_of_stopped (hs : Inv total s) (hstopped : s.incoming = .stopped) :
    s.returned ++ s.undelivered = total := by
  obtain ⟨hcarried, hcontent, htoRead⟩ := hs.nothing_behind hstopped
  have hwhole := hs.whole
  rw [hcarried, hcontent, htoRead] at hwhole
  simpa using hwhole

/-! ## The reader and the close of the session -/

theorem Inv.read (hs : Inv total s) (count : ℕ) (hopen : s.atEnd = false) :
    Inv total { s with
      server := after (RelaySessionConnection.appendData (s.toRead.take count)) s.server
      toRead := s.toRead.drop count } := by
  have hnotClosed : ¬ s.server.isClosed = true := fun hclosed => by
    have hend := (hs.closed hclosed).1
    rw [hopen] at hend
    cases hend
  have hstream : s.server.hasInputStream = true := by
    by_contra hnone
    exact hnotClosed (hs.stream hnone).1
  have hrun : (RelaySessionConnection.appendData (s.toRead.take count)).run s.server =
      .ok () { s.server with tempFile := some (s.server.content ++ s.toRead.take count) } := by
    rw [RelaySessionConnection.appendData, run_get_bind,
      run_bind_of_ok (run_requireStream hstream s.server),
        run_bind_of_ok (run_getTempFile s.server)]
    rfl
  rw [after_of_ok hrun]
  refine ⟨?_, fun h => ?_, ?_, fun h => absurd h hnotClosed, fun h => absurd hstream h,
    hs.registered, hs.clientClosed, hs.queue, hs.noMoreData, hs.hasEnded⟩
  · have hsplit : s.server.content ++ s.toRead.take count ++ s.toRead.drop count =
        s.server.content ++ s.toRead := by
      rw [List.append_assoc, List.take_append_drop]
    show _ ++ (_ ++ (_ ++ (s.server.content ++ s.toRead.take count ++ s.toRead.drop count))) = total
    rw [hsplit]
    exact hs.whole
  · rw [hopen] at h
    cases h
  · -- a session that is open refuses nothing
    exact hs.inStep.server rfl fun hclosed _ => absurd hclosed hnotClosed

theorem Inv.endOfFile (hs : Inv total s) (hdone : s.toRead.isEmpty = true) :
    Inv total { s with atEnd := true } where
  whole := hs.whole
  atEnd _ := List.isEmpty_iff.1 hdone
  inStep := hs.inStep
  closed hclosed := ⟨rfl, (hs.closed hclosed).2⟩
  stream := hs.stream
  registered := hs.registered
  clientClosed := hs.clientClosed
  queue := hs.queue
  noMoreData := hs.noMoreData
  hasEnded := hs.hasEnded

/-- **The session closes** on nothing, or under a handler that pops. -/
theorem Inv.closeServer (hs : Inv total s)
    (hwhen : s.atEnd = true ∨ s.client.isClosed = true)
    (hkept : s.server.content = [] ∨ s.incoming = .calling .entered) :
    Inv total { s with server := after RelaySessionConnection.markClosed s.server } := by
  by_cases hclosed : s.server.isClosed = true
  · rw [after_of_ok (run_markClosed_of_closed hclosed)]
    exact hs
  · rw [after_of_ok (run_markClosed hclosed)]
    have hend : s.atEnd = true := by
      rcases hwhen with hend | hclient
      · exact hend
      · -- a connection closes after the session only
        have hstep := hs.inStep
        rw [(hs.clientClosed hclient).1] at hstep
        exact absurd hstep.1 hclosed
    refine ⟨hs.whole, hs.atEnd, ?_, fun _ => ⟨hend, hkept⟩, fun h => ⟨rfl, (hs.stream h).2⟩,
      hs.registered, hs.clientClosed, hs.queue, hs.noMoreData, hs.hasEnded⟩
    exact hs.inStep.server rfl fun hopen _ => absurd hopen hclosed

theorem Inv.dropStreams (hs : Inv total s) (hclosed : s.server.isClosed = true)
    (hkept : s.server.content = []) :
    Inv total { s with server := after RelaySessionConnection.dropStreams s.server } where
  whole := hs.whole
  atEnd := hs.atEnd
  inStep := hs.inStep.server rfl fun hclosed hcontent => ⟨hclosed, hcontent⟩
  closed := hs.closed
  stream _ := ⟨hclosed, hkept⟩
  registered _ h := by cases h
  clientClosed := hs.clientClosed
  queue := hs.queue
  noMoreData := hs.noMoreData
  hasEnded := hs.hasEnded

theorem Inv.unregister (hs : Inv total s) (hstream : ¬ s.server.hasInputStream = true) :
    Inv total { s with isRegistered := false } where
  whole := hs.whole
  atEnd := hs.atEnd
  inStep := hs.inStep
  closed := hs.closed
  stream := hs.stream
  registered _ := hstream
  clientClosed := hs.clientClosed
  queue := hs.queue
  noMoreData := hs.noMoreData
  hasEnded := hs.hasEnded

/-! ## The incoming thread -/

/-- A closed connection has stopped its thread. -/
theorem Inv.open_of_ne (hs : Inv total s) (hrunning : s.incoming ≠ .stopped) :
    s.client.isClosed = false := by
  rw [← Bool.not_eq_true]
  exact fun hclosed => hrunning (hs.clientClosed hclosed).1

theorem Inv.request (hs : Inv total s) (hidle : s.incoming = .idle) :
    Inv total { s with
      incoming := .calling
        (if s.isRegistered then .arrived else .answered { messageType := .ERROR }) } := by
  have hnumber := hs.inStep
  rw [hidle] at hnumber
  have hwhole := hs.whole
  rw [hidle] at hwhole
  have hopen : s.client.isClosed = false := hs.open_of_ne (by simp [hidle])
  have hcontent : s.server.isClosed = true → s.server.content = [] := fun hclosed => by
    rcases (hs.closed hclosed).2 with hcontent | hentered
    · exact hcontent
    · rw [hidle] at hentered
      cases hentered
  refine ⟨?_, hs.atEnd, ?_, fun hclosed => ⟨(hs.closed hclosed).1, .inl (hcontent hclosed)⟩,
    hs.stream, hs.registered, fun hclosed => ?_, hs.queue, hs.noMoreData, hs.hasEnded⟩
  · split <;> exact hwhole
  · split
    · exact hnumber
    · next hregistered =>
      -- the session was removed after its streams were dropped
      obtain ⟨hclosed, hnone⟩ := hs.stream (hs.registered (by simpa using hregistered))
      exact .inr ⟨by simp, rfl, hclosed, hnone⟩
  · rw [hopen] at hclosed
    cases hclosed

/-- **A step of the handler** loses nothing: it pops what the session kept,
or refuses where that is nothing. -/
theorem Inv.handle {h : WaitForData} (hs : Inv total s) (hcall : s.incoming = .calling h)
    (hpending : h.response = none) :
    Inv total { s with
      server := after h.step s.server
      incoming := .calling (h.next s.server) } := by
  have hwhole := hs.whole
  rw [hcall] at hwhole
  have hnumber := hs.inStep
  rw [hcall] at hnumber
  have hopen : s.client.isClosed = false := hs.open_of_ne (by simp [hcall])
  have hclient : ∀ incoming : Incoming, s.client.isClosed = true → incoming = .stopped ∧
      (s.undelivered = [] ∨ (s.isReading = true ∧ s.undelivered.length = 1)) := by
    intro incoming hclosed
    rw [hopen] at hclosed
    cases hclosed
  -- a closed session keeps something only for a request that has yet to look
  have hkept : s.server.isClosed = true → h ≠ .entered → s.server.content = [] := by
    intro hclosed hne
    refine (hs.closed hclosed).2.resolve_right fun hentered => hne ?_
    rw [hcall] at hentered
    cases hentered
    rfl
  -- what was kept, what is in the handler and what is still to read stay one text
  have hstep := handlerStep h s.server hpending
  generalize h.next s.server = next at hstep ⊢
  generalize after h.step s.server = server at hstep ⊢
  cases hstep with
  | @pop tempFile hnone =>
    refine ⟨?_, hs.atEnd, hnumber, fun hclosed => ⟨(hs.closed hclosed).1, .inl hnone⟩,
      fun hstream => ⟨(hs.stream hstream).1, hnone⟩, hs.registered, hclient _, hs.queue,
      hs.noMoreData, hs.hasEnded⟩
    show s.returned ++ (s.undelivered ++ (s.server.content ++ (tempFile.getD [] ++ s.toRead))) =
      total
    rw [hnone]
    exact hwhole
  | @number data =>
    refine ⟨hwhole, hs.atEnd, .inl ⟨rfl, ?_, ?_⟩,
      fun hclosed => ⟨(hs.closed hclosed).1, .inl (hkept hclosed (by simp))⟩, hs.stream,
      hs.registered, hclient _, hs.queue, hs.noMoreData, hs.hasEnded⟩
    · show s.server.relayToPeerSequence + 1 = _
      rw [show s.server.relayToPeerSequence = s.client.relayToPeerSequence from hnumber]
    · show s.server.relayToPeerSequence + 1 = _
      rw [show s.server.relayToPeerSequence = s.client.relayToPeerSequence from hnumber]
  | @refuse _ tempFile response hnothing hsame htype hdata hwhy =>
    have hover : s.server.isClosed = true ∧ s.server.content = [] := by
      rcases hwhy with ⟨hclosed, hne⟩ | hstream
      · exact ⟨hclosed, hkept hclosed hne⟩
      · exact hs.stream hstream
    have hcontent : tempFile.getD [] = [] := hsame.trans hover.2
    refine ⟨?_, hs.atEnd, .inr ⟨htype, hdata, hover.1, hcontent⟩,
      fun hclosed => ⟨(hs.closed hclosed).1, .inl hcontent⟩, fun _ => ⟨hover.1, hcontent⟩,
      hs.registered, hclient _, hs.queue, hs.noMoreData, hs.hasEnded⟩
    rw [Incoming.carried_calling hnothing hpending] at hwhole
    show s.returned ++ (s.undelivered ++ (response.data ++ (tempFile.getD [] ++ s.toRead))) = total
    rw [hdata, hsame]
    exact hwhole
  | @move _ next tempFile hnothing hne hsame hnext hnone _ =>
    rw [Incoming.carried_calling hnothing hpending] at hwhole
    rw [Incoming.inStep_calling hpending] at hnumber
    refine ⟨?_, hs.atEnd, (Incoming.inStep_calling hnone).2 hnumber,
      fun hclosed => ⟨(hs.closed hclosed).1, .inl (hsame.trans (hkept hclosed hne))⟩,
      fun hstream => ⟨(hs.stream hstream).1, hsame.trans (hs.stream hstream).2⟩,
      hs.registered, hclient _, hs.queue, hs.noMoreData, hs.hasEnded⟩
    show s.returned ++ (s.undelivered ++ ((Incoming.calling next).carried ++
      (tempFile.getD [] ++ s.toRead))) = total
    rw [Incoming.carried_calling hnext hnone, hsame]
    exact hwhole

/-- **The response** is queued, or stops the thread when the session has
closed on nothing. -/
theorem Inv.respond {response : HttpRelayServerMessage} (hs : Inv total s)
    (hcall : s.incoming = .calling (.answered response)) :
    Inv total { s with
      client := after (HttpRelayConnection.handleServerMessage response) s.client
      incoming :=
        if (result (HttpRelayConnection.handleServerMessage response) s.client).isSome then .idle
        else .stopped } := by
  have hwhole := hs.whole
  rw [hcall] at hwhole
  have hopen : s.client.isClosed = false := hs.open_of_ne (by simp [hcall])
  have hcontent : s.server.isClosed = true → s.server.content = [] := fun hclosed => by
    refine (hs.closed hclosed).2.resolve_right fun hentered => ?_
    rw [hcall] at hentered
    cases hentered
  have hstep := hs.inStep
  rw [hcall] at hstep
  rcases hstep with ⟨htype, hsequence, hnumber⟩ | ⟨htype, hdata, hclosed, hnone⟩
  · have hrun := HttpRelayConnection.run_handleServerMessage htype hsequence
    rw [result_of_ok hrun, after_of_ok hrun]
    obtain ⟨chunks, marks, hqueue, hmarks⟩ := hs.queue
    obtain rfl : marks = 0 := hmarks hopen
    rw [List.replicate_zero, List.append_nil] at hqueue
    have hqueued : (s.client.incomingDataQueue ++
        if response.data = [] then [] else [some response.data]) =
        (chunks ++ if response.data = [] then [] else [response.data]).map some := by
      rw [hqueue, List.map_append]
      split <;> rfl
    refine ⟨?_, hs.atEnd, hnumber.trans hsequence.symm,
      fun hclosed => ⟨(hs.closed hclosed).1, .inl (hcontent hclosed)⟩, hs.stream, hs.registered,
      fun hclosed => ?_, ⟨_, 0, hqueued.trans (List.append_nil _).symm, fun _ => rfl⟩,
      hs.noMoreData, hs.hasEnded⟩
    · show s.returned ++ ((s.client.byteArrayInputStream ++ ((s.client.incomingDataQueue ++
        if response.data = [] then [] else [some response.data]).filterMap id).flatten) ++
          ([] ++ (s.server.content ++ s.toRead))) = total
      rw [HttpRelayConnection.queued_append, ← hwhole, undelivered, HttpRelayConnection.queued,
        Incoming.carried]
      simp only [List.append_assoc, List.nil_append]
    · rw [show s.client.isClosed = true from hclosed] at hopen
      cases hopen
  · obtain ⟨message, hrun⟩ :=
      HttpRelayConnection.run_handleServerMessage_of_ne (c := s.client) htype
    rw [result_of_error hrun, after_of_error hrun]
    refine ⟨?_, hs.atEnd, ⟨hclosed, hnone⟩, fun hclosed => ⟨(hs.closed hclosed).1, .inl hnone⟩,
      hs.stream, hs.registered, fun hclosed => ?_, hs.queue, hs.noMoreData, hs.hasEnded⟩
    · rw [Incoming.carried, hdata] at hwhole
      exact hwhole
    · rw [show s.client.isClosed = true from hclosed] at hopen
      cases hopen

/-! ## The close of the connection, and its input stream -/

theorem Inv.closeClient (hs : Inv total s) (hstopped : s.incoming = .stopped)
    (hkept : s.undelivered = [] ∨ (s.isReading = true ∧ s.undelivered.length = 1)) :
    Inv total { s with client := { s.client with isClosed := true } } where
  whole := hs.whole
  atEnd := hs.atEnd
  inStep := by
    have hstep := hs.inStep
    rw [hstopped] at hstep
    show Incoming.InStep s.server _ s.incoming
    rw [hstopped]
    exact hstep
  closed := hs.closed
  stream := hs.stream
  registered := hs.registered
  clientClosed _ := ⟨hstopped, hkept⟩
  queue := by
    obtain ⟨chunks, marks, hqueue, _⟩ := hs.queue
    exact ⟨chunks, marks, hqueue, fun hopen => by cases hopen⟩
  noMoreData := hs.noMoreData
  hasEnded := hs.hasEnded

theorem Inv.markStreamClosed (hs : Inv total s) (hclosed : s.client.isClosed = true) :
    Inv total { s with
      client := { s.client with incomingDataQueue := s.client.incomingDataQueue ++ [none] } } := by
  have hsame : ((s.client.incomingDataQueue ++ [none]).filterMap id).flatten = s.client.queued := by
    rw [List.filterMap_append]
    show (_ ++ []).flatten = _
    rw [List.append_nil, HttpRelayConnection.queued]
  refine ⟨?_, hs.atEnd, hs.inStep, hs.closed, hs.stream, hs.registered, fun _ => ?_, ?_,
    hs.noMoreData, hs.hasEnded⟩
  · show _ ++ (_ ++ ((s.client.incomingDataQueue ++ [none]).filterMap id).flatten ++ _) = total
    rw [hsame]
    exact hs.whole
  · rw [undelivered, HttpRelayConnection.queued, hsame]
    exact hs.clientClosed hclosed
  · obtain ⟨chunks, marks, hqueue, _⟩ := hs.queue
    refine ⟨chunks, marks + 1, ?_, fun hopen => ?_⟩
    · show s.client.incomingDataQueue ++ [none] = _
      rw [hqueue, List.append_assoc, ← List.replicate_succ']
    · rw [show s.client.isClosed = false from hopen] at hclosed
      cases hclosed

/-- **A `read` that ends before its loop** finds that all was returned. -/
theorem Inv.beginRead (hs : Inv total s) (hreading : s.isReading = false) :
    Inv total { s with
      isReading := !(result HttpRelayConnection.beginRead s.client).getD true
      hasEnded := s.hasEnded || (result HttpRelayConnection.beginRead s.client).getD true } := by
  rw [HttpRelayConnection.result_beginRead]
  have hnothing : s.client.isClosed = true → s.undelivered = [] := by
    intro hclosed
    refine (hs.clientClosed hclosed).2.resolve_right fun hlast => ?_
    rw [hreading] at hlast
    cases hlast.1
  refine ⟨hs.whole, hs.atEnd, hs.inStep, hs.closed, hs.stream, hs.registered,
    fun hclosed => ⟨(hs.clientClosed hclosed).1, .inl (hnothing hclosed)⟩, hs.queue, hs.noMoreData,
    fun hended => ?_⟩
  rw [Bool.or_eq_true, Bool.or_eq_true] at hended
  rcases hended with hended | hclosed | hnoMore
  · exact hs.hasEnded hended
  · have hwhole := hs.whole_of_stopped (hs.clientClosed hclosed).1
    rw [hnothing hclosed, List.append_nil] at hwhole
    exact hwhole
  · exact hs.noMoreData hnoMore

/-- Once all is returned, nothing is left anywhere. -/
theorem Inv.nothing_left (hs : Inv total s) (hall : s.returned = total) :
    s.undelivered ++ (s.incoming.carried ++ (s.server.content ++ s.toRead)) = [] := by
  have hwhole := hs.whole
  rw [hall] at hwhole
  exact List.append_right_eq_self.1 hwhole

theorem Inv.takeBite {bite : UInt8} {byteArrayInputStream : Bytes} (hs : Inv total s)
    (hbuffer : s.client.byteArrayInputStream = bite :: byteArrayInputStream) :
    Inv total { s with
      client := { s.client with byteArrayInputStream }
      isReading := false
      returned := s.returned ++ [bite] } := by
  have hmore : s.undelivered = bite :: (byteArrayInputStream ++ s.client.queued) := by
    rw [undelivered, hbuffer, List.cons_append]
  have hnotAll : s.returned ≠ total := fun hall => by
    have hnone := hs.nothing_left hall
    rw [hmore] at hnone
    cases hnone
  refine ⟨?_, hs.atEnd, hs.inStep, hs.closed, hs.stream, hs.registered, fun hclosed => ?_, hs.queue,
    fun hnoMore => absurd (hs.noMoreData hnoMore) hnotAll,
    fun hended => absurd (hs.hasEnded hended) hnotAll⟩
  · have hwhole := hs.whole
    rw [hmore, List.cons_append, List.append_cons] at hwhole
    exact hwhole
  · -- the last byte of a closed connection
    obtain ⟨hstopped, hnone | ⟨_, hlength⟩⟩ := hs.clientClosed hclosed
    · rw [hmore] at hnone
      cases hnone
    · rw [hmore, List.length_cons] at hlength
      have hzero : (byteArrayInputStream ++ s.client.queued).length = 0 := by omega
      exact ⟨hstopped, .inl (List.eq_nil_of_length_eq_zero hzero)⟩

/-- `STREAM_CLOSED` is the last in the queue. -/
theorem Inv.takeMark {incomingDataQueue : List (Option Bytes)} (hs : Inv total s)
    (hbuffer : s.client.byteArrayInputStream = [])
    (hqueue : s.client.incomingDataQueue = none :: incomingDataQueue) :
    Inv total { s with
      client := { s.client with incomingDataQueue, noMoreData := true }
      isReading := false
      hasEnded := true } := by
  obtain ⟨chunks, marks, hsplit, hmarks⟩ := hs.queue
  rw [hqueue] at hsplit
  cases chunks with
  | cons chunk chunks => cases hsplit
  | nil =>
    cases marks with
    | zero => cases hsplit
    | succ marks =>
      rw [List.map_nil, List.nil_append, List.replicate_succ] at hsplit
      obtain rfl := (List.cons.inj hsplit).2
      have hmarksEmpty : ((List.replicate marks (none : Option Bytes)).filterMap id) = [] := by
        rw [List.filterMap_replicate_of_none rfl]
      have hnone : s.undelivered = [] := by
        rw [undelivered, hbuffer, HttpRelayConnection.queued, hqueue,
          List.filterMap_cons_none rfl, hmarksEmpty]
        rfl
      have hclosed : s.client.isClosed = true := by
        by_contra hopen
        have hzero := hmarks (by simpa using hopen)
        omega
      obtain ⟨hstopped, _⟩ := hs.clientClosed hclosed
      have hall : s.returned = total := by
        rw [← hs.whole_of_stopped hstopped, hnone, List.append_nil]
      have hnone' : s.client.byteArrayInputStream ++
          ((List.replicate marks (none : Option Bytes)).filterMap id).flatten = [] := by
        rw [hbuffer, hmarksEmpty]
        rfl
      refine ⟨?_, hs.atEnd, hs.inStep, hs.closed, hs.stream, hs.registered,
        fun _ => ⟨hstopped, .inl hnone'⟩, ⟨[], marks, rfl, fun hopen => ?_⟩, fun _ => hall,
        fun _ => hall⟩
      · show s.returned ++ (s.client.byteArrayInputStream ++
          ((List.replicate marks (none : Option Bytes)).filterMap id).flatten ++ _) = total
        have hwhole := hs.whole
        rw [hnone] at hwhole
        rw [hnone']
        exact hwhole
      · rw [show s.client.isClosed = false from hopen] at hclosed
        cases hclosed

theorem Inv.takeChunk {data : Bytes} {incomingDataQueue : List (Option Bytes)} (hs : Inv total s)
    (hbuffer : s.client.byteArrayInputStream = [])
    (hqueue : s.client.incomingDataQueue = some data :: incomingDataQueue) :
    Inv total { s with
      client := { s.client with incomingDataQueue, byteArrayInputStream := data } } := by
  have hsame : data ++ (incomingDataQueue.filterMap id).flatten = s.undelivered := by
    rw [undelivered, hbuffer, HttpRelayConnection.queued, hqueue]
    rfl
  refine ⟨?_, hs.atEnd, hs.inStep, hs.closed, hs.stream, hs.registered, fun hclosed => ?_, ?_,
    hs.noMoreData, hs.hasEnded⟩
  · show s.returned ++ (data ++ (incomingDataQueue.filterMap id).flatten ++ _) = total
    rw [hsame]
    exact hs.whole
  · show _ ∧ (data ++ (incomingDataQueue.filterMap id).flatten = [] ∨
      (s.isReading = true ∧ (data ++ (incomingDataQueue.filterMap id).flatten).length = 1))
    rw [hsame]
    exact hs.clientClosed hclosed
  · obtain ⟨chunks, marks, hsplit, hmarks⟩ := hs.queue
    rw [hqueue] at hsplit
    cases chunks with
    | nil =>
      cases marks with
      | zero => cases hsplit
      | succ marks => cases hsplit
    | cons chunk chunks =>
      exact ⟨chunks, marks, (List.cons.inj hsplit).2, hmarks⟩

theorem step_readRound_bite {bite : UInt8} {byteArrayInputStream : Bytes}
    (hreading : s.isReading = true)
    (hbuffer : s.client.byteArrayInputStream = bite :: byteArrayInputStream) :
    s.step .readRound = some { s with
      client := { s.client with byteArrayInputStream }
      isReading := false
      returned := s.returned ++ [bite] } := by
  have hrun := HttpRelayConnection.run_readRound_bite hbuffer
  rw [Session.step, if_pos hreading, result_of_ok hrun, after_of_ok hrun]
  simp only [Option.isNone_some, Bool.or_false, Option.toList_some]

theorem step_readRound_nothing (hreading : s.isReading = true)
    (hbuffer : s.client.byteArrayInputStream = []) (hqueue : s.client.incomingDataQueue = []) :
    s.step .readRound = some s := by
  have hrun := HttpRelayConnection.run_readRound_nothing hbuffer hqueue
  rw [Session.step, if_pos hreading, result_of_ok hrun, after_of_ok hrun]

theorem step_readRound_closed {incomingDataQueue : List (Option Bytes)}
    (hreading : s.isReading = true) (hbuffer : s.client.byteArrayInputStream = [])
    (hqueue : s.client.incomingDataQueue = none :: incomingDataQueue) :
    s.step .readRound = some { s with
      client := { s.client with incomingDataQueue, noMoreData := true }
      isReading := false
      hasEnded := true } := by
  have hrun := HttpRelayConnection.run_readRound_closed hbuffer hqueue
  rw [Session.step, if_pos hreading, result_of_ok hrun, after_of_ok hrun]
  simp only [Option.isNone_none, Bool.or_true, Option.toList_none, List.append_nil]

theorem step_readRound_chunk {data : Bytes} {incomingDataQueue : List (Option Bytes)}
    (hreading : s.isReading = true) (hbuffer : s.client.byteArrayInputStream = [])
    (hqueue : s.client.incomingDataQueue = some data :: incomingDataQueue) :
    s.step .readRound = some { s with
      client := { s.client with incomingDataQueue, byteArrayInputStream := data } } := by
  have hrun := HttpRelayConnection.run_readRound_chunk hbuffer hqueue
  rw [Session.step, if_pos hreading, result_of_ok hrun, after_of_ok hrun]

theorem Inv.readRound (hs : Inv total s) (hreading : s.isReading = true)
    (hstep : s.step .readRound = some s') : Inv total s' := by
  cases hbuffer : s.client.byteArrayInputStream with
  | cons bite byteArrayInputStream =>
    rw [step_readRound_bite hreading hbuffer] at hstep
    exact Option.some.inj hstep ▸ hs.takeBite hbuffer
  | nil =>
    cases hqueue : s.client.incomingDataQueue with
    | nil =>
      rw [step_readRound_nothing hreading hbuffer hqueue] at hstep
      exact Option.some.inj hstep ▸ hs
    | cons head incomingDataQueue =>
      cases head with
      | none =>
        rw [step_readRound_closed hreading hbuffer hqueue] at hstep
        exact Option.some.inj hstep ▸ hs.takeMark hbuffer hqueue
      | some data =>
        rw [step_readRound_chunk hreading hbuffer hqueue] at hstep
        exact Option.some.inj hstep ▸ hs.takeChunk hbuffer hqueue

theorem Inv.step {turn : SessionTurn} (hs : Inv total s) (hkept : s.Kept turn = true)
    (hstep : s.step turn = some s') : Inv total s' := by
  cases turn with
  | read count =>
    rw [Session.step] at hstep
    split at hstep
    · cases hstep
    · next hopen => exact Option.some.inj hstep ▸ hs.read count (by simpa using hopen)
  | endOfFile =>
    rw [Session.step] at hstep
    split at hstep
    · next hdone => exact Option.some.inj hstep ▸ hs.endOfFile hdone
    · cases hstep
  | closeServer =>
    rw [Session.step] at hstep
    split at hstep
    · next hwhen =>
      -- where the close may come: nothing is kept, or a request is yet to look
      have hnothing : s.server.content = [] ∨ s.incoming = .calling .entered := by
        rw [Kept, Bool.or_eq_true] at hkept
        rcases hkept with hempty | hentered
        · exact .inl (List.isEmpty_iff.1 hempty)
        · split at hentered
          · next hcall => exact .inr hcall
          · cases hentered
      exact Option.some.inj hstep ▸ hs.closeServer (Bool.or_eq_true .. ▸ hwhen) hnothing
    · cases hstep
  | dropStreams =>
    rw [Session.step] at hstep
    split at hstep
    · next hclosed =>
      exact Option.some.inj hstep ▸ hs.dropStreams hclosed (List.isEmpty_iff.1 hkept)
    · cases hstep
  | unregister =>
    rw [Session.step] at hstep
    split at hstep
    · cases hstep
    · next hstream => exact Option.some.inj hstep ▸ hs.unregister hstream
  | request =>
    rw [Session.step] at hstep
    split at hstep
    · next hidle =>
      -- the client closes only once this thread has stopped
      rw [if_neg (by simp [hs.open_of_ne (by simp [hidle] : s.incoming ≠ .stopped)])] at hstep
      exact Option.some.inj hstep ▸ hs.request hidle
    · cases hstep
  | handle =>
    rw [Session.step] at hstep
    split at hstep
    · next h hcall =>
      split at hstep
      · cases hstep
      · next hpending =>
        exact Option.some.inj hstep ▸ hs.handle hcall (by simpa using hpending)
    · cases hstep
  | respond =>
    rw [Session.step] at hstep
    split at hstep
    · next response hcall =>
      rw [if_neg (by simp [hs.open_of_ne (by simp [hcall] : s.incoming ≠ .stopped)])] at hstep
      exact Option.some.inj hstep ▸ hs.respond hcall
    · cases hstep
  | closeClient =>
    rw [Session.step] at hstep
    split at hstep
    · next hstopped =>
      -- where the client may close: all was delivered, or the last chunk is being read
      have hlast : s.undelivered = [] ∨ (s.isReading = true ∧ s.undelivered.length = 1) := by
        rw [Kept, Bool.or_eq_true, Bool.and_eq_true, beq_iff_eq, List.isEmpty_iff] at hkept
        exact hkept
      exact Option.some.inj hstep ▸ hs.closeClient hstopped hlast
    · cases hstep
  | markStreamClosed =>
    rw [Session.step] at hstep
    split at hstep
    · next hclosed => exact Option.some.inj hstep ▸ hs.markStreamClosed hclosed
    · cases hstep
  | beginRead =>
    rw [Session.step] at hstep
    split at hstep
    · cases hstep
    · next hreading => exact Option.some.inj hstep ▸ hs.beginRead (by simpa using hreading)
  | readRound =>
    by_cases hreading : s.isReading = true
    · exact hs.readRound hreading hstep
    · rw [Session.step, if_neg hreading] at hstep
      cases hstep

/-! ## Why a run can go on until all is returned -/

/-- How far the request is from bringing what the session keeps. -/
def rank : Incoming → ℕ
  | .idle => 5
  | .calling h => h.rank
  | .stopped => 0

/-- How far the bytes are from the caller, each place nearer than the one
before it. -/
def remaining (s : Session) : ℕ :=
  13 * s.toRead.length + 12 * s.server.content.length + 4 * s.incoming.carried.length +
    3 * s.client.queued.length + s.client.incomingDataQueue.length +
    2 * s.client.byteArrayInputStream.length + (if s.isReading then 0 else 1) + rank s.incoming

/-- A turn that is allowed and brings the bytes nearer. -/
def Advances (s : Session) : Prop :=
  ∃ turn s', s.Kept turn = true ∧ s.step turn = some s' ∧ s'.remaining < s.remaining

/-- A `read` takes what the connection has. -/
theorem Inv.advances_of_undelivered (hs : Inv total s) (hnotAll : s.returned ≠ total)
    (hmore : s.undelivered ≠ []) : s.Advances := by
  by_cases hreading : s.isReading = true
  · cases hbuffer : s.client.byteArrayInputStream with
    | cons bite byteArrayInputStream =>
      refine ⟨.readRound, _, rfl, step_readRound_bite hreading hbuffer, ?_⟩
      rw [remaining, remaining, hbuffer, if_pos hreading, List.length_cons]
      simp only [HttpRelayConnection.queued, Bool.false_eq_true, if_false]
      omega
    | nil =>
      cases hqueue : s.client.incomingDataQueue with
      | nil =>
        rw [undelivered, hbuffer, HttpRelayConnection.queued, hqueue] at hmore
        exact absurd rfl hmore
      | cons head incomingDataQueue =>
        cases head with
        | none =>
          -- the mark is behind all data
          have hall := hs.takeMark hbuffer hqueue
          exact absurd (hall.hasEnded rfl) hnotAll
        | some data =>
          refine ⟨.readRound, _, rfl, step_readRound_chunk hreading hbuffer hqueue, ?_⟩
          have hsplit : ((some data :: incomingDataQueue).filterMap id).flatten.length =
              data.length + (incomingDataQueue.filterMap id).flatten.length := List.length_append
          simp only [remaining, HttpRelayConnection.queued, hbuffer, hqueue, hsplit,
            List.length_cons, List.length_nil]
          omega
  · -- the connection is open, so a `read` begins
    have hopen : s.client.isClosed = false := by
      rw [← Bool.not_eq_true]
      intro hclosed
      rcases (hs.clientClosed hclosed).2 with hnone | ⟨hread, _⟩
      · exact hmore hnone
      · exact hreading hread
    have hgoes : (result HttpRelayConnection.beginRead s.client).getD true = false := by
      rw [HttpRelayConnection.result_beginRead, hopen, Bool.false_or, ← Bool.not_eq_true]
      exact fun hnoMore => hnotAll (hs.noMoreData hnoMore)
    refine ⟨.beginRead, { s with isReading := true }, rfl, ?_, ?_⟩
    · rw [Session.step, if_neg hreading, hgoes]
      simp only [Bool.not_false, Bool.or_false]
    · simp only [remaining, if_neg hreading, if_true]
      omega

/-- The request brings what it carries. -/
theorem Inv.advances_of_answered {response : HttpRelayServerMessage} (hs : Inv total s)
    (hcall : s.incoming = .calling (.answered response))
    (htype : response.messageType = .RELAY_TO_PEER)
    (hsequence : response.sequence = s.client.relayToPeerSequence + 1) : s.Advances := by
  have hopen : s.client.isClosed = false := hs.open_of_ne (by simp [hcall])
  have hrun := HttpRelayConnection.run_handleServerMessage htype hsequence
  have hgo : s.step .respond = some { s with
      client := after (HttpRelayConnection.handleServerMessage response) s.client
      incoming := .idle } := by
    rw [Session.step, hcall]
    simp only [hopen, result_of_ok hrun, Option.isSome_some, if_true, Bool.false_eq_true, if_false]
  refine ⟨.respond, _, rfl, hgo, ?_⟩
  rw [after_of_ok hrun]
  simp only [remaining, HttpRelayConnection.queued, HttpRelayConnection.queued_append, hcall,
    Incoming.carried, rank, WaitForData.rank, List.length_append, List.length_nil]
  by_cases hdata : response.data = []
  · simp only [hdata, if_true, List.length_nil]
    omega
  · have hpos : 0 < response.data.length := List.length_pos_of_ne_nil hdata
    rw [if_neg hdata, List.length_singleton]
    omega

/-- The handler goes on, unless it refuses. -/
theorem Inv.advances_of_handle {h : WaitForData} (hs : Inv total s)
    (hcall : s.incoming = .calling h) (hanswer : h.response = none)
    (hmore : s.server.content ≠ [] ∨ h.pending.isSome = true) : s.Advances := by
  have hkept : s.server.isClosed = true → h ≠ .entered → s.server.content = [] := by
    intro hclosed hne
    refine (hs.closed hclosed).2.resolve_right fun hentered => hne ?_
    rw [hcall] at hentered
    cases hentered
    rfl
  have hgo : s.step .handle = some { s with
      server := after h.step s.server
      incoming := .calling (h.next s.server) } := by
    rw [Session.step, hcall]
    simp only [hanswer, Option.isSome_none, Bool.false_eq_true, if_false]
  refine ⟨.handle, _, rfl, hgo, ?_⟩
  have hstep := handlerStep h s.server hanswer
  generalize h.next s.server = next at hstep ⊢
  generalize after h.step s.server = server at hstep ⊢
  rw [remaining, remaining, hcall]
  cases hstep with
  | @pop tempFile hnone =>
    have hpos : 0 < s.server.content.length := by
      refine List.length_pos_of_ne_nil (hmore.resolve_right ?_)
      simp [WaitForData.pending]
    simp only [RelaySessionConnection.content, hnone, List.length_nil, Incoming.carried, rank,
      WaitForData.rank] at hpos ⊢
    omega
  | @number data =>
    simp only [RelaySessionConnection.content, Incoming.carried, rank, WaitForData.rank]
    omega
  | @refuse _ tempFile response hnothing hsame htype hdata hwhy =>
    have hcontent : s.server.content = [] := by
      rcases hwhy with ⟨hclosed, hne⟩ | hstream
      · exact hkept hclosed hne
      · exact (hs.stream hstream).2
    rcases hmore with hmore | hmore
    · exact absurd hcontent hmore
    · rw [hnothing] at hmore
      cases hmore
  | @move _ next tempFile hnothing hne hsame hnext hnone hrank =>
    rw [Incoming.carried_calling hnext hnone, Incoming.carried_calling hnothing hanswer]
    simp only [RelaySessionConnection.content, hsame, rank]
    omega

/-- The handler of an idle thread's next request finds what is kept. -/
theorem Inv.advances_of_idle (hs : Inv total s) (hidle : s.incoming = .idle)
    (hmore : s.server.content ≠ []) : s.Advances := by
  have hopen : s.client.isClosed = false := hs.open_of_ne (by simp [hidle])
  have hregistered : s.isRegistered = true := by
    by_contra hgone
    exact hmore (hs.stream (hs.registered (by simpa using hgone))).2
  have hgo : s.step .request = some { s with incoming := .calling .arrived } := by
    rw [Session.step, hidle]
    simp only [hopen, hregistered, if_true, Bool.false_eq_true, if_false]
  refine ⟨.request, _, rfl, hgo, ?_⟩
  simp only [remaining, hidle, Incoming.carried, rank, WaitForData.rank]
  omega

theorem Inv.advances_of_toRead (hs : Inv total s) (hmore : s.toRead ≠ []) : s.Advances := by
  have hopen : s.atEnd = false := by
    rw [← Bool.not_eq_true]
    exact fun hend => hmore (hs.atEnd hend)
  have hstream : s.server.hasInputStream = true := by
    by_contra hnone
    exact hmore (hs.atEnd (hs.closed (hs.stream hnone).1).1)
  have hrun : (RelaySessionConnection.appendData (s.toRead.take s.toRead.length)).run s.server =
      .ok () { s.server with
        tempFile := some (s.server.content ++ s.toRead.take s.toRead.length) } := by
    rw [RelaySessionConnection.appendData, run_get_bind,
      run_bind_of_ok (run_requireStream hstream s.server),
        run_bind_of_ok (run_getTempFile s.server)]
    rfl
  have hgo : s.step (.read s.toRead.length) = some { s with
      server := after (RelaySessionConnection.appendData (s.toRead.take s.toRead.length)) s.server
      toRead := s.toRead.drop s.toRead.length } := by
    rw [Session.step, if_neg (by simp [hopen])]
  refine ⟨.read s.toRead.length, _, rfl, hgo, ?_⟩
  have hpos : 0 < s.toRead.length := List.length_pos_of_ne_nil hmore
  rw [after_of_ok hrun]
  simp only [remaining, RelaySessionConnection.content, Option.getD_some, List.take_length,
    List.drop_length, List.length_append, List.length_nil]
  omega

/-- **As long as a byte was not returned, some thread brings one nearer.** -/
theorem Inv.advances (hs : Inv total s) (hnotAll : s.returned ≠ total) : s.Advances := by
  by_cases hmore : s.undelivered = []
  swap
  · exact hs.advances_of_undelivered hnotAll hmore
  have hrest : s.incoming.carried = [] → s.server.content = [] → s.toRead ≠ [] := by
    intro hcarried hcontent htoRead
    have hwhole := hs.whole
    rw [hmore, hcarried, hcontent, htoRead] at hwhole
    exact hnotAll (by simpa using hwhole)
  cases hcall : s.incoming with
  | idle =>
    by_cases hcontent : s.server.content = []
    · exact hs.advances_of_toRead (hrest (by rw [hcall]; rfl) hcontent)
    · exact hs.advances_of_idle hcall hcontent
  | stopped =>
    have hwhole := hs.whole_of_stopped hcall
    rw [hmore, List.append_nil] at hwhole
    exact absurd hwhole hnotAll
  | calling h =>
    cases hanswer : h.response with
    | some response =>
      obtain rfl : h = .answered response := by
        cases h with
        | answered r => exact congrArg _ (Option.some.inj hanswer)
        | _ => cases hanswer
      have hstep := hs.inStep
      rw [hcall] at hstep
      rcases hstep with ⟨htype, hsequence, _⟩ | ⟨_, hdata, hclosed, hcontent⟩
      · exact hs.advances_of_answered hcall htype hsequence
      · exact absurd (hs.atEnd (hs.closed hclosed).1) (hrest (by rw [hcall]; exact hdata) hcontent)
    | none =>
      by_cases hcontent : s.server.content = []
      · by_cases hpending : h.pending.isSome = true
        · exact hs.advances_of_handle hcall hanswer (.inr hpending)
        · have hcarried : s.incoming.carried = [] := by
            rw [hcall]
            exact Incoming.carried_calling (by simpa using hpending) hanswer
          exact hs.advances_of_toRead (hrest hcarried hcontent)
      · exact hs.advances_of_handle hcall hanswer (.inl hcontent)

/-- **The bytes are delivered**: what was returned is a prefix of what the
socket delivers, a `read` that returned −1 or threw came after the last
byte, and the run can go on until every byte was returned. -/
structure Delivers (sessionId : String) (total : Bytes) (turns : List SessionTurn) (s : Session) :
    Prop where
  isPrefix : s.returned <+: total
  hasEnded : s.hasEnded = true → s.returned = total
  goesOn : ∃ more s', (session sessionId total).Run (fun _ s turn => s.Kept turn = true)
    (turns ++ more) s' ∧ s'.returned = total

end Session

section Runs

variable {sessionId : String} {total : Bytes} {turns : List SessionTurn} {s : Session}

theorem inv_of_run
    (h : (session sessionId total).Run (fun _ s turn => s.Kept turn = true) turns s) :
    Session.Inv total s := by
  refine Machine.Run.invariant (I := fun _ s => Session.Inv total s) h ?_ ?_
  · rintro _ rfl
    exact Session.inv_initial sessionId total
  · intro _ _ _ _ _ hinv hkept hstep
    exact hinv.step hkept hstep

/-- **Where neither end closes on bytes it holds**, all is delivered. -/
theorem delivered_of_run
    (h : (session sessionId total).Run (fun _ s turn => s.Kept turn = true) turns s) :
    s.Delivers sessionId total turns := by
  refine ⟨⟨_, (inv_of_run h).whole⟩, (inv_of_run h).hasEnded, ?_⟩
  refine Machine.Run.exists_goal (fun s => s.returned = total) Session.remaining h ?_
  intro _ s hrun hnotAll
  exact (inv_of_run hrun).advances hnotAll

/-- The end is met while a chunk is on its way; both sides close after it. -/
def sessionSample : List SessionTurn :=
  [.request, .handle, .read 2, .handle, .handle, .endOfFile, .closeServer, .handle, .dropStreams,
    .handle, .respond, .beginRead, .readRound, .readRound, .request, .handle, .respond,
    .beginRead, .closeClient, .readRound, .markStreamClosed, .beginRead]

theorem delivered_of_run_sample :
    ∃ s, (session "session" [97, 98]).Run (fun _ s turn => s.Kept turn = true) sessionSample s ∧
      s.returned = [97, 98] ∧ s.hasEnded = true ∧
      s.Delivers "session" [97, 98] sessionSample := by
  have hany : (sessionSample.foldlM (fun s e => if Session.Kept s e then Session.step s e else none)
      (Session.initial "session" [97, 98])).any (fun s =>
        s.returned = [97, 98] ∧ s.hasEnded = true) = true := by
    decide +kernel
  obtain ⟨s, hsteps, hparts⟩ := Machine.exists_run_of_any hany
  rw [decide_eq_true_eq] at hparts
  exact ⟨s, hsteps, hparts.1, hparts.2, delivered_of_run hsteps⟩

/-- **The session closes on a byte it keeps**: the request is answered by
the news, the connection closes, and `read` throws with nothing returned. -/
theorem truncated_at_end :
    ∃ turns s, (session "session" [97]).Reaches turns s ∧ s.hasEnded = true ∧ s.returned = [] ∧
      s.server.content = [97] ∧ ¬ s.Delivers "session" [97] turns := by
  have hany : (List.foldlM (fun s e => if (fun _ _ => true) s e then Session.step s e else none)
      (Session.initial "session" [97]) [.request, .handle, .read 1, .endOfFile,
        .closeServer, .handle,
        .respond, .closeClient, .beginRead]).any (fun s =>
        s.hasEnded = true ∧ s.returned = [] ∧ s.server.content = [97]) = true := by
    decide +kernel
  obtain ⟨s, hsteps, hparts⟩ := Machine.exists_run_of_any hany
  rw [decide_eq_true_eq] at hparts
  obtain ⟨hended, hreturned, hcontent⟩ := hparts
  refine ⟨_, s, hsteps.reaches, hended, hreturned, hcontent,
    fun hdelivers => ?_⟩
  have hall := hdelivers.hasEnded hended
  rw [hreturned] at hall
  cases hall

/-- The connection closes on a byte in its queue: `read` throws too. -/
theorem truncated_in_queue :
    ∃ turns s, (session "session" [97]).Reaches turns s ∧ s.hasEnded = true ∧ s.returned = [] ∧
      s.client.queued = [97] := by
  have hany : (List.foldlM (fun s e => if (fun _ _ => true) s e then Session.step s e else none)
      (Session.initial "session" [97]) [.request, .handle, .read 1, .handle, .handle, .handle,
        .handle, .respond, .endOfFile, .closeServer, .request, .handle, .handle, .respond,
        .closeClient, .beginRead]).any (fun s =>
        s.hasEnded = true ∧ s.returned = [] ∧ s.client.queued = [97]) = true := by
    decide +kernel
  obtain ⟨s, hsteps, hparts⟩ := Machine.exists_run_of_any hany
  rw [decide_eq_true_eq] at hparts
  exact ⟨_, s, hsteps.reaches, hparts⟩

end Runs

end HttpRelay

end ASync
