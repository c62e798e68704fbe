import ASync.Common.Effect
import ASync.HttpRelay.Model.HttpRelayServer
/-!
# What a call on a session does

A request to send writes its data under the next number or changes
nothing of the output; a request for data pops all that is kept, takes a
number, or changes nothing of the input. Closing changes neither.
-/

namespace ASync

namespace HttpRelay

open HttpRelayProtos Effect

/-! ## Checks -/

section Checks

variable {σ α : Type} {c : Bool} {f : Unit → EStateM JavaException σ α}

/-- A check that passes does nothing. -/
theorem run_checkArgument_bind (h : c = true) (message : String) (s : σ) :
    (ofExcept (checkArgument c message) >>= f : EStateM JavaException σ α).run s =
      (f ()).run s := by
  rw [h]
  rfl

/-- One that fails ends the call with its message. -/
theorem run_checkArgument_bind_of_false (h : c = false) (message : String) (s : σ) :
    (ofExcept (checkArgument c message) >>= f : EStateM JavaException σ α).run s =
      .error (.illegalArgument message) s := by
  rw [h]
  rfl

/-- A stream that is there is none. -/
theorem run_requireStream {hasStream : Bool} (hstream : hasStream = true)
    (s : RelaySessionConnection) :
    (RelaySessionConnection.requireStream hasStream).run s = .ok () s := by
  rw [hstream]
  rfl

/-- A stream that was closed is an exception. -/
theorem run_requireStream_of_closed {hasStream : Bool} (hstream : ¬ hasStream = true)
    (s : RelaySessionConnection) :
    (RelaySessionConnection.requireStream hasStream).run s = .error (.nullPointer "") s := by
  rw [RelaySessionConnection.requireStream, if_neg hstream]
  rfl

end Checks

/-! ## What a request does -/

section Server

open RelaySessionConnection

variable {s c : RelaySessionConnection} {failure : Option ℕ} {message : HttpRelayPeerMessage}

/-- Closing touches neither the socket's content nor a number. -/
structure SameOutput (s s' : RelaySessionConnection) : Prop where
  written : s'.written = s.written
  broken : s'.broken = s.broken
  peerToRelaySequence : s'.peerToRelaySequence = s.peerToRelaySequence

/-- Nothing moves where nothing is done. -/
theorem sameOutput_refl (s : RelaySessionConnection) : SameOutput s s := ⟨rfl, rfl, rfl⟩

/-- A session that is closed is found so. -/
theorem run_markClosed_of_closed (hclosed : s.isClosed = true) :
    markClosed.run s = .ok false s := by
  rw [markClosed, run_get_bind, if_pos hclosed]
  rfl

/-- A session that is open is marked. -/
theorem run_markClosed (hopen : ¬ s.isClosed = true) :
    markClosed.run s = .ok true { s with isClosed := true } := by
  rw [markClosed, run_get_bind, if_neg hopen]
  rfl

/-- Marking a session as closed writes nothing. -/
theorem sameOutput_markClosed (s : RelaySessionConnection) : SameOutput s (after markClosed s) := by
  by_cases hclosed : s.isClosed = true
  · rw [after_of_ok (run_markClosed_of_closed hclosed)]
    exact sameOutput_refl s
  · rw [after_of_ok (run_markClosed hclosed)]
    exact ⟨rfl, rfl, rfl⟩

/-- A session that a call of `close` on its own leaves. -/
def shut (c : RelaySessionConnection) : RelaySessionConnection :=
  if c.isClosed then c
  else { c with isClosed := true, hasInputStream := false, hasOutputStream := false }

/-- What `close` leaves when no other thread comes between. -/
theorem run_close (c : RelaySessionConnection) : close.run c = .ok () (shut c) := by
  by_cases hclosed : c.isClosed = true
  · rw [close, run_bind_of_ok (run_markClosed_of_closed hclosed), shut, if_pos hclosed]
    rfl
  · rw [close, run_bind_of_ok (run_markClosed hclosed), shut, if_neg hclosed]
    rfl

/-- Closing writes nothing. -/
theorem sameOutput_shut (c : RelaySessionConnection) : SameOutput c (shut c) := by
  unfold shut
  split
  · exact sameOutput_refl c
  · exact ⟨rfl, rfl, rfl⟩

/-- What `trySendData` comes to. -/
inductive Sent (failure : Option ℕ) (message : HttpRelayPeerMessage) (c : RelaySessionConnection) :
    Prop
  /-- A check refuses the request. -/
  | refused (e : JavaException) : (∀ m, e ≠ .runtime m) →
      (trySendData failure message).run c = .error e c → Sent failure message c
  /-- There is nothing to write. -/
  | empty : message.data = [] → (trySendData failure message).run c = .ok () c →
      Sent failure message c
  | accepted : message.data ≠ [] → c.broken = false →
      message.sequence = c.peerToRelaySequence + 1 →
      (trySendData failure message).run c = .ok () { c with
        written := c.written ++ message.data, peerToRelaySequence := message.sequence } →
      Sent failure message c
  /-- The write fails after a part. -/
  | failed (m : String) (n : ℕ) : c.broken = false →
      message.sequence = c.peerToRelaySequence + 1 →
      (trySendData failure message).run c = .error (.runtime m) { c with
        written := c.written ++ message.data.take n, broken := true } → Sent failure message c
  /-- A write failed before. -/
  | broken (m : String) : (trySendData failure message).run c = .error (.runtime m) c →
      Sent failure message c

/-- The checks of `sendData`, before what follows them. -/
def checked (message : HttpRelayPeerMessage) (call : SessionM Unit) : SessionM Unit := do
  let s ← get
  requireStream s.hasOutputStream
  ofExcept (checkArgument (message.messageType = .PEER_TO_RELAY) "")
  ofExcept (checkArgument (message.sessionId = s.sessionId) "")
  ofExcept (checkArgument (message.sequence = s.peerToRelaySequence + 1) "")
  call

/-- One of the checks fails, or none does and the number is the next. -/
theorem checked_cases (message : HttpRelayPeerMessage) (c : RelaySessionConnection) :
    (∃ e, (∀ m, e ≠ JavaException.runtime m) ∧
      ∀ call, (checked message call).run c = .error e c) ∨
    message.sequence = c.peerToRelaySequence + 1 ∧
      ∀ call, (checked message call).run c = call.run c := by
  by_cases hstream : c.hasOutputStream = true
  swap
  · refine .inl ⟨.nullPointer "", by simp, fun call => ?_⟩
    rw [checked, run_get_bind, run_bind_of_error (run_requireStream_of_closed hstream c)]
  by_cases htype : message.messageType = .PEER_TO_RELAY
  swap
  · refine .inl ⟨.illegalArgument "", by simp, fun call => ?_⟩
    rw [checked, run_get_bind, run_bind_of_ok (run_requireStream hstream c),
      run_checkArgument_bind_of_false (decide_eq_false htype)]
  by_cases hsession : message.sessionId = c.sessionId
  swap
  · refine .inl ⟨.illegalArgument "", by simp, fun call => ?_⟩
    rw [checked, run_get_bind, run_bind_of_ok (run_requireStream hstream c),
      run_checkArgument_bind (decide_eq_true htype),
      run_checkArgument_bind_of_false (decide_eq_false hsession)]
  by_cases hsequence : message.sequence = c.peerToRelaySequence + 1
  swap
  · refine .inl ⟨.illegalArgument "", by simp, fun call => ?_⟩
    rw [checked, run_get_bind, run_bind_of_ok (run_requireStream hstream c),
      run_checkArgument_bind (decide_eq_true htype),
      run_checkArgument_bind (decide_eq_true hsession),
      run_checkArgument_bind_of_false (decide_eq_false hsequence)]
  refine .inr ⟨hsequence, fun call => ?_⟩
  rw [checked, run_get_bind, run_bind_of_ok (run_requireStream hstream c),
    run_checkArgument_bind (decide_eq_true htype), run_checkArgument_bind (decide_eq_true hsession),
    run_checkArgument_bind (decide_eq_true hsequence)]

/-- The write of `sendData`, and the number it moves on. -/
def writeData (failure : Option ℕ) (message : HttpRelayPeerMessage) : SessionM Unit := do
  writeTo failure message.data
  modify fun s => { s with peerToRelaySequence := message.sequence }

/-- What it throws is an `IOException`. -/
theorem writeData_error {e : JavaException} {c' : RelaySessionConnection}
    (h : (writeData failure message).run c = .error e c') : ∃ m, e = .runtime m := by
  by_cases hbroken : c.broken = true
  · have hthrow : (writeTo failure message.data).run c = .error (.runtime "IOException") c := by
      rw [writeTo, run_get_bind, if_pos hbroken]
      rfl
    rw [writeData, run_bind_of_error hthrow] at h
    cases h
    exact ⟨_, rfl⟩
  · rw [writeData, writeTo, bind_assoc, run_get_bind, if_neg hbroken] at h
    rcases failure with _ | n
    · cases h
    · cases h
      exact ⟨_, rfl⟩

/-- `trySendData` is its checks, then the write. -/
theorem trySendData_eq (failure : Option ℕ) (message : HttpRelayPeerMessage) :
    trySendData failure message =
      checked message (if !message.data.isEmpty then writeData failure message else pure ()) := rfl

/-- `sendData` is the same checks, then the write with its handler. -/
theorem sendData_eq (failure : Option ℕ) (message : HttpRelayPeerMessage) :
    sendData failure message = checked message (if !message.data.isEmpty then
      tryCatch (writeData failure message) fun ex => do
        close
        throw ex
      else pure ()) := rfl

/-- **A request is refused, empty, accepted, or fails.** -/
theorem trySendData_sent (failure : Option ℕ) (message : HttpRelayPeerMessage)
    (c : RelaySessionConnection) : Sent failure message c := by
  rcases checked_cases message c with ⟨e, he, hfail⟩ | ⟨hsequence, hpass⟩
  · exact .refused e he (hfail _)
  by_cases hdata : message.data = []
  · refine .empty hdata ?_
    rw [trySendData_eq, hpass, hdata]
    rfl
  have hcall : (trySendData failure message).run c = (writeData failure message).run c := by
    rw [trySendData_eq, hpass, if_pos (by simpa using hdata)]
  by_cases hbroken : c.broken = true
  · have hthrow : (writeTo failure message.data).run c = .error (.runtime "IOException") c := by
      rw [writeTo, run_get_bind, if_pos hbroken]
      rfl
    exact .broken _ (hcall.trans (run_bind_of_error hthrow _))
  · have hopen : c.broken = false := by simpa using hbroken
    rcases failure with _ | n
    · have hput : (writeTo none message.data).run c =
          .ok () { c with written := c.written ++ message.data } := by
        rw [writeTo, run_get_bind, if_neg hbroken]
        rfl
      exact .accepted hdata hopen hsequence (hcall.trans (run_bind_of_ok hput _))
    · have hpart : (writeTo (some n) message.data).run c = .error (.runtime "IOException")
          { c with written := c.written ++ message.data.take n, broken := true } := by
        rw [writeTo, run_get_bind, if_neg hbroken]
        rfl
      exact .failed _ n hopen hsequence (hcall.trans (run_bind_of_error hpart _))

/-- **`sendData` is what comes before `close`, and `close` where a write
threw.** -/
theorem run_sendData (failure : Option ℕ) (message : HttpRelayPeerMessage)
    (c : RelaySessionConnection) : (sendData failure message).run c =
      match (trySendData failure message).run c with
      | .ok () c' => .ok () c'
      | .error (.runtime m) c' => .error (.runtime m) (shut c')
      | .error e c' => .error e c' := by
  rcases checked_cases message c with ⟨e, he, hfail⟩ | ⟨hsequence, hpass⟩
  · rw [sendData_eq, trySendData_eq, hfail, hfail]
    rcases e with _ | _ | _ | _ | _ | _ | _ | m
    all_goals first
      | exact absurd rfl (he m)
      | rfl
  · rw [sendData_eq, trySendData_eq, hpass, hpass]
    by_cases hdata : message.data = []
    · rw [hdata]
      rfl
    have hwrite : (!message.data.isEmpty) = true := by simpa using hdata
    rw [if_pos hwrite, if_pos hwrite]
    -- the write throws an `IOException` or nothing
    rcases hrun : (writeData failure message).run c with ⟨_, c'⟩ | ⟨e, c'⟩
    · rw [run_tryCatch_of_ok hrun]
    · obtain ⟨m, rfl⟩ := writeData_error hrun
      rw [run_tryCatch_of_error hrun]
      change (close >>= fun _ => throw (.runtime m) : SessionM Unit).run c' = _
      rw [run_bind_of_ok (run_close c')]
      rfl

/-- **What a request does to the socket**: nothing; or, where it carries
the next number, its data is written and its number is the last, or a part
is written and the socket takes nothing more. -/
theorem sendData_cases (failure : Option ℕ) (message : HttpRelayPeerMessage)
    (s : RelaySessionConnection) :
    SameOutput s (after (sendData failure message) s) ∨
      (message.sequence = s.peerToRelaySequence + 1 ∧ s.broken = false ∧
        ((after (sendData failure message) s).written = s.written ++ message.data ∧
            (after (sendData failure message) s).peerToRelaySequence = message.sequence ∧
            (after (sendData failure message) s).broken = false ∨
          (∃ n, (after (sendData failure message) s).written = s.written ++ message.data.take n) ∧
            (after (sendData failure message) s).broken = true)) := by
  have hrun := run_sendData failure message s
  rcases trySendData_sent failure message s with ⟨e, he, hcall⟩ | ⟨hdata, hcall⟩ |
    ⟨hdata, hopen, hsequence, hcall⟩ | ⟨m, n, hopen, hsequence, hcall⟩ | ⟨m, hcall⟩
  case refused =>
    rw [hcall] at hrun
    split at hrun
    · next hok => cases hok
    · next m c hruntime =>
      cases hruntime
      exact absurd rfl (he m)
    · next hother =>
      cases hother
      rw [after_of_error hrun]
      exact .inl (sameOutput_refl s)
  case empty =>
    rw [hcall] at hrun
    rw [after_of_ok hrun]
    exact .inl (sameOutput_refl s)
  case accepted =>
    rw [hcall] at hrun
    rw [after_of_ok hrun]
    exact .inr ⟨hsequence, hopen, .inl ⟨rfl, rfl, hopen⟩⟩
  case failed =>
    rw [hcall] at hrun
    have hsame := sameOutput_shut
      { s with written := s.written ++ message.data.take n, broken := true }
    rw [after_of_error hrun]
    exact .inr ⟨hsequence, hopen, .inr ⟨⟨n, hsame.written⟩, hsame.broken⟩⟩
  case broken =>
    rw [hcall] at hrun
    rw [after_of_error hrun]
    exact .inl (sameOutput_shut s)

end Server

/-! ## What a handler does to the session -/

section Server

open RelaySessionConnection

variable {s s' : RelaySessionConnection} {h : WaitForData}

/-- Neither the data kept for the peer nor the number moves. -/
structure SameInput (s s' : RelaySessionConnection) : Prop where
  content : s'.content = s.content
  relayToPeerSequence : s'.relayToPeerSequence = s.relayToPeerSequence

/-- Nothing moves where nothing is done. -/
theorem sameInput_refl (s : RelaySessionConnection) : SameInput s s := ⟨rfl, rfl⟩

/-- Marking a session as closed drops nothing. -/
theorem sameInput_markClosed (s : RelaySessionConnection) : SameInput s (after markClosed s) := by
  by_cases hclosed : s.isClosed = true
  · rw [after_of_ok (run_markClosed_of_closed hclosed)]
    exact sameInput_refl s
  · rw [after_of_ok (run_markClosed hclosed)]
    exact ⟨rfl, rfl⟩

/-- No file is an empty one. -/
theorem content_eq (s : RelaySessionConnection) : s.tempFile.getD [] = s.content := rfl

/-- The file is made where there is none. -/
theorem run_getTempFile (s : RelaySessionConnection) :
    getTempFile.run s = .ok s.content { s with tempFile := some s.content } := rfl

/-- There is data where the file is not empty. -/
theorem run_hasData (hstream : s.hasInputStream = true) :
    hasData.run s = .ok (!s.content.isEmpty) { s with tempFile := some s.content } := by
  rw [hasData, run_get_bind, run_bind_of_ok (run_requireStream hstream s),
    run_bind_of_ok (run_getTempFile s)]
  rfl

/-- Whether there is data cannot be asked of a closed session. -/
theorem run_hasData_of_closed (hstream : ¬ s.hasInputStream = true) :
    hasData.run s = .error (.nullPointer "") s := by
  rw [hasData, run_get_bind, run_bind_of_error (run_requireStream_of_closed hstream s)]

/-- A pop returns all there is. -/
theorem run_popTempFile (hstream : s.hasInputStream = true) :
    ∃ tempFile : Option Bytes, tempFile.getD [] = [] ∧
      popTempFile.run s = .ok s.content { s with tempFile } := by
  by_cases hempty : s.content = []
  · refine ⟨some [], rfl, ?_⟩
    rw [popTempFile, run_bind_of_ok (run_hasData hstream), hempty]
    rfl
  · refine ⟨none, rfl, ?_⟩
    have hdata : (!s.content.isEmpty) = true := by simpa using hempty
    rw [popTempFile, run_bind_of_ok (run_hasData hstream), if_pos hdata]
    rfl

/-- The wait looks at the file, which it creates if there is none. -/
theorem run_beginWait (hstream : s.hasInputStream = true) :
    ∃ (b : Bool) (tempFile : Option Bytes), tempFile.getD [] = s.content ∧
      beginWait.run s = .ok b { s with tempFile } := by
  by_cases hclosed : s.isClosed = true
  · refine ⟨false, s.tempFile, rfl, ?_⟩
    rw [beginWait, run_get_bind, run_bind_of_ok (run_requireStream hstream s), if_pos hclosed]
    rfl
  · refine ⟨!(!s.content.isEmpty), some s.content, rfl, ?_⟩
    rw [beginWait, run_get_bind, run_bind_of_ok (run_requireStream hstream s), if_neg hclosed,
      run_bind_of_ok (run_hasData hstream)]
    rfl

/-- A session whose stream is closed cannot be waited for. -/
theorem run_beginWait_of_closed (hstream : ¬ s.hasInputStream = true) :
    beginWait.run s = .error (.nullPointer "") s := by
  rw [beginWait, run_get_bind, run_bind_of_error (run_requireStream_of_closed hstream s)]

/-- **A step of a handler** pops all there is, takes the next number for
what it popped, refuses, which it does of a session that closes only, or
moves on. -/
inductive HandlerStep (s : RelaySessionConnection) : WaitForData → WaitForData →
    RelaySessionConnection → Prop
  | pop {tempFile : Option Bytes} : tempFile.getD [] = [] →
      HandlerStep s .entered (.popped s.content) { s with tempFile }
  | number {data : Bytes} : HandlerStep s (.popped data)
      (.answered ⟨.RELAY_TO_PEER, s.relayToPeerSequence + 1, data⟩)
      { s with relayToPeerSequence := s.relayToPeerSequence + 1 }
  | refuse {h : WaitForData} {tempFile : Option Bytes} {response : HttpRelayServerMessage} :
      h.pending = none → tempFile.getD [] = s.content →
      response.messageType ≠ .RELAY_TO_PEER → response.data = [] →
      (s.isClosed = true ∧ h ≠ .entered) ∨ ¬ s.hasInputStream = true →
      HandlerStep s h (.answered response) { s with tempFile }
  | move {h next : WaitForData} {tempFile : Option Bytes} : h.pending = none → h ≠ .entered →
      tempFile.getD [] = s.content → next.pending = none → next.response = none →
      next.rank < h.rank → HandlerStep s h next { s with tempFile }

/-- A step that throws is answered with an error, and pops nothing. -/
theorem handlerStep_of_error {e : JavaException} {tempFile : Option Bytes}
    (hpending : h.pending = none) (hsame : tempFile.getD [] = s.content)
    (hrun : h.step.run s = .error e { s with tempFile })
    (hwhy : (s.isClosed = true ∧ h ≠ .entered) ∨ ¬ s.hasInputStream = true) :
    HandlerStep s h (h.next s) (after h.step s) := by
  have hnext : h.next s = .answered { messageType := .ERROR } := by
    rw [WaitForData.next, result_of_error hrun]
    rfl
  rw [hnext, after_of_error hrun]
  exact .refuse hpending hsame (by simp) rfl hwhy

/-- A step that returns goes on with what it returned. -/
theorem handlerStep_of_ok {next : WaitForData} (hrun : h.step.run s = .ok next s')
    (hstep : HandlerStep s h next s') : HandlerStep s h (h.next s) (after h.step s) := by
  have hnext : h.next s = next := by
    rw [WaitForData.next, result_of_ok hrun]
    rfl
  rw [hnext, after_of_ok hrun]
  exact hstep

/-- A handler that arrived waits, whether or not there is data. -/
theorem handlerStep_arrived (s : RelaySessionConnection) :
    HandlerStep s .arrived (WaitForData.arrived.next s) (after WaitForData.arrived.step s) := by
  by_cases hstream : s.hasInputStream = true
  · obtain ⟨b, tempFile, hsame, hrun⟩ := run_beginWait hstream
    have hstep : WaitForData.arrived.step.run s = .ok .waiting { s with tempFile } := by
      rw [WaitForData.step, run_bind_of_ok (run_discard_of_ok hrun)]
      rfl
    exact handlerStep_of_ok hstep (.move rfl (by simp) hsame rfl rfl (by decide))
  · have hstep : WaitForData.arrived.step.run s = .error (.nullPointer "") s := by
      rw [WaitForData.step, run_bind_of_error
        (run_discard_of_error (run_beginWait_of_closed hstream))]
    exact handlerStep_of_error rfl (content_eq s) hstep (.inr hstream)

/-- One that waits goes on, or answers that the session closes. -/
theorem handlerStep_waiting (s : RelaySessionConnection) :
    HandlerStep s .waiting (WaitForData.waiting.next s) (after WaitForData.waiting.step s) := by
  by_cases hclosed : s.isClosed = true
  · have hstep : WaitForData.waiting.step.run s =
        .ok (.answered { messageType := .SERVER_CLOSING }) s := by
      rw [WaitForData.step, run_get_bind, if_pos hclosed]
      rfl
    exact handlerStep_of_ok hstep (.refuse rfl (content_eq s) (by simp) rfl
      (.inl ⟨hclosed, by simp⟩))
  · have hstep : WaitForData.waiting.step.run s = .ok .awake s := by
      rw [WaitForData.step, run_get_bind, if_neg hclosed]
      rfl
    exact handlerStep_of_ok hstep
      (.move rfl (by simp) (content_eq s) rfl rfl (by decide))

/-- One that is awake goes on, unless the session was closed. -/
theorem handlerStep_awake (s : RelaySessionConnection) :
    HandlerStep s .awake (WaitForData.awake.next s) (after WaitForData.awake.step s) := by
  by_cases hclosed : s.isClosed = true
  · have hstep : WaitForData.awake.step.run s = .error (.illegalArgument "") s := by
      rw [WaitForData.step, checkOpen, bind_assoc, run_get_bind, hclosed]
      rfl
    exact handlerStep_of_error rfl (content_eq s) hstep (.inl ⟨hclosed, by simp⟩)
  · rw [Bool.not_eq_true] at hclosed
    have hstep : WaitForData.awake.step.run s = .ok .entered s := by
      rw [WaitForData.step, checkOpen, bind_assoc, run_get_bind, hclosed]
      rfl
    exact handlerStep_of_ok hstep
      (.move rfl (by simp) (content_eq s) rfl rfl (by decide))

/-- One that has entered pops all there is. -/
theorem handlerStep_entered (s : RelaySessionConnection) :
    HandlerStep s .entered (WaitForData.entered.next s) (after WaitForData.entered.step s) := by
  by_cases hstream : s.hasInputStream = true
  · obtain ⟨tempFile, hnone, hrun⟩ := run_popTempFile hstream
    have hstep : WaitForData.entered.step.run s = .ok (.popped s.content) { s with tempFile } := by
      rw [WaitForData.step, run_bind_of_ok hrun]
      rfl
    exact handlerStep_of_ok hstep (.pop hnone)
  · have hstep : WaitForData.entered.step.run s = .error (.nullPointer "") s := by
      rw [WaitForData.step, popTempFile, run_bind_of_error]
      rw [run_bind_of_error (run_hasData_of_closed hstream)]
    exact handlerStep_of_error rfl (content_eq s) hstep (.inr hstream)

/-- **Every step of a handler** that has not answered is one of these. -/
theorem handlerStep (h : WaitForData) (s : RelaySessionConnection) (hopen : h.response = none) :
    HandlerStep s h (h.next s) (after h.step s) := by
  cases h with
  | arrived => exact handlerStep_arrived s
  | waiting => exact handlerStep_waiting s
  | awake => exact handlerStep_awake s
  | entered => exact handlerStep_entered s
  | popped data => exact .number
  | answered response => cases hopen

/-- The steps of a handler nothing comes between are `waitForDataAndGet`. -/
theorem run_waitForDataAndGet (s : RelaySessionConnection) :
    (WaitForData.arrived.step >>= WaitForData.step >>= WaitForData.step >>= WaitForData.step >>=
      WaitForData.step).run s = (WaitForData.answered <$> waitForDataAndGet).run s := by
  simp only [WaitForData.step, waitForDataAndGet, getData, bind_assoc, pure_bind, map_bind]
  cases hwait : (discard beginWait).run s with
  | ok u t =>
    rw [run_bind_of_ok hwait, run_bind_of_ok hwait, run_get_bind, run_get_bind]
    by_cases hclosed : t.isClosed = true
    · rw [if_pos hclosed, if_pos hclosed]
      rfl
    · rw [if_neg hclosed, if_neg hclosed]
      simp only [WaitForData.step, pure_bind, bind_assoc, map_eq_pure_bind]
  | error e t => rw [run_bind_of_error hwait, run_bind_of_error hwait]

end Server

end HttpRelay

end ASync
