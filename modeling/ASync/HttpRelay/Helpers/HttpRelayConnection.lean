import ASync.HttpRelay.Helpers.RelaySessionConnection
import ASync.HttpRelay.Model.HttpRelayConnection
/-!
# What a call on a connection does

A flush hands the buffer to the executor, or drops it where there is none
left; a response is queued under the next number, or refused.
-/

namespace ASync

namespace HttpRelay

open HttpRelayProtos Effect

namespace HttpRelayConnection

variable {response : HttpRelayServerMessage} {c c' : HttpRelayConnection}

theorem run_checkOpen (hopen : c.isClosed = false) : checkOpen.run c = .ok () c := by
  rw [checkOpen, run_get_bind, hopen]
  rfl

theorem run_checkOpen_of_closed (hclosed : c.isClosed = true) :
    checkOpen.run c = .error (.illegalArgument "") c := by
  rw [checkOpen, run_get_bind, hclosed]
  rfl

/-- A `write` is its check and then its append. -/
theorem run_write_eq_ok {bytes : Bytes} :
    (write bytes).run c = .ok () c' ↔ result checkOpen c = some () ∧
    c' = after (append bytes) c := by
  by_cases hclosed : c.isClosed = true
  · have hrun := run_checkOpen_of_closed hclosed
    rw [write, run_bind_of_error hrun, result_of_error hrun]
    simp
  · have hrun := run_checkOpen (by simpa using hclosed)
    rw [write, run_bind_of_ok hrun, result_of_ok hrun]
    constructor
    · intro h
      cases h
      exact ⟨rfl, rfl⟩
    · rintro ⟨_, rfl⟩
      rfl

/-- A flush hands the buffer to the executor, or drops it. -/
theorem after_flush (c : HttpRelayConnection) :
    after flush c =
      { c with
        buffer := []
        outgoing := if c.isShutdown = true ∨ c.buffer = [] then c.outgoing
          else c.outgoing ++ [c.buffer] } := by
  by_cases hempty : c.buffer = []
  · have hrun : flush.run c = .ok () { c with buffer := [] } := by
      simp only [flush, EStateM.run_bind, EStateM.run_get, hempty,
        List.isEmpty_nil, Bool.not_true]
      rfl
    rw [after_of_ok hrun, if_pos (.inr hempty)]
  · have hdata : c.buffer.isEmpty = false := List.isEmpty_eq_false_iff.2 hempty
    by_cases hshutdown : c.isShutdown = true
    · have hrun : flush.run c =
          .error (.runtime "RejectedExecutionException") { c with buffer := [] } := by
        simp only [flush, EStateM.run_bind, EStateM.run_get, hdata, hshutdown,
          Bool.not_false, if_true]
        rfl
      rw [after_of_error hrun, if_pos (.inl hshutdown)]
    · have hrun : flush.run c =
          .ok () { c with buffer := [], outgoing := c.outgoing ++ [c.buffer] } := by
        simp only [flush, EStateM.run_bind, EStateM.run_get, hdata, hshutdown,
          Bool.not_false, if_true]
        rfl
      rw [after_of_ok hrun, if_neg (by simp [hshutdown, hempty])]

/-! ## What a response does to the client -/

/-- An empty chunk is not queued, and would add nothing. -/
theorem queued_append (queue : List (Option Bytes)) (data : Bytes) :
    ((queue ++ if data = [] then [] else [some data]).filterMap id).flatten =
      (queue.filterMap id).flatten ++ data := by
  rw [List.filterMap_append, List.flatten_append]
  by_cases hdata : data = []
  · rw [if_pos hdata, hdata]
    rfl
  · rw [if_neg hdata]
    show _ ++ (data ++ []) = _
    rw [List.append_nil]

/-- A response under the next number is queued, unless it is empty. -/
theorem run_handleServerMessage (htype : response.messageType = .RELAY_TO_PEER)
    (hsequence : response.sequence = c.relayToPeerSequence + 1) :
    (handleServerMessage response).run c = .ok () { c with
      incomingDataQueue :=
        c.incomingDataQueue ++ if response.data = [] then [] else [some response.data]
      relayToPeerSequence := response.sequence } := by
  have hnoerror : response.messageType ≠ .ERROR := by simp [htype]
  rw [handleServerMessage, run_checkArgument_bind (decide_eq_true hnoerror),
    run_checkArgument_bind (decide_eq_true htype), run_get_bind,
    run_checkArgument_bind (decide_eq_true hsequence)]
  by_cases hdata : response.data = []
  · rw [if_neg (by simp [hdata]), if_pos hdata, List.append_nil]
    rfl
  · rw [if_pos (by simpa using hdata), if_neg hdata]
    rfl

/-- An error is refused, and so is the notice that the session was closed. -/
theorem run_handleServerMessage_of_ne (htype : response.messageType ≠ .RELAY_TO_PEER) :
    ∃ message, (handleServerMessage response).run c = .error (.illegalArgument message) c := by
  by_cases herror : response.messageType = .ERROR
  · refine ⟨"server error", ?_⟩
    rw [handleServerMessage, run_checkArgument_bind_of_false (by simp [herror])]
  · refine ⟨"", ?_⟩
    rw [handleServerMessage, run_checkArgument_bind (decide_eq_true herror),
      run_checkArgument_bind_of_false (decide_eq_false htype)]

/-- **A response** under the next number is queued; any other is refused. -/
theorem handleServerMessage_cases (response : HttpRelayServerMessage) (c : HttpRelayConnection) :
    after (handleServerMessage response) c = c ∨
      (response.messageType = .RELAY_TO_PEER ∧ response.sequence = c.relayToPeerSequence + 1 ∧
        (after (handleServerMessage response) c).queued = c.queued ++ response.data ∧
        (after (handleServerMessage response) c).relayToPeerSequence = response.sequence) := by
  by_cases htype : response.messageType = .RELAY_TO_PEER
  · by_cases hsequence : response.sequence = c.relayToPeerSequence + 1
    · refine .inr ⟨htype, hsequence, ?_⟩
      rw [after_of_ok (run_handleServerMessage htype hsequence)]
      exact ⟨queued_append c.incomingDataQueue response.data, rfl⟩
    · have hnoerror : response.messageType ≠ .ERROR := by simp [htype]
      refine .inl (after_of_error (e := .illegalArgument "") ?_)
      rw [handleServerMessage, run_checkArgument_bind (decide_eq_true hnoerror),
        run_checkArgument_bind (decide_eq_true htype), run_get_bind,
        run_checkArgument_bind_of_false (decide_eq_false hsequence)]
  · obtain ⟨message, hrun⟩ := run_handleServerMessage_of_ne (c := c) htype
    exact .inl (after_of_error hrun)

/-! ## The input stream -/

/-- A `read` ends before its loop where the connection was closed. -/
theorem result_beginRead (c : HttpRelayConnection) :
    (result beginRead c).getD true = (c.isClosed || c.noMoreData) := by
  cases hclosed : c.isClosed with
  | true =>
    have hrun : beginRead.run c = .error (.illegalArgument "") c := by
      rw [beginRead, run_bind_of_error (run_checkOpen_of_closed hclosed)]
    rw [result_of_error hrun]
    rfl
  | false =>
    have hrun : beginRead.run c = .ok c.noMoreData c := by
      rw [beginRead, run_bind_of_ok (run_checkOpen hclosed)]
      rfl
    rw [result_of_ok hrun]
    rfl

theorem run_readRound_bite {bite : UInt8} {byteArrayInputStream : Bytes}
    (hbuffer : c.byteArrayInputStream = bite :: byteArrayInputStream) :
    readRound.run c = .ok (some (some bite)) { c with byteArrayInputStream } := by
  simp only [readRound, run_get_bind, hbuffer]
  rfl

theorem run_readRound_nothing (hbuffer : c.byteArrayInputStream = [])
    (hqueue : c.incomingDataQueue = []) : readRound.run c = .ok none c := by
  simp only [readRound, run_get_bind, hbuffer, hqueue]
  rfl

theorem run_readRound_closed {incomingDataQueue : List (Option Bytes)}
    (hbuffer : c.byteArrayInputStream = [])
    (hqueue : c.incomingDataQueue = none :: incomingDataQueue) :
    readRound.run c = .ok (some none) { c with incomingDataQueue, noMoreData := true } := by
  simp only [readRound, run_get_bind, hbuffer, hqueue]
  rfl

theorem run_readRound_chunk {incomingDataQueue : List (Option Bytes)} {data : Bytes}
    (hbuffer : c.byteArrayInputStream = [])
    (hqueue : c.incomingDataQueue = some data :: incomingDataQueue) :
    readRound.run c = .ok none
      { c with incomingDataQueue, byteArrayInputStream := data } := by
  simp only [readRound, run_get_bind, hbuffer, hqueue]
  rfl

end HttpRelayConnection

end HttpRelay

end ASync
