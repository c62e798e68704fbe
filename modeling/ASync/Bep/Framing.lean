import ASync.Bep.Model.Framing
import ASync.Core.Helpers.Beans
/-!
# Reading back what was sent

The reader takes every frame `sendMessage` writes for a message with a
body back to the message and ends where the next frame begins. A frame
without a body ends in a zero length, which the reader skips: it reads
the length of that body from the bytes of the next frame.
-/

namespace ASync

namespace Bep

open ASync.Core BlockExchageProtos Wire

section Framing

variable [MessageClasses] [LawfulMessageClasses]
variable {message : TypedMessage} {messages : List TypedMessage} {rest bs : Bytes}

/-! ## Lengths -/

omit [MessageClasses] [LawfulMessageClasses] in
/-- A header length that is not zero is read at once. -/
theorem readHeaderLength_writeShort {v : ℕ} (hpos : 0 < v) (hlt : v < 2 ^ 15) (rest : Bytes) :
    readHeaderLength (writeShort v ++ rest) = .ok ((v : ℤ), rest) := by
  have hsigned : signed (toBytes 2 v) = v := signed_toBytes (by omega)
  have hlength : (toBytes 2 v).length = 2 := length_toBytes 2 v
  rw [writeShort]
  match hbytes : toBytes 2 v, hlength with
  | [a, b], _ =>
    rw [hbytes] at hsigned
    rw [List.cons_append, List.cons_append, List.nil_append, readHeaderLength, hsigned,
      if_neg (by omega)]

omit [MessageClasses] [LawfulMessageClasses] in
/-- A message length that is not zero is read at once. -/
theorem readMessageLength_writeInt {v : ℕ} (hpos : 0 < v) (hlt : v < 2 ^ 31) (rest : Bytes) :
    readMessageLength (writeInt v ++ rest) = .ok ((v : ℤ), rest) := by
  have hsigned : signed (toBytes 4 v) = v := signed_toBytes (by omega)
  have hlength : (toBytes 4 v).length = 4 := length_toBytes 4 v
  rw [writeInt]
  match hbytes : toBytes 4 v, hlength with
  | [a, b, c, d], _ =>
    rw [hbytes] at hsigned
    rw [List.cons_append, List.cons_append, List.cons_append, List.cons_append, List.nil_append,
      readMessageLength, hsigned, if_neg (by omega)]

omit [MessageClasses] [LawfulMessageClasses] in
/-- A zero message length is skipped. -/
theorem readMessageLength_writeInt_zero (rest : Bytes) :
    readMessageLength (writeInt 0 ++ rest) = readMessageLength rest := by
  have hbytes : writeInt 0 = [0, 0, 0, 0] := by decide
  have hzero : signed [0, 0, 0, 0] = 0 := by decide
  rw [hbytes, List.cons_append, List.cons_append, List.cons_append, List.cons_append,
    List.nil_append, readMessageLength, if_pos hzero]

omit [MessageClasses] [LawfulMessageClasses] in
/-- The length the reader settles on is never zero. -/
theorem readMessageLength_ne_zero {length : ℤ} (h : readMessageLength bs = .ok (length, rest)) :
    length ≠ 0 := by
  induction bs using readMessageLength.induct with
  | case1 a b c d bs hzero ih =>
    rw [readMessageLength, if_pos hzero] at h
    exact ih h
  | case2 a b c d bs hne =>
    rw [readMessageLength, if_neg hne] at h
    cases h
    exact hne
  | case3 bs hshort =>
    rw [readMessageLength] at h
    · cases h
    · exact hshort

omit [MessageClasses] [LawfulMessageClasses] in
theorem readBuffer_append (a rest : Bytes) :
    readBuffer (a.length : ℤ) (a ++ rest) = .ok (a, rest) := by
  rw [readBuffer, Int.toNat_natCast, readFully_append]

/-! ## One frame -/

omit [LawfulMessageClasses] in
theorem TypedMessage.length_header : message.header.toByteArray.length = 4 := rfl

omit [LawfulMessageClasses] in
theorem sendMessage_append : sendMessage message ++ rest =
    writeShort message.header.toByteArray.length ++ (message.header.toByteArray ++
      (writeInt message.body.length ++ (message.body ++ rest))) := by
  simp only [sendMessage, List.append_assoc]

/-- The header of a frame is read back, up to the body's length. -/
theorem receiveHeader_sendMessage : receiveHeader (sendMessage message ++ rest) =
    .ok (message.header, writeInt message.body.length ++ (message.body ++ rest)) := by
  have hlength : message.header.toByteArray.length = 4 := TypedMessage.length_header
  have hshort := readHeaderLength_writeShort (v := message.header.toByteArray.length)
    (by omega) (by omega)
    (message.header.toByteArray ++ (writeInt message.body.length ++ (message.body ++ rest)))
  have hcheck : ∀ text, checkArgument
      (decide (0 < (message.header.toByteArray.length : ℤ))) text = .ok () := fun _ =>
    checkArgument_eq_ok.2 (decide_eq_true (by omega))
  rw [sendMessage_append, receiveHeader, hshort, except_ok_bind]
  simp only [hcheck, except_ok_bind, readBuffer_append,
    LawfulMessageClasses.parseHeader_toByteArray]
  rfl

/-- A body that is not empty is read back. -/
theorem receiveBody_writeInt (hbody : message.body ≠ []) (hlt : message.body.length < 2 ^ 31) :
    receiveBody message.header (writeInt message.body.length ++ (message.body ++ rest)) =
      .ok (message, rest) := by
  have hint := readMessageLength_writeInt (List.length_pos_iff.2 hbody) hlt (message.body ++ rest)
  have hcheck : ∀ text, checkArgument (decide (0 ≤ (message.body.length : ℤ))) text = .ok () :=
    fun _ => checkArgument_eq_ok.2 (decide_eq_true (Int.natCast_nonneg _))
  have hparse : MessageClasses.parseFrom message.header.type message.body = some message.2 :=
    LawfulMessageClasses.parseFrom_toByteArray message.2
  have hplain : decompressed message.header message.body = .ok message.body := rfl
  rw [receiveBody, hint, except_ok_bind]
  simp only [hcheck, except_ok_bind, readBuffer_append, hplain, hparse]
  rfl

/-- **A frame with a body is read back**, and the stream is left where it
ends. -/
theorem receiveMessage_sendMessage (hbody : message.body ≠ [])
    (hlt : message.body.length < 2 ^ 31) :
    receiveMessage (sendMessage message ++ rest) = .ok (message, rest) := by
  rw [receiveMessage, receiveHeader_sendMessage, except_ok_bind]
  exact receiveBody_writeInt hbody hlt

omit [MessageClasses] [LawfulMessageClasses] in
theorem length_of_readBuffer {length : ℤ} {buffer : Bytes}
    (h : readBuffer length bs = .ok (buffer, rest)) : buffer.length = length.toNat := by
  unfold readBuffer readFully at h
  split at h
  · next r hr =>
    split at hr
    · cases hr
    · next hshort =>
      cases hr
      cases h
      rw [List.length_take, Nat.min_eq_left (not_lt.1 hshort)]
  · cases h

omit [LawfulMessageClasses] in
/-- What `receiveBody` went through when a message came out of it: a
length that is not zero and as many bytes, which the message's class
parsed. -/
theorem receiveBody_eq_ok {header : Header} (h : receiveBody header bs = .ok (message, rest)) :
    ∃ buffer plain m, buffer ≠ [] ∧ decompressed header buffer = .ok plain ∧
      MessageClasses.parseFrom header.type plain = some m ∧ message = ⟨header.type, m⟩ := by
  obtain ⟨⟨length, bs'⟩, hlength, h⟩ := except_bind_eq_ok h
  obtain ⟨hcheck, h⟩ := checkArgument_bind_eq_ok.1 h
  obtain ⟨⟨buffer, bs''⟩, hbuffer, h⟩ := except_bind_eq_ok h
  obtain ⟨plain, hplain, h⟩ := except_bind_eq_ok h
  have hne : buffer ≠ [] := by
    have hzero := readMessageLength_ne_zero hlength
    have hnonneg : 0 ≤ length := of_decide_eq_true hcheck
    have hlen := length_of_readBuffer hbuffer
    intro hnil
    rw [hnil, List.length_nil] at hlen
    omega
  refine ⟨buffer, plain, ?_⟩
  cases hparse : MessageClasses.parseFrom header.type plain with
  | none =>
    simp only [hparse] at h
    cases h
  | some m =>
    simp only [hparse] at h
    cases h
    exact ⟨m, hne, hplain, rfl, rfl⟩

/-- **A frame without a body is never read back**: the zero length is
skipped, so whatever message is read has a body of its own. -/
theorem receiveMessage_sendMessage_ne {rest' : Bytes} (hbody : message.body = []) :
    receiveMessage (sendMessage message ++ rest) ≠ .ok (message, rest') := by
  intro hread
  rw [receiveMessage, receiveHeader_sendMessage, except_ok_bind] at hread
  obtain ⟨buffer, plain, m, hne, hplain, hparse, hm⟩ := receiveBody_eq_ok hread
  obtain ⟨type, m'⟩ := message
  cases hplain
  cases hm
  exact hne (LawfulMessageClasses.eq_nil_of_parseFrom hparse hbody)

/-! ## The stream -/

/-- **The messages sent are the messages received, and the stream ends
with the last of them, exactly when every message has a body.** -/
theorem receiveMessages_sendMessage_iff (hlt : ∀ m ∈ messages, m.body.length < 2 ^ 31) :
    receiveMessages messages.length (messages.flatMap sendMessage) = .ok (messages, []) ↔
      ∀ m ∈ messages, m.body ≠ [] := by
  induction messages with
  | nil => exact ⟨fun _ m hm => (by cases hm), fun _ => rfl⟩
  | cons message messages ih =>
    have ih := ih fun m hm => hlt m (List.mem_cons_of_mem _ hm)
    rw [List.flatMap_cons, List.length_cons, receiveMessages, List.forall_mem_cons, ← ih]
    constructor
    · intro hread
      obtain ⟨⟨first, bs⟩, hfirst, hread⟩ := except_bind_eq_ok hread
      obtain ⟨⟨others, bs'⟩, hothers, hread⟩ := except_bind_eq_ok hread
      cases hread
      have hbody : message.body ≠ [] := fun hnil => receiveMessage_sendMessage_ne hnil hfirst
      rw [receiveMessage_sendMessage hbody (hlt message List.mem_cons_self)] at hfirst
      cases hfirst
      exact ⟨hbody, hothers⟩
    · rintro ⟨hbody, hothers⟩
      rw [receiveMessage_sendMessage hbody (hlt message List.mem_cons_self), except_ok_bind]
      simp only [hothers, except_ok_bind]
      rfl

end Framing

/-! ## A run of the pair -/

section Sample

/-- Messages kept as the bytes they serialise to. -/
@[reducible] def Sample.messageClasses : MessageClasses where
  Message := fun _ => Bytes
  toByteArray := fun bytes => bytes
  parseFrom := fun _ bytes => some bytes
  parseHeader := fun bytes =>
    ([.CLUSTER_CONFIG, .INDEX, .INDEX_UPDATE, .REQUEST, .RESPONSE, .DOWNLOAD_PROGRESS, .PING,
      .CLOSE].flatMap fun type => [⟨type, .NONE⟩, ⟨type, .LZ4⟩]).find?
        fun header : Header => header.toByteArray = bytes
  decompress := fun _ _ => none

attribute [local instance] Sample.messageClasses

theorem Sample.lawfulMessageClasses : LawfulMessageClasses where
  parseFrom_toByteArray := fun _ => rfl
  parseHeader_toByteArray := by
    rintro ⟨type, compression⟩
    cases type <;> cases compression <;> rfl
  eq_nil_of_parseFrom := by
    intro type bytes m hparse hnil
    obtain rfl := Option.some.inj hparse
    exact hnil

attribute [local instance] Sample.lawfulMessageClasses

instance Sample.decidableEqMessage (type : MessageType) :
    DecidableEq (MessageClasses.Message type) :=
  inferInstanceAs (DecidableEq Bytes)

@[simp] theorem Sample.body_mk (type : MessageType) (bytes : Bytes) :
    TypedMessage.body ⟨type, bytes⟩ = bytes := rfl

/-- A `Ping` carries no field; the `Close` gives its reason. -/
def pingThenClose : List TypedMessage := [⟨.PING, []⟩, ⟨.CLOSE, [0x0a, 0x01, 0x78]⟩]

/-- The frame of the ping ends in a zero length: the reader takes the
first four bytes of the next frame for the length of its body. -/
theorem ping_is_not_received : (∀ m ∈ pingThenClose, m.body.length < 2 ^ 31) ∧
    receiveMessages pingThenClose.length (pingThenClose.flatMap sendMessage) = .error .eof := by
  constructor
  · simp [pingThenClose]
  · decide +kernel

/-- Two messages with a body. -/
def responseThenClose : List TypedMessage :=
  [⟨.RESPONSE, [0x08, 0x01]⟩, ⟨.CLOSE, [0x0a, 0x01, 0x78]⟩]

theorem receiveMessages_sendMessage_iff_sample :
    receiveMessages responseThenClose.length (responseThenClose.flatMap sendMessage) =
      .ok (responseThenClose, []) ↔ ∀ m ∈ responseThenClose, m.body ≠ [] :=
  receiveMessages_sendMessage_iff (by simp [responseThenClose])

end Sample

end Bep

end ASync
