import ASync.Common.Readers
import ASync.Bep.Framing
import ASync.Bep.Model.Sending
/-!
# From one end of a connection to the other

Whatever threads send and close, and wherever a write fails, the stream
has the hello and then the frames of the messages taken, in their order,
up to some place in one of them. The readers of the peer are incremental,
so however much of the stream has come, what they read of it are the hello
and the first of the messages taken, as many as have come whole.
-/

namespace ASync

namespace Bep

open ASync.Core BlockExchageProtos Wire Reader

section Incremental

variable {bs : Bytes}

/-! ## The readers look no further than they read -/

/-- Reading a header's length needs no more than its own bytes. -/
theorem incremental_readHeaderLength : Incremental readHeaderLength := by
  intro s
  induction s using readHeaderLength.induct with
  | case1 a b s hzero ih =>
    intro v rest more h
    rw [readHeaderLength, if_pos hzero] at h
    rw [List.cons_append, List.cons_append, readHeaderLength, if_pos hzero]
    exact ih v rest more h
  | case2 a b s hne =>
    intro v rest more h
    rw [readHeaderLength, if_neg hne] at h
    cases h
    rw [List.cons_append, List.cons_append, readHeaderLength, if_neg hne]
  | case3 s hshort =>
    intro v rest more h
    rw [readHeaderLength] at h
    · cases h
    · exact hshort

/-- Reading a body's length needs no more than its own bytes. -/
theorem incremental_readMessageLength : Incremental readMessageLength := by
  intro s
  induction s using readMessageLength.induct with
  | case1 a b c d s hzero ih =>
    intro v rest more h
    rw [readMessageLength, if_pos hzero] at h
    rw [List.cons_append, List.cons_append, List.cons_append, List.cons_append, readMessageLength,
      if_pos hzero]
    exact ih v rest more h
  | case2 a b c d s hne =>
    intro v rest more h
    rw [readMessageLength, if_neg hne] at h
    cases h
    rw [List.cons_append, List.cons_append, List.cons_append, List.cons_append, readMessageLength,
      if_neg hne]
  | case3 s hshort =>
    intro v rest more h
    rw [readMessageLength] at h
    · cases h
    · exact hshort

/-- Reading a body needs no more than its own bytes. -/
theorem incremental_readBuffer (length : ℤ) : Incremental (readBuffer length) := by
  intro s buffer rest more h
  rw [readBuffer, readFully] at h
  by_cases hshort : s.length < length.toNat
  · rw [if_pos hshort] at h
    cases h
  · rw [if_neg hshort] at h
    cases h
    have hle : length.toNat ≤ s.length := not_lt.1 hshort
    rw [readBuffer, readFully, if_neg (by rw [List.length_append]; omega),
      List.take_append_of_le_length hle, List.drop_append_of_le_length hle]

/-- Reading an int needs no more than its own bytes. -/
theorem incremental_readInt : Incremental (readNumber readInt) := by
  intro s v rest more h
  rcases s with _ | ⟨a, _ | ⟨b, _ | ⟨c, _ | ⟨d, s⟩⟩⟩⟩
  all_goals cases h
  rfl

/-- Reading a short needs no more than its own bytes. -/
theorem incremental_readShort : Incremental (readNumber readShort) := by
  intro s v rest more h
  rcases s with _ | ⟨a, _ | ⟨b, s⟩⟩
  all_goals cases h
  rfl

variable [MessageClasses]

/-- Receiving a header needs no more than its own bytes. -/
theorem incremental_receiveHeader : Incremental receiveHeader := by
  refine incremental_readHeaderLength.bind fun headerLength => ?_
  refine Incremental.check ((incremental_readBuffer headerLength).bind fun headerBuffer => ?_)
  rcases hparse : MessageClasses.parseHeader headerBuffer with _ | header
  · exact incremental_of_eq_error fun s => by simp only [hparse]; rfl
  · exact incremental_of_eq_ok fun s => by simp only [hparse]; rfl

/-- The bytes of a body make a message, or the reader throws. -/
theorem incremental_parse (header : Header) (buffer : Bytes) :
    Incremental (fun s : Bytes => do
      let plain ← decompressed header buffer
      match MessageClasses.parseFrom header.type plain with
      | none => throw (.runtime "InvocationTargetException")
      | some message => return ((⟨header.type, message⟩ : TypedMessage), s)) := by
  rcases decompressed header buffer with e | plain
  · exact incremental_throw e
  · rcases hparse : MessageClasses.parseFrom header.type plain with _ | message
    · exact incremental_of_eq_error fun s => by simp only [except_ok_bind, hparse]; rfl
    · exact incremental_of_eq_ok fun s => by simp only [except_ok_bind, hparse]; rfl

/-- Receiving a body needs no more than its own bytes. -/
theorem incremental_receiveBody (header : Header) : Incremental (receiveBody header) := by
  refine incremental_readMessageLength.bind fun messageLength => ?_
  exact Incremental.check ((incremental_readBuffer messageLength).bind (incremental_parse header))

/-- **`receiveMessage` looks no further than the message.** -/
theorem incremental_receiveMessage : Incremental receiveMessage :=
  incremental_receiveHeader.bind incremental_receiveBody

/-- No message is read where there are no bytes. -/
theorem receiveMessage_nil (message : TypedMessage) (rest : Bytes) :
    receiveMessage [] ≠ .ok (message, rest) := by
  intro h
  cases h

/-- The loop is the reader of one message, a number of times. -/
theorem receiveMessages_eq (n : ℕ) : receiveMessages n = Reader.times receiveMessage n := by
  induction n with
  | zero => rfl
  | succ n ih =>
    funext s
    rw [receiveMessages, Reader.times, ih]
    rfl

variable [Protobuf Hello]

omit [MessageClasses] in
/-- Receiving the hello needs no more than its own bytes. -/
theorem incremental_receiveHelloMessage : Incremental receiveHelloMessage := by
  refine incremental_readInt.bind fun magic => ?_
  refine Incremental.check (incremental_readShort.bind fun length => ?_)
  refine Incremental.check ((incremental_readBuffer length).bind fun buffer => ?_)
  rcases hparse : parseHello buffer with e | hello
  · exact incremental_of_eq_error fun s => by simp only [hparse]; rfl
  · exact incremental_of_eq_ok fun s => by simp only [hparse]; rfl

end Incremental

/-! ## The hello message -/

section Hello

variable {hello : Hello}

/-- An int that was written is read back. -/
theorem readNumber_writeInt {v : ℕ} (h : v < 2 ^ 31) (rest : Bytes) :
    readNumber readInt (writeInt v ++ rest) = .ok ((v : ℤ), rest) := by
  have hread : readInt (toBytes 4 v ++ rest) = some (signed (toBytes 4 v), rest) :=
    readInt_append (length_toBytes 4 v)
  rw [signed_toBytes (by omega)] at hread
  rw [readNumber, writeInt, hread]

/-- A short that was written is read back. -/
theorem readNumber_writeShort {v : ℕ} (h : v < 2 ^ 15) (rest : Bytes) :
    readNumber readShort (writeShort v ++ rest) = .ok ((v : ℤ), rest) := by
  have hread : readShort (toBytes 2 v ++ rest) = some (signed (toBytes 2 v), rest) :=
    readShort_append (length_toBytes 2 v)
  rw [signed_toBytes (by omega)] at hread
  rw [readNumber, writeShort, hread]

variable [Protobuf Hello] [LawfulProtobuf Hello]

/-- The hello is read back where its length is that of a short. -/
theorem receiveHelloMessage_sendHelloMessage (hne : toByteArray hello ≠ [])
    (hlt : (toByteArray hello).length < 2 ^ 15) (rest : Bytes) :
    receiveHelloMessage (sendHelloMessage (toByteArray hello) ++ rest) = .ok (hello, rest) := by
  have hpos : 0 < (toByteArray hello).length := List.length_pos_iff.2 hne
  have hint := readNumber_writeInt (v := BlockExchangeConnectionHandler.MAGIC) (by decide)
    (writeShort (toByteArray hello).length ++ (toByteArray hello ++ rest))
  have hcheck : ∀ text, checkArgument
      (decide (0 < ((toByteArray hello).length : ℤ))) text = .ok () := fun _ =>
    checkArgument_eq_ok.2 (decide_eq_true (by omega))
  have hparse : parseHello (toByteArray hello) = .ok hello := by
    rw [parseHello, LawfulProtobuf.parseFrom_toByteArray]
  rw [sendHelloMessage, List.append_assoc, List.append_assoc, receiveHelloMessage, hint,
    except_ok_bind]
  simp only [except_ok_bind, readNumber_writeShort hlt, hcheck, readBuffer_append, hparse]
  rfl

end Hello

/-! ## What is on the stream -/

section Runs

variable [MessageClasses] {payload : Bytes} {es : List SendingEvent} {s : OutgoingConnection}

/-- The stream a connection is to write, up to the last message taken. -/
def OutgoingConnection.stream (s : OutgoingConnection) (payload : Bytes) : Bytes :=
  sendHelloMessage payload ++ s.accepted.flatMap sendMessage

/-- What is written begins the stream; where no write has failed, what
waits is the rest of it. -/
structure OutgoingConnection.Orderly (s : OutgoingConnection) (payload : Bytes) : Prop where
  isPrefix : s.wire <+: s.stream payload
  eq_of_open : s.hasOut = true → s.broken = false →
    s.wire ++ s.queue.flatten = s.stream payload

/-- **One step keeps the order.** -/
theorem OutgoingConnection.Orderly.step {e : SendingEvent} {s' : OutgoingConnection}
    (h : s.Orderly payload) (hs : s.step e = some s') : s'.Orderly payload := by
  cases e with
  | sendMessage message =>
    -- a message taken is the last of the queue and of the stream
    rw [OutgoingConnection.step] at hs
    split at hs
    · cases hs
      exact h
    · cases hs
      have hstream : OutgoingConnection.stream { s with
          queue := s.queue ++ [sendMessage message],
          accepted := s.accepted ++ [message] } payload =
          s.stream payload ++ sendMessage message := by
        simp [OutgoingConnection.stream]
      constructor
      · rw [hstream]
        exact h.isPrefix.trans (List.prefix_append _ _)
      · intro hout hbroken
        rw [hstream, ← h.eq_of_open hout hbroken]
        simp
  | write =>
    -- what is written is the first of the queue, or a part of it
    rw [OutgoingConnection.step, OutgoingConnection.write] at hs
    split at hs
    · cases hs
    · next frame queue hqueue =>
      split at hs
      · next hopen =>
        rw [Bool.and_eq_true, Bool.not_eq_true'] at hopen
        have hrest := h.eq_of_open hopen.1 hopen.2
        rw [hqueue, List.flatten_cons, ← List.append_assoc] at hrest
        split at hs
        · cases hs
          exact ⟨⟨_, hrest⟩, fun _ _ => hrest⟩
        · next n =>
          cases hs
          -- the write broke inside the frame: its rest follows on the stream
          refine ⟨⟨frame.drop n ++ queue.flatten, ?_⟩, fun _ hbroken => (by cases hbroken)⟩
          change (s.wire ++ frame.take n) ++ (frame.drop n ++ queue.flatten) = s.stream payload
          rw [← hrest, List.append_assoc, ← List.append_assoc (frame.take n),
            List.take_append_drop, List.append_assoc]
      · next hgone =>
        cases hs
        refine ⟨h.isPrefix, fun hout hbroken => absurd ?_ hgone⟩
        rw [Bool.and_eq_true, Bool.not_eq_true']
        exact ⟨hout, hbroken⟩
  | markClosed =>
    cases hs
    exact ⟨h.isPrefix, h.eq_of_open⟩
  | shutdown =>
    rw [OutgoingConnection.step] at hs
    split at hs
    · cases hs
      exact ⟨h.isPrefix, h.eq_of_open⟩
    · cases hs
  | closeStreams =>
    rw [OutgoingConnection.step] at hs
    split at hs
    · cases hs
      exact ⟨h.isPrefix, fun hout => (by cases hout)⟩
    · cases hs

/-- **And so does a run**, from the hello on. -/
theorem orderly_of_reaches (h : (sending payload).Reaches es s) : s.Orderly payload := by
  refine h.invariant (I := fun _ s => s.Orderly payload) ?_ ?_
  · rintro s rfl
    refine ⟨List.nil_prefix, fun _ _ => ?_⟩
    change sendHelloMessage payload ++ [] = sendHelloMessage payload ++ []
    rfl
  · intro es s e s' _ hs _ hstep
    exact hs.step hstep

end Runs

/-! ## What the peer reads -/

section Delivered

variable [MessageClasses] [LawfulMessageClasses] [Protobuf Hello] [LawfulProtobuf Hello]
variable {hello h : Hello} {es : List SendingEvent} {s : OutgoingConnection} {n : ℕ}
variable {delivered rest : Bytes} {messages : List TypedMessage}

omit [LawfulMessageClasses] [LawfulProtobuf Hello] in
/-- A session begins with a hello, and goes on with messages. -/
theorem receiveSession_eq_ok (hread : receiveSession n delivered = .ok ((h, messages), rest)) :
    ∃ bs, receiveHelloMessage delivered = .ok (h, bs) ∧
      Reader.times receiveMessage n bs = .ok (messages, rest) := by
  obtain ⟨⟨h', bs⟩, hhello, hread⟩ := except_bind_eq_ok hread
  obtain ⟨⟨messages', bs'⟩, hmessages, hread⟩ := except_bind_eq_ok hread
  cases hread
  exact ⟨bs, hhello, receiveMessages_eq n ▸ hmessages⟩

/-- **Messages reach the peer whole, in order and once.** Whatever was
sent, written and closed on a connection, in any order, and however much
of what was written has come to the peer: a session with `n` messages is
read there exactly when the hello and the frames of the first `n` messages
taken have come, and then the session read is those. Where no write has
failed and none waits, all of them are on the stream. -/
theorem session_of_delivered (hrun : (sending (toByteArray hello)).Reaches es s)
    (hne : toByteArray hello ≠ []) (hlt : (toByteArray hello).length < 2 ^ 15)
    (hbody : ∀ m ∈ s.accepted.take n, m.body ≠ [] ∧ m.body.length < 2 ^ 31)
    (hpart : delivered <+: s.wire) :
    ((∃ rest, receiveSession n delivered = .ok ((h, messages), rest)) ↔
      h = hello ∧ messages = s.accepted.take n ∧ n ≤ s.accepted.length ∧
      (sendHelloMessage (toByteArray hello) ++
        (s.accepted.take n).flatMap sendMessage) <+: delivered) ∧
    (s.hasOut = true → s.broken = false → s.queue = [] →
      s.wire = sendHelloMessage (toByteArray hello) ++ s.accepted.flatMap sendMessage) := by
  have horderly := orderly_of_reaches hrun
  have hstream : delivered <+:
      sendHelloMessage (toByteArray hello) ++ s.accepted.flatMap sendMessage :=
    hpart.trans horderly.isPrefix
  have hmessage : ∀ m ∈ s.accepted.take n, ∀ rest,
      receiveMessage (sendMessage m ++ rest) = .ok (m, rest) := fun m hm rest =>
    receiveMessage_sendMessage (hbody m hm).1 (hbody m hm).2
  refine ⟨⟨?_, ?_⟩, ?_⟩
  · -- what is read is what was sent
    rintro ⟨rest, hread⟩
    obtain ⟨bs, hhello, hmessages⟩ := receiveSession_eq_ok hread
    obtain ⟨rfl, rfl, hframes⟩ := incremental_receiveHelloMessage.eq_of_isPrefix
      (receiveHelloMessage_sendHelloMessage hne hlt) hstream hhello
    obtain ⟨hle, rfl, rfl⟩ := incremental_receiveMessage.times_of_isPrefix receiveMessage_nil
      hmessage hframes hmessages
    refine ⟨rfl, rfl, hle, rest, ?_⟩
    rw [List.append_assoc]
  · -- what has come is read
    rintro ⟨rfl, rfl, hle, rest, rfl⟩
    have htimes := times_flatMap hmessage rest
    rw [List.length_take, Nat.min_eq_left hle, ← receiveMessages_eq] at htimes
    refine ⟨rest, ?_⟩
    rw [receiveSession, List.append_assoc, receiveHelloMessage_sendHelloMessage hne hlt,
      except_ok_bind]
    simp only [htimes, except_ok_bind]
    rfl
  · intro hout hbroken hqueue
    have hall := horderly.eq_of_open hout hbroken
    rwa [hqueue, List.flatten_nil, List.append_nil] at hall

end Delivered

section Sample

attribute [local instance] Sample.messageClasses Sample.lawfulMessageClasses

def Sample.hello : Hello := ⟨"d", "a", "1"⟩

/-- Its bytes: three strings of one letter. -/
def Sample.bytesOfHello : Bytes := [0x0a, 0x01, 0x64, 0x12, 0x01, 0x61, 0x1a, 0x01, 0x31]

def Sample.lettersOf (hello : Hello) : List ℕ × List ℕ × List ℕ :=
  (hello.deviceName.toList.map Char.toNat, hello.clientName.toList.map Char.toNat,
    hello.clientVersion.toList.map Char.toNat)

def Sample.helloOf (letters : List ℕ × List ℕ × List ℕ) : Hello :=
  ⟨String.ofList (letters.1.map Char.ofNat), String.ofList (letters.2.1.map Char.ofNat),
    String.ofList (letters.2.2.map Char.ofNat)⟩

/-- The message class as it is on one hello; any other is written as the
code number of its letters. -/
@[reducible] def Sample.protobufOfHello : Protobuf Hello where
  toByteArray hello :=
    if hello = Sample.hello then Sample.bytesOfHello
    else 0x07 :: List.replicate (Encodable.encode (Sample.lettersOf hello)) 0
  parseFrom bytes :=
    if bytes = Sample.bytesOfHello then some Sample.hello
    else (Encodable.decode (bytes.length - 1)).map Sample.helloOf

/-- The sample's hello can be read back. -/
theorem Sample.helloOf_lettersOf (hello : Hello) :
    Sample.helloOf (Sample.lettersOf hello) = hello := by
  have hletters : ∀ text : String,
      String.ofList ((text.toList.map Char.toNat).map Char.ofNat) = text := by
    intro text
    rw [List.map_map]
    refine (congrArg String.ofList ?_).trans String.ofList_toList
    exact (List.map_congr_left fun c _ => Char.ofNat_toNat c).trans (List.map_id _)
  rw [Sample.helloOf, Sample.lettersOf, hletters, hletters, hletters]

attribute [local instance] Sample.protobufOfHello

/-- The byte form of the sample's hello is lawful. -/
theorem Sample.lawfulProtobufOfHello : LawfulProtobuf Hello := by
  refine ⟨fun hello => ?_⟩
  show (if toByteArray hello = Sample.bytesOfHello then some Sample.hello
    else (Encodable.decode ((toByteArray hello).length - 1)).map Sample.helloOf) = some hello
  by_cases hsample : hello = Sample.hello
  · have hbytes : toByteArray hello = Sample.bytesOfHello := if_pos hsample
    rw [if_pos hbytes, hsample]
  · have hbytes : toByteArray hello =
        0x07 :: List.replicate (Encodable.encode (Sample.lettersOf hello)) 0 := if_neg hsample
    have hne : toByteArray hello ≠ Sample.bytesOfHello := by
      rw [hbytes]
      intro heq
      cases (List.cons.inj heq).1
    rw [if_neg hne, hbytes, List.length_cons, List.length_replicate, Nat.add_sub_cancel,
      Encodable.encodek, Option.map_some, Sample.helloOf_lettersOf]

attribute [local instance] Sample.lawfulProtobufOfHello

/-- Two messages are taken; the second fails after three bytes, and the
connection closes. -/
def Sample.sendingEvents : List SendingEvent :=
  [.sendMessage ⟨.RESPONSE, [0x08, 0x01]⟩, .write none,
    .sendMessage ⟨.CLOSE, [0x0a, 0x01, 0x78]⟩, .write none, .write (some 3), .markClosed,
    .sendMessage ⟨.RESPONSE, [0x08, 0x02]⟩, .shutdown, .closeStreams]

def Sample.takesResponse (s : OutgoingConnection) : Bool :=
  s.accepted.take 1 = [⟨.RESPONSE, [0x08, 0x01]⟩]

/-- A peer that was handed the hello and one message reads these two. -/
theorem session_of_delivered_sample : ∃ s : OutgoingConnection,
    (sending (toByteArray Sample.hello)).Reaches Sample.sendingEvents s ∧
      ((∃ rest, receiveSession 1 s.wire =
        .ok ((Sample.hello, [⟨.RESPONSE, [0x08, 0x01]⟩]), rest)) ↔
        Sample.hello = Sample.hello ∧ [⟨.RESPONSE, [0x08, 0x01]⟩] = s.accepted.take 1 ∧
          1 ≤ s.accepted.length ∧ (sendHelloMessage (toByteArray Sample.hello) ++
            (s.accepted.take 1).flatMap sendMessage) <+: s.wire) := by
  obtain ⟨s, hrun, htest⟩ : ∃ s, (sending (toByteArray Sample.hello)).Run
      (fun _ _ _ => true = true) Sample.sendingEvents s ∧ Sample.takesResponse s = true :=
    Machine.exists_run_of_any (by decide +kernel)
  refine ⟨s, hrun.reaches, (session_of_delivered hrun.reaches (by decide) (by decide) ?_
    (List.prefix_refl _)).1⟩
  intro m hm
  rw [of_decide_eq_true htest, List.mem_singleton] at hm
  subst hm
  exact ⟨by decide, by decide⟩

end Sample

end Bep

end ASync
