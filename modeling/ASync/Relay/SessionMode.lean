import ASync.Relay.Invitations
/-!
# Joining a session

The client asks a relay for a session, goes to where the invitation says,
and shows there the key it was given. What it accepts on the way is what
a relay writes, word for word, and each reader takes its message and no
byte more: what it leaves on the second socket is the other end's stream
from its first byte.
-/

namespace ASync

namespace Relay

open ASync.Core Wire

namespace RelayClient

/-! ## What was read was written -/

section Words

variable {v : ℤ} {buffer stream rest data : Bytes}

theorem getInt_eq_ok (h : getInt buffer = .ok (v, rest)) :
    ∃ n < 4294967296, buffer = writeInt n ++ rest ∧ v = Int.bmod n 4294967296 := by
  unfold getInt at h
  split at h
  · next r hread =>
    cases h
    exact readInt_eq_some hread
  · cases h

theorem getShort_eq_ok (h : getShort buffer = .ok (v, rest)) :
    ∃ n < 65536, buffer = writeShort n ++ rest ∧ v = Int.bmod n 65536 := by
  unfold getShort at h
  split at h
  · next r hread =>
    cases h
    exact readShort_eq_some hread
  · cases h

theorem readStreamInt_eq_ok (h : readStreamInt stream = .ok (v, rest)) :
    ∃ n < 4294967296, stream = writeInt n ++ rest ∧ v = Int.bmod n 4294967296 := by
  unfold readStreamInt at h
  split at h
  · next r hread =>
    cases h
    exact readInt_eq_some hread
  · cases h

theorem getData_eq_ok (h : getData v buffer = .ok (data, rest)) :
    data.length = v.toNat ∧ buffer = data ++ rest := by
  unfold getData at h
  split at h
  · next r hread =>
    cases h
    exact readFully_eq_some hread
  · cases h

/-- A word that is not negative is the number written. -/
theorem eq_of_bmod {n : ℕ} (hlt : n < 4294967296) (hv : v = Int.bmod n 4294967296) (h : 0 ≤ v) :
    v = n ∧ n < 2 ^ 31 := by
  rw [Int.bmod_def] at hv
  split at hv <;> omega

theorem odd_iff_of_bmod {n : ℕ} (hv : v = Int.bmod n 4294967296) : v % 2 = 1 ↔ n % 2 = 1 := by
  have hbit := bmod_flags_emod n
  rw [← hv] at hbit
  clear hv
  omega

theorem signed_writeInt_MAGIC : signed (writeInt MAGIC) = -1636189120 := by decide

/-- The magic number is one word only. -/
theorem eq_magic {n : ℕ} (hlt : n < 4294967296)
    (h : Int.bmod n 4294967296 = signed (writeInt MAGIC)) : n = MAGIC := by
  rw [signed_writeInt_MAGIC, Int.bmod_def] at h
  rw [MAGIC]
  split at h <;> omega

end Words

/-! ## Messages -/

section Messages

variable {buffer stream rest data : Bytes} {messageReader : MessageReader} {code : ℤ}

/-- **A field that is read was written with its length.** -/
theorem readLengthAndData_eq_ok (h : readLengthAndData buffer = .ok (data, rest)) :
    buffer = fieldOf data ++ rest ∧ data.length < 2 ^ 31 := by
  obtain ⟨⟨length, buffer'⟩, hlength, h⟩ := except_bind_eq_ok h
  obtain ⟨hcheck, h⟩ := checkArgument_bind_eq_ok.1 h
  obtain ⟨n, hlt, hbuffer, hvalue⟩ := getInt_eq_ok hlength
  obtain ⟨hword, hn⟩ := eq_of_bmod hlt hvalue (of_decide_eq_true hcheck)
  obtain ⟨hdata, hrest⟩ := getData_eq_ok h
  rw [hword, Int.toNat_natCast] at hdata
  refine ⟨?_, hdata ▸ hn⟩
  rw [hbuffer, hrest, fieldOf, hdata, List.append_assoc]

/-- **A message that is read was written**: its type is the word it was
written with. -/
theorem readMessage_eq_ok (h : readMessage stream = .ok (messageReader, rest)) :
    ∃ type : ℕ, type < 4294967296 ∧ messageReader.type = Int.bmod type 4294967296 ∧
      messageReader.buffer.length < 2 ^ 31 ∧
      stream = messageOf type messageReader.buffer ++ rest := by
  obtain ⟨⟨magic, stream₁⟩, hmagic, h⟩ := except_bind_eq_ok h
  obtain ⟨hcheck, h⟩ := checkArgument_bind_eq_ok.1 h
  obtain ⟨⟨type, stream₂⟩, htype, h⟩ := except_bind_eq_ok h
  obtain ⟨⟨length, stream₃⟩, hlength, h⟩ := except_bind_eq_ok h
  obtain ⟨hnonneg, h⟩ := checkArgument_bind_eq_ok.1 h
  obtain ⟨m, hm, hm', hmvalue⟩ := readStreamInt_eq_ok hmagic
  obtain ⟨t, ht, ht', htvalue⟩ := readStreamInt_eq_ok htype
  obtain ⟨n, hn, hn', hvalue⟩ := readStreamInt_eq_ok hlength
  obtain ⟨hword, hlt⟩ := eq_of_bmod hn hvalue (of_decide_eq_true hnonneg)
  split at h
  · cases h
  · next payload stream₄ hpayload =>
    cases h
    obtain ⟨hdata, hrest⟩ := readFully_eq_some hpayload
    rw [hword, Int.toNat_natCast] at hdata
    have hmagic' : m = MAGIC := eq_magic hm (hmvalue.symm.trans (of_decide_eq_true hcheck))
    refine ⟨t, ht, htvalue, hdata ▸ hlt, ?_⟩
    rw [hm', ht', hn', hrest, messageOf, writeHeader, hdata, hmagic']
    simp only [List.append_assoc]

/-- A response is a code and a message, and whatever follows. -/
theorem readResponse_eq_ok (h : readResponse buffer = .ok (code, data)) :
    ∃ (n : ℕ) (trailing : Bytes), n < 4294967296 ∧ code = Int.bmod n 4294967296 ∧
      data.length < 2 ^ 31 ∧
      buffer = writeInt n ++ (fieldOf data ++ trailing) := by
  obtain ⟨⟨code', buffer₁⟩, hcode, h⟩ := except_bind_eq_ok h
  obtain ⟨⟨length, buffer₂⟩, hlength, h⟩ := except_bind_eq_ok h
  obtain ⟨n, hn, hn', hnvalue⟩ := getInt_eq_ok hcode
  obtain ⟨l, hl, hl', hvalue⟩ := getInt_eq_ok hlength
  dsimp only at h
  split at h
  · cases h
  · next hnonneg =>
    obtain ⟨⟨message, trailing⟩, hmessage, h⟩ := except_bind_eq_ok h
    cases h
    obtain ⟨hword, hlt⟩ := eq_of_bmod hl hvalue (not_lt.1 hnonneg)
    obtain ⟨hdata, hrest⟩ := getData_eq_ok hmessage
    rw [hword, Int.toNat_natCast] at hdata
    refine ⟨n, trailing, hn, hnvalue, hdata ▸ hlt, ?_⟩
    rw [hn', hl', hrest, fieldOf, hdata, List.append_assoc]

end Messages

/-! ## Invitations -/

section Invitations

variable [Guava] {relayAddress a : InetAddress} {hash key address trailing rest stream : Bytes}
variable {port flags : ℕ} {deviceId : String} {sessionInvitation : SessionInvitation}

omit [Guava] in
theorem invitationPayload_append :
    invitationPayload hash key address port flags ++ trailing =
      fieldOf hash ++ (fieldOf key ++ (fieldOf address ++
        (writeShort 0 ++ (writeShort port ++ (writeInt flags ++ trailing))))) := by
  simp only [invitationPayload, List.append_assoc]

/-- What follows the flags in a payload is not looked at. -/
theorem receiveInvitation_append
    (hfrom : KeystoreHandler.hashDataToDeviceIdString hash = .ok deviceId)
    (haddress : addressOf relayAddress address = .ok a) (hpos : 0 < port) (hport : port < 2 ^ 15)
    (hlt : (invitationPayload hash key address port flags ++ trailing).length < 2 ^ 31) :
    receiveInvitation relayAddress (messageOf SESSION_INVITATION
        (invitationPayload hash key address port flags ++ trailing) ++ rest) =
      SessionInvitation.new deviceId (base16Encode key) a port (flags % 2 = 1) := by
  have hlengths : hash.length < 2 ^ 31 ∧ key.length < 2 ^ 31 ∧ address.length < 2 ^ 31 := by
    simp only [invitationPayload, fieldOf, List.length_append] at hlt
    omega
  have htype : checkArgument (decide (((SESSION_INVITATION : ℕ) : ℤ) = SESSION_INVITATION))
      (typeMismatch SESSION_INVITATION) = .ok () :=
    checkArgument_eq_ok.2 (decide_eq_true rfl)
  have hzero (text : String) : checkArgument (decide ((0 : ℤ) = 0)) text = .ok () :=
    checkArgument_eq_ok.2 (decide_eq_true rfl)
  have hcheck (text : String) : checkArgument (decide (0 < (port : ℤ))) text = .ok () :=
    checkArgument_eq_ok.2 (decide_eq_true (by omega))
  have hflags := getInt_writeInt flags trailing
  have hshort := getShort_writeShort port (writeInt flags ++ trailing)
  have hbit := bmod_flags_emod flags
  rw [bmod_port_eq hport] at hshort
  generalize Int.bmod flags 4294967296 = flagsWord at hflags hbit
  have hodd : decide (flagsWord % 2 = 1) = decide (flags % 2 = 1) :=
    decide_eq_decide.2 (by omega)
  rw [receiveInvitation, readMessage_messageOf (by decide) hlt, except_ok_bind]
  dsimp only
  rw [dumpMessageForDebug_invitation, except_ok_bind, htype, except_ok_bind,
    invitationPayload_append, readLengthAndData_fieldOf hlengths.1, except_ok_bind]
  dsimp only
  rw [hfrom, except_ok_bind, readLengthAndData_fieldOf hlengths.2.1, except_ok_bind]
  dsimp only
  rw [readLengthAndData_fieldOf hlengths.2.2, except_ok_bind]
  dsimp only
  rw [haddress, except_ok_bind, getShort_zero, except_ok_bind]
  dsimp only
  rw [hzero, except_ok_bind, hshort, except_ok_bind]
  dsimp only
  rw [hcheck, except_ok_bind, hflags, except_ok_bind, hodd]

/-- The fields a stream invites with, under what the reader checks of them. -/
structure Invites (relayAddress : InetAddress) (stream hash key : Bytes) (a : InetAddress)
    (port : ℕ) (isServerSocket : Bool) : Prop where
  hash_length : hash.length = 32
  key_ne : base16Encode key ≠ ""
  port_pos : 0 < port
  port_lt : port < 2 ^ 15
  exists_stream : ∃ (address trailing rest : Bytes) (flags : ℕ),
    addressOf relayAddress address = .ok a ∧ isServerSocket = decide (flags % 2 = 1) ∧
    (invitationPayload hash key address port flags ++ trailing).length < 2 ^ 31 ∧
    stream = messageOf SESSION_INVITATION
      (invitationPayload hash key address port flags ++ trailing) ++ rest

omit [Guava] in
theorem SessionInvitation.new_eq_ok {key : String} {port : ℤ} {isServerSocket : Bool}
    (h : SessionInvitation.new deviceId key a port isServerSocket = .ok sessionInvitation) :
    key ≠ "" ∧ sessionInvitation.key = key ∧ sessionInvitation.address = a ∧
      sessionInvitation.port = port ∧ sessionInvitation.isServerSocket = isServerSocket := by
  unfold SessionInvitation.new at h
  split at h
  · cases h
  · split at h
    · cases h
    · next hkey =>
      cases h
      exact ⟨hkey, rfl, rfl, rfl, rfl⟩

/-- **An invitation that is received was sent**, with these fields. -/
theorem receiveInvitation_eq_ok
    (h : receiveInvitation relayAddress stream = .ok sessionInvitation) :
    ∃ hash key port, Invites relayAddress stream hash key sessionInvitation.address port
      sessionInvitation.isServerSocket ∧ sessionInvitation.key = base16Encode key ∧
      sessionInvitation.port = port := by
  obtain ⟨⟨messageReader, rest⟩, hmessage, h⟩ := except_bind_eq_ok h
  obtain ⟨_, _, h⟩ := except_bind_eq_ok h
  obtain ⟨htype, h⟩ := checkArgument_bind_eq_ok.1 h
  obtain ⟨⟨hash, buffer₁⟩, hhash, h⟩ := except_bind_eq_ok h
  obtain ⟨deviceId, hfrom, h⟩ := except_bind_eq_ok h
  obtain ⟨⟨key, buffer₂⟩, hkey, h⟩ := except_bind_eq_ok h
  obtain ⟨⟨address, buffer₃⟩, haddress, h⟩ := except_bind_eq_ok h
  obtain ⟨a, ha, h⟩ := except_bind_eq_ok h
  obtain ⟨⟨zero, buffer₄⟩, hzero, h⟩ := except_bind_eq_ok h
  obtain ⟨hzerocheck, h⟩ := checkArgument_bind_eq_ok.1 h
  obtain ⟨⟨port, buffer₅⟩, hport, h⟩ := except_bind_eq_ok h
  obtain ⟨hportcheck, h⟩ := checkArgument_bind_eq_ok.1 h
  obtain ⟨⟨flags, trailing⟩, hflags, h⟩ := except_bind_eq_ok h
  obtain ⟨hne, hkey', ha', hport', hserver⟩ := SessionInvitation.new_eq_ok h
  obtain ⟨type, hlt, htype', hlength, hstream⟩ := readMessage_eq_ok hmessage
  obtain ⟨hbuffer₀, -⟩ := readLengthAndData_eq_ok hhash
  obtain ⟨hbuffer₁, -⟩ := readLengthAndData_eq_ok hkey
  obtain ⟨hbuffer₂, -⟩ := readLengthAndData_eq_ok haddress
  obtain ⟨z, hz, hbuffer₃, hzvalue⟩ := getShort_eq_ok hzero
  obtain ⟨p, hp, hbuffer₄, hpvalue⟩ := getShort_eq_ok hport
  obtain ⟨f, hf, hbuffer₅, hfvalue⟩ := getInt_eq_ok hflags
  -- the words that were checked
  have hz0 : z = 0 := by
    have hvalue : zero = 0 := of_decide_eq_true hzerocheck
    rw [hzvalue, Int.bmod_def] at hvalue
    split at hvalue <;> omega
  have hp' : port = p ∧ p < 2 ^ 15 ∧ 0 < p := by
    have hpos : 0 < port := of_decide_eq_true hportcheck
    rw [Int.bmod_def] at hpvalue
    split at hpvalue <;> omega
  have ht : type = SESSION_INVITATION := by
    have heq : messageReader.type = SESSION_INVITATION := of_decide_eq_true htype
    have hnonneg : (0 : ℤ) ≤ messageReader.type := heq ▸ Int.natCast_nonneg _
    have hword := eq_of_bmod hlt htype' hnonneg
    rw [heq] at hword
    exact_mod_cast hword.1.symm
  have hpayload : messageReader.buffer =
      invitationPayload hash key address p f ++ trailing := by
    rw [hbuffer₀, hbuffer₁, hbuffer₂, hbuffer₃, hbuffer₄, hbuffer₅, hz0, invitationPayload_append]
  obtain ⟨hhash32, -⟩ := checkArgument_bind_eq_ok.1 hfrom
  refine ⟨hash, key, p, ⟨of_decide_eq_true hhash32, hne, hp'.2.2, hp'.2.1,
    address, trailing, rest, f, ha' ▸ ha, ?_, hpayload ▸ hlength, ?_⟩, hkey', hport'.trans hp'.1⟩
  · rw [hserver]
    exact decide_eq_decide.2 (odd_iff_of_bmod hfvalue)
  · rw [hstream, ht, hpayload]

/-- **What a stream invites with is what is received.** -/
theorem Invites.receiveInvitation [LawfulBase32] {isServerSocket : Bool}
    (h : Invites relayAddress stream hash key a port isServerSocket) :
    ∃ sessionInvitation, receiveInvitation relayAddress stream = .ok sessionInvitation ∧
      sessionInvitation.key = base16Encode key ∧ sessionInvitation.address = a ∧
      sessionInvitation.port = port ∧ sessionInvitation.isServerSocket = isServerSocket := by
  obtain ⟨address, trailing, rest, flags, haddress, rfl, hlt, rfl⟩ := h.exists_stream
  obtain ⟨deviceId, hfrom, hdecode, _⟩ := KeystoreHandler.exists_deviceId h.hash_length
  have hne : deviceId ≠ "" := by
    rintro rfl
    have hempty : KeystoreHandler.deviceIdStringToHashData "" =
        .error (.illegalArgument ("device id syntax error for deviceId = " ++ "")) := rfl
    rw [hempty] at hdecode
    cases hdecode
  rw [receiveInvitation_append hfrom haddress h.port_pos h.port_lt hlt, SessionInvitation.new,
    dif_neg hne, dif_neg h.key_ne]
  exact ⟨_, rfl, rfl, rfl, rfl, rfl⟩

end Invitations

/-! ## The session -/

section Session

variable {newString : Bytes → String} {stream rest data : Bytes}

/-- The stream begins with a response of success; `rest` follows it. -/
def Responds (stream rest : Bytes) : Prop :=
  ∃ message trailing, (writeInt 0 ++ (fieldOf message ++ trailing)).length < 2 ^ 31 ∧
    stream = messageOf RESPONSE.toNat (writeInt 0 ++ (fieldOf message ++ trailing)) ++ rest

/-- A request is a message with one field. -/
theorem requestOf_eq (type : ℕ) : requestOf type data = messageOf type (fieldOf data) := by
  rw [requestOf, messageOf, fieldOf, List.length_append, length_writeInt, List.append_assoc]

theorem readResponse_append {n : ℕ} {message trailing : Bytes} (h : message.length < 2 ^ 31)
    (hn : n < 2 ^ 31) :
    readResponse (writeInt n ++ (fieldOf message ++ trailing)) = .ok ((n : ℤ), message) := by
  have hword (m : ℕ) (hm : m < 2 ^ 31) : Int.bmod m 4294967296 = m := by
    refine Int.bmod_eq_of_le_mul_two ?_ ?_ <;> push_cast <;> omega
  have hcode := getInt_writeInt n (fieldOf message ++ trailing)
  have hlength := getInt_writeInt message.length (message ++ trailing)
  rw [hword n hn] at hcode
  rw [hword _ h, ← List.append_assoc] at hlength
  have hnonneg : ¬ (message.length : ℤ) < 0 := by omega
  rw [readResponse, hcode, except_ok_bind]
  dsimp only
  rw [fieldOf, hlength, except_ok_bind]
  dsimp only
  rw [if_neg hnonneg, getData, Int.toNat_natCast, readFully_append]
  rfl

/-- **A connection is accepted by one response only, and nothing that
follows it is read.** -/
theorem receiveResponse_eq_ok_iff :
    receiveResponse newString stream = .ok rest ↔ Responds stream rest := by
  constructor
  · intro h
    obtain ⟨⟨messageReader, rest'⟩, hmessage, h⟩ := except_bind_eq_ok h
    obtain ⟨htype, h⟩ := checkArgument_bind_eq_ok.1 h
    obtain ⟨⟨code, message⟩, hresponse, h⟩ := except_bind_eq_ok h
    obtain ⟨hcode, h⟩ := checkArgument_bind_eq_ok.1 h
    cases h
    obtain ⟨type, hlt, htype', hlength, hstream⟩ := readMessage_eq_ok hmessage
    obtain ⟨n, trailing, hn, hnvalue, hmessagelt, hbuffer⟩ := readResponse_eq_ok hresponse
    have ht : messageReader.type = RESPONSE := of_decide_eq_true htype
    have hc : code = 0 := of_decide_eq_true hcode
    have hfour := eq_of_bmod hlt htype' (by rw [ht, RESPONSE]; decide)
    have hzero := eq_of_bmod hn hnvalue hc.ge
    have htype4 : type = RESPONSE.toNat := by
      rw [ht] at hfour
      rw [hfour.1, Int.toNat_natCast]
    have hn0 : n = 0 := by omega
    subst hn0 htype4
    exact ⟨message, trailing, hbuffer ▸ hlength, by rw [hstream, hbuffer]⟩
  · rintro ⟨message, trailing, hlt, rfl⟩
    have hmessage : message.length < 2 ^ 31 := by
      simp only [fieldOf, List.length_append] at hlt
      omega
    have hfour : ((RESPONSE.toNat : ℕ) : ℤ) = RESPONSE := rfl
    have htype : checkArgument (decide (((RESPONSE.toNat : ℕ) : ℤ) = RESPONSE)) "" = .ok () :=
      checkArgument_eq_ok.2 (decide_eq_true hfour)
    have hcode (text : String) :
        checkArgument (decide (((0 : ℕ) : ℤ) = RESPONSE_SUCCESS_CODE)) text = .ok () :=
      checkArgument_eq_ok.2 (decide_eq_true rfl)
    rw [receiveResponse, readMessage_messageOf (by decide) hlt, except_ok_bind]
    dsimp only
    rw [htype, except_ok_bind, readResponse_append hmessage (by decide), except_ok_bind]
    dsimp only
    rw [hcode, except_ok_bind]
    rfl

variable [Guava] [LawfulBase16] [LawfulBase32] {sockets : Sockets} {address : DeviceAddress}
variable {request : Bytes} {relayConnection : RelayConnection}

/-- **A connection through a relay is made exactly when the relay invites
and the session's end responds**, each by a message that is well formed to
its last word. The relay was asked for the device of the address; where the
invitation says, the key it gave is shown, byte for byte; and what is left
to read is all that follows the response. -/
theorem openRelayConnection_eq_ok_iff :
    openRelayConnection newString sockets address = .ok (request, relayConnection) ↔
      DeviceAddress.getType address.address = .RELAY ∧
      ∃ idData relayAddress relayPort stream hash key a port stream',
        KeystoreHandler.deviceIdStringToHashData address.deviceId = .ok idData ∧
        DeviceAddress.getSocketAddress sockets.getByName address.address =
          .ok (relayAddress, relayPort) ∧
        sockets.createSocket relayAddress relayPort = .ok stream ∧
        request = messageOf CONNECT_REQUEST (fieldOf idData) ∧
        Invites relayAddress stream hash key a port relayConnection.isServerSocket ∧
        sockets.newSocket a port = .ok stream' ∧
        relayConnection.written = messageOf JOIN_SESSION_REQUEST (fieldOf key) ∧
        Responds stream' relayConnection.incoming := by
  constructor
  · intro h
    -- each step of the opening inverted in turn
    obtain ⟨htype, h⟩ := checkArgument_bind_eq_ok.1 h
    obtain ⟨⟨relayAddress, relayPort⟩, hsocket, h⟩ := except_bind_eq_ok h
    obtain ⟨stream, hcreate, h⟩ := except_bind_eq_ok h
    obtain ⟨⟨request', sessionInvitation⟩, hinvited, h⟩ := except_bind_eq_ok h
    obtain ⟨connection, hopen, h⟩ := except_bind_eq_ok h
    cases h
    obtain ⟨idData, hid, hinvited⟩ := except_bind_eq_ok hinvited
    obtain ⟨invitation, hreceive, hinvited⟩ := except_bind_eq_ok hinvited
    cases hinvited
    obtain ⟨stream', hnew, hopen⟩ := except_bind_eq_ok hopen
    obtain ⟨written, hwritten, hopen⟩ := except_bind_eq_ok hopen
    obtain ⟨incoming, hresponse, hopen⟩ := except_bind_eq_ok hopen
    cases hopen
    -- the key travels as text and comes back as the same bytes
    obtain ⟨hash, key, port, hinvites, hkey, hport⟩ := receiveInvitation_eq_ok hreceive
    rw [joinSessionRequest, hkey, LawfulBase16.base16Decode_base16Encode] at hwritten
    cases hwritten
    exact ⟨of_decide_eq_true htype, idData, relayAddress, relayPort, stream, hash, key,
      sessionInvitation.address, port, stream', hid, hsocket, hcreate, requestOf_eq _, hinvites,
      hport ▸ hnew, requestOf_eq _, receiveResponse_eq_ok_iff.1 hresponse⟩
  · rintro ⟨htype, idData, relayAddress, relayPort, stream, hash, key, a, port, stream', hid,
      hsocket, hcreate, rfl, hinvites, hnew, hwritten, hresponds⟩
    obtain ⟨sessionInvitation, hreceive, hkey, ha, hport, hserver⟩ := hinvites.receiveInvitation
    -- and put together again from the bytes that were read
    have hcheck : checkArgument
        (decide (DeviceAddress.getType address.address = .RELAY)) "" = .ok () :=
      checkArgument_eq_ok.2 (decide_eq_true htype)
    have hjoin : joinSessionRequest sessionInvitation =
        .ok (requestOf JOIN_SESSION_REQUEST key) := by
      rw [joinSessionRequest, hkey, LawfulBase16.base16Decode_base16Encode]
    have hsession : getSessionInvitation relayAddress address.deviceId stream =
        .ok (requestOf CONNECT_REQUEST idData, sessionInvitation) := by
      rw [getSessionInvitation, hid, except_ok_bind, hreceive]
      rfl
    have hopen : openConnectionSessionMode newString sockets sessionInvitation =
        .ok relayConnection := by
      obtain ⟨isServerSocket, written, incoming⟩ := relayConnection
      dsimp only at hserver hwritten hresponds
      rw [openConnectionSessionMode, ha, hport, hnew, except_ok_bind, hjoin, except_ok_bind,
        receiveResponse_eq_ok_iff.2 hresponds, except_ok_bind, hserver, hwritten, requestOf_eq]
      rfl
    rw [openRelayConnection, hcheck, except_ok_bind, hsocket, except_ok_bind]
    dsimp only
    rw [hcreate, except_ok_bind, hsession, except_ok_bind]
    dsimp only
    rw [hopen, except_ok_bind, requestOf_eq]
    rfl

end Session

end RelayClient

section Sample

open RelayClient

attribute [local instance] Sample.guavaOfBase32 Sample.lawfulBase32 lawfulBase16

/-- A relay at `10.0.0.1` that invites to itself, where the other end has
said three bytes already. -/
def sampleSockets : Sockets where
  getByName name := if name = "10.0.0.1" then some sampleRelay else none
  createSocket a port :=
    if a = sampleRelay ∧ port = 22067 then .ok (sampleInvitation 22067) else .error .eof
  newSocket a port :=
    if a = sampleRelay ∧ port = 22067 then
      .ok (messageOf RESPONSE.toNat (writeInt 0 ++ (fieldOf [0x6f, 0x6b] ++ [])) ++ [1, 2, 3])
    else .error .eof

def sampleRelayAddress : DeviceAddress := { deviceId := zeroText, address := "relay://10.0.0.1" }

theorem base16Encode_one_ne : base16Encode [1] ≠ "" := by decide

theorem invites_sample :
    Invites sampleRelay (sampleInvitation 22067) Sample.zeroHash [1] sampleRelay 22067 true := by
  refine ⟨rfl, base16Encode_one_ne, by decide, by decide, [0, 0, 0, 0], [], [], 1, rfl, rfl,
    by decide, ?_⟩
  rw [List.append_nil, List.append_nil]
  rfl

/-- The client joins with the key it was given, and leaves the three bytes. -/
theorem openRelayConnection_eq_ok_iff_sample :
    openRelayConnection (fun _ => "") sampleSockets sampleRelayAddress =
      .ok (messageOf CONNECT_REQUEST (fieldOf Sample.zeroHash),
        ⟨true, messageOf JOIN_SESSION_REQUEST (fieldOf [1]), [1, 2, 3]⟩) := by
  have hsocket : DeviceAddress.getSocketAddress sampleSockets.getByName "relay://10.0.0.1" =
      .ok (sampleRelay, 22067) := by decide +kernel
  have hcreate : sampleSockets.createSocket sampleRelay 22067 = .ok (sampleInvitation 22067) := rfl
  have hnew : sampleSockets.newSocket sampleRelay 22067 = .ok (messageOf RESPONSE.toNat
      (writeInt 0 ++ (fieldOf [0x6f, 0x6b] ++ [])) ++ [1, 2, 3]) := rfl
  exact openRelayConnection_eq_ok_iff.2 ⟨by decide +kernel, Sample.zeroHash, sampleRelay, 22067,
    _, Sample.zeroHash, [1], sampleRelay, 22067, _, deviceIdStringToHashData_zeroText, hsocket,
    hcreate, rfl, invites_sample, hnew, rfl, [0x6f, 0x6b], [], by decide, rfl⟩

end Sample

end Relay

end ASync
