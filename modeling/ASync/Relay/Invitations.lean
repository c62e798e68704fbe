import Mathlib
import ASync.Core.DeviceIds
import ASync.Core.Helpers.Beans
import ASync.Relay.Model.RelayClient
/-!
# Session invitations

A relay's invitation is read field by field: three fields with their
length in front, a zero, the port and the flags. Each read takes what was
written and leaves the rest, so a message decodes to its fields — as far
as a signed word gives back what was written. The port is a signed word
of sixteen bits, and the upper half of the ports reads as negative.
-/

namespace ASync

namespace Relay

open ASync.Core Wire

namespace RelayClient

/-! ## Words -/

section Words

variable {v : ℕ} {data rest : Bytes}

/-- An int takes four bytes. -/
theorem length_writeInt (v : ℕ) : (writeInt v).length = 4 := length_toBytes 4 v

/-- A short takes two bytes. -/
theorem length_writeShort (v : ℕ) : (writeShort v).length = 2 := length_toBytes 2 v

/-- An int is read back with its sign. -/
theorem getInt_writeInt (v : ℕ) (rest : Bytes) :
    getInt (writeInt v ++ rest) = .ok (Int.bmod v 4294967296, rest) := by
  rw [getInt, readInt_append (length_writeInt v), writeInt, signed_toBytes_eq]
  rfl

/-- A short is read back with its sign. -/
theorem getShort_writeShort (v : ℕ) (rest : Bytes) :
    getShort (writeShort v ++ rest) = .ok (Int.bmod v 65536, rest) := by
  rw [getShort, readShort_append (length_writeShort v), writeShort, signed_toBytes_eq]
  rfl

/-- An int of the stream is read with its sign. -/
theorem readStreamInt_writeInt (v : ℕ) (rest : Bytes) :
    readStreamInt (writeInt v ++ rest) = .ok (signed (writeInt v), rest) := by
  rw [readStreamInt, readInt_append (length_writeInt v)]

/-- One below 2³¹ is read as it is. -/
theorem readStreamInt_of_lt (h : v < 2 ^ 31) (rest : Bytes) :
    readStreamInt (writeInt v ++ rest) = .ok ((v : ℤ), rest) := by
  rw [readStreamInt_writeInt, writeInt, signed_toBytes (by omega)]

/-- Padding is read as zero. -/
theorem getShort_zero (rest : Bytes) : getShort (writeShort 0 ++ rest) = .ok (0, rest) := by
  rw [getShort_writeShort, Nat.cast_zero, Int.zero_bmod]

/-- The lower half of the ports is what the signed word says. -/
theorem bmod_port_pos_iff {port : ℕ} (hpos : 0 < port) (hlt : port < 2 ^ 16) :
    0 < Int.bmod port 65536 ↔ port < 2 ^ 15 := by
  rw [Int.bmod_def]
  split
  · omega
  · omega

/-- A port below 2¹⁵ keeps its sign. -/
theorem bmod_port_eq {port : ℕ} (h : port < 2 ^ 15) : Int.bmod port 65536 = port := by
  refine Int.bmod_eq_of_le_mul_two ?_ ?_ <;> push_cast <;> omega

/-- The sign leaves the lowest flag. -/
theorem bmod_flags_emod (flags : ℕ) : Int.bmod flags 4294967296 % 2 = (flags % 2 : ℕ) := by
  rw [Int.bmod_def]
  split
  · omega
  · omega

end Words

/-! ## Fields -/

/-- A field with its length in front. -/
def fieldOf (data : Bytes) : Bytes := writeInt data.length ++ data

/-- A message of a type. -/
def messageOf (type : ℕ) (payload : Bytes) : Bytes := writeHeader type payload.length ++ payload

/-- The payload of an invitation. -/
def invitationPayload (hash key address : Bytes) (port flags : ℕ) : Bytes :=
  fieldOf hash ++ (fieldOf key ++ (fieldOf address ++
    (writeShort 0 ++ (writeShort port ++ writeInt flags))))

section Fields

variable {data rest payload : Bytes} {type : ℕ}

/-- **A field is read back**, up to where it ends. -/
theorem readLengthAndData_fieldOf (h : data.length < 2 ^ 31) (rest : Bytes) :
    readLengthAndData (fieldOf data ++ rest) = .ok (data, rest) := by
  have hlength : Int.bmod data.length 4294967296 = data.length := by
    refine Int.bmod_eq_of_le_mul_two ?_ ?_ <;> push_cast <;> omega
  have hcheck : checkArgument (decide (0 ≤ (data.length : ℤ))) "" = .ok () :=
    checkArgument_eq_ok.2 (decide_eq_true (Int.natCast_nonneg _))
  rw [readLengthAndData, fieldOf, List.append_assoc, getInt_writeInt, hlength, except_ok_bind]
  simp only [hcheck, except_ok_bind]
  rw [getData, Int.toNat_natCast, readFully_append]

/-- **A message is read back.** -/
theorem readMessage_messageOf (htype : type < 2 ^ 31) (h : payload.length < 2 ^ 31) (rest : Bytes) :
    readMessage (messageOf type payload ++ rest) = .ok (⟨type, payload⟩, rest) := by
  have hcheck : checkArgument (decide (0 ≤ (payload.length : ℤ))) "" = .ok () :=
    checkArgument_eq_ok.2 (decide_eq_true (Int.natCast_nonneg _))
  have hstream : messageOf type payload ++ rest =
      writeInt MAGIC ++ (writeInt type ++ (writeInt payload.length ++ (payload ++ rest))) := by
    simp only [messageOf, writeHeader, List.append_assoc]
  rw [hstream, readMessage, readStreamInt_writeInt, except_ok_bind]
  generalize signed (writeInt MAGIC) = magic
  have hmagic : checkArgument (decide (magic = magic)) (magicMismatch magic) = .ok () :=
    checkArgument_eq_ok.2 (decide_eq_true rfl)
  dsimp only
  rw [hmagic, except_ok_bind, readStreamInt_of_lt htype, except_ok_bind]
  dsimp only
  rw [readStreamInt_of_lt h, except_ok_bind]
  dsimp only
  rw [hcheck, except_ok_bind, Int.toNat_natCast, readFully_append]
  rfl

end Fields

/-- A message that is no response is printed without being read. -/
theorem dumpMessageForDebug_invitation (payload : Bytes) :
    dumpMessageForDebug ⟨SESSION_INVITATION, payload⟩ = .ok () := by
  have hne : ((SESSION_INVITATION : ℕ) : ℤ) ≠ RESPONSE := by decide
  rw [dumpMessageForDebug, if_neg hne]
  rfl

/-! ## Invitations -/

section Invitations

variable [Guava] {relayAddress : InetAddress} {hash key address rest : Bytes} {port flags : ℕ}

omit [Guava] in
/-- An address of no, four or sixteen bytes is one. -/
theorem exists_addressOf (relayAddress : InetAddress)
    (haddress : address.length = 0 ∨ address.length = 4 ∨ address.length = 16) :
    ∃ a, addressOf relayAddress address = .ok a ∧ (address = [] → a = relayAddress) ∧
      ∀ given, InetAddress.getByAddress address = .ok given →
        a = if given = InetAddress.any then relayAddress else given := by
  by_cases hzero : address.length = 0
  · refine ⟨relayAddress, by rw [addressOf, if_pos hzero], fun _ => rfl, fun given hgiven => ?_⟩
    rw [List.length_eq_zero_iff.1 hzero] at hgiven
    cases hgiven
  have hsome : ∃ given, InetAddress.getByAddress address = .ok given := by
    unfold InetAddress.getByAddress
    rcases haddress with h | h | h
    · exact absurd h hzero
    · exact ⟨_, if_pos h⟩
    · rw [if_neg (by omega), if_pos h]
      split
      · exact ⟨_, rfl⟩
      · exact ⟨_, rfl⟩
  obtain ⟨given, hgiven⟩ := hsome
  refine ⟨if given = InetAddress.any then relayAddress else given, ?_, fun hnil => ?_,
    fun given' hgiven' => ?_⟩
  · rw [addressOf, if_neg hzero, hgiven, except_ok_bind]
    split
    · rfl
    · rfl
  · exact absurd (congrArg List.length hnil) hzero
  · rw [hgiven] at hgiven'
    cases hgiven'
    rfl

/-- **What is left to check** once the fields were read: the port. -/
theorem receiveInvitation_eq (rest : Bytes) {a : InetAddress} {deviceId : String}
    (hfrom : KeystoreHandler.hashDataToDeviceIdString hash = .ok deviceId)
    (haddress : addressOf relayAddress address = .ok a)
    (hlt : (invitationPayload hash key address port flags).length < 2 ^ 31) :
    receiveInvitation relayAddress
        (messageOf SESSION_INVITATION (invitationPayload hash key address port flags) ++ rest) =
      (do
        checkArgument (0 < Int.bmod port 65536) (invalidPort (Int.bmod port 65536))
        SessionInvitation.new deviceId (base16Encode key) a (Int.bmod port 65536)
          (flags % 2 = 1)) := by
  have hlengths : hash.length < 2 ^ 31 ∧ key.length < 2 ^ 31 ∧ address.length < 2 ^ 31 := by
    simp only [invitationPayload, fieldOf, List.length_append] at hlt
    omega
  have htype : checkArgument (decide (((SESSION_INVITATION : ℕ) : ℤ) = SESSION_INVITATION))
      (typeMismatch SESSION_INVITATION) = .ok () :=
    checkArgument_eq_ok.2 (decide_eq_true rfl)
  have hzero (buffer : Bytes) (text : String) :
      checkArgument (decide (((0 : ℤ), buffer).1 = 0)) text = .ok () :=
    checkArgument_eq_ok.2 (decide_eq_true rfl)
  have hflags := getInt_writeInt flags []
  have hport := getShort_writeShort port (writeInt flags)
  have hbit := bmod_flags_emod flags
  rw [List.append_nil] at hflags
  generalize Int.bmod port 65536 = word at hport ⊢
  generalize Int.bmod flags 4294967296 = flagsWord at hflags hbit
  rw [receiveInvitation, readMessage_messageOf (by decide) hlt, except_ok_bind]
  dsimp only
  rw [dumpMessageForDebug_invitation, except_ok_bind, htype, except_ok_bind, invitationPayload,
    readLengthAndData_fieldOf hlengths.1, except_ok_bind]
  dsimp only
  rw [hfrom, except_ok_bind, readLengthAndData_fieldOf hlengths.2.1, except_ok_bind]
  dsimp only
  rw [readLengthAndData_fieldOf hlengths.2.2, except_ok_bind]
  dsimp only
  rw [haddress, except_ok_bind, getShort_zero, except_ok_bind, hzero, except_ok_bind, hport,
    except_ok_bind]
  have hodd : decide (flagsWord % 2 = 1) = decide (flags % 2 = 1) :=
    decide_eq_decide.2 (by rw [hbit]; omega)
  refine congrArg _ (funext fun _ => ?_)
  rw [hflags, except_ok_bind, hodd]

/-- **An invitation is decoded to its fields exactly when its port is in
the lower half of the ports.** -/
theorem getSessionInvitation_iff [LawfulBase16] [LawfulBase32] (relayAddress : InetAddress)
    (rest : Bytes) {deviceId : String} {idData : Bytes}
    (hid : KeystoreHandler.deviceIdStringToHashData deviceId = .ok idData)
    (hencode : ∀ bytes, base16Encode bytes = "" → bytes = []) (hhash : hash.length = 32)
    (hkey : key ≠ [])
    (haddress : address.length = 0 ∨ address.length = 4 ∨ address.length = 16)
    (hpos : 0 < port) (hport : port < 2 ^ 16)
    (hlt : (invitationPayload hash key address port flags).length < 2 ^ 31) :
    (∃ invitation, getSessionInvitation relayAddress deviceId
        (messageOf SESSION_INVITATION (invitationPayload hash key address port flags) ++ rest) =
          .ok (requestOf CONNECT_REQUEST idData, invitation) ∧
      KeystoreHandler.hashDataToDeviceIdString hash = .ok invitation.from ∧
      invitation.key = base16Encode key ∧
      joinSessionRequest invitation = .ok (requestOf JOIN_SESSION_REQUEST key) ∧
      invitation.port = port ∧ (invitation.isServerSocket = true ↔ flags % 2 = 1) ∧
      (address = [] → invitation.address = relayAddress) ∧
      ∀ given, InetAddress.getByAddress address = .ok given →
        invitation.address = if given = InetAddress.any then relayAddress else given) ↔
    port < 2 ^ 15 := by
  obtain ⟨s, hfrom, hdecode, _⟩ := KeystoreHandler.exists_deviceId hhash
  obtain ⟨a, ha, hempty, hgiven⟩ := exists_addressOf relayAddress haddress
  have hreceive := receiveInvitation_eq rest hfrom ha hlt
  constructor
  · rintro ⟨invitation, hok, -⟩
    obtain ⟨_, hid', hok⟩ := except_bind_eq_ok hok
    obtain ⟨_, hinv, -⟩ := except_bind_eq_ok hok
    rw [hreceive] at hinv
    obtain ⟨hcheck, -⟩ := checkArgument_bind_eq_ok.1 hinv
    exact (bmod_port_pos_iff hpos hport).1 (of_decide_eq_true hcheck)
  · intro hlow
    have hs : s ≠ "" := by
      rintro rfl
      have hchars : KeystoreHandler.deviceIdStringToHashData "" =
          .error (.illegalArgument ("device id syntax error for deviceId = " ++ "")) := rfl
      rw [hchars] at hdecode
      cases hdecode
    have hk : base16Encode key ≠ "" := fun h => hkey (hencode key h)
    have hcheck : ∀ text, checkArgument (decide (0 < Int.bmod port 65536)) text = .ok () :=
      fun _ => checkArgument_eq_ok.2 (decide_eq_true ((bmod_port_pos_iff hpos hport).2 hlow))
    refine ⟨⟨s, base16Encode key, a, port, decide (flags % 2 = 1), hs, hk⟩, ?_, hfrom, rfl, ?_, rfl,
      decide_eq_true_iff, hempty, hgiven⟩
    · rw [getSessionInvitation, hid, except_ok_bind, hreceive, hcheck, except_ok_bind,
        bmod_port_eq hlow, SessionInvitation.new, dif_neg hs, dif_neg hk]
      rfl
    · rw [joinSessionRequest, LawfulBase16.base16Decode_base16Encode]

end Invitations

end RelayClient

section Sample

attribute [local instance] Sample.guavaOfBase32 Sample.lawfulBase32

/-- The sample's base16 can be decoded. -/
theorem lawfulBase16 : LawfulBase16 := ⟨Sample.hexBytes_hexEncode⟩

attribute [local instance] lawfulBase16

/-- Only no bytes are an empty text. -/
theorem eq_nil_of_hexEncode {bytes : Bytes} (h : base16Encode bytes = "") : bytes = [] := by
  cases bytes with
  | nil => rfl
  | cons b bytes =>
    have hchars := congrArg String.toList h
    change (Sample.hexEncode (b :: bytes)).toList = [] at hchars
    rw [Sample.hexEncode, String.toList_ofList, List.flatMap_cons] at hchars
    cases hchars

/-- The text of the hash of zeros. -/
def zeroText : String := "AAAAAAA-AAAAAAA-AAAAAAA-AAAAAAA-AAAAAAA-AAAAAAA-AAAAAAA-AAAAAAA"

/-- The sample's device id is that of a hash of zeros. -/
theorem deviceIdStringToHashData_zeroText :
    KeystoreHandler.deviceIdStringToHashData zeroText = .ok Sample.zeroHash := by
  decide +kernel

/-- The relay at `10.0.0.1`. -/
def sampleRelay : InetAddress := .inet4 [10, 0, 0, 1]

/-- An invitation to a port, at the relay's own address. -/
def sampleInvitation (port : ℕ) : Bytes :=
  RelayClient.messageOf RelayClient.SESSION_INVITATION
    (RelayClient.invitationPayload Sample.zeroHash [1] [0, 0, 0, 0] port 1)

/-- The invitation to the default port of a relay. -/
theorem getSessionInvitation_iff_sample :
    ∃ invitation, RelayClient.getSessionInvitation sampleRelay zeroText (sampleInvitation 22067) =
        .ok (RelayClient.requestOf RelayClient.CONNECT_REQUEST Sample.zeroHash, invitation) ∧
      invitation.port = 22067 ∧ invitation.address = sampleRelay := by
  have hany : InetAddress.getByAddress [0, 0, 0, 0] = .ok InetAddress.any := rfl
  obtain ⟨invitation, hok, _, _, _, hport, _, _, haddress⟩ :=
    (RelayClient.getSessionInvitation_iff sampleRelay [] deviceIdStringToHashData_zeroText
      (fun _ => eq_nil_of_hexEncode) (show Sample.zeroHash.length = 32 from rfl)
      (by decide) (by decide) (by decide) (by decide)
      (show (RelayClient.invitationPayload Sample.zeroHash [1] [0, 0, 0, 0] 22067 1).length < 2 ^ 31
        by decide)).2 (by decide)
  rw [List.append_nil] at hok
  exact ⟨invitation, hok, hport, haddress _ hany⟩

/-- **An invitation to a port of the upper half is refused.** -/
theorem upper_port_refused : ¬ ∃ answer,
    RelayClient.getSessionInvitation sampleRelay zeroText (sampleInvitation 40000) =
      .ok answer := by
  rintro ⟨answer, hok⟩
  have hrefused : (RelayClient.getSessionInvitation sampleRelay zeroText
      (sampleInvitation 40000)).isOk = false := by
    decide +kernel
  rw [hok] at hrefused
  cases hrefused

end Sample

end Relay

end ASync
