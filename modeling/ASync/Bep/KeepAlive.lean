import Mathlib
import ASync.Bep.Framing
/-!
# Keepalives between frames

A peer may put zero words where the reader expects a length: shorts in
front of a header, ints in front of a body. Each of the two loops of
`receiveMessage` skips the words of its own width and stops at the first
length, so the frames of a padded stream are read back one by one,
compressed or not, and the stream ends with the last.
-/

namespace ASync

namespace Bep

open ASync.Core BlockExchageProtos Wire

section KeepAlive

variable [MessageClasses] {Compressed : Bytes → Bytes → Prop} {rest : Bytes}

/-- A frame of a peer: a header of any serialisation, a body as it is or
behind its own length as an LZ4 block, and the keepalives in front of the
two lengths. `Compressed plain block` says that the block is what a
compressor makes of the plain bytes. -/
structure Frame (Compressed : Bytes → Bytes → Prop) where
  message : TypedMessage
  compression : MessageCompression
  header : Bytes
  block : Bytes
  shorts : ℕ
  ints : ℕ
  header_ne : header ≠ []
  length_header_le : header.length ≤ 32767
  parseHeader_header : MessageClasses.parseHeader header = some ⟨message.1, compression⟩
  compressed : compression = .LZ4 → Compressed message.body block
  length_plain_lt : message.body.length < 2 ^ 31

namespace Frame

variable {frame : Frame Compressed}

/-- The body on the wire. -/
def body (frame : Frame Compressed) : Bytes :=
  match frame.compression with
  | .NONE => frame.message.body
  | .LZ4 => writeInt frame.message.body.length ++ frame.block

/-- The bytes of a frame, with the keepalives in it. -/
def stream (frame : Frame Compressed) : Bytes :=
  (List.replicate frame.shorts (writeShort 0)).flatten ++ (writeShort frame.header.length ++
    (frame.header ++ ((List.replicate frame.ints (writeInt 0)).flatten ++
      (writeInt frame.body.length ++ frame.body))))

/-- The frame `sendMessage` writes, as one without keepalives. -/
def ofMessage [LawfulMessageClasses] (message : TypedMessage)
    (hlt : message.body.length < 2 ^ 31) : Frame Compressed where
  message := message
  compression := .NONE
  header := message.header.toByteArray
  block := []
  shorts := 0
  ints := 0
  header_ne := List.cons_ne_nil _ _
  length_header_le := by
    rw [TypedMessage.length_header]
    omega
  parseHeader_header := LawfulMessageClasses.parseHeader_toByteArray message.header
  compressed := nofun
  length_plain_lt := hlt

theorem stream_ofMessage [LawfulMessageClasses] (message : TypedMessage)
    (hlt : message.body.length < 2 ^ 31) :
    (ofMessage message hlt : Frame Compressed).stream = sendMessage message := by
  simp only [stream, ofMessage, body, sendMessage, List.replicate_zero, List.flatten_nil,
    List.nil_append, List.append_assoc]

end Frame

/-! ## The skip loops -/

omit [MessageClasses] in
/-- A zero header length is skipped. -/
theorem readHeaderLength_writeShort_zero (rest : Bytes) :
    readHeaderLength (writeShort 0 ++ rest) = readHeaderLength rest := by
  have hbytes : writeShort 0 = [0, 0] := by decide
  have hzero : signed [0, 0] = 0 := by decide
  rw [hbytes, List.cons_append, List.cons_append, List.nil_append, readHeaderLength, if_pos hzero]

omit [MessageClasses] in
/-- Zero shorts in front of a header length are skipped, however many. -/
theorem readHeaderLength_zeros (n : ℕ) (rest : Bytes) :
    readHeaderLength ((List.replicate n (writeShort 0)).flatten ++ rest) =
      readHeaderLength rest := by
  induction n with
  | zero => rfl
  | succ n ih =>
    rw [List.replicate_succ, List.flatten_cons, List.append_assoc,
      readHeaderLength_writeShort_zero, ih]

omit [MessageClasses] in
/-- Zero ints in front of a message length are skipped, however many. -/
theorem readMessageLength_zeros (n : ℕ) (rest : Bytes) :
    readMessageLength ((List.replicate n (writeInt 0)).flatten ++ rest) =
      readMessageLength rest := by
  induction n with
  | zero => rfl
  | succ n ih =>
    rw [List.replicate_succ, List.flatten_cons, List.append_assoc, readMessageLength_writeInt_zero,
      ih]

/-! ## One frame -/

variable {frame : Frame Compressed}

/-- The header of a frame is read back, up to the keepalives of its body. -/
theorem receiveHeader_stream (rest : Bytes) :
    receiveHeader (frame.stream ++ rest) =
      .ok (⟨frame.message.1, frame.compression⟩,
        (List.replicate frame.ints (writeInt 0)).flatten ++
          (writeInt frame.body.length ++ (frame.body ++ rest))) := by
  have hpos := List.length_pos_iff.2 frame.header_ne
  have hle := frame.length_header_le
  have hcheck : ∀ text, checkArgument (decide (0 < (frame.header.length : ℤ))) text = .ok () :=
    fun _ => checkArgument_eq_ok.2 (decide_eq_true (by omega))
  have hstream : frame.stream ++ rest =
      (List.replicate frame.shorts (writeShort 0)).flatten ++ (writeShort frame.header.length ++
        (frame.header ++ ((List.replicate frame.ints (writeInt 0)).flatten ++
          (writeInt frame.body.length ++ (frame.body ++ rest))))) := by
    simp only [Frame.stream, List.append_assoc]
  rw [hstream, receiveHeader, readHeaderLength_zeros,
    readHeaderLength_writeShort hpos (by omega), except_ok_bind]
  simp only [hcheck, except_ok_bind, readBuffer_append, frame.parseHeader_header]
  rfl

/-- The body of a frame gives the bytes of its message. -/
theorem decompressed_body
    (hlz4 : ∀ first plain block : Bytes, first.length = 4 → Compressed plain block →
      MessageClasses.decompress (first ++ block) plain.length = some plain) :
    decompressed ⟨frame.message.1, frame.compression⟩ frame.body = .ok frame.message.body := by
  have hplain := frame.length_plain_lt
  have hlength : (writeInt frame.message.body.length).length = 4 := length_toBytes 4 _
  have hsigned : signed (writeInt frame.message.body.length) = frame.message.body.length :=
    signed_toBytes (by omega)
  cases hcompression : frame.compression with
  | NONE => simp only [decompressed, Frame.body, hcompression]
  | LZ4 =>
    have hblock := hlz4 _ _ frame.block hlength (frame.compressed hcompression)
    simp only [decompressed, Frame.body, hcompression, readInt_append hlength, hsigned, hblock]

/-- The body of a frame is read back, up to where the frame ends. -/
theorem receiveBody_stream [LawfulMessageClasses] (hne : frame.body ≠ [])
    (hlt : frame.body.length < 2 ^ 31)
    (hlz4 : ∀ first plain block : Bytes, first.length = 4 → Compressed plain block →
      MessageClasses.decompress (first ++ block) plain.length = some plain) (rest : Bytes) :
    receiveBody ⟨frame.message.1, frame.compression⟩
        ((List.replicate frame.ints (writeInt 0)).flatten ++
          (writeInt frame.body.length ++ (frame.body ++ rest))) = .ok (frame.message, rest) := by
  have hcheck : ∀ text, checkArgument (decide (0 ≤ (frame.body.length : ℤ))) text = .ok () :=
    fun _ => checkArgument_eq_ok.2 (decide_eq_true (Int.natCast_nonneg _))
  have hparse : MessageClasses.parseFrom frame.message.1 frame.message.body =
      some frame.message.2 := LawfulMessageClasses.parseFrom_toByteArray frame.message.2
  rw [receiveBody, readMessageLength_zeros,
    readMessageLength_writeInt (List.length_pos_iff.2 hne) hlt, except_ok_bind]
  simp only [hcheck, except_ok_bind, readBuffer_append, decompressed_body hlz4, hparse]
  rfl

/-- **A frame is read back**, whatever keepalives are in it, and the
stream is left where it ends. -/
theorem receiveMessage_stream [LawfulMessageClasses] (hne : frame.body ≠ [])
    (hlt : frame.body.length < 2 ^ 31)
    (hlz4 : ∀ first plain block : Bytes, first.length = 4 → Compressed plain block →
      MessageClasses.decompress (first ++ block) plain.length = some plain) (rest : Bytes) :
    receiveMessage (frame.stream ++ rest) = .ok (frame.message, rest) := by
  rw [receiveMessage, receiveHeader_stream, except_ok_bind]
  exact receiveBody_stream hne hlt hlz4 rest

/-! ## The stream -/

/-- **Keepalives are transparent.** The messages of a padded stream of
frames are received in order, and nothing is left. -/
theorem receiveMessages_stream [LawfulMessageClasses] (frames : List (Frame Compressed))
    (hlz4 : ∀ first plain block : Bytes, first.length = 4 → Compressed plain block →
      MessageClasses.decompress (first ++ block) plain.length = some plain)
    (hbody : ∀ frame ∈ frames, frame.body ≠ [] ∧ frame.body.length < 2 ^ 31) :
    receiveMessages frames.length (frames.flatMap Frame.stream) =
      .ok (frames.map Frame.message, []) := by
  induction frames with
  | nil => rfl
  | cons frame frames ih =>
    obtain ⟨hne, hlt⟩ := hbody frame List.mem_cons_self
    have hframes := ih fun other hother => hbody other (List.mem_cons_of_mem frame hother)
    rw [List.flatMap_cons, List.length_cons, receiveMessages, receiveMessage_stream hne hlt hlz4,
      except_ok_bind]
    simp only [hframes, except_ok_bind, List.map_cons]
    rfl

end KeepAlive

section Sample

/-- An LZ4 block that is one run of at most fourteen literals: the token
with their number, then the bytes. -/
def Sample.Literals (plain block : Bytes) : Prop :=
  plain.length < 15 ∧ block = UInt8.ofNat (16 * plain.length) :: plain

/-- The bytes of a block of literals. -/
def Sample.literalsOf : Bytes → ℕ → Option Bytes
  | [], _ => none
  | token :: literals, n =>
    if token.toNat = 16 * n ∧ n ≤ literals.length then some (literals.take n) else none

/-- As `Sample.messageClasses`, with blocks of literals decompressed. -/
@[reducible] def Sample.literalClasses : MessageClasses where
  Message := Sample.messageClasses.Message
  toByteArray := Sample.messageClasses.toByteArray
  parseFrom := Sample.messageClasses.parseFrom
  parseHeader := Sample.messageClasses.parseHeader
  decompress bytes length := Sample.literalsOf (bytes.drop 4) length.toNat

attribute [local instance] Sample.literalClasses

theorem Sample.lawfulLiteralClasses : LawfulMessageClasses where
  parseFrom_toByteArray := fun _ => rfl
  parseHeader_toByteArray := Sample.lawfulMessageClasses.parseHeader_toByteArray
  eq_nil_of_parseFrom := by
    intro type bytes m hparse hnil
    obtain rfl := Option.some.inj hparse
    exact hnil

attribute [local instance] Sample.lawfulLiteralClasses

theorem Sample.decompress_literals (first plain block : Bytes) (hfirst : first.length = 4)
    (h : Sample.Literals plain block) :
    MessageClasses.decompress (first ++ block) plain.length = some plain := by
  obtain ⟨hlt, rfl⟩ := h
  have hdrop : (first ++ UInt8.ofNat (16 * plain.length) :: plain).drop 4 =
      UInt8.ofNat (16 * plain.length) :: plain := List.drop_left' hfirst
  have htoken : (UInt8.ofNat (16 * plain.length)).toNat = 16 * plain.length := by
    rw [UInt8.toNat_ofNat']
    omega
  show Sample.literalsOf ((first ++ UInt8.ofNat (16 * plain.length) :: plain).drop 4)
    plain.length = some plain
  rw [hdrop, Sample.literalsOf, if_pos ⟨htoken, le_refl _⟩, List.take_length]

/-- A compressed `Close` with keepalives in front of both lengths. -/
def Sample.compressedClose : Frame Sample.Literals where
  message := ⟨.CLOSE, [0x0a, 0x01, 0x78]⟩
  compression := .LZ4
  header := [0x08, 0x07, 0x10, 0x01]
  block := [0x30, 0x0a, 0x01, 0x78]
  shorts := 3
  ints := 2
  header_ne := by decide
  length_header_le := by decide
  parseHeader_header := by decide
  compressed := fun _ => ⟨by decide, rfl⟩
  length_plain_lt := by decide

/-- A `Response` as it is, with a keepalive in front of its header. -/
def Sample.plainResponse : Frame Sample.Literals where
  message := ⟨.RESPONSE, [0x08, 0x01]⟩
  compression := .NONE
  header := [0x08, 0x04, 0x10, 0x00]
  block := []
  shorts := 1
  ints := 0
  header_ne := by decide
  length_header_le := by decide
  parseHeader_header := by decide
  compressed := nofun
  length_plain_lt := by decide

theorem receiveMessages_stream_sample :
    receiveMessages [Sample.compressedClose, Sample.plainResponse].length
        ([Sample.compressedClose, Sample.plainResponse].flatMap Frame.stream) =
      .ok ([Sample.compressedClose, Sample.plainResponse].map Frame.message, []) :=
  receiveMessages_stream [Sample.compressedClose, Sample.plainResponse]
    Sample.decompress_literals (by decide)

end Sample

end Bep

end ASync
