import ASync.Common.Base32
import ASync.Common.Wire
/-!
# What the program takes from elsewhere

The exceptions of the Java runtime the modelled code throws or lets
pass, 64-bit arithmetic, and the third-party functions the model is
parametric in: Guava's hashing and base encodings, the file-name
normaliser of commons-io, and a generated protobuf class. A result that
depends on what one of them computes says so in a hypothesis.
-/

namespace ASync

/-- The exceptions of the modelled code, with their message where the
code supplies one. -/
inductive JavaException
  /-- `checkNotNull`, and a call on `null`. -/
  | nullPointer (message : String)
  /-- `checkArgument`. -/
  | illegalArgument (message : String)
  /-- `Iterables.getLast` of an empty list. -/
  | noSuchElement
  /-- A read past the end of a stream. -/
  | eof
  /-- `ByteBuffer` read past its end. -/
  | bufferUnderflow
  /-- An array of negative length. -/
  | negativeArraySize
  /-- Integer division by zero. -/
  | arithmetic
  /-- A `RuntimeException` around a checked one. -/
  | runtime (cause : String)
  deriving DecidableEq, Repr

/-- `Preconditions.checkArgument`. -/
def checkArgument (c : Bool) (message : String) : Except JavaException Unit :=
  if c then .ok () else .error (.illegalArgument message)

/-- `Preconditions.checkNotNull`. -/
def checkNotNull {α : Type} (x : Option α) (message : String) : Except JavaException α :=
  match x with
  | some a => .ok a
  | none => .error (.nullPointer message)

/-- `Strings.emptyToNull`. -/
def emptyToNull (s : String) : Option String := if s = "" then none else some s

@[simp] theorem emptyToNull_eq_some {s t : String} : emptyToNull s = some t ↔ s = t ∧ s ≠ "" := by
  rw [emptyToNull]
  split
  · next h => simp [h]
  · next h => simp [h]

namespace Long

/-- A `long`: an integer wrapped to 64 bits. -/
def wrap (x : ℤ) : ℤ := Int.bmod x (2 ^ 64)

theorem wrap_eq {x : ℤ} (hlo : -2 ^ 63 ≤ x) (hhi : x < 2 ^ 63) : wrap x = x := by
  rw [wrap]
  refine Int.bmod_eq_of_le_mul_two ?_ ?_ <;> push_cast <;> omega

end Long

/-- Integer division. -/
def divide (x y : ℤ) : Except JavaException ℤ :=
  if y = 0 then .error .arithmetic else .ok (x.tdiv y)

/-- Guava's hashing and base encodings. -/
class Guava where
  /-- `Hashing.sha256().hashBytes(…).asBytes()`. -/
  sha256 : Bytes → Bytes
  /-- `BaseEncoding.base16().encode`. -/
  base16Encode : Bytes → String
  /-- `BaseEncoding.base16().decode`, which refuses what is not base16. -/
  base16Decode : String → Option Bytes
  /-- `BaseEncoding.base32().encode`. -/
  base32Encode : Bytes → String
  /-- `BaseEncoding.base32().decode`, which refuses what is not base32. -/
  base32Decode : String → Option Bytes

/-- Base16 decodes what it encoded. -/
class LawfulBase16 [Guava] : Prop where
  base16Decode_base16Encode : ∀ bytes, Guava.base16Decode (Guava.base16Encode bytes) = some bytes

/-- Base32 is that of RFC 4648. -/
class LawfulBase32 [Guava] : Prop where
  base32Encode_eq : ∀ bytes, Guava.base32Encode bytes = Base32.encode bytes
  base32Decode_eq : ∀ s, Guava.base32Decode s = Base32.decode s

/-- The functions of commons-io's `FilenameUtils` on paths. -/
class FilenameUtils where
  /-- `normalizeNoEndSeparator(path, true)`, `none` for `null`. -/
  normalizeNoEndSeparator : String → Option String
  /-- `getName`. -/
  getName : String → String

/-- A generated protobuf message class. -/
class Protobuf (α : Type) where
  /-- `toByteArray`. -/
  toByteArray : α → Bytes
  /-- `parseFrom`, which refuses malformed input. -/
  parseFrom : Bytes → Option α

/-- Parsing inverts serialising. -/
class LawfulProtobuf (α : Type) [Protobuf α] : Prop where
  parseFrom_toByteArray : ∀ message : α, Protobuf.parseFrom (Protobuf.toByteArray message) =
    some message

export Guava (sha256 base16Encode base16Decode base32Encode base32Decode)
export Protobuf (toByteArray parseFrom)

/-- `BaseEncoding.base16().encode(Hashing.sha256().hashBytes(data).asBytes())`. -/
def sha256Hex [Guava] (data : Bytes) : String := base16Encode (sha256 data)

/-- `String.getBytes()` in UTF-8. -/
def getBytes (s : String) : Bytes := s.toUTF8.toList

end ASync
