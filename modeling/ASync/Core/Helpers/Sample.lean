import ASync.Core.Model.Beans
/-!
# Sample parameters and records

Instances of the third-party classes a concrete run is evaluated with,
and records to run on. The base16 functions are the real ones; the
digests are those of the empty string and of two letters, the base32 text
that of thirty-two zero bytes, and the path functions are those of paths
of one name, so a run on these instances is one of the program where
nothing else is hashed or encoded and no path is longer.
-/

namespace ASync

namespace Sample

open ASync.Core

/-- A base16 digit. -/
def hexDigit (n : ℕ) : Char := "0123456789ABCDEF".toList.getD n '0'

/-- The value of an upper-case base16 digit. -/
def hexValue (c : Char) : Option ℕ := "0123456789ABCDEF".toList.idxOf? c

/-- Base16 in upper case. -/
def hexEncode (bytes : Bytes) : String :=
  String.ofList (bytes.flatMap fun b => [hexDigit (b.toNat / 16), hexDigit (b.toNat % 16)])

/-- Pairs of base16 digits as bytes. -/
def hexBytes : List Char → Option Bytes
  | [] => some []
  | c :: d :: rest => do
    let high ← hexValue c
    let low ← hexValue d
    let bytes ← hexBytes rest
    return UInt8.ofNat (16 * high + low) :: bytes
  | [_] => none

theorem hexValue_hexDigit (n : Fin 16) : hexValue (hexDigit n) = some n.val := by
  revert n
  decide

/-- Decoding what was encoded. -/
theorem hexBytes_hexEncode (bytes : Bytes) : hexBytes (hexEncode bytes).toList = some bytes := by
  rw [hexEncode, String.toList_ofList]
  induction bytes with
  | nil => rfl
  | cons b bytes ih =>
    have hlt : b.toNat < 256 := b.toNat_lt
    have hhigh := hexValue_hexDigit ⟨b.toNat / 16, by omega⟩
    have hlow := hexValue_hexDigit ⟨b.toNat % 16, by omega⟩
    have hjoin : UInt8.ofNat (16 * (b.toNat / 16) + b.toNat % 16) = b := by
      rw [Nat.div_add_mod]
      exact UInt8.ofNat_toNat
    rw [List.flatMap_cons, List.cons_append, List.cons_append, List.nil_append, hexBytes, hhigh,
      hlow, ih]
    simp only [Option.bind_eq_bind, Option.bind_some, hjoin]
    rfl

/-- SHA-256 of the empty string. -/
def emptyDigest : Bytes :=
  [0xe3, 0xb0, 0xc4, 0x42, 0x98, 0xfc, 0x1c, 0x14, 0x9a, 0xfb, 0xf4, 0xc8, 0x99, 0x6f, 0xb9, 0x24,
    0x27, 0xae, 0x41, 0xe4, 0x64, 0x9b, 0x93, 0x4c, 0xa4, 0x95, 0x99, 0x1b, 0x78, 0x52, 0xb8, 0x55]

/-- Thirty-two zero bytes. -/
def zeroHash : Bytes := List.replicate 32 0

/-- `zeroHash` in base32. -/
def zeroHash32 : String := "AAAAAAAAAAAAAAAAAAAAAAAAAAAAAAAAAAAAAAAAAAAAAAAAAAAA===="

@[reducible] def guava : Guava where
  sha256 _ := emptyDigest
  base16Encode := hexEncode
  base16Decode s := hexBytes s.toList
  base32Encode _ := zeroHash32
  base32Decode _ := some zeroHash

attribute [local instance] guava in
theorem lawfulBase16 : LawfulBase16 := ⟨hexBytes_hexEncode⟩

/-- SHA-256 of the one byte `a`. -/
def digestOfA : Bytes :=
  [0xca, 0x97, 0x81, 0x12, 0xca, 0x1b, 0xbd, 0xca, 0xfa, 0xc2, 0x31, 0xb3, 0x9a, 0x23, 0xdc, 0x4d,
    0xa7, 0x86, 0xef, 0xf8, 0x14, 0x7c, 0x4f, 0x72, 0xb9, 0x80, 0x77, 0x85, 0xaf, 0xee, 0x48, 0xbb]

/-- SHA-256 of the one byte `b`. -/
def digestOfB : Bytes :=
  [0x3e, 0x23, 0xe8, 0x16, 0x00, 0x39, 0x59, 0x4a, 0x33, 0x89, 0x4f, 0x65, 0x64, 0xe1, 0xb1, 0x34,
    0x8b, 0xbd, 0x7a, 0x00, 0x88, 0xd4, 0x2c, 0x4a, 0xcb, 0x73, 0xee, 0xae, 0xd5, 0x9c, 0x00, 0x9d]

/-- As `guava`, with the digests of `a` and `b`. -/
@[reducible] def guavaOfLetters : Guava where
  sha256 bytes := if bytes = [0x61] then digestOfA else if bytes = [0x62] then digestOfB
    else emptyDigest
  base16Encode := hexEncode
  base16Decode s := hexBytes s.toList
  base32Encode _ := zeroHash32
  base32Decode _ := some zeroHash

attribute [local instance] guavaOfLetters in
theorem lawfulBase16OfLetters : LawfulBase16 := ⟨hexBytes_hexEncode⟩

/-- SHA-256 of `ab`. -/
def digestOfAB : Bytes :=
  [0xfb, 0x8e, 0x20, 0xfc, 0x2e, 0x4c, 0x3f, 0x24, 0x8c, 0x60, 0xc3, 0x9b, 0xd6, 0x52, 0xf3, 0xc1,
    0x34, 0x72, 0x98, 0xbb, 0x97, 0x7b, 0x8b, 0x4d, 0x59, 0x03, 0xb8, 0x50, 0x55, 0x62, 0x06, 0x03]

/-- SHA-256 of the base16 text of `digestOfAB`. -/
def digestOfOneBlock : Bytes :=
  [0xb8, 0x1e, 0x42, 0xec, 0xdf, 0x96, 0x02, 0x34, 0x26, 0xb5, 0x86, 0x2e, 0x5d, 0xd8, 0xba, 0x34,
    0x1f, 0xf1, 0x95, 0xfd, 0x5b, 0x88, 0x79, 0x48, 0x63, 0x84, 0xc7, 0xc7, 0x21, 0x11, 0x21, 0x75]

/-- SHA-256 of the base16 texts of the digests of `a` and `b` with a comma
between them. -/
def digestOfTwoBlocks : Bytes :=
  [0xd3, 0xee, 0xd7, 0x7d, 0xaf, 0x0d, 0x2a, 0xf9, 0x7c, 0x73, 0x83, 0x87, 0x57, 0x4d, 0xa7, 0x2b,
    0xb5, 0x2b, 0x7a, 0x3a, 0x79, 0xe6, 0x6f, 0x32, 0xee, 0x98, 0x01, 0xb8, 0x36, 0x9d, 0x22, 0x4e]

/-- As `guavaOfLetters`, with the digests of `ab`, of its one block
and of its two blocks. -/
@[reducible] def guavaOfBlocks : Guava where
  sha256 bytes :=
    if bytes = [0x61, 0x62] then digestOfAB
    else if bytes = getBytes (hexEncode digestOfAB) then digestOfOneBlock
    else if bytes = getBytes (hexEncode digestOfA ++ "," ++
      hexEncode digestOfB) then digestOfTwoBlocks
    else guavaOfLetters.sha256 bytes
  base16Encode := hexEncode
  base16Decode s := hexBytes s.toList
  base32Encode _ := zeroHash32
  base32Decode _ := some zeroHash

attribute [local instance] guavaOfBlocks in
theorem lawfulBase16OfBlocks : LawfulBase16 := ⟨hexBytes_hexEncode⟩

/-- As `guava`, with base32 as it is. -/
@[reducible] def guavaOfBase32 : Guava where
  sha256 _ := emptyDigest
  base16Encode := hexEncode
  base16Decode s := hexBytes s.toList
  base32Encode := Base32.encode
  base32Decode := Base32.decode

attribute [local instance] guavaOfBase32 in
theorem lawfulBase32 : LawfulBase32 := ⟨fun _ => rfl, fun _ => rfl⟩

@[reducible] def filenameUtils : FilenameUtils where
  normalizeNoEndSeparator _ := some ""
  getName path := path

/-- A message class whose only message serialised is the empty one. -/
@[reducible] def protobuf {α : Type} : Protobuf α where
  toByteArray _ := []
  parseFrom _ := none

attribute [local instance] filenameUtils

theorem default_ne : "default" ≠ "" := by decide

theorem names_a : PathUtils.namesOf "a" = .ok ("a", "") := by decide

theorem names_d : PathUtils.namesOf "d" = .ok ("d", "") := by decide

theorem names_f : PathUtils.namesOf "f" = .ok ("f", "") := by decide

theorem typed_directory : Typed .DIRECTORY none none := ⟨rfl, rfl⟩

theorem typed_file {hash : String} (size : ℤ) (hhash : hash ≠ "") :
    Typed .FILE (some size) (some hash) := ⟨rfl, hash, rfl, hhash⟩

/-- A directory record with one version. -/
def directory {path : String} (hnames : PathUtils.namesOf path = .ok (path, ""))
    (lastModified : ℤ) : FileInfo where
  folder := "default"
  fileName := path
  path := path
  parent := ""
  hash := none
  size := none
  lastModified := lastModified
  type := .DIRECTORY
  versionList := [⟨1, 1⟩]
  deleted := false
  folder_ne := default_ne
  names_eq := hnames
  typed := typed_directory

/-- A file record with one version. -/
def file {path hash : String} (hnames : PathUtils.namesOf path = .ok (path, ""))
    (hhash : hash ≠ "") (lastModified size : ℤ) : FileInfo where
  folder := "default"
  fileName := path
  path := path
  parent := ""
  hash := some hash
  size := some size
  lastModified := lastModified
  type := .FILE
  versionList := [⟨1, 1⟩]
  deleted := false
  folder_ne := default_ne
  names_eq := hnames
  typed := typed_file size hhash

end Sample

end ASync
