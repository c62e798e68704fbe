import Mathlib
import ASync.Core.Model.Libraries
/-!
# Device ids

The textual id of a device: its hash in base32, a check character after
every thirteen, in groups of seven.
-/

namespace ASync

namespace Core

namespace KeystoreHandler

/-- `Splitter.fixedLength(n).split`, which gives one empty part for an
empty text. -/
def splitFixed (n : ℕ) (s : String) : List String :=
  if s = "" then [""] else (s.toList.toChunks n).map String.ofList

/-- The Luhn mod 32 check character. -/
def generateLuhn32Checksum (string : String) : Except JavaException Char := do
  let alphabet := "ABCDEFGHIJKLMNOPQRSTUVWXYZ234567".toList
  let n := alphabet.length
  let rec loop : List Char → ℕ → ℕ → Except JavaException ℕ
    | [], _, sum => return sum
    | character :: rest, factor, sum => do
      let index := alphabet.idxOf character
      checkArgument (index < n) ""
      let add := factor * index
      loop rest (if factor = 2 then 1 else 2) (sum + add / n + add % n)
  let sum ← loop string.toList 1 0
  let check := (n - sum % n) % n
  return alphabet.getD check 'A'

variable [Guava]

def hashDataToDeviceIdString (hashData : Bytes) : Except JavaException String := do
  checkArgument (hashData.length = 32) ""
  -- the padding is cut off
  let string := String.ofList ((base32Encode hashData).toList.rdropWhile (· = '='))
  let parts ← (splitFixed 13 string).mapM fun part => do
    return part ++ String.singleton (← generateLuhn32Checksum part)
  return "-".intercalate (splitFixed 7 (String.join parts))

/-- A group of seven upper-case letters or digits. -/
def isGroup (group : List Char) : Bool :=
  group.length = 7 && group.all fun c => c.isUpper || c.isDigit

/-- The groups in pairs, without the check character that ends the second
of each pair. -/
def withoutChecks : List (List Char) → List Char
  | first :: second :: groups => first ++ second.take 6 ++ withoutChecks groups
  | groups => groups.flatten

def deviceIdStringToHashData (deviceId : String) : Except JavaException Bytes := do
  let groups := deviceId.toList.splitOn '-'
  checkArgument (groups.length = 8 && groups.all isGroup)
    ("device id syntax error for deviceId = " ++ deviceId)
  let base32data := String.ofList (withoutChecks groups) ++ "==="
  match base32Decode base32data with
  | none => throw (.illegalArgument "DecodingException")
  | some binaryData =>
    checkArgument (binaryData.length = 32) ""
    return binaryData

def validateDeviceId (peer : String) : Except JavaException Unit := do
  let deviceId ← hashDataToDeviceIdString (← deviceIdStringToHashData peer)
  checkArgument (deviceId = peer) ""

end KeystoreHandler

end Core

end ASync
