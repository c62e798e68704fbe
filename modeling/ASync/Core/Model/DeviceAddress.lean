import ASync.Common.Regex
import ASync.Core.Model.Libraries
/-!
# The address of a device

`DeviceAddress` keeps an address as one string and takes it apart with
regular expressions wherever a part is asked for.
-/

namespace ASync

namespace Core

open Regex

inductive AddressType
  | TCP
  | RELAY
  | OTHER
  | NULL
  | HTTP_RELAY
  | HTTPS_RELAY
  deriving DecidableEq, Repr

/-- `DEFAULT_PORT_BY_PROTOCOL.get`; an `int` is read from the result. -/
def DEFAULT_PORT_BY_PROTOCOL : AddressType → Except JavaException ℤ
  | .TCP => .ok 22000
  | .RELAY => .ok 22067
  | .HTTP_RELAY => .ok 80
  | .HTTPS_RELAY => .ok 443
  | .OTHER | .NULL => .error (.nullPointer "")

/-- `[0-9]` -/
def isDigit (c : Char) : Bool := '0' ≤ c && c ≤ '9'

/-- `[a-z]` -/
def isLower (c : Char) : Bool := 'a' ≤ c && c ≤ 'z'

/-- `[^:]` -/
def notColon (c : Char) : Bool := c != ':'

/-- `.` -/
def dot (c : Char) : Bool := !isLineTerminator c

/-- The number some digits stand for. -/
def decimal (digits : List Char) : ℕ :=
  digits.foldl (fun n c => 10 * n + (c.toNat - '0'.toNat)) 0

/-- `Integer.parseInt` of some digits. -/
def parseInt (digits : List Char) : Except JavaException ℤ :=
  if decimal digits < 2 ^ 31 then .ok (decimal digits)
  else .error (.illegalArgument ("For input string: \"" ++ String.ofList digits ++ "\""))

/-- An address with the device it is of. The score is the largest `int`
where the address was not tried or did not answer. -/
structure DeviceAddress where
  deviceId : String
  address : String
  score : ℤ := 2 ^ 31 - 1
  deriving DecidableEq, Repr

namespace DeviceAddress

def isWorking (deviceAddress : DeviceAddress) : Bool := deviceAddress.score < 2 ^ 31 - 1

/-- Equal addresses may differ in their scores. -/
def equals (a b : DeviceAddress) : Bool := a.deviceId = b.deviceId ∧ a.address = b.address

/-- `^[^:]+://` -/
def schemeRegex : Regex := .seq .start (.seq (many1 notColon) (lit [':', '/'] (.char (· = '/'))))

/-- `(:[0-9]+)?(/.*)?$` -/
def suffixRegex : Regex :=
  .seq (.opt (.seq (.char (· = ':')) (many1 isDigit)))
    (.seq (.opt (.seq (.char (· = '/')) (.many dot))) .ending)

/-- `^[a-z]+://[^:]+:([0-9]+).*` -/
def portRegex : Regex :=
  .seq .start (.seq (many1 isLower) (lit [':', '/', '/'] (.seq (many1 notColon)
    (.seq (.char (· = ':')) (.seq (.group (many1 isDigit)) (.many dot))))))

/-- `String.startsWith`. -/
def startsWith (address start : String) : Bool := start.toList.isPrefixOf address.toList

def getType (address : String) : AddressType :=
  if address = "" then .NULL
  else if startsWith address "tcp://" then .TCP
  else if startsWith address "relay://" then .RELAY
  else if startsWith address "relay-http://" then .HTTP_RELAY
  else if startsWith address "relay-https://" then .HTTPS_RELAY
  else .OTHER

/-- The name `getInetAddress` resolves: the address without what the two
expressions match. -/
def inetName (address : String) : String :=
  String.ofList (suffixRegex.replaceFirst (fun _ => [])
    (schemeRegex.replaceFirst (fun _ => []) address.toList))

def getPort (address : String) : Except JavaException ℤ :=
  if portRegex.matchesAll address.toList then
    parseInt (portRegex.replaceFirst (fun group => group.getD []) address.toList)
  else DEFAULT_PORT_BY_PROTOCOL (getType address)

/-- `getInetAddress`, by what resolves names. -/
def getInetAddress {α : Type} (getByName : String → Option α) (address : String) :
    Except JavaException α :=
  match getByName (inetName address) with
  | some inetAddress => .ok inetAddress
  | none => .error (.runtime "UnknownHostException")

/-- `getSocketAddress`; a socket address refuses a port out of range. -/
def getSocketAddress {α : Type} (getByName : String → Option α) (address : String) :
    Except JavaException (α × ℤ) := do
  let inetAddress ← getInetAddress getByName address
  let port ← getPort address
  checkArgument (0 ≤ port ∧ port ≤ 65535) ("port out of range:" ++ toString port)
  return (inetAddress, port)

end DeviceAddress

end Core

end ASync
