import VehicleRecords.Url.Address
import VehicleRecords.Url.Domain
import VehicleRecords.Url.Escape

/-!
Hosts of URLs. The schemes that web browsers know have domain names and IPv4 addresses, the others
keep a name as it is; IPv6 addresses stand in brackets in either.
-/
namespace VehicleRecords.Url

/-- Why a text is no URL. -/
inductive Problem where
  /-- There is no scheme. -/
  | relative
  | emptyHost
  | invalidPort
  | invalidIpv4
  | invalidIpv6
  | invalidHostCharacter
  | invalidDomain
  deriving DecidableEq, Repr

def Problem.message : Problem → String
  | relative => "relative URL without a base"
  | emptyHost => "empty host"
  | invalidPort => "invalid port number"
  | invalidIpv4 => "invalid IPv4 address"
  | invalidIpv6 => "invalid IPv6 address"
  | invalidHostCharacter => "invalid domain character"
  | invalidDomain => "invalid international domain name"

inductive Host where
  | name (text : String)
  | ipv4 (address : UInt32)
  | ipv6 (groups : List Nat)
  deriving DecidableEq, Repr

namespace Host

def text : Host → String
  | name text => text
  | ipv4 address => ipv4Text address
  | ipv6 groups => "[" ++ ipv6Text groups ++ "]"

/-- An address between brackets, behind the opening one. -/
def parseBracketed (s : List Char) : Except Problem Host :=
  match s.getLast?, ipv6? s.dropLast with
  | some ']', some groups => .ok (ipv6 groups)
  | _, _ => .error .invalidIpv6

/-- Characters that a host without escapes cannot hold. -/
def isForbidden (c : Char) : Bool := "\x00\t\n\r #/:<>?@[\\]^|".contains c

/-- A host of a scheme that web browsers do not know. -/
def parseOpaque : List Char → Except Problem Host
  | '[' :: s => parseBracketed s
  | s =>
    if s.any isForbidden then .error .invalidHostCharacter
    else .ok (name (String.ofList (escape keepsOpaque s)))

/-- A host of a scheme that web browsers know. -/
def parseSpecial : List Char → Except Problem Host
  | '[' :: s => parseBracketed s
  | s =>
    let domain := Text.Utf8.decodeLenient (Text.percentDecode (Text.Utf8.encode s))
    match domainToAscii? domain with
    | none => .error .invalidDomain
    | some [] => .error .emptyHost
    | some domain =>
      if endsInNumber domain then
        match ipv4? domain with
        | some address => .ok (ipv4 address)
        | none => .error .invalidIpv4
      else .ok (name (String.ofList domain))

end Host

end VehicleRecords.Url
