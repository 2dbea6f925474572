/-
  Addresses of members and of API servers.

  An address is a host and a port with a colon between them.  A host that has colons itself stands
  in square brackets, so that the last colon before the port can be told from the others.  Nothing
  more is asked of either part: any text without the separating characters is a host or a port.

  Evidence may also name a host alone, without a port, and then an eight-group IP literal may stand
  without brackets.
-/
import QuorumRescue.Network.Ip

namespace QuorumRescue

/-- Why a text is no address. -/
inductive AddressFault
  | missingBracket
  | missingPort
  | tooManyColons
  | reported (text : String)
deriving DecidableEq, Repr

def AddressFault.message : AddressFault → String
  | .missingBracket => "missing ']' in address"
  | .missingPort => "missing port in address"
  | .tooManyColons => "too many colons in address"
  | .reported text => text

namespace Address

/-! ## Over characters -/

/-- The host and port of a text that starts with an opening bracket, of which `body` is the rest. -/
def splitBracketed (body : List Char) : Except AddressFault (List Char × List Char) :=
  match Text.splitFirst ']' body with
  | none => .error .missingBracket
  | some (host, tail) =>
      match Text.dropLead [':'] tail with
      | none => .error .missingPort
      | some port => if port.contains ':' then .error .tooManyColons else .ok (host, port)

/-- The host and port of a text without an opening bracket. -/
def splitPlain (text : List Char) : Except AddressFault (List Char × List Char) :=
  match Text.splitLast ':' text with
  | none => .error .missingPort
  | some (host, port) => if host.contains ':' then .error .tooManyColons else .ok (host, port)

/-- Host and port of an address. -/
def splitChars (text : List Char) : Except AddressFault (List Char × List Char) :=
  match Text.dropLead ['['] text with
  | some body => splitBracketed body
  | none => splitPlain text

/-- The host that a piece of evidence names. -/
def hostChars (text : List Char) : Except AddressFault (List Char) :=
  if text.contains ':' then
    if Network.isIpv6Literal text then .ok text else (splitChars text).map (·.1)
  else .ok text

/-! ## Over strings -/

/-- Host and port of an address. -/
def split (address : String) : Except AddressFault (String × String) :=
  (splitChars address.toList).map fun parts => (String.ofList parts.1, String.ofList parts.2)

/-- The host that a piece of evidence names; a bare host is its own. -/
def host (address : String) : Except AddressFault String :=
  (hostChars address.toList).map String.ofList

end Address

example : Address.splitChars ['[', ':', ']', ':', '1'] = .ok ([':'], ['1']) := rfl
example : Address.splitChars ['a', ':', 'b', ':', 'c'] = .error .tooManyColons := rfl

end QuorumRescue
