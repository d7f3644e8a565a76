import QueryGateway.Number.Power
import QueryGateway.Text.Blank
import QueryGateway.Text.Letter
import QueryGateway.Text.Split

/-!
# Addresses of databases

The address of a database is an absolute URL. This module tells which texts
are refused as such; what the address says beyond that concerns the link to
the database only.
-/

namespace QueryGateway

/-- Why a text is no absolute URL. -/
inductive AddressFailure where
  | withoutScheme
  | emptyHost
  | invalidPort
  | invalidIpv6
  | invalidHostCharacter
  deriving DecidableEq, Repr

/-- The text of an address failure. -/
def AddressFailure.message : AddressFailure → String
  | withoutScheme => "relative URL without a base"
  | emptyHost => "empty host"
  | invalidPort => "invalid port number"
  | invalidIpv6 => "invalid IPv6 address"
  | invalidHostCharacter => "invalid domain character"

/-- The short name of an address failure. -/
def AddressFailure.name : AddressFailure → String
  | withoutScheme => "RelativeUrlWithoutBase"
  | emptyHost => "EmptyHost"
  | invalidPort => "InvalidPort"
  | invalidIpv6 => "InvalidIpv6Address"
  | invalidHostCharacter => "InvalidDomainCharacter"

namespace Address

/-- Characters that may not stand in a host name. -/
def isForbidden (c : Char) : Bool :=
  c.toNat == 0 || "\t\n\r #/:<>?@[\\]^|".toList.contains c

/-- The text without what a URL ignores: control characters and spaces at its
ends, and tabs and line ends anywhere. -/
def clean (s : List Char) : List Char :=
  let isEdge (c : Char) : Bool := c ≤ ' '
  let s := ((s.dropWhile isEdge).reverse.dropWhile isEdge).reverse
  s.filter fun c => c != '\t' && c != '\n' && c != '\r'

/-- The scheme in small letters and the text after its colon. -/
def splitScheme? (s : List Char) : Option (List Char × List Char) := do
  let (scheme, rest) ← Text.cut ':' s
  let isSchemeChar (c : Char) : Bool :=
    Text.isAsciiAlphanumeric c || c == '+' || c == '-' || c == '.'
  let first ← scheme.head?
  if (Text.isAsciiLower first || Text.isAsciiUpper first) && scheme.all isSchemeChar then
    some (scheme.map Char.toLower, rest)
  else none

/-- The schemes of addresses that always have a host. -/
def hostedSchemes : List String := ["http", "https", "ws", "wss", "ftp"]

/-- Checks a port, which may be missing. -/
def checkPort (port : List Char) : Except AddressFailure Unit :=
  let n := port.foldl (fun n c => n * 10 + (c.toNat - 48)) 0
  if port.all Text.isAsciiDigit && n < 2 ^ 16 then .ok () else .error .invalidPort

/-- Checks a host and the port after it. -/
def checkHost (hostNeeded : Bool) (s : List Char) : Except AddressFailure Unit :=
  match s with
  | '[' :: rest =>
    match Text.cut ']' rest with
    | none => .error .invalidIpv6
    | some (host, after) =>
      if host.all (fun c => Text.isAsciiAlphanumeric c || c == ':' || c == '.') &&
          host.contains ':' then
        match after with
        | [] => .ok ()
        | ':' :: port => checkPort port
        | _ => .error .invalidPort
      else .error .invalidIpv6
  | s =>
    let host := s.takeWhile (· != ':')
    let port := s.drop (host.length + 1)
    if host.isEmpty then
      if hostNeeded || !port.isEmpty then .error .emptyHost else .ok ()
    else if host.any isForbidden then .error .invalidHostCharacter
    else checkPort port

/-- Checks the part of an address that names the user, the host and the port. -/
def checkAuthority (hostNeeded : Bool) (s : List Char) : Except AddressFailure Unit :=
  match Text.cutLast '@' s with
  | some (_, host) => checkHost true host
  | none => checkHost hostNeeded s

/-- Checks an address. -/
def check (address : String) : Except AddressFailure Unit :=
  match splitScheme? (clean address.toList) with
  | none => .error .withoutScheme
  | some (scheme, rest) =>
    let endsAuthority (c : Char) : Bool := c != '/' && c != '?' && c != '#'
    if hostedSchemes.contains (String.ofList scheme) then
      let rest := rest.dropWhile fun c => c == '/' || c == '\\'
      checkAuthority true (rest.takeWhile fun c => endsAuthority c && c != '\\')
    else
      match rest with
      | '/' :: '/' :: rest =>
        if scheme == "file".toList then .ok ()
        else checkAuthority false (rest.takeWhile endsAuthority)
      | _ => .ok ()

end Address

end QueryGateway
