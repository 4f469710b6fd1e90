import HeaderBidding.Host.Domain
import HeaderBidding.Host.Ipv6
import HeaderBidding.Url.Percent

/-!
# Hosts

The host of an address is a domain name, an address of 32 or of 128 bits, or, where the scheme says
nothing of hosts, any name.
-/

namespace HeaderBidding

/-- A host. -/
inductive Host where
  | domain (name : List Char)
  | ipv4 (address : UInt32)
  | ipv6 (pieces : List Nat)
  deriving DecidableEq

namespace Host

/-- Why a host is refused. -/
inductive Fault where
  | empty
  | invalidIpv4
  | invalidIpv6
  | invalidName
  | invalidCharacter
  deriving DecidableEq

/-- An address of 128 bits, behind its opening bracket. -/
def ofBracket (s : List Char) : Except Fault Host :=
  match s.reverse with
  | ']' :: inner =>
    match ipv6? inner.reverse with
    | some pieces => .ok (.ipv6 pieces)
    | none => .error .invalidIpv6
  | _ => .error .invalidIpv6

/-- The host of a well-known scheme. -/
def ofText (s : List Char) : Except Fault Host :=
  match s with
  | '[' :: rest => ofBracket rest
  | _ =>
    match (Text.Utf8.decode? (Url.percentDecode s)).bind domainToAscii? with
    | none => .error .invalidName
    | some [] => .error .empty
    | some name =>
      if endsInNumber name then
        match ipv4? name with
        | some address => .ok (.ipv4 address)
        | none => .error .invalidIpv4
      else .ok (.domain name)

/-- Whether a character may not stand in a host of any scheme. -/
def isForbiddenAnywhere (c : Char) : Bool :=
  "\x00\t\n\r #/:<>?@[\\]^|".toList.contains c

/-- The host of any other scheme; it may be empty. -/
def ofAnyText (s : List Char) : Except Fault Host :=
  match s with
  | '[' :: rest => ofBracket rest
  | _ =>
    if s.any isForbiddenAnywhere then .error .invalidCharacter
    else .ok (.domain (Url.percentEncode Url.isControl s))

/-- The text of a host. -/
def text : Host → List Char
  | domain name => name
  | ipv4 address => ipv4Text address
  | ipv6 pieces => '[' :: ipv6Text pieces ++ [']']

end Host

end HeaderBidding
