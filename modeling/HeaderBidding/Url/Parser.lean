import HeaderBidding.Text.Trim
import HeaderBidding.Url.Basic
import HeaderBidding.Url.Path

/-!
# Reading addresses

`Url.parse` reads an address by the rules of the web: space around it and line breaks in it mean
nothing, and slashes may be missing or too many where a host has to follow.
-/

namespace HeaderBidding.Url

/-- Why a text is no address. -/
inductive Fault where
  | noScheme
  | emptyHost
  | invalidPort
  | host (fault : Host.Fault)
  deriving DecidableEq

/-- The message of a fault. -/
def Fault.message : Fault → String
  | noScheme => "relative URL without a base"
  | emptyHost | host .empty => "empty host"
  | invalidPort => "invalid port number"
  | host .invalidIpv4 => "invalid IPv4 address"
  | host .invalidIpv6 => "invalid IPv6 address"
  | host .invalidName => "invalid international domain name"
  | host .invalidCharacter => "invalid domain character"

/-! ## Scheme -/

/-- Whether a character may stand in a scheme, behind the first. -/
def isSchemeChar (c : Char) : Bool :=
  c.isAlphanum || c == '+' || c == '-' || c == '.'

/-- Splits off the scheme, in lower case. -/
def splitScheme? (s : List Char) : Option (List Char × List Char) :=
  match s with
  | c :: _ =>
    if c.isAlpha then
      match s.dropWhile isSchemeChar with
      | ':' :: rest => some ((s.takeWhile isSchemeChar).map Char.toLower, rest)
      | _ => none
    else none
  | [] => none

/-- Whether a character around an address means nothing. -/
def isOutside (c : Char) : Bool :=
  c.toNat ≤ 32

/-- Whether a character in an address means nothing. -/
def isBreak (c : Char) : Bool :=
  c == '\t' || c == '\n' || c == '\r'

/-- An address without what means nothing. -/
def stripped (s : List Char) : List Char :=
  (Text.trimWhile isOutside s).filter fun c => !isBreak c

/-! ## Host -/

/-- Whether a character ends what stands before a path. -/
def endsAuthority (isSpecial : Bool) (c : Char) : Bool :=
  c == '/' || c == '?' || c == '#' || (isSpecial && c == '\\')

/-- Cuts a text at the last occurrence of a character. -/
def cutLast? (c : Char) (s : List Char) : Option (List Char × List Char) :=
  match s.reverse.span (· != c) with
  | (_, []) => none
  | (after, _ :: before) => some (before.reverse, after.reverse)

/-- The name and the password of a user, if there are any, and what follows them. -/
def splitUser (isSpecial : Bool) (s : List Char) : Option (List Char) × List Char :=
  match cutLast? '@' (s.takeWhile fun c => !endsAuthority isSpecial c) with
  | some (user, after) => (some user, after ++ s.dropWhile fun c => !endsAuthority isSpecial c)
  | none => (none, s)

/-- Splits off the host, which ends at a colon outside of brackets. -/
def splitHost (isSpecial inBrackets : Bool) : List Char → List Char × List Char
  | [] => ([], [])
  | c :: rest =>
    if (c = ':' ∧ inBrackets = false) ∨ endsAuthority isSpecial c then ([], c :: rest)
    else
      let (host, after) :=
        splitHost isSpecial (if c = '[' then true else if c = ']' then false else inBrackets) rest
      (c :: host, after)

/-- Reads the digits of a port, behind those of `port`. -/
def readPort (port : Option Nat) : List Char → Except Fault (Option Nat × List Char)
  | [] => .ok (port, [])
  | c :: rest =>
    if c.isDigit then
      let next := port.getD 0 * 10 + Decimal.digitValue c
      if next < 0x10000 then readPort (some next) rest else .error .invalidPort
    else if endsAuthority true c then .ok (port, c :: rest)
    else .error .invalidPort

/-- Splits the name of a user from the password. -/
def splitPassword (user : List Char) : List Char × List Char :=
  (user.takeWhile (· != ':'), (user.dropWhile (· != ':')).drop 1)

/-- Reads the host of a scheme. -/
def hostOf (kind : SchemeKind) (s : List Char) : Except Fault Host :=
  if kind.isSpecial then
    if s = [] then .error .emptyHost else (Host.ofText s).mapError .host
  else (Host.ofAnyText s).mapError .host

/-! ## Path, query and fragment -/

/-- Reads query and fragment. -/
def withTail (isSpecial : Bool) (s : List Char) (url : Url) : Url :=
  let query := s.takeWhile (· != '#')
  let url := match query with
    | '?' :: query =>
      let escaped := if isSpecial then inSpecialQuery else inQuery
      { url with query := some (percentEncode escaped query) }
    | _ => url
  match s.dropWhile (· != '#') with
  | '#' :: fragment => { url with fragment := some (percentEncode inFragment fragment) }
  | _ => url

/-- Whether a character ends a path. -/
def endsPath (c : Char) : Bool :=
  c == '?' || c == '#'

/-- Reads all from the path on. -/
def withPath (kind : SchemeKind) (s : List Char) (url : Url) : Url :=
  let path := s.takeWhile fun c => !endsPath c
  let behindSlash := match path with
    | '/' :: rest => rest
    | '\\' :: rest => if kind.isSpecial then rest else path
    | _ => path
  let path :=
    if path = [] ∧ kind.isSpecial = false then []
    else pathText kind.isSpecial (kind = .file) behindSlash
  withTail kind.isSpecial (s.dropWhile fun c => !endsPath c) { url with path }

/-- Reads a path that is no list of segments. -/
def withOpaquePath (s : List Char) (url : Url) : Url :=
  withTail false (s.dropWhile fun c => !endsPath c)
    { url with path := percentEncode isControl (s.takeWhile fun c => !endsPath c) }

/-! ## Addresses -/

/-- Reads what follows the two slashes in front of a host. -/
def parseAuthority (kind : SchemeKind) (s : List Char) (url : Url) : Except Fault Url :=
  let (user, afterUser) := splitUser kind.isSpecial s
  if user = some [] ∧ (afterUser.head?.any (endsAuthority kind.isSpecial)) then .error .emptyHost
  else
    let (name, password) := splitPassword (user.getD [])
    let username := percentEncode inUserinfo name
    let password := percentEncode inUserinfo password
    let (hostText, afterHost) := splitHost kind.isSpecial false afterUser
    match hostOf kind hostText with
    | .error fault => .error fault
    | .ok host =>
      let hasUser := username ≠ [] ∨ password ≠ []
      if host.text = [] ∧ (afterHost.head? = some ':' ∨ hasUser) then .error .emptyHost
      else
        match afterHost with
        | ':' :: rest =>
          match readPort none rest with
          | .error fault => .error fault
          | .ok (port, rest) =>
            let port := if port.map SchemeKind.network = some kind then none else port
            .ok (withPath kind rest { url with username, password, host := some host, port })
        | rest => .ok (withPath kind rest { url with username, password, host := some host })

/-- Reads the address of a file, behind the scheme. -/
def parseFile (s : List Char) (url : Url) : Except Fault Url :=
  let isSlash := fun c : Char => c == '/' || c == '\\'
  match s with
  | a :: b :: rest =>
    if isSlash a && isSlash b then
      let hostText := rest.takeWhile fun c => !endsAuthority true c
      if hostText = [] ∨ isDrive hostText then
        .ok (withPath .file rest { url with host := some (.domain []) })
      else
        match Host.ofText hostText with
        | .error fault => .error (.host fault)
        | .ok host =>
          let host := if host = .domain "localhost".toList then .domain [] else host
          .ok (withPath .file (rest.dropWhile fun c => !endsAuthority true c)
            { url with host := some host })
    else .ok (withPath .file s { url with host := some (.domain []) })
  | _ => .ok (withPath .file s { url with host := some (.domain []) })

/-- Reads an address. -/
def parse (text : String) : Except Fault Url :=
  match splitScheme? (stripped text.toList) with
  | none => .error .noScheme
  | some (scheme, rest) =>
    match SchemeKind.ofScheme scheme, rest with
    | .network port, rest =>
      parseAuthority (.network port) (rest.dropWhile fun c => c == '/' || c == '\\') { scheme }
    | .file, rest => parseFile rest { scheme }
    | .other, '/' :: '/' :: rest => parseAuthority .other rest { scheme }
    | .other, '/' :: rest => .ok (withPath .other ('/' :: rest) { scheme })
    | .other, rest => .ok (withOpaquePath rest { scheme })

end HeaderBidding.Url
