import HeaderBidding.Host.Basic

/-!
# Addresses

An address names a scheme and, behind it, a host with a path, or a path alone. `Url.text` writes an
address in its canonical form.
-/

namespace HeaderBidding

/-- The schemes whose addresses have a host. -/
inductive SchemeKind where
  /-- A well-known scheme, with the port that is used if none is given. -/
  | network (port : Nat)
  | file
  | other
  deriving DecidableEq

/-- The kind of a scheme. -/
def SchemeKind.ofScheme (scheme : List Char) : SchemeKind :=
  if scheme = "http".toList ∨ scheme = "ws".toList then .network 80
  else if scheme = "https".toList ∨ scheme = "wss".toList then .network 443
  else if scheme = "ftp".toList then .network 21
  else if scheme = "file".toList then .file
  else .other

/-- Whether the addresses of a scheme are read by the rules of the web. -/
def SchemeKind.isSpecial : SchemeKind → Bool
  | network _ | file => true
  | other => false

/-- An address. The parts are in the form in which they are written. -/
structure Url where
  scheme : List Char
  username : List Char := []
  password : List Char := []
  /-- The host; an empty name if the address has a place for one, but none in it. -/
  host : Option Host := none
  port : Option Nat := none
  path : List Char := []
  query : Option (List Char) := none
  fragment : Option (List Char) := none

namespace Url

/-- The address without the name and the password of a user. -/
def withoutUser (url : Url) : Url :=
  { url with username := [], password := [] }

/-- The name and the password of a user, if there are any. -/
def userText (url : Url) : List Char :=
  if url.username = [] ∧ url.password = [] then []
  else url.username ++ (if url.password = [] then [] else ':' :: url.password) ++ ['@']

/-- The port, if it is given. -/
def portText (url : Url) : List Char :=
  match url.port with
  | some port => ':' :: Decimal.natural port
  | none => []

/-- The host, if there is one. -/
def hostText (url : Url) : List Char :=
  match url.host with
  | some host => host.text
  | none => []

/-- Whether the address has a host. -/
def hasHost (url : Url) : Bool :=
  !url.hostText.isEmpty

/-- What stands between the scheme and the path. A path that looks like a host is kept from being
one. -/
def authorityText (url : Url) : List Char :=
  match url.host with
  | some host => '/' :: '/' :: url.userText ++ host.text ++ url.portText
  | none => if "//".toList.isPrefixOf url.path then "/.".toList else []

/-- Query and fragment. -/
def tailText (url : Url) : List Char :=
  (match url.query with
    | some query => '?' :: query
    | none => []) ++
  match url.fragment with
    | some fragment => '#' :: fragment
    | none => []

/-- The canonical form of an address. -/
def text (url : Url) : String :=
  String.ofList (url.scheme ++ ':' :: url.authorityText ++ url.path ++ url.tailText)

/-- What is asked for at the host: path and query. -/
def target (url : Url) : String :=
  String.ofList (url.path ++
    match url.query with
    | some query => '?' :: query
    | none => [])

end Url

end HeaderBidding
