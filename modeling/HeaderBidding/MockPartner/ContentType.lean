import HeaderBidding.Wire.Token

/-!
# Content types

Whether a content type announces a document: `application/json`, or an application type with the
suffix `json`, in any case and with any parameters. The type has to be well formed as a whole; space
around it means nothing.
-/

namespace HeaderBidding.MockPartner.ContentType

/-- Whether a character may stand in a quoted value. -/
def isQuotedChar (c : Char) : Bool :=
  31 < c.toNat && c.toNat < 127

/-- Splits off the token at the front. -/
def token (s : List Char) : List Char × List Char :=
  (s.takeWhile Wire.isTokenChar, s.dropWhile Wire.isTokenChar)

/-- What stands behind a quoted value: the next parameter, if there is one. -/
def afterQuoted (s : List Char) : Option (List Char) :=
  match s.dropWhile (· == ' ') with
  | [] => some []
  | ';' :: rest => some rest
  | _ => none

/-- What follows the value of a parameter, if that is well formed. A quoted value has at least one
character, which may be a quote itself. -/
def parameterValue (s : List Char) : Option (List Char) :=
  match s with
  | '"' :: c :: rest =>
    match rest.dropWhile (fun d => isQuotedChar d && d != '"') with
    | '"' :: after => if isQuotedChar c then afterQuoted after else none
    | _ => none
  | s =>
    match token s with
    | (_, []) => some []
    | (_ :: _, ';' :: rest) => some rest
    | _ => none

/-- Parameters are well formed, at most `count` of them. -/
def parameters : Nat → List Char → Bool
  | 0, _ => false
  | count + 1, s =>
    match s.dropWhile (· == ' ') with
    | [] => true
    | s =>
      match token s with
      | (_ :: _, '=' :: rest) =>
        match parameterValue rest with
        | some after => parameters count after
        | none => false
      | _ => false

/-- A subtype and its suffix, which begins at the last plus sign. -/
def splitSuffix (subtype : List Char) : List Char × Option (List Char) :=
  match subtype.reverse.span (· != '+') with
  | (_, []) => (subtype, none)
  | (_, [_]) => (subtype, none)
  | (suffix, _ :: main) => (main.reverse, some suffix.reverse)

/-- Whether a content type announces a document. -/
def isJson (contentType : String) : Bool :=
  match token ((Wire.trimmed contentType.toList).map Char.toLower) with
  | (type, '/' :: rest) =>
    let (subtype, after) := token rest
    let (main, suffix) := splitSuffix subtype
    let sound := match after with
      | [] => true
      | ';' :: rest => parameters (rest.length + 1) rest
      | _ => false
    type == "application".toList && (main == "json".toList || suffix == some "json".toList) && sound
  | _ => false

end HeaderBidding.MockPartner.ContentType
