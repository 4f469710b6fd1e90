import HeaderBidding.Decimal.Real
import HeaderBidding.Json.Value
import HeaderBidding.Text.Quoted

/-!
# Why a document is refused

A `Fault` is the cause for which a text is refused, and the number of bytes of the text that lie
behind the place of the fault; line and column follow from that and the text. Causes fall into
three categories: the text ends early, it is malformed, or it is a document of the wrong shape.
-/

namespace HeaderBidding

/-- What was found where a value of another type was expected. -/
inductive Found where
  | null
  | bool (b : Bool)
  | whole (n : Whole)
  | real (x : Float)
  | text (s : String)
  | list
  | object

/-- Why a document is refused. -/
inductive Cause where
  | endInList
  | endInObject
  | endInText
  | endInValue
  | expectedColon
  | expectedListCommaOrEnd
  | expectedObjectCommaOrEnd
  | expectedWord
  | expectedValue
  | invalidEscape
  | invalidNumber
  | numberOutOfRange
  | controlCharacter
  | keyNotText
  | loneSurrogate
  | trailingComma
  | trailingCharacters
  | unfinishedEscape
  | nestedTooDeep
  | wrongType (found : Found) (expected : String)
  | wrongValue (found : Found) (expected : String)
  | wrongLength (length : Nat) (expected : String)
  | unknownVariant (name : String) (known : List String)
  | missingField (name : String)
  | duplicateField (name : String)
  /-- A refusal worded by the description of the value itself. -/
  | custom (message : String)

/-- The three categories of causes. -/
inductive Category where
  | early
  | malformed
  | shape
  deriving DecidableEq

/-- A cause and its place, counted in bytes from the end of the text. -/
structure Fault where
  cause : Cause
  left : Nat

/-- A place in a text: the line, counted from one, and the bytes before the place in it. -/
structure Position where
  line : Nat
  column : Nat
  deriving DecidableEq

/-- A name between back quotes. -/
def backquoted (name : String) : String :=
  String.ofList ('\x60' :: name.toList ++ ['\x60'])

/-- The description of what was found. -/
def Found.description : Found → String
  | .null => "null"
  | .bool b => "boolean " ++ backquoted (if b then "true" else "false")
  | .whole n => "integer " ++ backquoted (Decimal.integerText n.val)
  | .real x => "floating point " ++ backquoted (String.ofList (Decimal.real .document x))
  | .text s => "string " ++ Text.quoted s
  | .list => "sequence"
  | .object => "map"

namespace Cause

/-- The list of known names in a message. -/
def knownNames : List String → String
  | [] => "there are no variants"
  | [a] => "expected " ++ backquoted a
  | [a, b] => "expected " ++ backquoted a ++ " or " ++ backquoted b
  | names => "expected one of " ++ String.intercalate ", " (names.map backquoted)

/-- The message of a cause, without its place. -/
def message : Cause → String
  | endInList => "EOF while parsing a list"
  | endInObject => "EOF while parsing an object"
  | endInText => "EOF while parsing a string"
  | endInValue => "EOF while parsing a value"
  | expectedColon => "expected " ++ backquoted ":"
  | expectedListCommaOrEnd => "expected " ++ backquoted "," ++ " or " ++ backquoted "]"
  | expectedObjectCommaOrEnd => "expected " ++ backquoted "," ++ " or " ++ backquoted "\x7d"
  | expectedWord => "expected ident"
  | expectedValue => "expected value"
  | invalidEscape => "invalid escape"
  | invalidNumber => "invalid number"
  | numberOutOfRange => "number out of range"
  | controlCharacter => "control character (\\u0000-\\u001F) found while parsing a string"
  | keyNotText => "key must be a string"
  | loneSurrogate => "lone leading surrogate in hex escape"
  | trailingComma => "trailing comma"
  | trailingCharacters => "trailing characters"
  | unfinishedEscape => "unexpected end of hex escape"
  | nestedTooDeep => "recursion limit exceeded"
  | wrongType found expected => "invalid type: " ++ found.description ++ ", expected " ++ expected
  | wrongValue found expected => "invalid value: " ++ found.description ++ ", expected " ++ expected
  | wrongLength length expected =>
    "invalid length " ++ Decimal.naturalText length ++ ", expected " ++ expected
  | unknownVariant name known => "unknown variant " ++ backquoted name ++ ", " ++ knownNames known
  | missingField name => "missing field " ++ backquoted name
  | duplicateField name => "duplicate field " ++ backquoted name
  | custom message => message

/-- The category of a cause. -/
def category : Cause → Category
  | endInList | endInObject | endInText | endInValue => .early
  | wrongType .. | wrongValue .. | wrongLength .. | unknownVariant .. | missingField _
  | duplicateField _ | custom _ => .shape
  | _ => .malformed

end Cause

/-- The number of bytes of a text. -/
def byteCount (s : List Char) : Nat :=
  s.foldl (fun n c => n + c.utf8Size) 0

namespace Fault

/-- A fault in front of the rest of the text. -/
def before (cause : Cause) (rest : List Char) : Fault :=
  ⟨cause, byteCount rest⟩

/-- A fault one byte into the rest of the text, or at its end. -/
def within (cause : Cause) (rest : List Char) : Fault :=
  ⟨cause, byteCount rest - 1⟩

/-- The place `count` bytes into a text, starting from a place. -/
def placeAfter (position : Position) (count : Nat) : List Char → Position
  | [] => position
  | c :: rest =>
    if count = 0 then position
    else if c = '\n' then placeAfter ⟨position.line + 1, 0⟩ (count - 1) rest
    else if count < c.utf8Size then { position with column := position.column + count }
    else placeAfter { position with column := position.column + c.utf8Size }
      (count - c.utf8Size) rest

/-- Where in the text the fault lies. -/
def position (fault : Fault) (text : String) : Position :=
  placeAfter ⟨1, 0⟩ (byteCount text.toList - fault.left) text.toList

/-- The message of a fault with its place in the text. -/
def messageIn (fault : Fault) (text : String) : String :=
  let place := fault.position text
  fault.cause.message ++ " at line " ++ Decimal.naturalText place.line ++ " column " ++
    Decimal.naturalText place.column

end Fault

end HeaderBidding
