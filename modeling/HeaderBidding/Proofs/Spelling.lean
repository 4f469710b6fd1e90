import HeaderBidding.Json.Print

/-!
# The grammar of documents

A `Spelling` is a document as it is written: a tree that keeps the space, the digits, the escapes
and the order and number of the members.  Its characters follow from it.  The parts of a spelling
carry what the grammar asks of them, so that there are no spellings of anything else.
-/

namespace HeaderBidding.Json

/-! ## Space -/

/-- The space of two places next to each other. -/
def Space.append (a b : Space) : Space where
  chars := a.chars ++ b.chars
  blank := by
    intro c mem
    rcases List.mem_append.mp mem with mem | mem
    · exact a.blank c mem
    · exact b.blank c mem

/-! ## Numbers -/

/-- One or more decimal digits. -/
structure Digits where
  chars : List Char
  nonempty : chars ≠ []
  digits : ∀ c ∈ chars, c.isDigit = true

/-- The exponent of a number, with its letter. -/
structure Exponent where
  letter : Char
  isLetter : letter = 'e' ∨ letter = 'E'
  sign : List Char
  isSign : sign = [] ∨ sign = ['+'] ∨ sign = ['-']
  digits : Digits

/-- A number.  There is no zero in front of its other digits. -/
structure Numeral where
  negative : Bool
  whole : Digits
  canonical : whole.chars.head? = some '0' → whole.chars = ['0']
  fraction : Option Digits
  exponent : Option Exponent

/-- The exponent, if there is one. -/
def exponentChars : Option Exponent → List Char
  | none => []
  | some e => e.letter :: (e.sign ++ e.digits.chars)

/-- The point and the digits behind it, if there are any. -/
def fractionChars : Option Digits → List Char
  | none => []
  | some digits => '.' :: digits.chars

namespace Numeral

/-- What stands behind the digits in front of the point. -/
def tail (n : Numeral) : List Char :=
  fractionChars n.fraction ++ exponentChars n.exponent

/-- The number without its sign. -/
def unsigned (n : Numeral) : List Char :=
  n.whole.chars ++ n.tail

/-- The characters of a number. -/
def chars (n : Numeral) : List Char :=
  if n.negative then '-' :: n.unsigned else n.unsigned

end Numeral

/-! ## Texts -/

/-- Whether a character is a hexadecimal digit. -/
def IsHexDigit (c : Char) : Prop :=
  c.isDigit = true ∨ ('a' ≤ c ∧ c ≤ 'f') ∨ ('A' ≤ c ∧ c ≤ 'F')
  deriving Decidable

/-- A code of four hexadecimal digits. -/
structure Code where
  chars : List Char
  length_chars : chars.length = 4
  hex : ∀ c ∈ chars, IsHexDigit c

/-- The number that is written by a code. -/
def Code.value (code : Code) : Nat :=
  code.chars.foldl (fun n c => n * 16 + (Decimal.hexValue? c).getD 0) 0

/-- The characters that may stand behind a backslash, but for the one that announces a code. -/
def escapes : List Char :=
  ['"', '\\', '/', 'b', 'f', 'n', 'r', 't']

/-- The character that an escape stands for. -/
def unescape : Char → Char
  | 'b' => '\x08'
  | 'f' => '\x0c'
  | 'n' => '\n'
  | 'r' => '\r'
  | 't' => '\t'
  | c => c

/-- A part of a text between its quotes. -/
inductive Glyph where
  | plain (c : Char) (plain : c ≠ '"' ∧ c ≠ '\\' ∧ ¬c < ' ')
  | escaped (c : Char) (known : c ∈ escapes)
  | coded (code : Code)

/-- The characters of a part of a text. -/
def Glyph.chars : Glyph → List Char
  | plain c _ => [c]
  | escaped c _ => ['\\', c]
  | coded code => '\\' :: 'u' :: code.chars

/-- The character of a pair of surrogates. -/
def pairChar (leading trailing : Nat) : Char :=
  Char.ofNat (0x10000 + (leading - 0xD800) * 1024 + (trailing - 0xDC00))

/-- The text that is spelled, if no surrogate in it lacks the other half of its pair. -/
def spelledText? : List Glyph → Option (List Char)
  | [] => some []
  | .plain c _ :: glyphs => (spelledText? glyphs).map (c :: ·)
  | .escaped c _ :: glyphs => (spelledText? glyphs).map (unescape c :: ·)
  | .coded code :: glyphs =>
    if isTrailing code.value then none
    else if isLeading code.value then
      match glyphs with
      | .coded second :: glyphs =>
        if isTrailing second.value then
          (spelledText? glyphs).map (pairChar code.value second.value :: ·)
        else none
      | _ => none
    else (spelledText? glyphs).map (Char.ofNat code.value :: ·)

/-! ## Documents -/

/-- An item of a list, with the space around it. -/
structure Spaced (α : Type) where
  before : Space
  value : α
  behind : Space

/-- A member of an object, with the space around its parts. -/
structure Entry (α : Type) where
  before : Space
  key : List Glyph
  between : Space
  ahead : Space
  value : α
  behind : Space

/-- A document as it is written, without the space around it. -/
inductive Spelling where
  | null
  | bool (b : Bool)
  | number (n : Numeral)
  | text (glyphs : List Glyph)
  | list (inside : Space) (items : List (Spaced Spelling))
  | object (inside : Space) (members : List (Entry Spelling))

/-- A text behind its opening quote. -/
def quotedChars (glyphs : List Glyph) : List Char :=
  glyphs.flatMap Glyph.chars ++ ['"']

/-- What stands in front of an item or a member. -/
def separator (isFirst : Bool) : List Char :=
  if isFirst then [] else [',']

mutual

/-- The characters of a document. -/
def Spelling.chars : Spelling → List Char
  | .null => ['n', 'u', 'l', 'l']
  | .bool true => ['t', 'r', 'u', 'e']
  | .bool false => ['f', 'a', 'l', 's', 'e']
  | .number n => n.chars
  | .text glyphs => '"' :: quotedChars glyphs
  | .list inside items => '[' :: (inside.chars ++ itemsChars true items)
  | .object inside members => '{' :: (inside.chars ++ membersChars true members)

/-- The items of a list from a place on, and its end. -/
def itemsChars (isFirst : Bool) : List (Spaced Spelling) → List Char
  | [] => [']']
  | ⟨before, value, behind⟩ :: items =>
    separator isFirst ++ (before.chars ++ (value.chars ++ (behind.chars ++ itemsChars false items)))

/-- The members of an object from a place on, and its end. -/
def membersChars (isFirst : Bool) : List (Entry Spelling) → List Char
  | [] => ['}']
  | ⟨before, key, between, ahead, value, behind⟩ :: members =>
    separator isFirst ++ (before.chars ++ ('"' :: (quotedChars key ++ (between.chars ++
      (':' :: (ahead.chars ++ (value.chars ++ (behind.chars ++ membersChars false members))))))))

end

/-- The text is a document, spelled like this, with nothing but space around it. -/
def Spelling.Spells (v : Spelling) (text : String) : Prop :=
  ∃ before behind : Space, text.toList = before.chars ++ (v.chars ++ behind.chars)

end HeaderBidding.Json
