import HeaderBidding.Json.Quoted

/-!
# Documents as text

A `Layout` says which space stands between the parts of a document: none, or that of lines that are
indented by two spaces a level. A double that is not finite has no written form and becomes `null`.
-/

namespace HeaderBidding.Json

/-- The text of a double in a document. -/
def writeReal (x : Float) : List Char :=
  if x.isNaN || x.isInf then "null".toList else Decimal.real .document x

/-- The text of a document that holds no other. -/
def writeFlat : Json → List Char
  | null => "null".toList
  | bool true => "true".toList
  | bool false => "false".toList
  | whole n => Decimal.integer n.val
  | real x => writeReal x
  | text s => writeText s.toList
  | list _ => ['[', ']']
  | object _ => ['{', '}']

/-! ## Layouts -/

/-- What may stand between the parts of a document. -/
structure Space where
  chars : List Char
  blank : ∀ c ∈ chars, isSpace c = true

/-- No space at all. -/
def Space.none : Space where
  chars := []
  blank := by simp

/-- The start of a line at a level. -/
def Space.newLine (level : Nat) : Space where
  chars := '\n' :: List.replicate (2 * level) ' '
  blank := by
    intro c mem
    rcases List.mem_cons.mp mem with rfl | mem
    · rfl
    · rw [List.eq_of_mem_replicate mem]
      rfl

/-- The space between the parts of a document. -/
structure Layout where
  /-- What stands in front of an item, a member or a closing bracket at a level. -/
  line : Nat → Space
  /-- What stands behind a colon. -/
  gap : Space

namespace Layout

/-- Everything follows without any space. -/
def dense : Layout where
  line _ := .none
  gap := .none

/-- Items and members stand on lines of their own. -/
def lines : Layout where
  line := .newLine
  gap := ⟨[' '], by simp [isSpace]⟩

end Layout

/-! ## Documents -/

mutual

/-- A document that begins at a level. -/
def write (layout : Layout) (level : Nat) : Json → List Char
  | list (item :: items) =>
    '[' :: (layout.line (level + 1)).chars ++ write layout (level + 1) item ++
      writeItems layout level items
  | object ((key, value) :: members) =>
    '{' :: (layout.line (level + 1)).chars ++ writeText key.toList ++ ':' :: layout.gap.chars ++
      write layout (level + 1) value ++ writeMembers layout level members
  | value => writeFlat value

/-- The items behind the first, and the end of the list. -/
def writeItems (layout : Layout) (level : Nat) : List Json → List Char
  | [] => (layout.line level).chars ++ [']']
  | item :: items =>
    ',' :: (layout.line (level + 1)).chars ++ write layout (level + 1) item ++
      writeItems layout level items

/-- The members behind the first, and the end of the object. -/
def writeMembers (layout : Layout) (level : Nat) : List (String × Json) → List Char
  | [] => (layout.line level).chars ++ ['}']
  | (key, value) :: members =>
    ',' :: (layout.line (level + 1)).chars ++ writeText key.toList ++ ':' :: layout.gap.chars ++
      write layout (level + 1) value ++ writeMembers layout level members

end

/-- The text of a document without any space. -/
def toText (document : Json) : String :=
  String.ofList (document.write .dense 0)

/-- The text of a document over several lines. -/
def toLines (document : Json) : String :=
  String.ofList (document.write .lines 0)

end HeaderBidding.Json
