import HeaderBidding.Codec.Basic
import HeaderBidding.Json.Print

/-!
# Writing values by their description

`Codec.toJson` gives the document of a value. The members of records stand in the order of the
description.
-/

namespace HeaderBidding

mutual

/-- The document of a value. -/
def Codec.toJson {α : Type} : Codec α → α → Json
  | .text, s => .text s
  | .word word, a => .whole (word.toWhole a)
  | .real, x => .real x
  | .choice choice, a => .text (choice.nameOf a)
  | .free, document => document
  | .list item, items => .list (items.map item.toJson)
  | .optional _, none => .null
  | .optional inner, some a => inner.toJson a
  | .pair first second, (a, b) => .list [first.toJson a, second.toJson b]
  | .dictionary value, entries => .object (entries.map fun entry => (entry.1, value.toJson entry.2))
  | .record _ fields shape, a => .object (fields.toMembers (shape.parts a))

/-- The members of a record. -/
def Fields.toMembers {β σ : Type} : Fields β σ → β → List (String × Json)
  | .nil, () => []
  | .cons name presence codec rest, (a, b) =>
    if presence.hides a then rest.toMembers b
    else (name, codec.toJson a) :: rest.toMembers b

end

/-- The text of a value, without any space. -/
def Codec.encode {α : Type} (codec : Codec α) (a : α) : String :=
  (codec.toJson a).toText

end HeaderBidding
