import HeaderBidding.Codec.Reader
import HeaderBidding.Proofs.SpelledNumbers

/-!
# What documents mean

`Codec.meaning?` says which value a spelled document stands for, if any.  It looks at the tree and
not at the characters: space, the spelling of texts and numbers, and the order of the members of an
object matter only through the values that they give.
-/

namespace HeaderBidding

namespace Json

variable {α σ : Type}

/-- The double of a number. -/
def Number.toFloat : Number → Float
  | .real x => x
  | .whole n => n.toFloat

/-- The word of a number, if it is whole and has one. -/
def Number.word? (word : Word α) : Number → Option α
  | .real _ => none
  | .whole n => word.ofWhole? n

/-- The key of a member, if it is a text. -/
def Entry.name? (entry : Entry Spelling) : Option String :=
  (spelledText? entry.key).map String.ofList

/-- Takes a member into account by its key and its value. -/
def Entry.take? (take : String → Spelling → σ → Option σ) (a : σ) (entry : Entry Spelling) :
    Option σ :=
  entry.name?.bind fun key => take key entry.value a

/-- Keeps a value under its key. -/
def keep? (value : Spelling → Option α) (key : String) (v : Spelling)
    (kept : List (String × α)) : Option (List (String × α)) :=
  (value v).map fun a => insertMember key a kept

namespace Spelling

/-- The text that a document is. -/
def text? : Spelling → Option String
  | .text glyphs => (spelledText? glyphs).map String.ofList
  | _ => none

/-- The number that a document is. -/
def number? : Spelling → Option Number
  | .number n => n.value?
  | _ => none

/-- The items of a list. -/
def items? : Spelling → Option (List Spelling)
  | .list _ items => some (items.map Spaced.value)
  | _ => none

/-- The members of an object. -/
def members? : Spelling → Option (List (Entry Spelling))
  | .object _ members => some members
  | _ => none

/-- The name of a choice, which may stand alone or, if there is room for an object, as its only
key. -/
def choice? (depth : Nat) : Spelling → Option String
  | .text glyphs => (spelledText? glyphs).map String.ofList
  | .object _ [entry] =>
    match entry.value with
    | .null => if depth = 0 then none else entry.name?
    | _ => none
  | _ => none

/-- A document of any shape, nested at most `depth` levels deep. -/
def document? : Nat → Spelling → Option Json
  | _, .null => some .null
  | _, .bool b => some (.bool b)
  | _, .number n => n.value?.map Number.toJson
  | _, .text glyphs => (spelledText? glyphs).map fun t => .text (String.ofList t)
  | 0, .list _ _ => none
  | 0, .object _ _ => none
  | depth + 1, .list _ items => ((items.map Spaced.value).mapM (document? depth)).map .list
  | depth + 1, .object _ members =>
    (members.foldlM (Entry.take? (keep? (document? depth))) []).map .object

end Spelling

end Json

open Json

mutual

/-- The value that a document stands for, where lists and objects are nested at most `depth` levels
deep. -/
def Codec.meaning? {α : Type} : Codec α → Nat → Spelling → Option α
  | .text, _, v => v.text?
  | .word word, _, v => v.number?.bind (Number.word? word)
  | .real, _, v => v.number?.map Number.toFloat
  | .choice choice, depth, v => (v.choice? depth).bind fun name => choice.names.lookup name
  | .free, depth, v => v.document? depth
  | .list _, 0, _ => none
  | .list item, depth + 1, v => v.items?.bind fun items => items.mapM (item.meaning? depth)
  | .optional inner, depth, v =>
    match v with
    | .null => some none
    | v => (inner.meaning? depth v).map some
  | .pair _ _, 0, _ => none
  | .pair first second, depth + 1, v =>
    match v.items? with
    | some [v, w] => (first.meaning? depth v).bind fun a => (second.meaning? depth w).map (a, ·)
    | _ => none
  | .dictionary _, 0, _ => none
  | .dictionary value, depth + 1, v =>
    v.members?.bind fun members => members.foldlM (Entry.take? (keep? (value.meaning? depth))) []
  | .record _ _ _, 0, _ => none
  | .record _ fields shape, depth + 1, v =>
    match v with
    | .list _ items => (fields.listed? depth (items.map Spaced.value)).map shape.make
    | .object _ members =>
      ((members.foldlM (Entry.take? (fields.take? depth)) fields.unread).bind fun slots =>
        (fields.finish slots).toOption).map shape.make
    | _ => none

/-- The values of a record that is written as a list. -/
def Fields.listed? {β σ : Type} : Fields β σ → Nat → List Spelling → Option β
  | .nil, _, [] => some ()
  | .nil, _, _ :: _ => none
  | .cons _ presence _ rest, depth, [] =>
    presence.beyond?.bind fun a => (rest.listed? depth []).map (a, ·)
  | .cons _ _ codec rest, depth, v :: vs =>
    (codec.meaning? depth v).bind fun a => (rest.listed? depth vs).map (a, ·)

/-- Takes a member of a record into account.  It must not have been there before; others than those
of the record do not matter. -/
def Fields.take? {β σ : Type} : Fields β σ → Nat → String → Spelling → σ → Option σ
  | .nil, _, _, _, () => some ()
  | .cons name _ codec rest, depth, key, v, (slot, slots) =>
    if key = name then
      match slot with
      | some _ => none
      | none => (codec.meaning? depth v).map fun a => (some a, slots)
    else (rest.take? depth key v slots).map fun slots => (slot, slots)

end

theorem Codec.meaning?_optional {α : Type} {inner : Codec α} {depth : Nat} {v : Spelling}
    (other : v ≠ .null) :
    (Codec.optional inner).meaning? depth v = (inner.meaning? depth v).map some := by
  cases v with
  | null => exact absurd rfl other
  | _ => simp only [meaning?]

namespace Fields

variable {α β σ : Type} {name : String} {presence : Presence α} {codec : Codec α}
  {rest : Fields β σ} {depth : Nat} {v : Spelling} {slots : σ}

theorem take?_self_none :
    (cons name presence codec rest).take? depth name v (none, slots) =
      (codec.meaning? depth v).map fun a => (some a, slots) := by
  simp only [take?, ↓reduceIte]

theorem take?_self_some (a : α) :
    (cons name presence codec rest).take? depth name v (some a, slots) = none := by
  simp only [take?, ↓reduceIte]

theorem take?_other {key : String} (different : key ≠ name) (slot : Option α) :
    (cons name presence codec rest).take? depth key v (slot, slots) =
      (rest.take? depth key v slots).map fun slots => (slot, slots) := by
  cases slot <;> simp only [take?, if_neg different]

end Fields

end HeaderBidding
