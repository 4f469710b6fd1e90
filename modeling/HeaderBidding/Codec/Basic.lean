import HeaderBidding.Json.Fault

/-!
# Descriptions of documents

A `Codec α` describes how values of type `α` stand in documents. It is data: writing and reading
are functions of the description, so that what holds of both is shown once, by induction over it.

The members of a record are described by `Fields β σ`, where `β` is the tuple of the values and
`σ` the tuple of what has been read so far.
-/

namespace HeaderBidding

/-- A type of numbers that stand in documents as whole numbers. -/
structure Word (α : Type) where
  /-- What is expected, in messages. -/
  name : String
  toWhole : α → Whole
  ofWhole? : Whole → Option α
  ofWhole?_toWhole : ∀ a, ofWhole? (toWhole a) = some a

/-- A type of a few values, each with a name of its own. -/
structure Choice (α : Type) where
  names : List (String × α)
  nameOf : α → String
  lookup_nameOf : ∀ a, names.lookup (nameOf a) = some a

/-- What it means that a member is not there. -/
structure Presence (α : Type) where
  /-- The value if the member is absent; without one it has to be there. -/
  absent? : Option α
  /-- The value if the record is written as a list that ends before the member. -/
  beyond? : Option α
  /-- Which values are not written. -/
  hides : α → Bool
  hides_absent : ∀ a, hides a = true → absent? = some a

namespace Presence

variable {α : Type}

/-- The member has to be there. -/
def required : Presence α where
  absent? := none
  beyond? := none
  hides _ := false
  hides_absent _ h := by simp at h

/-- The member may be absent, and is written as `null` if it has no value. -/
def nullable : Presence (Option α) where
  absent? := some none
  beyond? := none
  hides _ := false
  hides_absent _ h := by simp at h

/-- The member is written exactly if it has a value. -/
def optional : Presence (Option α) where
  absent? := some none
  beyond? := none
  hides := Option.isNone
  hides_absent a h := by cases a <;> simp_all

/-- The member has a value even if it is absent, and is always written. -/
def defaulted (a : α) : Presence α where
  absent? := some a
  beyond? := some a
  hides _ := false
  hides_absent _ h := by simp at h

/-- The list is written exactly if it has items. -/
def nonempty : Presence (List α) where
  absent? := some []
  beyond? := some []
  hides := List.isEmpty
  hides_absent a h := by cases a <;> simp_all

end Presence

/-- How the record type `α` is made up of the tuple `β`. -/
structure Shape (β α : Type) where
  make : β → α
  parts : α → β
  make_parts : ∀ a, make (parts a) = a

mutual

/-- How values of a type stand in documents. -/
inductive Codec : Type → Type 1 where
  | text : Codec String
  | word {α : Type} (word : Word α) : Codec α
  | real : Codec Float
  | choice {α : Type} (choice : Choice α) : Codec α
  /-- A document of any shape. -/
  | free : Codec Json
  | list {α : Type} (item : Codec α) : Codec (List α)
  | optional {α : Type} (inner : Codec α) : Codec (Option α)
  | pair {α β : Type} (first : Codec α) (second : Codec β) : Codec (α × β)
  /-- Entries sorted by key. -/
  | dictionary {α : Type} (value : Codec α) : Codec (List (String × α))
  | record {α β σ : Type} (label : String) (fields : Fields β σ) (shape : Shape β α) : Codec α

/-- The members of a record, in the order in which they are written. -/
inductive Fields : Type → Type → Type 1 where
  | nil : Fields Unit Unit
  | cons {α β σ : Type} (name : String) (presence : Presence α) (codec : Codec α)
    (rest : Fields β σ) : Fields (α × β) (Option α × σ)

end

namespace Fields

variable {α β σ : Type}

/-- A member that has to be there. -/
abbrev required (name : String) (codec : Codec α) (rest : Fields β σ) :
    Fields (α × β) (Option α × σ) :=
  .cons name .required codec rest

/-- A member that is written as `null` if it has no value. -/
abbrev nullable (name : String) (codec : Codec α) (rest : Fields β σ) :
    Fields (Option α × β) (Option (Option α) × σ) :=
  .cons name .nullable (.optional codec) rest

/-- A member that is written exactly if it has a value. -/
abbrev optional (name : String) (codec : Codec α) (rest : Fields β σ) :
    Fields (Option α × β) (Option (Option α) × σ) :=
  .cons name .optional (.optional codec) rest

/-- A member with a value even if it is absent. -/
abbrev defaulted (name : String) (a : α) (codec : Codec α) (rest : Fields β σ) :
    Fields (α × β) (Option α × σ) :=
  .cons name (.defaulted a) codec rest

/-- A list that is written exactly if it has items. -/
abbrev nonempty (name : String) (item : Codec α) (rest : Fields β σ) :
    Fields (List α × β) (Option (List α) × σ) :=
  .cons name .nonempty (.list item) rest

/-- The names of the members. -/
def names {β σ : Type} : Fields β σ → List String
  | .nil => []
  | .cons name _ _ rest => name :: rest.names

/-- Nothing has been read yet. -/
def unread {β σ : Type} : Fields β σ → σ
  | .nil => ()
  | .cons _ _ _ rest => (none, rest.unread)

/-- The values of a record all of whose members have been read, or the name of the first one that
is missing. -/
def finish {β σ : Type} : Fields β σ → σ → Except String β
  | .nil, () => .ok ()
  | .cons name presence _ rest, (slot, slots) =>
    match slot.or presence.absent? with
    | none => .error name
    | some a =>
      match rest.finish slots with
      | .error missing => .error missing
      | .ok b => .ok (a, b)

end Fields

end HeaderBidding
