import HeaderBidding.Codec.Basic
import HeaderBidding.Json.Reader

/-!
# Reading values by their description

`Codec.decode` reads a text as a value. Records are read from objects, whose members may come in
any order, or from lists of the values in the order of the description. Unknown members are passed
over; a known member must not be repeated.

Values that are kept may be nested `Codec.depthLimit` levels deep.
-/

namespace HeaderBidding

namespace Reader

variable {α β σ : Type}

/-! ## Single values -/

/-- Reads a text. -/
def text (expected : String) : Reader String where
  run s :=
    match Json.skipSpace s with
    | '"' :: rest =>
      match Json.readText rest with
      | .error fault => .error fault
      | .ok (t, r) => .ok (String.ofList t, r)
    | rest => .error (Json.mismatch expected rest)
  shrinks := by
    intro s r a h
    have len := Json.length_skipSpace_le s
    split at h
    · rename_i heq
      rw [heq] at len
      split at h
      · simp at h
      · rename_i heq'
        have := Json.readText_shrinks heq'
        obtain ⟨-, rfl⟩ := Prod.mk.inj (Except.ok.inj h)
        simp only [List.length_cons] at len
        omega
    · simp at h

/-- Whether a number begins here. -/
def startsNumber : List Char → Bool
  | [] => false
  | c :: _ => c == '-' || c.isDigit

/-- Reads a number. -/
def number (expected : String) : Reader Json.Number where
  run s :=
    if startsNumber (Json.skipSpace s) then Json.readNumber (Json.skipSpace s)
    else .error (Json.mismatch expected (Json.skipSpace s))
  shrinks := by
    intro s r a h
    have len := Json.length_skipSpace_le s
    split at h
    · exact Nat.lt_of_lt_of_le (Json.readNumber_shrinks h) len
    · simp at h

/-- Reads a whole number of a type. -/
def word (word : Word α) : Reader α :=
  (number word.name).mapExcept fun
    | .real x => .error (.wrongType (.real x) word.name)
    | .whole n =>
      match word.ofWhole? n with
      | some a => .ok a
      | none => .error (.wrongValue (.whole n) word.name)

/-- Reads a double; whole numbers are rounded. -/
def real : Reader Float :=
  (number "f64").map fun
    | .real x => x
    | .whole n => n.toFloat

/-- Reads `null`. -/
def null (expected : String) : Reader Unit where
  run s :=
    match Json.skipSpace s with
    | 'n' :: rest =>
      match Json.word ['u', 'l', 'l'] rest with
      | .error fault => .error fault
      | .ok r => .ok ((), r)
    | rest => .error (Json.mismatch expected rest)
  shrinks := by
    intro s r a h
    have len := Json.length_skipSpace_le s
    split at h
    · rename_i heq
      rw [heq] at len
      split at h
      · simp at h
      · rename_i heq'
        have := Json.word_shrinks heq'
        obtain ⟨-, rfl⟩ := Prod.mk.inj (Except.ok.inj h)
        simp only [List.length_cons] at len
        omega
    · simp at h

/-- Reads `null` as no value. -/
def optional (inner : Reader α) : Reader (Option α) where
  run s :=
    match Json.skipSpace s with
    | 'n' :: rest =>
      match Json.word ['u', 'l', 'l'] rest with
      | .error fault => .error fault
      | .ok r => .ok (none, r)
    | rest => (inner.map some).run rest
  shrinks := by
    intro s r a h
    have len := Json.length_skipSpace_le s
    split at h
    · rename_i heq
      rw [heq] at len
      split at h
      · simp at h
      · rename_i heq'
        have := Json.word_shrinks heq'
        obtain ⟨-, rfl⟩ := Prod.mk.inj (Except.ok.inj h)
        simp only [List.length_cons] at len
        omega
    · exact Nat.lt_of_lt_of_le ((inner.map some).shrinks h) len

/-! ## Choices -/

/-- The value with a name. -/
def chosen (choice : Choice α) (name : String) : Except Cause α :=
  match choice.names.lookup name with
  | some a => .ok a
  | none => .error (.unknownVariant name (choice.names.map Prod.fst))

/-- Reads a choice as the only member of an object, whose value is `null`. -/
def choiceMember (choice : Choice α) (s : List Char) : Except Fault (α × List Char) :=
  match ((text "variant identifier").mapExcept (chosen choice)).run s with
  | .error fault => .error fault
  | .ok (a, r) =>
    match Json.colon r with
    | .error fault => .error fault
    | .ok t =>
      match (null "unit").run t with
      | .error fault => .error fault
      | .ok ((), u) =>
        match Json.skipSpace u with
        | [] => .error (.before .endInObject [])
        | '}' :: v => .ok (a, v)
        | rest => .error (.before .expectedValue rest)

theorem choiceMember_shrinks {choice : Choice α} {s r : List Char} {a : α}
    (h : choiceMember choice s = .ok (a, r)) : r.length < s.length := by
  unfold choiceMember at h
  split at h
  · simp at h
  · rename_i heq₁
    have := Reader.shrinks _ heq₁
    split at h
    · simp at h
    · rename_i heq₂
      have := Json.colon_shrinks heq₂
      split at h
      · simp at h
      · rename_i u heq₃
        have := Reader.shrinks _ heq₃
        have len := Json.length_skipSpace_le u
        split at h
        · simp at h
        · rename_i heq₄
          obtain ⟨-, rfl⟩ := Prod.mk.inj (Except.ok.inj h)
          rw [heq₄] at len
          simp only [List.length_cons] at len
          omega
        · simp at h

/-- Reads a choice, by its name or as an object; `mayNest` says whether an object may stand here. -/
def choice (choice : Choice α) (mayNest : Bool) : Reader α where
  run s :=
    match Json.skipSpace s with
    | [] => .error (.within .endInValue [])
    | '{' :: rest =>
      if mayNest then choiceMember choice rest
      else .error (.within .nestedTooDeep ('{' :: rest))
    | '"' :: rest =>
      ((text "variant identifier").mapExcept (chosen choice)).run ('"' :: rest)
    | rest => .error (.within .expectedValue rest)
  shrinks := by
    intro s r a h
    have len := Json.length_skipSpace_le s
    split at h
    · simp at h
    · rename_i heq
      rw [heq] at len
      split at h
      · have := choiceMember_shrinks h
        simp only [List.length_cons] at len
        omega
      · simp at h
    · rename_i heq
      rw [heq] at len
      have := Reader.shrinks _ h
      omega
    · simp at h

/-! ## Lists and dictionaries -/

/-- Reads a list. -/
def list (inside? : Option (Inside α)) (expected : String) : Reader α where
  run s :=
    match Json.skipSpace s with
    | '[' :: rest => inList inside? rest
    | rest => .error (Json.mismatch expected rest)
  shrinks := by
    intro s r a h
    have len := Json.length_skipSpace_le s
    split at h
    · rename_i heq
      rw [heq] at len
      have := inList_shrinks h
      simp only [List.length_cons] at len
      omega
    · simp at h

/-- Reads an object. -/
def object (inside? : Option (Inside α)) (expected : String) : Reader α where
  run s :=
    match Json.skipSpace s with
    | '{' :: rest => inObject inside? rest
    | rest => .error (Json.mismatch expected rest)
  shrinks := by
    intro s r a h
    have len := Json.length_skipSpace_le s
    split at h
    · rename_i heq
      rw [heq] at len
      have := inObject_shrinks h
      simp only [List.length_cons] at len
      omega
    · simp at h

/-! ## Records -/

/-- Reads a record from an object or from a list. -/
def either (listed? named? : Option (Inside α)) (expected : String) : Reader α where
  run s :=
    match Json.skipSpace s with
    | '[' :: rest => inList listed? rest
    | '{' :: rest => inObject named? rest
    | rest => .error (Json.mismatch expected rest)
  shrinks := by
    intro s r a h
    have len := Json.length_skipSpace_le s
    split at h
    · rename_i heq
      rw [heq] at len
      have := inList_shrinks h
      simp only [List.length_cons] at len
      omega
    · rename_i heq
      rw [heq] at len
      have := inObject_shrinks h
      simp only [List.length_cons] at len
      omega
    · simp at h

/-- Nothing more is read of a list. -/
def Inside.done : Inside Unit where
  run s := .ok ((), s)
  length_le h := by
    obtain ⟨-, rfl⟩ := Prod.mk.inj (Except.ok.inj h)
    exact Nat.le_refl _

/-- Reads the item at a place of a list, which may be absent if `beyond?` gives a value for it,
and then the rest. -/
def Inside.next (expected : String) (place : Nat) (item : Reader α) (beyond? : Option α)
    (rest : Inside β) : Inside (α × β) where
  run s :=
    match Json.nextItem (place == 0) s with
    | .error fault => .error (.placed fault)
    | .ok none =>
      match beyond? with
      | none => .error (.unplaced (.wrongLength place expected) s)
      | some a =>
        match rest.run s with
        | .error stop => .error stop
        | .ok (b, r) => .ok ((a, b), r)
    | .ok (some t) =>
      match item.run t with
      | .error fault => .error (.placed fault)
      | .ok (a, r) =>
        match rest.run r with
        | .error stop => .error stop
        | .ok (b, u) => .ok ((a, b), u)
  length_le := by
    intro s r a h
    split at h
    · simp at h
    · split at h
      · simp at h
      · split at h
        · simp at h
        · rename_i heq
          have := rest.length_le heq
          obtain ⟨-, rfl⟩ := Prod.mk.inj (Except.ok.inj h)
          omega
    · rename_i heq₁
      have := Json.nextItem_shrinks heq₁
      split at h
      · simp at h
      · rename_i heq₂
        have := item.shrinks heq₂
        split at h
        · simp at h
        · rename_i heq₃
          have := rest.length_le heq₃
          obtain ⟨-, rfl⟩ := Prod.mk.inj (Except.ok.inj h)
          omega

/-- Passes over a member that is not known. -/
def Step.skip : Step Unit where
  run _ _ s :=
    match Json.colon s with
    | .error fault => .error (.placed fault)
    | .ok t =>
      match Json.skipValue t with
      | .error fault => .error (.placed fault)
      | .ok r => .ok ((), r)
  length_le := by
    intro key a b s r h
    split at h
    · simp at h
    · rename_i heq
      split at h
      · simp at h
      · rename_i heq'
        obtain ⟨-, rfl⟩ := Prod.mk.inj (Except.ok.inj h)
        exact Nat.le_of_lt (Nat.lt_trans (Json.skipValue_shrinks heq') (Json.colon_shrinks heq))

/-- Reads the member `name`, once, and leaves other members to `rest`. -/
def Step.field (name : String) (value : Reader α) (rest : Step σ) : Step (Option α × σ) where
  run key state s :=
    if key = name then
      match state.1 with
      | some _ => .error (.unplaced (.duplicateField name) s)
      | none =>
        match Json.colon s with
        | .error fault => .error (.placed fault)
        | .ok t =>
          match value.run t with
          | .error fault => .error (.placed fault)
          | .ok (a, r) => .ok ((some a, state.2), r)
    else
      match rest.run key state.2 s with
      | .error stop => .error stop
      | .ok (slots, r) => .ok ((state.1, slots), r)
  length_le := by
    intro key a b s r h
    split at h
    · split at h
      · simp at h
      · split at h
        · simp at h
        · rename_i heq
          have := Json.colon_shrinks heq
          split at h
          · simp at h
          · rename_i heq'
            have := value.shrinks heq'
            obtain ⟨-, rfl⟩ := Prod.mk.inj (Except.ok.inj h)
            omega
    · split at h
      · simp at h
      · rename_i heq
        have := rest.length_le heq
        obtain ⟨-, rfl⟩ := Prod.mk.inj (Except.ok.inj h)
        omega

/-- Reads the members of a record. A member that is missing is noticed behind the last one. -/
def Inside.named (fields : Fields β σ) (step : Step σ) (make : β → α) : Inside α where
  run s :=
    match members step true fields.unread s with
    | .error stop => .error stop
    | .ok (slots, r) =>
      match fields.finish slots with
      | .error name => .error (.unplaced (.missingField name) r)
      | .ok b => .ok (make b, r)
  length_le := by
    intro s r a h
    split at h
    · simp at h
    · rename_i heq
      have := members_length_le heq
      split at h
      · simp at h
      · obtain ⟨-, rfl⟩ := Prod.mk.inj (Except.ok.inj h)
        exact this

/-- Converts what was read between brackets. -/
def Inside.map (f : α → β) (inside : Inside α) : Inside β where
  run s :=
    match inside.run s with
    | .error stop => .error stop
    | .ok (a, r) => .ok (f a, r)
  length_le := by
    intro s r a h
    split at h
    · simp at h
    · rename_i heq
      have := inside.length_le heq
      obtain ⟨-, rfl⟩ := Prod.mk.inj (Except.ok.inj h)
      exact this

end Reader

/-! ## By description -/

/-- The number of members. -/
def Fields.count {β σ : Type} (fields : Fields β σ) : Nat :=
  fields.names.length

/-- What a list with the values of a record is expected to be. -/
def Fields.listing {β σ : Type} (fields : Fields β σ) (label : String) : String :=
  "struct " ++ label ++ " with " ++ Decimal.naturalText fields.count ++
    if fields.count = 1 then " element" else " elements"

mutual

/-- Reads a value in which lists and objects are nested at most `depth` levels deep. -/
def Codec.reader {α : Type} : Codec α → Nat → Reader α
  | .text, _ => .text "a string"
  | .word word, _ => .word word
  | .real, _ => .real
  | .choice choice, depth => .choice choice (depth != 0)
  | .free, depth => Json.reader depth
  | .list _, 0 => .list none "a sequence"
  | .list item, depth + 1 => .list (some (Reader.allItems (item.reader depth))) "a sequence"
  | .optional inner, depth => .optional (inner.reader depth)
  | .pair _ _, 0 => .list none "a tuple of size 2"
  | .pair first second, depth + 1 =>
    let inside := Reader.Inside.next "a tuple of size 2" 0 (first.reader depth) none
      (Reader.Inside.next "a tuple of size 2" 1 (second.reader depth) none .done)
    .list (some (inside.map fun (a, b, ()) => (a, b))) "a tuple of size 2"
  | .dictionary _, 0 => .object none "a map"
  | .dictionary value, depth + 1 =>
    .object (some (Reader.allMembers (Reader.keep (value.reader depth)) [])) "a map"
  | .record label _ _, 0 => .either none none ("struct " ++ label)
  | .record label fields shape, depth + 1 =>
    .either (some ((fields.listed (fields.listing label) 0 depth).map shape.make))
      (some (.named fields (fields.step depth) shape.make)) ("struct " ++ label)

/-- Reads the values of a record from a list, from a place on. -/
def Fields.listed {β σ : Type} : Fields β σ → String → Nat → Nat → Reader.Inside β
  | .nil, _, _, _ => .done
  | .cons _ presence codec rest, expected, place, depth =>
    .next expected place (codec.reader depth) presence.beyond?
      (rest.listed expected (place + 1) depth)

/-- Reads a member of a record. -/
def Fields.step {β σ : Type} : Fields β σ → Nat → Reader.Step σ
  | .nil, _ => .skip
  | .cons name _ codec rest, depth => .field name (codec.reader depth) (rest.step depth)

end

namespace Codec

/-- How deep values that are kept may be nested. -/
def depthLimit : Nat := 127

/-- Reads a text as a value, with nothing but space around it. -/
def decode {α : Type} (codec : Codec α) (text : String) : Except Fault α :=
  match (codec.reader depthLimit).run text.toList with
  | .error fault => .error fault
  | .ok (a, r) =>
    match Json.skipSpace r with
    | [] => .ok a
    | rest => .error (.within .trailingCharacters rest)

end Codec

end HeaderBidding
