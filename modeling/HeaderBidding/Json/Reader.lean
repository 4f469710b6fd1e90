import HeaderBidding.Json.Number
import HeaderBidding.Json.Skip

/-!
# Readers

A reader takes a value from the front of a text and leaves less text than there was, which is what
lets lists and objects of any length be read by well-founded recursion. The first readers are
those of single texts and numbers, of lists and of objects; `Json.reader` reads a document of any
shape.
-/

namespace HeaderBidding

/-- Reads a value from the front of a text. -/
structure Reader (α : Type) where
  run : List Char → Except Fault (α × List Char)
  shrinks : ∀ {s r : List Char} {a : α}, run s = .ok (a, r) → r.length < s.length

/-- Why the inside of a list or an object could not be read. A cause without a place is placed
where the list or the object ends. -/
inductive Stop where
  | placed (fault : Fault)
  | unplaced (cause : Cause) (rest : List Char)

namespace Reader

variable {α β σ : Type}

/-- Reads a value and converts it. -/
def map (f : α → β) (reader : Reader α) : Reader β where
  run s :=
    match reader.run s with
    | .error fault => .error fault
    | .ok (a, r) => .ok (f a, r)
  shrinks := by
    intro s r b h
    split at h
    · simp at h
    · rename_i heq
      obtain ⟨-, rfl⟩ := Prod.mk.inj (Except.ok.inj h)
      exact reader.shrinks heq

/-- Reads a value and converts it, where values that cannot be converted are refused behind the
value. -/
def mapExcept (f : α → Except Cause β) (reader : Reader α) : Reader β where
  run s :=
    match reader.run s with
    | .error fault => .error fault
    | .ok (a, r) =>
      match f a with
      | .error cause => .error (.before cause r)
      | .ok b => .ok (b, r)
  shrinks := by
    intro s r b h
    split at h
    · simp at h
    · rename_i heq
      split at h
      · simp at h
      · obtain ⟨-, rfl⟩ := Prod.mk.inj (Except.ok.inj h)
        exact reader.shrinks heq

/-! ## Between brackets -/

/-- Ends what stands between brackets. A fault inside comes before one at the end. -/
def enclosed (close : List Char → Except Fault Unit × List Char)
    (inside : Except Stop (α × List Char)) : Except Fault (α × List Char) :=
  match inside with
  | .error (.placed fault) => .error fault
  | .error (.unplaced cause rest) => .error (.before cause (close rest).2)
  | .ok (a, rest) =>
    match close rest with
    | (.error fault, _) => .error fault
    | (.ok (), r) => .ok (a, r)

theorem enclosed_shrinks {close : List Char → Except Fault Unit × List Char}
    (closes : ∀ {s r : List Char}, close s = (.ok (), r) → r.length < s.length)
    {inside : Except Stop (α × List Char)} {a : α} {r : List Char}
    (h : enclosed close inside = .ok (a, r)) :
    ∃ rest, inside = .ok (a, rest) ∧ r.length < rest.length := by
  unfold enclosed at h
  split at h
  · simp at h
  · simp at h
  · rename_i b rest
    split at h
    · simp at h
    · rename_i heq
      obtain ⟨rfl, rfl⟩ := Prod.mk.inj (Except.ok.inj h)
      exact ⟨rest, rfl, closes heq⟩

/-- An outcome whose fault has its place. -/
def placed (outcome : Except Fault α) : Except Stop α :=
  match outcome with
  | .error fault => .error (.placed fault)
  | .ok a => .ok a

theorem placed_eq_ok {outcome : Except Fault α} {a : α} (h : placed outcome = .ok a) :
    outcome = .ok a := by
  cases outcome <;> simp_all [placed]

/-- Reads the items of a list, up to its end. -/
def items (item : Reader α) (isFirst : Bool) (s : List Char) :
    Except Fault (List α × List Char) :=
  match h : Json.nextItem isFirst s with
  | .error fault => .error fault
  | .ok none => .ok ([], s)
  | .ok (some t) =>
    match h' : item.run t with
    | .error fault => .error fault
    | .ok (a, r) =>
      have := Json.nextItem_shrinks h
      have := item.shrinks h'
      match items item false r with
      | .error fault => .error fault
      | .ok (rest, u) => .ok (a :: rest, u)
termination_by s.length

theorem items_length_le {item : Reader α} {isFirst : Bool} {s r : List Char} {all : List α}
    (h : items item isFirst s = .ok (all, r)) : r.length ≤ s.length := by
  fun_induction items item isFirst s generalizing all r with
  | case1 => simp at h
  | case2 =>
    obtain ⟨-, rfl⟩ := Prod.mk.inj (Except.ok.inj h)
    exact Nat.le_refl _
  | case3 => simp at h
  | case4 => simp at h
  | case5 isFirst s t h₁ a u h₂ _ _ rest v h₃ ih =>
    have := ih h₃
    obtain ⟨-, rfl⟩ := Prod.mk.inj (Except.ok.inj h)
    omega

/-- What is done with a member of an object, behind its key. -/
structure Step (σ : Type) where
  run : String → σ → List Char → Except Stop (σ × List Char)
  length_le : ∀ {key : String} {a b : σ} {s r : List Char},
    run key a s = .ok (b, r) → r.length ≤ s.length

/-- Reads the members of an object, up to its end. -/
def members (step : Step σ) (isFirst : Bool) (state : σ) (s : List Char) :
    Except Stop (σ × List Char) :=
  match h : Json.nextKey isFirst s with
  | .error fault => .error (.placed fault)
  | .ok none => .ok (state, s)
  | .ok (some t) =>
    match h' : Json.readText t with
    | .error fault => .error (.placed fault)
    | .ok (key, r) =>
      match h'' : step.run (String.ofList key) state r with
      | .error stop => .error stop
      | .ok (next, u) =>
        have := Json.nextKey_shrinks h
        have := Json.readText_shrinks h'
        have := step.length_le h''
        members step false next u
termination_by s.length

theorem members_length_le {step : Step σ} {isFirst : Bool} {a b : σ} {s r : List Char}
    (h : members step isFirst a s = .ok (b, r)) : r.length ≤ s.length := by
  fun_induction members step isFirst a s with
  | case1 => simp at h
  | case2 =>
    obtain ⟨-, rfl⟩ := Prod.mk.inj (Except.ok.inj h)
    exact Nat.le_refl _
  | case3 => simp at h
  | case4 => simp at h
  | case5 isFirst a s t h₁ key u h₂ next v h₃ _ _ _ ih =>
    have := ih h
    omega

/-- Members are kept under their keys, of those with one key the last. -/
def keep (value : Reader α) : Step (List (String × α)) where
  run key kept s :=
    match Json.colon s with
    | .error fault => .error (.placed fault)
    | .ok t =>
      match value.run t with
      | .error fault => .error (.placed fault)
      | .ok (a, r) => .ok (Json.insertMember key a kept, r)
  length_le := by
    intro key a b s r h
    split at h
    · simp at h
    · rename_i heq
      have := Json.colon_shrinks heq
      split at h
      · simp at h
      · rename_i heq'
        have := value.shrinks heq'
        obtain ⟨-, rfl⟩ := Prod.mk.inj (Except.ok.inj h)
        omega

/-- Reads what stands between brackets. -/
structure Inside (α : Type) where
  run : List Char → Except Stop (α × List Char)
  length_le : ∀ {s r : List Char} {a : α}, run s = .ok (a, r) → r.length ≤ s.length

/-- Reads all items of a list. -/
def allItems (item : Reader α) : Inside (List α) where
  run s := placed (items item true s)
  length_le h := items_length_le (placed_eq_ok h)

/-- Reads all members of an object. -/
def allMembers (step : Step σ) (start : σ) : Inside σ where
  run := members step true start
  length_le := members_length_le

/-- Reads a list behind its bracket; without a way to read what stands in it, it is nested too
deep. -/
def inList (inside? : Option (Inside α)) (s : List Char) : Except Fault (α × List Char) :=
  match inside? with
  | none => .error (.within .nestedTooDeep ('[' :: s))
  | some inside => enclosed Json.closeList (inside.run s)

/-- Reads an object behind its bracket; without a way to read what stands in it, it is nested too
deep. -/
def inObject (inside? : Option (Inside α)) (s : List Char) : Except Fault (α × List Char) :=
  match inside? with
  | none => .error (.within .nestedTooDeep ('{' :: s))
  | some inside => enclosed Json.closeObject (inside.run s)

theorem inList_shrinks {inside? : Option (Inside α)} {s r : List Char} {a : α}
    (h : inList inside? s = .ok (a, r)) : r.length < s.length := by
  unfold inList at h
  split at h
  · simp at h
  · rename_i inside
    obtain ⟨rest, read, shorter⟩ := enclosed_shrinks Json.closeList_shrinks h
    have := inside.length_le read
    omega

theorem inObject_shrinks {inside? : Option (Inside α)} {s r : List Char} {a : α}
    (h : inObject inside? s = .ok (a, r)) : r.length < s.length := by
  unfold inObject at h
  split at h
  · simp at h
  · rename_i inside
    obtain ⟨rest, read, shorter⟩ := enclosed_shrinks Json.closeObject_shrinks h
    have := inside.length_le read
    omega

end Reader

namespace Json

/-! ## Single values -/

/-- Reads a word, a number or a text in front of which there is no space. -/
def readScalar (s : List Char) : Except Fault (Json × List Char) :=
  match s with
  | [] => .error (.within .endInValue [])
  | '"' :: rest =>
    match readText rest with
    | .error fault => .error fault
    | .ok (t, r) => .ok (.text (String.ofList t), r)
  | 'n' :: rest =>
    match word ['u', 'l', 'l'] rest with
    | .error fault => .error fault
    | .ok r => .ok (.null, r)
  | 't' :: rest =>
    match word ['r', 'u', 'e'] rest with
    | .error fault => .error fault
    | .ok r => .ok (.bool true, r)
  | 'f' :: rest =>
    match word ['a', 'l', 's', 'e'] rest with
    | .error fault => .error fault
    | .ok r => .ok (.bool false, r)
  | c :: rest =>
    if c = '-' ∨ c.isDigit then
      match readNumber (c :: rest) with
      | .error fault => .error fault
      | .ok (n, r) => .ok (n.toJson, r)
    else .error (.within .expectedValue (c :: rest))

theorem readScalar_shrinks {s r : List Char} {v : Json} (h : readScalar s = .ok (v, r)) :
    r.length < s.length := by
  unfold readScalar at h
  split at h
  case h_1 => simp at h
  case h_2 =>
    split at h
    · simp at h
    · rename_i heq
      have := readText_shrinks heq
      simp_all
      omega
  case h_3 =>
    split at h
    · simp at h
    · rename_i heq
      have := word_shrinks heq
      simp_all
      omega
  case h_4 =>
    split at h
    · simp at h
    · rename_i heq
      have := word_shrinks heq
      simp_all
      omega
  case h_5 =>
    split at h
    · simp at h
    · rename_i heq
      have := word_shrinks heq
      simp_all
      omega
  case h_6 =>
    split at h
    · split at h
      · simp at h
      · rename_i heq
        obtain ⟨-, rfl⟩ := Prod.mk.inj (Except.ok.inj h)
        exact readNumber_shrinks heq
    · simp at h

/-- What a value is, where another was expected. -/
def found : Json → Found
  | null => .null
  | bool b => .bool b
  | whole n => .whole n
  | real x => .real x
  | text s => .text s
  | list _ => .list
  | object _ => .object

/-- The fault of a value of the wrong type, in front of which there is no space. Lists and objects
are not read; other values have to be sound before their type matters. -/
def mismatch (expected : String) (s : List Char) : Fault :=
  match s with
  | '[' :: rest => .before (.wrongType .list expected) ('[' :: rest)
  | '{' :: rest => .before (.wrongType .object expected) ('{' :: rest)
  | rest =>
    match readScalar rest with
    | .error fault => fault
    | .ok (v, r) => .before (.wrongType v.found expected) r

/-! ## Documents of any shape -/

/-- Reads a document, where `inner?` reads what is nested in it. -/
def readerOver (inner? : Option (Reader Json)) : Reader Json where
  run s :=
    match skipSpace s with
    | '[' :: rest =>
      match Reader.inList (inner?.map Reader.allItems) rest with
      | .error fault => .error fault
      | .ok (items, r) => .ok (.list items, r)
    | '{' :: rest =>
      match Reader.inObject
          (inner?.map fun inner => Reader.allMembers (Reader.keep inner) []) rest with
      | .error fault => .error fault
      | .ok (members, r) => .ok (.object members, r)
    | rest => readScalar rest
  shrinks := by
    intro s r v h
    have len := length_skipSpace_le s
    split at h
    · rename_i heq
      rw [heq] at len
      simp only [List.length_cons] at len
      split at h
      · simp at h
      · rename_i heq'
        have := Reader.inList_shrinks heq'
        obtain ⟨-, rfl⟩ := Prod.mk.inj (Except.ok.inj h)
        omega
    · rename_i heq
      rw [heq] at len
      simp only [List.length_cons] at len
      split at h
      · simp at h
      · rename_i heq'
        have := Reader.inObject_shrinks heq'
        obtain ⟨-, rfl⟩ := Prod.mk.inj (Except.ok.inj h)
        omega
    · have := readScalar_shrinks h
      omega

/-- Reads a document whose lists and objects are nested at most `depth` levels deep. -/
def reader : Nat → Reader Json
  | 0 => readerOver none
  | depth + 1 => readerOver (some (reader depth))

end Json

end HeaderBidding
