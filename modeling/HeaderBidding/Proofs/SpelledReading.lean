import HeaderBidding.Proofs.Meaning
import HeaderBidding.Proofs.SpelledValues

/-!
# Reading spelled documents

A reader follows a meaning if it reads every spelled document as the value that the document stands
for, and refuses those that stand for none.  The readers of single values do, and so do those of
lists and objects if the readers of items and members do.
-/

namespace HeaderBidding

namespace Json

variable {v : Spelling} {c : Char} {t rest : List Char}

/-! ## How documents begin -/

/-- Whether a document begins with a character. -/
def Spelling.starts : Spelling → Char → Bool
  | .null, c => c == 'n'
  | .bool b, c => c == if b then 't' else 'f'
  | .number _, c => c == '-' || c.isDigit
  | .text _, c => c == '"'
  | .list _ _, c => c == '['
  | .object _ _, c => c == '{'

theorem starts_of_chars (written : v.chars ++ rest = c :: t) : v.starts c = true := by
  cases v with
  | bool b => cases b <;> exact beq_iff_eq.mpr (List.cons.inj written).1.symm
  | number n =>
      obtain ⟨d, s, sign, first⟩ := n.exists_chars_eq_cons
      rw [Spelling.chars, sign, List.cons_append] at written
      obtain ⟨rfl, -⟩ := List.cons.inj written
      simpa [Spelling.starts] using first
  | _ => exact beq_iff_eq.mpr (List.cons.inj written).1.symm

theorem exists_text_of_chars (written : v.chars ++ rest = '"' :: t) :
    ∃ glyphs, v = .text glyphs ∧ t = quotedChars glyphs ++ rest := by
  have start := starts_of_chars written
  cases v with
  | text glyphs => exact ⟨glyphs, rfl, (List.cons.inj written).2.symm⟩
  | bool b => cases b <;> contradiction
  | _ => contradiction

theorem eq_null_of_chars (written : v.chars ++ rest = 'n' :: t) :
    v = .null ∧ t = 'u' :: 'l' :: 'l' :: rest := by
  have start := starts_of_chars written
  cases v with
  | null => exact ⟨rfl, (List.cons.inj written).2.symm⟩
  | bool b => cases b <;> contradiction
  | _ => contradiction

theorem exists_list_of_chars (written : v.chars ++ rest = '[' :: t) :
    ∃ inside items, v = .list inside items ∧
      t = inside.chars ++ (itemsChars true items ++ rest) := by
  have start := starts_of_chars written
  cases v with
  | list inside items =>
      refine ⟨inside, items, rfl, ?_⟩
      rw [← List.append_assoc]
      exact (List.cons.inj written).2.symm
  | bool b => cases b <;> contradiction
  | _ => contradiction

theorem exists_object_of_chars (written : v.chars ++ rest = '{' :: t) :
    ∃ inside members, v = .object inside members ∧
      t = inside.chars ++ (membersChars true members ++ rest) := by
  have start := starts_of_chars written
  cases v with
  | object inside members =>
      refine ⟨inside, members, rfl, ?_⟩
      rw [← List.append_assoc]
      exact (List.cons.inj written).2.symm
  | bool b => cases b <;> contradiction
  | _ => contradiction

end Json

namespace Reader

open Json

variable {α β σ : Type} {expected : String}

/-- The reader reads every spelled document as what it means. -/
def Follows (reader : Reader α) (meaning : Spelling → Option α) : Prop :=
  ∀ (v : Spelling) (space : Space) (rest : List Char), Delimits rest →
    (reader.run (space.chars ++ (v.chars ++ rest))).toOption = (meaning v).map (·, rest)

theorem Follows.congr {reader : Reader α} {meaning meaning' : Spelling → Option α}
    (follows : reader.Follows meaning) (same : ∀ v, meaning v = meaning' v) :
    reader.Follows meaning' :=
  funext same ▸ follows

/-! ## Single values -/

theorem toOption_map (f : α → β) (reader : Reader α) (s : List Char) :
    ((reader.map f).run s).toOption = (reader.run s).toOption.map fun p => (f p.1, p.2) := by
  simp only [map]
  cases reader.run s <;> rfl

theorem toOption_mapExcept (f : α → Except Cause β) (reader : Reader α) (s : List Char) :
    ((reader.mapExcept f).run s).toOption =
      (reader.run s).toOption.bind fun p => (f p.1).toOption.map (·, p.2) := by
  simp only [mapExcept]
  rcases reader.run s with _ | ⟨a, r⟩
  · rfl
  · cases h : f a <;> simp [h]

theorem map_follows {reader : Reader α} {meaning : Spelling → Option α}
    (follows : reader.Follows meaning) (f : α → β) :
    (reader.map f).Follows fun v => (meaning v).map f := by
  intro v space rest ends
  rw [toOption_map, follows v space rest ends, Option.map_map, Option.map_map]
  rfl

theorem mapExcept_follows {reader : Reader α} {meaning : Spelling → Option α}
    (follows : reader.Follows meaning) (f : α → Except Cause β) :
    (reader.mapExcept f).Follows fun v => (meaning v).bind fun a => (f a).toOption := by
  intro v space rest ends
  rw [toOption_mapExcept, follows v space rest ends, Option.bind_map, Option.map_bind]
  rfl

theorem toOption_text (expected : String) (space : Space) (glyphs : List Glyph) (rest : List Char) :
    ((text expected).run (space.chars ++ '"' :: (quotedChars glyphs ++ rest))).toOption =
      (spelledText? glyphs).map fun t => (String.ofList t, rest) := by
  have quote : skipSpace ('"' :: (quotedChars glyphs ++ rest)) =
      '"' :: (quotedChars glyphs ++ rest) := skipSpace_cons rfl _
  obtain ⟨none, fault, failed⟩ | ⟨t, some, read⟩ := refused_or_read (toOption_readText glyphs rest)
  · simp [text, quote, failed, none]
  · simp [text, quote, read, some]

theorem text_follows : (text expected).Follows Spelling.text? := by
  intro v space rest ends
  cases v with
  | text glyphs =>
      refine (toOption_text expected space glyphs rest).trans ?_
      rw [Spelling.text?, Option.map_map]
      rfl
  | _ =>
      simp only [text, skipSpace_space, skipSpace_chars]
      split
      · rename_i written
        obtain ⟨glyphs, same, -⟩ := exists_text_of_chars written
        contradiction
      · rfl

theorem number_follows : (number expected).Follows Spelling.number? := by
  intro v space rest ends
  simp only [number, skipSpace_space, skipSpace_chars]
  cases v with
  | number n =>
      obtain ⟨c, s, written, first⟩ := n.exists_chars_eq_cons
      have start : startsNumber ((Spelling.number n).chars ++ rest) = true := by
        simpa [startsNumber, Spelling.chars, written] using first
      rw [if_pos start]
      exact toOption_readNumber n ends.endsNumber
  | bool b => cases b <;> rfl
  | _ => rfl

theorem null_follows (expected : String) : (null expected).Follows fun v =>
    match v with
    | .null => some ()
    | _ => none := by
  intro v space rest ends
  simp only [null, skipSpace_space, skipSpace_chars]
  split
  · rename_i t written
    obtain ⟨rfl, rfl⟩ := eq_null_of_chars written
    rfl
  · rename_i other
    cases v with
    | null => exact absurd rfl (other _)
    | _ => rfl

theorem optional_follows {inner : Reader α} {meaning : Spelling → Option α}
    (follows : inner.Follows meaning) :
    (optional inner).Follows fun v =>
      match v with
      | .null => some none
      | v => (meaning v).map some := by
  intro v space rest ends
  simp only [optional, skipSpace_space, skipSpace_chars]
  split
  · rename_i t written
    obtain ⟨rfl, rfl⟩ := eq_null_of_chars written
    rfl
  · rename_i other
    have read := map_follows follows some v Space.none rest ends
    rw [Space.none_chars, List.nil_append] at read
    rw [read]
    cases v with
    | null => exact absurd rfl (other _)
    | _ => rfl

/-! ## Brackets -/

/-- What stands between brackets is read as the items of a list, from a place on. -/
def Inside.FollowsItems (inside : Inside α) (isFirst : Bool)
    (meaning : List Spelling → Option α) : Prop :=
  ∀ (items : List (Spaced Spelling)) (space : Space) (rest : List Char),
    (enclosed closeList
      (inside.run (space.chars ++ (itemsChars isFirst items ++ rest)))).toOption =
        (meaning (items.map Spaced.value)).map (·, rest)

/-- What stands between brackets is read as the members of an object. -/
def Inside.FollowsMembers (inside : Inside α) (meaning : List (Entry Spelling) → Option α) :
    Prop :=
  ∀ (members : List (Entry Spelling)) (space : Space) (rest : List Char),
    (enclosed closeObject
      (inside.run (space.chars ++ (membersChars true members ++ rest)))).toOption =
        (meaning members).map (·, rest)

theorem list_follows {inside : Inside α} {meaning : List Spelling → Option α}
    (follows : inside.FollowsItems true meaning) :
    (list (some inside) expected).Follows fun v => v.items?.bind meaning := by
  intro v space rest ends
  simp only [list, skipSpace_space, skipSpace_chars]
  split
  · rename_i t written
    obtain ⟨before, items, rfl, rfl⟩ := exists_list_of_chars written
    exact follows items before rest
  · rename_i other
    cases v with
    | list before items => exact absurd rfl (other _)
    | _ => rfl

theorem list_none_follows :
    (list (none : Option (Inside α)) expected).Follows fun _ => none := by
  intro v space rest ends
  simp only [list, inList]
  split <;> rfl

theorem object_follows {inside : Inside α} {meaning : List (Entry Spelling) → Option α}
    (follows : inside.FollowsMembers meaning) :
    (object (some inside) expected).Follows fun v => v.members?.bind meaning := by
  intro v space rest ends
  simp only [object, skipSpace_space, skipSpace_chars]
  split
  · rename_i t written
    obtain ⟨before, members, rfl, rfl⟩ := exists_object_of_chars written
    exact follows members before rest
  · rename_i other
    cases v with
    | object before members => exact absurd rfl (other _)
    | _ => rfl

theorem object_none_follows :
    (object (none : Option (Inside α)) expected).Follows fun _ => none := by
  intro v space rest ends
  simp only [object, inObject]
  split <;> rfl

theorem either_follows {listed named : Inside α} {listing : List Spelling → Option α}
    {naming : List (Entry Spelling) → Option α} (follows : listed.FollowsItems true listing)
    (follows' : named.FollowsMembers naming) :
    (either (some listed) (some named) expected).Follows fun v =>
      match v with
      | .list _ items => listing (items.map Spaced.value)
      | .object _ members => naming members
      | _ => none := by
  intro v space rest ends
  simp only [either, skipSpace_space, skipSpace_chars]
  split
  · rename_i t written
    obtain ⟨before, items, rfl, rfl⟩ := exists_list_of_chars written
    exact follows items before rest
  · rename_i t written
    obtain ⟨before, members, rfl, rfl⟩ := exists_object_of_chars written
    exact follows' members before rest
  · rename_i notList notObject
    cases v with
    | list before items => exact absurd rfl (notList _)
    | object before members => exact absurd rfl (notObject _)
    | _ => rfl

theorem either_none_follows :
    (either (none : Option (Inside α)) none expected).Follows fun _ => none := by
  intro v space rest ends
  simp only [either, inList, inObject]
  split <;> rfl

/-! ## Items -/

theorem nextItem_chars (isFirst : Bool) (space before : Space) (v : Spelling) (rest : List Char) :
    nextItem isFirst
      (space.chars ++ (separator isFirst ++ (before.chars ++ (v.chars ++ rest)))) =
        .ok (some (v.chars ++ rest)) := by
  obtain ⟨c, s, written, solid, comma, close⟩ := v.exists_chars_eq_cons
  cases isFirst with
  | true =>
      simp only [nextItem, separator, ↓reduceIte, List.nil_append, skipSpace_space, skipSpace_chars]
      rw [written, List.cons_append]
      split <;> simp_all
  | false =>
      have mark : skipSpace (',' :: (before.chars ++ (v.chars ++ rest))) =
          ',' :: (before.chars ++ (v.chars ++ rest)) := skipSpace_cons rfl _
      simp only [nextItem, separator, Bool.false_eq_true, ↓reduceIte, List.cons_append,
        List.nil_append, skipSpace_space, mark, skipSpace_chars]
      rw [written, List.cons_append]
      split <;> simp_all

theorem nextItem_end (isFirst : Bool) (space : Space) (rest : List Char) :
    nextItem isFirst (space.chars ++ ']' :: rest) = .ok none := by
  have close : skipSpace (']' :: rest) = ']' :: rest := skipSpace_cons rfl rest
  simp [nextItem, close]

theorem closeList_end (space : Space) (rest : List Char) :
    closeList (space.chars ++ ']' :: rest) = (.ok (), rest) := by
  have close : skipSpace (']' :: rest) = ']' :: rest := skipSpace_cons rfl rest
  simp [closeList, close]

theorem toOption_items_of_next {item : Reader α} {isFirst : Bool} {s t : List Char}
    (next : nextItem isFirst s = .ok (some t)) :
    (items item isFirst s).toOption = (item.run t).toOption.bind fun p =>
      (items item false p.2).toOption.map fun q => (p.1 :: q.1, q.2) := by
  rw [items]
  split
  · simp_all
  · simp_all
  · rename_i place found
    obtain rfl : place = t := by simp_all
    split
    · rename_i failed
      simp [failed]
    · rename_i a r taken
      simp only [taken, toOption_ok, Option.bind_some]
      rcases items item false r with _ | ⟨as, u⟩ <;> rfl

/-- The items of a list are read from any place on, up to its end. -/
theorem toOption_items {item : Reader α} {meaning : Spelling → Option α}
    (follows : item.Follows meaning) (spelled : List (Spaced Spelling)) (isFirst : Bool)
    (space : Space) (rest : List Char) : ∃ last : Space,
    (items item isFirst (space.chars ++ (itemsChars isFirst spelled ++ rest))).toOption =
      ((spelled.map Spaced.value).mapM meaning).map (·, last.chars ++ ']' :: rest) := by
  induction spelled generalizing isFirst space with
  | nil => exact ⟨space, congrArg Except.toOption (items_of_end (nextItem_end isFirst space rest))⟩
  | cons first spelled ih =>
      obtain ⟨before, v, behind⟩ := first
      obtain ⟨last, others⟩ := ih false behind
      refine ⟨last, ?_⟩
      have value := follows v Space.none (behind.chars ++ (itemsChars false spelled ++ rest))
        ((delimits_itemsChars spelled rest).space behind)
      rw [Space.none_chars, List.nil_append] at value
      simp only [itemsChars, List.append_assoc]
      rw [toOption_items_of_next (nextItem_chars isFirst space before v _), value, List.map_cons,
        List.mapM_cons]
      cases meaning v with
      | none => rfl
      | some a =>
          simp only [Option.map_some, Option.bind_some, others]
          cases (spelled.map Spaced.value).mapM meaning <;> rfl

theorem toOption_enclosed {close : List Char → Except Fault Unit × List Char} {meaning : Option α}
    {inside : Except Stop (α × List Char)} {end' rest : List Char}
    (read : inside.toOption = meaning.map (·, end')) (closes : close end' = (.ok (), rest)) :
    (enclosed close inside).toOption = meaning.map (·, rest) := by
  cases meaning with
  | none =>
      rcases inside with (_ | _) | _
      · rfl
      · rfl
      · contradiction
  | some a =>
      obtain rfl := toOption_eq_some_iff.mp read
      simp only [enclosed, closes]
      rfl

theorem allItems_follows {item : Reader α} {meaning : Spelling → Option α}
    (follows : item.Follows meaning) :
    (allItems item).FollowsItems true fun items => items.mapM meaning := by
  intro spelled space rest
  obtain ⟨last, read⟩ := toOption_items follows spelled true space rest
  refine toOption_enclosed ?_ (closeList_end last rest)
  rw [← read]
  simp only [allItems]
  cases items item true (space.chars ++ (itemsChars true spelled ++ rest)) <;> rfl

/-! ## Lists of given length -/

theorem toOption_enclosed_map {close : List Char → Except Fault Unit × List Char} (f : α → β)
    (inside : Inside α) (s : List Char) :
    (enclosed close ((inside.map f).run s)).toOption =
      (enclosed close (inside.run s)).toOption.map fun p => (f p.1, p.2) := by
  simp only [Inside.map]
  rcases inside.run s with (_ | _) | ⟨a, r⟩
  · rfl
  · rfl
  · simp only [enclosed]
    rcases close r with ⟨_ | _, _⟩ <;> rfl

theorem insideMap_follows {inside : Inside α} {isFirst : Bool} {meaning : List Spelling → Option α}
    (follows : inside.FollowsItems isFirst meaning) (f : α → β) :
    (inside.map f).FollowsItems isFirst fun items => (meaning items).map f := by
  intro spelled space rest
  rw [toOption_enclosed_map, follows spelled space rest, Option.map_map, Option.map_map]
  rfl

/-- A list does not end in front of an item. -/
theorem closeList_chars (isFirst : Bool) (space before : Space) (v : Spelling) (rest : List Char) :
    ∃ fault r, closeList
      (space.chars ++ (separator isFirst ++ (before.chars ++ (v.chars ++ rest)))) =
        (.error fault, r) := by
  obtain ⟨c, s, written, solid, comma, close⟩ := v.exists_chars_eq_cons
  cases isFirst with
  | true =>
      simp only [closeList, separator, ↓reduceIte, List.nil_append, skipSpace_space,
        skipSpace_chars]
      rw [written, List.cons_append]
      split <;> simp_all
  | false =>
      have mark : skipSpace (',' :: (before.chars ++ (v.chars ++ rest))) =
          ',' :: (before.chars ++ (v.chars ++ rest)) := skipSpace_cons rfl _
      simp only [closeList, separator, Bool.false_eq_true, ↓reduceIte, List.cons_append,
        List.nil_append, skipSpace_space, mark, skipSpace_chars]
      split <;> exact ⟨_, _, rfl⟩

theorem done_follows (isFirst : Bool) : Inside.done.FollowsItems isFirst fun items =>
    match items with
    | [] => some ()
    | _ :: _ => none := by
  intro spelled space rest
  cases spelled with
  | nil =>
      have read : (Inside.done.run (space.chars ++ ']' :: rest)).toOption =
          (some ()).map (·, space.chars ++ ']' :: rest) := rfl
      exact toOption_enclosed read (closeList_end space rest)
  | cons first spelled =>
      obtain ⟨before, v, behind⟩ := first
      obtain ⟨fault, r, fails⟩ := closeList_chars isFirst space before v
        (behind.chars ++ (itemsChars false spelled ++ rest))
      simp only [itemsChars, List.append_assoc, Inside.done, enclosed, fails]
      rfl

theorem next_follows {item : Reader α} {meaning : Spelling → Option α} {beyond? : Option α}
    {others : Inside β} {meaning' : List Spelling → Option β} (place : Nat)
    (follows : item.Follows meaning) (follows' : others.FollowsItems false meaning') :
    (Inside.next expected place item beyond? others).FollowsItems (place == 0) fun items =>
      match items with
      | [] => beyond?.bind fun a => (meaning' []).map (a, ·)
      | v :: vs => (meaning v).bind fun a => (meaning' vs).map (a, ·) := by
  intro spelled space rest
  cases spelled with
  | nil =>
      have ended := nextItem_end (place == 0) space rest
      have left (a : α) := insideMap_follows follows' (fun b => (a, b)) [] space rest
      simp only [itemsChars, List.cons_append, List.nil_append, Inside.next, ended] at left ⊢
      cases beyond? with
      | none => rfl
      | some a => exact left a
  | cons first spelled =>
      obtain ⟨before, v, behind⟩ := first
      have next := nextItem_chars (place == 0) space before v
        (behind.chars ++ (itemsChars false spelled ++ rest))
      have value := follows v Space.none (behind.chars ++ (itemsChars false spelled ++ rest))
        ((delimits_itemsChars spelled rest).space behind)
      have left (a : α) := insideMap_follows follows' (fun b => (a, b)) spelled behind rest
      rw [Space.none_chars, List.nil_append] at value
      simp only [itemsChars, List.append_assoc, Inside.next, next, List.map_cons]
      obtain ⟨none, fault, failed⟩ | ⟨a, some, read⟩ := refused_or_read value
      · simp only [failed, none]
        rfl
      · simp only [read, some]
        exact left a

/-! ## Members -/

/-- The step takes every spelled member into account by its key and what its value means. -/
def Step.Follows (step : Step σ) (take : String → Spelling → σ → Option σ) : Prop :=
  ∀ (key : String) (v : Spelling) (a : σ) (between ahead : Space) (rest : List Char),
    Delimits rest →
    (step.run key a (between.chars ++ ':' :: (ahead.chars ++ (v.chars ++ rest)))).toOption =
      (take key v a).map (·, rest)

theorem nextKey_chars (isFirst : Bool) (space before : Space) (s : List Char) :
    nextKey isFirst (space.chars ++ (separator isFirst ++ (before.chars ++ '"' :: s))) =
      .ok (some s) := by
  have quote : skipSpace ('"' :: s) = '"' :: s := skipSpace_cons rfl s
  have mark : skipSpace (',' :: (before.chars ++ '"' :: s)) = ',' :: (before.chars ++ '"' :: s) :=
    skipSpace_cons rfl _
  cases isFirst <;> simp [nextKey, separator, quote, mark]

theorem nextKey_end (isFirst : Bool) (space : Space) (rest : List Char) :
    nextKey isFirst (space.chars ++ '}' :: rest) = .ok none := by
  have close : skipSpace ('}' :: rest) = '}' :: rest := skipSpace_cons rfl rest
  simp [nextKey, close]

theorem closeObject_end (space : Space) (rest : List Char) :
    closeObject (space.chars ++ '}' :: rest) = (.ok (), rest) := by
  have close : skipSpace ('}' :: rest) = '}' :: rest := skipSpace_cons rfl rest
  simp [closeObject, close]

theorem toOption_members_of_next {step : Step σ} {isFirst : Bool} {a : σ} {s t : List Char}
    (next : nextKey isFirst s = .ok (some t)) :
    (members step isFirst a s).toOption = (readText t).toOption.bind fun p =>
      (step.run (String.ofList p.1) a p.2).toOption.bind fun q =>
        (members step false q.1 q.2).toOption := by
  rw [members]
  split
  · simp_all
  · simp_all
  · rename_i place found
    obtain rfl : place = t := by simp_all
    split
    · rename_i failed
      simp [failed]
    · rename_i key r read
      simp only [read, toOption_ok, Option.bind_some]
      split
      · rename_i failed
        simp [failed]
      · rename_i stepped
        simp [stepped]

/-- The members of an object are read from any place on, up to its end. -/
theorem toOption_members {step : Step σ} {take : String → Spelling → σ → Option σ}
    (follows : step.Follows take) (spelled : List (Entry Spelling)) (isFirst : Bool) (a : σ)
    (space : Space) (rest : List Char) : ∃ last : Space,
    (members step isFirst a (space.chars ++ (membersChars isFirst spelled ++ rest))).toOption =
      (spelled.foldlM (Entry.take? take) a).map (·, last.chars ++ '}' :: rest) := by
  induction spelled generalizing isFirst a space with
  | nil =>
      exact ⟨space, congrArg Except.toOption (members_of_end (nextKey_end isFirst space rest))⟩
  | cons first spelled ih =>
      obtain ⟨before, key, between, ahead, v, behind⟩ := first
      have ends := (delimits_membersChars spelled rest).space behind
      simp only [membersChars, List.append_assoc, List.cons_append]
      rw [toOption_members_of_next (nextKey_chars isFirst space before _), toOption_readText,
        List.foldlM_cons, Entry.take?, Entry.name?]
      cases spelledText? key with
      | none => exact ⟨Space.none, rfl⟩
      | some name =>
          simp only [Option.map_some, Option.bind_some, follows _ v a between ahead _ ends]
          cases take (String.ofList name) v a with
          | none => exact ⟨Space.none, rfl⟩
          | some b => exact ih false b behind

theorem allMembers_follows {step : Step σ} {take : String → Spelling → σ → Option σ}
    (follows : step.Follows take) (start : σ) :
    (allMembers step start).FollowsMembers fun members =>
      members.foldlM (Entry.take? take) start := by
  intro spelled space rest
  obtain ⟨last, read⟩ := toOption_members follows spelled true start space rest
  exact toOption_enclosed read (closeObject_end last rest)

theorem skip_follows : Step.skip.Follows fun _ _ _ => some () := by
  intro key v a between ahead rest ends
  simp only [Step.skip, colon_space, skipValue_chars v ahead ends]
  rfl

theorem field_follows {name : String} {value : Reader α} {meaning : Spelling → Option α}
    {others : Step σ} {take : String → Spelling → σ → Option σ} (follows : value.Follows meaning)
    (follows' : others.Follows take) :
    (Step.field name value others).Follows fun key v state =>
      if key = name then
        match state.1 with
        | some _ => none
        | none => (meaning v).map fun a => (some a, state.2)
      else (take key v state.2).map fun slots => (state.1, slots) := by
  rintro key v ⟨slot, slots⟩ between ahead rest ends
  simp only [Step.field, colon_space]
  split_ifs
  · cases slot with
    | some a => rfl
    | none =>
        obtain ⟨none, fault, failed⟩ | ⟨a, some, read⟩ :=
          refused_or_read (follows v ahead rest ends)
        · simp only [failed, none]
          rfl
        · simp only [read, some]
          rfl
  · obtain ⟨none, stop, failed⟩ | ⟨slots', some, stepped⟩ :=
      refused_or_read (follows' key v slots between ahead rest ends)
    · simp only [failed, none]
      rfl
    · simp only [stepped, some]
      rfl

theorem keep_follows {value : Reader α} {meaning : Spelling → Option α}
    (follows : value.Follows meaning) : (keep value).Follows (keep? meaning) := by
  intro key v kept between ahead rest ends
  simp only [keep, keep?, colon_space]
  obtain ⟨none, fault, failed⟩ | ⟨a, some, read⟩ := refused_or_read (follows v ahead rest ends)
  · simp only [failed, none]
    rfl
  · simp only [read, some]
    rfl

theorem named_follows {fields : Fields β σ} {step : Step σ} {make : β → α}
    {take : String → Spelling → σ → Option σ} (follows : step.Follows take) :
    (Inside.named fields step make).FollowsMembers fun members =>
      ((members.foldlM (Entry.take? take) fields.unread).bind fun slots =>
        (fields.finish slots).toOption).map make := by
  intro spelled space rest
  obtain ⟨last, read⟩ := toOption_members follows spelled true fields.unread space rest
  refine toOption_enclosed ?_ (closeObject_end last rest)
  simp only [Inside.named]
  obtain ⟨none, stop, failed⟩ | ⟨slots, some, taken⟩ := refused_or_read read
  · simp only [failed, none]
    rfl
  · simp only [taken, some]
    cases h : fields.finish slots <;> simp [h]

end Reader

end HeaderBidding
