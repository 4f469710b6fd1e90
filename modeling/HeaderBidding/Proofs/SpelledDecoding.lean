import HeaderBidding.Proofs.SpelledReading

/-!
# Decoding spelled documents

`Codec.decode` follows `Codec.meaning?`: a spelled document is decoded as the value that it stands
for, and refused if it stands for none.  This is shown by induction over the description, from what
the readers of texts and numbers, of lists and of objects do.
-/

namespace HeaderBidding

namespace Reader

open Json

variable {α : Type}

/-! ## Choices -/

theorem toOption_chosen (choice : Choice α) (name : String) :
    (chosen choice name).toOption = choice.names.lookup name := by
  rw [chosen]
  cases choice.names.lookup name <;> rfl

theorem toOption_chosenText (expected : String) (choice : Choice α) (space : Space)
    (key : List Glyph) (rest : List Char) :
    (((text expected).mapExcept (chosen choice)).run
      (space.chars ++ '"' :: (quotedChars key ++ rest))).toOption =
        (((spelledText? key).map String.ofList).bind fun name =>
          choice.names.lookup name).map (·, rest) := by
  rw [toOption_mapExcept, toOption_text, Option.bind_map, Option.bind_map, Option.map_bind]
  simp only [Function.comp_def, toOption_chosen]

/-- A choice that is written as an object is read behind the bracket. -/
theorem toOption_choiceMember (choice : Choice α) (inside : Space)
    (members : List (Entry Spelling)) (rest : List Char) :
    (choiceMember choice (inside.chars ++ (membersChars true members ++ rest))).toOption =
      (((Spelling.object inside members).choice? 1).bind fun name =>
        choice.names.lookup name).map (·, rest) := by
  unfold choiceMember
  cases members with
  | nil =>
      have close : skipSpace ('}' :: rest) = '}' :: rest := skipSpace_cons rfl rest
      simp [membersChars, mapExcept, text, close, Spelling.choice?]
  | cons first others =>
      obtain ⟨before, key, between, ahead, v, behind⟩ := first
      have ends := (delimits_membersChars others rest).space behind
      have read := toOption_chosenText "variant identifier" choice
        (inside.append before) key (between.chars ++ ':' :: (ahead.chars ++
          (v.chars ++ (behind.chars ++ (membersChars false others ++ rest)))))
      rw [Space.append_chars, List.append_assoc] at read
      simp only [membersChars, separator, ↓reduceIte, List.nil_append, List.append_assoc,
        List.cons_append]
      obtain ⟨none, fault, failed⟩ | ⟨a, some, taken⟩ := refused_or_read read
      · simp only [failed]
        cases others with
        | nil => cases v <;> simp [Spelling.choice?, Entry.name?, none]
        | cons second others => rfl
      · simp only [taken, colon_space]
        obtain ⟨refused, fault, failed⟩ | ⟨_, accepted, taken⟩ :=
          refused_or_read (null_follows "unit" v ahead _ ends)
        · simp only [failed]
          cases v with
          | null => contradiction
          | _ => cases others <;> rfl
        · obtain rfl : v = .null := by cases v <;> first | rfl | contradiction
          simp only [taken, skipSpace_space]
          cases others with
          | nil =>
              have close : skipSpace ('}' :: rest) = '}' :: rest := skipSpace_cons rfl rest
              simp [membersChars, close, Spelling.choice?, Entry.name?, some]
          | cons second others =>
              simp only [membersChars, separator, Bool.false_eq_true, ↓reduceIte, List.cons_append,
                List.nil_append]
              rw [skipSpace_cons rfl]
              rfl

theorem choice?_object_zero (inside : Space) (members : List (Entry Spelling)) :
    (Spelling.object inside members).choice? 0 = none := by
  rw [Spelling.choice?.eq_def]
  split
  · contradiction
  · split <;> rfl
  · rfl

theorem choice_follows (choice : Choice α) (depth : Nat) :
    (Reader.choice choice (depth != 0)).Follows fun v =>
      (v.choice? depth).bind fun name => choice.names.lookup name := by
  intro v space rest ends
  simp only [Reader.choice, skipSpace_space, skipSpace_chars]
  split
  · rename_i written
    obtain ⟨c, s, begun, -⟩ := v.exists_chars_eq_cons
    rw [begun] at written
    contradiction
  · rename_i t written
    obtain ⟨inside, members, rfl, rfl⟩ := exists_object_of_chars written
    cases depth with
    | zero =>
        rw [choice?_object_zero]
        rfl
    | succ depth => exact toOption_choiceMember choice inside members rest
  · rename_i t written
    obtain ⟨glyphs, rfl, rfl⟩ := exists_text_of_chars written
    exact toOption_chosenText _ choice Space.none glyphs rest
  · rename_i notEmpty notObject notText
    cases v with
    | text glyphs => exact absurd rfl (notText _)
    | object inside members => exact absurd rfl (notObject _)
    | _ => rfl

end Reader

/-! ## Documents of any shape -/

namespace Json

open Reader

theorem toOption_readScalar {v : Spelling} (notList : ∀ s items, v ≠ .list s items)
    (notObject : ∀ s members, v ≠ .object s members) {rest : List Char} (ends : Delimits rest) :
    (readScalar (v.chars ++ rest)).toOption = (v.document? 0).map (·, rest) := by
  cases v with
  | null => rfl
  | bool b => cases b <;> rfl
  | number n =>
      have read := toOption_readNumber n ends.endsNumber
      obtain ⟨c, s, written, first⟩ := n.exists_chars_eq_cons
      rw [Spelling.chars, Spelling.document?]
      rw [written, List.cons_append] at read ⊢
      unfold readScalar
      split
      case h_6 same =>
        obtain ⟨rfl, rfl⟩ := List.cons.inj same
        rw [if_pos first]
        obtain ⟨none, fault, failed⟩ | ⟨m, some, taken⟩ := refused_or_read read
        · simp only [failed, none]
          rfl
        · simp only [taken, some]
          rfl
      all_goals simp_all [Char.isDigit]
  | text glyphs =>
      have read := toOption_readText glyphs rest
      change (readScalar ('"' :: (quotedChars glyphs ++ rest))).toOption = _
      rw [readScalar, Spelling.document?]
      obtain ⟨none, fault, failed⟩ | ⟨t, some, taken⟩ := refused_or_read read
      · simp only [failed, none]
        rfl
      · simp only [taken, some]
        rfl
  | list inside items => exact absurd rfl (notList inside items)
  | object inside members => exact absurd rfl (notObject inside members)

theorem readerOver_follows {inner? : Option (Reader Json)}
    {listing : List Spelling → Option (List Json)}
    {naming : List (Entry Spelling) → Option (List (String × Json))}
    (lists : (Reader.list (inner?.map allItems) "").Follows fun v => v.items?.bind listing)
    (objects : (Reader.object (inner?.map fun inner => allMembers (keep inner) []) "").Follows
      fun v => v.members?.bind naming) :
    (readerOver inner?).Follows fun v =>
      match v with
      | .list _ items => (listing (items.map Spaced.value)).map .list
      | .object _ members => (naming members).map .object
      | v => v.document? 0 := by
  intro v space rest ends
  simp only [readerOver, skipSpace_space, skipSpace_chars]
  split
  · rename_i t written
    obtain ⟨inside, items, rfl, rfl⟩ := exists_list_of_chars written
    have read := lists (.list inside items) Space.none rest ends
    rw [Space.none_chars, List.nil_append, written] at read
    change (inList _ _).toOption = (listing (items.map Spaced.value)).map (·, rest) at read
    obtain ⟨none, fault, failed⟩ | ⟨as, some, taken⟩ := refused_or_read read
    · simp only [failed, none]
      rfl
    · simp only [taken, some]
      rfl
  · rename_i t written
    obtain ⟨inside, members, rfl, rfl⟩ := exists_object_of_chars written
    have read := objects (.object inside members) Space.none rest ends
    rw [Space.none_chars, List.nil_append, written] at read
    change (inObject _ _).toOption = (naming members).map (·, rest) at read
    obtain ⟨none, fault, failed⟩ | ⟨entries, some, taken⟩ := refused_or_read read
    · simp only [failed, none]
      rfl
    · simp only [taken, some]
      rfl
  · rename_i notList notObject
    cases v with
    | list inside items => exact absurd rfl (notList _)
    | object inside members => exact absurd rfl (notObject _)
    | _ => exact toOption_readScalar (by simp) (by simp) ends

/-- A document of any shape is read as what it means. -/
theorem reader_follows (depth : Nat) : (reader depth).Follows (Spelling.document? depth) := by
  induction depth with
  | zero =>
      have lists : (Reader.list ((none : Option (Reader Json)).map allItems) "").Follows
          fun v => v.items?.bind fun _ => none :=
        list_none_follows.congr fun v => by cases v.items? <;> rfl
      have objects : (Reader.object ((none : Option (Reader Json)).map fun inner =>
          allMembers (keep inner) []) "").Follows fun v => v.members?.bind fun _ => none :=
        object_none_follows.congr fun v => by cases v.members? <;> rfl
      exact (readerOver_follows lists objects).congr fun v => by cases v <;> rfl
  | succ depth ih =>
      have lists : (Reader.list ((some (reader depth)).map allItems) "").Follows _ :=
        list_follows (allItems_follows ih)
      have objects : (Reader.object ((some (reader depth)).map fun inner =>
          allMembers (keep inner) []) "").Follows _ :=
        object_follows (allMembers_follows (keep_follows ih) [])
      exact (readerOver_follows lists objects).congr fun v => by cases v <;> rfl

end Json

/-! ## By description -/

open Reader

mutual

/-- What is read by a description is what the document means. -/
theorem Codec.reader_follows : ∀ {α : Type} (codec : Codec α) (depth : Nat),
    (codec.reader depth).Follows (codec.meaning? depth)
  | _, .text, _ => text_follows
  | _, .word word, _ => by
      refine (mapExcept_follows number_follows _).congr fun v => ?_
      rw [Codec.meaning?]
      congr 1
      funext n
      cases n with
      | real x => rfl
      | whole n =>
          rw [Json.Number.word?]
          cases h : word.ofWhole? n <;> simp [h]
  | _, .real, _ => by
      refine (map_follows number_follows _).congr fun v => ?_
      rw [Codec.meaning?]
      rfl
  | _, .choice choice, depth => choice_follows choice depth
  | _, .free, depth => Json.reader_follows depth
  | _, .list _, 0 => list_none_follows
  | _, .list item, depth + 1 => list_follows (allItems_follows (item.reader_follows depth))
  | _, .optional inner, depth => optional_follows (inner.reader_follows depth)
  | _, .pair _ _, 0 => list_none_follows
  | _, .pair first second, depth + 1 => by
      refine (list_follows (insideMap_follows (next_follows 0 (first.reader_follows depth)
        (next_follows 1 (second.reader_follows depth) (done_follows false))) _)).congr fun v => ?_
      rw [Codec.meaning?]
      rcases v.items? with _ | ⟨_ | ⟨v, _ | ⟨w, _ | ⟨x, vs⟩⟩⟩⟩
      · rfl
      · rfl
      · cases h : first.meaning? depth v <;> simp [h]
      · cases h : first.meaning? depth v <;> cases h' : second.meaning? depth w <;> simp [h, h']
      · cases h : first.meaning? depth v <;> cases h' : second.meaning? depth w <;> simp [h, h']
  | _, .dictionary _, 0 => object_none_follows
  | _, .dictionary value, depth + 1 =>
      object_follows (allMembers_follows (keep_follows (value.reader_follows depth)) [])
  | _, .record _ _ _, 0 => either_none_follows
  | _, .record label fields shape, depth + 1 => by
      refine (either_follows (insideMap_follows
        (fields.listed_follows (fields.listing label) 0 depth) shape.make)
        (named_follows (fields.step_follows depth))).congr fun v => ?_
      cases v <;> rfl

theorem Fields.listed_follows : ∀ {β σ : Type} (fields : Fields β σ) (expected : String)
    (place depth : Nat),
    (fields.listed expected place depth).FollowsItems (place == 0) (fields.listed? depth)
  | _, _, .nil, _, place, _ => by
      intro spelled space rest
      refine (done_follows (place == 0) spelled space rest).trans ?_
      cases spelled <;> rfl
  | _, _, .cons _ _ codec rest, expected, place, depth => by
      intro spelled space rest'
      refine (next_follows place (codec.reader_follows depth)
        (rest.listed_follows expected (place + 1) depth) spelled space rest').trans ?_
      cases spelled <;> rfl

theorem Fields.step_follows : ∀ {β σ : Type} (fields : Fields β σ) (depth : Nat),
    (fields.step depth).Follows (fields.take? depth)
  | _, _, .nil, _ => skip_follows
  | _, _, .cons _ _ codec rest, depth => by
      rintro key v ⟨slot, slots⟩
      exact field_follows (codec.reader_follows depth) (rest.step_follows depth) key v (slot, slots)

end

/-- A text is decoded as what the document means that it spells, and refused if it means nothing. -/
theorem Codec.toOption_decode {α : Type} (codec : Codec α) {v : Json.Spelling} {text : String}
    (spelled : v.Spells text) :
    (codec.decode text).toOption = codec.meaning? depthLimit v := by
  obtain ⟨before, behind, layout⟩ := spelled
  have read := codec.reader_follows depthLimit v before behind.chars
    (by simpa using Json.Delimits.nil.space behind)
  rw [decode, layout]
  have last : Json.skipSpace behind.chars = [] := by
    simpa [Json.skipSpace] using Json.skipSpace_space behind []
  obtain ⟨none, fault, failed⟩ | ⟨a, some, taken⟩ := refused_or_read read
  · simp only [failed, none]
    rfl
  · simp only [taken, some, last]
    rfl

end HeaderBidding
