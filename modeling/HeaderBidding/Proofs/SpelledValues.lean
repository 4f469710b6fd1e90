import HeaderBidding.Proofs.Reading
import HeaderBidding.Proofs.SpelledNumbers

/-!
# Passing over spelled documents

Whatever a document is, and however deep it is nested, passing over it succeeds and ends right
behind it.  The brackets that are open around it are the same before and after, which is shown by
induction over the spelling.
-/

namespace HeaderBidding.Json

variable {s rest : List Char} {c : Char} {b : Bracket} {opened : List Bracket}

/-! ## What stands around a document -/

theorem delimits_itemsChars (items : List (Spaced Spelling)) (rest : List Char) :
    Delimits (itemsChars false items ++ rest) := by
  cases items <;> simp [itemsChars, separator, Delimits]

theorem delimits_membersChars (members : List (Entry Spelling)) (rest : List Char) :
    Delimits (membersChars false members ++ rest) := by
  cases members <;> simp [membersChars, separator, Delimits]

@[simp]
theorem Space.append_chars (a b : Space) : (a.append b).chars = a.chars ++ b.chars :=
  rfl

/-- A number begins with its sign or a digit. -/
theorem Numeral.exists_chars_eq_cons (n : Numeral) :
    ∃ c s, n.chars = c :: s ∧ (c = '-' ∨ c.isDigit = true) := by
  rw [Numeral.chars]
  split_ifs
  · exact ⟨'-', _, rfl, .inl rfl⟩
  · obtain ⟨c, s, written, digit⟩ := n.exists_unsigned_eq_cons
    exact ⟨c, s, written, .inr digit⟩

/-- A spelled document begins with no space and no mark. -/
theorem Spelling.exists_chars_eq_cons (v : Spelling) :
    ∃ c s, v.chars = c :: s ∧ StartsValue c := by
  cases v with
  | null => exact ⟨_, _, rfl, by decide⟩
  | bool b => cases b <;> exact ⟨_, _, rfl, by decide⟩
  | number n =>
      obtain ⟨c, s, written, rfl | digit⟩ := n.exists_chars_eq_cons
      · exact ⟨'-', s, written, by decide⟩
      · exact ⟨c, s, written, startsValue_digit digit⟩
  | text glyphs => exact ⟨_, _, rfl, by decide⟩
  | list inside items => exact ⟨_, _, rfl, by decide⟩
  | object inside members => exact ⟨_, _, rfl, by decide⟩

@[simp]
theorem skipSpace_chars (v : Spelling) (rest : List Char) :
    skipSpace (v.chars ++ rest) = v.chars ++ rest := by
  obtain ⟨c, s, written, solid, -⟩ := v.exists_chars_eq_cons
  rw [written, List.cons_append, skipSpace_cons solid]

/-! ## Passing over -/

/-- Goes on with passing over values, behind a value or an opening bracket. -/
def proceed (afterValue : Bool) (opened : List Bracket) (s : List Char) :
    Except Fault (List Char) :=
  match settle afterValue opened s with
  | .error f => .error f
  | .ok ([], t) => .ok t
  | .ok (b :: outer, t) =>
    match skipKey b t with
    | .error f => .error f
    | .ok u => skipFrom (b :: outer) u

theorem skipFrom_eq (opened : List Bracket) (s : List Char) :
    skipFrom opened s =
      match skipOpening s with
      | .error f => .error f
      | .ok (bracket, r) => proceed bracket.isNone (bracket.toList ++ opened) r := by
  rw [skipFrom]
  split <;> rename_i opening <;> simp only [opening, proceed]
  split <;> rename_i settled <;> simp only [settled]
  split <;> rename_i key <;> simp only [key]

theorem skipFrom_of_value (opening : skipOpening s = .ok (none, rest)) :
    skipFrom opened s = proceed true opened rest := by
  rw [skipFrom_eq, opening]
  rfl

theorem skipFrom_of_bracket (opening : skipOpening s = .ok (some b, rest)) :
    skipFrom opened s = proceed false (b :: opened) rest := by
  rw [skipFrom_eq, opening]
  rfl

theorem skipFrom_space (opened : List Bracket) (space : Space) (s : List Char) :
    skipFrom opened (space.chars ++ s) = skipFrom opened s := by
  rw [skipFrom_eq, skipFrom_eq, skipOpening, skipOpening, skipSpace_space]

theorem proceed_nil (afterValue : Bool) (s : List Char) : proceed afterValue [] s = .ok s := by
  simp [proceed, settle]

theorem proceed_close (afterValue : Bool) (space : Space) (rest : List Char) :
    proceed afterValue (b :: opened) (space.chars ++ b.closer :: rest) =
      proceed true opened rest := by
  have settled : settle afterValue (b :: opened) (space.chars ++ b.closer :: rest) =
      settle true opened rest := by
    have solid : isSpace b.closer = false := by cases b <;> rfl
    have notComma : b.closer ≠ ',' := by cases b <;> decide
    simp [settle, skipSpace_cons solid, notComma]
  rw [proceed, settled, proceed]

theorem proceed_comma (space : Space) (key : skipKey b s = .ok rest) :
    proceed true (b :: opened) (space.chars ++ ',' :: s) = skipFrom (b :: opened) rest := by
  have comma : skipSpace (',' :: s) = ',' :: s := skipSpace_cons rfl s
  simp [proceed, settle, comma, key]

theorem proceed_first (space : Space) (solid : isSpace c = false) (more : c ≠ b.closer)
    (key : skipKey b (c :: s) = .ok rest) :
    proceed false (b :: opened) (space.chars ++ c :: s) = skipFrom (b :: opened) rest := by
  simp [proceed, settle, skipSpace_cons solid, more, key]

/-- In front of an item, the next value is the item. -/
theorem proceed_item (isFirst : Bool) (space before : Space) (v : Spelling) (rest : List Char) :
    proceed (!isFirst) (.square :: opened)
      (space.chars ++ (separator isFirst ++ (before.chars ++ (v.chars ++ rest)))) =
        skipFrom (.square :: opened) (v.chars ++ rest) := by
  cases isFirst with
  | true =>
      obtain ⟨c, s, written, solid, -, close⟩ := v.exists_chars_eq_cons
      have more : c ≠ Bracket.square.closer := close
      have key : skipKey .square (c :: (s ++ rest)) = .ok (c :: (s ++ rest)) := rfl
      simpa [separator, written] using proceed_first (space.append before) solid more key
  | false => exact (proceed_comma space rfl).trans (skipFrom_space _ before _)

theorem colon_space (space : Space) (s : List Char) : colon (space.chars ++ ':' :: s) = .ok s := by
  have mark : skipSpace (':' :: s) = ':' :: s := skipSpace_cons rfl s
  simp [colon, mark]

theorem skipKey_quotedChars (before between : Space) (key : List Glyph) (s : List Char) :
    skipKey .curly
      (before.chars ++ '"' :: (quotedChars key ++ (between.chars ++ ':' :: s))) = .ok s := by
  have quote (t : List Char) : skipSpace ('"' :: t) = '"' :: t := skipSpace_cons rfl t
  simp [skipKey, quote, skipText_quotedChars, colon_space]

/-- In front of a member, the next value is that of the member. -/
theorem proceed_member (isFirst : Bool) (space before between : Space) (key : List Glyph)
    (s : List Char) :
    proceed (!isFirst) (.curly :: opened)
      (space.chars ++ (separator isFirst ++ (before.chars ++
        '"' :: (quotedChars key ++ (between.chars ++ ':' :: s))))) =
      skipFrom (.curly :: opened) s := by
  cases isFirst with
  | true =>
      have quoted := skipKey_quotedChars Space.none between key s
      simpa [separator] using proceed_first (space.append before) rfl (by decide) quoted
  | false => exact proceed_comma space (skipKey_quotedChars before between key s)

theorem skipOpening_number (n : Numeral) (ends : Delimits rest) :
    skipOpening (n.chars ++ rest) = .ok (none, rest) := by
  have unsigned := skipUnsigned_unsigned n ends.endsNumber
  rw [Numeral.chars]
  split_ifs
  · have minus : skipSpace ('-' :: (n.unsigned ++ rest)) = '-' :: (n.unsigned ++ rest) :=
      skipSpace_cons rfl _
    simp only [List.cons_append, skipOpening, minus, unsigned, Except.map]
  · obtain ⟨c, s, written, digit⟩ := n.exists_unsigned_eq_cons
    rw [written, List.cons_append] at unsigned ⊢
    unfold skipOpening
    rw [skipSpace_cons (startsValue_digit digit).1]
    split <;> simp_all [Char.isDigit, Except.map]

theorem skipOpening_text (glyphs : List Glyph) (rest : List Char) :
    skipOpening ('"' :: (quotedChars glyphs ++ rest)) = .ok (none, rest) := by
  rw [skipOpening, skipSpace_cons rfl]
  simp only [skipText_quotedChars, Except.map]

mutual

/-- A spelled document is passed over, and the brackets around it stay open. -/
theorem skipFrom_chars : ∀ (v : Spelling) (opened : List Bracket) (rest : List Char),
    Delimits rest → skipFrom opened (v.chars ++ rest) = proceed true opened rest
  | .null, _, _, _ => skipFrom_of_value rfl
  | .bool true, _, _, _ => skipFrom_of_value rfl
  | .bool false, _, _, _ => skipFrom_of_value rfl
  | .number n, _, _, ends => skipFrom_of_value (skipOpening_number n ends)
  | .text glyphs, _, rest, _ => skipFrom_of_value (skipOpening_text glyphs rest)
  | .list inside items, opened, rest, _ => by
      rw [Spelling.chars, List.cons_append, List.append_assoc]
      exact (skipFrom_of_bracket rfl).trans (proceed_itemsChars items true opened inside rest)
  | .object inside members, opened, rest, _ => by
      rw [Spelling.chars, List.cons_append, List.append_assoc]
      exact (skipFrom_of_bracket rfl).trans (proceed_membersChars members true opened inside rest)

/-- The items of a list are passed over from any place on, with its end. -/
theorem proceed_itemsChars : ∀ (items : List (Spaced Spelling)) (isFirst : Bool)
    (opened : List Bracket) (space : Space) (rest : List Char),
    proceed (!isFirst) (.square :: opened) (space.chars ++ (itemsChars isFirst items ++ rest)) =
      proceed true opened rest
  | [], _, _, space, rest => proceed_close _ space rest
  | ⟨before, v, behind⟩ :: items, isFirst, opened, space, rest => by
      simp only [itemsChars, List.append_assoc]
      rw [proceed_item, skipFrom_chars v _ _ ((delimits_itemsChars items rest).space behind)]
      exact proceed_itemsChars items false opened behind rest

/-- The members of an object are passed over from any place on, with its end. -/
theorem proceed_membersChars : ∀ (members : List (Entry Spelling)) (isFirst : Bool)
    (opened : List Bracket) (space : Space) (rest : List Char),
    proceed (!isFirst) (.curly :: opened) (space.chars ++ (membersChars isFirst members ++ rest)) =
      proceed true opened rest
  | [], _, _, space, rest => proceed_close _ space rest
  | ⟨before, key, between, ahead, v, behind⟩ :: members, isFirst, opened, space, rest => by
      simp only [membersChars, List.append_assoc, List.cons_append]
      rw [proceed_member, skipFrom_space,
        skipFrom_chars v _ _ ((delimits_membersChars members rest).space behind)]
      exact proceed_membersChars members false opened behind rest

end

/-- A spelled document is passed over, whatever it is and however deep it is nested. -/
theorem skipValue_chars (v : Spelling) (space : Space) (ends : Delimits rest) :
    skipValue (space.chars ++ (v.chars ++ rest)) = .ok rest := by
  rw [skipValue, skipFrom_space, skipFrom_chars v [] rest ends, proceed_nil]

end HeaderBidding.Json
