import HeaderBidding.Proofs.QuotedText
import HeaderBidding.Proofs.Spelling

/-!
# Spelled texts

A spelled text is read as the text that it spells, and refused if it spells none.  Passing over it
always succeeds.  Whether a reader succeeds, and with what, is said by `Except.toOption`; why it
fails does not matter here.
-/

namespace HeaderBidding

variable {ε α β : Type}

@[simp]
theorem toOption_ok (a : α) : (Except.ok a : Except ε α).toOption = some a :=
  rfl

@[simp]
theorem toOption_error (e : ε) : (Except.error e : Except ε α).toOption = none :=
  rfl

theorem toOption_eq_some_iff {outcome : Except ε α} {a : α} :
    outcome.toOption = some a ↔ outcome = .ok a := by
  cases outcome <;> simp

/-- If it is known what a reader gives and what it leaves, it either fails or gives just that. -/
theorem refused_or_read {outcome : Except ε (α × β)} {meaning : Option α} {rest : β}
    (read : outcome.toOption = meaning.map (·, rest)) :
    (meaning = none ∧ ∃ e, outcome = .error e) ∨
      ∃ a, meaning = some a ∧ outcome = .ok (a, rest) := by
  cases meaning with
  | none =>
      cases outcome with
      | error e => exact .inl ⟨rfl, e, rfl⟩
      | ok p => contradiction
  | some a => exact .inr ⟨a, rfl, toOption_eq_some_iff.mp read⟩

namespace Json

variable {c : Char} {s rest : List Char} {code : Code} {glyphs : List Glyph}

/-! ## Codes -/

theorem exists_hexValue?_of_isHexDigit (hex : IsHexDigit c) :
    ∃ n, Decimal.hexValue? c = some n := by
  unfold Decimal.hexValue?
  rcases hex with digit | lower | upper
  · exact ⟨_, if_pos digit⟩
  · split_ifs <;> exact ⟨_, rfl⟩
  · split_ifs <;> exact ⟨_, rfl⟩

theorem readHex_code (code : Code) (rest : List Char) :
    readHex (code.chars ++ rest) = .ok (code.value, rest) := by
  obtain ⟨chars, four, hex⟩ := code
  obtain ⟨a, b, c, d, rfl⟩ := List.length_eq_four.mp four
  obtain ⟨i, first⟩ := exists_hexValue?_of_isHexDigit (hex a (by simp))
  obtain ⟨j, second⟩ := exists_hexValue?_of_isHexDigit (hex b (by simp))
  obtain ⟨k, third⟩ := exists_hexValue?_of_isHexDigit (hex c (by simp))
  obtain ⟨l, fourth⟩ := exists_hexValue?_of_isHexDigit (hex d (by simp))
  simp [readHex, Code.value, first, second, third, fourth]

/-! ## Reading -/

theorem toOption_readText_plain (plain : c ≠ '"' ∧ c ≠ '\\' ∧ ¬c < ' ') (s : List Char) :
    (readText (c :: s)).toOption = (readText s).toOption.map fun p => (c :: p.1, p.2) := by
  obtain ⟨quote, backslash, high⟩ := plain
  rw [readText, if_neg high]
  · cases readText s <;> rfl
  · exact fun same => quote same
  · exact fun same => backslash same

theorem toOption_readText_escape (s : List Char) : (readText ('\\' :: s)).toOption =
    (readEscape s).toOption.bind fun p =>
      (readText p.2).toOption.map fun q => (p.1 :: q.1, q.2) := by
  rw [readText]
  split
  · rename_i failed
    rw [failed]
    rfl
  · rename_i c t escape
    simp only [escape, toOption_ok, Option.bind_some]
    cases readText t <;> rfl

theorem readEscape_escaped (known : c ∈ escapes) (rest : List Char) :
    readEscape (c :: rest) = .ok (unescape c, rest) := by
  simp only [escapes, List.mem_cons, List.not_mem_nil, or_false] at known
  rcases known with rfl | rfl | rfl | rfl | rfl | rfl | rfl | rfl <;> rfl

theorem toOption_readEscape_coded (code : Code) (rest : List Char) :
    (readEscape ('u' :: (code.chars ++ rest))).toOption =
      if isTrailing code.value then none
      else if isLeading code.value then (readTrailing code.value rest).toOption
      else some (Char.ofNat code.value, rest) := by
  simp only [readEscape, readHex_code]
  split_ifs <;> rfl

/-- The second half of a pair of surrogates is read if the text goes on with it. -/
theorem toOption_readTrailing (leading : Nat) (glyphs : List Glyph) (rest : List Char) :
    (readTrailing leading (quotedChars glyphs ++ rest)).toOption =
      match glyphs with
      | .coded code :: glyphs =>
        if isTrailing code.value then
          some (pairChar leading code.value, quotedChars glyphs ++ rest)
        else none
      | _ => none := by
  rcases glyphs with _ | ⟨⟨c, _, backslash, _⟩ | ⟨c, known⟩ | code, glyphs⟩
  · rfl
  · change (readTrailing leading (c :: (quotedChars glyphs ++ rest))).toOption = none
    unfold readTrailing
    split <;> simp_all
  · change (readTrailing leading ('\\' :: c :: (quotedChars glyphs ++ rest))).toOption = none
    simp only [escapes, List.mem_cons, List.not_mem_nil, or_false] at known
    rcases known with rfl | rfl | rfl | rfl | rfl | rfl | rfl | rfl <;> rfl
  · have layout : quotedChars (.coded code :: glyphs) ++ rest =
        '\\' :: 'u' :: (code.chars ++ (quotedChars glyphs ++ rest)) := by
      simp [quotedChars, Glyph.chars]
    simp only [layout, readTrailing, readHex_code]
    split_ifs <;> rfl

/-- A spelled text is read behind its opening quote as the text that it spells. -/
theorem toOption_readText (glyphs : List Glyph) (rest : List Char) :
    (readText (quotedChars glyphs ++ rest)).toOption = (spelledText? glyphs).map (·, rest) := by
  have coded (code : Code) (glyphs : List Glyph) :
      (readText (quotedChars (.coded code :: glyphs) ++ rest)).toOption =
        (readEscape ('u' :: (code.chars ++ (quotedChars glyphs ++ rest)))).toOption.bind fun p =>
          (readText p.2).toOption.map fun q => (p.1 :: q.1, q.2) := by
    rw [← toOption_readText_escape]
    simp [quotedChars, Glyph.chars]
  fun_induction spelledText? glyphs with
  | case1 => simp [quotedChars, readText]
  | case2 c plain glyphs ih =>
      have layout : quotedChars (.plain c plain :: glyphs) ++ rest =
          c :: (quotedChars glyphs ++ rest) := rfl
      rw [layout, toOption_readText_plain plain, ih]
      cases spelledText? glyphs <;> rfl
  | case3 c known glyphs ih =>
      have layout : quotedChars (.escaped c known :: glyphs) ++ rest =
          '\\' :: c :: (quotedChars glyphs ++ rest) := rfl
      rw [layout, toOption_readText_escape, readEscape_escaped known, toOption_ok,
        Option.bind_some, ih]
      cases spelledText? glyphs <;> rfl
  | case4 code glyphs trailing =>
      rw [coded, toOption_readEscape_coded, if_pos trailing]
      rfl
  | case5 code trailing leading second glyphs paired ih =>
      rw [coded, toOption_readEscape_coded, if_neg trailing, if_pos leading, toOption_readTrailing]
      simp only [paired, ↓reduceIte, Option.bind_some, ih]
      cases spelledText? glyphs <;> rfl
  | case6 code trailing leading second glyphs alone =>
      rw [coded, toOption_readEscape_coded, if_neg trailing, if_pos leading, toOption_readTrailing]
      simp only [alone]
      rfl
  | case7 code glyphs trailing leading alone =>
      rw [coded, toOption_readEscape_coded, if_neg trailing, if_pos leading, toOption_readTrailing]
      split <;> simp_all
  | case8 code glyphs trailing leading ih =>
      rw [coded, toOption_readEscape_coded, if_neg trailing, if_neg leading, Option.bind_some, ih]
      cases spelledText? glyphs <;> rfl

/-! ## Passing over -/

theorem skipText_plain (plain : c ≠ '"' ∧ c ≠ '\\' ∧ ¬c < ' ') (s : List Char) :
    skipText (c :: s) = skipText s := by
  obtain ⟨quote, backslash, high⟩ := plain
  rw [skipText, if_neg high]
  · exact fun same => quote same
  · exact fun same => backslash same

theorem skipText_escape (escape : skipEscape s = .ok rest) :
    skipText ('\\' :: s) = skipText rest := by
  rw [skipText]
  split
  · simp_all
  · rename_i t taken
    obtain rfl := Except.ok.inj (escape.symm.trans taken)
    rfl

theorem skipEscape_escaped (known : c ∈ escapes) (rest : List Char) :
    skipEscape (c :: rest) = .ok rest := by
  simp only [escapes, List.mem_cons, List.not_mem_nil, or_false] at known
  rcases known with rfl | rfl | rfl | rfl | rfl | rfl | rfl | rfl <;> rfl

/-- Whatever it spells, a spelled text is passed over. -/
theorem skipText_quotedChars (glyphs : List Glyph) (rest : List Char) :
    skipText (quotedChars glyphs ++ rest) = .ok rest := by
  induction glyphs with
  | nil => simp [quotedChars, skipText]
  | cons glyph glyphs ih =>
      cases glyph with
      | plain c plain => exact (skipText_plain plain _).trans ih
      | escaped c known => exact (skipText_escape (skipEscape_escaped known _)).trans ih
      | coded code =>
          have escape : skipEscape ('u' :: (code.chars ++ (quotedChars glyphs ++ rest))) =
              .ok (quotedChars glyphs ++ rest) := by
            simp only [skipEscape, readHex_code]
          have layout : quotedChars (.coded code :: glyphs) ++ rest =
              '\\' :: 'u' :: (code.chars ++ (quotedChars glyphs ++ rest)) := by
            simp [quotedChars, Glyph.chars]
          rw [layout, skipText_escape escape, ih]

end Json

end HeaderBidding
