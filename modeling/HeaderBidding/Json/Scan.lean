import HeaderBidding.Json.Fault

/-!
# Steps over the punctuation of a document

Functions on the rest of a text: white space, the words `null`, `true` and `false`, colons, and
what may stand before an item, before a key, and at the end of a list or an object. A step that
succeeds gives what is left of the text, never more than there was.
-/

namespace HeaderBidding.Json

/-- Whether a character may stand between the parts of a document. -/
def isSpace (c : Char) : Bool :=
  c == ' ' || c == '\n' || c == '\t' || c == '\r'

/-- The rest of a text from its first character that is not space. -/
def skipSpace (s : List Char) : List Char :=
  s.dropWhile isSpace

theorem length_skipSpace_le (s : List Char) : (skipSpace s).length ≤ s.length :=
  (List.dropWhile_suffix isSpace).length_le

/-- Reads the given characters. -/
def word : List Char → List Char → Except Fault (List Char)
  | [], s => .ok s
  | _ :: _, [] => .error (.before .endInValue [])
  | c :: cs, d :: s => if c = d then word cs s else .error (.within .expectedWord (d :: s))

theorem word_shrinks {w s r : List Char} (h : word w s = .ok r) :
    r.length + w.length = s.length := by
  induction w generalizing s with
  | nil => simp_all [word]
  | cons c cs ih =>
    cases s with
    | nil => simp [word] at h
    | cons d s =>
      by_cases hc : c = d
      · have := ih (s := s) (by simpa [word, hc] using h)
        simp only [List.length_cons]
        omega
      · simp [word, hc] at h

/-- Reads the colon between a key and its value. -/
def colon (s : List Char) : Except Fault (List Char) :=
  match skipSpace s with
  | [] => .error (.within .endInObject [])
  | ':' :: r => .ok r
  | c :: r => .error (.within .expectedColon (c :: r))

theorem colon_shrinks {s r : List Char} (h : colon s = .ok r) : r.length < s.length := by
  have len := length_skipSpace_le s
  unfold colon at h
  split at h
  · simp at h
  · rename_i t ht
    rw [ht] at len
    obtain rfl := Except.ok.inj h
    exact len
  · simp at h

/-- What follows in a list: the place of the next item, or nothing if the list ends here. -/
def nextItem (isFirst : Bool) (s : List Char) : Except Fault (Option (List Char)) :=
  match skipSpace s with
  | [] => .error (.within .endInList [])
  | ']' :: _ => .ok none
  | ',' :: r =>
    if isFirst then .ok (some (',' :: r))
    else match skipSpace r with
      | [] => .error (.within .endInValue [])
      | ']' :: t => .error (.within .trailingComma (']' :: t))
      | t => .ok (some t)
  | c :: r =>
    if isFirst then .ok (some (c :: r)) else .error (.within .expectedListCommaOrEnd (c :: r))

theorem nextItem_shrinks {isFirst : Bool} {s r : List Char}
    (h : nextItem isFirst s = .ok (some r)) :
    r.length ≤ s.length := by
  have len := length_skipSpace_le s
  unfold nextItem at h
  split at h
  · simp at h
  · simp at h
  · rename_i t ht
    have len' := length_skipSpace_le t
    rw [ht] at len
    split at h
    · obtain rfl : ',' :: t = r := by simpa using h
      exact len
    · split at h <;> simp_all
      omega
  · rename_i t ht
    rw [ht] at len
    split at h
    · obtain rfl := Option.some.inj (Except.ok.inj h)
      exact len
    · simp at h

/-- What follows in an object: the text behind the quote that opens the next key, or nothing if
the object ends here. -/
def nextKey (isFirst : Bool) (s : List Char) : Except Fault (Option (List Char)) :=
  match skipSpace s with
  | [] => .error (.within .endInObject [])
  | '}' :: _ => .ok none
  | ',' :: r =>
    if isFirst then .error (.within .keyNotText (',' :: r))
    else match skipSpace r with
      | [] => .error (.within .endInValue [])
      | '"' :: t => .ok (some t)
      | '}' :: t => .error (.within .trailingComma ('}' :: t))
      | t => .error (.within .keyNotText t)
  | '"' :: r =>
    if isFirst then .ok (some r) else .error (.within .expectedObjectCommaOrEnd ('"' :: r))
  | c :: r =>
    .error (.within (if isFirst then .keyNotText else .expectedObjectCommaOrEnd) (c :: r))

theorem nextKey_shrinks {isFirst : Bool} {s r : List Char} (h : nextKey isFirst s = .ok (some r)) :
    r.length < s.length := by
  have len := length_skipSpace_le s
  unfold nextKey at h
  split at h
  · simp at h
  · simp at h
  · rename_i t ht
    have len' := length_skipSpace_le t
    rw [ht] at len
    split at h
    · simp at h
    · split at h <;> simp_all
      omega
  · rename_i t ht
    rw [ht] at len
    split at h
    · obtain rfl := Option.some.inj (Except.ok.inj h)
      exact len
    · simp at h
  · simp at h

/-- Ends a list: the outcome, and the rest of the text behind what was looked at. -/
def closeList (s : List Char) : Except Fault Unit × List Char :=
  match skipSpace s with
  | [] => (.error (.within .endInList []), [])
  | ']' :: r => (.ok (), r)
  | ',' :: r =>
    match skipSpace r with
    | ']' :: t => (.error (.within .trailingComma (']' :: t)), ']' :: t)
    | t => (.error (.within .trailingCharacters t), t)
  | t => (.error (.within .trailingCharacters t), t)

theorem closeList_shrinks {s r : List Char} (h : closeList s = (.ok (), r)) :
    r.length < s.length := by
  have len := length_skipSpace_le s
  unfold closeList at h
  split at h
  · simp at h
  · rename_i t ht
    rw [ht] at len
    obtain rfl := (Prod.mk.inj h).2
    exact len
  · split at h <;> simp at h
  · simp at h

/-- Ends an object: the outcome, and the rest of the text behind what was looked at. -/
def closeObject (s : List Char) : Except Fault Unit × List Char :=
  match skipSpace s with
  | [] => (.error (.within .endInObject []), [])
  | '}' :: r => (.ok (), r)
  | ',' :: r => (.error (.within .trailingComma (',' :: r)), ',' :: r)
  | t => (.error (.within .trailingCharacters t), t)

theorem closeObject_shrinks {s r : List Char} (h : closeObject s = (.ok (), r)) :
    r.length < s.length := by
  have len := length_skipSpace_le s
  unfold closeObject at h
  split at h
  · simp at h
  · rename_i t ht
    rw [ht] at len
    obtain rfl := (Prod.mk.inj h).2
    exact len
  · simp at h
  · simp at h

end HeaderBidding.Json
