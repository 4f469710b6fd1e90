/-!
# Texts in segments

A text is cut at every occurrence of a character. There is always one segment more than there are
occurrences.
-/

namespace HeaderBidding.Text

/-- The segments of a text between the characters `c`. -/
def segments (c : Char) : List Char → List (List Char)
  | [] => [[]]
  | d :: rest =>
    if d = c then [] :: segments c rest
    else match segments c rest with
      | [] => [[d]]
      | first :: others => (d :: first) :: others

/-- Segments joined by a character. -/
def join (c : Char) : List (List Char) → List Char
  | [] => []
  | [first] => first
  | first :: others => first ++ c :: join c others

end HeaderBidding.Text
