/-!
# Texts without what stands around them

`trimWhile` removes, at both ends of a text, the characters that fulfil a condition.
-/

namespace HeaderBidding.Text

/-- A text without the characters at its two ends that fulfil a condition. -/
def trimWhile (p : Char → Bool) (s : List Char) : List Char :=
  ((s.dropWhile p).reverse.dropWhile p).reverse

/-- A text that neither begins nor ends with such a character is left as it is. -/
theorem trimWhile_of_ends {p : Char → Bool} {s : List Char} (first : ∀ c ∈ s.head?, p c = false)
    (last : ∀ c ∈ s.getLast?, p c = false) : trimWhile p s = s := by
  have dropped : ∀ t : List Char, (∀ c ∈ t.head?, p c = false) → t.dropWhile p = t := by
    intro t ht
    cases t with
    | nil => rfl
    | cons c r => simp [List.dropWhile, ht c (by simp)]
  rw [trimWhile, dropped s first, dropped s.reverse (by simpa [List.head?_reverse] using last),
    List.reverse_reverse]

end HeaderBidding.Text
