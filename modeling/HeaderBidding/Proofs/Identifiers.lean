import HeaderBidding.Params.Document
import HeaderBidding.Proofs.Digits

/-!
# Which values are identifiers

An identifier is a whole number, or a text that is one but for blanks around it.  What is blank
altogether says that there is no identifier, like `null`.
-/

namespace HeaderBidding

/-! ## Trimming -/

namespace Text

variable {p : Char → Bool} {s t before after : List Char}

/-- What trimming removes stands at the two ends of the text. -/
theorem exists_trimWhile (p : Char → Bool) (s : List Char) :
    ∃ before after, s = before ++ (trimWhile p s ++ after) ∧ (∀ c ∈ before, p c = true) ∧
      ∀ c ∈ after, p c = true := by
  refine ⟨s.takeWhile p, ((s.dropWhile p).reverse.takeWhile p).reverse, ?_,
    fun c mem => List.mem_takeWhile_imp mem,
    fun c mem => List.mem_takeWhile_imp (List.mem_reverse.mp mem)⟩
  rw [trimWhile, ← List.reverse_append, List.takeWhile_append_dropWhile, List.reverse_reverse,
    List.takeWhile_append_dropWhile]

theorem dropWhile_append_of_ends (removed : ∀ c ∈ before, p c = true)
    (first : ∀ c ∈ t.head?, p c = false) : (before ++ t).dropWhile p = t := by
  rw [List.dropWhile_append_of_pos removed]
  cases t with
  | nil => rfl
  | cons c t => exact List.dropWhile_cons_of_neg (by simp [first c rfl])

/-- Trimming removes all that stands around a text whose ends are kept. -/
theorem trimWhile_append (first : ∀ c ∈ t.head?, p c = false) (last : ∀ c ∈ t.getLast?, p c = false)
    (nonempty : t ≠ []) (front : ∀ c ∈ before, p c = true) (back : ∀ c ∈ after, p c = true) :
    trimWhile p (before ++ (t ++ after)) = t := by
  have start : ∀ c ∈ (t ++ after).head?, p c = false := by
    rwa [List.head?_append_of_ne_nil _ nonempty]
  have finish : ∀ c ∈ t.reverse.head?, p c = false := by
    rwa [List.head?_reverse]
  have behind : ∀ c ∈ after.reverse, p c = true := fun c mem => back c (List.mem_reverse.mp mem)
  rw [trimWhile, dropWhile_append_of_ends front start, List.reverse_append,
    dropWhile_append_of_ends behind finish, List.reverse_reverse]

theorem trimWhile_eq_nil_iff : trimWhile p s = [] ↔ ∀ c ∈ s, p c = true := by
  constructor
  · intro gone
    obtain ⟨before, after, split, front, back⟩ := exists_trimWhile p s
    rw [split, gone, List.nil_append, List.forall_mem_append]
    exact ⟨front, back⟩
  · intro all
    rw [trimWhile, List.dropWhile_eq_nil_iff.mpr all]
    rfl

end Text

/-! ## Identifiers -/

namespace RawParams

open Decimal Text

/-- The text is a number with an optional sign, and blanks around it. -/
def IsPadded (s : List Char) (n : Int) : Prop :=
  ∃ before number after, s = before ++ (number ++ after) ∧ (∀ c ∈ before, isBlank c = true) ∧
    (∀ c ∈ after, isBlank c = true) ∧ IsSigned number n

/-- What a value says when it is given for an identifier. -/
inductive IsIdentifier : Json → Option Int → Prop
  | null : IsIdentifier .null none
  | whole {n : Whole} (small : n.val ≤ 0x7FFFFFFFFFFFFFFF) : IsIdentifier (.whole n) (some n.val)
  | blank {s : String} (blank : ∀ c ∈ s.toList, isBlank c = true) : IsIdentifier (.text s) none
  | text {s : String} {n : Int} (padded : IsPadded s.toList n) (lower : -0x8000000000000000 ≤ n)
      (upper : n ≤ 0x7FFFFFFFFFFFFFFF) : IsIdentifier (.text s) (some n)

variable {s : List Char} {n : Int} {v : Json} {id : Option Int}

theorem isBlank_of_isDigit {c : Char} (digit : c.isDigit = true) : isBlank c = false := by
  simp only [Char.isDigit, Bool.and_eq_true, decide_eq_true_eq] at digit
  have low : 48 ≤ c.toNat := digit.1
  have high : c.toNat ≤ 57 := digit.2
  rw [isBlank, Ranges.has]
  generalize c.toNat = code at low high
  interval_cases code <;> decide

/-- A number neither begins nor ends with a blank. -/
theorem ends_of_isSigned (number : IsSigned s n) :
    s ≠ [] ∧ (∀ c ∈ s.head?, isBlank c = false) ∧ ∀ c ∈ s.getLast?, isBlank c = false := by
  have ofDigits : ∀ {s : List Char} {k : Nat}, IsDigits s k →
      s ≠ [] ∧ ∀ c ∈ s, isBlank c = false := fun digits =>
    ⟨digits.nonempty, fun c mem => isBlank_of_isDigit (digits.digits c mem)⟩
  have all : s ≠ [] ∧ ∀ c ∈ s, isBlank c = false := by
    rcases number with ⟨k, digits | ⟨_, rfl, digits⟩, -⟩ | ⟨_, k, rfl, digits, -⟩
    · exact ofDigits digits
    · exact ⟨List.cons_ne_nil _ _, List.forall_mem_cons.mpr ⟨by decide, (ofDigits digits).2⟩⟩
    · exact ⟨List.cons_ne_nil _ _, List.forall_mem_cons.mpr ⟨by decide, (ofDigits digits).2⟩⟩
  exact ⟨all.1, fun c first => all.2 c (List.mem_of_mem_head? first),
    fun c last => all.2 c (List.mem_of_mem_getLast? last)⟩

/-- Trimming leaves a number exactly if it has only blanks around it. -/
theorem isSigned_trim_iff : IsSigned (trim s) n ↔ IsPadded s n := by
  constructor
  · intro number
    obtain ⟨before, after, split, front, back⟩ := exists_trimWhile isBlank s
    exact ⟨before, trim s, after, split, front, back, number⟩
  · rintro ⟨before, number, after, rfl, front, back, signed⟩
    obtain ⟨nonempty, first, last⟩ := ends_of_isSigned signed
    rwa [trim, trimWhile_append first last nonempty front back]

theorem trim_ne_nil_of_isPadded (padded : IsPadded s n) : trim s ≠ [] :=
  (ends_of_isSigned (isSigned_trim_iff.mpr padded)).1

theorem identifier?_text {t : String} (solid : trim t.toList ≠ []) :
    identifier? (.text t) = match intOf? (trim t.toList) with
      | some n =>
        if -0x8000000000000000 ≤ n ∧ n < 0x8000000000000000 then .ok (some n)
        else .error (.custom ("cannot parse \x60" ++ t ++ "\x60 as an integer"))
      | none => .error (.custom ("cannot parse \x60" ++ t ++ "\x60 as an integer")) := by
  rw [identifier?]
  split
  · contradiction
  · rfl

/-- A value is read as an identifier exactly if it says one. -/
theorem identifier?_eq_ok_iff : identifier? v = .ok id ↔ IsIdentifier v id := by
  cases v with
  | null =>
      rw [identifier?]
      constructor
      · rintro ⟨⟩
        exact .null
      · rintro ⟨⟩
        rfl
  | bool b => exact iff_of_false nofun nofun
  | whole k =>
      rw [identifier?]
      constructor
      · intro read
        split_ifs at read with small
        obtain rfl := Except.ok.inj read
        exact .whole (by omega)
      · rintro ⟨⟩
        rename_i small
        rw [if_pos (by omega)]
  | real x => exact iff_of_false nofun nofun
  | text t =>
      by_cases blank : trim t.toList = []
      · rw [identifier?, blank]
        constructor
        · rintro ⟨⟩
          exact .blank (trimWhile_eq_nil_iff.mp blank)
        · intro given
          cases given with
          | blank => rfl
          | text padded => exact absurd blank (trim_ne_nil_of_isPadded padded)
      · rw [identifier?_text blank]
        constructor
        · intro read
          split at read
          · rename_i n number
            split_ifs at read with range
            obtain rfl := Except.ok.inj read
            exact .text (isSigned_trim_iff.mp (intOf?_eq_some_iff.mp number)) range.1 (by omega)
          · contradiction
        · intro given
          cases given with
          | blank all => exact absurd (trimWhile_eq_nil_iff.mpr all) blank
          | text padded lower upper =>
              rw [intOf?_eq_some_iff.mpr (isSigned_trim_iff.mpr padded)]
              exact if_pos ⟨lower, by omega⟩
  | list items => exact iff_of_false nofun nofun
  | object members => exact iff_of_false nofun nofun

end RawParams

end HeaderBidding
