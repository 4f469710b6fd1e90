import HeaderBidding.Proofs.ParameterDecision

/-!
# Validated parameters as a normal form

Validated parameters hold the canonical texts of two identifiers, and a size.  However an object
spells these, under which names and in which order, it is validated to the same parameters again.
-/

namespace HeaderBidding

namespace Decimal

/-! ## Canonical texts -/

/-- The text of an integer other than zero in digits, of which the first is not zero, behind a minus
if the integer is negative. -/
inductive IsCanonical : List Char → Int → Prop
  | positive {s : List Char} {n : Nat} (digits : IsDigits s n) (first : s.head? ≠ some '0') :
      IsCanonical s n
  | negative {s : List Char} {n : Nat} (digits : IsDigits s n) (first : s.head? ≠ some '0') :
      IsCanonical ('-' :: s) (-n)

variable {c : Char} {s : List Char} {k n : Nat} {id : Int}

theorem isDigits_natural (n : Nat) : IsDigits (natural n) n where
  nonempty := natural_ne_nil n
  digits := isDigit_of_mem_natural n
  value := valueFrom_natural n

/-- Zeros in front of digits change nothing. -/
theorem IsDigits.zeros (digits : IsDigits s n) (k : Nat) :
    IsDigits (List.replicate k '0' ++ s) n where
  nonempty := List.append_ne_nil_of_right_ne_nil _ digits.nonempty
  digits := by
    refine List.forall_mem_append.mpr ⟨fun c mem => ?_, digits.digits⟩
    rw [List.eq_of_mem_replicate mem]
    rfl
  value := by rw [valueFrom_append, valueFrom_zeros, Nat.zero_mul, digits.value]

theorem head?_natural_ne_zero (positive : 0 < n) : (natural n).head? ≠ some '0' := by
  obtain ⟨c, s, written, nonzero⟩ := natural_eq_cons positive
  rw [written]
  exact fun same => nonzero (Option.some.inj same)

theorem digit_digitValue (isDigit : c.isDigit = true) :
    digitValue c < 10 ∧ digit (digitValue c) = c := by
  simp only [Char.isDigit, Bool.and_eq_true, decide_eq_true_eq] at isDigit
  have low : 48 ≤ c.toNat := isDigit.1
  have high : c.toNat ≤ 57 := isDigit.2
  refine ⟨by rw [digitValue]; omega, ?_⟩
  rw [digit, digitValue, Nat.add_sub_cancel' low, Char.ofNat_toNat]

theorem natural_ten_mul_add (positive : 0 < n) (small : k < 10) :
    natural (10 * n + k) = natural n ++ [digit k] := by
  rw [natural, if_neg (by omega), Nat.mul_add_div (by decide), Nat.div_eq_of_lt small,
    Nat.mul_add_mod, Nat.mod_eq_of_lt small, Nat.add_zero]

/-- Digits of which the first is not zero are the canonical ones. -/
theorem IsDigits.eq_natural (digits : IsDigits s n) (first : s.head? ≠ some '0') :
    s = natural n := by
  induction s using List.reverseRecOn generalizing n with
  | nil => exact absurd rfl digits.nonempty
  | append_singleton s c ih =>
      obtain ⟨nonempty, all, rfl⟩ := digits
      obtain ⟨others, last⟩ := List.forall_mem_append.mp all
      obtain ⟨small, back⟩ := digit_digitValue (last c List.mem_cons_self)
      have value : valueFrom 0 (s ++ [c]) = 10 * valueFrom 0 s + digitValue c := by
        rw [valueFrom_append]
        rfl
      by_cases empty : s = []
      · subst empty
        rw [value, natural, if_pos (by simpa [valueFrom] using small)]
        simpa [valueFrom] using back.symm
      · rw [List.head?_append_of_ne_nil _ empty] at first
        have written := ih ⟨empty, others, rfl⟩ first
        -- Digits without a zero in front denote no zero, so that a digit can stand behind them.
        have positive : 0 < valueFrom 0 s := by
          by_contra zero
          rw [Nat.eq_zero_of_not_pos zero, natural, if_pos (by decide)] at written
          rw [written] at first
          exact first rfl
        rw [value, natural_ten_mul_add positive small, back, ← written]

theorem isCanonical_integer (nonzero : id ≠ 0) : IsCanonical (integer id) id := by
  have digits := isDigits_natural id.natAbs
  have first := head?_natural_ne_zero (Int.natAbs_pos.mpr nonzero)
  rw [integer]
  split
  · have negative := IsCanonical.negative digits first
    rwa [show -(id.natAbs : Int) = id by omega] at negative
  · have positive := IsCanonical.positive digits first
    rwa [show (id.natAbs : Int) = id by omega] at positive

/-- An integer has one canonical text. -/
theorem IsCanonical.eq_integer (canonical : IsCanonical s id) (nonzero : id ≠ 0) :
    s = integer id := by
  cases canonical with
  | @positive _ n digits first =>
      rw [integer, if_neg (by omega), Int.natAbs_natCast, ← digits.eq_natural first]
  | @negative _ n digits first =>
      rw [integer, if_pos (by omega), Int.natAbs_neg, Int.natAbs_natCast,
        ← digits.eq_natural first]

end Decimal

open Decimal Text

/-- The text is the canonical one of an identifier. -/
structure IsCanonicalId (text : String) (id : Int) : Prop where
  canonical : IsCanonical text.toList id
  nonzero : id ≠ 0
  lower : -0x8000000000000000 ≤ id
  upper : id ≤ 0x7FFFFFFFFFFFFFFF

/-- Parameters hold canonical texts of identifiers. -/
structure PartnerParams.IsNormal (params : PartnerParams) : Prop where
  publisherId : ∃ id, IsCanonicalId params.publisherId id
  tagId : ∃ id, IsCanonicalId params.tagId id

/-! ## Spellings -/

/-- What may stand in front of the digits of an identifier for its sign. -/
inductive IsSignOf (id : Int) : List Char → Prop
  | none (positive : 0 < id) : IsSignOf id []
  | plus (positive : 0 < id) : IsSignOf id ['+']
  | minus (negative : id < 0) : IsSignOf id ['-']

/-- The value spells an identifier: it is the number, or a text with its digits behind a sign and
any number of zeros, and with blanks around it. -/
inductive SpellsId (id : Int) : Json → Prop
  | number {n : Whole} (same : n.val = id) : SpellsId id (.whole n)
  | text {s : String} {before sign after : List Char} {zeros : Nat} (signed : IsSignOf id sign)
      (front : ∀ c ∈ before, isBlank c = true) (back : ∀ c ∈ after, isBlank c = true)
      (spelled : s.toList =
        before ++ (sign ++ (List.replicate zeros '0' ++ natural id.natAbs) ++ after)) :
      SpellsId id (.text s)

/-- The value spells a size: it is a text with the digits of its width, a cross, the digits of its
height and any number of crosses, where any number of zeros may stand in front of digits. -/
inductive SpellsSize (width height : UInt32) : Json → Prop
  | text {s : String} {cross : Char} {crosses : List Char} {zeros zeros' : Nat}
      (isCross : AdSize.IsCross cross) (areCrosses : ∀ c ∈ crosses, AdSize.IsCross c)
      (spelled : s.toList = (List.replicate zeros '0' ++ natural width.toNat) ++
        cross :: ((List.replicate zeros' '0' ++ natural height.toNat) ++ crosses)) :
      SpellsSize width height (.text s)

namespace PartnerParams

/-- The value spells what the parameters say for one of the three. -/
def Spells (params : PartnerParams) (v : Json) : Parameter → Prop
  | .publisherId => ∃ id, IsCanonicalId params.publisherId id ∧ SpellsId id v
  | .tagId => ∃ id, IsCanonicalId params.tagId id ∧ SpellsId id v
  | .adSize => SpellsSize params.width params.height v

/-- The members spell the parameters: in some order, they are a value for each of the three under
one of its two names, and members with other names. -/
def IsSpelledBy (params : PartnerParams) (members : List (String × Json)) : Prop :=
  ∃ (name : Parameter → String) (value : Parameter → Json) (others : List (String × Json)),
    (∀ p : Parameter, p.IsName (name p)) ∧ (∀ p, params.Spells (value p) p) ∧
      (∀ m ∈ others, ∀ p : Parameter, ¬p.IsName m.1) ∧
      members.Perm ([.publisherId, .tagId, .adSize].map (fun p => (name p, value p)) ++ others)

end PartnerParams

variable {id : Int} {v : Json} {members others : List (String × Json)} {params : PartnerParams}
  {unit : AdUnit}

/-- The one of three things that is meant for a parameter. -/
def Parameter.pick {α : Type} (publisherId tagId adSize : α) : Parameter → α
  | .publisherId => publisherId
  | .tagId => tagId
  | .adSize => adSize

/-- Members that spell parameters are one for each of the three, and others. -/
theorem PartnerParams.isSpelledBy_of_perm {publisher tag size : String × Json}
    (publisherName : Parameter.IsName .publisherId publisher.1)
    (tagName : Parameter.IsName .tagId tag.1) (sizeName : Parameter.IsName .adSize size.1)
    (publisherId : params.Spells publisher.2 .publisherId) (tagId : params.Spells tag.2 .tagId)
    (adSize : params.Spells size.2 .adSize)
    (other : ∀ m ∈ others, ∀ p : Parameter, ¬p.IsName m.1)
    (perm : members.Perm (publisher :: tag :: size :: others)) : params.IsSpelledBy members := by
  refine ⟨fun p => (p.pick publisher tag size).1, fun p => (p.pick publisher tag size).2, others,
    ?_, ?_, other, perm⟩
  · rintro (_ | _ | _)
    exacts [publisherName, tagName, sizeName]
  · rintro (_ | _ | _)
    exacts [publisherId, tagId, adSize]

theorem IsCanonicalId.eq_integerText {text : String} (canonical : IsCanonicalId text id) :
    text = integerText id := by
  rw [integerText, ← canonical.canonical.eq_integer canonical.nonzero, String.ofList_toList]

theorem isCanonicalId_integerText (nonzero : id ≠ 0) (lower : -0x8000000000000000 ≤ id)
    (upper : id ≤ 0x7FFFFFFFFFFFFFFF) : IsCanonicalId (integerText id) id where
  canonical := by
    rw [integerText, String.toList_ofList]
    exact isCanonical_integer nonzero
  nonzero
  lower
  upper

/-! ### Values -/

theorem isSigned_of_isSignOf {sign : List Char} (signed : IsSignOf id sign) (zeros : Nat) :
    IsSigned (sign ++ (List.replicate zeros '0' ++ natural id.natAbs)) id := by
  have digits := (isDigits_natural id.natAbs).zeros zeros
  cases signed with
  | none positive => exact .inl ⟨_, .inl digits, by omega⟩
  | plus positive => exact .inl ⟨_, .inr ⟨_, rfl, digits⟩, by omega⟩
  | minus negative => exact .inr ⟨_, _, rfl, digits, by omega⟩

/-- What spells an identifier is read as it. -/
theorem SpellsId.isIdentifier (spells : SpellsId id v) (lower : -0x8000000000000000 ≤ id)
    (upper : id ≤ 0x7FFFFFFFFFFFFFFF) : RawParams.IsIdentifier v (some id) := by
  cases spells with
  | number same =>
      subst same
      exact .whole upper
  | text signed front back spelled =>
      exact .text ⟨_, _, _, spelled, front, back, isSigned_of_isSignOf signed _⟩ lower upper

/-- What spells a size is read as it. -/
theorem SpellsSize.exists_text {width height : UInt32} (spells : SpellsSize width height v) :
    ∃ text, v = .text text ∧ text ≠ "" ∧ AdSize.ofText text = .ok ⟨width, height⟩ := by
  obtain @⟨text, cross, crosses, zeros, zeros', isCross, areCrosses, spelled⟩ := spells
  refine ⟨text, rfl, ?_, AdSize.ofText_eq_ok_iff.mpr ?_⟩
  · rintro rfl
    simp at spelled
  · exact ⟨_, cross, _, crosses, spelled, isCross, areCrosses,
      .inl ((isDigits_natural _).zeros zeros), .inl ((isDigits_natural _).zeros zeros')⟩

/-! ### Members -/

namespace RawParams

open Parameter

theorem valuesFor_append (p : Parameter) (members others : List (String × Json)) :
    valuesFor p (members ++ others) = valuesFor p members ++ valuesFor p others := by
  rw [valuesFor, List.filter_append, List.map_append]
  rfl

theorem valuesFor_of_others {p : Parameter} (other : ∀ m ∈ others, ¬p.IsName m.1) :
    valuesFor p others = [] := by
  rw [valuesFor, List.filter_eq_nil_iff.mpr (by simpa using other), List.map_nil]

/-- One value for each parameter is given by members that have them under names of their own. -/
theorem valuesFor_of_perm {name : Parameter → String} {value : Parameter → Json}
    (named : ∀ p : Parameter, p.IsName (name p))
    (other : ∀ m ∈ others, ∀ p : Parameter, ¬p.IsName m.1)
    (perm : members.Perm
      ([.publisherId, .tagId, .adSize].map (fun p => (name p, value p)) ++ others))
    (p : Parameter) : valuesFor p members = [value p] := by
  have own : ∀ q, IsName p (name q) ↔ q = p := fun q =>
    ⟨fun name' => eq_of_isName (named q) name', fun same => same ▸ named q⟩
  have given := (perm.filter fun m => p.IsName m.1).map Prod.snd
  change (valuesFor p members).Perm (valuesFor p _) at given
  rw [valuesFor_append, valuesFor_of_others fun m mem => other m mem p, List.append_nil] at given
  rw [← List.perm_singleton]
  refine given.trans (.of_eq ?_)
  cases p <;> simp [valuesFor, own]

end RawParams

open RawParams

/-- Members that spell parameters are validated to them. -/
theorem AdUnit.partnerParams_of_isSpelledBy (spelled : params.IsSpelledBy members)
    (given : unit.params = some (.object members)) : unit.partnerParams = .ok params := by
  obtain ⟨name, value, others, named, spells, other, perm⟩ := spelled
  obtain ⟨publisherId, canonical, publisher⟩ := spells .publisherId
  obtain ⟨tagId, canonical', tag⟩ := spells .tagId
  obtain ⟨text, size, nonempty, read⟩ := SpellsSize.exists_text (spells .adSize)
  have shown : Shows (.object members) fun p => some (value p) :=
    .object fun p => valuesFor_of_perm named other perm p
  have made : RawParams.ofJson (.object members) =
      .ok ⟨some publisherId, some tagId, some text⟩ :=
    ofJson_eq_ok_iff.mpr ⟨_, shown,
      identifier?_eq_ok_iff.mpr (publisher.isIdentifier canonical.lower canonical.upper),
      identifier?_eq_ok_iff.mpr (tag.isIdentifier canonical'.lower canonical'.upper),
      size?_eq_ok_iff.mpr (.inr ⟨text, size, rfl⟩)⟩
  exact partnerParams_eq_ok_iff.mpr ⟨_, _, given, made,
    { publisherId := ⟨publisherId, rfl, canonical.nonzero, canonical.eq_integerText⟩
      tagId := ⟨tagId, rfl, canonical'.nonzero, canonical'.eq_integerText⟩
      adSize := ⟨text, rfl, nonempty, read⟩ }⟩

/-! ## Normal forms -/

theorem IsIdentifier.bounds (isId : IsIdentifier v (some id)) :
    -0x8000000000000000 ≤ id ∧ id ≤ 0x7FFFFFFFFFFFFFFF := by
  cases isId with
  | @whole n small => exact ⟨n.lower, small⟩
  | text _ lower upper => exact ⟨lower, upper⟩

theorem Parameter.IsIdentified.isCanonicalId {p : Parameter} {document : Json}
    (identified : p.IsIdentified id document) : IsCanonicalId (integerText id) id := by
  obtain ⟨nonzero, v, -, isId⟩ := identified
  obtain ⟨lower, upper⟩ := IsIdentifier.bounds isId
  exact isCanonicalId_integerText nonzero lower upper

theorem AdUnit.isNormal_of_partnerParams (accepted : unit.partnerParams = .ok params) :
    params.IsNormal := by
  have decided := partnerParams_eq_iff.mp accepted
  generalize unit.params = given at decided
  cases decided with
  | accepted readable first second =>
      exact ⟨⟨_, first.isCanonicalId⟩, ⟨_, second.isCanonicalId⟩⟩

/-- Normal forms are spelled by some object. -/
theorem PartnerParams.IsNormal.exists_isSpelledBy (normal : params.IsNormal) :
    ∃ members, params.IsSpelledBy members := by
  have ofId {text : String} (canonical : ∃ id, IsCanonicalId text id) :
      ∃ v id, IsCanonicalId text id ∧ SpellsId id v := by
    obtain ⟨id, canonical⟩ := canonical
    have upper := canonical.upper
    exact ⟨.whole ⟨id, canonical.lower, by omega⟩, id, canonical, .number rfl⟩
  have size : SpellsSize params.width params.height
      (.text (String.ofList (natural params.width.toNat ++ 'x' :: natural params.height.toNat))) :=
    @SpellsSize.text _ _ _ 'x' [] 0 0 (.inl rfl) (by simp) (by simp)
  have each (p : Parameter) : ∃ v, params.Spells v p := by
    cases p with
    | publisherId => exact ofId normal.publisherId
    | tagId => exact ofId normal.tagId
    | adSize => exact ⟨_, size⟩
  choose value spells using each
  exact ⟨_, Parameter.short, value, [], fun p => .inl rfl, spells, by simp, .refl _⟩

/-- Validated parameters are in normal form: their identifiers are canonical texts, and an ad unit
whose parameters are any object that spells them, of which there are some, is validated to them. -/
theorem AdUnit.partnerParams_normalForm (accepted : unit.partnerParams = .ok params) :
    params.IsNormal ∧ (∃ members, params.IsSpelledBy members) ∧
      ∀ members, params.IsSpelledBy members →
        ∀ other : AdUnit, other.params = some (.object members) →
          other.partnerParams = .ok params := by
  have normal := isNormal_of_partnerParams accepted
  exact ⟨normal, normal.exists_isSpelledBy,
    fun members spelled other given => partnerParams_of_isSpelledBy spelled given⟩

/-- Parameters with the smallest identifier of all. -/
def smallestParams : PartnerParams where
  publisherId := "-9223372036854775808"
  tagId := "7"
  width := 640
  height := 0

/-- An ad unit that is validated to them. -/
def smallestUnit : AdUnit where
  params := some (.object [("cf", .text "640x0"),
    ("cp", .whole ⟨-0x8000000000000000, by decide, by decide⟩), ("ct", .text "7")])

/-- The same parameters, spelled at length. -/
def longMembers : List (String × Json) :=
  [("pct", .list []), ("adSize", .text "00640X000XxX"), ("ct", .text "+007\t"),
   ("publisherId", .text " \u3000-09223372036854775808")]

theorem longMembers_spell : smallestParams.IsSpelledBy longMembers := by
  have smallest : integerText (-0x8000000000000000) = "-9223372036854775808" := by decide +kernel
  have seven : integerText 7 = "7" := by decide +kernel
  have front : ∀ c ∈ [' ', '\u3000'], isBlank c = true :=
    List.forall_mem_cons.mpr ⟨rfl, List.forall_mem_singleton.mpr rfl⟩
  have back : ∀ c ∈ ['\t'], isBlank c = true := List.forall_mem_singleton.mpr rfl
  refine PartnerParams.isSpelledBy_of_perm (.inr rfl) (.inl rfl) (.inr rfl) ?_ ?_ ?_ ?_
    (List.reverse_perm [_, _, _, _])
  · exact ⟨_, smallest ▸ isCanonicalId_integerText (by decide) (by decide) (by decide),
      @SpellsId.text _ _ _ ['-'] [] 1 (.minus (by decide)) front (by simp) (by decide +kernel)⟩
  · exact ⟨_, seven ▸ isCanonicalId_integerText (by decide) (by decide) (by decide),
      @SpellsId.text _ _ [] ['+'] _ 2 (.plus (by decide)) (by simp) back (by decide +kernel)⟩
  · exact @SpellsSize.text _ _ _ 'X' ['X', 'x', 'X'] 2 2 (.inr rfl) (by simp [AdSize.IsCross])
      (by decide +kernel)
  · simp only [List.forall_mem_singleton]
    rintro (_ | _ | _) <;> decide

theorem AdUnit.partnerParams_normalForm_smallest :
    smallestUnit.partnerParams = .ok smallestParams ∧
      ({ params := some (.object longMembers) } : AdUnit).partnerParams = .ok smallestParams := by
  have accepted : smallestUnit.partnerParams = .ok smallestParams := by
    cbv
  obtain ⟨-, -, respelled⟩ := partnerParams_normalForm accepted
  exact ⟨accepted, respelled longMembers longMembers_spell _ rfl⟩

end HeaderBidding
