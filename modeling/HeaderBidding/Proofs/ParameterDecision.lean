import HeaderBidding.Proofs.AdSizes
import HeaderBidding.Proofs.Identifiers
import HeaderBidding.Proofs.ParameterMembers
import HeaderBidding.Proofs.Parameters

/-!
# How parameters are decided

Parameters that are not there come before a document that cannot be read, this comes before the
three parameters that may be missing from it, in their order, and these come before a size that is
none.  A document cannot be read if it is of the wrong shape, if it gives two values for a
parameter, or if it gives a value of the wrong kind.
-/

namespace HeaderBidding

namespace Parameter

/-- There is no identifier for the parameter, or it is zero. -/
def IsLacking (p : Parameter) (document : Json) : Prop :=
  ∀ v, p.IsGiven v document → RawParams.IsIdentifier v none ∨ RawParams.IsIdentifier v (some 0)

/-- The identifier that is given for the parameter, unless it is zero. -/
def IsIdentified (p : Parameter) (n : Int) (document : Json) : Prop :=
  n ≠ 0 ∧ ∃ v, p.IsGiven v document ∧ RawParams.IsIdentifier v (some n)

end Parameter

namespace RawParams

open Parameter

/-- The document cannot be read as parameters. -/
inductive IsMalformed : Json → Prop
  | shape {document : Json} (noNull : document ≠ .null) (noList : ∀ items, document ≠ .list items)
      (noObject : ∀ members, document ≠ .object members) : IsMalformed document
  | long {items : List Json} (more : 3 < items.length) : IsMalformed (.list items)
  | clash {members : List (String × Json)} (p : Parameter) (clashes : p.Clashes members) :
      IsMalformed (.object members)
  | identifier {document v : Json} {p : Parameter} (noSize : p ≠ .adSize)
      (given : p.IsGiven v document) (other : ∀ id, ¬IsIdentifier v id) : IsMalformed document
  | size {document v : Json} (given : IsGiven .adSize v document) (noNull : v ≠ .null)
      (noText : ∀ s, v ≠ .text s) : IsMalformed document

/-- The document can be read as parameters. -/
def IsReadable (document : Json) : Prop :=
  document ≠ .null ∧ ¬IsMalformed document

/-- There is no size, or its text is empty. -/
def LacksSize (document : Json) : Prop :=
  ∀ v, IsGiven .adSize v document → v = .null ∨ v = .text ""

/-- The text that is given for the size, unless it is empty. -/
def HasSize (size : String) (document : Json) : Prop :=
  size ≠ "" ∧ IsGiven .adSize (.text size) document

/-- What becomes of parameters: the first reason to reject them, or their canonical form. -/
inductive IsDecided : Option Json → Except ParamsError PartnerParams → Prop
  | absent : IsDecided none (.error .missingParams)
  | null : IsDecided (some .null) (.error .missingParams)
  | malformed {document : Json} {cause : Cause} (malformed : IsMalformed document)
      (reason : ofJson document = .error cause) :
      IsDecided (some document) (.error (.malformed cause.message))
  | publisherId {document : Json} (readable : IsReadable document)
      (lacks : IsLacking .publisherId document) :
      IsDecided (some document) (.error .missingPublisherId)
  | tagId {document : Json} {publisher : Int} (readable : IsReadable document)
      (first : IsIdentified .publisherId publisher document) (lacks : IsLacking .tagId document) :
      IsDecided (some document) (.error .missingTagId)
  | adSize {document : Json} {publisher tag : Int} (readable : IsReadable document)
      (first : IsIdentified .publisherId publisher document)
      (second : IsIdentified .tagId tag document) (lacks : LacksSize document) :
      IsDecided (some document) (.error .missingAdSize)
  | refused {document : Json} {publisher tag : Int} {size : String} {e : ParamsError}
      (readable : IsReadable document) (first : IsIdentified .publisherId publisher document)
      (second : IsIdentified .tagId tag document) (third : HasSize size document)
      (other : ¬∃ read, AdSize.IsSpelled size.toList read) (refusal : AdSize.IsRefusal size e) :
      IsDecided (some document) (.error e)
  | accepted {document : Json} {publisher tag : Int} {size : String} {read : AdSize}
      (readable : IsReadable document) (first : IsIdentified .publisherId publisher document)
      (second : IsIdentified .tagId tag document) (third : HasSize size document)
      (spelled : AdSize.IsSpelled size.toList read) :
      IsDecided (some document)
        (.ok ⟨Decimal.integerText publisher, Decimal.integerText tag, read.width, read.height⟩)

/-! ## Documents -/

variable {α : Type} {p : Parameter} {members : List (String × Json)} {document v : Json}
  {values : Parameter → Option Json} {raw : RawParams}

/-- A document of the right shape gives at most one value for each parameter. -/
inductive Shows : Json → (Parameter → Option Json) → Prop
  | list {items : List Json} (short : items.length ≤ 3) :
      Shows (.list items) fun p => items[p.place]?
  | object {members : List (String × Json)} {values : Parameter → Option Json}
      (each : ∀ p, valuesFor p members = (values p).toList) : Shows (.object members) values

theorem Shows.isGiven_iff (shown : Shows document values) :
    p.IsGiven v document ↔ values p = some v := by
  cases shown with
  | list short => exact Iff.rfl
  | object each => rw [← mem_valuesFor, each, Option.mem_toList]

theorem exists_shows (readable : IsReadable document) : ∃ values, Shows document values := by
  obtain ⟨noNull, formed⟩ := readable
  cases document with
  | null => contradiction
  | list items =>
      refine ⟨_, .list ?_⟩
      by_contra more
      exact formed (.long (by omega))
  | object members =>
      refine ⟨fun p => (valuesFor p members).head?, .object fun p => ?_⟩
      have single : (valuesFor p members).length ≤ 1 := by
        by_contra more
        exact formed (.clash p (clashes_iff.mpr (by omega)))
      rcases given : valuesFor p members with _ | ⟨v, _ | ⟨w, others⟩⟩
      · rfl
      · rfl
      · simp [given] at single
  | bool | whole | real | text => exact absurd (.shape (by simp) (by simp) (by simp)) formed

/-- A value that is not given is read like `null`. -/
theorem exists_fills_iff (p : Parameter) (members : List (String × Json))
    {read : Json → Except Cause (Option α)} (absent : read .null = .ok none) (a : Option α) :
    (∃ slot, Fills read p members none slot ∧ slot.join = a) ↔
      ∃ v : Option Json, valuesFor p members = v.toList ∧ read (v.getD .null) = .ok a := by
  simp only [fills_none_iff]
  constructor
  · rintro ⟨_, ⟨none, rfl⟩ | ⟨v, a, single, taken, rfl⟩, rfl⟩
    · exact ⟨.none, none, absent⟩
    · exact ⟨some v, single, taken⟩
  · rintro ⟨_ | v, given, taken⟩
    · exact ⟨none, .inl ⟨given, rfl⟩, Except.ok.inj (absent.symm.trans taken)⟩
    · exact ⟨some a, .inr ⟨v, a, given, taken, rfl⟩, rfl⟩

theorem ofItems_eq_ok_iff {items : List Json} : ofItems items = .ok raw ↔
    items.length ≤ 3 ∧ identifier? (items[0]?.getD .null) = .ok raw.publisherId ∧
      identifier? (items[1]?.getD .null) = .ok raw.tagId ∧
      size? (items[2]?.getD .null) = .ok raw.adSize := by
  simp only [ofItems, List.getD_eq_getElem?_getD]
  constructor
  · intro made
    split at made
    · contradiction
    · rename_i publisher
      split at made
      · contradiction
      · rename_i tag
        split at made
        · contradiction
        · rename_i size
          split_ifs at made with short
          obtain rfl := Except.ok.inj made
          exact ⟨short, publisher, tag, size⟩
  · rintro ⟨short, publisher, tag, size⟩
    simp only [publisher, tag, size, if_pos short]

theorem ofJson_object_eq_ok_iff : ofJson (.object members) = .ok raw ↔
    ∃ slots, readMembers {} members = .ok slots ∧ ofSlots slots = raw := by
  rw [ofJson]
  cases readMembers {} members <;> simp [Except.map]

/-- A document is read exactly if it has the right shape and each value that it gives is read. -/
theorem ofJson_eq_ok_iff : ofJson document = .ok raw ↔
    ∃ values, Shows document values ∧
      identifier? ((values .publisherId).getD .null) = .ok raw.publisherId ∧
      identifier? ((values .tagId).getD .null) = .ok raw.tagId ∧
      size? ((values .adSize).getD .null) = .ok raw.adSize := by
  cases document with
  | list items =>
      rw [ofJson, ofItems_eq_ok_iff]
      constructor
      · rintro ⟨short, read⟩
        exact ⟨_, .list short, read⟩
      · rintro ⟨_, ⟨short⟩, read⟩
        exact ⟨short, read⟩
  | object members =>
      have ids (p : Parameter) := exists_fills_iff p members (rfl : identifier? .null = .ok none)
      have sizes := exists_fills_iff .adSize members (rfl : size? .null = .ok none)
      simp only [ofJson_object_eq_ok_iff, readMembers_eq_ok_iff]
      constructor
      · rintro ⟨slots, ⟨publishers, tags, adSizes⟩, rfl⟩
        obtain ⟨publisher, first, read⟩ := (ids .publisherId _).mp ⟨_, publishers, rfl⟩
        obtain ⟨tag, second, read'⟩ := (ids .tagId _).mp ⟨_, tags, rfl⟩
        obtain ⟨size, third, read''⟩ := (sizes _).mp ⟨_, adSizes, rfl⟩
        refine ⟨fun p => (valuesFor p members).head?, .object ?_, ?_⟩
        · rintro (_ | _ | _)
          · rw [first, Option.head?_toList]
          · rw [second, Option.head?_toList]
          · rw [third, Option.head?_toList]
        · simp only [first, second, third, Option.head?_toList]
          exact ⟨read, read', read''⟩
      · rintro ⟨values, shown, read, read', read''⟩
        obtain ⟨each⟩ | ⟨each⟩ := shown
        obtain ⟨publisher, first, same⟩ := (ids .publisherId _).mpr ⟨_, each _, read⟩
        obtain ⟨tag, second, same'⟩ := (ids .tagId _).mpr ⟨_, each _, read'⟩
        obtain ⟨size, third, same''⟩ := (sizes _).mpr ⟨_, each _, read''⟩
        refine ⟨⟨publisher, tag, size⟩, ⟨first, second, third⟩, ?_⟩
        simp only [ofSlots, same, same', same'']
  | null | bool | whole | real | text =>
      refine iff_of_false (by simp [ofJson]) ?_
      rintro ⟨_, ⟨⟩, -⟩

/-! ## Values -/

theorem IsIdentifier.unique {first second : Option Int} (one : IsIdentifier v first)
    (other : IsIdentifier v second) : first = second :=
  Except.ok.inj ((identifier?_eq_ok_iff.mpr one).symm.trans (identifier?_eq_ok_iff.mpr other))

theorem size?_eq_ok_iff {size : Option String} : size? v = .ok size ↔
    v = .null ∧ size = none ∨ ∃ s, v = .text s ∧ size = some s := by
  cases v <;> simp [size?, eq_comm]

/-- A value that is given for an identifier is one, in a document that can be read. -/
theorem IsReadable.exists_identifier (readable : IsReadable document) (noSize : p ≠ .adSize)
    (shown : Shows document values) : ∃ id, identifier? ((values p).getD .null) = .ok id := by
  cases given : values p with
  | none => exact ⟨none, rfl⟩
  | some v =>
      by_contra other
      refine readable.2 (.identifier noSize (shown.isGiven_iff.mpr given) fun id isId => ?_)
      exact other ⟨id, identifier?_eq_ok_iff.mpr isId⟩

theorem IsReadable.exists_size (readable : IsReadable document) (shown : Shows document values) :
    ∃ size, size? ((values .adSize).getD .null) = .ok size := by
  cases given : values .adSize with
  | none => exact ⟨none, rfl⟩
  | some v =>
      by_contra other
      refine readable.2 (.size (shown.isGiven_iff.mpr given) ?_ ?_)
      · rintro rfl
        exact other ⟨none, rfl⟩
      · rintro s rfl
        exact other ⟨some s, rfl⟩

/-- What is malformed cannot be read, and nothing else but `null`. -/
theorem isMalformed_iff (noNull : document ≠ .null) :
    IsMalformed document ↔ ∃ cause, ofJson document = .error cause := by
  constructor
  · intro malformed
    cases read : ofJson document with
    | error cause => exact ⟨cause, rfl⟩
    | ok raw =>
        obtain ⟨values, shown, publisher, tag, size⟩ := ofJson_eq_ok_iff.mp read
        cases malformed with
        | shape _ noList noObject =>
            cases shown with
            | list => exact absurd rfl (noList _)
            | object => exact absurd rfl (noObject _)
        | long more =>
            obtain ⟨short⟩ | _ := shown
            omega
        | clash p clashes =>
            obtain _ | ⟨each⟩ := shown
            have many := clashes_iff.mp clashes
            have one : (values p).toList.length ≤ 1 := by
              cases values p <;> simp
            rw [each] at many
            omega
        | @identifier _ v p noSize given other =>
            have shows := shown.isGiven_iff.mp given
            cases p with
            | publisherId =>
                rw [shows] at publisher
                exact absurd (identifier?_eq_ok_iff.mp publisher) (other _)
            | tagId =>
                rw [shows] at tag
                exact absurd (identifier?_eq_ok_iff.mp tag) (other _)
            | adSize => contradiction
        | size given noNull noText =>
            rw [shown.isGiven_iff.mp given] at size
            rcases size?_eq_ok_iff.mp size with ⟨null, -⟩ | ⟨s, text, -⟩
            · exact absurd null noNull
            · exact absurd text (noText s)
  · rintro ⟨cause, read⟩
    by_contra formed
    have readable : IsReadable document := ⟨noNull, formed⟩
    obtain ⟨values, shown⟩ := exists_shows readable
    obtain ⟨publisherId, publisher⟩ :=
      readable.exists_identifier (p := .publisherId) nofun shown
    obtain ⟨tagId, tag⟩ := readable.exists_identifier (p := .tagId) nofun shown
    obtain ⟨adSize, size⟩ := readable.exists_size shown
    have made : ofJson document = .ok ⟨publisherId, tagId, adSize⟩ :=
      ofJson_eq_ok_iff.mpr ⟨values, shown, publisher, tag, size⟩
    rw [made] at read
    contradiction

/-! ## Decisions -/

theorem isLacking_iff {id : Option Int} (shown : Shows document values)
    (read : identifier? ((values p).getD .null) = .ok id) :
    p.IsLacking document ↔ nonzero? id = none := by
  have lacking : nonzero? id = none ↔ id = none ∨ id = some 0 := by
    cases id <;> simp [nonzero?, Option.filter]
  simp only [lacking, IsLacking, shown.isGiven_iff]
  cases given : values p with
  | none =>
      rw [given] at read
      obtain rfl : none = id := Except.ok.inj read
      simp
  | some v =>
      rw [given] at read
      have isId := identifier?_eq_ok_iff.mp read
      simp only [Option.some.injEq, forall_eq']
      constructor
      · exact Or.imp isId.unique isId.unique
      · rintro (rfl | rfl)
        · exact .inl isId
        · exact .inr isId

theorem isIdentified_iff {id : Option Int} {n : Int} (shown : Shows document values)
    (read : identifier? ((values p).getD .null) = .ok id) :
    p.IsIdentified n document ↔ nonzero? id = some n := by
  rw [nonzero?_eq_some_iff, and_comm, IsIdentified]
  refine and_congr_right fun _ => ?_
  simp only [shown.isGiven_iff]
  cases given : values p with
  | none =>
      rw [given] at read
      obtain rfl : none = id := Except.ok.inj read
      simp
  | some v =>
      rw [given] at read
      have isId := identifier?_eq_ok_iff.mp read
      simp only [Option.some.injEq, exists_eq_left']
      constructor
      · exact isId.unique
      · rintro rfl
        exact isId

theorem lacksSize_iff {size : Option String} (shown : Shows document values)
    (read : size? ((values .adSize).getD .null) = .ok size) :
    LacksSize document ↔ size.filter (· ≠ "") = none := by
  simp only [LacksSize, shown.isGiven_iff]
  cases given : values .adSize with
  | none =>
      rw [given] at read
      obtain rfl : none = size := Except.ok.inj read
      simp
  | some v =>
      rw [given] at read
      rcases size?_eq_ok_iff.mp read with ⟨rfl, rfl⟩ | ⟨s, rfl, rfl⟩
      · simp
      · simp [Option.filter_eq_none_iff]

theorem hasSize_iff {size : Option String} {s : String} (shown : Shows document values)
    (read : size? ((values .adSize).getD .null) = .ok size) :
    HasSize s document ↔ size.filter (· ≠ "") = some s := by
  simp only [HasSize, shown.isGiven_iff]
  cases given : values .adSize with
  | none =>
      rw [given] at read
      obtain rfl : none = size := Except.ok.inj read
      simp
  | some v =>
      rw [given] at read
      rcases size?_eq_ok_iff.mp read with ⟨rfl, rfl⟩ | ⟨t, rfl, rfl⟩
      · simp
      · simp only [Option.some.injEq, Json.text.injEq, Option.filter_eq_some_iff,
          decide_eq_true_eq, and_comm]

/-- What has been read of a document says what the document gives. -/
structure Reflects (document : Json) (raw : RawParams) : Prop where
  noPublisher : IsLacking .publisherId document ↔ nonzero? raw.publisherId = none
  publisher : ∀ n, IsIdentified .publisherId n document ↔ nonzero? raw.publisherId = some n
  noTag : IsLacking .tagId document ↔ nonzero? raw.tagId = none
  tag : ∀ n, IsIdentified .tagId n document ↔ nonzero? raw.tagId = some n
  noSize : LacksSize document ↔ raw.adSize.filter (· ≠ "") = none
  size : ∀ s, HasSize s document ↔ raw.adSize.filter (· ≠ "") = some s

theorem IsReadable.exists_reflects (readable : IsReadable document) :
    ∃ raw, ofJson document = .ok raw ∧ Reflects document raw := by
  cases read : ofJson document with
  | error cause => exact absurd ((isMalformed_iff readable.1).mpr ⟨cause, read⟩) readable.2
  | ok raw =>
      obtain ⟨values, shown, publisher, tag, size⟩ := ofJson_eq_ok_iff.mp read
      exact ⟨raw, rfl,
        { noPublisher := isLacking_iff shown publisher
          publisher := fun _ => isIdentified_iff shown publisher
          noTag := isLacking_iff shown tag
          tag := fun _ => isIdentified_iff shown tag
          noSize := lacksSize_iff shown size
          size := fun _ => hasSize_iff shown size }⟩

/-- There is a decision for all parameters. -/
theorem exists_isDecided (params : Option Json) : ∃ outcome, IsDecided params outcome := by
  rcases params with _ | document
  · exact ⟨_, .absent⟩
  by_cases null : document = .null
  · subst null
    exact ⟨_, .null⟩
  by_cases malformed : IsMalformed document
  · obtain ⟨cause, reason⟩ := (isMalformed_iff null).mp malformed
    exact ⟨_, .malformed malformed reason⟩
  have readable : IsReadable document := ⟨null, malformed⟩
  obtain ⟨raw, -, reflects⟩ := readable.exists_reflects
  cases publisherId : nonzero? raw.publisherId with
  | none => exact ⟨_, .publisherId readable (reflects.noPublisher.mpr publisherId)⟩
  | some publisherId' =>
      have first := (reflects.publisher _).mpr publisherId
      cases tagId : nonzero? raw.tagId with
      | none => exact ⟨_, .tagId readable first (reflects.noTag.mpr tagId)⟩
      | some tagId' =>
          have second := (reflects.tag _).mpr tagId
          cases adSize : raw.adSize.filter (· ≠ "") with
          | none => exact ⟨_, .adSize readable first second (reflects.noSize.mpr adSize)⟩
          | some text =>
              have third := (reflects.size _).mpr adSize
              cases spelled : AdSize.ofText text with
              | error e =>
                  obtain ⟨other, refusal⟩ := AdSize.ofText_eq_error_iff.mp spelled
                  exact ⟨_, .refused readable first second third other refusal⟩
              | ok size =>
                  exact ⟨_, .accepted readable first second third
                    (AdSize.ofText_eq_ok_iff.mp spelled)⟩

theorem IsMalformed.ne_null (malformed : IsMalformed document) : document ≠ .null := by
  rintro rfl
  cases malformed with
  | shape noNull => contradiction
  | identifier _ given => exact given
  | size given => exact given

end RawParams

open RawParams Parameter

variable {unit : AdUnit} {document : Json} {raw : RawParams}
  {outcome : Except ParamsError PartnerParams}

theorem AdUnit.partnerParams_of_document (given : unit.params = some document)
    (noNull : document ≠ .null) : unit.partnerParams = PartnerParams.ofJson document := by
  rw [partnerParams, given]
  split
  · contradiction
  · rename_i null
    exact absurd (Option.some.inj null) noNull
  · rename_i other _ same
    rw [Option.some.inj same]

/-- What can be read is validated. -/
theorem AdUnit.partnerParams_of_readable (given : unit.params = some document)
    (readable : IsReadable document) :
    ∃ raw, unit.partnerParams = raw.validate ∧ Reflects document raw := by
  obtain ⟨raw, read, reflects⟩ := readable.exists_reflects
  refine ⟨raw, ?_, reflects⟩
  rw [partnerParams_of_document given readable.1, PartnerParams.ofJson, read]

/-- The parameters of an ad unit become what has been decided. -/
theorem AdUnit.partnerParams_of_isDecided (decided : IsDecided unit.params outcome) :
    unit.partnerParams = outcome := by
  generalize given : unit.params = params at decided
  cases decided with
  | absent => rw [partnerParams, given]
  | null => rw [partnerParams, given]
  | malformed malformed reason =>
      rw [partnerParams_of_document given malformed.ne_null, PartnerParams.ofJson, reason]
  | publisherId readable lacks =>
      obtain ⟨raw, same, reflects⟩ := partnerParams_of_readable given readable
      rw [same, RawParams.validate, reflects.noPublisher.mp lacks]
  | tagId readable first lacks =>
      obtain ⟨raw, same, reflects⟩ := partnerParams_of_readable given readable
      rw [same, RawParams.validate, (reflects.publisher _).mp first, reflects.noTag.mp lacks]
  | adSize readable first second lacks =>
      obtain ⟨raw, same, reflects⟩ := partnerParams_of_readable given readable
      rw [same, RawParams.validate, (reflects.publisher _).mp first, (reflects.tag _).mp second,
        reflects.noSize.mp lacks]
  | refused readable first second third other refusal =>
      obtain ⟨raw, same, reflects⟩ := partnerParams_of_readable given readable
      have refused := AdSize.ofText_eq_error_iff.mpr ⟨other, refusal⟩
      rw [same]
      simp only [RawParams.validate, (reflects.publisher _).mp first, (reflects.tag _).mp second,
        (reflects.size _).mp third, refused]
  | accepted readable first second third spelled =>
      obtain ⟨raw, same, reflects⟩ := partnerParams_of_readable given readable
      have read := AdSize.ofText_eq_ok_iff.mpr spelled
      rw [same]
      simp only [RawParams.validate, (reflects.publisher _).mp first, (reflects.tag _).mp second,
        (reflects.size _).mp third, read]

theorem AdUnit.partnerParams_eq_iff :
    unit.partnerParams = outcome ↔ IsDecided unit.params outcome := by
  constructor
  · rintro rfl
    obtain ⟨outcome, decided⟩ := exists_isDecided unit.params
    rwa [partnerParams_of_isDecided decided]
  · exact partnerParams_of_isDecided

/-- The parameters of an ad unit are decided for the first reason that applies.  They are malformed
exactly if their document is. -/
theorem AdUnit.partnerParams_decision (unit : AdUnit) :
    (∀ outcome, unit.partnerParams = outcome ↔ IsDecided unit.params outcome) ∧
      ((∃ reason, unit.partnerParams = .error (.malformed reason)) ↔
        ∃ document, unit.params = some document ∧ IsMalformed document) := by
  refine ⟨fun _ => partnerParams_eq_iff, ?_⟩
  constructor
  · rintro ⟨reason, refused⟩
    have decided := partnerParams_eq_iff.mp refused
    generalize unit.params = params at decided
    cases decided with
    | malformed malformed => exact ⟨_, rfl, malformed⟩
    | refused _ _ _ _ _ refusal => cases refusal
  · rintro ⟨document, given, malformed⟩
    obtain ⟨cause, reason⟩ := (isMalformed_iff malformed.ne_null).mp malformed
    refine ⟨cause.message, partnerParams_of_isDecided ?_⟩
    rw [given]
    exact .malformed malformed reason

end HeaderBidding
