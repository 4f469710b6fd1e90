import HeaderBidding.Params.Validation

/-!
# Where validated parameters come from

Parameters are accepted exactly if their document can be read and gives two identifiers that are
not zero and the text of a size.  Validated parameters are the canonical texts of these identifiers
and the size that the text stands for.
-/

namespace HeaderBidding

/-- Validated parameters are the canonical texts of identifiers other than zero, and the size that
a text gives. -/
structure PartnerParams.ComesFrom (params : PartnerParams) (raw : RawParams) : Prop where
  publisherId : ∃ id, raw.publisherId = some id ∧ id ≠ 0 ∧
    params.publisherId = Decimal.integerText id
  tagId : ∃ id, raw.tagId = some id ∧ id ≠ 0 ∧ params.tagId = Decimal.integerText id
  adSize : ∃ size, raw.adSize = some size ∧ size ≠ "" ∧
    AdSize.ofText size = .ok ⟨params.width, params.height⟩

theorem RawParams.nonzero?_eq_some_iff {id : Option Int} {n : Int} :
    nonzero? id = some n ↔ id = some n ∧ n ≠ 0 := by
  simp [nonzero?, Option.filter_eq_some_iff]

theorem RawParams.validate_eq_ok_iff {raw : RawParams} {params : PartnerParams} :
    raw.validate = .ok params ↔ params.ComesFrom raw := by
  constructor
  · intro ok
    unfold validate at ok
    split at ok
    · contradiction
    · rename_i publisherId publisher
      split at ok
      · contradiction
      · rename_i tagId tag
        split at ok
        · contradiction
        · rename_i size given
          split at ok
          · contradiction
          · rename_i width height read
            obtain rfl := Except.ok.inj ok
            obtain ⟨publisher, publisherNe⟩ := nonzero?_eq_some_iff.mp publisher
            obtain ⟨tag, tagNe⟩ := nonzero?_eq_some_iff.mp tag
            obtain ⟨given, sizeNe⟩ := Option.filter_eq_some_iff.mp given
            exact
              { publisherId := ⟨publisherId, publisher, publisherNe, rfl⟩
                tagId := ⟨tagId, tag, tagNe, rfl⟩
                adSize := ⟨size, given, by simpa using sizeNe, read⟩ }
  · rintro ⟨⟨publisherId, publisher, publisherNe, publisherText⟩,
      ⟨tagId, tag, tagNe, tagText⟩, size, given, sizeNe, read⟩
    have publisher := nonzero?_eq_some_iff.mpr ⟨publisher, publisherNe⟩
    have tag := nonzero?_eq_some_iff.mpr ⟨tag, tagNe⟩
    have given : raw.adSize.filter (· ≠ "") = some size :=
      Option.filter_eq_some_iff.mpr ⟨given, by simpa using sizeNe⟩
    simp only [validate, publisher, tag, given, read, ← publisherText, ← tagText]

/-- Parameters are accepted exactly if they are those of a document that can be read. -/
theorem AdUnit.partnerParams_eq_ok_iff {unit : AdUnit} {params : PartnerParams} :
    unit.partnerParams = .ok params ↔
      ∃ document raw, unit.params = some document ∧ RawParams.ofJson document = .ok raw ∧
        params.ComesFrom raw := by
  constructor
  · intro ok
    unfold partnerParams at ok
    split at ok
    · contradiction
    · contradiction
    · rename_i document _ given
      unfold PartnerParams.ofJson at ok
      split at ok
      · contradiction
      · rename_i raw read
        exact ⟨document, raw, given, read, RawParams.validate_eq_ok_iff.mp ok⟩
  · rintro ⟨document, raw, given, read, comes⟩
    have validated := RawParams.validate_eq_ok_iff.mpr comes
    unfold partnerParams
    split
    · simp_all
    · rename_i null
      obtain rfl := Option.some.inj (given.symm.trans null)
      contradiction
    · rename_i other _ found
      obtain rfl := Option.some.inj (given.symm.trans found)
      simp only [PartnerParams.ofJson, read, validated]

end HeaderBidding
