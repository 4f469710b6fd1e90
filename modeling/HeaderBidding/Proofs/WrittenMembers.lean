import HeaderBidding.Proofs.Decoding
import HeaderBidding.Proofs.SortedDocuments

/-!
# The members that are written

The text of a record, read as a document of any shape, is an object that has a member for each
field that is not hidden, with what the field holds.
-/

namespace HeaderBidding

namespace Json

/-- The value of a member of an object. -/
def get? (document : Json) (key : String) : Option Json :=
  match document with
  | object members => member? key members
  | _ => none

theorem lookup_cons_eq {α : Type} (name key : String) (a : α) (rest : List (String × α)) :
    ((key, a) :: rest).lookup name = if name = key then some a else rest.lookup name := by
  by_cases same : name = key
  · rw [if_pos same, List.lookup, beq_iff_eq.mpr same]
  · rw [if_neg same, List.lookup, beq_false_of_ne same]

theorem lookup_insertMember {α : Type} (name key : String) (a : α) (kept : List (String × α)) :
    (insertMember key a kept).lookup name = if name = key then some a else kept.lookup name := by
  induction kept with
  | nil => rw [insertMember, lookup_cons_eq]
  | cons entry kept ih =>
      obtain ⟨other, b⟩ := entry
      rw [insertMember]
      split_ifs with before same <;> simp only [lookup_cons_eq, ih] <;> split_ifs <;> simp_all

/-- Of entries that are put in one after the other, those with a key of their own are found. -/
theorem lookup_insertAll {α : Type} (name : String) (kept entries : List (String × α))
    (distinct : (entries.map Prod.fst).Nodup) :
    (insertAll kept entries).lookup name = (entries.lookup name).or (kept.lookup name) := by
  induction entries generalizing kept with
  | nil => rfl
  | cons entry entries ih =>
      obtain ⟨key, a⟩ := entry
      rw [List.map_cons, List.nodup_cons] at distinct
      have next : insertAll kept ((key, a) :: entries) =
          insertAll (insertMember key a kept) entries := rfl
      rw [next, ih _ distinct.2, lookup_insertMember, lookup_cons_eq]
      split_ifs with same
      · subst same
        have absent : entries.lookup name = none := by
          rw [List.lookup_eq_none_iff]
          intro other mem
          have ne : name ≠ other.1 := by
            rintro rfl
            exact distinct.1 (List.mem_map.mpr ⟨other, mem, rfl⟩)
          simpa using ne
        rw [absent]
        rfl
      · rfl

theorem lookup_rereadMembers (name : String) (members : List (String × Json)) :
    (rereadMembers members).lookup name = (members.lookup name).map reread := by
  induction members with
  | nil => rfl
  | cons member members ih =>
      obtain ⟨key, value⟩ := member
      rw [rereadMembers, lookup_cons_eq, lookup_cons_eq, ih]
      split_ifs <;> rfl

theorem map_fst_rereadMembers (members : List (String × Json)) :
    (rereadMembers members).map Prod.fst = members.map Prod.fst := by
  induction members with
  | nil => rfl
  | cons member members ih =>
      obtain ⟨key, value⟩ := member
      rw [rereadMembers, List.map_cons, ih, List.map_cons]

/-- Reading an object again finds the same members in it. -/
theorem get?_reread_object {members : List (String × Json)}
    (distinct : (members.map Prod.fst).Nodup) (name : String) :
    (object members).reread.get? name = (members.lookup name).map reread := by
  rw [reread, get?, member?, lookup_insertAll _ _ _ (by rwa [map_fst_rereadMembers]),
    lookup_rereadMembers]
  simp

theorem rereadItems_eq_map (items : List Json) : rereadItems items = items.map reread := by
  induction items with
  | nil => rfl
  | cons item items ih => rw [rereadItems, ih, List.map_cons]

end Json

open Json

/-! ## Members of records -/

namespace Fields

/-- The fields of a record, each with its value in the document unless it is hidden. -/
def shown {β σ : Type} : Fields β σ → β → List (String × Option Json)
  | .nil, _ => []
  | .cons name presence codec rest, (a, b) =>
    (name, if presence.hides a then none else some (codec.toJson a)) :: rest.shown b

theorem map_fst_toMembers_sublist : ∀ {β σ : Type} (fields : Fields β σ) (b : β),
    ((fields.toMembers b).map Prod.fst).Sublist fields.names
  | _, _, .nil, _ => .slnil
  | _, _, .cons name presence codec rest, (a, b) => by
      have others := map_fst_toMembers_sublist rest b
      rw [toMembers, names]
      split_ifs
      · exact others.cons name
      · exact others.cons_cons name

/-- A member is written exactly for a field that is not hidden. -/
theorem lookup_toMembers (name : String) : ∀ {β σ : Type} (fields : Fields β σ) (b : β),
    fields.names.Nodup → (fields.toMembers b).lookup name = ((fields.shown b).lookup name).join
  | _, _, .nil, _, _ => rfl
  | _, _, .cons other presence codec rest, (a, b), distinct => by
      rw [names, List.nodup_cons] at distinct
      have others := lookup_toMembers name rest b distinct.2
      rw [toMembers, shown, lookup_cons_eq]
      split_ifs with hidden same same
      · subst same
        refine List.lookup_eq_none_iff.mpr fun member mem => ?_
        have ne : name ≠ member.1 := by
          rintro rfl
          exact distinct.1 (rest.name_mem_of_mem_toMembers b member mem)
        simpa using ne
      · exact others
      · rw [lookup_cons_eq, if_pos same]
        rfl
      · rw [lookup_cons_eq, if_neg same]
        exact others

end Fields

/-- The members of a record that has been written and read as a document of any shape. -/
theorem Codec.get?_record {α β σ : Type} {label : String} {fields : Fields β σ} {shape : Shape β α}
    (lawful : (Codec.record label fields shape).Lawful) (a : α) (name : String) :
    ((Codec.record label fields shape).toJson a).reread.get? name =
      ((fields.shown (shape.parts a)).lookup name).join.map Json.reread := by
  rw [Codec.toJson, get?_reread_object, fields.lookup_toMembers name _ lawful.1]
  exact (fields.map_fst_toMembers_sublist _).nodup lawful.1

/-! ## Depth -/

mutual

/-- The document of a value that fits is not nested too deep. -/
theorem Codec.depth_toJson_le {good : Float → Prop} : ∀ {α : Type} (codec : Codec α) (d : Nat)
    (a : α), codec.height ≤ d → codec.Fits good d a → (codec.toJson a).depth ≤ d
  | _, .text, _, _, _, _ => Nat.zero_le _
  | _, .word _, _, _, _, _ => Nat.zero_le _
  | _, .real, _, _, _, _ => Nat.zero_le _
  | _, .choice _, _, _, _, _ => Nat.zero_le _
  | _, .free, _, _, _, fits => fits
  | _, .list item, d, as, high, fits => by
      rw [Codec.height] at high
      have each : depthItems (as.map item.toJson) ≤ d - 1 := by
        rw [depthItems_le_iff, List.forall_mem_map]
        exact fun a mem => item.depth_toJson_le (d - 1) a (by omega) (fits a mem)
      rw [Codec.toJson, depth]
      omega
  | _, .optional _, _, none, _, _ => Nat.zero_le _
  | _, .optional inner, d, some a, high, fits =>
      inner.depth_toJson_le d a high (fits a rfl)
  | _, .pair first second, d, (a, b), high, fits => by
      rw [Codec.height] at high
      have left := first.depth_toJson_le (d - 1) a (by omega) fits.1
      have right := second.depth_toJson_le (d - 1) b (by omega) fits.2
      simp only [Codec.toJson, depth, depthItems]
      omega
  | _, .dictionary value, d, entries, high, fits => by
      rw [Codec.height] at high
      have each : depthMembers (entries.map fun entry => (entry.1, value.toJson entry.2)) ≤
          d - 1 := by
        rw [depthMembers_le_iff, List.forall_mem_map]
        exact fun entry mem => value.depth_toJson_le (d - 1) entry.2 (by omega) (fits entry mem)
      rw [Codec.toJson, depth]
      omega
  | _, .record _ fields shape, d, a, high, fits => by
      rw [Codec.height] at high
      have each := fields.depth_toMembers_le (d - 1) (shape.parts a) (by omega) fits
      rw [Codec.toJson, depth]
      omega

theorem Fields.depth_toMembers_le {good : Float → Prop} : ∀ {β σ : Type} (fields : Fields β σ)
    (d : Nat) (b : β), fields.height ≤ d → fields.Fits good d b →
    depthMembers (fields.toMembers b) ≤ d
  | _, _, .nil, _, _, _, _ => Nat.zero_le _
  | _, _, .cons _ presence codec rest, d, (a, b), high, fits => by
      rw [Fields.height] at high
      have first := codec.depth_toJson_le d a (by omega) fits.1
      have others := rest.depth_toMembers_le d b (by omega) fits.2
      rw [Fields.toMembers]
      split_ifs
      · exact others
      · rw [depthMembers]
        omega

end

/-- The text of a value that fits can be read as a document of any shape. -/
theorem Codec.decode_free_encode {good : Float → Prop} {α : Type} {codec : Codec α} {a : α}
    (high : codec.height ≤ depthLimit) (fits : codec.Fits good depthLimit a) :
    Codec.free.decode (codec.encode a) = .ok (codec.toJson a).reread :=
  @Codec.decode_encode Json .free _ trivial (Nat.zero_le _)
    (codec.depth_toJson_le depthLimit a high fits)

end HeaderBidding
