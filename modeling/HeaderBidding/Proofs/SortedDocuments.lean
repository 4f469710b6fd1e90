import HeaderBidding.Proofs.Documents

/-!
# Documents that come back as they were

A document of any shape keeps the members of its objects sorted by key, each key once.  Such a
document is read back as it was written if its doubles are.
-/

namespace HeaderBidding.Json

/-- The text of the double is read as the same double. -/
def ReadsBack (x : Float) : Prop :=
  readNumber (writeReal x) = .ok (.real x, [])

/-- Only finite doubles have a text. -/
theorem ReadsBack.isFinite {x : Float} (back : ReadsBack x) : x.isFinite = true := by
  by_contra infinite
  rw [ReadsBack, writeReal_of_not_isFinite infinite] at back
  contradiction

theorem ReadsBack.rereadReal {x : Float} (back : ReadsBack x) : rereadReal x = x := by
  have read := readNumber_real back.isFinite Delimits.nil.endsNumber
  rw [List.append_nil, ← writeReal_of_isFinite back.isFinite, back] at read
  exact (Number.real.inj (Prod.mk.inj (Except.ok.inj read)).1).symm

theorem readsBack_of_rereadReal {x : Float} (finite : x.isFinite = true)
    (same : Json.rereadReal x = x) : ReadsBack x := by
  have read := readNumber_real finite Delimits.nil.endsNumber
  rwa [List.append_nil, ← writeReal_of_isFinite finite, same] at read

theorem readsBack_half : ReadsBack 0.5 :=
  readsBack_of_rereadReal (by decide +kernel) (by decide +kernel)

/-! ## Sorted members -/

mutual

/-- In every object of the document the members are sorted by key, each key once. -/
def Sorted : Json → Prop
  | list items => SortedItems items
  | object members => (members.map Prod.fst).Pairwise (· < ·) ∧ SortedMembers members
  | _ => True

/-- All of some items are sorted. -/
def SortedItems : List Json → Prop
  | [] => True
  | item :: items => item.Sorted ∧ SortedItems items

/-- The values of all of some members are sorted. -/
def SortedMembers : List (String × Json) → Prop
  | [] => True
  | (_, value) :: members => value.Sorted ∧ SortedMembers members

end

mutual

/-- All doubles of the document have a property. -/
def AllReals (p : Float → Prop) : Json → Prop
  | real x => p x
  | list items => AllRealsItems p items
  | object members => AllRealsMembers p members
  | _ => True

/-- All doubles of some items have a property. -/
def AllRealsItems (p : Float → Prop) : List Json → Prop
  | [] => True
  | item :: items => item.AllReals p ∧ AllRealsItems p items

/-- All doubles in the values of some members have a property. -/
def AllRealsMembers (p : Float → Prop) : List (String × Json) → Prop
  | [] => True
  | (_, value) :: members => value.AllReals p ∧ AllRealsMembers p members

end

theorem insertMember_of_above {α : Type} {key : String} {a : α} {kept : List (String × α)}
    (above : ∀ entry ∈ kept, entry.1 < key) : insertMember key a kept = kept ++ [(key, a)] := by
  induction kept with
  | nil => rfl
  | cons entry kept ih =>
      obtain ⟨first, others⟩ := List.forall_mem_cons.mp above
      rw [insertMember, if_neg first.asymm, if_neg first.ne', ih others, List.cons_append]

/-- Entries that are sorted by key are kept in their order. -/
theorem insertAll_of_sorted {α : Type} {entries : List (String × α)}
    (sorted : (entries.map Prod.fst).Pairwise (· < ·)) : insertAll [] entries = entries := by
  have behind : ∀ (entries kept : List (String × α)),
      ((kept ++ entries).map Prod.fst).Pairwise (· < ·) →
        insertAll kept entries = kept ++ entries := by
    intro entries
    induction entries with
    | nil => simp [insertAll]
    | cons entry entries ih =>
        intro kept sorted
        have above : ∀ other ∈ kept, other.1 < entry.1 := by
          intro other mem
          rw [List.map_append, List.pairwise_append] at sorted
          exact sorted.2.2 _ (List.mem_map_of_mem mem) _ (by simp)
        have next : insertAll kept (entry :: entries) =
            insertAll (insertMember entry.1 entry.2 kept) entries := rfl
        rw [next, insertMember_of_above above, ih _ (by simpa using sorted)]
        simp
  simpa using behind entries [] (by simpa using sorted)

mutual

theorem reread_of_sorted : ∀ (v : Json), v.Sorted → v.AllReals ReadsBack → v.reread = v
  | null, _, _ => rfl
  | bool _, _, _ => rfl
  | whole _, _, _ => rfl
  | text _, _, _ => rfl
  | real x, _, back => by
      replace back : ReadsBack x := back
      rw [reread, if_pos back.isFinite, back.rereadReal]
  | list items, sorted, back => by
      rw [reread, rereadItems_of_sorted items sorted back]
  | object members, sorted, back => by
      rw [reread, rereadMembers_of_sorted members sorted.2 back, insertAll_of_sorted sorted.1]

theorem rereadItems_of_sorted : ∀ (items : List Json), SortedItems items →
    AllRealsItems ReadsBack items → rereadItems items = items
  | [], _, _ => rfl
  | item :: items, sorted, back => by
      rw [rereadItems, reread_of_sorted item sorted.1 back.1,
        rereadItems_of_sorted items sorted.2 back.2]

theorem rereadMembers_of_sorted : ∀ (members : List (String × Json)), SortedMembers members →
    AllRealsMembers ReadsBack members → rereadMembers members = members
  | [], _, _ => rfl
  | (key, value) :: members, sorted, back => by
      rw [rereadMembers, reread_of_sorted value sorted.1 back.1,
        rereadMembers_of_sorted members sorted.2 back.2]

end

/-- Only `null` is written as `null`, but for doubles without a text. -/
theorem writesNull_iff {v : Json} (back : v.AllReals ReadsBack) : v.WritesNull ↔ v = null := by
  constructor
  · intro writes
    cases v with
    | null => rfl
    | bool b => cases b <;> contradiction
    | whole n => exact absurd writes (not_writesNull_whole n)
    | text s => exact absurd writes (not_writesNull_text s)
    | list items => exact absurd writes (not_writesNull_list items)
    | object members => exact absurd writes (not_writesNull_object members)
    | real x =>
        have read : readNumber (writeReal x) = .ok (.real x, []) := back
        have null : writeReal x = "null".toList := writes
        rw [null] at read
        contradiction
  · rintro rfl
    rfl

end HeaderBidding.Json
