import HeaderBidding.Proofs.Reading

/-!
# Documents of any shape

A document that is not nested deeper than its reader allows is read back with its doubles as their
digits show them, and with the members of its objects sorted.
-/

namespace HeaderBidding.Json

open Reader

variable {s rest : List Char} {c : Char} {inner? : Option (Reader Json)} {inner : Reader Json}

/-! ## Depth -/

mutual

/-- How deep the lists and the objects of a document are nested. -/
def depth : Json → Nat
  | list items => depthItems items + 1
  | object members => depthMembers members + 1
  | _ => 0

/-- The depth of the deepest of some items. -/
def depthItems : List Json → Nat
  | [] => 0
  | item :: items => max item.depth (depthItems items)

/-- The depth of the deepest of some members. -/
def depthMembers : List (String × Json) → Nat
  | [] => 0
  | (_, value) :: members => max value.depth (depthMembers members)

end

/-! ## Reading again -/

mutual

/-- What the text of a document is read as. -/
def reread : Json → Json
  | real x => if x.isFinite then real (rereadReal x) else null
  | list items => list (rereadItems items)
  | object members => object (insertAll [] (rereadMembers members))
  | value => value

/-- What the texts of items are read as. -/
def rereadItems : List Json → List Json
  | [] => []
  | item :: items => item.reread :: rereadItems items

/-- What the texts of members are read as, in their order. -/
def rereadMembers : List (String × Json) → List (String × Json)
  | [] => []
  | (key, value) :: members => (key, value.reread) :: rereadMembers members

end

theorem readerOver_flat (space : Space) (solid : isSpace c = false) (square : c ≠ '[')
    (curly : c ≠ '{') :
    (readerOver inner?).run (space.chars ++ c :: s) = readScalar (c :: s) := by
  simp only [readerOver, skipSpace_space, skipSpace_cons solid]
  split <;> simp_all

theorem readScalar_of_readNumber {n : Number} (read : readNumber s = .ok (n, rest)) :
    readScalar s = .ok (n.toJson, rest) := by
  obtain ⟨c, t, rfl, start⟩ := exists_cons_of_readNumber read
  have other : ∀ d, d ≠ '-' → d.isDigit = false → c ≠ d := by
    rintro d minus digit rfl
    simp_all
  rw [readScalar, if_pos start, read]
  · exact fun same => other '"' (by decide) rfl same
  · exact fun same => other 'n' (by decide) rfl same
  · exact fun same => other 't' (by decide) rfl same
  · exact fun same => other 'f' (by decide) rfl same

theorem readerOver_of_readNumber {n : Number} (space : Space)
    (read : readNumber s = .ok (n, rest)) :
    (readerOver inner?).run (space.chars ++ s) = .ok (n.toJson, rest) := by
  obtain ⟨c, t, rfl, start⟩ := exists_cons_of_readNumber read
  obtain ⟨d, u, same, ⟨solid, -, -⟩, -⟩ := startsValue_of_readNumber read
  obtain ⟨rfl, rfl⟩ := List.cons.inj same
  have other : ∀ d, d ≠ '-' → d.isDigit = false → c ≠ d := by
    rintro d minus digit rfl
    simp_all
  rw [readerOver_flat space solid (other '[' (by decide) rfl) (other '{' (by decide) rfl),
    readScalar_of_readNumber read]

theorem readerOver_list {vs as : List Json} (each : List.Forall₂ inner.Reads vs as) :
    (readerOver (some inner)).Reads (list vs) (list as) := by
  intro layout level space rest _
  obtain ⟨inside, last, written, read⟩ := exists_items_list each layout level
  have bracket (t : List Char) : skipSpace (space.chars ++ '[' :: t) = '[' :: t := by
    rw [skipSpace_space, skipSpace_cons rfl]
  rw [written, List.cons_append]
  simp only [readerOver, bracket, Option.map_some, inList, allItems, read, placed, enclosed,
    closeList_space]

theorem readerOver_object {ms entries : List (String × Json)}
    (each : List.Forall₂ (fun m entry => m.1 = entry.1 ∧ inner.Reads m.2 entry.2) ms entries) :
    (readerOver (some inner)).Reads (object ms) (object (insertAll [] entries)) := by
  intro layout level space rest _
  obtain ⟨inside, last, written, read⟩ := exists_members_object (keep_takes each []) layout level
  have bracket (t : List Char) : skipSpace (space.chars ++ '{' :: t) = '{' :: t := by
    rw [skipSpace_space, skipSpace_cons rfl]
  rw [written, List.cons_append]
  simp only [readerOver, bracket, Option.map_some, inObject, allMembers, read, enclosed,
    closeObject_space]

theorem readerOver_real (x : Float) : (readerOver inner?).Reads (real x) (real x).reread := by
  intro layout level space rest ends
  change (readerOver inner?).run (space.chars ++ (writeReal x ++ rest)) = _
  by_cases finite : x.isFinite = true
  · rw [reread, if_pos finite, writeReal_of_isFinite finite]
    exact readerOver_of_readNumber space (readNumber_real finite ends.endsNumber)
  · rw [reread, if_neg finite, writeReal_of_not_isFinite finite]
    exact readerOver_flat space rfl (by decide) (by decide)

/-- A document that holds no other is read again at any depth. -/
theorem readerOver_scalar {v : Json} (noList : ∀ vs, v ≠ list vs) (noObject : ∀ ms, v ≠ object ms) :
    (readerOver inner?).Reads v v.reread := by
  cases v with
  | null => exact fun _ _ space _ _ => readerOver_flat space rfl (by decide) (by decide)
  | bool b =>
      cases b <;> exact fun _ _ space _ _ => readerOver_flat space rfl (by decide) (by decide)
  | whole n =>
      exact fun _ _ space _ ends =>
        readerOver_of_readNumber space (readNumber_integer n ends.endsNumber)
  | real x => exact readerOver_real x
  | text t =>
      intro layout level space rest _
      change (readerOver inner?).run (space.chars ++ (writeText t.toList ++ rest)) =
        .ok (text t, rest)
      rw [writeText_append, readerOver_flat space rfl (by decide) (by decide)]
      simp only [readScalar, readText_escaped, String.ofList_toList]
  | list vs => exact absurd rfl (noList vs)
  | object ms => exact absurd rfl (noObject ms)

theorem exists_reader (d : Nat) : ∃ inner?, reader d = readerOver inner? := by
  cases d <;> exact ⟨_, rfl⟩

theorem reader_scalar {v : Json} (d : Nat) (noList : ∀ vs, v ≠ list vs)
    (noObject : ∀ ms, v ≠ object ms) : (reader d).Reads v v.reread := by
  obtain ⟨inner?, same⟩ := exists_reader d
  rw [same]
  exact readerOver_scalar noList noObject

mutual

/-- A document is read again by a reader that allows its depth. -/
theorem reader_reads : ∀ (v : Json) (d : Nat), v.depth ≤ d → (reader d).Reads v v.reread
  | null, d, _ => reader_scalar d nofun nofun
  | bool _, d, _ => reader_scalar d nofun nofun
  | whole _, d, _ => reader_scalar d nofun nofun
  | real _, d, _ => reader_scalar d nofun nofun
  | text _, d, _ => reader_scalar d nofun nofun
  | list vs, 0, fits => absurd fits (by simp [depth])
  | list vs, d + 1, fits =>
      readerOver_list (reader_reads_items vs d (by simpa [depth] using fits))
  | object ms, 0, fits => absurd fits (by simp [depth])
  | object ms, d + 1, fits =>
      readerOver_object (reader_reads_members ms d (by simpa [depth] using fits))

theorem reader_reads_items : ∀ (vs : List Json) (d : Nat), depthItems vs ≤ d →
    List.Forall₂ (reader d).Reads vs (rereadItems vs)
  | [], _, _ => .nil
  | v :: vs, d, fits => by
      rw [depthItems, max_le_iff] at fits
      exact .cons (reader_reads v d fits.1) (reader_reads_items vs d fits.2)

theorem reader_reads_members : ∀ (ms : List (String × Json)) (d : Nat), depthMembers ms ≤ d →
    List.Forall₂ (fun m entry => m.1 = entry.1 ∧ (reader d).Reads m.2 entry.2)
      ms (rereadMembers ms)
  | [], _, _ => .nil
  | (_, v) :: ms, d, fits => by
      rw [depthMembers, max_le_iff] at fits
      exact .cons ⟨rfl, reader_reads v d fits.1⟩ (reader_reads_members ms d fits.2)

end

end HeaderBidding.Json
