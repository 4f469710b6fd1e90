import HeaderBidding.Proofs.Records

/-!
# What has been read fits

Whatever has been read keeps to the depth that its reader allows, and has the doubles that the
reader of doubles gives.  Like reading what was written, this is shown for each kind of description
and then by induction.
-/

namespace HeaderBidding

namespace Reader

open Json

variable {α β σ : Type} {P : α → Prop} {Q : β → Prop} {I : σ → Prop}

/-- Whatever the reader reads has the property. -/
def Gives (reader : Reader α) (P : α → Prop) : Prop :=
  ∀ ⦃s r : List Char⦄ ⦃a : α⦄, reader.run s = .ok (a, r) → P a

/-- Whatever is read between brackets has the property. -/
def Inside.Gives (inside : Inside α) (P : α → Prop) : Prop :=
  ∀ ⦃s r : List Char⦄ ⦃a : α⦄, inside.run s = .ok (a, r) → P a

/-- Every step of the reader of members keeps the invariant. -/
def Step.Preserves (step : Step σ) (I : σ → Prop) : Prop :=
  ∀ ⦃key : String⦄ ⦃a b : σ⦄ ⦃s r : List Char⦄, I a → step.run key a s = .ok (b, r) → I b

/-! ## Brackets -/

theorem inList_gives {inside? : Option (Inside α)}
    (gives : ∀ inside, inside? = some inside → inside.Gives P) {s r : List Char} {a : α}
    (read : inList inside? s = .ok (a, r)) : P a := by
  cases inside? with
  | none => contradiction
  | some inside =>
      obtain ⟨rest, read, -⟩ := enclosed_shrinks closeList_shrinks read
      exact gives inside rfl read

theorem inObject_gives {inside? : Option (Inside α)}
    (gives : ∀ inside, inside? = some inside → inside.Gives P) {s r : List Char} {a : α}
    (read : inObject inside? s = .ok (a, r)) : P a := by
  cases inside? with
  | none => contradiction
  | some inside =>
      obtain ⟨rest, read, -⟩ := enclosed_shrinks closeObject_shrinks read
      exact gives inside rfl read

theorem list_gives {inside? : Option (Inside α)} {expected : String}
    (gives : ∀ inside, inside? = some inside → inside.Gives P) :
    (Reader.list inside? expected).Gives P := by
  intro s r a read
  simp only [Reader.list] at read
  split at read
  · exact inList_gives gives read
  · contradiction

theorem object_gives {inside? : Option (Inside α)} {expected : String}
    (gives : ∀ inside, inside? = some inside → inside.Gives P) :
    (Reader.object inside? expected).Gives P := by
  intro s r a read
  simp only [Reader.object] at read
  split at read
  · exact inObject_gives gives read
  · contradiction

theorem either_gives {listed? named? : Option (Inside α)} {expected : String}
    (listed : ∀ inside, listed? = some inside → inside.Gives P)
    (named : ∀ inside, named? = some inside → inside.Gives P) :
    (Reader.either listed? named? expected).Gives P := by
  intro s r a read
  simp only [Reader.either] at read
  split at read
  · exact inList_gives listed read
  · exact inObject_gives named read
  · contradiction

/-! ## Items and members -/

theorem allItems_gives {item : Reader α} (gives : item.Gives P) :
    (allItems item).Gives (∀ a ∈ ·, P a) := by
  intro s r as read
  replace read : items item true s = .ok (as, r) := placed_eq_ok read
  generalize true = isFirst at read
  fun_induction items item isFirst s generalizing as r with
  | case1 => contradiction
  | case2 =>
      obtain ⟨rfl, -⟩ := Prod.mk.inj (Except.ok.inj read)
      simp
  | case3 => contradiction
  | case4 => contradiction
  | case5 isFirst s t next a u first _ _ others v rest ih =>
      obtain ⟨rfl, -⟩ := Prod.mk.inj (Except.ok.inj read)
      exact List.forall_mem_cons.mpr ⟨gives first, ih rest⟩

theorem members_preserves {step : Step σ} (preserves : step.Preserves I) {isFirst : Bool} {a b : σ}
    {s r : List Char} (start : I a) (read : members step isFirst a s = .ok (b, r)) : I b := by
  fun_induction members step isFirst a s with
  | case1 => contradiction
  | case2 =>
      obtain ⟨rfl, -⟩ := Prod.mk.inj (Except.ok.inj read)
      exact start
  | case3 => contradiction
  | case4 => contradiction
  | case5 isFirst a s t next key u name c v stepped _ _ _ ih =>
      exact ih (preserves start stepped) read

theorem forall_mem_insertMember {key : String} {a : α} {kept : List (String × α)} (new : P a)
    (old : ∀ entry ∈ kept, P entry.2) : ∀ entry ∈ insertMember key a kept, P entry.2 := by
  induction kept with
  | nil => simpa [insertMember] using new
  | cons entry kept ih =>
      obtain ⟨first, others⟩ := List.forall_mem_cons.mp old
      rw [insertMember]
      split_ifs
      · exact List.forall_mem_cons.mpr ⟨new, old⟩
      · exact List.forall_mem_cons.mpr ⟨new, others⟩
      · exact List.forall_mem_cons.mpr ⟨first, ih others⟩

theorem keep_preserves {value : Reader α} (gives : value.Gives P) :
    (keep value).Preserves (∀ entry ∈ ·, P entry.2) := by
  intro key kept new s r old stepped
  simp only [keep] at stepped
  split at stepped
  · contradiction
  · split at stepped
    · contradiction
    · rename_i read
      obtain ⟨rfl, -⟩ := Prod.mk.inj (Except.ok.inj stepped)
      exact forall_mem_insertMember (gives read) old

theorem allMembers_gives {step : Step σ} {start : σ} (preserves : step.Preserves I)
    (initial : I start) : (allMembers step start).Gives I :=
  fun _ _ _ read => members_preserves preserves initial read

/-! ## Values -/

theorem optional_gives {inner : Reader α} (gives : inner.Gives P) :
    (Reader.optional inner).Gives (∀ b, · = some b → P b) := by
  intro s r a read
  simp only [Reader.optional] at read
  split at read
  · split at read
    · contradiction
    · obtain ⟨rfl, -⟩ := Prod.mk.inj (Except.ok.inj read)
      nofun
  · simp only [map] at read
    split at read
    · contradiction
    · rename_i taken
      obtain ⟨rfl, -⟩ := Prod.mk.inj (Except.ok.inj read)
      rintro b ⟨⟩
      exact gives taken

theorem next_gives {item : Reader α} {beyond? : Option α} {rest : Inside β} {expected : String}
    {place : Nat} (first : item.Gives P) (beyond : ∀ a, beyond? = some a → P a)
    (others : rest.Gives Q) :
    (Inside.next expected place item beyond? rest).Gives (fun both => P both.1 ∧ Q both.2) := by
  intro s r a read
  simp only [Inside.next] at read
  split at read
  · contradiction
  · split at read
    · contradiction
    · split at read
      · contradiction
      · rename_i given _ taken
        obtain ⟨rfl, -⟩ := Prod.mk.inj (Except.ok.inj read)
        exact ⟨beyond _ rfl, others taken⟩
  · split at read
    · contradiction
    · rename_i taken
      split at read
      · contradiction
      · rename_i taken'
        obtain ⟨rfl, -⟩ := Prod.mk.inj (Except.ok.inj read)
        exact ⟨first taken, others taken'⟩

theorem Inside.map_gives {f : α → β} {inside : Inside α} (gives : inside.Gives P)
    (carries : ∀ a, P a → Q (f a)) : (inside.map f).Gives Q := by
  intro s r b read
  simp only [Inside.map] at read
  split at read
  · contradiction
  · rename_i taken
    obtain ⟨rfl, -⟩ := Prod.mk.inj (Except.ok.inj read)
    exact carries _ (gives taken)

theorem named_gives {fields : Fields β σ} {step : Step σ} {make : β → α}
    (preserves : step.Preserves I) (initial : I fields.unread)
    (finished : ∀ slots b, I slots → fields.finish slots = .ok b → P (make b)) :
    (Inside.named fields step make).Gives P := by
  intro s r a read
  simp only [Inside.named] at read
  split at read
  · contradiction
  · rename_i slots _ taken
    split at read
    · contradiction
    · rename_i b done
      obtain ⟨rfl, -⟩ := Prod.mk.inj (Except.ok.inj read)
      exact finished slots b (members_preserves preserves initial taken) done

theorem field_preserves {name : String} {value : Reader α} {step : Step σ}
    (gives : value.Gives P) (preserves : step.Preserves I) :
    (Step.field name value step).Preserves
      (fun slots => (∀ a, slots.1 = some a → P a) ∧ I slots.2) := by
  intro key old new s r kept stepped
  simp only [Step.field] at stepped
  split at stepped
  · split at stepped
    · contradiction
    · split at stepped
      · contradiction
      · split at stepped
        · contradiction
        · rename_i read
          obtain ⟨rfl, -⟩ := Prod.mk.inj (Except.ok.inj stepped)
          constructor
          · rintro a ⟨⟩
            exact gives read
          · exact kept.2
  · split at stepped
    · contradiction
    · rename_i taken
      obtain ⟨rfl, -⟩ := Prod.mk.inj (Except.ok.inj stepped)
      exact ⟨kept.1, preserves kept.2 taken⟩

end Reader

/-! ## Documents of any shape -/

namespace Json

open Reader

theorem depthItems_le_iff {items : List Json} {d : Nat} :
    depthItems items ≤ d ↔ ∀ item ∈ items, item.depth ≤ d := by
  induction items with
  | nil => simp [depthItems]
  | cons item items ih => simp [depthItems, ih]

theorem depthMembers_le_iff {members : List (String × Json)} {d : Nat} :
    depthMembers members ≤ d ↔ ∀ m ∈ members, m.2.depth ≤ d := by
  induction members with
  | nil => simp [depthMembers]
  | cons m members ih => simp [depthMembers, ih]

theorem depth_of_readScalar {s r : List Char} {v : Json} (read : readScalar s = .ok (v, r)) :
    v.depth = 0 := by
  unfold readScalar at read
  split at read
  case h_1 => contradiction
  case h_6 =>
    split at read
    · split at read
      · contradiction
      · rename_i n _ _
        obtain ⟨rfl, -⟩ := Prod.mk.inj (Except.ok.inj read)
        cases n <;> rfl
    · contradiction
  all_goals
    split at read
    · contradiction
    · obtain ⟨rfl, -⟩ := Prod.mk.inj (Except.ok.inj read)
      rfl

theorem readerOver_gives {inner? : Option (Reader Json)} {d : Nat}
    (nested : ∀ inner, inner? = some inner → ∃ e, d = e + 1 ∧ inner.Gives (·.depth ≤ e)) :
    (readerOver inner?).Gives (·.depth ≤ d) := by
  intro s r v read
  simp only [readerOver] at read
  split at read
  · split at read
    · contradiction
    · rename_i items _ taken
      obtain ⟨rfl, -⟩ := Prod.mk.inj (Except.ok.inj read)
      refine inList_gives (P := fun items => (list items).depth ≤ d) ?_ taken
      intro inside made
      obtain ⟨inner, some, rfl⟩ := Option.map_eq_some_iff.mp made
      obtain ⟨e, rfl, gives⟩ := nested inner some
      intro s r items read
      rw [depth, Nat.add_le_add_iff_right, depthItems_le_iff]
      exact allItems_gives gives read
  · split at read
    · contradiction
    · rename_i members _ taken
      obtain ⟨rfl, -⟩ := Prod.mk.inj (Except.ok.inj read)
      refine inObject_gives (P := fun members => (object members).depth ≤ d) ?_ taken
      intro inside made
      obtain ⟨inner, some, rfl⟩ := Option.map_eq_some_iff.mp made
      obtain ⟨e, rfl, gives⟩ := nested inner some
      intro s r members read
      rw [depth, Nat.add_le_add_iff_right, depthMembers_le_iff]
      exact allMembers_gives (keep_preserves gives) (by simp) read
  · rw [depth_of_readScalar read]
    exact Nat.zero_le d

/-- What is read as a document is not nested deeper than the reader allows. -/
theorem reader_gives (d : Nat) : (reader d).Gives (·.depth ≤ d) := by
  induction d with
  | zero => exact readerOver_gives (by simp)
  | succ d ih =>
      apply readerOver_gives
      rintro inner ⟨⟩
      exact ⟨d, rfl, ih⟩

end Json

/-! ## By description -/

open Reader

/-- What has been read of the members of a record fits. -/
def Fields.SlotsFit {β σ : Type} (good : Float → Prop) : Fields β σ → Nat → σ → Prop
  | .nil, _, _ => True
  | .cons _ _ codec rest, depth, slots =>
    (∀ a, slots.1 = some a → codec.Fits good depth a) ∧ rest.SlotsFit good depth slots.2

namespace Fields

variable {good : Float → Prop}

theorem slotsFit_unread : ∀ {β σ : Type} (fields : Fields β σ) (d : Nat),
    fields.SlotsFit good d fields.unread
  | _, _, .nil, _ => trivial
  | _, _, .cons _ _ _ rest, d => ⟨by simp [unread], slotsFit_unread rest d⟩

/-- If all that has been read fits, so does the record, as what stands for absent members does. -/
theorem fits_of_finish : ∀ {β σ : Type} (fields : Fields β σ) (d : Nat) (slots : σ) (b : β),
    fields.Lawful → fields.SlotsFit good d slots → fields.finish slots = .ok b →
    fields.Fits good d b
  | _, _, .nil, _, _, _, _, _, _ => trivial
  | _, _, .cons name presence codec rest, d, (slot, slots), b, lawful, fit, finished => by
      rw [finish] at finished
      split at finished
      · contradiction
      · rename_i a chosen
        split at finished
        · contradiction
        · rename_i c others
          obtain rfl := Except.ok.inj finished
          constructor
          · rcases Option.or_eq_some_iff.mp chosen with read | ⟨-, absent⟩
            · exact fit.1 a read
            · exact lawful.2.1 a (.inl absent) good d
          · exact fits_of_finish rest d slots c lawful.2.2 fit.2 others

end Fields

variable {good : Float → Prop}

mutual

/-- What is read by a description fits. -/
theorem Codec.gives (doubles : Reader.real.Gives good) : ∀ {α : Type} (codec : Codec α) (d : Nat),
    codec.Lawful → (codec.reader d).Gives (codec.Fits good d)
  | _, .text, _, _ => fun _ _ _ _ => trivial
  | _, .word _, _, _ => fun _ _ _ _ => trivial
  | _, .real, _, _ => doubles
  | _, .choice _, _, _ => fun _ _ _ _ => trivial
  | _, .free, d, _ => Json.reader_gives d
  | _, .list _, 0, _ => list_gives (by simp)
  | _, .list item, d + 1, lawful => by
      apply list_gives
      rintro inside ⟨⟩
      exact allItems_gives (item.gives doubles d lawful)
  | _, .optional inner, d, lawful => optional_gives (inner.gives doubles d lawful)
  | _, .pair _ _, 0, _ => list_gives (by simp)
  | _, .pair first second, d + 1, lawful => by
      apply list_gives
      rintro inside ⟨⟩
      have none : ∀ {β : Type} {P : β → Prop} (b : β), (Option.none : Option β) = some b → P b :=
        nofun
      have done : Inside.done.Gives (fun _ => True) := fun _ _ _ _ => trivial
      refine Inside.map_gives (next_gives (first.gives doubles d lawful.1) none
        (next_gives (second.gives doubles d lawful.2) none done)) ?_
      rintro ⟨a, b, c⟩ ⟨fits, fits', -⟩
      exact ⟨fits, fits'⟩
  | _, .dictionary _, 0, _ => object_gives (by simp)
  | _, .dictionary value, d + 1, lawful => by
      apply object_gives
      rintro inside ⟨⟩
      exact allMembers_gives (keep_preserves (value.gives doubles d lawful)) (List.forall_mem_nil _)
  | _, .record _ _ _, 0, _ => either_gives nofun nofun
  | _, .record label fields shape, d + 1, lawful => by
      apply either_gives
      · rintro inside ⟨⟩
        refine Inside.map_gives (fields.listed_gives doubles d lawful.2.2) fun b fits => ?_
        rw [Codec.Fits, lawful.2.1 b]
        exact fits
      · rintro inside ⟨⟩
        refine named_gives (fields.step_preserves doubles d lawful.2.2)
          (fields.slotsFit_unread d) ?_
        intro slots b fit finished
        rw [Codec.Fits, lawful.2.1 b]
        exact fields.fits_of_finish d slots b lawful.2.2 fit finished

theorem Fields.listed_gives (doubles : Reader.real.Gives good) : ∀ {β σ : Type}
    (fields : Fields β σ) (d : Nat) {expected : String} {place : Nat}, fields.Lawful →
    (fields.listed expected place d).Gives (fields.Fits good d)
  | _, _, .nil, _, _, _, _ => fun _ _ _ _ => trivial
  | _, _, .cons _ _ codec rest, d, _, _, lawful =>
      next_gives (codec.gives doubles d lawful.1)
        (fun a beyond => lawful.2.1 a (.inr beyond) good d) (rest.listed_gives doubles d lawful.2.2)

theorem Fields.step_preserves (doubles : Reader.real.Gives good) : ∀ {β σ : Type}
    (fields : Fields β σ) (d : Nat), fields.Lawful →
    (fields.step d).Preserves (fields.SlotsFit good d)
  | _, _, .nil, _, _ => fun _ _ _ _ _ _ _ => trivial
  | _, _, .cons _ _ codec rest, d, lawful =>
      field_preserves (codec.gives doubles d lawful.1) (rest.step_preserves doubles d lawful.2.2)

end

/-- What has been decoded fits. -/
theorem Codec.fits_of_decode (doubles : Reader.real.Gives good) {α : Type} {codec : Codec α}
    {text : String} {a : α} (lawful : codec.Lawful) (decoded : codec.decode text = .ok a) :
    codec.Fits good depthLimit a := by
  rw [decode] at decoded
  split at decoded
  · contradiction
  · rename_i read
    split at decoded
    · obtain rfl := Except.ok.inj decoded
      exact codec.gives doubles depthLimit lawful read
    · contradiction

end HeaderBidding
