import HeaderBidding.Codec.Reader
import HeaderBidding.Codec.Writer
import HeaderBidding.Proofs.Documents

/-!
# Values are read as they are written

Writing a value by its description and reading the text again gives the value back, as far as its
doubles and its documents of any shape come back, and but for optional values that are written as
`null`.  It is shown for each kind of description on its own and then for all of them by induction.
-/

namespace HeaderBidding

open Json

/-! ## Descriptions and values -/

mutual

/-- How deep the texts of values are nested on account of the description alone. -/
def Codec.height {α : Type} : Codec α → Nat
  | .list item => item.height + 1
  | .optional inner => inner.height
  | .pair first second => max first.height second.height + 1
  | .dictionary value => value.height + 1
  | .record _ fields _ => fields.height + 1
  | _ => 0

/-- The height of the highest member. -/
def Fields.height {β σ : Type} : Fields β σ → Nat
  | .nil => 0
  | .cons _ _ codec rest => max codec.height rest.height

end

mutual

/-- The doubles of a value are good, and its documents of any shape are not nested deeper than what
is left of `depth` levels. -/
def Codec.Fits {α : Type} (good : Float → Prop) : Codec α → Nat → α → Prop
  | .real, _, x => good x
  | .free, depth, v => v.depth ≤ depth
  | .list item, depth, items => ∀ a ∈ items, item.Fits good (depth - 1) a
  | .optional inner, depth, a => ∀ b, a = some b → inner.Fits good depth b
  | .pair first second, depth, (a, b) =>
    first.Fits good (depth - 1) a ∧ second.Fits good (depth - 1) b
  | .dictionary value, depth, entries => ∀ entry ∈ entries, value.Fits good (depth - 1) entry.2
  | .record _ fields shape, depth, a => fields.Fits good (depth - 1) (shape.parts a)
  | _, _, _ => True

/-- All members of a record fit. -/
def Fields.Fits {β σ : Type} (good : Float → Prop) : Fields β σ → Nat → β → Prop
  | .nil, _, _ => True
  | .cons _ _ codec rest, depth, (a, b) => codec.Fits good depth a ∧ rest.Fits good depth b

end

mutual

/-- Members have names of their own, values that stand for absent members fit at any depth, and
records are made up of their members and nothing else. -/
def Codec.Lawful {α : Type} : Codec α → Prop
  | .list item => item.Lawful
  | .optional inner => inner.Lawful
  | .pair first second => first.Lawful ∧ second.Lawful
  | .dictionary value => value.Lawful
  | .record _ fields shape =>
    fields.names.Nodup ∧ (∀ b, shape.parts (shape.make b) = b) ∧ fields.Lawful
  | _ => True

/-- All members of a record are lawful. -/
def Fields.Lawful {β σ : Type} : Fields β σ → Prop
  | .nil => True
  | .cons _ presence codec rest =>
    codec.Lawful ∧
      (∀ a, presence.absent? = some a ∨ presence.beyond? = some a →
        ∀ good depth, codec.Fits good depth a) ∧
      rest.Lawful

end

mutual

/-- What the text of a value is read as. -/
def Codec.reread {α : Type} : Codec α → α → α
  | .real, x => rereadReal x
  | .free, v => v.reread
  | .list item, items => items.map item.reread
  | .optional inner, a =>
    a.bind fun b => if (inner.toJson b).WritesNull then none else some (inner.reread b)
  | .pair first second, (a, b) => (first.reread a, second.reread b)
  | .dictionary value, entries =>
    insertAll [] (entries.map fun entry => (entry.1, value.reread entry.2))
  | .record _ fields shape, a => shape.make (fields.reread (shape.parts a))
  | .text, a => a
  | .word _, a => a
  | .choice _, a => a

/-- What the members of a record are read as. -/
def Fields.reread {β σ : Type} : Fields β σ → β → β
  | .nil, b => b
  | .cons _ presence codec rest, (a, b) =>
    (if presence.hides a then a else codec.reread a, rest.reread b)

end

/-- What has been read behind the last of the written members of a record. -/
def Fields.slots {β σ : Type} : Fields β σ → β → σ
  | .nil, _ => ()
  | .cons _ presence codec rest, (a, b) =>
    (if presence.hides a then none else some (codec.reread a), rest.slots b)

namespace Reader

variable {α β σ : Type} {s rest : List Char}

/-! ## Single values -/

theorem text_reads (expected s : String) : (Reader.text expected).Reads (Json.text s) s := by
  intro layout level space rest _
  have quote (t : List Char) : skipSpace (space.chars ++ '"' :: t) = '"' :: t := by
    rw [skipSpace_space, skipSpace_cons rfl]
  change (Reader.text expected).run (space.chars ++ (writeText s.toList ++ rest)) = _
  rw [writeText_append]
  simp only [Reader.text, quote, readText_escaped, String.ofList_toList]

theorem number_of_readNumber {n : Number} (expected : String) (space : Space)
    (read : readNumber s = .ok (n, rest)) :
    (number expected).run (space.chars ++ s) = .ok (n, rest) := by
  obtain ⟨c, t, rfl, start⟩ := exists_cons_of_readNumber read
  obtain ⟨d, u, same, ⟨solid, -, -⟩, -⟩ := startsValue_of_readNumber read
  obtain ⟨rfl, rfl⟩ := List.cons.inj same
  have starts : startsNumber (c :: t) = true := by simpa [startsNumber] using start
  simp only [number, skipSpace_space, skipSpace_cons solid, starts, ↓reduceIte, read]

theorem word_reads (word : Word α) (a : α) :
    (Reader.word word).Reads (Json.whole (word.toWhole a)) a := by
  intro layout level space rest ends
  have read := number_of_readNumber word.name space
    (readNumber_integer (word.toWhole a) ends.endsNumber)
  change (Reader.word word).run
    (space.chars ++ (Decimal.integer (word.toWhole a).val ++ rest)) = _
  simp only [Reader.word, mapExcept, read, word.ofWhole?_toWhole]

theorem real_reads {x : Float} (finite : x.isFinite = true) :
    Reader.real.Reads (Json.real x) (rereadReal x) := by
  intro layout level space rest ends
  have read := number_of_readNumber "f64" space (readNumber_real finite ends.endsNumber)
  change Reader.real.run (space.chars ++ (writeReal x ++ rest)) = _
  rw [writeReal_of_isFinite finite]
  simp only [Reader.real, map, read]

theorem choice_reads (choice : Choice α) (mayNest : Bool) (a : α) :
    (Reader.choice choice mayNest).Reads (Json.text (choice.nameOf a)) a := by
  intro layout level space rest ends
  have named : chosen choice (choice.nameOf a) = .ok a := by
    rw [chosen, choice.lookup_nameOf]
  have read := text_reads "variant identifier" (choice.nameOf a) layout level .none rest ends
  have written : (Json.text (choice.nameOf a)).write layout level ++ rest =
      '"' :: ((choice.nameOf a).toList.flatMap escapeChar ++ '"' :: rest) :=
    writeText_append _ _
  rw [Space.none_chars, List.nil_append, written] at read
  rw [written]
  have quote (t : List Char) : skipSpace (space.chars ++ '"' :: t) = '"' :: t := by
    rw [skipSpace_space, skipSpace_cons rfl]
  simp only [Reader.choice, quote, mapExcept, read, named]

/-! ## Optional values, lists and dictionaries -/

theorem optional_reads_null {inner : Reader α} {v : Json} (isNull : v.WritesNull) :
    (Reader.optional inner).Reads v none := by
  intro layout level space rest _
  have word : skipSpace (space.chars ++ ("null".toList ++ rest)) = "null".toList ++ rest := by
    rw [skipSpace_space]
    rfl
  rw [write_of_writesNull isNull]
  simp only [Reader.optional, word]
  rfl

theorem optional_reads_some {inner : Reader α} {v : Json} {a : α} (value : ¬v.WritesNull)
    (reads : inner.Reads v a) : (Reader.optional inner).Reads v (some a) := by
  intro layout level space rest ends
  have read := reads layout level .none rest ends
  obtain ⟨c, t, written, ⟨solid, -, -⟩, null⟩ := write_eq_cons layout level v
  have other : c ≠ 'n' := fun same => value (null same)
  rw [Space.none_chars, List.nil_append, written, List.cons_append] at read
  rw [written, List.cons_append]
  simp only [Reader.optional, skipSpace_space, skipSpace_cons solid]
  split
  · rename_i same
    exact absurd (List.cons.inj same).1 other
  · simp only [map, read]

/-- What is written as a list is read inside its brackets. -/
theorem list_reads {inside : Inside α} {vs : List Json} {a : α} (expected : String)
    (read : ∀ (layout : Layout) (level : Nat), ∃ (t : List Char) (space : Space),
      (Json.list vs).write layout level = '[' :: t ∧
        ∀ rest, inside.run (t ++ rest) = .ok (a, space.chars ++ ']' :: rest)) :
    (Reader.list (some inside) expected).Reads (Json.list vs) a := by
  intro layout level space rest _
  obtain ⟨t, last, written, read⟩ := read layout level
  have bracket (u : List Char) : skipSpace (space.chars ++ '[' :: u) = '[' :: u := by
    rw [skipSpace_space, skipSpace_cons rfl]
  rw [written, List.cons_append]
  simp only [Reader.list, bracket, inList, read, enclosed, closeList_space]

theorem allItems_reads {item : Reader α} {vs : List Json} {as : List α} (expected : String)
    (each : List.Forall₂ item.Reads vs as) :
    (Reader.list (some (allItems item)) expected).Reads (Json.list vs) as := by
  refine list_reads expected fun layout level => ?_
  obtain ⟨t, space, written, read⟩ := exists_items_list each layout level
  refine ⟨t, space, written, fun rest => ?_⟩
  simp only [allItems, read, placed]

theorem next_reads {item : Reader α} {more : Inside β} {beyond? : Option α} {expected : String}
    {place : Nat} {a : α} {b : β} {t u r : List Char}
    (next : nextItem (place == 0) s = .ok (some t)) (first : item.run t = .ok (a, u))
    (others : more.run u = .ok (b, r)) :
    (Inside.next expected place item beyond? more).run s = .ok ((a, b), r) := by
  simp only [Inside.next, next, first, others]

theorem pair_reads {first : Reader α} {second : Reader β} {v w : Json} {a : α} {b : β}
    (expected : String) (firstReads : first.Reads v a) (secondReads : second.Reads w b) :
    (Reader.list (some ((Inside.next expected 0 first none
        (Inside.next expected 1 second none .done)).map fun (a, b, ()) => (a, b)))
      expected).Reads (Json.list [v, w]) (a, b) := by
  refine list_reads expected fun layout level => ?_
  have written : (Json.list [v, w]).write layout level =
      '[' :: ((layout.line (level + 1)).chars ++ (v.write layout (level + 1) ++
        writeItems layout level [w])) := by
    simp [write]
  refine ⟨_, layout.line level, written, fun rest => ?_⟩
  have item : writeItems layout level [w] ++ rest = ',' :: ((layout.line (level + 1)).chars ++
      (w.write layout (level + 1) ++ (writeItems layout level [] ++ rest))) := by
    simp [writeItems]
  have last : writeItems layout level [] ++ rest = (layout.line level).chars ++ ']' :: rest := by
    simp [writeItems]
  have behind : (Inside.next expected 1 second none .done).run
      (writeItems layout level [w] ++ rest) =
      .ok ((b, ()), (layout.line level).chars ++ ']' :: rest) := by
    rw [item]
    refine next_reads (nextItem_behind _ w _)
      (secondReads layout (level + 1) .none _ (delimits_writeItems [] rest)) ?_
    rw [last]
    rfl
  have both : (Inside.next expected 0 first none (Inside.next expected 1 second none .done)).run
      ((layout.line (level + 1)).chars ++ (v.write layout (level + 1) ++
        (writeItems layout level [w] ++ rest))) =
      .ok ((a, b, ()), (layout.line level).chars ++ ']' :: rest) :=
    next_reads (nextItem_first _ v _)
      (firstReads layout (level + 1) .none _ (delimits_writeItems [w] rest)) behind
  simp only [Inside.map, List.append_assoc, both]

theorem dictionary_reads {value : Reader α} {ms : List (String × Json)}
    {entries : List (String × α)} (expected : String)
    (each : List.Forall₂ (fun m entry => m.1 = entry.1 ∧ value.Reads m.2 entry.2) ms entries) :
    (Reader.object (some (allMembers (keep value) [])) expected).Reads (Json.object ms)
      (insertAll [] entries) := by
  intro layout level space rest _
  obtain ⟨t, last, written, read⟩ := exists_members_object (keep_takes each []) layout level
  have bracket (u : List Char) : skipSpace (space.chars ++ '{' :: u) = '{' :: u := by
    rw [skipSpace_space, skipSpace_cons rfl]
  rw [written, List.cons_append]
  simp only [Reader.object, bracket, inObject, allMembers, read, enclosed, closeObject_space]

/-! ## Records -/

theorem named_reads {fields : Fields β σ} {step : Step σ} {make : β → α}
    {ms : List (String × Json)} {slots : σ} {b : β} (listed? : Option (Inside α))
    (expected : String) (takes : step.Takes fields.unread ms slots)
    (finished : fields.finish slots = .ok b) :
    (Reader.either listed? (some (.named fields step make)) expected).Reads (Json.object ms)
      (make b) := by
  intro layout level space rest _
  obtain ⟨t, last, written, read⟩ := exists_members_object takes layout level
  have bracket (u : List Char) : skipSpace (space.chars ++ '{' :: u) = '{' :: u := by
    rw [skipSpace_space, skipSpace_cons rfl]
  rw [written, List.cons_append]
  simp only [Reader.either, bracket, inObject, Inside.named, read, finished, enclosed,
    closeObject_space]

/-- Members with other names are left to the other fields. -/
theorem field_takes {name : String} {value : Reader α} {step : Step σ} {a b : σ}
    {ms : List (String × Json)} (slot : Option α) (others : ∀ m ∈ ms, m.1 ≠ name)
    (takes : step.Takes a ms b) : (Step.field name value step).Takes (slot, a) ms (slot, b) := by
  induction takes with
  | nil => exact .nil
  | @cons a b c key v ms first rest ih =>
      have other : key ≠ name := others _ List.mem_cons_self
      refine .cons (fun layout level space rest ends => ?_)
        (ih fun m mem => others m (List.mem_cons_of_mem _ mem))
      simp only [Step.field, if_neg other, first layout level space rest ends]

theorem field_takes_own {name : String} {value : Reader α} {step : Step σ} {v : Json} {a : α}
    {b c : σ} {ms : List (String × Json)} (reads : value.Reads v a)
    (others : ∀ m ∈ ms, m.1 ≠ name) (takes : step.Takes b ms c) :
    (Step.field name value step).Takes (none, b) ((name, v) :: ms) (some a, c) := by
  refine .cons (fun layout level space rest ends => ?_) (field_takes (some a) others takes)
  have colon (s : List Char) : colon (':' :: s) = .ok s := rfl
  simp only [Step.field, ↓reduceIte, colon, reads layout level space rest ends]

end Reader

open Reader

namespace Fields

variable {β σ : Type}

/-- Only members of the record are written. -/
theorem name_mem_of_mem_toMembers : ∀ {β σ : Type} (fields : Fields β σ) (b : β),
    ∀ m ∈ fields.toMembers b, m.1 ∈ fields.names
  | _, _, .nil, _, _, mem => by simp [toMembers] at mem
  | _, _, .cons name presence codec rest, (a, b), m, mem => by
      rw [toMembers] at mem
      rw [names]
      split at mem
      · exact List.mem_cons_of_mem _ (name_mem_of_mem_toMembers rest b m mem)
      · rcases List.mem_cons.mp mem with rfl | mem
        · exact List.mem_cons_self
        · exact List.mem_cons_of_mem _ (name_mem_of_mem_toMembers rest b m mem)

/-- Members that are not written have the values that absent members have. -/
theorem finish_slots : ∀ {β σ : Type} (fields : Fields β σ) (b : β),
    fields.finish (fields.slots b) = .ok (fields.reread b)
  | _, _, .nil, _ => rfl
  | _, _, .cons name presence codec rest, (a, b) => by
      have others := finish_slots rest b
      rw [slots, reread, finish, others]
      cases hidden : presence.hides a with
      | true => simp [presence.hides_absent a hidden]
      | false => simp

end Fields

/-! ## By description -/

mutual

/-- A value that fits, with doubles that are finite, is read again. -/
theorem Codec.reads : ∀ {α : Type} (codec : Codec α) (d : Nat) (a : α), codec.Lawful →
    codec.height ≤ d → codec.Fits (·.isFinite) d a →
    (codec.reader d).Reads (codec.toJson a) (codec.reread a)
  | _, .text, _, a, _, _, _ => text_reads "a string" a
  | _, .word w, _, a, _, _, _ => word_reads w a
  | _, .real, _, _, _, _, fits => real_reads fits
  | _, .choice c, d, a, _, _, _ => choice_reads c (d != 0) a
  | _, .free, d, v, _, _, fits => reader_reads v d fits
  | _, .list item, 0, _, _, high, _ => absurd high (by simp [Codec.height])
  | _, .list item, d + 1, as, lawful, high, fits => by
      rw [Codec.height, Nat.add_le_add_iff_right] at high
      refine allItems_reads "a sequence" (List.forall₂_map_left_iff.mpr
        (List.forall₂_map_right_iff.mpr (List.forall₂_same.mpr fun a mem => ?_)))
      exact item.reads d a lawful high (fits a mem)
  | _, .optional inner, d, none, _, _, _ => optional_reads_null rfl
  | _, .optional inner, d, some a, lawful, high, fits => by
      have reads := inner.reads d a lawful high (fits a rfl)
      by_cases null : (inner.toJson a).WritesNull
      · have gone : (Codec.optional inner).reread (some a) = none := if_pos null
        rw [gone]
        exact optional_reads_null null
      · have kept : (Codec.optional inner).reread (some a) = some (inner.reread a) := if_neg null
        rw [kept]
        exact optional_reads_some null reads
  | _, .pair _ _, 0, _, _, high, _ => absurd high (by simp [Codec.height])
  | _, .pair first second, d + 1, (a, b), lawful, high, fits => by
      rw [Codec.height, Nat.add_le_add_iff_right, max_le_iff] at high
      exact pair_reads "a tuple of size 2" (first.reads d a lawful.1 high.1 fits.1)
        (second.reads d b lawful.2 high.2 fits.2)
  | _, .dictionary _, 0, _, _, high, _ => absurd high (by simp [Codec.height])
  | _, .dictionary value, d + 1, entries, lawful, high, fits => by
      rw [Codec.height, Nat.add_le_add_iff_right] at high
      refine dictionary_reads "a map" (List.forall₂_map_left_iff.mpr
        (List.forall₂_map_right_iff.mpr (List.forall₂_same.mpr fun entry mem => ⟨rfl, ?_⟩)))
      exact value.reads d entry.2 lawful high (fits entry mem)
  | _, .record _ _ _, 0, _, _, high, _ => absurd high (by simp [Codec.height])
  | _, .record label fields shape, d + 1, a, lawful, high, fits => by
      rw [Codec.height, Nat.add_le_add_iff_right] at high
      exact named_reads _ _ (fields.takes d (shape.parts a) lawful.1 lawful.2.2 high fits)
        (fields.finish_slots (shape.parts a))

theorem Fields.takes : ∀ {β σ : Type} (fields : Fields β σ) (d : Nat) (b : β),
    fields.names.Nodup → fields.Lawful → fields.height ≤ d → fields.Fits (·.isFinite) d b →
    (fields.step d).Takes fields.unread (fields.toMembers b) (fields.slots b)
  | _, _, .nil, _, _, _, _, _, _ => .nil
  | _, _, .cons name presence codec rest, d, (a, b), nodup, lawful, high, fits => by
      rw [Fields.names, List.nodup_cons] at nodup
      rw [Fields.height, max_le_iff] at high
      have others : ∀ m ∈ rest.toMembers b, m.1 ≠ name := by
        rintro m mem rfl
        exact nodup.1 (rest.name_mem_of_mem_toMembers b m mem)
      have takes := rest.takes d b nodup.2 lawful.2.2 high.2 fits.2
      rw [Fields.toMembers, Fields.slots, Fields.unread, Fields.step]
      cases presence.hides a with
      | true => exact field_takes none others takes
      | false => exact field_takes_own (codec.reads d a lawful.1 high.1 fits.1) others takes

end

/-- A value that has been written, in any layout and with nothing but space around it, is read. -/
theorem Codec.decode_of_written {α : Type} {codec : Codec α} {a : α} {text : String}
    {layout : Layout} {level : Nat} {before behind : Space} (lawful : codec.Lawful)
    (high : codec.height ≤ depthLimit) (fits : codec.Fits (·.isFinite) depthLimit a)
    (written : text.toList = before.chars ++ ((codec.toJson a).write layout level ++
      behind.chars)) :
    codec.decode text = .ok (codec.reread a) := by
  have ends : Delimits behind.chars := by simpa using Delimits.nil.space behind
  have nothing : skipSpace behind.chars = [] := by
    rw [← List.append_nil behind.chars]
    exact skipSpace_space behind []
  rw [decode, written, codec.reads depthLimit a lawful high fits layout level before _ ends]
  simp only [nothing]

theorem Codec.toList_encode {α : Type} (codec : Codec α) (a : α) :
    (codec.encode a).toList = (codec.toJson a).write .dense 0 :=
  String.toList_ofList

/-- Decoding undoes encoding, up to what is read differently. -/
theorem Codec.decode_encode {α : Type} {codec : Codec α} {a : α} (lawful : codec.Lawful)
    (high : codec.height ≤ depthLimit) (fits : codec.Fits (·.isFinite) depthLimit a) :
    codec.decode (codec.encode a) = .ok (codec.reread a) := by
  have written : (codec.encode a).toList =
      Space.none.chars ++ ((codec.toJson a).write .dense 0 ++ Space.none.chars) := by
    simp [toList_encode]
  exact decode_of_written lawful high fits written

/-! ## Values that come back as they were -/

mutual

/-- Nothing in a value is read differently from what was written. -/
def Codec.Stable {α : Type} : Codec α → α → Prop
  | .real, x => rereadReal x = x
  | .free, v => v.reread = v
  | .list item, items => ∀ a ∈ items, item.Stable a
  | .optional inner, a =>
    ∀ b, a = some b → inner.Stable b ∧ ¬(inner.toJson b).WritesNull
  | .pair first second, (a, b) => first.Stable a ∧ second.Stable b
  | .dictionary value, entries =>
    (∀ entry ∈ entries, value.Stable entry.2) ∧ insertAll [] entries = entries
  | .record _ fields shape, a => fields.Stable (shape.parts a)
  | _, _ => True

/-- All members that are written are stable. -/
def Fields.Stable {β σ : Type} : Fields β σ → β → Prop
  | .nil, _ => True
  | .cons _ presence codec rest, (a, b) =>
    (presence.hides a = false → codec.Stable a) ∧ rest.Stable b

end

mutual

theorem Codec.reread_of_stable : ∀ {α : Type} (codec : Codec α) (a : α), codec.Stable a →
    codec.reread a = a
  | _, .text, _, _ => rfl
  | _, .word _, _, _ => rfl
  | _, .choice _, _, _ => rfl
  | _, .real, _, stable => stable
  | _, .free, _, stable => stable
  | _, .list item, items, stable => by
      rw [Codec.reread]
      exact (List.map_congr_left fun a mem => item.reread_of_stable a (stable a mem)).trans
        (List.map_id' items)
  | _, .optional _, none, _ => rfl
  | _, .optional inner, some a, stable => by
      obtain ⟨same, value⟩ := stable a rfl
      have kept : (Codec.optional inner).reread (some a) = some (inner.reread a) := if_neg value
      rw [kept, inner.reread_of_stable a same]
  | _, .pair first second, (a, b), stable => by
      rw [Codec.reread, first.reread_of_stable a stable.1, second.reread_of_stable b stable.2]
  | _, .dictionary value, entries, stable => by
      have each : entries.map (fun entry => (entry.1, value.reread entry.2)) = entries := by
        refine (List.map_congr_left fun entry mem => ?_).trans (List.map_id' entries)
        rw [value.reread_of_stable entry.2 (stable.1 entry mem)]
      rw [Codec.reread, each, stable.2]
  | _, .record _ fields shape, a, stable => by
      rw [Codec.reread, fields.reread_of_stable (shape.parts a) stable, shape.make_parts]

theorem Fields.reread_of_stable : ∀ {β σ : Type} (fields : Fields β σ) (b : β),
    fields.Stable b → fields.reread b = b
  | _, _, .nil, _, _ => rfl
  | _, _, .cons _ presence codec rest, (a, b), stable => by
      rw [Fields.reread, rest.reread_of_stable b stable.2]
      cases hidden : presence.hides a with
      | true => rfl
      | false => simp [codec.reread_of_stable a (stable.1 hidden)]

end

end HeaderBidding
