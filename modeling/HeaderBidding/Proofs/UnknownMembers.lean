import HeaderBidding.Extraction
import HeaderBidding.Proofs.SpelledDecoding

/-!
# Members that are not known

The objects that a description reads as records may have members that the record does not know, and
may have their members in any order.  A document that differs from another in this alone means the
same, however deep in it the records stand.
-/

namespace HeaderBidding

open Json

variable {α β σ : Type}

/-! ## Places of a record -/

/-- The record keeps the member of a name by a description. -/
inductive Fields.Describes : {β σ : Type} → Fields β σ → String → {α : Type} → Codec α → Prop
  | here {α β σ : Type} {name : String} {presence : Presence α} {codec : Codec α}
      {rest : Fields β σ} : Describes (.cons name presence codec rest) name codec
  | later {α β σ α' : Type} {name other : String} {presence : Presence α'} {codec' : Codec α'}
      {rest : Fields β σ} {codec : Codec α} (different : name ≠ other)
      (described : Describes rest name codec) :
      Describes (.cons other presence codec' rest) name codec

/-- The record keeps the item at a place by a description, if it is written as a list. -/
inductive Fields.Places : {β σ : Type} → Fields β σ → Nat → {α : Type} → Codec α → Prop
  | here {α β σ : Type} {name : String} {presence : Presence α} {codec : Codec α}
      {rest : Fields β σ} : Places (.cons name presence codec rest) 0 codec
  | later {α β σ α' : Type} {other : String} {presence : Presence α'} {codec' : Codec α'}
      {rest : Fields β σ} {codec : Codec α} {place : Nat} (placed : Places rest place codec) :
      Places (.cons other presence codec' rest) (place + 1) codec

/-! ## Altered documents -/

/-- The key and the value of a member, without the space around them. -/
def Json.Entry.content (entry : Entry Spelling) : List Glyph × Spelling :=
  (entry.key, entry.value)

/-- Somewhere in a document, an object that is read as a record has been given a member that the
record does not know, or its members have been put in another order. -/
inductive Codec.Alters : {α : Type} → Codec α → Spelling → Spelling → Prop
  /-- A member with any value is put between the members, under a key that is no name of a field. -/
  | insert {α β σ : Type} {label : String} {fields : Fields β σ} {shape : Shape β α}
      {inside : Space} {before behind : List (Entry Spelling)} {entry : Entry Spelling}
      {name : String} (named : entry.name? = some name) (unknown : name ∉ fields.names) :
      Alters (.record label fields shape) (.object inside (before ++ behind))
        (.object inside (before ++ entry :: behind))
  /-- The members come in another order, with any space around them. -/
  | permute {α β σ : Type} {label : String} {fields : Fields β σ} {shape : Shape β α}
      {inside inside' : Space} {members members' : List (Entry Spelling)}
      (permuted : (members.map Entry.content).Perm (members'.map Entry.content)) :
      Alters (.record label fields shape) (.object inside members) (.object inside' members')
  /-- The value of a member of a record is altered. -/
  | member {α β σ α' : Type} {label : String} {fields : Fields β σ} {shape : Shape β α}
      {codec : Codec α'} {inside : Space} {before behind : List (Entry Spelling)}
      {entry : Entry Spelling} {name : String} {w : Spelling} (named : entry.name? = some name)
      (described : fields.Describes name codec) (altered : Alters codec entry.value w) :
      Alters (.record label fields shape) (.object inside (before ++ entry :: behind))
        (.object inside (before ++ { entry with value := w } :: behind))
  /-- A value of a record that is written as a list is altered. -/
  | place {α β σ α' : Type} {label : String} {fields : Fields β σ} {shape : Shape β α}
      {codec : Codec α'} {inside : Space} {before behind : List (Spaced Spelling)}
      {item : Spaced Spelling} {w : Spelling} (placed : fields.Places before.length codec)
      (altered : Alters codec item.value w) :
      Alters (.record label fields shape) (.list inside (before ++ item :: behind))
        (.list inside (before ++ { item with value := w } :: behind))
  /-- An item of a list is altered. -/
  | item {α : Type} {codec : Codec α} {inside : Space} {before behind : List (Spaced Spelling)}
      {item : Spaced Spelling} {w : Spelling} (altered : Alters codec item.value w) :
      Alters (.list codec) (.list inside (before ++ item :: behind))
        (.list inside (before ++ { item with value := w } :: behind))
  /-- The first value of a pair is altered. -/
  | first {α β : Type} {codec : Codec α} {codec' : Codec β} {inside : Space}
      {item item' : Spaced Spelling} {w : Spelling} (altered : Alters codec item.value w) :
      Alters (.pair codec codec') (.list inside [item, item'])
        (.list inside [{ item with value := w }, item'])
  /-- The second value of a pair is altered. -/
  | second {α β : Type} {codec : Codec α} {codec' : Codec β} {inside : Space}
      {item item' : Spaced Spelling} {w : Spelling} (altered : Alters codec' item'.value w) :
      Alters (.pair codec codec') (.list inside [item, item'])
        (.list inside [item, { item' with value := w }])
  /-- The value of an entry of a dictionary is altered. -/
  | entry {α : Type} {codec : Codec α} {inside : Space} {before behind : List (Entry Spelling)}
      {entry : Entry Spelling} {w : Spelling} (altered : Alters codec entry.value w) :
      Alters (.dictionary codec) (.object inside (before ++ entry :: behind))
        (.object inside (before ++ { entry with value := w } :: behind))
  /-- A value that might have been `null` is altered. -/
  | optional {α : Type} {codec : Codec α} {v w : Spelling} (altered : Alters codec v w) :
      Alters (.optional codec) v w

/-! ## Members in any order -/

/-- Steps that may be exchanged may be taken in any order. -/
theorem foldlM_eq_of_perm {ι : Type} {take : σ → ι → Option σ} {as bs : List ι}
    (exchange : ∀ s a b, (take s a).bind (take · b) = (take s b).bind (take · a))
    (perm : as.Perm bs) (s : σ) : as.foldlM take s = bs.foldlM take s := by
  induction perm generalizing s with
  | nil => rfl
  | cons a _ ih =>
      simp only [List.foldlM_cons]
      cases take s a with
      | none => rfl
      | some t => exact ih t
  | swap a b as =>
      have both (x y : ι) : (x :: y :: as).foldlM take s =
          ((take s x).bind (take · y)).bind fun t => as.foldlM take t := by
        rw [List.foldlM_cons, Option.bind_assoc]
        rfl
      rw [both, both, exchange]
  | trans _ _ ih ih' => exact (ih s).trans (ih' s)

/-- A member that is not known leaves what has been read as it was. -/
theorem Fields.take?_of_not_mem {name : String} (depth : Nat) (v : Spelling) :
    ∀ {β σ : Type} (fields : Fields β σ) (slots : σ), name ∉ fields.names →
      fields.take? depth name v slots = some slots
  | _, _, .nil, _, _ => rfl
  | _, _, .cons other _ codec rest, (slot, slots), unknown => by
      rw [names, List.mem_cons, not_or] at unknown
      rw [take?_other unknown.1, rest.take?_of_not_mem depth v slots unknown.2]
      rfl

/-- A member of the first field and another one may be read in either order. -/
theorem Fields.take?_comm_self {name key : String} {presence : Presence α} {codec : Codec α}
    {rest : Fields β σ} (depth : Nat) (v w : Spelling) (different : key ≠ name)
    (slot : Option α) (slots : σ) :
    ((cons name presence codec rest).take? depth name v (slot, slots)).bind
        ((cons name presence codec rest).take? depth key w ·) =
      ((cons name presence codec rest).take? depth key w (slot, slots)).bind
        ((cons name presence codec rest).take? depth name v ·) := by
  rw [take?_other different]
  cases slot with
  | some a =>
      rw [take?_self_some]
      cases rest.take? depth key w slots with
      | none => rfl
      | some slots => exact (take?_self_some a).symm
  | none =>
      rw [take?_self_none]
      cases h : codec.meaning? depth v <;> cases h' : rest.take? depth key w slots <;>
        simp [take?_self_none, take?_other different, h, h']

/-- Two members may be read in either order. -/
theorem Fields.take?_comm (depth : Nat) (key key' : String) (v w : Spelling) :
    ∀ {β σ : Type} (fields : Fields β σ) (slots : σ),
      (fields.take? depth key v slots).bind (fields.take? depth key' w ·) =
        (fields.take? depth key' w slots).bind (fields.take? depth key v ·)
  | _, _, .nil, _ => rfl
  | _, _, .cons name _ codec rest, (slot, slots) => by
      by_cases first : key = name
      · by_cases second : key' = name
        · -- The one that comes second repeats the first.
          subst first second
          cases slot with
          | some a =>
              rw [take?_self_some, take?_self_some]
              rfl
          | none =>
              rw [take?_self_none, take?_self_none]
              cases codec.meaning? depth v <;> cases codec.meaning? depth w <;>
                simp [take?_self_some]
        · subst first
          exact take?_comm_self depth v w second slot slots
      · by_cases second : key' = name
        · subst second
          exact (take?_comm_self depth w v first slot slots).symm
        · rw [take?_other first, take?_other second, Option.bind_map, Option.bind_map]
          simp only [Function.comp_def, take?_other first, take?_other second]
          have others := congrArg (Option.map fun slots => (slot, slots))
            (rest.take?_comm depth key key' v w slots)
          rwa [Option.map_bind, Option.map_bind] at others

/-- The members of an object may be read in any order if any two of them may. -/
theorem foldlM_take?_eq_of_perm {take : String → Spelling → σ → Option σ}
    (exchange : ∀ key key' v w a,
      (take key v a).bind (take key' w ·) = (take key' w a).bind (take key v ·))
    {members members' : List (Entry Spelling)}
    (permuted : (members.map Entry.content).Perm (members'.map Entry.content)) (a : σ) :
    members.foldlM (Entry.take? take) a = members'.foldlM (Entry.take? take) a := by
  let takeContent (a : σ) (content : List Glyph × Spelling) : Option σ :=
    ((spelledText? content.1).map String.ofList).bind fun key => take key content.2 a
  have byContent (members : List (Entry Spelling)) :
      members.foldlM (Entry.take? take) a = (members.map Entry.content).foldlM takeContent a :=
    (List.foldlM_map (f := Entry.content) (g := takeContent)).symm
  rw [byContent, byContent]
  refine foldlM_eq_of_perm (fun a x y => ?_) permuted a
  simp only [takeContent]
  cases (spelledText? x.1).map String.ofList with
  | none => cases (spelledText? y.1).map String.ofList <;> simp
  | some key =>
      cases (spelledText? y.1).map String.ofList with
      | none => simp
      | some key' => exact exchange key key' x.2 y.2 a

/-! ## Nested documents -/

/-- Another value of a member does not matter if it says the same under the key. -/
theorem Json.Entry.take?_congr {take : String → Spelling → σ → Option σ} {entry : Entry Spelling}
    {w : Spelling} {a : σ}
    (same : ∀ name, entry.name? = some name → take name entry.value a = take name w a) :
    entry.take? take a = Entry.take? take a { entry with value := w } := by
  change entry.name?.bind _ = entry.name?.bind _
  cases h : entry.name? with
  | none => rfl
  | some name => exact same name h

theorem Fields.Describes.take?_congr {fields : Fields β σ} {name : String} {codec : Codec α}
    {depth : Nat} {v w : Spelling} (described : fields.Describes name codec)
    (same : codec.meaning? depth v = codec.meaning? depth w) (slots : σ) :
    fields.take? depth name v slots = fields.take? depth name w slots := by
  induction described with
  | here =>
      obtain ⟨slot, slots⟩ := slots
      cases slot with
      | some a => rw [take?_self_some, take?_self_some]
      | none => rw [take?_self_none, take?_self_none, same]
  | later different described ih =>
      obtain ⟨slot, slots⟩ := slots
      rw [take?_other different, take?_other different, ih same]

theorem Fields.Places.listed?_congr {fields : Fields β σ} {codec : Codec α} {place depth : Nat}
    {v w : Spelling} (placed : fields.Places place codec)
    (same : codec.meaning? depth v = codec.meaning? depth w) (before behind : List Spelling)
    (here : before.length = place) :
    fields.listed? depth (before ++ v :: behind) = fields.listed? depth (before ++ w :: behind) := by
  induction placed generalizing before with
  | here =>
      obtain rfl := List.eq_nil_of_length_eq_zero here
      simp only [List.nil_append, listed?, same]
  | later placed ih =>
      cases before with
      | nil => contradiction
      | cons u before =>
          simp only [List.cons_append, listed?, ih same before (Nat.succ.inj here)]

/-- An altered document is a list or an object. -/
theorem Codec.Alters.ne_null {codec : Codec α} {v w : Spelling} (alters : codec.Alters v w) :
    v ≠ .null ∧ w ≠ .null := by
  induction alters with
  | optional _ ih => exact ih
  | _ => exact ⟨nofun, nofun⟩

/-- An altered document means what it meant. -/
theorem Codec.Alters.meaning?_eq {codec : Codec α} {v w : Spelling} (alters : codec.Alters v w)
    (depth : Nat) : codec.meaning? depth v = codec.meaning? depth w := by
  induction alters generalizing depth with
  | @insert α β σ label fields shape inside before behind entry name named unknown =>
      cases depth with
      | zero => rfl
      | succ depth =>
          have passes (slots : σ) : entry.take? (fields.take? depth) slots = some slots := by
            rw [Entry.take?, named]
            exact fields.take?_of_not_mem depth entry.value slots unknown
          simp only [meaning?, List.foldlM_append, List.foldlM_cons, passes]
          rfl
  | @permute α β σ label fields shape inside inside' members members' permuted =>
      cases depth with
      | zero => rfl
      | succ depth =>
          simp only [meaning?, foldlM_take?_eq_of_perm (fun key key' v w slots =>
            fields.take?_comm depth key key' v w slots) permuted]
  | @member α β σ α' label fields shape codec inside before behind entry name w named described
      altered ih =>
      cases depth with
      | zero => rfl
      | succ depth =>
          have alike (slots : σ) : entry.take? (fields.take? depth) slots =
              Entry.take? (fields.take? depth) slots { entry with value := w } := by
            refine Entry.take?_congr fun name' named' => ?_
            obtain rfl := Option.some.inj (named.symm.trans named')
            exact described.take?_congr (ih depth) slots
          simp only [meaning?, List.foldlM_append, List.foldlM_cons, alike]
  | @place α β σ α' label fields shape codec inside before behind item w placed altered ih =>
      cases depth with
      | zero => rfl
      | succ depth =>
          simp only [meaning?, List.map_append, List.map_cons]
          rw [placed.listed?_congr (ih depth) (before.map Spaced.value) (behind.map Spaced.value)
            (List.length_map _)]
  | item altered ih =>
      cases depth with
      | zero => rfl
      | succ depth =>
          simp only [meaning?, Spelling.items?, List.map_append, List.map_cons, Option.bind_some,
            List.mapM_append, List.mapM_cons, ih depth]
  | first altered ih =>
      cases depth with
      | zero => rfl
      | succ depth => simp only [meaning?, Spelling.items?, List.map_cons, List.map_nil, ih depth]
  | second altered ih =>
      cases depth with
      | zero => rfl
      | succ depth => simp only [meaning?, Spelling.items?, List.map_cons, List.map_nil, ih depth]
  | @entry α codec inside before behind entry w altered ih =>
      cases depth with
      | zero => rfl
      | succ depth =>
          have alike (kept : List (String × α)) : entry.take? (keep? (codec.meaning? depth)) kept =
              Entry.take? (keep? (codec.meaning? depth)) kept { entry with value := w } :=
            Entry.take?_congr fun name _ => by simp only [keep?, ih depth]
          simp only [meaning?, Spelling.members?, Option.bind_some, List.foldlM_append,
            List.foldlM_cons, alike]
  | @optional α codec v w altered ih =>
      obtain ⟨notNull, notNull'⟩ := altered.ne_null
      rw [meaning?_optional notNull, meaning?_optional notNull', ih depth]

/-- However often a document is altered, it means what it meant. -/
theorem Codec.meaning?_eq_of_altered {codec : Codec α} {v w : Spelling}
    (altered : Relation.ReflTransGen codec.Alters v w) (depth : Nat) :
    codec.meaning? depth v = codec.meaning? depth w := by
  induction altered with
  | refl => rfl
  | tail _ last ih => exact ih.trans (last.meaning?_eq depth)

/-- A text decodes exactly if an altered one does, and to the same value. -/
theorem Codec.toOption_decode_of_altered {codec : Codec α} {v w : Spelling} {text text' : String}
    (spelled : v.Spells text) (altered : Relation.ReflTransGen codec.Alters v w)
    (spelled' : w.Spells text') :
    (codec.decode text').toOption = (codec.decode text).toOption := by
  rw [codec.toOption_decode spelled, codec.toOption_decode spelled',
    meaning?_eq_of_altered altered]

/-! ## Responses -/

open OpenRtb (BidResponse)

/-- A response still decodes, and to the same response, when the objects that stand for it, for its
seats and for its bids are given members that are not known or have their members in another order.
So the bids of every list of ad units are the same. -/
theorem OpenRtb.BidResponse.decode_of_altered {v w : Spelling} {text text' : String}
    {response : BidResponse} (spelled : v.Spells text)
    (decoded : codec.decode text = .ok response)
    (altered : Relation.ReflTransGen codec.Alters v w) (spelled' : w.Spells text') :
    codec.decode text' = .ok response ∧
      ∀ units : List AdUnit, (codec.decode text').map (fun response => extract units (some response)) =
        .ok (extract units (some response)) := by
  have same := Codec.toOption_decode_of_altered spelled altered spelled'
  rw [decoded] at same
  have decoded' := toOption_eq_some_iff.mp same
  refine ⟨decoded', fun units => ?_⟩
  rw [decoded']
  rfl

namespace OpenRtb

/-- A text that needs no escapes. -/
def plainGlyphs (s : String) : List Glyph :=
  s.toList.filterMap fun c =>
    if plain : c ≠ '"' ∧ c ≠ '\\' ∧ ¬c < ' ' then some (.plain c plain) else none

/-- A member without any space. -/
def tightEntry (key : String) (v : Spelling) : Entry Spelling where
  before := Space.none
  key := plainGlyphs key
  between := Space.none
  ahead := Space.none
  value := v
  behind := Space.none

/-- A list of one item without any space. -/
def singleton (v : Spelling) : Spelling :=
  .list Space.none ([] ++ { before := Space.none, value := v, behind := Space.none } :: [])

/-- The bid `a` of price 1, with its members in the order of the record. -/
def bidMembers : List (Entry Spelling) :=
  [tightEntry "impid" (.text (plainGlyphs "a")),
   tightEntry "price" (.number
      { negative := false
        whole := { chars := ['1'], nonempty := by decide, digits := List.forall_mem_singleton.mpr rfl }
        canonical := by decide
        fraction := none
        exponent := none })]

/-- A response with one seat of one bid. -/
def responseOfBid (bid : Spelling) : Spelling :=
  .object Space.none ([] ++ tightEntry "seatbid"
    (singleton (.object Space.none ([] ++ tightEntry "bid" (singleton bid) :: []))) :: [])

theorem name?_tightEntry {key : String} (v : Spelling)
    (spelled : spelledText? (plainGlyphs key) = some key.toList) :
    (tightEntry key v).name? = some key := by
  rw [Entry.name?, tightEntry, spelled, Option.map_some, String.ofList_toList]

theorem alters_of_bid {bid bid' : Spelling} (altered : Bid.codec.Alters bid bid') :
    BidResponse.codec.Alters (responseOfBid bid) (responseOfBid bid') := by
  have seats (v : Spelling) : (tightEntry "seatbid" v).name? = some "seatbid" :=
    name?_tightEntry v (by decide +kernel)
  have bids (v : Spelling) : (tightEntry "bid" v).name? = some "bid" :=
    name?_tightEntry v (by decide +kernel)
  have seat : SeatBid.codec.Alters
      (.object Space.none ([] ++ tightEntry "bid" (singleton bid) :: []))
      (.object Space.none ([] ++ tightEntry "bid" (singleton bid') :: [])) :=
    .member (bids _) .here (.item altered)
  exact .member (seats _) (.later (by decide) .here) (.item seat)

/-- A member that no record knows. -/
def unknownEntry : Entry Spelling :=
  tightEntry "ext" (singleton (.object Space.none []))

/-- The text of a response with one seat of one bid. -/
def tightText : String :=
  "\x7b\"seatbid\":[\x7b\"bid\":[\x7b\"impid\":\"a\",\"price\":1\x7d]\x7d]\x7d"

/-- The same response, where the members of the bid have changed places and there is one that is not
known between them. -/
def extendedText : String :=
  "\x7b\"seatbid\":[\x7b\"bid\":[\x7b\"price\":1,\"ext\":[\x7b\x7d],\"impid\":\"a\"\x7d]\x7d]\x7d"

theorem BidResponse.decode_of_altered_bid : ∃ response : BidResponse,
    codec.decode tightText = .ok response ∧ codec.decode extendedText = .ok response ∧
      ∀ units : List AdUnit,
        (codec.decode extendedText).map (fun response => extract units (some response)) =
          .ok (extract units (some response)) := by
  have decodes : (codec.decode tightText).toOption.isSome = true := by decide +kernel
  obtain ⟨response, read⟩ := Option.isSome_iff_exists.mp decodes
  have decoded : codec.decode tightText = .ok response := toOption_eq_some_iff.mp read
  have permuted : Bid.codec.Alters (.object Space.none bidMembers)
      (.object Space.none bidMembers.reverse) :=
    .permute (by rw [List.map_reverse]; exact (List.reverse_perm _).symm)
  have named : unknownEntry.name? = some "ext" := name?_tightEntry _ (by decide +kernel)
  have inserted : Bid.codec.Alters
      (.object Space.none (bidMembers.reverse.take 1 ++ bidMembers.reverse.drop 1))
      (.object Space.none (bidMembers.reverse.take 1 ++
        unknownEntry :: bidMembers.reverse.drop 1)) :=
    .insert named (by decide)
  have spelled : (responseOfBid (.object Space.none bidMembers)).Spells tightText :=
    ⟨Space.none, Space.none, by decide +kernel⟩
  have spelled' : (responseOfBid (.object Space.none (bidMembers.reverse.take 1 ++
      unknownEntry :: bidMembers.reverse.drop 1))).Spells extendedText :=
    ⟨Space.none, Space.none, by decide +kernel⟩
  obtain ⟨decoded', same⟩ := decode_of_altered spelled decoded
    (.tail (.single (alters_of_bid permuted)) (alters_of_bid inserted)) spelled'
  exact ⟨response, decoded, decoded', same⟩

end OpenRtb

end HeaderBidding
