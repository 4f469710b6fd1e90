import HeaderBidding.Json.Print
import HeaderBidding.Json.Reader
import HeaderBidding.Proofs.Numbers
import HeaderBidding.Proofs.QuotedText

/-!
# Reading what has been written

A reader reads a written document as a value if it does so however the document is laid out, behind
any space and in front of every text with which no value goes on.  Lists and objects are read item
by item and member by member.
-/

namespace HeaderBidding

namespace Json

variable {s rest : List Char} {c : Char} {layout : Layout} {level : Nat}

/-! ## Space -/

@[simp]
theorem Space.none_chars : Space.none.chars = [] :=
  rfl

@[simp]
theorem skipSpace_space (space : Space) (s : List Char) :
    skipSpace (space.chars ++ s) = skipSpace s :=
  List.dropWhile_append_of_pos space.blank

theorem skipSpace_cons (solid : isSpace c = false) (s : List Char) :
    skipSpace (c :: s) = c :: s := by
  rw [skipSpace, List.dropWhile_cons_of_neg (ne_true_of_eq_false solid)]

/-- A text with which no value goes on. -/
def Delimits (rest : List Char) : Prop :=
  ∀ c, rest.head? = some c → isSpace c = true ∨ c = ',' ∨ c = ']' ∨ c = '}'

theorem Delimits.nil : Delimits [] := by
  simp [Delimits]

theorem Delimits.endsNumber (ends : Delimits rest) : EndsNumber rest := by
  intro c first
  rcases ends c first with space | rfl | rfl | rfl
  · simp only [isSpace, Bool.or_eq_true, beq_iff_eq] at space
    rcases space with ((rfl | rfl) | rfl) | rfl <;> decide
  · decide
  · decide
  · decide

theorem Delimits.space (ends : Delimits rest) (space : Space) :
    Delimits (space.chars ++ rest) := by
  obtain ⟨chars, blank⟩ := space
  cases chars with
  | nil => exact ends
  | cons c chars =>
      rintro d ⟨⟩
      exact .inl (blank c (by simp))

/-- A character with which the text of a document may begin. -/
def StartsValue (c : Char) : Prop :=
  isSpace c = false ∧ c ≠ ',' ∧ c ≠ ']'
  deriving Decidable

theorem closeList_space (space : Space) (rest : List Char) :
    closeList (space.chars ++ ']' :: rest) = (.ok (), rest) := by
  rw [closeList, skipSpace_space, skipSpace_cons rfl]
  rfl

theorem closeObject_space (space : Space) (rest : List Char) :
    closeObject (space.chars ++ '}' :: rest) = (.ok (), rest) := by
  rw [closeObject, skipSpace_space, skipSpace_cons rfl]
  rfl

/-! ## How documents begin -/

theorem startsValue_digit (digit : c.isDigit = true) : StartsValue c := by
  refine ⟨?_, ?_, ?_⟩
  · by_contra space
    simp only [isSpace, Bool.not_eq_false, Bool.or_eq_true, beq_iff_eq] at space
    rcases space with ((rfl | rfl) | rfl) | rfl <;> exact absurd digit (by decide)
  · rintro rfl
    exact absurd digit (by decide)
  · rintro rfl
    exact absurd digit (by decide)

/-- Whatever is read as a number begins with its sign or a digit. -/
theorem exists_cons_of_readNumber {r : Number × List Char} (read : readNumber s = .ok r) :
    ∃ c t, s = c :: t ∧ (c = '-' ∨ c.isDigit = true) := by
  unfold readNumber at read
  split at read
  · exact ⟨_, _, rfl, .inl rfl⟩
  · unfold readUnsigned at read
    split at read
    · contradiction
    · exact ⟨_, _, rfl, .inr rfl⟩
    · split at read
      · rename_i digit
        exact ⟨_, _, rfl, .inr digit⟩
      · contradiction

theorem startsValue_of_readNumber {r : Number × List Char} (read : readNumber s = .ok r) :
    ∃ c t, s = c :: t ∧ StartsValue c ∧ c ≠ 'n' := by
  obtain ⟨c, t, rfl, start⟩ := exists_cons_of_readNumber read
  refine ⟨c, t, rfl, ?_⟩
  rcases start with rfl | digit
  · exact ⟨⟨rfl, by decide, by decide⟩, by decide⟩
  · constructor
    · exact startsValue_digit digit
    · rintro rfl
      exact absurd digit (by decide)

theorem writeReal_of_isFinite {x : Float} (finite : x.isFinite = true) :
    writeReal x = Decimal.real .document x := by
  obtain ⟨notNaN, notInf⟩ := Rounding.isFinite_iff.mp finite
  simp only [writeReal, notNaN, notInf, Bool.or_self, Bool.false_eq_true, ↓reduceIte]

theorem writeReal_of_not_isFinite {x : Float} (infinite : x.isFinite ≠ true) :
    writeReal x = "null".toList := by
  have special : (x.isNaN || x.isInf) = true := by
    by_contra none
    exact infinite (Rounding.isFinite_iff.mpr (by simpa using none))
  rw [writeReal, if_pos special]

/-- The document is written as `null`. -/
def WritesNull (v : Json) : Prop :=
  v.writeFlat = "null".toList
  deriving Decidable

/-- The text of a document begins with no space and no mark, and with `n` only if it is `null`. -/
theorem write_eq_cons (layout : Layout) (level : Nat) (v : Json) :
    ∃ c s, v.write layout level = c :: s ∧ StartsValue c ∧ (c = 'n' → v.WritesNull) := by
  have ofNumber : ∀ {s : List Char} {r : Number × List Char}, readNumber s = .ok r →
      ∃ c t, s = c :: t ∧ StartsValue c ∧ (c = 'n' → s = "null".toList) := by
    intro s r read
    obtain ⟨c, t, rfl, start, other⟩ := startsValue_of_readNumber read
    exact ⟨c, t, rfl, start, fun same => absurd same other⟩
  have solid : ∀ {c : Char} {s : List Char} {p : Prop}, c ≠ 'n' → StartsValue c →
      ∃ d t, c :: s = d :: t ∧ StartsValue d ∧ (d = 'n' → p) :=
    fun other start => ⟨_, _, rfl, start, fun same => absurd same other⟩
  cases v with
  | null => exact ⟨'n', _, rfl, by decide, fun _ => rfl⟩
  | bool b => cases b <;> exact solid (by decide) (by decide)
  | whole n =>
      have read := readNumber_integer n Delimits.nil.endsNumber
      rw [List.append_nil] at read
      exact ofNumber read
  | real x =>
      change ∃ c s, writeReal x = _ ∧ _ ∧ (_ → writeReal x = _)
      by_cases finite : x.isFinite = true
      · have read := readNumber_real finite Delimits.nil.endsNumber
        rw [List.append_nil] at read
        rw [writeReal_of_isFinite finite]
        exact ofNumber read
      · rw [writeReal_of_not_isFinite finite]
        exact ⟨'n', _, rfl, by decide, fun _ => rfl⟩
  | text s => exact solid (by decide) (by decide)
  | list items => cases items <;> exact solid (by decide) (by decide)
  | object members =>
      rcases members with _ | ⟨⟨key, value⟩, members⟩ <;> exact solid (by decide) (by decide)

@[simp]
theorem skipSpace_write (v : Json) (rest : List Char) :
    skipSpace (v.write layout level ++ rest) = v.write layout level ++ rest := by
  obtain ⟨c, s, written, ⟨solid, -⟩, -⟩ := write_eq_cons layout level v
  rw [written, List.cons_append, skipSpace_cons solid]

@[simp]
theorem not_writesNull_whole (n : Whole) : ¬(whole n).WritesNull := by
  intro null
  have read := readNumber_integer n Delimits.nil.endsNumber
  rw [List.append_nil] at read
  obtain ⟨c, s, written, -, other⟩ := startsValue_of_readNumber read
  have same : c :: s = "null".toList := written.symm.trans null
  exact other (List.cons.inj same).1

@[simp]
theorem not_writesNull_text (t : String) : ¬(text t).WritesNull := by
  intro null
  exact absurd (List.cons.inj null).1 (by decide)

@[simp]
theorem not_writesNull_list (items : List Json) : ¬(list items).WritesNull := by
  intro null
  exact absurd (List.cons.inj null).1 (by decide)

@[simp]
theorem not_writesNull_object (members : List (String × Json)) : ¬(object members).WritesNull := by
  intro null
  exact absurd (List.cons.inj null).1 (by decide)

theorem write_of_writesNull {v : Json} (isNull : v.WritesNull) :
    v.write layout level = "null".toList := by
  cases v with
  | list items => exact absurd isNull (not_writesNull_list items)
  | object members => exact absurd isNull (not_writesNull_object members)
  | _ => rw [write, isNull] <;> nofun

theorem delimits_writeItems (items : List Json) (rest : List Char) :
    Delimits (writeItems layout level items ++ rest) := by
  cases items with
  | nil =>
      have ends : Delimits (']' :: rest) := by simp [Delimits]
      simpa [writeItems] using ends.space (layout.line level)
  | cons item items => simp [writeItems, Delimits]

theorem delimits_writeMembers (members : List (String × Json)) (rest : List Char) :
    Delimits (writeMembers layout level members ++ rest) := by
  cases members with
  | nil =>
      have ends : Delimits ('}' :: rest) := by simp [Delimits]
      simpa [writeMembers] using ends.space (layout.line level)
  | cons member members => simp [writeMembers, Delimits]

theorem nextItem_first (space : Space) (v : Json) (rest : List Char) :
    nextItem true (space.chars ++ (v.write layout level ++ rest)) =
      .ok (some (v.write layout level ++ rest)) := by
  rw [nextItem, skipSpace_space, skipSpace_write]
  obtain ⟨c, s, written, ⟨solid, comma, close⟩, -⟩ := write_eq_cons layout level v
  rw [written, List.cons_append]
  split <;> simp_all

theorem nextItem_behind (space : Space) (v : Json) (rest : List Char) :
    nextItem false (',' :: (space.chars ++ (v.write layout level ++ rest))) =
      .ok (some (v.write layout level ++ rest)) := by
  have space : skipSpace (space.chars ++ (v.write layout level ++ rest)) =
      v.write layout level ++ rest := by
    rw [skipSpace_space, skipSpace_write]
  rw [nextItem, skipSpace_cons rfl]
  simp only [Bool.false_eq_true, ↓reduceIte, space]
  obtain ⟨c, s, written, ⟨solid, comma, close⟩, -⟩ := write_eq_cons layout level v
  rw [written, List.cons_append]
  split <;> simp_all

/-- Entries put one after the other into those that were kept. -/
def insertAll {α : Type} (kept entries : List (String × α)) : List (String × α) :=
  entries.foldl (fun kept entry => insertMember entry.1 entry.2 kept) kept

end Json

namespace Reader

open Json

variable {α σ : Type} {item value : Reader α} {step : Step σ} {s t rest : List Char}

/-- The reader reads a document as a value, however it is laid out, behind any space and in front of
every text with which no value goes on. -/
def Reads (reader : Reader α) (v : Json) (a : α) : Prop :=
  ∀ (layout : Layout) (level : Nat) (space : Space) (rest : List Char), Delimits rest →
    reader.run (space.chars ++ (v.write layout level ++ rest)) = .ok (a, rest)

/-! ## Lists -/

theorem items_of_next {isFirst : Bool} {a : α} {as : List α} {r u : List Char}
    (next : nextItem isFirst s = .ok (some t)) (first : item.run t = .ok (a, r))
    (others : items item false r = .ok (as, u)) : items item isFirst s = .ok (a :: as, u) := by
  rw [items]
  split
  · simp_all
  · simp_all
  · rename_i place found
    obtain rfl : place = t := by simp_all
    split
    · simp_all
    · simp_all

theorem items_of_end {isFirst : Bool} (ended : nextItem isFirst s = .ok none) :
    items item isFirst s = .ok ([], s) := by
  rw [items]
  split <;> simp_all

/-- The items behind the first are read up to the end of the list. -/
theorem items_writeItems {vs : List Json} {as : List α} (each : List.Forall₂ item.Reads vs as)
    (layout : Layout) (level : Nat) (rest : List Char) :
    items item false (writeItems layout level vs ++ rest) =
      .ok (as, (layout.line level).chars ++ ']' :: rest) := by
  induction each with
  | nil =>
      rw [writeItems, List.append_assoc]
      exact items_of_end (by rw [nextItem, skipSpace_space]; rfl)
  | @cons v a vs as first others ih =>
      have written : writeItems layout level (v :: vs) ++ rest =
          ',' :: ((layout.line (level + 1)).chars ++
            (v.write layout (level + 1) ++ (writeItems layout level vs ++ rest))) := by
        simp [writeItems]
      rw [written]
      exact items_of_next (nextItem_behind _ v _)
        (first layout (level + 1) .none _ (delimits_writeItems vs rest)) ih

/-- The items of a written list are read behind its bracket, up to the space at its end. -/
theorem exists_items_list {vs : List Json} {as : List α} (each : List.Forall₂ item.Reads vs as)
    (layout : Layout) (level : Nat) :
    ∃ (inside : List Char) (space : Space), (Json.list vs).write layout level = '[' :: inside ∧
      ∀ rest, items item true (inside ++ rest) = .ok (as, space.chars ++ ']' :: rest) := by
  cases each with
  | nil => exact ⟨[']'], .none, by simp [write, writeFlat], fun rest => items_of_end rfl⟩
  | @cons v a vs as first others =>
      refine ⟨(layout.line (level + 1)).chars ++ (v.write layout (level + 1) ++
        writeItems layout level vs), layout.line level, by simp [write], fun rest => ?_⟩
      rw [List.append_assoc, List.append_assoc]
      exact items_of_next (nextItem_first _ v _)
        (first layout (level + 1) .none _ (delimits_writeItems vs rest))
        (items_writeItems others layout level rest)

/-! ## Objects -/

/-- The steps over written members, in their order, lead from one state to another. -/
inductive Step.Takes (step : Step σ) : σ → List (String × Json) → σ → Prop where
  | nil {a : σ} : Takes step a [] a
  | cons {a b c : σ} {key : String} {v : Json} {members : List (String × Json)}
      (first : ∀ (layout : Layout) (level : Nat) (space : Space) (rest : List Char),
        Delimits rest → step.run key a (':' :: (space.chars ++ (v.write layout level ++ rest))) =
          .ok (b, rest))
      (others : Takes step b members c) : Takes step a ((key, v) :: members) c

theorem members_of_end {isFirst : Bool} {a : σ} (ended : nextKey isFirst s = .ok none) :
    members step isFirst a s = .ok (a, s) := by
  rw [members]
  split <;> simp_all

theorem members_of_next {isFirst : Bool} {a b : σ} {key : String} {u : List Char}
    (next : nextKey isFirst s = .ok (some (key.toList.flatMap escapeChar ++ '"' :: t)))
    (first : step.run key a t = .ok (b, u)) :
    members step isFirst a s = members step false b u := by
  have name := readText_escaped key.toList t
  have taken : step.run (String.ofList key.toList) a t = .ok (b, u) := by
    rwa [String.ofList_toList]
  rw [members]
  split
  · simp_all
  · simp_all
  · rename_i place found
    obtain rfl : place = _ := Option.some.inj (Except.ok.inj (found.symm.trans next))
    split
    · simp_all
    · rename_i k r read
      obtain ⟨rfl, rfl⟩ := Prod.mk.inj (Except.ok.inj (read.symm.trans name))
      split
      · simp_all
      · rename_i stepped
        obtain ⟨rfl, rfl⟩ := Prod.mk.inj (Except.ok.inj (stepped.symm.trans taken))
        rfl

/-- The members behind the first are read up to the end of the object. -/
theorem members_writeMembers {a b : σ} {ms : List (String × Json)} (takes : step.Takes a ms b)
    (layout : Layout) (level : Nat) (rest : List Char) :
    members step false a (writeMembers layout level ms ++ rest) =
      .ok (b, (layout.line level).chars ++ '}' :: rest) := by
  induction takes with
  | nil =>
      rw [writeMembers, List.append_assoc]
      exact members_of_end (by rw [nextKey, skipSpace_space]; rfl)
  | @cons a b c key v ms first others ih =>
      have written : writeMembers layout level ((key, v) :: ms) ++ rest =
          ',' :: ((layout.line (level + 1)).chars ++ '"' :: (key.toList.flatMap escapeChar ++
            '"' :: (':' :: (layout.gap.chars ++
              (v.write layout (level + 1) ++ (writeMembers layout level ms ++ rest)))))) := by
        simp [writeMembers, writeText]
      have next (t : List Char) :
          nextKey false (',' :: ((layout.line (level + 1)).chars ++ '"' :: t)) = .ok (some t) := by
        rw [nextKey, skipSpace_cons rfl]
        simp only [Bool.false_eq_true, ↓reduceIte, skipSpace_space, skipSpace_cons (c := '"') rfl]
      rw [written, members_of_next (next _)
        (first layout (level + 1) layout.gap _ (delimits_writeMembers ms rest)), ih]

/-- The members of a written object are read behind its bracket, up to the space at its end. -/
theorem exists_members_object {a b : σ} {ms : List (String × Json)} (takes : step.Takes a ms b)
    (layout : Layout) (level : Nat) :
    ∃ (inside : List Char) (space : Space), (Json.object ms).write layout level = '{' :: inside ∧
      ∀ rest, members step true a (inside ++ rest) = .ok (b, space.chars ++ '}' :: rest) := by
  cases takes with
  | nil => exact ⟨['}'], .none, by simp [write, writeFlat], fun rest => members_of_end rfl⟩
  | @cons _ b _ key v ms first others =>
      refine ⟨(layout.line (level + 1)).chars ++ (writeText key.toList ++ ':' ::
        (layout.gap.chars ++ (v.write layout (level + 1) ++ writeMembers layout level ms))),
        layout.line level, by simp [write], fun rest => ?_⟩
      have written : (layout.line (level + 1)).chars ++ (writeText key.toList ++ ':' ::
            (layout.gap.chars ++ (v.write layout (level + 1) ++ writeMembers layout level ms))) ++
              rest =
          (layout.line (level + 1)).chars ++ '"' :: (key.toList.flatMap escapeChar ++
            '"' :: (':' :: (layout.gap.chars ++
              (v.write layout (level + 1) ++ (writeMembers layout level ms ++ rest))))) := by
        simp [writeText]
      have next (t : List Char) :
          nextKey true ((layout.line (level + 1)).chars ++ '"' :: t) = .ok (some t) := by
        rw [nextKey, skipSpace_space, skipSpace_cons rfl]
        rfl
      rw [written, members_of_next (next _)
        (first layout (level + 1) layout.gap _ (delimits_writeMembers ms rest)),
        members_writeMembers others]

/-! ## Kept members -/

theorem keep_takes {ms : List (String × Json)} {entries : List (String × α)}
    (each : List.Forall₂ (fun m entry => m.1 = entry.1 ∧ value.Reads m.2 entry.2) ms entries)
    (kept : List (String × α)) :
    (keep value).Takes kept ms (insertAll kept entries) := by
  induction each generalizing kept with
  | nil => exact .nil
  | @cons m entry ms entries first others ih =>
      obtain ⟨same, reads⟩ := first
      refine .cons (fun layout level space rest ends => ?_)
        (ih (insertMember entry.1 entry.2 kept))
      have colon (s : List Char) : colon (':' :: s) = .ok s := rfl
      simp only [keep, colon, reads layout level space rest ends, same]

end Reader

end HeaderBidding
