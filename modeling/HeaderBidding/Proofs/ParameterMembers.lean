import HeaderBidding.Params.Validation
import Mathlib

/-!
# Parameters among the members of an object

Each parameter has two names and a slot.  Reading the members of an object fills a slot with the one
value that the members give under the names of its parameter, and refuses a second one.
-/

namespace HeaderBidding

/-- The three parameters. -/
inductive Parameter where
  | publisherId
  | tagId
  | adSize
  deriving DecidableEq

namespace Parameter

/-- The short name of a parameter in an object. -/
def short : Parameter → String
  | publisherId => "cp"
  | tagId => "ct"
  | adSize => "cf"

/-- The long name of a parameter in an object. -/
def long : Parameter → String
  | publisherId => "publisherId"
  | tagId => "tagId"
  | adSize => "adSize"

/-- The place of a parameter in a list. -/
def place : Parameter → Nat
  | publisherId => 0
  | tagId => 1
  | adSize => 2

/-- The name is one of the two names of the parameter. -/
def IsName (p : Parameter) (name : String) : Prop :=
  name = p.short ∨ name = p.long
  deriving Decidable

/-- The document gives the value for the parameter. -/
def IsGiven (p : Parameter) (v : Json) : Json → Prop
  | .list items => items[p.place]? = some v
  | .object members => ∃ name, (name, v) ∈ members ∧ p.IsName name
  | _ => False

/-- Members have both names of the parameter.  In an object in memory no name comes twice. -/
def Clashes (p : Parameter) (members : List (String × Json)) : Prop :=
  p.short ∈ members.map Prod.fst ∧ p.long ∈ members.map Prod.fst ∨
    1 < (members.map Prod.fst).count p.short ∨ 1 < (members.map Prod.fst).count p.long

end Parameter

namespace RawParams

open Parameter

variable {α β : Type} {read : Json → Except Cause α} {p q : Parameter} {slot final : Option α}
  {m : String × Json} {members : List (String × Json)} {slots next : ParamsSlots}

theorem eq_of_isName {name : String} (first : p.IsName name) (second : q.IsName name) : p = q := by
  rcases first with rfl | rfl <;> revert second <;> cases p <;> cases q <;> decide

/-- What a member does to the slot of a parameter. -/
inductive Takes (read : Json → Except Cause α) (p : Parameter) (m : String × Json) :
    Option α → Option α → Prop
  | own {a : α} (name : p.IsName m.1) (taken : read m.2 = .ok a) : Takes read p m none (some a)
  | other {slot : Option α} (name : ¬p.IsName m.1) : Takes read p m slot slot

theorem takes_iff_of_name (name : p.IsName m.1) :
    Takes read p m slot final ↔ slot = none ∧ ∃ a, read m.2 = .ok a ∧ final = some a := by
  constructor
  · intro taken
    cases taken with
    | own _ taken => exact ⟨rfl, _, taken, rfl⟩
    | other other => exact absurd name other
  · rintro ⟨rfl, a, taken, rfl⟩
    exact .own name taken

theorem takes_iff_of_other (other : ¬p.IsName m.1) : Takes read p m slot final ↔ final = slot := by
  constructor
  · intro taken
    cases taken with
    | own name => exact absurd name other
    | other => rfl
  · rintro rfl
    exact .other other

theorem readMember_eq_ok_iff : readMember slots m = .ok next ↔
    Takes identifier? .publisherId m slots.publisherId next.publisherId ∧
      Takes identifier? .tagId m slots.tagId next.tagId ∧
      Takes size? .adSize m slots.adSize next.adSize := by
  have others : ∀ {p : Parameter}, p.IsName m.1 → ∀ q, q ≠ p → ¬q.IsName m.1 :=
    fun name q other name' => other (eq_of_isName name' name)
  obtain ⟨publisherId, tagId, adSize⟩ := slots
  obtain ⟨publisherId', tagId', adSize'⟩ := next
  rw [readMember]
  split_ifs with publisher tag size
  · replace publisher : IsName .publisherId m.1 := publisher
    rw [takes_iff_of_name publisher, takes_iff_of_other (others publisher .tagId nofun),
      takes_iff_of_other (others publisher .adSize nofun)]
    cases publisherId <;> cases identifier? m.2 <;> grind [Except.map]
  · replace tag : IsName .tagId m.1 := tag
    rw [takes_iff_of_name tag, takes_iff_of_other (others tag .publisherId nofun),
      takes_iff_of_other (others tag .adSize nofun)]
    cases tagId <;> cases identifier? m.2 <;> grind [Except.map]
  · replace size : IsName .adSize m.1 := size
    rw [takes_iff_of_name size, takes_iff_of_other (others size .publisherId nofun),
      takes_iff_of_other (others size .tagId nofun)]
    cases adSize <;> cases size? m.2 <;> grind [Except.map]
  · replace publisher : ¬IsName .publisherId m.1 := publisher
    replace tag : ¬IsName .tagId m.1 := tag
    replace size : ¬IsName .adSize m.1 := size
    rw [takes_iff_of_other publisher, takes_iff_of_other tag, takes_iff_of_other size]
    grind

/-- What members, in their order, do to the slot of a parameter. -/
inductive Fills (read : Json → Except Cause α) (p : Parameter) :
    List (String × Json) → Option α → Option α → Prop
  | nil {slot : Option α} : Fills read p [] slot slot
  | cons {m : String × Json} {members : List (String × Json)} {slot next final : Option α}
      (first : Takes read p m slot next) (others : Fills read p members next final) :
      Fills read p (m :: members) slot final

theorem fills_nil_iff : Fills read p [] slot final ↔ final = slot := by
  constructor
  · rintro ⟨⟩
    rfl
  · rintro rfl
    exact .nil

theorem fills_cons_iff : Fills read p (m :: members) slot final ↔
    ∃ next, Takes read p m slot next ∧ Fills read p members next final := by
  constructor
  · rintro (_ | ⟨first, others⟩)
    exact ⟨_, first, others⟩
  · rintro ⟨next, first, others⟩
    exact .cons first others

/-- Members are read exactly if they fill the three slots. -/
theorem readMembers_eq_ok_iff {final : ParamsSlots} : readMembers slots members = .ok final ↔
    Fills identifier? .publisherId members slots.publisherId final.publisherId ∧
      Fills identifier? .tagId members slots.tagId final.tagId ∧
      Fills size? .adSize members slots.adSize final.adSize := by
  induction members generalizing slots with
  | nil =>
      obtain ⟨publisherId, tagId, adSize⟩ := slots
      obtain ⟨publisherId', tagId', adSize'⟩ := final
      simp only [readMembers, fills_nil_iff, Except.ok.injEq, ParamsSlots.mk.injEq, eq_comm]
  | cons m members ih =>
      have step : readMembers slots (m :: members) = .ok final ↔
          ∃ next, readMember slots m = .ok next ∧ readMembers next members = .ok final := by
        rw [readMembers]
        cases readMember slots m <;> simp
      simp only [step, readMember_eq_ok_iff, ih, fills_cons_iff]
      constructor
      · rintro ⟨next, ⟨publisher, tag, size⟩, publishers, tags, sizes⟩
        exact ⟨⟨_, publisher, publishers⟩, ⟨_, tag, tags⟩, _, size, sizes⟩
      · rintro ⟨⟨publisherId, publisher, publishers⟩, ⟨tagId, tag, tags⟩, adSize, size, sizes⟩
        exact ⟨⟨publisherId, tagId, adSize⟩, ⟨publisher, tag, size⟩, publishers, tags, sizes⟩

/-- The values that members give for a parameter. -/
def valuesFor (p : Parameter) (members : List (String × Json)) : List Json :=
  (members.filter fun m => p.IsName m.1).map Prod.snd

theorem valuesFor_cons_of_name (name : p.IsName m.1) :
    valuesFor p (m :: members) = m.2 :: valuesFor p members := by
  simp [valuesFor, name]

theorem valuesFor_cons_of_other (other : ¬p.IsName m.1) :
    valuesFor p (m :: members) = valuesFor p members := by
  simp [valuesFor, other]

/-- A slot that is filled stays as it is if nothing else is given. -/
theorem fills_some_iff {a : α} :
    Fills read p members (some a) final ↔ valuesFor p members = [] ∧ final = some a := by
  induction members with
  | nil => simp [fills_nil_iff, valuesFor]
  | cons m members ih =>
      rw [fills_cons_iff]
      by_cases name : p.IsName m.1
      · simp [takes_iff_of_name name, valuesFor_cons_of_name name]
      · simp [takes_iff_of_other name, valuesFor_cons_of_other name, ih]

/-- A slot is filled by the one value that is given, or not at all. -/
theorem fills_none_iff : Fills read p members none final ↔
    valuesFor p members = [] ∧ final = none ∨
      ∃ v a, valuesFor p members = [v] ∧ read v = .ok a ∧ final = some a := by
  induction members with
  | nil => simp [fills_nil_iff, valuesFor]
  | cons m members ih =>
      rw [fills_cons_iff]
      by_cases name : p.IsName m.1
      · rw [valuesFor_cons_of_name name]
        simp only [takes_iff_of_name name, true_and, reduceCtorEq, false_and, false_or,
          List.cons.injEq]
        constructor
        · rintro ⟨_, ⟨a, taken, rfl⟩, others⟩
          obtain ⟨none, rfl⟩ := fills_some_iff.mp others
          exact ⟨m.2, a, ⟨rfl, none⟩, taken, rfl⟩
        · rintro ⟨_, a, ⟨rfl, none⟩, taken, rfl⟩
          exact ⟨some a, ⟨a, taken, rfl⟩, fills_some_iff.mpr ⟨none, rfl⟩⟩
      · simp [takes_iff_of_other name, valuesFor_cons_of_other name, ih]

theorem mem_valuesFor {v : Json} : v ∈ valuesFor p members ↔ p.IsGiven v (.object members) := by
  simp [valuesFor, IsGiven]

/-- There are as many values for a parameter as there are members with its names. -/
theorem length_valuesFor : (valuesFor p members).length =
    (members.map Prod.fst).count p.short + (members.map Prod.fst).count p.long := by
  have apart : p.short ≠ p.long := by cases p <;> decide
  induction members with
  | nil => rfl
  | cons m members ih =>
      rw [List.map_cons, List.count_cons, List.count_cons]
      by_cases name : p.IsName m.1
      · rw [valuesFor_cons_of_name name, List.length_cons, ih]
        rcases name with same | same
        · simp [same, apart]
          omega
        · simp [same, apart.symm]
          omega
      · rw [valuesFor_cons_of_other name, ih]
        rw [IsName, not_or] at name
        simp [name.1, name.2]

theorem clashes_iff : p.Clashes members ↔ 1 < (valuesFor p members).length := by
  rw [length_valuesFor, Clashes, ← List.count_pos_iff, ← List.count_pos_iff]
  omega

end RawParams

end HeaderBidding
