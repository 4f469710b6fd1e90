import HeaderBidding.Log
import Mathlib.Data.List.Forall2

/-!
# Outcomes of traced steps

The outcome of a sequence of steps is decided by its first step that fails.  This file states that
for two steps in a row and for one step on each item of a list, where a success gives one result an
item and a failure is that of the first item that fails.  Steps in a row are a lawful monad, so that
what changes the items alone can be moved past them.
-/

namespace HeaderBidding

/-- `a` is the first item of a list with a property. -/
def IsFirst {α : Type} (p : α → Prop) (items : List α) (a : α) : Prop :=
  ∃ before after, items = before ++ a :: after ∧ p a ∧ ∀ other ∈ before, ¬p other

namespace IsFirst

variable {α β : Type} {p q : α → Prop} {items : List α} {a b : α}

theorem mem (first : IsFirst p items a) : a ∈ items := by
  obtain ⟨before, after, rfl, -, -⟩ := first
  simp

theorem holds (first : IsFirst p items a) : p a := by
  obtain ⟨before, after, -, holds, -⟩ := first
  exact holds

@[simp]
theorem nil_iff : IsFirst p [] a ↔ False := by
  simp [IsFirst]

theorem cons_iff : IsFirst p (b :: items) a ↔ b = a ∧ p a ∨ ¬p b ∧ IsFirst p items a := by
  constructor
  · rintro ⟨before, after, split, holds, fails⟩
    cases before with
    | nil =>
        obtain ⟨rfl, -⟩ := List.cons.inj split
        exact .inl ⟨rfl, holds⟩
    | cons c before =>
        obtain ⟨rfl, rfl⟩ := List.cons.inj split
        exact .inr ⟨fails b (by simp), before, after, rfl, holds,
          fun other mem => fails other (by simp [mem])⟩
  · rintro (⟨rfl, holds⟩ | ⟨fails, before, after, rfl, holds, others⟩)
    · exact ⟨[], items, rfl, holds, by simp⟩
    · refine ⟨b :: before, after, rfl, holds, ?_⟩
      simpa using ⟨fails, others⟩

theorem cons_of_pos (holds : p b) : IsFirst p (b :: items) a ↔ b = a := by
  rw [cons_iff]
  constructor
  · rintro (⟨same, -⟩ | ⟨fails, -⟩)
    · exact same
    · contradiction
  · rintro rfl
    exact .inl ⟨rfl, holds⟩

theorem cons_of_neg (fails : ¬p b) : IsFirst p (b :: items) a ↔ IsFirst p items a := by
  rw [cons_iff]
  constructor
  · rintro (⟨rfl, holds⟩ | ⟨-, first⟩)
    · contradiction
    · exact first
  · exact fun first => .inr ⟨fails, first⟩

/-- Some item has a property exactly if there is a first one that has it. -/
theorem exists_iff : (∃ a, IsFirst p items a) ↔ ∃ a ∈ items, p a := by
  constructor
  · rintro ⟨a, first⟩
    exact ⟨a, first.mem, first.holds⟩
  · rintro ⟨a, mem, holds⟩
    induction items with
    | nil => simp at mem
    | cons c items ih =>
        by_cases head : p c
        · exact ⟨c, cons_iff.mpr (.inl ⟨rfl, head⟩)⟩
        · rcases List.mem_cons.mp mem with rfl | mem
          · contradiction
          · obtain ⟨first, isFirst⟩ := ih mem
            exact ⟨first, cons_iff.mpr (.inr ⟨head, isFirst⟩)⟩

end IsFirst

/-- What is checked of an outcome holds of a value. -/
theorem exists_eq_ok_of_any {ε α : Type} {outcome : Except ε α} {p : α → Bool}
    (checked : outcome.toOption.any p = true) : ∃ a, outcome = .ok a ∧ p a = true := by
  cases outcome with
  | error e => contradiction
  | ok a => exact ⟨a, rfl, checked⟩

namespace Traced

variable {ε α β γ δ : Type}

/-! ## Single steps -/

@[simp]
theorem outcome_pure (a : α) : (pure a : Traced ε α).outcome = .ok a :=
  rfl

@[simp]
theorem outcome_log (event : Event) : (log event : Traced ε Unit).outcome = .ok () :=
  rfl

@[simp]
theorem outcome_logAll (events : List Event) : (logAll events : Traced ε Unit).outcome = .ok () :=
  rfl

@[simp]
theorem outcome_fail (e : ε) : (fail e : Traced ε α).outcome = .error e :=
  rfl

@[simp]
theorem outcome_silent (outcome : Except ε α) : (silent outcome).outcome = outcome :=
  rfl

@[simp]
theorem outcome_mapError (f : ε → δ) (a : Traced ε α) :
    (a.mapError f).outcome = a.outcome.mapError f :=
  rfl

theorem outcome_mapError_eq_ok_iff {f : ε → δ} {a : Traced ε α} {value : α} :
    (a.mapError f).outcome = .ok value ↔ a.outcome = .ok value := by
  rw [outcome_mapError]
  cases a.outcome <;> simp [Except.mapError]

/-! ## Two steps in a row -/

theorem outcome_bind_of_ok {a : Traced ε α} {next : α → Traced ε β} {value : α}
    (ok : a.outcome = .ok value) : (a >>= next).outcome = (next value).outcome := by
  simp only [bind, andThen, ok]

theorem outcome_bind_of_error {a : Traced ε α} {next : α → Traced ε β} {e : ε}
    (error : a.outcome = .error e) : (a >>= next).outcome = .error e := by
  simp only [bind, andThen, error]

theorem outcome_bind_eq_ok_iff {a : Traced ε α} {next : α → Traced ε β} {b : β} :
    (a >>= next).outcome = .ok b ↔
      ∃ value, a.outcome = .ok value ∧ (next value).outcome = .ok b := by
  cases first : a.outcome with
  | ok value => simp [outcome_bind_of_ok first]
  | error e => simp [outcome_bind_of_error first]

/-! ## One step for each item -/

/-- Takes a step for each item of a list, up to the first that fails. -/
def each (step : α → Traced ε β) : List α → Traced ε (List β)
  | [] => pure []
  | a :: rest => do
    let first ← step a
    let others ← each step rest
    pure (first :: others)

theorem each_eq_ok_iff {step : α → Traced ε β} {items : List α} {results : List β} :
    (each step items).outcome = .ok results ↔
      List.Forall₂ (fun a b => (step a).outcome = .ok b) items results := by
  induction items generalizing results with
  | nil => cases results <;> simp [each]
  | cons a items ih =>
      simp only [each, outcome_bind_eq_ok_iff, ih, outcome_pure, Except.ok.injEq]
      constructor
      · rintro ⟨b, first, others, rest, rfl⟩
        exact .cons first rest
      · rintro (_ | ⟨first, rest⟩)
        exact ⟨_, first, _, rest, rfl⟩

/-- There is a result for each item exactly if no step fails. -/
theorem each_succeeds_iff {step : α → Traced ε β} {items : List α} :
    (∃ results, (each step items).outcome = .ok results) ↔
      ∀ a ∈ items, ∃ b, (step a).outcome = .ok b := by
  induction items with
  | nil => simp [each]
  | cons a items ih =>
      simp only [List.forall_mem_cons, ← ih, each, outcome_bind_eq_ok_iff, outcome_pure,
        Except.ok.injEq]
      constructor
      · rintro ⟨results, b, first, others, rest, rfl⟩
        exact ⟨⟨b, first⟩, others, rest⟩
      · rintro ⟨⟨b, first⟩, others, rest⟩
        exact ⟨b :: others, b, first, others, rest, rfl⟩

/-- The error is that of the first item whose step fails. -/
theorem each_eq_error_iff {step : α → Traced ε β} {items : List α} {e : ε} :
    (each step items).outcome = .error e ↔
      ∃ a, IsFirst (fun a => ∃ e, (step a).outcome = .error e) items a ∧
        (step a).outcome = .error e := by
  induction items with
  | nil => simp [each]
  | cons a items ih =>
      cases first : (step a).outcome with
      | error e' =>
          simp only [each, outcome_bind_of_error first, Except.error.injEq, IsFirst.cons_iff]
          constructor
          · rintro rfl
            exact ⟨a, .inl ⟨rfl, e', first⟩, first⟩
          · rintro ⟨b, ⟨rfl, -⟩ | ⟨passes, -⟩, failed⟩
            · exact Except.error.inj (first.symm.trans failed)
            · exact absurd ⟨e', first⟩ passes
      | ok b =>
          have passes : ¬∃ e, (step a).outcome = .error e := by
            rw [first]
            simp
          have rest : (each step (a :: items)).outcome = .error e ↔
              (each step items).outcome = .error e := by
            simp only [each, outcome_bind_of_ok first]
            cases others : (each step items).outcome with
            | ok results => simp [outcome_bind_of_ok others]
            | error e' => simp [outcome_bind_of_error others]
          rw [rest, ih]
          constructor
          · rintro ⟨c, isFirst, failed⟩
            exact ⟨c, IsFirst.cons_iff.mpr (.inr ⟨passes, isFirst⟩), failed⟩
          · rintro ⟨c, isFirst, failed⟩
            rcases IsFirst.cons_iff.mp isFirst with ⟨rfl, failing⟩ | ⟨-, isFirst⟩
            · exact absurd failing passes
            · exact ⟨c, isFirst, failed⟩

/-! ## Laws -/

protected theorem id_map (a : Traced ε α) : id <$> a = a := by
  obtain ⟨outcome, events⟩ := a
  cases outcome with
  | error e => rfl
  | ok value => exact congrArg (Traced.mk _) (List.append_nil events)

protected theorem bind_assoc (a : Traced ε α) (next : α → Traced ε β) (last : β → Traced ε γ) :
    a >>= next >>= last = a >>= fun value => next value >>= last := by
  obtain ⟨outcome, events⟩ := a
  cases outcome with
  | error e => rfl
  | ok value =>
      cases taken : (next value).outcome with
      | error e => simp only [bind, andThen, taken]
      | ok b => simp only [bind, andThen, taken, List.append_assoc]

instance : LawfulMonad (Traced ε) :=
  .mk' (Traced ε) Traced.id_map (fun _ _ => rfl) Traced.bind_assoc

@[simp]
theorem outcome_map (f : α → β) (a : Traced ε α) : (f <$> a).outcome = f <$> a.outcome := by
  obtain ⟨_ | _, events⟩ := a <;> rfl

/-- Steps that give the same on changed items, up to a change of the results, give the same on a
list of them, with the same events. -/
theorem each_map {f : α → γ} {g : β → δ} {step : α → Traced ε β} {changed : γ → Traced ε δ}
    (same : ∀ a, changed (f a) = g <$> step a) (items : List α) :
    each changed (items.map f) = List.map g <$> each step items := by
  induction items with
  | nil => rfl
  | cons a items ih => simp [each, same, ih]

end Traced

end HeaderBidding
