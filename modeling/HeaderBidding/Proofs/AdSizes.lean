import HeaderBidding.Params.Size
import HeaderBidding.Proofs.Digits

/-!
# Which texts are ad sizes

An ad size is a width, an `x` of either case and a height, with any number of further `x` behind it.
Case is removed from the whole text before it is cut, which takes no other character for an `x`, a
sign or a digit.  A text that is no ad size is refused for the number of its parts, for its width or
for its height, in this order.
-/

namespace HeaderBidding

/-! ## Lower case -/

namespace Text

/-- Lower case gives these characters to no others than themselves and `X`. -/
def IsPlain (c : Char) : Prop :=
  c = 'x' ∨ c = '+' ∨ c.isDigit = true
  deriving Decidable

/-- The code points of plain characters. -/
def plainCodes : List Nat :=
  [43, 48, 49, 50, 51, 52, 53, 54, 55, 56, 57, 120]

variable {c : Char} {s before : List Char}

theorem IsPlain.toNat_mem (plain : IsPlain c) : c.toNat ∈ plainCodes := by
  rcases plain with rfl | rfl | digit
  · decide
  · decide
  · simp only [Char.isDigit, Bool.and_eq_true, decide_eq_true_eq] at digit
    have low : 48 ≤ c.toNat := digit.1
    have high : c.toNat ≤ 57 := digit.2
    generalize c.toNat = n at low high
    interval_cases n <;> decide

/-- Of the characters with a lower case form, `X` alone has a plain one. -/
theorem code_of_lowerRuns : ∀ run ∈ lowerRuns, ∀ code ∈ plainCodes,
    run.has (code - run.shift).toNat = true → code = 120 ∧ code - run.shift = 88 := by
  decide +kernel

/-- A character whose lower case is plain is that character or `X`. -/
theorem lowerChar_of_isPlain (plain : IsPlain (lowerChar c)) :
    lowerChar c = c ∨ c = 'X' ∧ lowerChar c = 'x' := by
  unfold lowerChar at plain ⊢
  split at plain
  · rename_i run found
    have has : run.has c.toNat = true := by simpa using List.find?_some found
    have listed := plain.toNat_mem
    rw [Char.toNat_ofNat] at listed
    split_ifs at listed
    · -- The code point is not zero, so that the shift can be undone.
      have positive : ∀ code ∈ plainCodes, 0 < code := by decide
      have shifted := positive _ listed
      have back : (((c.toNat + run.shift).toNat : Int) - run.shift).toNat = c.toNat := by omega
      obtain ⟨lower, upper⟩ := code_of_lowerRuns run (List.mem_of_find?_eq_some found) _ listed
        (by rwa [back])
      refine .inr ⟨Char.ext (UInt32.toNat_inj.mp ?_), ?_⟩
      · change c.toNat = 88
        omega
      · simp only [lower]
    · exact absurd listed (by decide)
  · exact .inl rfl

theorem lowerChar_eq_self (plain : IsPlain c) : lowerChar c = c := by
  have each : ∀ code ∈ plainCodes, lowerChar (Char.ofNat code) = Char.ofNat code := by
    decide +kernel
  simpa using each c.toNat plain.toNat_mem

theorem lowerChar_upper : lowerChar 'X' = 'x' := by
  decide +kernel

theorem lowerAfter_eq_map (plain : ∀ c ∈ s, IsPlain c ∨ c = 'X') (before : List Char) :
    lowerAfter before s = s.map lowerChar := by
  induction s generalizing before with
  | nil => rfl
  | cons c s ih =>
      obtain ⟨first, others⟩ := List.forall_mem_cons.mp plain
      have noSigma : c ≠ capitalSigma := by
        rintro rfl
        exact absurd first (by decide)
      have noDotted : c ≠ dottedCapitalI := by
        rintro rfl
        exact absurd first (by decide)
      rw [lowerAfter, if_neg noSigma, if_neg noDotted, ih others]
      rfl

/-- A text whose lower case has plain characters alone has none but these and `X`. -/
theorem isPlain_of_lowerAfter (plain : ∀ c ∈ lowerAfter before s, IsPlain c) :
    ∀ c ∈ s, IsPlain c ∨ c = 'X' := by
  induction s generalizing before with
  | nil => simp
  | cons c s ih =>
      rw [lowerAfter] at plain
      obtain ⟨here, others⟩ := List.forall_mem_append.mp plain
      refine List.forall_mem_cons.mpr ⟨?_, ih others⟩
      by_cases sigma : c = capitalSigma
      · rw [if_pos sigma] at here
        have lower := List.forall_mem_singleton.mp here
        split at lower <;> exact absurd lower (by decide)
      · rw [if_neg sigma] at here
        by_cases dotted : c = dottedCapitalI
        · rw [if_pos dotted] at here
          exact absurd (here '\u0307' (by simp)) (by decide)
        · rw [if_neg dotted] at here
          have lower := List.forall_mem_singleton.mp here
          rcases lowerChar_of_isPlain lower with same | ⟨upper, -⟩
          · exact .inl (same ▸ lower)
          · exact .inr upper

/-- Plain characters and `X` are mapped one by one. -/
theorem lowercase_eq_map (plain : ∀ c ∈ s, IsPlain c ∨ c = 'X') :
    lowercase s = s.map lowerChar :=
  lowerAfter_eq_map plain []

/-! ## Segments -/

theorem segments_eq_splitOn (c : Char) (s : List Char) : segments c s = s.splitOn c := by
  induction s with
  | nil => rfl
  | cons d s ih =>
      rw [segments, List.splitOn_cons_eq_if_modifyHead, ih]
      simp only [beq_iff_eq]
      split_ifs
      · rfl
      · cases nonempty : s.splitOn c with
        | nil => exact absurd nonempty (List.splitOn_ne_nil c s)
        | cons first others => rfl

/-- A text that consists of separators behind its first part. -/
theorem splitOn_append_replicate {c : Char} (absent : c ∉ s) (k : Nat) :
    (s ++ List.replicate k c).splitOn c = s :: List.replicate k [] := by
  induction k generalizing s with
  | zero => simpa using List.splitOn_eq_singleton absent
  | succ k ih =>
      rw [List.replicate_succ, List.splitOn_append_cons_self_of_not_mem absent,
        List.replicate_succ]
      exact congrArg (s :: ·) (ih List.not_mem_nil)

theorem intercalate_replicate_nil (c : Char) (s : List Char) (k : Nat) :
    [c].intercalate (s :: List.replicate k []) = s ++ List.replicate k c := by
  induction k generalizing s with
  | zero => simp [List.intercalate]
  | succ k ih => simp [List.replicate_succ, List.intercalate_cons_cons, ih]

end Text

/-! ## Ad sizes -/

namespace AdSize

open Decimal Text

/-- An `x` of either case. -/
def IsCross (c : Char) : Prop :=
  c = 'x' ∨ c = 'X'

/-- The text is a width, a cross, a height and any number of further crosses. -/
def IsSpelled (text : List Char) (size : AdSize) : Prop :=
  ∃ width cross height crosses, text = width ++ cross :: (height ++ crosses) ∧ IsCross cross ∧
    (∀ c ∈ crosses, IsCross c) ∧ IsUnsigned width size.width.toNat ∧
    IsUnsigned height size.height.toNat

/-- The parts of a text in lower case between the letters `x`, without empty ones at the end. -/
def parts (text : String) : List (List Char) :=
  ((lowercase text.toList).splitOn 'x').rdropWhile List.isEmpty

/-- What a text that is no ad size is refused for. -/
inductive IsRefusal (text : String) : ParamsError → Prop
  | count (other : (parts text).length ≠ 2) : IsRefusal text (.invalidAdSize text)
  | width {width height : List Char} (cut : parts text = [width, height])
      (other : ∀ n : UInt32, ¬IsUnsigned width n.toNat) :
      IsRefusal text (.invalidWidth (String.ofList width))
  | height {width height : List Char} {n : UInt32} (cut : parts text = [width, height])
      (read : IsUnsigned width n.toNat) : IsRefusal text (.invalidHeight (String.ofList height))

variable {s width height : List Char} {text : String} {size : AdSize}

/-! ### Numbers of pixels -/

theorem pixels?_eq_some_iff {n : UInt32} : pixels? s = some n ↔ IsUnsigned s n.toNat := by
  rw [← natOf?_eq_some_iff, pixels?]
  cases natOf? s with
  | none => simp
  | some k =>
      have small := n.toNat_lt
      simp only [Option.ite_none_right_eq_some, Option.some.injEq]
      constructor
      · rintro ⟨fits, rfl⟩
        exact (UInt32.toNat_ofNat_of_lt' fits).symm
      · rintro rfl
        exact ⟨small, UInt32.ofNat_toNat⟩

theorem pixels?_eq_none_iff : pixels? s = none ↔ ∀ n : UInt32, ¬IsUnsigned s n.toNat := by
  simp only [← pixels?_eq_some_iff, Option.eq_none_iff_forall_ne_some, ne_eq]

/-- A number has plain characters, and no cross among them. -/
theorem isPlain_of_isUnsigned {n : Nat} (number : IsUnsigned s n) :
    ∀ c ∈ s, IsPlain c ∧ c ≠ 'x' := by
  have plain : ∀ c : Char, c.isDigit = true → IsPlain c ∧ c ≠ 'x' := by
    intro c digit
    refine ⟨.inr (.inr digit), ?_⟩
    rintro rfl
    exact absurd digit (by decide)
  rcases number with digits | ⟨rest, rfl, digits⟩
  · exact fun c mem => plain c (digits.digits c mem)
  · refine List.forall_mem_cons.mpr ⟨by decide, fun c mem => plain c (digits.digits c mem)⟩

theorem ne_nil_of_isUnsigned {n : Nat} (number : IsUnsigned s n) : s ≠ [] := by
  rcases number with digits | ⟨rest, rfl, -⟩
  · exact digits.nonempty
  · exact List.cons_ne_nil _ _

/-! ### Two parts -/

/-- What has been cut into two parts is the two with a cross between them and crosses behind. -/
theorem lowercase_of_parts (cut : parts text = [width, height]) :
    ∃ k, lowercase text.toList = width ++ 'x' :: (height ++ List.replicate k 'x') := by
  have whole : (lowercase text.toList).splitOn 'x' =
      [width, height] ++ ((lowercase text.toList).splitOn 'x').rtakeWhile List.isEmpty := by
    rw [← cut, parts, List.rdropWhile_append_rtakeWhile]
  generalize empty : ((lowercase text.toList).splitOn 'x').rtakeWhile List.isEmpty = ends at whole
  have ends_eq : ends = List.replicate ends.length [] := by
    refine List.eq_replicate_iff.mpr ⟨rfl, fun part mem => ?_⟩
    rw [← empty] at mem
    exact List.isEmpty_iff.mp (List.mem_rtakeWhile_imp mem)
  have joined : ['x'].intercalate ((lowercase text.toList).splitOn 'x') = lowercase text.toList :=
    List.intercalate_splitOn 'x'
  refine ⟨ends.length, ?_⟩
  rw [← joined, whole, ends_eq, List.length_replicate, List.cons_append, List.singleton_append,
    List.intercalate_cons_cons, intercalate_replicate_nil, List.append_assoc,
    List.singleton_append]

/-- Empty parts at the end are dropped, and the height is not one of them. -/
theorem rdropWhile_append_empty (width : List Char) (nonempty : height ≠ []) (k : Nat) :
    (width :: height :: List.replicate k []).rdropWhile List.isEmpty = [width, height] := by
  induction k with
  | zero => simp [List.rdropWhile_eq_self_iff, nonempty]
  | succ k ih =>
      rw [List.replicate_succ', ← List.cons_append, ← List.cons_append]
      exact (List.rdropWhile_concat_pos _ _ [] rfl).trans ih

theorem parts_of_lowercase {k : Nat} (first : 'x' ∉ width) (second : 'x' ∉ height)
    (nonempty : height ≠ [])
    (lower : lowercase text.toList = width ++ 'x' :: (height ++ List.replicate k 'x')) :
    parts text = [width, height] := by
  rw [parts, lower, List.splitOn_append_cons_self_of_not_mem first,
    splitOn_append_replicate second, rdropWhile_append_empty width nonempty]

/-! ### Case -/

theorem lowerChar_of_isCross {c : Char} (cross : IsCross c) : lowerChar c = 'x' := by
  rcases cross with rfl | rfl
  · exact lowerChar_eq_self (.inl rfl)
  · exact lowerChar_upper

theorem isCross_of_lowerChar {c : Char} (lower : lowerChar c = 'x') : IsCross c := by
  have plain : IsPlain (lowerChar c) := .inl lower
  rcases lowerChar_of_isPlain plain with same | ⟨upper, -⟩
  · exact .inl (same.symm.trans lower)
  · exact .inr upper

/-- Numbers have no case. -/
theorem map_lowerChar_of_isUnsigned {n : Nat} (number : IsUnsigned s n) : s.map lowerChar = s :=
  (List.map_congr_left fun c mem => lowerChar_eq_self (isPlain_of_isUnsigned number c mem).1).trans
    (List.map_id' s)

/-- Of the characters whose lower case is in a number, each is in the number itself. -/
theorem eq_of_map_lowerChar {n : Nat} (number : IsUnsigned (s.map lowerChar) n) :
    s.map lowerChar = s := by
  refine (List.map_congr_left fun c mem => ?_).trans (List.map_id' s)
  obtain ⟨plain, noCross⟩ := isPlain_of_isUnsigned number _ (List.mem_map_of_mem mem)
  exact (lowerChar_of_isPlain plain).resolve_right fun upper => noCross upper.2

theorem map_lowerChar_of_isCross (crosses : ∀ c ∈ s, IsCross c) :
    s.map lowerChar = List.replicate s.length 'x' :=
  List.map_eq_replicate_iff.mpr fun c mem => lowerChar_of_isCross (crosses c mem)

/-! ### What is read -/

/-- A text is an ad size exactly if its two parts are numbers. -/
theorem isSpelled_iff : IsSpelled text.toList size ↔
    ∃ width height, parts text = [width, height] ∧ IsUnsigned width size.width.toNat ∧
      IsUnsigned height size.height.toNat := by
  constructor
  · rintro ⟨width, cross, height, crosses, spelled, isCross, areCrosses, first, second⟩
    have plain : ∀ c ∈ text.toList, IsPlain c ∨ c = 'X' := by
      have crossed : ∀ c, IsCross c → IsPlain c ∨ c = 'X' := fun c => Or.imp_left .inl
      rw [spelled, List.forall_mem_append, List.forall_mem_cons, List.forall_mem_append]
      exact ⟨fun c mem => .inl (isPlain_of_isUnsigned first c mem).1, crossed cross isCross,
        fun c mem => .inl (isPlain_of_isUnsigned second c mem).1,
        fun c mem => crossed c (areCrosses c mem)⟩
    have lower : lowercase text.toList =
        width ++ 'x' :: (height ++ List.replicate crosses.length 'x') := by
      rw [lowercase_eq_map plain, spelled, List.map_append, List.map_cons, List.map_append,
        map_lowerChar_of_isUnsigned first, map_lowerChar_of_isUnsigned second,
        lowerChar_of_isCross isCross, map_lowerChar_of_isCross areCrosses]
    refine ⟨width, height, parts_of_lowercase ?_ ?_ (ne_nil_of_isUnsigned second) lower, first,
      second⟩
    · exact fun mem => (isPlain_of_isUnsigned first 'x' mem).2 rfl
    · exact fun mem => (isPlain_of_isUnsigned second 'x' mem).2 rfl
  · rintro ⟨width, height, cut, first, second⟩
    obtain ⟨k, lower⟩ := lowercase_of_parts cut
    have plain : ∀ c ∈ lowercase text.toList, IsPlain c := by
      rw [lower, List.forall_mem_append, List.forall_mem_cons, List.forall_mem_append]
      exact ⟨fun c mem => (isPlain_of_isUnsigned first c mem).1, .inl rfl,
        fun c mem => (isPlain_of_isUnsigned second c mem).1,
        fun c mem => .inl (List.eq_of_mem_replicate mem)⟩
    rw [lowercase_eq_map (isPlain_of_lowerAfter plain)] at lower
    obtain ⟨front, back, spelled, rfl, rest⟩ := List.map_eq_append_iff.mp lower
    obtain ⟨cross, back, rfl, isCross, rest⟩ := List.map_eq_cons_iff.mp rest
    obtain ⟨middle, crosses, rfl, rfl, areCrosses⟩ := List.map_eq_append_iff.mp rest
    rw [eq_of_map_lowerChar first] at first
    rw [eq_of_map_lowerChar second] at second
    refine ⟨front, cross, middle, crosses, spelled, isCross_of_lowerChar isCross, ?_, first, second⟩
    intro c mem
    have mapped := List.mem_map_of_mem (f := lowerChar) mem
    rw [areCrosses] at mapped
    exact isCross_of_lowerChar (List.eq_of_mem_replicate mapped)

theorem ofText_of_parts (cut : parts text = [width, height]) :
    ofText text = match pixels? width, pixels? height with
      | none, _ => .error (.invalidWidth (String.ofList width))
      | some _, none => .error (.invalidHeight (String.ofList height))
      | some w, some h => .ok ⟨w, h⟩ := by
  have same : dropEmptyEnd (segments 'x' (lowercase text.toList)) = [width, height] := by
    rw [segments_eq_splitOn]
    exact cut
  unfold ofText
  split
  · rename_i found
    obtain ⟨rfl, rfl⟩ : width = _ ∧ height = _ := by simpa using same.symm.trans found
    rfl
  · rename_i other
    exact absurd same (other _ _)

theorem ofText_of_other_parts (other : (parts text).length ≠ 2) :
    ofText text = .error (.invalidAdSize text) := by
  have same : dropEmptyEnd (segments 'x' (lowercase text.toList)) = parts text := by
    rw [segments_eq_splitOn]
    rfl
  rw [ofText, same]
  split
  · rename_i cut
    exact absurd (by rw [cut]; rfl) other
  · rfl

theorem ofText_eq_ok_iff : ofText text = .ok size ↔ IsSpelled text.toList size := by
  rw [isSpelled_iff]
  constructor
  · intro read
    by_cases two : (parts text).length = 2
    · obtain ⟨width, height, cut⟩ := List.length_eq_two.mp two
      rw [ofText_of_parts cut] at read
      split at read
      · contradiction
      · contradiction
      · rename_i first second
        obtain rfl := Except.ok.inj read
        exact ⟨width, height, cut, pixels?_eq_some_iff.mp first, pixels?_eq_some_iff.mp second⟩
    · rw [ofText_of_other_parts two] at read
      contradiction
  · rintro ⟨width, height, cut, first, second⟩
    rw [ofText_of_parts cut, pixels?_eq_some_iff.mpr first, pixels?_eq_some_iff.mpr second]

theorem isRefusal_of_ofText {e : ParamsError} (refused : ofText text = .error e) :
    IsRefusal text e := by
  by_cases two : (parts text).length = 2
  · obtain ⟨width, height, cut⟩ := List.length_eq_two.mp two
    rw [ofText_of_parts cut] at refused
    split at refused
    · rename_i first
      obtain rfl := Except.error.inj refused
      exact .width cut (pixels?_eq_none_iff.mp first)
    · rename_i n first _
      obtain rfl := Except.error.inj refused
      exact .height cut (pixels?_eq_some_iff.mp first)
    · contradiction
  · rw [ofText_of_other_parts two] at refused
    obtain rfl := Except.error.inj refused
    exact .count two

theorem ofText_eq_error_iff {e : ParamsError} : ofText text = .error e ↔
    (¬∃ size, IsSpelled text.toList size) ∧ IsRefusal text e := by
  constructor
  · intro refused
    refine ⟨?_, isRefusal_of_ofText refused⟩
    rintro ⟨size, spelled⟩
    rw [ofText_eq_ok_iff.mpr spelled] at refused
    contradiction
  · rintro ⟨noSize, refusal⟩
    cases refusal with
    | count other => exact ofText_of_other_parts other
    | width cut other => rw [ofText_of_parts cut, pixels?_eq_none_iff.mpr other]
    | @height width height w cut read =>
        have other : pixels? height = none := by
          refine pixels?_eq_none_iff.mpr fun h second => noSize ⟨⟨w, h⟩, ?_⟩
          exact isSpelled_iff.mpr ⟨width, height, cut, read, second⟩
        rw [ofText_of_parts cut, pixels?_eq_some_iff.mpr read, other]

/-- A text is read as the size that it spells.  One that spells none is refused for the number of
its parts, then for its width, then for its height. -/
theorem ofText_outcome (text : String) :
    (∀ size, ofText text = .ok size ↔ IsSpelled text.toList size) ∧
      ∀ e, ofText text = .error e ↔ (¬∃ size, IsSpelled text.toList size) ∧ IsRefusal text e :=
  ⟨fun _ => ofText_eq_ok_iff, fun _ => ofText_eq_error_iff⟩

example : ofText "+007X0012xX" = .ok ⟨7, 12⟩ := by
  decide +kernel

end AdSize

end HeaderBidding
