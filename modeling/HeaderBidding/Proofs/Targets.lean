import HeaderBidding.Url.Parser
import Mathlib.Data.List.Basic
import Mathlib.Tactic.SplitIfs

/-!
# Targets of addresses

What is asked for at a host is the path of the address with its query.  Both are encoded when the
address is read, so that there is nothing in a target but characters of ASCII that can be seen.
-/

namespace HeaderBidding

/-! ## Visible characters -/

namespace Wire

/-- Whether a character is one of ASCII that can be seen. -/
def isVisible (c : Char) : Bool :=
  33 ≤ c.toNat && c.toNat ≤ 126

theorem isVisible_iff {c : Char} : isVisible c = true ↔ 33 ≤ c.toNat ∧ c.toNat ≤ 126 := by
  simp [isVisible]

theorem isVisible_of_isDigit {c : Char} (digit : c.isDigit = true) : isVisible c = true := by
  simp only [Char.isDigit, Bool.and_eq_true, decide_eq_true_eq] at digit
  rw [isVisible_iff]
  have low : 48 ≤ c.toNat := digit.1
  have high : c.toNat ≤ 57 := digit.2
  omega

theorem ne_of_isVisible {c d : Char} (visible : isVisible c = true)
    (hidden : isVisible d = false) : c ≠ d := by
  rintro rfl
  rw [visible] at hidden
  contradiction

end Wire

namespace Url

open Wire (isVisible isVisible_iff)

variable {url : Url} {s : List Char}

theorem isVisible_upperDigit {n : Nat} (small : n < 16) : isVisible (upperDigit n) = true := by
  have digits : ∀ n < 16, isVisible (upperDigit n) = true := by decide +kernel
  exact digits n small

theorem isVisible_of_mem_percentByte {b : UInt8} :
    ∀ c ∈ percentByte b, isVisible c = true := by
  have bound := b.toNat_lt
  simp only [percentByte, List.forall_mem_cons, List.not_mem_nil, false_implies, implies_true,
    and_true]
  exact ⟨rfl, isVisible_upperDigit (by omega), isVisible_upperDigit (by omega)⟩

/-- Where all that cannot be seen is encoded, all can be seen. -/
theorem isVisible_of_mem_percentEncode {escaped : Char → Bool}
    (hidden : ∀ c, c.toNat < 128 → escaped c = false → isVisible c = true) :
    ∀ c ∈ percentEncode escaped s, isVisible c = true := by
  intro c mem
  obtain ⟨d, -, mem⟩ := List.mem_flatMap.mp mem
  split_ifs at mem with encoded
  · obtain ⟨b, -, mem⟩ := List.mem_flatMap.mp mem
    exact isVisible_of_mem_percentByte c mem
  · obtain rfl := List.mem_singleton.mp mem
    obtain ⟨ascii, plain⟩ := Bool.or_eq_false_iff.mp (Bool.eq_false_iff.mpr encoded)
    exact hidden c (by simpa using ascii) plain

theorem isVisible_of_not_control {c : Char} (ascii : c.toNat < 128) (plain : isControl c = false)
    (noSpace : c ≠ ' ') : isVisible c = true := by
  have space : c.toNat ≠ 32 := fun same => noSpace (Char.toNat_inj.mp same)
  simp only [isControl, Bool.or_eq_false_iff, decide_eq_false_iff_not, beq_eq_false_iff_ne] at plain
  rw [isVisible_iff]
  omega

theorem isVisible_of_not_inPath {c : Char} (ascii : c.toNat < 128) (plain : inPath c = false) :
    isVisible c = true := by
  simp only [inPath, inFragment, Bool.or_eq_false_iff] at plain
  refine isVisible_of_not_control ascii plain.1.1 ?_
  rintro rfl
  exact absurd plain.1.2 (by decide)

theorem isVisible_of_not_inSpecialQuery {c : Char} (ascii : c.toNat < 128)
    (plain : inSpecialQuery c = false) : isVisible c = true := by
  simp only [inSpecialQuery, inQuery, Bool.or_eq_false_iff] at plain
  refine isVisible_of_not_control ascii plain.1.1 ?_
  rintro rfl
  exact absurd plain.1.2 (by decide)

/-! ### Paths -/

theorem forall_mem_join {p : Char → Prop} {separator : Char} {parts : List (List Char)}
    (outer : p separator) (inner : ∀ part ∈ parts, ∀ c ∈ part, p c) :
    ∀ c ∈ Text.join separator parts, p c := by
  fun_induction Text.join separator parts with
  | case1 => simp
  | case2 part => exact inner part List.mem_cons_self
  | case3 part parts _ ih =>
      obtain ⟨first, others⟩ := List.forall_mem_cons.mp inner
      simpa only [List.forall_mem_append, List.forall_mem_cons] using ⟨first, outer, ih others⟩

theorem takeBack_subset (before : List (List Char)) : takeBack false before ⊆ before := by
  rcases before with _ | ⟨segment, _ | ⟨other, rest⟩⟩
  · exact List.Subset.refl _
  · exact List.nil_subset _
  · exact List.subset_cons_self _ _

/-- The segments of a path that is resolved are its own, or empty. -/
theorem forall_mem_resolveDots {p : List Char → Prop} {before segments : List (List Char)}
    (empty : p []) (resolved : ∀ segment ∈ before, p segment)
    (given : ∀ segment ∈ segments, p segment) :
    ∀ segment ∈ resolveDots false before segments, p segment := by
  induction segments generalizing before with
  | nil => simpa [resolveDots] using resolved
  | cons segment segments ih =>
      obtain ⟨first, given⟩ := List.forall_mem_cons.mp given
      have taken : ∀ segment ∈ takeBack false before, p segment :=
        fun segment mem => resolved segment (takeBack_subset before mem)
      have ended {kept : List (List Char)} (holds : ∀ segment ∈ kept, p segment) :
          ∀ segment ∈ if segments = [] then [] :: kept else kept, p segment := by
        split
        · exact List.forall_mem_cons.mpr ⟨empty, holds⟩
        · exact holds
      rw [resolveDots]
      by_cases double : isDoubleDot segment = true
      · rw [if_pos double]
        exact ih (ended taken) given
      rw [if_neg double]
      by_cases single : isSingleDot segment = true
      · rw [if_pos single]
        exact ih (ended resolved) given
      · rw [if_neg single, Bool.false_and, Bool.false_and, if_neg Bool.false_ne_true]
        exact ih (List.forall_mem_cons.mpr ⟨first, resolved⟩) given

theorem isVisible_of_mem_pathText : ∀ c ∈ pathText true false s, isVisible c = true := by
  have encoded : ∀ segment ∈ resolveDots false []
      ((Text.segments '/' (s.map fun c => if c = '\\' then '/' else c)).map
        (percentEncode inPath)), ∀ c ∈ segment, isVisible c = true := by
    refine forall_mem_resolveDots (by simp) (by simp) (List.forall_mem_map.mpr fun segment _ => ?_)
    exact isVisible_of_mem_percentEncode fun c => isVisible_of_not_inPath
  exact List.forall_mem_cons.mpr ⟨rfl, forall_mem_join rfl encoded⟩

/-! ### Targets -/

/-- The address has a target that can be seen. -/
structure HasVisibleTarget (url : Url) : Prop where
  path : ∀ c ∈ url.path, isVisible c = true
  query : ∀ query, url.query = some query → ∀ c ∈ query, isVisible c = true

theorem HasVisibleTarget.target (visible : url.HasVisibleTarget) :
    ∀ c ∈ url.target.toList, isVisible c = true := by
  rw [Url.target, String.toList_ofList, List.forall_mem_append]
  refine ⟨visible.path, ?_⟩
  cases given : url.query with
  | none => simp
  | some query => exact List.forall_mem_cons.mpr ⟨rfl, visible.query query given⟩

theorem scheme_withTail (isSpecial : Bool) : (withTail isSpecial s url).scheme = url.scheme := by
  simp only [withTail]
  split <;> split <;> rfl

theorem host_withTail (isSpecial : Bool) : (withTail isSpecial s url).host = url.host := by
  simp only [withTail]
  split <;> split <;> rfl

theorem path_withTail (isSpecial : Bool) : (withTail isSpecial s url).path = url.path := by
  simp only [withTail]
  split <;> split <;> rfl

theorem query_withTail (s : List Char) (url : Url) : (withTail true s url).query = url.query ∨
    ∃ query, (withTail true s url).query = some (percentEncode inSpecialQuery query) := by
  simp only [withTail]
  split <;> split <;> first | exact .inl rfl | exact .inr ⟨_, rfl⟩

theorem hasVisibleTarget_withTail (path : ∀ c ∈ url.path, isVisible c = true)
    (fresh : url.query = none) : (withTail true s url).HasVisibleTarget where
  path := by rwa [path_withTail]
  query := by
    obtain same | ⟨query, same⟩ := query_withTail s url
    · simp [same, fresh]
    · rw [same]
      rintro query ⟨⟩
      exact isVisible_of_mem_percentEncode fun c => isVisible_of_not_inSpecialQuery

theorem scheme_withPath (kind : SchemeKind) : (withPath kind s url).scheme = url.scheme := by
  rw [withPath, scheme_withTail]

theorem host_withPath (kind : SchemeKind) : (withPath kind s url).host = url.host := by
  rw [withPath, host_withTail]

theorem hasVisibleTarget_withPath {port : Nat} (fresh : url.query = none) :
    (withPath (.network port) s url).HasVisibleTarget := by
  refine hasVisibleTarget_withTail ?_ fresh
  simp only [SchemeKind.isSpecial, Bool.true_eq_false, and_false, ↓reduceIte, reduceCtorEq,
    decide_false]
  exact isVisible_of_mem_pathText

/-- What follows the scheme of an address ends with a path, and begins with a host. -/
theorem exists_withPath_of_parseAuthority {kind : SchemeKind} {made : Url}
    (read : parseAuthority kind s url = .ok made) :
    ∃ rest base text host, made = withPath kind rest base ∧ base.scheme = url.scheme ∧
      base.query = url.query ∧ base.host = some host ∧ hostOf kind text = .ok host := by
  simp only [parseAuthority] at read
  split_ifs at read
  split at read
  · contradiction
  · rename_i host given
    split_ifs at read
    split at read
    · split at read
      · contradiction
      · obtain rfl := Except.ok.inj read
        exact ⟨_, _, _, host, rfl, rfl, rfl, rfl, given⟩
    · obtain rfl := Except.ok.inj read
      exact ⟨_, _, _, host, rfl, rfl, rfl, rfl, given⟩

theorem scheme_of_parseFile {made : Url} (read : parseFile s url = .ok made) :
    made.scheme = url.scheme := by
  simp only [parseFile] at read
  repeat' split at read
  all_goals first
    | contradiction
    | (obtain rfl := Except.ok.inj read
       exact scheme_withPath _)

theorem ofText_of_hostOf {port : Nat} {host : Host} (made : hostOf (.network port) s = .ok host) :
    Host.ofText s = .ok host := by
  rw [hostOf] at made
  simp only [SchemeKind.isSpecial, ↓reduceIte] at made
  split_ifs at made
  cases given : Host.ofText s with
  | error fault =>
      rw [given] at made
      contradiction
  | ok host' =>
      rw [given] at made
      exact congrArg _ (Except.ok.inj made)

/-- An address that is posted to has a host and a path, each read by the rules of the web. -/
theorem exists_withPath_of_parse {text : String} (read : parse text = .ok url)
    (scheme : url.scheme = "http".toList) :
    ∃ port rest base name host, url = withPath (.network port) rest base ∧ base.query = none ∧
      base.host = some host ∧ Host.ofText name = .ok host := by
  have network : SchemeKind.ofScheme url.scheme = .network 80 := by
    rw [scheme]
    decide
  rw [parse] at read
  split at read
  · contradiction
  · rename_i given rest _
    cases kind : SchemeKind.ofScheme given with
    | network port =>
        simp only [kind] at read
        obtain ⟨rest, base, name, host, rfl, -, fresh, hasHost, made⟩ :=
          exists_withPath_of_parseAuthority read
        exact ⟨port, rest, base, name, host, rfl, fresh, hasHost, ofText_of_hostOf made⟩
    | file =>
        simp only [kind] at read
        rw [scheme_of_parseFile read, kind] at network
        contradiction
    | other =>
        simp only [kind] at read
        have same : url.scheme = given := by
          split at read
          · contradiction
          · contradiction
          · obtain ⟨rest, base, -, -, rfl, same, -⟩ := exists_withPath_of_parseAuthority read
            rw [scheme_withPath, same]
          · obtain rfl := Except.ok.inj read
            exact scheme_withPath _
          · obtain rfl := Except.ok.inj read
            exact scheme_withTail _
        rw [same, kind] at network
        contradiction

/-- The target of an address that is posted to can be seen. -/
theorem hasVisibleTarget_of_parse {text : String} (read : parse text = .ok url)
    (scheme : url.scheme = "http".toList) : url.HasVisibleTarget := by
  obtain ⟨port, rest, base, -, -, rfl, fresh, -⟩ := exists_withPath_of_parse read scheme
  exact hasVisibleTarget_withPath fresh

end Url

end HeaderBidding
