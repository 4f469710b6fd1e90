import HeaderBidding.Proofs.Digits
import HeaderBidding.Proofs.Targets

/-!
# Texts of hosts

The host of a web address has a text, and there is nothing in it but characters of ASCII that can
be seen: what is beyond ASCII in a name is written in Punycode, and the rest may not stand there.
-/

namespace HeaderBidding

open Wire (isVisible isVisible_iff isVisible_of_isDigit)
open Url (forall_mem_join)

namespace Decimal

theorem isVisible_of_mem_natural (n : Nat) : ∀ c ∈ natural n, isVisible c = true :=
  fun c mem => isVisible_of_isDigit (isDigit_of_mem_natural n c mem)

theorem isVisible_hexDigit {n : Nat} (small : n < 16) : isVisible (hexDigit n) = true := by
  have digits : ∀ n < 16, isVisible (hexDigit n) = true := by decide +kernel
  exact digits n small

theorem isVisible_of_mem_hexadecimal (n : Nat) : ∀ c ∈ hexadecimal n, isVisible c = true := by
  fun_induction hexadecimal n with
  | case1 n small => exact List.forall_mem_singleton.mpr (isVisible_hexDigit small)
  | case2 n _ ih =>
      exact List.forall_mem_append.mpr
        ⟨ih, List.forall_mem_singleton.mpr (isVisible_hexDigit (Nat.mod_lt n (by decide)))⟩

end Decimal

namespace Host

/-! ## Punycode -/

namespace Punycode

theorem isVisible_digit {n : Nat} (small : n < 36) : isVisible (digit n) = true := by
  have digits : ∀ n < 36, isVisible (digit n) = true := by decide +kernel
  exact digits n small

theorem isVisible_of_mem_stepDigits (bias place step : Nat) :
    ∀ c ∈ stepDigits bias place step, isVisible c = true := by
  fun_induction stepDigits bias place step with
  | case1 place step t small =>
      have := threshold_le place bias
      exact List.forall_mem_singleton.mpr (isVisible_digit (by omega))
  | case2 place step t large ih =>
      have := threshold_le place bias
      have := Nat.mod_lt (step - t) (y := 36 - t) (by omega)
      exact List.forall_mem_cons.mpr ⟨isVisible_digit (by omega), ih⟩

/-- All digits that have been written can be seen. -/
def Written.IsVisible (state : Written) : Prop :=
  ∀ c ∈ state.digits, isVisible c = true

variable {state : Written}

theorem isVisible_writePast (code first : Nat) (visible : state.IsVisible) (c : Char) :
    (writePast code first state c).IsVisible := by
  rw [writePast]
  split
  · exact visible
  · split
    · refine List.forall_mem_append.mpr ⟨fun c mem => ?_, visible⟩
      exact isVisible_of_mem_stepDigits _ _ _ c (List.mem_reverse.mp mem)
    · exact visible

theorem isVisible_writeAll (code first : Nat) (label : List Char) (visible : state.IsVisible) :
    (label.foldl (writePast code first) state).IsVisible := by
  induction label generalizing state with
  | nil => exact visible
  | cons c label ih => exact ih (isVisible_writePast code first visible c)

theorem isVisible_writeCodes (label : List Char) (first : Nat) (codes : List Nat) (last : Nat)
    (visible : state.IsVisible) : (writeCodes label first codes last state).IsVisible := by
  induction codes generalizing last state with
  | nil => exact visible
  | cons code codes ih => exact ih _ (isVisible_writeAll code first label visible)

/-- A label in Punycode can be seen if its own characters of ASCII can. -/
theorem isVisible_of_mem_encode {label : List Char}
    (ascii : ∀ c ∈ label, c.toNat < 128 → isVisible c = true) :
    ∀ c ∈ encode label, isVisible c = true := by
  simp only [encode, List.forall_mem_append]
  refine ⟨⟨fun c mem => ?_, ?_⟩, fun c mem => ?_⟩
  · obtain ⟨mem, small⟩ := List.mem_filter.mp mem
    exact ascii c mem (by simpa using small)
  · split
    · simp
    · exact List.forall_mem_singleton.mpr rfl
  · exact isVisible_writeCodes label _ _ _ (by simp [Written.IsVisible]) c (List.mem_reverse.mp mem)

end Punycode

/-! ## Names -/

theorem isVisible_of_not_isForbidden {c : Char} (allowed : isForbidden c = false)
    (ascii : c.toNat < 128) : isVisible c = true := by
  simp only [isForbidden, Bool.or_eq_false_iff, decide_eq_false_iff_not, beq_eq_false_iff_ne]
    at allowed
  rw [isVisible_iff]
  omega

theorem isVisible_of_mem_encodeLabel {label s : List Char} (sound : labelSound label = true)
    (encoded : encodeLabel? label = some s) : ∀ c ∈ s, isVisible c = true := by
  have allowed : ∀ c ∈ label, c.toNat < 128 → isVisible c = true := by
    intro c mem ascii
    simp only [labelSound, Bool.and_eq_true, Bool.not_eq_true', List.any_eq_false] at sound
    exact isVisible_of_not_isForbidden (Bool.eq_false_iff.mpr (sound.1.1 c mem)) ascii
  rw [encodeLabel?] at encoded
  split_ifs at encoded with ascii
  · obtain rfl := Option.some.inj encoded
    exact fun c mem => allowed c mem (by simpa using List.all_eq_true.mp ascii c mem)
  · obtain rfl := Option.some.inj encoded
    exact List.forall_mem_append.mpr
      ⟨by simp [asciiMark, isVisible], Punycode.isVisible_of_mem_encode allowed⟩

theorem exists_of_mem_mapM {α β : Type} {f : α → Option β} {as : List α} {bs : List β}
    (mapped : as.mapM f = some bs) : ∀ b ∈ bs, ∃ a ∈ as, f a = some b := by
  induction as generalizing bs with
  | nil =>
      obtain rfl := Option.some.inj mapped
      simp
  | cons a as ih =>
      simp only [List.mapM_cons, Option.bind_eq_bind, Option.pure_def, Option.bind_eq_some_iff,
        Option.some.injEq] at mapped
      obtain ⟨b, first, bs, others, rfl⟩ := mapped
      refine List.forall_mem_cons.mpr ⟨⟨a, List.mem_cons_self, first⟩, fun b mem => ?_⟩
      obtain ⟨a, mem, same⟩ := ih others b mem
      exact ⟨a, List.mem_cons_of_mem _ mem, same⟩

theorem isVisible_of_mem_domainToAscii {s name : List Char}
    (made : domainToAscii? s = some name) : ∀ c ∈ name, isVisible c = true := by
  rw [domainToAscii?] at made
  split at made
  · contradiction
  · split at made
    · contradiction
    · split_ifs at made with sound
      obtain ⟨parts, encoded, rfl⟩ := Option.map_eq_some_iff.mp made
      refine forall_mem_join rfl fun part mem => ?_
      obtain ⟨label, mem, encoded⟩ := exists_of_mem_mapM encoded part mem
      have all := (Bool.and_eq_true_iff.mp sound).1
      exact isVisible_of_mem_encodeLabel (List.all_eq_true.mp all label mem) encoded

/-! ## Hosts -/

theorem isVisible_of_mem_ipv4Text (address : UInt32) :
    ∀ c ∈ ipv4Text address, isVisible c = true := by
  refine forall_mem_join rfl (List.forall_mem_map.mpr fun n _ => ?_)
  exact Decimal.isVisible_of_mem_natural n

theorem isVisible_of_mem_piecesText (pieces : List Nat) :
    ∀ c ∈ piecesText pieces, isVisible c = true := by
  refine forall_mem_join rfl (List.forall_mem_map.mpr fun n _ => ?_)
  exact Decimal.isVisible_of_mem_hexadecimal n

theorem isVisible_of_mem_ipv6Text (pieces : List Nat) :
    ∀ c ∈ ipv6Text pieces, isVisible c = true := by
  rw [ipv6Text]
  split
  · exact isVisible_of_mem_piecesText pieces
  · simp only [List.forall_mem_append]
    exact ⟨⟨isVisible_of_mem_piecesText _, by simp [isVisible]⟩, isVisible_of_mem_piecesText _⟩

/-- The host of a web address has a text, and it can be seen. -/
structure HasVisibleText (host : Host) : Prop where
  nonempty : host.text ≠ []
  visible : ∀ c ∈ host.text, isVisible c = true

theorem hasVisibleText_ipv4 (address : UInt32) : (ipv4 address).HasVisibleText where
  nonempty := by simp [text, ipv4Text, Text.join]
  visible := isVisible_of_mem_ipv4Text address

theorem hasVisibleText_ipv6 (pieces : List Nat) : (ipv6 pieces).HasVisibleText where
  nonempty := by simp [text]
  visible := by
    simp only [text, List.cons_append, List.forall_mem_cons, List.forall_mem_append]
    exact ⟨rfl, isVisible_of_mem_ipv6Text pieces, by simp [isVisible]⟩

theorem hasVisibleText_of_ofBracket {s : List Char} {host : Host} (made : ofBracket s = .ok host) :
    host.HasVisibleText := by
  rw [ofBracket] at made
  split at made
  · split at made
    · obtain rfl := Except.ok.inj made
      exact hasVisibleText_ipv6 _
    · contradiction
  · contradiction

theorem hasVisibleText_of_ofText {s : List Char} {host : Host} (made : ofText s = .ok host) :
    host.HasVisibleText := by
  rw [ofText.eq_def] at made
  split at made
  · exact hasVisibleText_of_ofBracket made
  · split at made
    · contradiction
    · contradiction
    · rename_i name other given
      obtain ⟨decoded, -, made'⟩ := Option.bind_eq_some_iff.mp given
      split_ifs at made
      · split at made
        · obtain rfl := Except.ok.inj made
          exact hasVisibleText_ipv4 _
        · contradiction
      · obtain rfl := Except.ok.inj made
        exact ⟨other, isVisible_of_mem_domainToAscii made'⟩

end Host

namespace Url

variable {url : Url} {text : String}

/-- An address that is posted to has a host with a text that can be seen. -/
theorem exists_host_of_parse (read : parse text = .ok url) (scheme : url.scheme = "http".toList) :
    ∃ host, url.host = some host ∧ host.HasVisibleText := by
  obtain ⟨port, rest, base, name, host, rfl, -, hasHost, made⟩ :=
    exists_withPath_of_parse read scheme
  rw [host_withPath]
  exact ⟨host, hasHost, Host.hasVisibleText_of_ofText made⟩

theorem hasHost_of_parse (read : parse text = .ok url) (scheme : url.scheme = "http".toList) :
    url.hasHost = true := by
  obtain ⟨host, hasHost, visible⟩ := exists_host_of_parse read scheme
  rw [Url.hasHost, hostText, hasHost]
  simpa using visible.nonempty

/-- Host and port of an address that is posted to can be seen. -/
theorem isVisible_of_mem_place (read : parse text = .ok url)
    (scheme : url.scheme = "http".toList) :
    ∀ c ∈ url.hostText ++ url.portText, isVisible c = true := by
  obtain ⟨host, hasHost, visible⟩ := exists_host_of_parse read scheme
  rw [hostText, hasHost, portText]
  refine List.forall_mem_append.mpr ⟨visible.visible, ?_⟩
  cases url.port with
  | none => simp
  | some port => exact List.forall_mem_cons.mpr ⟨rfl, Decimal.isVisible_of_mem_natural port⟩

end Url

end HeaderBidding
