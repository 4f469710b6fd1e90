import HeaderBidding.Proofs.MessageBytes
import HeaderBidding.Proofs.PartnerExchange

/-!
# Addresses with a long query

An address whose query is a run of one letter is read as it is written, and it can be posted to
exactly if the run is not too long.
-/

namespace HeaderBidding

namespace Url

variable {s : List Char}

/-- An address at a port of this machine whose query is a run of letters. -/
def queryAddress (length : Nat) : String :=
  "http://127.0.0.1:9001/bid?" ++ String.ofList (List.replicate length 'a')

/-- What this address is read as. -/
def queryUrl (length : Nat) : Url where
  scheme := "http".toList
  host := some (.ipv4 0x7F000001)
  port := some 9001
  path := "/bid".toList
  query := some (List.replicate length 'a')

/-! ## Reading -/

theorem stripped_eq_self (solid : ∀ c ∈ s, isOutside c = false)
    (unbroken : ∀ c ∈ s, isBreak c = false) : stripped s = s := by
  have trimmed : Text.trimWhile isOutside s = s :=
    Text.trimWhile_of_ends (fun c mem => solid c (List.mem_of_head? mem))
      fun c mem => solid c (List.mem_of_getLast? mem)
  rw [stripped, trimmed, List.filter_eq_self]
  exact fun c mem => by rw [unbroken c mem, Bool.not_false]

theorem toList_queryAddress (n : Nat) :
    (queryAddress n).toList = "http://127.0.0.1:9001/bid?".toList ++ List.replicate n 'a' :=
  String.toList_append.trans (congrArg _ String.toList_ofList)

theorem stripped_queryAddress (n : Nat) :
    stripped (queryAddress n).toList = (queryAddress n).toList := by
  rw [toList_queryAddress]
  apply stripped_eq_self
  · rw [List.forall_mem_append]
    exact ⟨by simp [isOutside], fun c mem => by rw [List.eq_of_mem_replicate mem]; decide⟩
  · rw [List.forall_mem_append]
    exact ⟨by simp [isBreak], fun c mem => by rw [List.eq_of_mem_replicate mem]; decide⟩

theorem percentEncode_replicate (n : Nat) :
    percentEncode inSpecialQuery (List.replicate n 'a') = List.replicate n 'a' := by
  induction n with
  | zero => rfl
  | succ n ih =>
      rw [List.replicate_succ]
      exact congrArg ('a' :: ·) ih

theorem withTail_query (n : Nat) (url : Url) :
    withTail true ('?' :: List.replicate n 'a') url =
      { url with query := some (List.replicate n 'a') } := by
  have plain : ∀ c ∈ '?' :: List.replicate n 'a', (c != '#') = true := by
    refine List.forall_mem_cons.mpr ⟨rfl, fun c mem => ?_⟩
    rw [List.eq_of_mem_replicate mem]
    rfl
  simp only [withTail, List.takeWhile_eq_self_iff.mpr plain, List.dropWhile_eq_nil_iff.mpr plain,
    percentEncode_replicate, ↓reduceIte]

theorem parse_queryAddress (n : Nat) : parse (queryAddress n) = .ok (queryUrl n) := by
  have scheme : splitScheme? ("http://127.0.0.1:9001/bid?".toList ++ List.replicate n 'a') =
      some ("http".toList, "//127.0.0.1:9001/bid?".toList ++ List.replicate n 'a') := by
    rfl
  have kind : SchemeKind.ofScheme "http".toList = .network 80 := by decide
  have slashes : ("//127.0.0.1:9001/bid?".toList ++ List.replicate n 'a').dropWhile
      (fun c => c == '/' || c == '\\') =
        "127.0.0.1:9001/bid?".toList ++ List.replicate n 'a' := by
    rfl
  have user : splitUser true ("127.0.0.1:9001/bid?".toList ++ List.replicate n 'a') =
      (none, "127.0.0.1:9001/bid?".toList ++ List.replicate n 'a') := by
    rfl
  have split : splitHost true false ("127.0.0.1:9001/bid?".toList ++ List.replicate n 'a') =
      ("127.0.0.1".toList, ':' :: ("9001/bid?".toList ++ List.replicate n 'a')) := by
    rfl
  have host : hostOf (.network 80) "127.0.0.1".toList = .ok (.ipv4 0x7F000001) := by
    decide +kernel
  have port : readPort none ("9001/bid?".toList ++ List.replicate n 'a') =
      .ok (some 9001, "/bid?".toList ++ List.replicate n 'a') := by
    rfl
  have path (url : Url) :
      withPath (.network 80) ("/bid?".toList ++ List.replicate n 'a') url =
        { url with path := "/bid".toList, query := some (List.replicate n 'a') } := by
    change withTail true ('?' :: List.replicate n 'a') _ = _
    rw [withTail_query]
    rfl
  rw [parse, stripped_queryAddress, toList_queryAddress, scheme]
  simp only [kind]
  rw [slashes]
  simp only [parseAuthority, SchemeKind.isSpecial, user, split, Option.getD_none, reduceCtorEq,
    false_and, ↓reduceIte, host]
  rw [if_neg fun empty => (Host.hasVisibleText_ipv4 _).nonempty empty.1]
  simp only [port, path]
  rfl

end Url

/-! ## Posting -/

namespace Posting

open Url (queryUrl)
open Text.Utf8 (encode encode_append)

theorem bareUrl_queryUrl (n : Nat) : bareUrl (queryUrl n) = queryUrl n := by
  rfl

theorem length_encode_replicate (n : Nat) : (encode (List.replicate n 'a')).length = n := by
  induction n with
  | zero => rfl
  | succ n ih =>
      rw [List.replicate_succ]
      exact congrArg (· + 1) ih

theorem length_text_queryUrl (n : Nat) : (encode (queryUrl n).text.toList).length = 26 + n := by
  have place : (Host.ipv4 0x7F000001).text ++ ':' :: Decimal.natural 9001 =
      "127.0.0.1:9001".toList := by
    decide +kernel
  have authority : (queryUrl n).authorityText = "//127.0.0.1:9001".toList :=
    congrArg ("//".toList ++ ·) place
  have tail : (queryUrl n).tailText = '?' :: List.replicate n 'a' := List.append_nil _
  have text : (queryUrl n).text.toList =
      "http://127.0.0.1:9001/bid?".toList ++ List.replicate n 'a' := by
    rw [Url.text, String.toList_ofList, tail, authority]
    rfl
  rw [text, encode_append, List.length_append, length_encode_replicate]
  rfl

/-- The address can be posted to exactly if it is not too long. -/
theorem isUsable_queryUrl (n : Nat) : isUsable (queryUrl n) = decide (26 + n ≤ addressLimit) := by
  have plain : (Host.ipv4 0x7F000001).text.all isHostChar = true := by decide +kernel
  have host : (queryUrl n).hostText.all isHostChar = true := plain
  rw [isUsable, length_text_queryUrl, host]
  rfl

/-- A request of the adapter to an address that is too long is not posted. -/
theorem ofRequest_queryAddress {request : OutboundRequest} {n : Nat}
    (uri : request.uri = Url.queryAddress n) (headers : request.headers = requestHeaders)
    (long : addressLimit < 26 + n) : ofRequest request = .error (unusable (queryUrl n)) := by
  have parsed : Url.parse request.uri = .ok (queryUrl n) := by
    rw [uri, Url.parse_queryAddress]
  have unfit : isUsable (bareUrl (queryUrl n)) = false := by
    rw [bareUrl_queryUrl, isUsable_queryUrl]
    exact decide_eq_false (Nat.not_le_of_lt long)
  have refused := ofRequest_of_not_isUsable parsed rfl headers unfit
  rwa [bareUrl_queryUrl] at refused

end Posting

end HeaderBidding
