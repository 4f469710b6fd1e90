import HeaderBidding.Proofs.FiniteDoubles
import HeaderBidding.Proofs.Messages
import HeaderBidding.Proofs.SortedDocuments
import HeaderBidding.Proofs.Trace

/-!
# The text of a bid response

A bid response can be spelled in many ways, of which one is written.  Whatever text a response was
read from, it is read again from the text that is written for it.
-/

namespace HeaderBidding.OpenRtb

open Json

/-- A response comes back as it was if its prices do. -/
theorem stable_bidResponse {response : BidResponse}
    (prices : ∀ bid ∈ response.bids, rereadReal bid.price = bid.price) :
    BidResponse.codec.Stable response := by
  simp only [BidResponse.bids, List.forall_mem_flatMap] at prices
  simpa [BidResponse.codec, SeatBid.codec, Bid.codec, Codec.Stable, Fields.Stable,
    Presence.required, Presence.optional, Presence.nonempty, Presence.defaulted, Codec.toJson]
    using prices

/-- A response whose prices can be read back is read again from its text. -/
theorem BidResponse.decode_encode {response : BidResponse}
    (prices : ∀ bid ∈ response.bids, ReadsBack bid.price) :
    codec.decode (codec.encode response) = .ok response := by
  have stable := stable_bidResponse fun bid mem => (prices bid mem).rereadReal
  rw [Codec.decode_encode lawful_bidResponse (by decide)
    (fits_bidResponse_iff.mpr fun bid mem => (prices bid mem).isFinite),
    Codec.reread_of_stable codec response stable]

/-- Whatever text a response was read from, the text that is written for it is read as the same
response, and written again as the same text. -/
theorem BidResponse.text_is_canonical {text : String} {response : BidResponse}
    (decoded : codec.decode text = .ok response)
    (prices : ∀ bid ∈ response.bids, bid.price.isFinite = true → ReadsBack bid.price) :
    codec.decode (codec.encode response) = .ok response ∧
      (codec.decode (codec.encode response)).map codec.encode = .ok (codec.encode response) := by
  have finite := fits_bidResponse_iff.mp
    (Codec.fits_of_decode Reader.real_gives_isFinite lawful_bidResponse decoded)
  have stable := stable_bidResponse fun bid mem => (prices bid mem (finite bid mem)).rereadReal
  have again := Codec.decode_encode_of_decode lawful_bidResponse (by decide) decoded stable
  rw [again]
  exact ⟨rfl, rfl⟩

/-- A response with a member that is not known, with members that are `null`, with an escape and
with a list in place of an object. -/
def sparseText : String :=
  "\x7b\"x\" : [\x7b\x7d], \"nbr\":null, \"seatbid\":" ++
    "[[[\x7b\"price\":15e-1,\"impid\":\"a\\u0062\",\"crid\":null\x7d],\"s\"]]\x7d"

/-- The text that is written for the same response. -/
def canonicalText : String :=
  "\x7b\"id\":\"\",\"seatbid\":[\x7b\"bid\":[\x7b\"id\":\"\",\"impid\":\"ab\",\"price\":1.5\x7d]," ++
    "\"seat\":\"s\"\x7d]\x7d"

theorem BidResponse.text_is_canonical_sparse :
    ∃ response, codec.decode sparseText = .ok response ∧
      codec.encode response = canonicalText ∧
      codec.decode (codec.encode response) = .ok response ∧
      (codec.decode (codec.encode response)).map codec.encode = .ok (codec.encode response) := by
  have checked : (codec.decode sparseText).toOption.any (fun response =>
      codec.encode response = canonicalText ∧
        ∀ bid ∈ response.bids, rereadReal bid.price = bid.price) = true := by
    decide +kernel
  obtain ⟨response, decoded, same⟩ := exists_eq_ok_of_any checked
  obtain ⟨written, same⟩ := of_decide_eq_true same
  exact ⟨response, decoded, written, text_is_canonical decoded fun bid mem finite =>
    readsBack_of_rereadReal finite (same bid mem)⟩

end HeaderBidding.OpenRtb
