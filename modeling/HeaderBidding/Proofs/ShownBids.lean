import HeaderBidding.CommandLine.Auction
import HeaderBidding.Proofs.Decoding

/-!
# Bids as they are shown

The program shows a list of bids over several lines.  What it shows is read again as the same list,
up to the prices, which are read as their digits say.
-/

namespace HeaderBidding

open Json

/-- The bid as it is read where it is shown. -/
def Bid.asShown (bid : Bid) : Bid :=
  { bid with price := rereadReal bid.price }

theorem Bid.asShown_of_readsBack {bid : Bid} (back : rereadReal bid.price = bid.price) :
    bid.asShown = bid := by
  rw [asShown, back]

theorem lawful_bid : Bid.codec.Lawful := by
  simp [Bid.codec, MediaType.codec, Codec.Lawful, Fields.Lawful, Fields.names, Presence.required,
    Presence.nullable, Codec.Fits]

theorem fits_bid_iff {good : Float → Prop} {depth : Nat} {bid : Bid} :
    Bid.codec.Fits good depth bid ↔ good bid.price := by
  simp [Bid.codec, MediaType.codec, Codec.Fits, Fields.Fits]

/-- Of a bid without targeting, the price alone is read differently. -/
theorem reread_bid_of_untargeted {bid : Bid} (untargeted : bid.targeting = none) :
    Bid.codec.reread bid = bid.asShown := by
  simp [Bid.codec, MediaType.codec, Bid.asShown, Codec.reread, Fields.reread, Presence.required,
    Presence.nullable, Codec.toJson, untargeted]

namespace CommandLine

/-- Bids are shown as a list of them. -/
theorem decode_shown {bids : List Bid} (finite : ∀ bid ∈ bids, bid.price.isFinite = true)
    (untargeted : ∀ bid ∈ bids, bid.targeting = none) :
    (Codec.list Bid.codec).decode (shown Bid.codec bids) = .ok (bids.map Bid.asShown) := by
  have lines : (shown Bid.codec bids).toList =
      Space.none.chars ++ (((Codec.list Bid.codec).toJson bids).write .lines 0 ++
        (Space.newLine 0).chars) :=
    String.toList_append.trans (congrArg (· ++ ['\n']) String.toList_ofList)
  have fits : (Codec.list Bid.codec).Fits (·.isFinite) Codec.depthLimit bids :=
    fun bid mem => fits_bid_iff.mpr (finite bid mem)
  have lawful : (Codec.list Bid.codec).Lawful := lawful_bid
  rw [Codec.decode_of_written lawful (by decide) fits lines]
  exact congrArg _ (List.map_congr_left fun bid mem =>
    reread_bid_of_untargeted (untargeted bid mem))

end CommandLine

end HeaderBidding
