import HeaderBidding.MockPartner.Server
import HeaderBidding.Proofs.Signs

/-!
# What the mock partner bids

Whatever the mock partner leaves to chance, it bids once for every impression, in their order, with
the identifier, the tag and the size of the impression.  If the factors that are drawn are finite,
which they are if they come from random words, the price of an impression without a floor is finite.
-/

namespace HeaderBidding.MockPartner

open OpenRtb Rounding

variable {σ : Type} {chance : Chance σ} {imp : Imp} {imps : List Imp}

/-! ## Prices -/

theorem unsigned_unitReal (word : UInt64) : Unsigned (unitReal word).toModel.unpack := by
  have scale : Unsigned (4503599627370496.0 : Float).toModel.unpack := by rfl
  exact unsigned_float_div (unsigned_toFloat _) scale

/-- Whatever is drawn below a bound is finite, whichever words are taken. -/
theorem isFinite_drawScaled {low high : Float} (finite : low.isFinite = true)
    (unsigned : Unsigned low.toModel.unpack) {bits : Nat} (small : bits < 2 ^ 63) (words : Words) :
    (drawScaled low high bits words).1.isFinite = true := by
  induction bits generalizing words with
  | zero => exact finite
  | succ bits ih =>
      have scale : Unsigned (Float.ofBits (UInt64.ofNat (bits + 1))).toModel.unpack := by
        apply unsigned_ofBits
        rw [UInt64.toNat_ofNat']
        omega
      rw [drawScaled]
      simp only
      split
      · rename_i below
        exact isFinite_of_lt (unsigned_float_add
          (unsigned_float_mul (unsigned_unitReal _) scale) unsigned) below
      · exact ih (by omega) _

/-- Every factor that is drawn is finite, as those between the bounds are. -/
def Chance.DrawsFinite (chance : Chance σ) : Prop :=
  ∀ isVideo supply, (chance.draw 1.0 (factorLimit isVideo) supply).1.isFinite = true

theorem Chance.drawsFinite_ofWords (unique : Nat → String) :
    (Chance.ofWords unique).DrawsFinite := by
  refine fun isVideo words => isFinite_drawScaled (by rfl) (by rfl) ?_ words
  cases isVideo <;> decide +kernel

/-- The price of an impression without a floor is finite. -/
theorem isFinite_price (finite : chance.DrawsFinite) (noFloor : imp.bidfloor = none) (place : Nat)
    (supply : σ) : (bidFor chance place imp supply).1.price.isFinite = true := by
  change (imp.bidfloor.getD defaultFloor * (chance.draw _ _ supply).1).isFinite = true
  rw [noFloor]
  exact isFinite_half_mul (finite imp.video.isSome supply)

/-! ## Bids -/

/-- The size at which an impression is bid for. -/
def sizeOf (imp : Imp) : Option UInt32 × Option UInt32 :=
  match imp.video with
  | some video => (video.w, video.h)
  | none => (imp.banner.bind Banner.w, imp.banner.bind Banner.h)

/-- A bid for an impression, by the name, the tag and the size of the impression. -/
structure Answers (imp : Imp) (bid : OpenRtb.Bid) : Prop where
  impid : bid.impid = imp.id
  crid : bid.crid = some ("crid-" ++ imp.tagid.getD "0")
  size : (bid.w, bid.h) = sizeOf imp

theorem answers_bidFor (chance : Chance σ) (place : Nat) (imp : Imp) (supply : σ) :
    Answers imp (bidFor chance place imp supply).1 :=
  ⟨rfl, rfl, rfl⟩

/-- The bids answer the impressions one by one. -/
theorem forall₂_answers_bidsFor (chance : Chance σ) (place : Nat) (imps : List Imp) (supply : σ) :
    List.Forall₂ Answers imps (bidsFor chance place imps supply) := by
  induction imps generalizing place supply with
  | nil => exact .nil
  | cons imp imps ih => exact .cons (answers_bidFor chance place imp supply) (ih _ _)

theorem isFinite_price_of_mem {bid : OpenRtb.Bid} {place : Nat} {supply : σ}
    (finite : chance.DrawsFinite) (noFloor : ∀ imp ∈ imps, imp.bidfloor = none)
    (mem : bid ∈ bidsFor chance place imps supply) : bid.price.isFinite = true := by
  induction imps generalizing place supply with
  | nil => contradiction
  | cons imp imps ih =>
      obtain ⟨first, others⟩ := List.forall_mem_cons.mp noFloor
      rcases List.mem_cons.mp mem with rfl | mem
      · exact isFinite_price finite first place supply
      · exact ih others mem

/-- The mock partner answers every request for some impression, with its bids. -/
theorem ofResponse_respond {request : BidRequest} (some : request.imp ≠ []) (chance : Chance σ)
    (supply : σ) :
    (respond request chance supply).bids = bidsFor chance 0 request.imp supply ∧
      Answer.ofResponse (respond request chance supply) =
        { status := 200
          contentType := Option.some "application/json"
          body := Option.some (respond request chance supply) } := by
  obtain ⟨imp, imps, same⟩ := List.exists_cons_of_ne_nil some
  rw [respond, same]
  exact ⟨List.append_nil _, rfl⟩

/-- What makes the mock partner take a bid request. -/
theorem request_of_accepted {incoming : Incoming} {request : BidRequest}
    (path : isBidPath incoming.path = true) (method : incoming.method = "POST")
    (json : incoming.contentType.any ContentType.isJson = true)
    (small : byteCount incoming.body.toList ≤ bodyLimit)
    (read : BidRequest.codec.decode incoming.body = .ok request) :
    incoming.request = .ok request := by
  rw [Incoming.request, path, json, if_neg (by decide), if_neg (not_not_intro method),
    if_neg (by decide), if_neg (Nat.not_lt_of_le small), read]

end HeaderBidding.MockPartner
