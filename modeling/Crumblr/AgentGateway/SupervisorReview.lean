import Crumblr.AgentGateway.Contracts

/-!
# What a review is worth

A review counts only when it is about exactly the decision it was asked for and has not
expired. Everything else comes to UNKNOWN, with the reason, and never to an approval.
-/

namespace Crumblr

namespace SupervisorReview

def noSupervisorResponse : ReasonCodeToken := ⟨"NO_SUPERVISOR_RESPONSE", by decide +kernel⟩

def proposalIdMismatch : ReasonCodeToken :=
  ⟨"SUPERVISOR_REVIEW_PROPOSAL_ID_MISMATCH", by decide +kernel⟩

def tradeIntentIdMismatch : ReasonCodeToken :=
  ⟨"SUPERVISOR_REVIEW_TRADE_INTENT_ID_MISMATCH", by decide +kernel⟩

def tradeIntentHashMismatch : ReasonCodeToken :=
  ⟨"SUPERVISOR_REVIEW_TRADE_INTENT_HASH_MISMATCH", by decide +kernel⟩

def reviewExpired : ReasonCodeToken := ⟨"SUPERVISOR_REVIEW_EXPIRED", by decide +kernel⟩

def reviewSelfReportedUnknown : ReasonCodeToken :=
  ⟨"SUPERVISOR_REVIEW_SELF_REPORTED_UNKNOWN", by decide +kernel⟩

end SupervisorReview

/-- What asking for a review resolved to. -/
structure SupervisorReviewOutcome where
  verdict : ExternalSupervisorVerdict
  reasonCodes : ReasonCodes
  review : Option SupervisorReview
  /-- Only a review that counts can say anything but UNKNOWN. -/
  bound : verdict ≠ .unknown → review.isSome

def SupervisorReviewOutcome.isVeto (o : SupervisorReviewOutcome) : Bool := o.verdict = .veto

namespace SupervisorReview

def unknownOutcome (reason : ReasonCodeToken) : SupervisorReviewOutcome where
  verdict := .unknown
  reasonCodes := ⟨[reason], by simp [maxReasonCodes]⟩
  review := none
  bound := fun h => absurd rfl h

/-- Turn whatever came back into a verdict on exactly the decision it was asked for. -/
def evaluateSupervisorReview (review : Option SupervisorReview) (proposalId tradeIntentId : Uuid)
    (tradeIntentDecisionHash : String) (now : UtcDatetime) : SupervisorReviewOutcome :=
  match review with
  | none => unknownOutcome noSupervisorResponse
  | some review =>
      if review.proposalId ≠ proposalId then unknownOutcome proposalIdMismatch
      else if review.tradeIntentId ≠ tradeIntentId then unknownOutcome tradeIntentIdMismatch
      else if review.tradeIntentDecisionHash ≠ tradeIntentDecisionHash then
        unknownOutcome tradeIntentHashMismatch
      else if review.expiresAtUtc ≤ now then unknownOutcome reviewExpired
      else if review.verdict = .unknown then unknownOutcome reviewSelfReportedUnknown
      else ⟨review.verdict, review.reasonCodes, some review, fun _ => rfl⟩

/-- The review is about this decision and still in force, and approves it. -/
def Approves (review : Option SupervisorReview) (proposalId tradeIntentId : Uuid)
    (tradeIntentDecisionHash : String) (now : UtcDatetime) : Prop :=
  ∃ r, review = some r ∧ r.proposalId = proposalId ∧ r.tradeIntentId = tradeIntentId
    ∧ r.tradeIntentDecisionHash = tradeIntentDecisionHash ∧ now < r.expiresAtUtc
    ∧ r.verdict = .approve

/-- **An outcome approves exactly when a review in force does.** -/
theorem evaluateSupervisorReview_approve {review : Option SupervisorReview}
    {proposalId tradeIntentId : Uuid} {tradeIntentDecisionHash : String} {now : UtcDatetime} :
    (evaluateSupervisorReview review proposalId tradeIntentId tradeIntentDecisionHash now).verdict
        = .approve
      ↔ Approves review proposalId tradeIntentId tradeIntentDecisionHash now := by
  constructor
  · intro h
    unfold evaluateSupervisorReview at h
    split at h
    · cases h
    · rename_i r
      split at h
      · cases h
      rename_i hproposal
      split at h
      · cases h
      rename_i hintent
      split at h
      · cases h
      rename_i hhash
      split at h
      · cases h
      rename_i hexpiry
      split at h
      · cases h
      exact ⟨r, rfl, not_not.mp hproposal, not_not.mp hintent, not_not.mp hhash,
        Int.not_le.mp hexpiry, h⟩
  · rintro ⟨r, rfl, hproposal, hintent, hhash, hexpiry, hverdict⟩
    unfold evaluateSupervisorReview
    simp [hproposal, hintent, hhash, Int.not_le.mpr hexpiry, hverdict]

end SupervisorReview

end Crumblr
