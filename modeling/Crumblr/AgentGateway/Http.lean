import Crumblr.AgentGateway.Contracts
import Crumblr.Domain.TimeUtils

/-!
# A submission over HTTP

A request's body is read field by field, and then checked as a whole. The fields for times are
those of `Crumblr.Domain.TimeUtils`; the others are taken as pydantic has read them. What a body
gives is a contract whose times may have any offset, or none: what the rest of the gateway does
with such a time can raise.
-/

namespace Decimal

/-- The largest exponent of a first digit that the default context represents. -/
def emax : Int := 999999

/-- The exponent of a decimal's first digit. -/
def adjusted (x : Decimal) : Int := x.exp + digits x.coeff.natAbs - 1

/-- Rounding it to the working precision overflows. -/
def Overflows (x : Decimal) : Prop := x.fix.coeff ≠ 0 ∧ emax < x.fix.adjusted

instance (x : Decimal) : Decidable x.Overflows := inferInstanceAs (Decidable (_ ∧ _))

end Decimal

namespace Crumblr

/-- A decimal as a fingerprint's payload carries it. -/
def canonicalDecimal (x : Decimal) : Except PyError Json :=
  if x.Overflows then .error ⟨.other, "[<class 'decimal.Overflow'>]"⟩
  else .ok (.decimal x.normalize)

/-! ## Proposals -/

/-- The fields of a proposal that are no times. -/
structure ProposalFields where
  proposalId : Uuid
  agentId : Uuid
  assignmentId : Uuid
  contextHash : String
  strategyArtifactHash : String
  side : Side
  entryType : EntryType
  referencePrice : Price
  stopLossPrice : Price
  takeProfitPrice : Price
  confidence : PyFloat
  requestedRiskFraction : RiskFraction
  reasonCodes : ReasonCodes
  evidenceRefs : List Uuid

/-- A request's body: the JSON document, and what its fields that are no times were read as. -/
structure ProposalBody where
  fields : ProposalFields
  payload : Json

/-- A proposal with its times as they were read. -/
structure ReceivedProposal where
  fields : ProposalFields
  submittedAtUtc : PyDatetime
  expiresAtUtc : PyDatetime

/-- Read the fields. -/
def ProposalBody.read [Pydantic] (body : ProposalBody) : Except PyError ReceivedProposal := do
  let submittedAtUtc ← utcDatetimeAt body.payload "submitted_at_utc"
  let expiresAtUtc ← utcDatetimeAt body.payload "expires_at_utc"
  pure ⟨body.fields, submittedAtUtc, expiresAtUtc⟩

namespace ReceivedProposal

variable (p : ReceivedProposal)

def checkDirectional : Except PyError Unit :=
  if p.fields.side = .flat then
    .error ⟨.validation, (s!"a TradeProposal must be directional (BUY or SELL), got "
      ++ s!"{p.fields.side.value}; NO_TRADE is a NoTradeDecision, not a TradeProposal")⟩
  else .ok ()

def checkStopAndTargetDirection : Except PyError Unit :=
  match p.fields.side with
  | .buy =>
      if p.fields.referencePrice.val ≤ p.fields.stopLossPrice.val then
        .error ⟨.validation, "BUY stop_loss_price must be below reference_price"⟩
      else if p.fields.takeProfitPrice.val ≤ p.fields.referencePrice.val then
        .error ⟨.validation, "BUY take_profit_price must be above reference_price"⟩
      else .ok ()
  | .sell =>
      if p.fields.stopLossPrice.val ≤ p.fields.referencePrice.val then
        .error ⟨.validation, "SELL stop_loss_price must be above reference_price"⟩
      else if p.fields.referencePrice.val ≤ p.fields.takeProfitPrice.val then
        .error ⟨.validation, "SELL take_profit_price must be below reference_price"⟩
      else .ok ()
  | .flat => .ok ()

def checkLifetime : Except PyError Unit := do
  if ← p.expiresAtUtc.le p.submittedAtUtc then
    .error ⟨.validation, "expires_at_utc must be after submitted_at_utc"⟩
  else pure ()

/-- The checks of the whole, in their order. -/
def check : Except PyError Unit := do
  p.checkDirectional
  p.checkStopAndTargetDirection
  p.checkLifetime

/-- The payload of its fingerprint, made in the order of its sorted keys. -/
def content : Except PyError Json := do
  let expiresAtUtc ← p.expiresAtUtc.canonical
  let referencePrice ← canonicalDecimal p.fields.referencePrice.val
  let requestedRiskFraction ← canonicalDecimal p.fields.requestedRiskFraction.val
  let stopLossPrice ← canonicalDecimal p.fields.stopLossPrice.val
  let submittedAtUtc ← p.submittedAtUtc.canonical
  let takeProfitPrice ← canonicalDecimal p.fields.takeProfitPrice.val
  pure (.obj [
    ("agent_id", .uuid p.fields.agentId),
    ("assignment_id", .uuid p.fields.assignmentId),
    ("context_hash", .str p.fields.contextHash),
    ("strategy_artifact_hash", .str p.fields.strategyArtifactHash),
    ("side", .str p.fields.side.value),
    ("entry_type", .str p.fields.entryType.value),
    ("reference_price", referencePrice),
    ("stop_loss_price", stopLossPrice),
    ("take_profit_price", takeProfitPrice),
    ("confidence", .str p.fields.confidence.repr),
    ("requested_risk_fraction", requestedRiskFraction),
    ("reason_codes", p.fields.reasonCodes.json),
    ("evidence_refs", .list (p.fields.evidenceRefs.map .uuid)),
    ("submitted_at_utc", submittedAtUtc),
    ("expires_at_utc", expiresAtUtc)])

def proposalFingerprint [Externals] : Except PyError String := do
  let content ← p.content
  pure (digestOf content)

/-- Whether it is expired when it is judged. -/
def expired (now : PyDatetime) : Except PyError Bool := p.expiresAtUtc.le now

end ReceivedProposal

/-- `model_validate` of a proposal. -/
def ProposalBody.modelValidate [Pydantic] (body : ProposalBody) :
    Except PyError ReceivedProposal := do
  let p ← body.read
  p.check
  pure p

/-! ## Decisions not to trade -/

structure NoTradeFields where
  decisionId : Uuid
  agentId : Uuid
  assignmentId : Uuid
  contextHash : String
  reasonCodes : ReasonCodes

structure NoTradeBody where
  fields : NoTradeFields
  payload : Json

structure ReceivedNoTrade where
  fields : NoTradeFields
  decidedAtUtc : PyDatetime

/-- `model_validate` of a decision; there is nothing to check of the whole. -/
def NoTradeBody.modelValidate [Pydantic] (body : NoTradeBody) : Except PyError ReceivedNoTrade := do
  let decidedAtUtc ← utcDatetimeAt body.payload "decided_at_utc"
  pure ⟨body.fields, decidedAtUtc⟩

def ReceivedNoTrade.content (d : ReceivedNoTrade) : Except PyError Json := do
  let decidedAtUtc ← d.decidedAtUtc.canonical
  pure (.obj [
    ("agent_id", .uuid d.fields.agentId),
    ("assignment_id", .uuid d.fields.assignmentId),
    ("context_hash", .str d.fields.contextHash),
    ("reason_codes", d.fields.reasonCodes.json),
    ("decided_at_utc", decidedAtUtc)])

def ReceivedNoTrade.decisionFingerprint [Externals] (d : ReceivedNoTrade) :
    Except PyError String := do
  let content ← d.content
  pure (digestOf content)

end Crumblr
