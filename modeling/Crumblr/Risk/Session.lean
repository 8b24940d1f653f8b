import Crumblr.Risk.KillSwitch

/-!
# Recovering the risk session

What a process may trade on is decided by the last recorded risk session, the
live account and the trading day. Anything unreadable, from the future or at odds
with the account halts instead of starting afresh.
-/

namespace Crumblr

structure RiskSessionState where
  canonicalSymbol : String
  tradingDay : Date
  sessionStartEquity : Decimal
  currentEquity : Decimal
  peakEquity : Decimal
  realizedPnl : Decimal
  maxDrawdownFraction : Decimal
  maxSessionLossFraction : Decimal
  openRiskFraction : Option Decimal
  openPositionCount : Nat
  recordedAtUtc : UtcDatetime
  schemaVersion : Int
  deriving DecidableEq

def sessionSchemaVersion : Int := 1

/-- What the session store has to say: a state, none yet, or that it cannot tell. -/
structure SessionRecord where
  state : Option RiskSessionState
  unreadable : Option String

def SessionRecord.isKnown (r : SessionRecord) : Bool := r.unreadable.isNone

structure SessionRecovery where
  ledger : EquityLedger
  tradingDay : Option Date
  resumed : Bool
  reasonCodes : List ReasonCode
  detail : Option String

def SessionRecovery.mustHalt (r : SessionRecovery) : Bool := r.reasonCodes ≠ []

/-- A recovery that lets nothing trade, with the reasons. -/
def haltedRecovery (liveEquity : Decimal) (marketDay : Date) (reasons : List ReasonCode)
    (detail : String) : Except PyError SessionRecovery := do
  let ledger ← EquityLedger.create liveEquity
  pure { ledger, tradingDay := some marketDay, resumed := false, reasonCodes := reasons,
         detail := some detail }

def recoverSession (record : SessionRecord) (liveEquity : Decimal) (liveOpenPositions : Nat)
    (marketDay : Date) (maxDailyLoss maxDrawdown : Decimal) : Except PyError SessionRecovery :=
  match record.unreadable with
  | some why =>
      haltedRecovery liveEquity marketDay [.safetyStateUnknown]
        s!"risk-session state could not be read: {why}"
  | none =>
  match record.state with
  | none => do
      let ledger ← EquityLedger.create liveEquity
      pure { ledger, tradingDay := some marketDay, resumed := false, reasonCodes := [],
             detail := none }
  | some recorded =>
      if recorded.schemaVersion ≠ sessionSchemaVersion then
        haltedRecovery liveEquity marketDay [.safetyStateUnknown]
          s!"risk-session schema {recorded.schemaVersion} is not the expected {sessionSchemaVersion}"
      else if marketDay < recorded.tradingDay then
        haltedRecovery liveEquity marketDay [.safetyStateUnknown]
          (s!"recorded trading day {isoDate recorded.tradingDay} is after the market day "
            ++ isoDate marketDay)
      else if recorded.openPositionCount ≠ liveOpenPositions then
        haltedRecovery liveEquity marketDay [.reconciliationMismatch]
          (s!"recorded {recorded.openPositionCount} open position(s), "
            ++ s!"account reports {liveOpenPositions}")
      else do
        let sameSession := recorded.tradingDay = marketDay
        let ledger ← EquityLedger.resumed liveEquity
          (if sameSession then recorded.sessionStartEquity else recorded.currentEquity)
          liveEquity
          (Decimal.max recorded.peakEquity liveEquity)
          recorded.maxDrawdownFraction
          (if sameSession then recorded.maxSessionLossFraction else 0)
        let exhausted :=
          (if maxDrawdown ≤ ledger.maxDrawdownFraction then [ReasonCode.maxDrawdown] else [])
          ++ (if maxDailyLoss ≤ ledger.maxSessionLossFraction then [.dailyLossLimit] else [])
        if exhausted ≠ [] then
          haltedRecovery liveEquity marketDay exhausted
            ("recovered risk session already exhausted an owner-policy limit: "
              ++ s!"max_session_loss_fraction={ledger.maxSessionLossFraction.text}, "
              ++ s!"max_drawdown_fraction={ledger.maxDrawdownFraction.text}")
        else
          pure { ledger, tradingDay := some marketDay, resumed := true, reasonCodes := [],
                 detail := none }

/-- Capture the ledger as a record that a later process can resume from. -/
def snapshot (ledger : EquityLedger) (canonicalSymbol : String) (tradingDay : Date)
    (realizedPnl : Decimal) (openRiskFraction : Option Decimal) (openPositionCount : Nat)
    (recordedAtUtc : UtcDatetime) : RiskSessionState where
  canonicalSymbol
  tradingDay
  sessionStartEquity := ledger.sessionStartEquity
  currentEquity := ledger.currentEquity
  peakEquity := ledger.peakEquity
  realizedPnl
  maxDrawdownFraction := ledger.maxDrawdownFraction
  maxSessionLossFraction := ledger.maxSessionLossFraction
  openRiskFraction
  openPositionCount
  recordedAtUtc
  schemaVersion := sessionSchemaVersion

end Crumblr
