import Crumblr.Config
import Crumblr.Persistence.RiskSession

/-!
# The replay orchestrator's risk session

A replay recovers its session on the first tick and then keeps its ledger in memory. At
the end of a tick it persists the ledger if the session looks different from what it
last persisted, by a key that names some of the ledger's values and not others.
-/

namespace Crumblr

/-- What a session has to differ in to be persisted again. -/
structure SessionKey where
  tradingDay : Date
  sessionStartEquity : Decimal
  maxDrawdownFraction : Decimal
  maxSessionLossFraction : Decimal
  openPositionCount : Nat
  openRiskUnknown : Bool
  deriving DecidableEq

/-- Keys are compared as tuples, and decimals in them by value. -/
def SessionKey.same (k k' : SessionKey) : Bool :=
  k.tradingDay = k'.tradingDay
    && k.sessionStartEquity.compare k'.sessionStartEquity = .eq
    && k.maxDrawdownFraction.compare k'.maxDrawdownFraction = .eq
    && k.maxSessionLossFraction.compare k'.maxSessionLossFraction = .eq
    && k.openPositionCount = k'.openPositionCount
    && k.openRiskUnknown = k'.openRiskUnknown

def RiskSessionState.key (s : RiskSessionState) : SessionKey where
  tradingDay := s.tradingDay
  sessionStartEquity := s.sessionStartEquity
  maxDrawdownFraction := s.maxDrawdownFraction
  maxSessionLossFraction := s.maxSessionLossFraction
  openPositionCount := s.openPositionCount
  openRiskUnknown := s.openRiskFraction.isNone

/-- One tick, as far as the session goes: the simulated account once the tick is taken,
and at the tick's end. -/
structure ReplayTick where
  day : Date
  receivedTimeUtc : UtcDatetime
  equity : Decimal
  openPositions : Nat
  balanceAfter : Decimal
  positionsAfter : Nat
  openRiskAfter : Option Decimal

structure ReplayOrchestrator where
  canonicalSymbol : String
  riskConfig : RiskConfig
  sessionStore : RiskSessionStates
  ledger : EquityLedger
  currentTradingDay : Option Date
  sessionKey : Option SessionKey
  sessionResumed : Bool

namespace ReplayOrchestrator

/-- A process before its first tick. -/
def create (canonicalSymbol : String) (riskConfig : RiskConfig)
    (sessionStore : RiskSessionStates) (startingEquity : Decimal) :
    Except PyError ReplayOrchestrator := do
  let ledger ← EquityLedger.create startingEquity
  pure { canonicalSymbol, riskConfig, sessionStore, ledger, currentTradingDay := none,
         sessionKey := none, sessionResumed := false }

variable (self : ReplayOrchestrator)

/-- Pick the session up where the last process left it. -/
def recoverSession (first : ReplayTick) (loadFailure : Option PyError) :
    Except PyError ReplayOrchestrator := do
  let recovery ← Crumblr.recoverSession
    (self.sessionStore.loadLatest self.canonicalSymbol loadFailure) first.equity
    first.openPositions first.day self.riskConfig.maxDailyLoss.val
    self.riskConfig.maxDrawdown.val
  pure { self with
    ledger := recovery.ledger
    currentTradingDay := recovery.tradingDay
    sessionResumed := recovery.resumed }

/-- Start a new session when the trading day rolls. -/
def rollSession (day : Date) : ReplayOrchestrator :=
  match self.currentTradingDay with
  | none => { self with currentTradingDay := some day }
  | some current =>
      if day ≠ current then
        { self with
          currentTradingDay := some day
          ledger := { self.ledger with sessionStartEquity := self.ledger.currentEquity } }
      else self

def mark (equity : Decimal) : ReplayOrchestrator :=
  { self with ledger := self.ledger.update equity }

/-- Persist the session if its key has changed. -/
def persistSession (tick : ReplayTick) : ReplayOrchestrator :=
  match self.currentTradingDay with
  | none => self
  | some day =>
      let state := snapshot self.ledger self.canonicalSymbol day
        (tick.balanceAfter - self.ledger.startingEquity) tick.openRiskAfter tick.positionsAfter
        tick.receivedTimeUtc
      if self.sessionKey.any fun key => state.key.same key then self
      else
        { self with
          sessionKey := some state.key
          sessionStore := self.sessionStore ++ [state] }

end ReplayOrchestrator

/-- What a run does to the session, step by step. -/
inductive ReplayStep where
  | roll (day : Date)
  | mark (equity : Decimal)
  | persist (tick : ReplayTick)

def ReplayOrchestrator.step (self : ReplayOrchestrator) : ReplayStep → ReplayOrchestrator
  | .roll day => self.rollSession day
  | .mark equity => self.mark equity
  | .persist tick => self.persistSession tick

/-- The steps of a run once its session is recovered: every tick rolls, marks and persists,
and the run's end marks once more. -/
def replaySteps (ticks : List ReplayTick) (finalEquity : Decimal) : List ReplayStep :=
  ticks.flatMap (fun tick => [.roll tick.day, .mark tick.equity, .persist tick])
    ++ [.mark finalEquity]

end Crumblr
