import Crumblr.Config
import Crumblr.Persistence.RiskSession

/-!
# Cycles that recover and persist the risk session

Two orchestrators share one record per market. A live decision cycle recovers,
marks the account's equity and persists inside one locked transaction, so a cycle
that fails anywhere writes nothing. A paper cycle recovers once, and persists one
or more times afterwards, each in a transaction of its own.
-/

namespace Crumblr

/-! ## Live decisions -/

structure LiveDecisionOrchestrator where
  canonicalSymbol : String
  riskConfig : RiskConfig

/-- What one decision cycle has read when it takes the risk-ledger lock, and what fails
under the lock. -/
structure LiveCycle where
  equity : Decimal
  /-- The positions of the account snapshot, as counted before the lock is taken. -/
  positions : Nat
  /-- The same rows, counted again by the recovery. -/
  livePositions : Nat
  openRiskFraction : Option Decimal
  marketDay : Date
  now : UtcDatetime
  lockFailure : Option PyError
  loadFailure : Option PyError
  tripFailure : Option PyError
  saveFailure : Option PyError

namespace LiveDecisionOrchestrator

variable (self : LiveDecisionOrchestrator)

def recoverSession (rows : RiskSessionStates) (c : LiveCycle) : Except PyError SessionRecovery := do
  let recovery ← Crumblr.recoverSession (rows.loadLatest self.canonicalSymbol c.loadFailure)
    c.equity c.livePositions c.marketDay self.riskConfig.maxDailyLoss.val
    self.riskConfig.maxDrawdown.val
  if recovery.mustHalt then raising c.tripFailure
  pure recovery

def persistSession (rows : RiskSessionStates) (c : LiveCycle) (ledger : EquityLedger)
    (currentTradingDay : Option Date) : Except PyError RiskSessionStates :=
  match currentTradingDay with
  | none => .ok rows
  | some day =>
      rows.save (snapshot ledger self.canonicalSymbol day
        (ledger.currentEquity - ledger.startingEquity) c.openRiskFraction c.positions c.now)
        c.saveFailure

/-- Recover, mark and persist under the lock. -/
def recoverUpdatePersist (rows : RiskSessionStates) (c : LiveCycle) :
    Except PyError RiskSessionStates := do
  raising c.lockFailure
  let recovery ← self.recoverSession rows c
  self.persistSession rows c (recovery.ledger.update c.equity) recovery.tradingDay

/-- What a decision cycle leaves on record: what it persisted, or what was there when
anything under the lock failed. -/
def decideOnce (rows : RiskSessionStates) (c : LiveCycle) : RiskSessionStates :=
  match self.recoverUpdatePersist rows c with
  | .ok rows' => rows'
  | .error _ => rows

end LiveDecisionOrchestrator

/-! ## Paper trading -/

/-- A paper orchestrator, with what its process remembers of the risk session. -/
structure PaperLiteOrchestrator where
  canonicalSymbol : String
  riskConfig : RiskConfig
  /-- The paper broker has seen a tick. -/
  hasMarketObservation : Bool
  riskLedger : Option EquityLedger
  riskTradingDay : Option Date
  riskRecordedAt : Option UtcDatetime
  observed : riskLedger.isSome = true → hasMarketObservation = true

/-- How the paper broker takes a tick. -/
inductive Advance where
  | done
  /-- It fails before the tick is on record. -/
  | unrecorded (error : PyError)
  /-- It fails after that. -/
  | interrupted (error : PyError)

/-- One attempt to persist: the paper account at that moment, and what fails. -/
structure PaperPersist where
  equity : Decimal
  positions : Nat
  openRiskFraction : Option Decimal
  realizedProfit : Decimal
  saveFailure : Option PyError
  tripFailure : Option PyError

/-- One process call: the paper account when the session is recovered, how the tick is
taken, and the moments at which the session is persisted. -/
structure PaperCycle where
  equity : Decimal
  positions : Nat
  marketDay : Date
  receivedTimeUtc : UtcDatetime
  lockFailure : Option PyError
  loadFailure : Option PyError
  tripFailure : Option PyError
  advance : Advance
  persists : List PaperPersist

namespace PaperLiteOrchestrator

variable (self : PaperLiteOrchestrator)

/-- Remember a session; the broker has seen a tick by then. -/
def remember (h : self.hasMarketObservation = true) (ledger : EquityLedger)
    (tradingDay : Option Date) : PaperLiteOrchestrator :=
  { self with
    riskLedger := some ledger
    riskTradingDay := tradingDay
    observed := fun _ => h }

/-- Recover the session, with the error that comes out. -/
def recoverRiskSession (h : self.hasMarketObservation = true) (rows : RiskSessionStates)
    (c : PaperCycle) : PaperLiteOrchestrator × Option PyError :=
  -- a ledger that starts at the live equity, and a halt
  let afresh :=
    match EquityLedger.create c.equity with
    | .error error => (self, some error)
    | .ok ledger => (self.remember h ledger (some c.marketDay), c.tripFailure)
  match c.lockFailure with
  | some _ => afresh
  | none =>
      let record := rows.loadLatest self.canonicalSymbol c.loadFailure
      if record.isKnown ∧ record.state.isNone ∧ c.positions ≠ 0 then afresh
      else
        match recoverSession record c.equity c.positions c.marketDay
          self.riskConfig.maxDailyLoss.val self.riskConfig.maxDrawdown.val with
        | .error error => (self, some error)
        | .ok recovery =>
            (self.remember h recovery.ledger recovery.tradingDay,
              if recovery.mustHalt then c.tripFailure else none)

/-- Mark an equity, if a session is remembered. -/
def mark (equity : Decimal) : PaperLiteOrchestrator :=
  { self with
    riskLedger := self.riskLedger.map fun ledger => ledger.update equity
    observed := fun h => self.observed (by simpa using h) }

/-- Persist the session once. A write that fails halts, and the halt may fail too. -/
def persistRiskSession (rows : RiskSessionStates) (p : PaperPersist) :
    PaperLiteOrchestrator × RiskSessionStates × Option PyError :=
  match self.riskLedger, self.riskTradingDay, self.riskRecordedAt with
  | some ledger, some day, some recordedAt =>
      match rows.save (snapshot (ledger.update p.equity) self.canonicalSymbol day
        p.realizedProfit p.openRiskFraction p.positions recordedAt) p.saveFailure with
      | .ok rows' => (self.mark p.equity, rows', none)
      | .error _ => (self.mark p.equity, rows, p.tripFailure)
  | _, _, _ => (self, rows, none)

/-- Persist as often as the call does, up to an error. -/
def persistAll (self : PaperLiteOrchestrator) (rows : RiskSessionStates) :
    List PaperPersist → PaperLiteOrchestrator × RiskSessionStates × Option PyError
  | [] => (self, rows, none)
  | p :: ps =>
      match self.persistRiskSession rows p with
      | (self', rows', none) => persistAll self' rows' ps
      | (self', rows', some error) => (self', rows', some error)

/-- The broker has seen a tick. -/
def observe : PaperLiteOrchestrator :=
  { self with hasMarketObservation := true, observed := fun _ => rfl }

/-- The part of a process call after the tick was taken. -/
def processObserved (h : self.hasMarketObservation = true) (rows : RiskSessionStates)
    (c : PaperCycle) : PaperLiteOrchestrator × RiskSessionStates × Option PyError :=
  let (self', error) :=
    if self.riskLedger.isNone then self.recoverRiskSession h rows c else (self, none)
  match error with
  | some error => (self', rows, some error)
  | none => { self' with riskRecordedAt := some c.receivedTimeUtc }.persistAll rows c.persists

/-- One process call: recover before the tick if there is anything to recover, after it
otherwise, and persist. -/
def process (rows : RiskSessionStates) (c : PaperCycle) :
    PaperLiteOrchestrator × RiskSessionStates × Option PyError :=
  let (self', error) :=
    if h : self.hasMarketObservation = true then self.recoverRiskSession h rows c
    else (self, none)
  match error, c.advance with
  | some error, _ => (self', rows, some error)
  | none, .unrecorded error => (self', rows, some error)
  | none, .interrupted error => (self'.observe, rows, some error)
  | none, .done => self'.observe.processObserved rfl rows c

end PaperLiteOrchestrator

/-! ## Runs -/

/-- One cycle of one orchestrator; a paper one with whatever its process remembers. -/
inductive SessionCycle where
  | live (orchestrator : LiveDecisionOrchestrator) (c : LiveCycle)
  | paper (orchestrator : PaperLiteOrchestrator) (c : PaperCycle)

namespace SessionCycle

/-- What a cycle leaves on record. -/
def run (rows : RiskSessionStates) : SessionCycle → RiskSessionStates
  | live orchestrator c => orchestrator.decideOnce rows c
  | paper orchestrator c => (orchestrator.process rows c).2.1

/-- What cycles leave on record, one after another. -/
def runAll (rows : RiskSessionStates) (cycles : List SessionCycle) : RiskSessionStates :=
  cycles.foldl run rows

end SessionCycle

end Crumblr
