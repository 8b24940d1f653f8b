import Crumblr.Application.Orchestration

/-!
# Rebuilding a run from the journal alone

What happened is read out of the events and nothing else: not the capsule store, and not the run's
own objects. A payload is read back as it was written.

A window that ended before the strategy had enough history leaves no event, so that the windows
and those without features cannot be counted again; nor can the faults that were injected.
-/

namespace Crumblr

/-- One digest over a decision sequence; its order matters. -/
def decisionFingerprint [Externals] (capsules : List RunCapsule) : String :=
  digestOf (.obj [("decisions", .list (capsules.map fun c => .str c.provenanceFingerprint))])

namespace Reconstruction

/-- The reasons and the verdict of a capsule's risk decision. -/
def countRisk (tally : RunTally) (risk : RiskDecision) : RunTally :=
  let tally := { tally with
    riskReasons := tally.riskReasons.countAll (risk.reasonCodes.map ReasonCode.value) }
  if risk.verdict = .pass then { tally with riskPassed := tally.riskPassed + 1 }
  else if risk.verdict = .block then { tally with riskBlocked := tally.riskBlocked + 1 }
  else { tally with riskHalted := tally.riskHalted + 1 }

/-- The reasons and the verdict of a capsule's supervisor decision. An approved decision without
an execution result was refused by the broker's pre-flight. -/
def countSupervisor (tally : RunTally) (supervisor : SupervisorDecision)
    (executionResult : Option SimulatedResult) : RunTally :=
  let tally := { tally with
    supervisorReasons := tally.supervisorReasons.countAll
      (supervisor.reasonCodes.map ReasonCode.value) }
  if supervisor.verdict = .approve then
    let tally := { tally with supervisorApproved := tally.supervisorApproved + 1 }
    if executionResult.isNone then
      { tally with orderCheckRejected := tally.orderCheckRejected + 1 }
    else { tally with ordersFilled := tally.ordersFilled + 1 }
  else if supervisor.verdict = .veto then
    { tally with supervisorVetoed := tally.supervisorVetoed + 1 }
  else { tally with supervisorHalted := tally.supervisorHalted + 1 }

/-- One capsule of the recount. -/
def countCapsule (tally : RunTally) (capsule : RunCapsule) : RunTally :=
  match capsule.tradeIntent with
  | none => { tally with noTrade := tally.noTrade + 1 }
  | some _ =>
      let tally := { tally with intents := tally.intents + 1 }
      let tally := match capsule.riskDecision with
        | some risk => countRisk tally risk
        | none => tally
      match capsule.supervisorDecision with
      | some supervisor => countSupervisor tally supervisor capsule.executionResult
      | none => tally

/-- The windows that proposed nothing. -/
def intentFree (capsules : List RunCapsule) : List Uuid :=
  (capsules.filter fun c => c.tradeIntent.isNone).map (·.correlationId)

/-- One signal of the recount. -/
def countSignal (free : List Uuid) (tally : RunTally) (signal : SignalGenerated) : RunTally :=
  if signal.snapshotId ∈ free then
    { tally with noTradeReasons := tally.noTradeReasons.countAll signal.reasonCodes }
  else tally

end Reconstruction

open Reconstruction in
/-- Recount a run from its sealed decisions. -/
def tallyFromCapsules (capsules : List RunCapsule) (signals : List SignalGenerated) : RunTally :=
  signals.foldl (countSignal (intentFree capsules)) (capsules.foldl countCapsule {})

/-- What the journal says happened. -/
structure ReconstructedRun where
  capsules : List RunCapsule
  signals : List SignalGenerated
  halts : List SystemHalted

namespace ReconstructedRun

variable (r : ReconstructedRun)

def tally : RunTally := tallyFromCapsules r.capsules r.signals

def fingerprint [Externals] : String := decisionFingerprint r.capsules

def halted : Bool := !r.halts.isEmpty

/-- One event more. -/
def take (r : ReconstructedRun) (event : Event) : ReconstructedRun :=
  match event.payload with
  | .decisionCapsule capsule => { r with capsules := r.capsules ++ [capsule] }
  | .signalGenerated signal => { r with signals := r.signals ++ [signal] }
  | .systemHalted halt => { r with halts := r.halts ++ [halt] }
  | _ => r

end ReconstructedRun

/-- Read the run back out of the journal; events of other environments are passed over. -/
def reconstructFromJournal (events : List Event) (environment : Option Environment) :
    ReconstructedRun :=
  (EventJournal.readAll events .all).foldl (fun r event =>
    if environment.any (fun e => decide (event.environment ≠ e)) then r else r.take event) ⟨[], [], []⟩

end Crumblr
