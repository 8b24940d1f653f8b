import Crumblr.Application.LiveWorker

/-!
# The phases of a live decision

A pass of the live decision worker goes through the same phases whatever is to be proved of it:
recovered, facing a window it has not decided, the window claimed, on record, put to the
strategy, passed by risk, its hash remembered and on record, sealed. Between the calls that take
one phase to the next it makes calls that are of no account: reads, halts, journal entries.

This module walks the program once. What it asks of the phases are the triples of the calls that
change them, and that the others leave them alone.
-/

namespace Crumblr

open Machine

variable [Externals]

/-- The calls of no account. -/
def LiveCall.Quiet : LiveCall → Prop
  | .restore .. | .markRecovered | .claimWindow _ | .addSeen _ | .loadWindow .. | .saveWindow _
  | .strategy .. | .seal _ | .report _ | .resetHalt .. => False
  | _ => True

/-- A live decision's surroundings. -/
abbrev LiveSurroundings := Surroundings LiveOracle LiveWorld.Event LiveWorld LiveCall

/-- A triple of the worker's. -/
abbrev LiveTriple (live : LiveDecisionService) (E : LiveSurroundings) (J : LiveWorld → Prop)
    {α : Type} (P : LiveWorld → Prop) (p : LivePass α) (Q : α → LiveWorld → Prop)
    (R : LiveWorld → Prop) : Prop :=
  Triple (liveWorker live) E J P p Q R

/-- Nature and the calls of no account leave an assertion; where it holds, so do `J` and `I`. -/
structure Framed (live : LiveDecisionService) (E : LiveSurroundings) (J I P : LiveWorld → Prop) :
    Prop where
  toJ : ∀ w, P w → J w
  toI : ∀ w, P w → I w
  stable : Stable (liveWorker live) E P
  quiet : ∀ w o c, P w → LiveCall.Quiet c → E.call w o c → P (w.serve o c).2

/-- What holds in each phase, and what takes one to the next. -/
structure LivePhases (live : LiveDecisionService) (E : LiveSurroundings)
    (J I : LiveWorld → Prop) where
  Restored : LiveWorld → Prop
  Ready : LiveWorld → Prop
  Fresh : UtcDatetime → LiveWorld → Prop
  Claimed : UtcDatetime → LiveWorld → Prop
  Saved : UtcDatetime → LiveWorld → Prop
  Put : UtcDatetime → LiveWorld → Prop
  Passed : UtcDatetime → String → LiveWorld → Prop
  Added : UtcDatetime → String → LiveWorld → Prop
  Kept : UtcDatetime → String → LiveWorld → Prop
  Done : SealedCapsule → LiveWorld → Prop
  ready : Framed live E J I Ready
  fresh : ∀ t, Framed live E J I (Fresh t)
  put : ∀ t, Framed live E J I (Put t)
  passed : ∀ t h, Framed live E J I (Passed t h)
  idle : Framed live E J I I
  recover : LiveTriple live E J (fun w => I w ∧ w.memory.decisionWindowRecovered = false)
    live.recoverDecisionWindow (fun _ => Restored) I
  mark : LiveTriple live E J Restored (LiveDecisionService.ask .markRecovered)
    (fun _ => Ready) I
  recovered : ∀ w, I w → w.memory.decisionWindowRecovered = true → Ready w
  check : ∀ t w, Ready w → w.memory.lastDecidedOpenTime.any (fun last => decide (t ≤ last)) = false →
    Fresh t w
  claim : ∀ t, LiveTriple live E J (Fresh t) (LiveDecisionService.ask (.claimWindow t))
    (fun _ => Claimed t) I
  save : ∀ t now, LiveTriple live E J (Claimed t) (live.saveDecisionWindow now)
    (fun _ => Saved t) I
  ask : ∀ t snapshot history spec context, LiveTriple live E J (Saved t)
    (LiveDecisionService.ask (.strategy snapshot history spec context)) (fun _ => Put t) I
  pass : ∀ t intent snapshot spec portfolio context now d w, Put t w →
    portfolio.seenDecisionHashes = w.memory.seenHashes →
    evaluate intent snapshot spec portfolio context w.memory.killSwitch now = .ok d →
    d.verdict = .pass → Passed t intent.decisionHash w
  add : ∀ t h, LiveTriple live E J (Passed t h) (LiveDecisionService.ask (.addSeen h))
    (fun _ => Added t h) I
  keep : ∀ t h now, LiveTriple live E J (Added t h) (live.saveDecisionWindow now)
    (fun _ => Kept t h) I
  sealPlain : ∀ t capsule, isIntentTimeApproved capsule.toDecisionCapsule = false →
    LiveTriple live E J (Put t) (LiveDecisionService.ask (.seal capsule))
      (fun _ w => I w ∧ Done capsule w) I
  sealKept : ∀ t h capsule, capsule.tradeIntent.map (·.decisionHash) = some h →
    LiveTriple live E J (Kept t h) (LiveDecisionService.ask (.seal capsule))
      (fun _ w => I w ∧ Done capsule w) I

  report : ∀ outcome, LiveTriple live E J
    (fun w => I w ∧ ∀ capsule, outcome.capsule = some capsule → Done capsule w)
    (LiveDecisionService.ask (.report outcome)) (fun _ => I) I
  reset : ∀ operator incidentNote, LiveTriple live E J I
    (LiveDecisionService.ask (.resetHalt operator incidentNote)) (fun _ => I) I

variable {live : LiveDecisionService} {E : LiveSurroundings} {J I P : LiveWorld → Prop}

/-- A piece of program of no account. -/
theorem Framed.piece {α : Type} (h : Framed live E J I P) {p : LivePass α}
    (hp : Only LiveCall.Quiet p) : LiveTriple live E J P p (fun _ => P) I :=
  (Triple.frame hp h.toJ h.stable fun w o c hw hc hcall => h.quiet w o c hw hc hcall).conseq
    (fun _ hw => hw) (fun _ _ hw => hw) h.toI

/-- A call of no account, and then the rest. -/
theorem Framed.next {β : Type} (h : Framed live E J I P) {c : LiveCall} (hc : c.Quiet)
    {f : c.Answer → LivePass β} {Q : β → LiveWorld → Prop}
    (hf : ∀ a, LiveTriple live E J P (f a) Q I) :
    LiveTriple live E J P ((LiveDecisionService.ask c).bind f) Q I :=
  (h.piece (Only.perform hc)).bind hf

theorem Framed.lift {α β : Type} (h : Framed live E J I P) {x : Except PyError α}
    {f : α → LivePass β} {Q : β → LiveWorld → Prop}
    (hf : ∀ a, x = .ok a → LiveTriple live E J P (f a) Q I) :
    LiveTriple live E J P ((LiveDecisionService.lift x).bind f) Q I := by
  cases x with
  | ok a => exact hf a rfl
  | error e => exact Triple.raise h.toI

/-- What the memory is, where it is asked for. -/
theorem Framed.memory {β : Type} (h : Framed live E J I P) {f : LiveMemory → LivePass β}
    {Q : β → LiveWorld → Prop}
    (hf : ∀ m, LiveTriple live E J (fun w => P w ∧ w.memory = m) (f m) Q I) :
    LiveTriple live E J P ((LiveDecisionService.ask .memory).bind f) Q I := by
  refine Triple.bind (Q := fun m w => P w ∧ w.memory = m) ?_ hf
  refine Triple.perform h.toJ h.stable ?_ ?_
  · rintro w o m w' hw - hserve
    cases hserve
    exact ⟨hw, rfl⟩
  · rintro w o e w' hw - hserve
    cases hserve

omit [Externals] in
/-- Halting is of no account to the phases. -/
theorem quiet_trip {reasonCodes : List ReasonCode} {trippedBy : String} {at_ : UtcDatetime}
    {correlationId : Uuid} {detail : Option String} :
    Only LiveCall.Quiet
      (LiveDecisionService.trip reasonCodes trippedBy at_ correlationId detail) := by
  unfold LiveDecisionService.trip
  refine Only.bind (Only.perform trivial) fun m => ?_
  dsimp only
  split
  · exact Only.ret
  · split
    · exact Only.raise
    · exact Only.bind (Only.perform trivial) fun _ => Only.bind (Only.perform trivial) fun _ =>
        Only.perform trivial

theorem quiet_recoverUpdatePersistSession {accountSnapshot : BrokerAccountSnapshot}
    {marketDay : Date} {positions : List PositionState} {openRisk : OpenRiskAssessment}
    {now : UtcDatetime} :
    Only LiveCall.Quiet (live.recoverUpdatePersistSession accountSnapshot marketDay positions
      openRisk now) := by
  unfold LiveDecisionService.recoverUpdatePersistSession
  refine Only.bind (Only.perform trivial) fun _ => Only.bind (Only.perform trivial) fun record =>
    Only.bind (Only.perform trivial) fun found => Only.bind Only.ofExcept fun recovery => ?_
  dsimp only
  -- either way what is left is to append the session, if there is one
  split
  · refine Only.bind quiet_trip fun _ => ?_
    split
    · exact Only.ret
    · exact Only.bind (Only.perform trivial) fun _ => Only.ret
  · split
    · exact Only.ret
    · exact Only.bind (Only.perform trivial) fun _ => Only.ret

theorem quiet_checkLossGates {ledger : EquityLedger} {now : UtcDatetime} :
    Only LiveCall.Quiet (live.checkLossGates ledger now) := by
  unfold LiveDecisionService.checkLossGates
  exact Only.bind (Only.perform trivial) fun m => Only.ite Only.ret quiet_trip

theorem quiet_checkSessionBoundary {moment now : UtcDatetime} {positions : List PositionState} :
    Only LiveCall.Quiet (live.checkSessionBoundary moment positions now) := by
  unfold LiveDecisionService.checkSessionBoundary
  exact Only.bind (Only.perform trivial) fun m =>
    Only.ite Only.ret (Only.ite quiet_trip Only.ret)

/-- Nothing comes of a pass that is skipped. -/
def Outcome (Done : SealedCapsule → LiveWorld → Prop) (I : LiveWorld → Prop)
    (outcome : LiveDecisionOutcome) (w : LiveWorld) : Prop :=
  I w ∧ ∀ capsule, outcome.capsule = some capsule → Done capsule w

namespace LivePhases

variable (L : LivePhases live E J I)

/-- The triples of the program's parts all end so. -/
abbrev Ends (P : LiveWorld → Prop) (p : LivePass LiveDecisionOutcome) : Prop :=
  LiveTriple live E J P p (Outcome L.Done I) I

theorem skip (h : Framed live E J I P) {reason : String} :
    L.Ends P (LiveDecisionService.skip reason) :=
  Triple.ret fun w hw => ⟨h.toI w hw, fun _ hc => by cases hc⟩

/-- Sealing ends a pass. -/
theorem sealCapsule {capsule : SealedCapsule}
    (h : LiveTriple live E J P (LiveDecisionService.ask (.seal capsule))
      (fun _ w => I w ∧ L.Done capsule w) I) :
    L.Ends P (LiveDecisionService.sealCapsule capsule) := by
  refine Triple.bind h fun _ => Triple.ret fun w hw => ⟨hw.1, ?_⟩
  rintro _ ⟨⟩
  exact hw.2

/-- What follows a window that risk has passed. -/
theorem superviseAndSeal {t : UtcDatetime} {w : LiveDecisionService.Window}
    {features : FeatureEvidence} {intent : TradeIntent} {status : ReconciliationStatus}
    {riskDecision : RiskDecision} :
    L.Ends (L.Passed t intent.decisionHash)
      (live.superviseAndSeal w features intent status riskDecision) := by
  have hpassed := L.passed t intent.decisionHash
  unfold LiveDecisionService.superviseAndSeal LiveDecisionService.recordStage
  refine hpassed.next (c := .record _) trivial fun _ => ?_
  have hrest : L.Ends (L.Passed t intent.decisionHash) (do
      LiveDecisionService.ask (.addSeen intent.decisionHash)
      live.saveDecisionWindow w.now
      LiveDecisionService.sealCapsule (live.windowCapsule w.snapshot w.spec features (some intent)
        (some riskDecision) (some (Pretrade.evaluate intent features live.policy
          ⟨0, .clear, status⟩ w.now)) w.positions)) :=
    Triple.bind (L.add t _) fun _ => Triple.bind (L.keep t _ w.now) fun _ =>
      L.sealCapsule (L.sealKept t _ _ rfl)
  dsimp only
  split
  · exact Triple.bind (hpassed.piece quiet_trip) fun _ => hrest
  · exact hrest

/-- Risk's verdict on an intent, and what follows. -/
theorem judgeIntent {t : UtcDatetime} {w : LiveDecisionService.Window}
    {features : FeatureEvidence} {intent : TradeIntent} :
    L.Ends (L.Put t) (live.judgeIntent w features intent) := by
  have hput := L.put t
  unfold LiveDecisionService.judgeIntent LiveDecisionService.recordStage
  refine hput.next (c := .record _) trivial fun _ => hput.next (c := .reconcile _) trivial
    fun status => hput.memory fun m => ?_
  refine Triple.bind (Q := fun d v => L.Put t v ∧
    (d.verdict = .pass → L.Passed t intent.decisionHash v)) (Triple.ofExcept ?_ ?_) fun d => ?_
  · rintro d hd v ⟨hv, rfl⟩
    exact ⟨hv, L.pass t intent _ _ _ _ _ d v hv rfl hd⟩
  · exact fun v hv => hput.toI v hv.1
  by_cases hpass : d.verdict = .pass
  · refine Triple.pre (P := L.Passed t intent.decisionHash) ?_ fun v hv => hv.2 hpass
    refine (L.passed t intent.decisionHash).next (c := .record _) trivial fun _ => ?_
    simp only [hpass, reduceCtorEq, if_false, ne_eq, not_true]
    exact L.superviseAndSeal
  · refine Triple.pre (P := L.Put t) ?_ fun v hv => hv.1
    have hseal : L.Ends (L.Put t) (LiveDecisionService.sealCapsule (live.windowCapsule w.snapshot
        w.spec features (some intent) (some d) none w.positions)) :=
      L.sealCapsule (L.sealPlain t _ rfl)
    refine hput.next (c := .record _) trivial fun _ => ?_
    dsimp only
    split
    · exact Triple.bind (hput.piece quiet_trip) fun _ => hseal
    · exact hseal

/-- A claimed window, from the strategy on. -/
theorem judge {t : UtcDatetime} {w : LiveDecisionService.Window} :
    L.Ends (L.Saved t) (live.judge w) := by
  have hput := L.put t
  unfold LiveDecisionService.judge
  refine Triple.bind (L.ask t _ _ _ _) fun outcome => ?_
  split
  · exact L.skip hput
  · rename_i features _
    refine hput.next (c := .recordFeatures _) trivial fun _ =>
      hput.next (c := .record _) trivial fun _ => ?_
    split
    · exact L.sealCapsule (L.sealPlain t _ rfl)
    · exact L.judgeIntent

theorem claimAndJudge {t : UtcDatetime} {w : LiveDecisionService.Window} :
    L.Ends (L.Fresh t) (live.claimAndJudge t w) := by
  unfold LiveDecisionService.claimAndJudge
  exact Triple.bind (L.claim t) fun _ => Triple.bind (L.save t w.now) fun _ => L.judge

/-- A window that has not been decided. -/
theorem decideWindow {t : UtcDatetime} {spec : InstrumentSpec} {bars : List Bar}
    {tick : MarketTick} {accountSnapshot : BrokerAccountSnapshot} :
    L.Ends (L.Fresh t) (live.decideWindow spec bars t tick accountSnapshot) := by
  have hfresh := L.fresh t
  unfold LiveDecisionService.decideWindow
  refine hfresh.next (c := .clock) trivial fun now => hfresh.next (c := .positionsFor _) trivial
    fun found => hfresh.lift fun openRisk _ => ?_
  refine Triple.bind (Q := fun _ => L.Fresh t) ?_ fun persisted => ?_
  · refine Triple.rescue (H := L.Fresh t) ?_ fun e => Triple.ret fun w hw => hw
    refine Triple.bind (Q := fun _ => L.Fresh t) ?_ fun ledger => Triple.ret fun w hw => hw
    exact Triple.frame quiet_recoverUpdatePersistSession hfresh.toJ hfresh.stable
      fun w o c hw hc hcall => hfresh.quiet w o c hw hc hcall
  split
  · exact Triple.bind (hfresh.piece quiet_trip) fun _ => L.skip hfresh
  · rename_i ledger
    refine Triple.bind (hfresh.piece quiet_checkLossGates) fun _ =>
      Triple.bind (hfresh.piece quiet_checkSessionBoundary) fun _ =>
        hfresh.lift fun snapshot _ => L.claimAndJudge

theorem evaluateNewest : L.Ends L.Ready live.evaluateNewest := by
  have hready := L.ready
  unfold LiveDecisionService.evaluateNewest
  refine hready.next (c := .latestSpec _) trivial fun spec => ?_
  split
  · exact L.skip hready
  refine hready.next (c := .recentBars ..) trivial fun bars => ?_
  dsimp only
  split
  · exact L.skip hready
  split
  · exact Triple.raise hready.toI
  refine hready.memory fun m => ?_
  split
  · exact (L.skip hready).pre fun w hw => hw.1
  -- what has been decided is older than this bar
  rename_i newest _ hnew
  have hfresh := L.fresh newest.openTimeUtc
  refine Triple.pre (P := L.Fresh newest.openTimeUtc) ?_ ?_
  · refine hfresh.next (c := .latestTick _) trivial fun tick => ?_
    split
    · exact L.skip hfresh
    refine hfresh.next (c := .latestAccountSnapshot) trivial fun account => ?_
    split
    · exact L.skip hfresh
    exact L.decideWindow
  · rintro w ⟨hw, rfl⟩
    exact L.check _ w hw (by simpa using hnew)

/-- **One decision**, whatever it comes to. -/
theorem decideOnce : L.Ends I live.decideOnce := by
  unfold LiveDecisionService.decideOnce
  refine L.idle.memory fun m => ?_
  dsimp only
  split
  · rename_i hm
    refine Triple.pre (Triple.bind L.recover fun _ => Triple.bind L.mark fun _ =>
      L.evaluateNewest) ?_
    rintro w ⟨hw, rfl⟩
    exact ⟨hw, by simpa using hm⟩
  · rename_i hm
    refine Triple.pre L.evaluateNewest ?_
    rintro w ⟨hw, rfl⟩
    exact L.recovered w hw (by simpa using hm)

include L in
/-- **Whatever the worker is set to do**, it begins and ends between passes. -/
theorem perform (task : LiveTask) : LiveTriple live E J I (live.perform task) (fun _ => I) I := by
  cases task with
  | reset operator incidentNote => exact L.reset operator incidentNote
  | decide => exact Triple.bind L.decideOnce fun outcome => L.report outcome

end LivePhases

end Crumblr
