import Crumblr.Application.Orchestration
import Crumblr.Proof.Verdicts
import Mathlib.Logic.Relation

/-!
# What a run can do

A run, wherever it stops, comes of a few kinds of moves: it computes, it takes a tick to its
broker, it hands something to its recorder, it halts, or it sends an order. It hands in the
submission of an order, and sends it, only while it is not halted, and sends only what it has just
handed in.
-/

namespace Crumblr

/-! ## Moves -/

/-- The submission of an order. -/
def RecorderCall.Submits (id : Uuid) : RecorderCall → Prop
  | .record (.orderSubmitted order) _ _ _ => order.orderRequestId = id
  | _ => False

/-- Neither a submission nor a halt; and no capsule, but to seal it. -/
def RecorderCall.Plain : RecorderCall → Prop
  | .record (.orderSubmitted _) _ _ _ => False
  | .record (.systemHalted _) _ _ _ => False
  | .record (.decisionCapsule _) _ _ _ => False
  | _ => True

/-- One move of a run. -/
inductive Move [Externals] : ReplayState → ReplayState → Prop
  | inside {s s' : ReplayState} : s'.calls = s.calls → s'.killSwitch = s.killSwitch →
      s'.broker = s.broker → Move s s'
  | tick (s : ReplayState) (tick : GeneratedTick) :
      Move s { s with broker := (s.broker.advance tick).1 }
  | call (s : ReplayState) (c : RecorderCall) : c.Plain → Move s { s with calls := s.calls ++ [c] }
  | halt (s : ReplayState) (record : HaltRecord) (halt : SystemHalted) (id : Uuid)
      (at_ : UtcDatetime) : s.killSwitch.isHalted = false →
      Move s { s with
        killSwitch := s.killSwitch.tripped record
        calls := s.calls ++ [.record (.systemHalted halt) id at_ "risk_engine"] }
  | submit (s : ReplayState) (order : OrderSubmitted) (id : Uuid) (at_ : UtcDatetime)
      (source : String) : s.killSwitch.isHalted = false →
      Move s { s with calls := s.calls ++ [.record (.orderSubmitted order) id at_ source] }
  | send (s : ReplayState) (order : ApprovedOrder) : s.killSwitch.isHalted = false →
      (∃ c ∈ s.calls.getLast?, c.Submits order.orderRequestId) →
      Move s { s with broker := (s.broker.orderSend order).2 }

/-- From one state to another by moves. -/
abbrev Moved [Externals] : ReplayState → ReplayState → Prop := Relation.ReflTransGen Move

namespace ReplaySetup

open Raising

/-- The run has not been halted. -/
def Running (s : ReplayState) : Prop := s.killSwitch.isHalted = false

variable [Externals] {self : ReplaySetup} {tick : GeneratedTick} {snapshot : MarketSnapshot}
  {w : Window} {s₀ : ReplayState} {α : Type}

/-- A computation made of moves. -/
abbrev Moves (s₀ : ReplayState) (x : ReplayRun α) : Prop := Maintains (Moved s₀) x

theorem moves_change {f : ReplayState → ReplayState} (hcalls : ∀ s, (f s).calls = s.calls)
    (hswitch : ∀ s, (f s).killSwitch = s.killSwitch) (hbroker : ∀ s, (f s).broker = s.broker) :
    Moves s₀ (change f) :=
  Maintains.change fun s h => h.tail (.inside (hcalls s) (hswitch s) (hbroker s))

theorem moves_call {c : RecorderCall} (hc : c.Plain) : Moves s₀ (call c) :=
  Maintains.change fun s h => h.tail (.call s c hc)

theorem moves_recordStage {payload : RunPayload} {source : String}
    (hc : (RecorderCall.record payload snapshot.snapshotId snapshot.eventTimeUtc source).Plain) :
    Moves s₀ (recordStage snapshot payload source) := moves_call hc

theorem moves_tallied {f : RunTally → RunTally} : Moves s₀ (tallied f) :=
  moves_change (fun _ => rfl) (fun _ => rfl) fun _ => rfl

section

variable {reasons : List ReasonCode} {trippedBy : String} {at_ : UtcDatetime} {id : Uuid}
  {detail : Option String} {s : ReplayState}

omit [Externals] in
theorem trip_halted (h : s.killSwitch.isHalted = true) :
    trip reasons trippedBy at_ id detail s = (.ok (), s) := by
  unfold trip
  rw [bind_eq (x := Raising.read) (s := s) rfl, if_pos h]
  rfl

omit [Externals] in
theorem trip_unreasoned (h : s.killSwitch.isHalted = false) (hreasons : reasons = []) :
    (trip reasons trippedBy at_ id detail s).2 = s := by
  unfold trip
  rw [bind_eq (x := Raising.read) (s := s) rfl, if_neg (by simp [h]), if_pos hreasons]
  rfl

omit [Externals] in
theorem trip_running (h : s.killSwitch.isHalted = false) (hreasons : ¬ reasons = []) :
    trip reasons trippedBy at_ id detail s = (.ok (), { s with
      killSwitch := s.killSwitch.tripped ⟨at_, reasons, trippedBy, detail⟩
      calls := s.calls ++ [.record (.systemHalted ⟨s.killSwitch.state, .halted, reasons,
        trippedBy, detail⟩) id at_ "risk_engine"] ++ [.flush] }) := by
  unfold trip
  rw [bind_eq (x := Raising.read) (s := s) rfl, if_neg (by simp [h]), if_neg hreasons]
  rfl

theorem moves_trip : Moves s₀ (trip reasons trippedBy at_ id detail) := by
  intro s hs
  cases hhalted : s.killSwitch.isHalted with
  | true =>
      rw [trip_halted hhalted]
      exact hs
  | false =>
      by_cases hreasons : reasons = []
      · rw [trip_unreasoned hhalted hreasons]
        exact hs
      · rw [trip_running hhalted hreasons]
        exact (hs.tail (.halt s _ _ id at_ hhalted)).tail (.call _ .flush trivial)

end

theorem moves_onSession {f : ReplayOrchestrator → ReplayOrchestrator} :
    Moves s₀ (onSession f) := moves_change (fun _ => rfl) (fun _ => rfl) fun _ => rfl

theorem moves_markEquity : Moves s₀ markEquity :=
  Maintains.read.bind fun _ => (Maintains.lift _).bind fun _ => moves_onSession

theorem moves_advance : Moves s₀ (advance tick) :=
  Maintains.change fun s h => h.tail (.tick s tick)

/-! ### What keeps a run going -/

/-- A verdict that lets a window go on leaves a run running that was running. -/
def StillRunning (on : Prop) (s : ReplayState) : Prop := on → Running s

/-- A computation that leaves the switch alone. -/
theorem Ensures.still {x : ReplayRun α} {on : Prop} (hx : Moves s₀ x)
    (hswitch : ∀ s a s', x s = (.ok a, s') → s'.killSwitch = s.killSwitch) :
    Ensures (Moved s₀) (StillRunning on) x fun _ => StillRunning on := by
  refine Maintains.ensures hx fun s a s' hs h hon => ?_
  unfold Running
  rw [hswitch s a s' h]
  exact hs hon

theorem moves_recordRisk {decision : RiskDecision} :
    Ensures (Moved s₀) (StillRunning (decision.verdict = .pass)) (recordRisk decision snapshot)
      fun _ => StillRunning (decision.verdict = .pass) := by
  unfold recordRisk
  refine Ensures.bind (Ensures.still moves_tallied fun s a s' h => ?_) fun _ => ?_
  · rw [change_ok h]
  · by_cases hhalt : decision.verdict = .halt
    · rw [if_pos hhalt]
      refine Maintains.ensures moves_trip fun s a s' _ _ hpass => ?_
      rw [hhalt] at hpass
      cases hpass
    · rw [if_neg hhalt]
      refine Ensures.still (Maintains.pure ()) fun s a s' h => ?_
      rw [(pure_ok h).2]

theorem moves_recordSupervisor {decision : SupervisorDecision} :
    Ensures (Moved s₀) (StillRunning (decision.verdict = .approve))
      (recordSupervisor decision snapshot) fun _ => StillRunning (decision.verdict = .approve) := by
  unfold recordSupervisor
  refine Ensures.bind (Ensures.still moves_tallied fun s a s' h => ?_) fun _ => ?_
  · rw [change_ok h]
  · by_cases hhalt : decision.verdict = .halt
    · rw [if_pos hhalt]
      refine Maintains.ensures moves_trip fun s a s' _ _ hpass => ?_
      rw [hhalt] at hpass
      cases hpass
    · rw [if_neg hhalt]
      refine Ensures.still (Maintains.pure ()) fun s a s' h => ?_
      rw [(pure_ok h).2]

/-! ### A window -/

theorem moves_sealWindow {intent : Option TradeIntent} {risk : Option RiskDecision}
    {supervisor : Option SupervisorDecision} {result : Option SimulatedResult} :
    Moves s₀ (self.sealWindow w intent risk supervisor result) :=
  Maintains.read.bind fun _ => (Maintains.lift _).bind fun _ =>
    (moves_call (c := .seal _) trivial).bind fun _ => Maintains.pure _

/-- An order is sent right behind its submission. -/
theorem moves_orderSend {order : ApprovedOrder} :
    Ensures (Moved s₀) (fun s => Running s ∧ ∃ c ∈ s.calls.getLast?, c.Submits order.orderRequestId)
      (orderSend order) fun _ _ => True := by
  rintro s hs ⟨hrunning, hsubmitted⟩
  exact ⟨hs.tail (.send s order hrunning hsubmitted), fun _ _ _ => trivial⟩

theorem moves_submit {order : OrderSubmitted} {source : String} :
    Ensures (Moved s₀) Running (recordStage snapshot (.orderSubmitted order) source)
      fun _ s => Running s ∧ ∃ c ∈ s.calls.getLast?, c.Submits order.orderRequestId := by
  intro s hs hrunning
  refine ⟨hs.tail (.submit s order _ _ source hrunning), fun a s' h => ?_⟩
  unfold recordStage call at h
  obtain rfl := change_ok h
  exact ⟨hrunning, _, List.getLast?_concat, rfl⟩

/-- What leaves the state alone leaves the run running. -/
theorem Ensures.reading {x : ReplayRun α} {P : ReplayState → Prop} (hx : Moves s₀ x)
    (hsame : ∀ s a s', x s = (.ok a, s') → s = s') : Ensures (Moved s₀) P x fun _ => P := by
  refine Maintains.ensures hx fun s a s' hs h => ?_
  rw [← hsame s a s' h]
  exact hs

theorem reading_read {P : ReplayState → Prop} :
    Ensures (Moved s₀) P (Raising.read : ReplayRun ReplayState) fun _ => P :=
  Ensures.reading Maintains.read fun _ _ _ h => (read_ok h).2

theorem reading_lift {P : ReplayState → Prop} (y : Except PyError α) :
    Ensures (Moved s₀) P (Raising.lift y : ReplayRun α) fun _ => P :=
  Ensures.reading (Maintains.lift y) fun _ _ _ h => (lift_ok h).2

theorem moves_execute {intent : TradeIntent} {risk : RiskDecision}
    {supervisor : SupervisorDecision} :
    Ensures (Moved s₀) Running (self.execute intent risk supervisor snapshot) fun _ _ => True := by
  unfold execute
  refine Ensures.bind (reading_lift _) fun order => ?_
  refine Ensures.bind reading_read fun s => ?_
  refine Ensures.bind (reading_lift _) fun check => ?_
  have hchecked : Ensures (Moved s₀) Running
      (recordStage snapshot (.orderCheckCompleted check) "mt5_gateway") fun _ => Running := by
    refine Maintains.ensures (moves_recordStage trivial) fun s a s' hs h => ?_
    unfold recordStage call at h
    obtain rfl := change_ok h
    exact hs
  refine Ensures.bind hchecked fun _ => ?_
  split
  · refine Maintains.ensures (moves_tallied.bind fun _ => Maintains.pure none) ?_
    exact fun _ _ _ _ _ => trivial
  · refine Ensures.bind (reading_lift _) fun before => ?_
    refine Ensures.bind moves_submit fun _ => ?_
    refine Ensures.bind moves_orderSend fun result => ?_
    have hrest : ∀ payload source,
        (RecorderCall.record payload snapshot.snapshotId snapshot.eventTimeUtc source).Plain →
        Ensures (Moved s₀) (fun _ => True) (recordStage snapshot payload source) fun _ _ => True :=
      fun payload source hplain =>
        Maintains.ensures (moves_recordStage hplain) fun _ _ _ _ _ => trivial
    refine Ensures.bind (hrest _ _ trivial) fun _ => ?_
    refine Ensures.bind reading_read fun s => ?_
    refine Ensures.bind (reading_lift _) fun after => ?_
    refine Ensures.bind (hrest _ _ trivial) fun _ => ?_
    refine Maintains.ensures ?_ fun _ _ _ _ _ => trivial
    refine moves_tallied.bind fun _ => Maintains.bind ?_ fun _ => Maintains.pure _
    exact moves_change (fun _ => rfl) (fun _ => rfl) fun _ => rfl

/-- The supervisor lets an order through only while the run is running. -/
theorem moves_supervise {intent : TradeIntent} {risk : RiskDecision} :
    Ensures (Moved s₀) Running (self.supervise w intent risk) fun _ _ => True := by
  unfold supervise
  refine Ensures.bind reading_read fun s => ?_
  dsimp only
  generalize Pretrade.evaluate intent w.features self.policy _ _ = decision
  have hrecorded : Ensures (Moved s₀) Running
      (recordStage w.snapshot (.supervisorDecision decision) "supervisor")
      fun _ => StillRunning (decision.verdict = .approve) := by
    refine Maintains.ensures (moves_recordStage trivial) fun s a s' hs h _ => ?_
    unfold recordStage call at h
    obtain rfl := change_ok h
    exact hs
  refine Ensures.bind hrecorded fun _ => Ensures.bind moves_recordSupervisor fun _ => ?_
  by_cases happroved : decision.verdict = .approve
  · rw [if_neg (not_not.mpr happroved)]
    refine Ensures.weaken (P := Running) ?_ fun s hs => hs happroved
    refine Ensures.bind moves_execute fun _ => ?_
    refine Maintains.ensures ?_ fun _ _ _ _ _ => trivial
    exact Maintains.bind (moves_change (fun _ => rfl) (fun _ => rfl) fun _ => rfl)
      fun _ => moves_sealWindow
  · rw [if_pos happroved]
    exact Maintains.ensures moves_sealWindow fun _ _ _ _ _ => trivial

omit [Externals] in
theorem failing_of_mem {legs : List (Bool × ReasonCode)} {reason : ReasonCode}
    (h : (true, reason) ∈ legs) : failing legs ≠ [] := by
  intro hnone
  have hleg := failing_eq_nil.mp hnone _ h
  cases hleg

/-- Risk passes nothing while the switch is halted. -/
theorem evaluate_running {intent : TradeIntent} {spec : InstrumentSpec}
    {portfolio : PortfolioState} {context : RiskContext} {killSwitch : KillSwitch}
    {now : UtcDatetime} {decision : RiskDecision}
    (h : evaluate intent snapshot spec portfolio context killSwitch now = .ok decision)
    (hpass : decision.verdict = .pass) : killSwitch.isHalted = false := by
  by_contra hhalted
  have hhalted : killSwitch.isHalted = true := by simpa using hhalted
  unfold evaluate at h
  obtain ⟨stop, -, h⟩ := Crumblr.bind_ok h
  obtain ⟨points, -, h⟩ := Crumblr.bind_ok h
  have hlegs : (true, ReasonCode.systemHalted)
      ∈ entryLegs intent snapshot portfolio context killSwitch now := by
    unfold entryLegs
    rw [hhalted]
    exact List.mem_cons_self
  have hfails : (true, ReasonCode.systemHalted)
      ∈ entryLegs intent snapshot portfolio context killSwitch now
        ++ stopLegs (stopDistanceFrom intent.referencePrice.val stop) points context.risk spec
        ++ exposureLegs intent snapshot portfolio context :=
    List.mem_append_left _ (List.mem_append_left _ hlegs)
  have hne := failing_of_mem hfails
  rw [if_pos hne] at h
  obtain ⟨d, hd, hdecides⟩ := refuseRisk_decides intent context now hne ""
  rw [hd] at h
  cases h
  exact hne (hdecides.pass.mp hpass)

/-- And so an intent is supervised only while the run is running. -/
theorem moves_judgeIntent {intent : TradeIntent} : Moves s₀ (self.judgeIntent w intent) := by
  unfold judgeIntent
  refine moves_tallied.bind fun _ => Maintains.bind (moves_recordStage (by trivial)) fun _ => ?_
  refine Maintains.bind (moves_change (fun _ => rfl) (fun _ => rfl) fun _ => rfl) fun _ => ?_
  have hread : Ensures (Moved s₀) (fun _ => True) (Raising.read : ReplayRun ReplayState)
      fun s t => s.killSwitch = t.killSwitch := by
    refine Maintains.ensures Maintains.read fun s t s' _ h => ?_
    obtain ⟨rfl, rfl⟩ := read_ok h
    rfl
  refine Ensures.maintains (Q := fun _ _ => True) (P := fun _ => True) ?_ fun _ => trivial
  refine Ensures.bind hread fun s => Ensures.bind (reading_lift _) fun portfolio => ?_
  have hjudged : Ensures (Moved s₀) (fun t => s.killSwitch = t.killSwitch)
      (Raising.lift (evaluate intent w.snapshot self.spec portfolio self.riskContext s.killSwitch
        w.snapshot.receivedTimeUtc) : ReplayRun RiskDecision)
      fun decision => StillRunning (decision.verdict = .pass) := by
    refine Maintains.ensures (Maintains.lift _) fun t decision t' hswitch h hpass => ?_
    obtain ⟨hdecision, rfl⟩ := lift_ok h
    unfold Running
    rw [← hswitch]
    exact evaluate_running hdecision hpass
  refine Ensures.bind hjudged fun decision => ?_
  refine Ensures.bind (Ensures.still (moves_recordStage trivial) fun s a s' h => ?_) fun _ => ?_
  · unfold recordStage call at h
    rw [change_ok h]
  refine Ensures.bind moves_recordRisk fun _ => ?_
  by_cases hpassed : decision.verdict = .pass
  · rw [if_neg (not_not.mpr hpassed)]
    exact moves_supervise.weaken fun s hs => hs hpassed
  · rw [if_pos hpassed]
    exact Maintains.ensures moves_sealWindow fun _ _ _ _ _ => trivial

theorem moves_judge {decision : StrategyDecision} : Moves s₀ (self.judge w decision) := by
  unfold judge
  refine (moves_call (c := .recordFeatures _) trivial).bind fun _ => ?_
  refine Maintains.bind (moves_recordStage (by trivial)) fun _ => ?_
  cases decision.intent with
  | none => exact moves_tallied.bind fun _ => moves_sealWindow
  | some intent => exact moves_judgeIntent

theorem moves_unavailable : Moves s₀ unavailable := moves_tallied.bind fun _ => Maintains.pure _

theorem moves_processWindow : Moves s₀ (self.processWindow tick) := by
  unfold processWindow
  refine Maintains.read.bind fun s => Maintains.ite moves_unavailable ?_
  refine (Maintains.lift _).bind fun snapshot => (Maintains.lift _).bind fun positions => ?_
  refine (Maintains.lift _).bind fun outcome => ?_
  cases outcome.features with
  | none => exact moves_unavailable
  | some features => exact moves_judge.bind fun _ => Maintains.pure _

/-! ### A tick -/

theorem moves_recoverSession : Moves s₀ (self.recoverSession tick) := by
  unfold recoverSession
  refine Maintains.read.bind fun s => (Maintains.lift _).bind fun equity => ?_
  refine (Maintains.lift _).bind fun positions => (Maintains.lift _).bind fun recovery => ?_
  refine Maintains.bind (moves_change (fun _ => rfl) (fun _ => rfl) fun _ => rfl) fun _ => ?_
  exact Maintains.ite moves_trip (Maintains.pure ())

theorem moves_persistSession : Moves s₀ (self.persistSession tick) := by
  unfold persistSession
  refine Maintains.read.bind fun s => Maintains.ite (Maintains.pure ()) ?_
  exact (Maintains.lift _).bind fun _ => moves_onSession

theorem moves_checkLossGates : Moves s₀ (self.checkLossGates tick) :=
  Maintains.read.bind fun _ => Maintains.ite (Maintains.pure ()) moves_trip

theorem moves_checkSessionBoundary : Moves s₀ (self.checkSessionBoundary tick) := by
  unfold checkSessionBoundary
  refine Maintains.read.bind fun s => Maintains.ite (Maintains.pure ()) ?_
  exact (Maintains.lift _).bind fun _ => Maintains.ite moves_trip (Maintains.pure ())

theorem moves_observeTick : Moves s₀ (self.observeTick tick) := by
  unfold observeTick
  refine moves_tallied.bind fun _ => (Maintains.lift _).bind fun stored => ?_
  have hobserve : Moves s₀ (call (.observe stored (some (tick.asMarketBar self.spec timeframe)))) :=
    moves_call trivial
  refine hobserve.bind fun _ => Maintains.bind ?_ fun _ => moves_tallied
  exact Maintains.change fun s h => h.tail (.inside rfl rfl rfl)

theorem moves_settleTick : Moves s₀ (self.settleTick tick) := by
  unfold settleTick
  refine moves_processWindow.bind fun _ => ?_
  refine Maintains.bind (moves_change (fun _ => rfl) (fun _ => rfl) fun _ => rfl) fun _ => ?_
  exact moves_checkLossGates.bind fun _ => moves_checkSessionBoundary.bind fun _ =>
    moves_persistSession

theorem moves_takeTick : Moves s₀ (self.takeTick tick) :=
  moves_onSession.bind fun _ => moves_markEquity.bind fun _ => moves_observeTick.bind fun _ =>
    moves_settleTick

/-! ### A run -/

theorem moves_nextTick : Moves s₀ (self.nextTick tick) := moves_advance.bind fun _ => moves_takeTick

theorem moves_firstTick : Moves s₀ (self.firstTick tick) := by
  unfold firstTick
  refine moves_advance.bind fun _ => moves_recoverSession.bind fun _ => ?_
  refine Maintains.bind (moves_change (fun _ => rfl) (fun _ => rfl) fun _ => rfl) fun _ => ?_
  exact moves_takeTick

theorem moves_nextTicks {ticks : List GeneratedTick} : Moves s₀ (each self.nextTick ticks) :=
  Maintains.each fun _ => moves_nextTick

theorem moves_takeTicks {ticks : List GeneratedTick} : Moves s₀ (self.takeTicks ticks) := by
  cases ticks with
  | nil => exact Maintains.pure ()
  | cons first ticks => exact moves_firstTick.bind fun _ => moves_nextTicks

/-- **Whatever becomes of a run, it came there by moves.** -/
theorem moves_run {ticks : List GeneratedTick} : Moves s₀ (self.run ticks) := by
  unfold run
  refine moves_takeTicks.bind fun _ => moves_markEquity.bind fun _ => ?_
  refine (moves_call (c := .flush) trivial).bind fun _ => ?_
  exact Maintains.read.bind fun _ => Maintains.lift _

end ReplaySetup

end Crumblr
