import Crumblr.Application.Reconstruction
import Crumblr.Proof.RunJournal

/-!
# One decision window

What a window records, and what it counts. A window in which the strategy had something to say
records its stages in their order, leaving none out, up to the one where it ended, and then its
capsule; a halt may come in between, and no run halts twice.
-/

namespace Crumblr

/-! ## What stages are about -/

def Noted.type (n : Noted) : EventType := eventTypeFor n.payload

def RunPayload.capsule? : RunPayload → Option RunCapsule
  | .decisionCapsule capsule => some capsule
  | _ => none

def RunPayload.signal? : RunPayload → Option SignalGenerated
  | .signalGenerated signal => some signal
  | _ => none

def RunPayload.halt? : RunPayload → Option SystemHalted
  | .systemHalted halt => some halt
  | _ => none

def capsulesIn (ns : List Noted) : List RunCapsule := ns.filterMap fun n => n.payload.capsule?

def signalsIn (ns : List Noted) : List SignalGenerated := ns.filterMap fun n => n.payload.signal?

def haltsIn (ns : List Noted) : List SystemHalted := ns.filterMap fun n => n.payload.halt?

/-- The stages a replay goes through, less the sealing. -/
def stageFlow : List EventType :=
  [.signalGenerated, .tradeIntentCreated, .riskDecisionMade, .supervisorDecisionMade,
   .orderCheckCompleted, .orderSubmitted, .orderResultReceived, .positionChanged]

/-- The types of what was recorded, less the halts. -/
def stagesOf (ns : List Noted) : List EventType :=
  (ns.map Noted.type).filter fun t => decide (t ≠ .systemHalted)

section

variable {ns ns' : List Noted}

@[simp] theorem capsulesIn_append : capsulesIn (ns ++ ns') = capsulesIn ns ++ capsulesIn ns' :=
  List.filterMap_append

@[simp] theorem signalsIn_append : signalsIn (ns ++ ns') = signalsIn ns ++ signalsIn ns' :=
  List.filterMap_append

@[simp] theorem haltsIn_append : haltsIn (ns ++ ns') = haltsIn ns ++ haltsIn ns' :=
  List.filterMap_append

@[simp] theorem stagesOf_append : stagesOf (ns ++ ns') = stagesOf ns ++ stagesOf ns' := by
  simp [stagesOf]

end

/-- Nothing but halts, of one window. -/
def OnlyHalts (id : Uuid) (ns : List Noted) : Prop :=
  ∀ n ∈ ns, n.correlationId = id ∧ ∃ halt, n.payload = .systemHalted halt

section

variable {id : Uuid} {ns : List Noted}

theorem OnlyHalts.nil : OnlyHalts id [] := fun n hn => by cases hn

theorem OnlyHalts.capsulesIn (h : OnlyHalts id ns) : capsulesIn ns = [] := by
  refine List.filterMap_eq_nil_iff.mpr fun n hn => ?_
  obtain ⟨-, halt, hpayload⟩ := h n hn
  rw [hpayload]
  rfl

theorem OnlyHalts.signalsIn (h : OnlyHalts id ns) : signalsIn ns = [] := by
  refine List.filterMap_eq_nil_iff.mpr fun n hn => ?_
  obtain ⟨-, halt, hpayload⟩ := h n hn
  rw [hpayload]
  rfl

theorem OnlyHalts.stagesOf (h : OnlyHalts id ns) : stagesOf ns = [] := by
  refine List.filter_eq_nil_iff.mpr fun t ht => ?_
  obtain ⟨n, hn, rfl⟩ := List.mem_map.mp ht
  obtain ⟨-, halt, hpayload⟩ := h n hn
  simp [Noted.type, hpayload, eventTypeFor]

end

/-! ## What a computation adds -/

namespace ReplayState

/-- The stages recorded so far. -/
def noted (s : ReplayState) : List Noted := s.calls.flatMap RecorderCall.noted

/-- One once the run is halted. -/
def haltCount (s : ReplayState) : Nat := if s.killSwitch.isHalted then 1 else 0

/-- Stages were recorded, and a halt among them if the run was halted meanwhile. -/
structure Adds (ns : List Noted) (s s' : ReplayState) : Prop where
  noted : s'.noted = s.noted ++ ns
  capsules : s'.capsules = s.capsules
  halts : s'.haltCount = s.haltCount + (haltsIn ns).length

variable {ns ns' : List Noted} {s s' s'' : ReplayState}

theorem Adds.trans (h : Adds ns s s') (h' : Adds ns' s' s'') : Adds (ns ++ ns') s s'' where
  noted := by rw [h'.noted, h.noted, List.append_assoc]
  capsules := h'.capsules.trans h.capsules
  halts := by
    rw [h'.halts, h.halts, haltsIn_append, List.length_append]
    omega

/-- Nothing that the account is about. -/
theorem Adds.silent (hcalls : s'.noted = s.noted) (hcapsules : s'.capsules = s.capsules)
    (hswitch : s'.killSwitch = s.killSwitch) : Adds [] s s' where
  noted := by rw [hcalls, List.append_nil]
  capsules := hcapsules
  halts := by
    unfold haltCount
    rw [hswitch]
    rfl

theorem noted_call {c : RecorderCall} :
    noted { s with calls := s.calls ++ [c] } = s.noted ++ c.noted := by
  simp [noted]

theorem Adds.call {c : RecorderCall} (hc : haltsIn c.noted = []) :
    Adds c.noted s { s with calls := s.calls ++ [c] } where
  noted := noted_call
  capsules := rfl
  halts := by
    rw [hc]
    rfl

end ReplayState

namespace ReplaySetup

open Raising ReplayState

variable {self : ReplaySetup} {snapshot : MarketSnapshot} {w : Window} {s s' : ReplayState}
  {u : Unit}

/-- What a stage of a window adds. -/
def stage (snapshot : MarketSnapshot) (payload : RunPayload) : Noted :=
  ⟨payload, snapshot.snapshotId, snapshot.eventTimeUtc⟩

theorem recordStage_ok {payload : RunPayload} {source : String} (hp : payload.halt? = none)
    (h : recordStage snapshot payload source s = (.ok u, s')) :
    Adds [stage snapshot payload] s s' ∧ s'.tally = s.tally := by
  unfold recordStage call at h
  obtain rfl := change_ok h
  refine ⟨Adds.call (c := .record payload _ _ source) ?_, rfl⟩
  simp [haltsIn, RecorderCall.noted, hp]

theorem tallied_ok {f : RunTally → RunTally} (h : tallied f s = (.ok u, s')) :
    Adds [] s s' ∧ s'.tally = f s.tally := by
  unfold tallied at h
  obtain rfl := change_ok h
  exact ⟨.silent rfl rfl rfl, rfl⟩

/-- A trip that returns has halted, and says so once. -/
theorem trip_ok {reasons : List ReasonCode} {trippedBy : String} {at_ : UtcDatetime}
    {id : Uuid} {detail : Option String}
    (h : trip reasons trippedBy at_ id detail s = (.ok u, s')) :
    ∃ ns, OnlyHalts id ns ∧ Adds ns s s' ∧ s'.tally = s.tally := by
  unfold trip call at h
  obtain ⟨t, s₁, hread, h⟩ := Raising.bind_ok h
  obtain ⟨rfl, rfl⟩ := read_ok hread
  split at h
  · obtain ⟨-, rfl⟩ := pure_ok h
    exact ⟨[], .nil, .silent rfl rfl rfl, rfl⟩
  · rename_i hrunning
    split at h
    · obtain ⟨hraised, -⟩ := lift_ok h
      cases hraised
    · obtain ⟨_, s₂, hswitch, h⟩ := Raising.bind_ok h
      obtain ⟨_, s₃, hrecord, hflush⟩ := Raising.bind_ok h
      obtain rfl := change_ok hswitch
      obtain rfl := change_ok hrecord
      obtain rfl := change_ok hflush
      refine ⟨[⟨.systemHalted ⟨s.killSwitch.state, .halted, reasons, trippedBy, detail⟩, id, at_⟩],
        ?_, ⟨?_, rfl, ?_⟩, rfl⟩
      · intro n hn
        obtain rfl := List.mem_singleton.mp hn
        exact ⟨rfl, _, rfl⟩
      · simp [ReplayState.noted, RecorderCall.noted]
      · simp [haltCount, hrunning, haltsIn, RunPayload.halt?]

theorem recordRisk_ok {decision : RiskDecision}
    (h : recordRisk decision snapshot s = (.ok u, s')) :
    ∃ ns, OnlyHalts snapshot.snapshotId ns ∧ Adds ns s s' ∧ s'.tally = s.tally.risk decision := by
  unfold recordRisk at h
  obtain ⟨_, s₁, htally, h⟩ := Raising.bind_ok h
  obtain ⟨hadds, htally⟩ := tallied_ok htally
  split at h
  · obtain ⟨ns, hhalts, hadds', htally'⟩ := trip_ok h
    exact ⟨ns, hhalts, hadds.trans hadds', htally'.trans htally⟩
  · obtain ⟨-, rfl⟩ := pure_ok h
    exact ⟨[], .nil, hadds, htally⟩

theorem recordSupervisor_ok {decision : SupervisorDecision}
    (h : recordSupervisor decision snapshot s = (.ok u, s')) :
    ∃ ns, OnlyHalts snapshot.snapshotId ns ∧ Adds ns s s'
      ∧ s'.tally = s.tally.supervisor decision := by
  unfold recordSupervisor at h
  obtain ⟨_, s₁, htally, h⟩ := Raising.bind_ok h
  obtain ⟨hadds, htally⟩ := tallied_ok htally
  split at h
  · obtain ⟨ns, hhalts, hadds', htally'⟩ := trip_ok h
    exact ⟨ns, hhalts, hadds.trans hadds', htally'.trans htally⟩
  · obtain ⟨-, rfl⟩ := pure_ok h
    exact ⟨[], .nil, hadds, htally⟩

variable [Externals]

/-- What a capsule says, as far as it is counted. -/
structure Says (w : Window) (capsule : RunCapsule) (intent : Option TradeIntent)
    (risk : Option RiskDecision) (supervisor : Option SupervisorDecision)
    (result : Option SimulatedResult) : Prop where
  correlation : capsule.correlationId = w.snapshot.snapshotId
  intent_eq : capsule.tradeIntent = intent
  risk_eq : capsule.riskDecision = risk
  supervisor_eq : capsule.supervisorDecision = supervisor
  result_eq : capsule.executionResult = result

theorem sealWindow_ok {intent : Option TradeIntent} {risk : Option RiskDecision}
    {supervisor : Option SupervisorDecision} {result : Option SimulatedResult}
    {capsule : RunCapsule}
    (h : self.sealWindow w intent risk supervisor result s = (.ok capsule, s')) :
    Says w capsule intent risk supervisor result
      ∧ Adds [stage w.snapshot (.decisionCapsule capsule)] s s' ∧ s'.tally = s.tally := by
  unfold sealWindow call at h
  obtain ⟨t, s₁, hread, h⟩ := Raising.bind_ok h
  obtain ⟨rfl, rfl⟩ := read_ok hread
  obtain ⟨positions, s₂, hpositions, h⟩ := Raising.bind_ok h
  obtain ⟨-, rfl⟩ := lift_ok hpositions
  obtain ⟨_, s₃, hseal, h⟩ := Raising.bind_ok h
  obtain rfl := change_ok hseal
  obtain ⟨rfl, rfl⟩ := pure_ok h
  exact ⟨⟨rfl, rfl, rfl, rfl, rfl⟩, Adds.call (c := .seal _) rfl, rfl⟩

theorem orderSend_ok {order : ApprovedOrder} {result : SimulatedResult}
    (h : orderSend order s = (.ok result, s')) : Adds [] s s' ∧ s'.tally = s.tally := by
  unfold orderSend at h
  rcases hsend : s.broker.orderSend order with ⟨answer, broker⟩
  rw [hsend] at h
  cases h
  exact ⟨.silent rfl rfl rfl, rfl⟩

/-- An order comes to its check alone, or to all of its stages. -/
theorem execute_ok {intent : TradeIntent} {risk : RiskDecision} {supervisor : SupervisorDecision}
    {result : Option SimulatedResult}
    (h : self.execute intent risk supervisor snapshot s = (.ok result, s')) :
    (∃ check, result = none ∧ Adds [stage snapshot (.orderCheckCompleted check)] s s'
        ∧ s'.tally = { s.tally with orderCheckRejected := s.tally.orderCheckRejected + 1 })
      ∨ ∃ check submitted received changed, result.isSome
        ∧ Adds [stage snapshot (.orderCheckCompleted check), stage snapshot (.orderSubmitted submitted),
            stage snapshot (.orderResultReceived received), stage snapshot (.positionChanged changed)]
            s s'
        ∧ s'.tally = { s.tally with ordersFilled := s.tally.ordersFilled + 1 } := by
  unfold execute at h
  obtain ⟨order, s₁, horder, h⟩ := Raising.bind_ok h
  obtain ⟨-, rfl⟩ := lift_ok horder
  obtain ⟨t, s₁, hread, h⟩ := Raising.bind_ok h
  obtain ⟨rfl, rfl⟩ := read_ok hread
  obtain ⟨check, s₁, hcheck, h⟩ := Raising.bind_ok h
  obtain ⟨-, rfl⟩ := lift_ok hcheck
  obtain ⟨_, s₁, hrecord, h⟩ := Raising.bind_ok h
  obtain ⟨hchecked, htally⟩ := recordStage_ok rfl hrecord
  split at h
  · obtain ⟨_, s₂, hrejected, h⟩ := Raising.bind_ok h
    obtain ⟨hsilent, hcount⟩ := tallied_ok hrejected
    obtain ⟨rfl, rfl⟩ := pure_ok h
    refine .inl ⟨check, rfl, hchecked.trans hsilent, ?_⟩
    rw [hcount, htally]
  · obtain ⟨before, s₂, hbefore, h⟩ := Raising.bind_ok h
    obtain ⟨-, rfl⟩ := lift_ok hbefore
    obtain ⟨_, s₂, hrecord, h⟩ := Raising.bind_ok h
    obtain ⟨hsubmitted, htally₂⟩ := recordStage_ok rfl hrecord
    obtain ⟨sent, s₃, hsend, h⟩ := Raising.bind_ok h
    obtain ⟨hsent, htally₃⟩ := orderSend_ok hsend
    obtain ⟨_, s₄, hrecord, h⟩ := Raising.bind_ok h
    obtain ⟨hreceived, htally₄⟩ := recordStage_ok rfl hrecord
    obtain ⟨t, s₅, hread, h⟩ := Raising.bind_ok h
    obtain ⟨rfl, rfl⟩ := read_ok hread
    obtain ⟨after, s₅, hafter, h⟩ := Raising.bind_ok h
    obtain ⟨-, rfl⟩ := lift_ok hafter
    obtain ⟨_, s₅, hrecord, h⟩ := Raising.bind_ok h
    obtain ⟨hchanged, htally₅⟩ := recordStage_ok rfl hrecord
    obtain ⟨_, s₆, hfilled, h⟩ := Raising.bind_ok h
    obtain ⟨hsilent, hcount⟩ := tallied_ok hfilled
    obtain ⟨_, s₇, htimes, h⟩ := Raising.bind_ok h
    obtain rfl := change_ok htimes
    obtain ⟨rfl, rfl⟩ := pure_ok h
    have hadds := ((((hchecked.trans hsubmitted).trans hsent).trans hreceived).trans hchanged).trans
      hsilent
    refine .inr ⟨check, _, _, _, rfl, hadds.trans (.silent rfl rfl rfl), ?_⟩
    change s₆.tally = _
    rw [hcount, htally₅, htally₄, htally₃, htally₂, htally]

end ReplaySetup

/-! ## What is recorded of a window -/

open ReplaySetup in
/-- All of one window, and at its time but for the halts. -/
def InWindow (snapshot : MarketSnapshot) (ns : List Noted) : Prop :=
  ∀ n ∈ ns, n.correlationId = snapshot.snapshotId
    ∧ (n.payload.halt? = none → n.occurredAtUtc = snapshot.eventTimeUtc)

/-- What is recorded of a window from the `m`-th stage on, its capsule at the end. -/
structure Flows (snapshot : MarketSnapshot) (m : Nat) (ns : List Noted) (capsule : RunCapsule) :
    Prop where
  window : InWindow snapshot ns
  signals : signalsIn ns = []
  capsules : capsulesIn ns = [capsule]
  stages : ∃ k, stagesOf ns = (stageFlow.drop m).take k ++ [.decisionCapsuleSealed]

section

open ReplaySetup

variable {snapshot : MarketSnapshot} {m : Nat} {ns hs : List Noted} {capsule : RunCapsule}

theorem Flows.sealed (m : Nat) :
    Flows snapshot m [stage snapshot (.decisionCapsule capsule)] capsule where
  window n hn := by
    obtain rfl := List.mem_singleton.mp hn
    exact ⟨rfl, fun _ => rfl⟩
  signals := rfl
  capsules := rfl
  stages := ⟨0, rfl⟩

/-- The next stage, before what follows it. -/
theorem Flows.cons {payload : RunPayload} (hm : stageFlow[m]? = some (eventTypeFor payload))
    (hsignal : payload.signal? = none) (h : Flows snapshot (m + 1) ns capsule) :
    Flows snapshot m (stage snapshot payload :: ns) capsule where
  window n hn := by
    rcases List.mem_cons.mp hn with rfl | hn
    · exact ⟨rfl, fun _ => rfl⟩
    · exact h.window n hn
  signals := by
    have hcons : signalsIn (stage snapshot payload :: ns) = signalsIn ns :=
      List.filterMap_cons_none hsignal
    rw [hcons, h.signals]
  capsules := by
    have hnone : payload.capsule? = none := by
      cases payload with
      | decisionCapsule c =>
          have hin := List.mem_of_getElem? hm
          simp [stageFlow, eventTypeFor] at hin
      | _ => rfl
    have hcons : capsulesIn (stage snapshot payload :: ns) = capsulesIn ns :=
      List.filterMap_cons_none hnone
    rw [hcons, h.capsules]
  stages := by
    obtain ⟨k, hk⟩ := h.stages
    obtain ⟨hlt, hget⟩ := List.getElem?_eq_some_iff.mp hm
    have hstage : eventTypeFor payload ≠ .systemHalted := by
      intro heq
      rw [heq] at hm
      have hin := List.mem_of_getElem? hm
      simp [stageFlow] at hin
    refine ⟨k + 1, ?_⟩
    rw [List.drop_eq_getElem_cons hlt, List.take_succ_cons, hget, List.cons_append, ← hk]
    simp [stagesOf, stage, Noted.type, hstage]

/-- A halt in between is no stage. -/
theorem Flows.halted (hhalts : OnlyHalts snapshot.snapshotId hs) (h : Flows snapshot m ns capsule) :
    Flows snapshot m (hs ++ ns) capsule where
  window n hn := by
    rcases List.mem_append.mp hn with hn | hn
    · obtain ⟨hid, halt, hpayload⟩ := hhalts n hn
      refine ⟨hid, fun hnone => ?_⟩
      rw [hpayload] at hnone
      cases hnone
    · exact h.window n hn
  signals := by rw [signalsIn_append, hhalts.signalsIn, h.signals, List.nil_append]
  capsules := by rw [capsulesIn_append, hhalts.capsulesIn, h.capsules, List.nil_append]
  stages := by
    obtain ⟨k, hk⟩ := h.stages
    exact ⟨k, by rw [stagesOf_append, hhalts.stagesOf, hk, List.nil_append]⟩

end

/-! ## What is counted -/

namespace Reconstruction

/-- One window of the recount, with its signal. -/
def countWindow (tally : RunTally) (signal : SignalGenerated) (capsule : RunCapsule) : RunTally :=
  if capsule.tradeIntent.isNone then
    { countCapsule tally capsule with
      noTradeReasons := tally.noTradeReasons.countAll signal.reasonCodes }
  else countCapsule tally capsule

variable {tally : RunTally}

theorem countRisk_eq (risk : RiskDecision) : countRisk tally risk = tally.risk risk := by
  unfold countRisk RunTally.risk
  cases risk.verdict <;> rfl

theorem countSupervisor_refused {supervisor : SupervisorDecision} (h : supervisor.verdict ≠ .approve)
    (result : Option SimulatedResult) :
    countSupervisor tally supervisor result = tally.supervisor supervisor := by
  unfold countSupervisor RunTally.supervisor
  cases hverdict : supervisor.verdict with
  | approve => exact absurd hverdict h
  | veto => rfl
  | halt => rfl

theorem countSupervisor_rejected {supervisor : SupervisorDecision}
    (h : supervisor.verdict = .approve) :
    countSupervisor tally supervisor none
      = { tally.supervisor supervisor with
          orderCheckRejected := (tally.supervisor supervisor).orderCheckRejected + 1 } := by
  unfold countSupervisor RunTally.supervisor
  rw [h]
  rfl

theorem countSupervisor_filled {supervisor : SupervisorDecision} {result : Option SimulatedResult}
    (h : supervisor.verdict = .approve) (hresult : result.isSome) :
    countSupervisor tally supervisor result
      = { tally.supervisor supervisor with
          ordersFilled := (tally.supervisor supervisor).ordersFilled + 1 } := by
  obtain ⟨r, rfl⟩ := Option.isSome_iff_exists.mp hresult
  unfold countSupervisor RunTally.supervisor
  rw [h]
  rfl

end Reconstruction

/-! ## A window that was decided -/

/-- A capsule carries a verdict just where the one before it let the window go on. -/
structure RunCapsule.Chained (c : RunCapsule) : Prop where
  risk : c.riskDecision.isSome = c.tradeIntent.isSome
  supervisor : c.supervisorDecision.isSome
    = c.riskDecision.any fun risk => decide (risk.verdict = .pass)
  result : c.executionResult.isSome →
    c.supervisorDecision.any (fun supervisor => decide (supervisor.verdict = .approve)) = true

/-- A window was recorded, its stages in order, and counted as its capsule is counted. -/
structure Decided (snapshot : MarketSnapshot) (s s' : ReplayState) (ns : List Noted)
    (signal : SignalGenerated) (capsule : RunCapsule) : Prop where
  adds : ReplayState.Adds ns s s'
  window : InWindow snapshot ns
  signals : signalsIn ns = [signal]
  capsules : capsulesIn ns = [capsule]
  stages : ∃ k, stagesOf ns = stageFlow.take k ++ [.decisionCapsuleSealed]
  tally : s'.tally = Reconstruction.countWindow s.tally signal capsule
  signalId : signal.snapshotId = snapshot.snapshotId
  capsuleId : capsule.correlationId = snapshot.snapshotId
  chained : capsule.Chained

namespace ReplaySetup

open Raising ReplayState Reconstruction

variable [Externals] {self : ReplaySetup} {w : Window} {s s' : ReplayState} {capsule : RunCapsule}

/-- From the supervisor on. -/
theorem supervise_ok {intent : TradeIntent} {risk : RiskDecision}
    (h : self.supervise w intent risk s = (.ok capsule, s')) :
    ∃ ns supervisor result, Adds ns s s' ∧ Flows w.snapshot 3 ns capsule
      ∧ Says w capsule (some intent) (some risk) (some supervisor) result
      ∧ (result.isSome → supervisor.verdict = .approve)
      ∧ s'.tally = countSupervisor s.tally supervisor result := by
  unfold supervise at h
  obtain ⟨t, s₁, hread, h⟩ := Raising.bind_ok h
  obtain ⟨rfl, rfl⟩ := read_ok hread
  obtain ⟨_, s₁, hrecord, h⟩ := Raising.bind_ok h
  obtain ⟨hrecorded, htally⟩ := recordStage_ok rfl hrecord
  obtain ⟨_, s₂, hverdict, h⟩ := Raising.bind_ok h
  obtain ⟨hs, hhalts, hcounted, htally₂⟩ := recordSupervisor_ok hverdict
  rw [htally] at htally₂
  have hbefore := hrecorded.trans hcounted
  split at h
  · rename_i hrefused
    obtain ⟨hcapsule, hsealed, htally₃⟩ := sealWindow_ok h
    refine ⟨_, _, _, hbefore.trans hsealed, ?_, hcapsule, ?_, ?_⟩
    · simp only [List.cons_append, List.nil_append]
      exact .cons rfl rfl (.halted hhalts (.sealed 4))
    · exact fun hresult => by cases hresult
    · rw [countSupervisor_refused hrefused, htally₃, htally₂]
  · rename_i happroved
    have happroved := not_not.mp happroved
    obtain ⟨result, s₃, hexecute, h⟩ := Raising.bind_ok h
    obtain ⟨_, s₄, hseen, h⟩ := Raising.bind_ok h
    have hremembered : Adds [] s₃ s₄ ∧ s₄.tally = s₃.tally := by
      obtain rfl := change_ok hseen
      exact ⟨.silent rfl rfl rfl, rfl⟩
    obtain ⟨hsilent, htally₄⟩ := hremembered
    obtain ⟨hcapsule, hsealed, htally₅⟩ := sealWindow_ok h
    rcases execute_ok hexecute with ⟨check, rfl, hchecked, hcount⟩
      | ⟨check, submitted, received, changed, hfilled, hstages, hcount⟩
    · refine ⟨_, _, _, ((hbefore.trans hchecked).trans hsilent).trans hsealed, ?_, hcapsule,
        fun _ => happroved, ?_⟩
      · simp only [List.append_assoc, List.append_nil, List.cons_append, List.nil_append]
        exact .cons rfl rfl (.halted hhalts (.cons rfl rfl (.sealed 5)))
      · rw [countSupervisor_rejected happroved, htally₅, htally₄, hcount, htally₂]
    · refine ⟨_, _, _, ((hbefore.trans hstages).trans hsilent).trans hsealed, ?_, hcapsule,
        fun _ => happroved, ?_⟩
      · simp only [List.append_assoc, List.append_nil, List.cons_append, List.nil_append]
        exact .cons rfl rfl (.halted hhalts (.cons rfl rfl (.cons rfl rfl (.cons rfl rfl
          (.cons rfl rfl (.sealed 8))))))
      · rw [countSupervisor_filled happroved hfilled, htally₅, htally₄, hcount, htally₂]

/-- From the intent on. -/
theorem judgeIntent_ok {intent : TradeIntent}
    (h : self.judgeIntent w intent s = (.ok capsule, s')) :
    ∃ ns, Adds ns s s' ∧ Flows w.snapshot 1 ns capsule
      ∧ capsule.tradeIntent = some intent ∧ capsule.correlationId = w.snapshot.snapshotId
      ∧ capsule.Chained ∧ s'.tally = countCapsule s.tally capsule := by
  unfold judgeIntent at h
  obtain ⟨_, s₁, hintents, h⟩ := Raising.bind_ok h
  obtain ⟨hsilent, htally₁⟩ := tallied_ok hintents
  obtain ⟨_, s₂, hrecord, h⟩ := Raising.bind_ok h
  obtain ⟨hintent, htally₂⟩ := recordStage_ok rfl hrecord
  obtain ⟨_, s₃, htimes, h⟩ := Raising.bind_ok h
  have hremembered : Adds [] s₂ s₃ ∧ s₃.tally = s₂.tally := by
    obtain rfl := change_ok htimes
    exact ⟨.silent rfl rfl rfl, rfl⟩
  obtain ⟨hsilent₃, htally₃⟩ := hremembered
  obtain ⟨t, s₄, hread, h⟩ := Raising.bind_ok h
  obtain ⟨rfl, rfl⟩ := read_ok hread
  obtain ⟨portfolio, s₄, hportfolio, h⟩ := Raising.bind_ok h
  obtain ⟨-, rfl⟩ := lift_ok hportfolio
  obtain ⟨risk, s₄, hrisk, h⟩ := Raising.bind_ok h
  obtain ⟨-, rfl⟩ := lift_ok hrisk
  obtain ⟨_, s₄, hrecord, h⟩ := Raising.bind_ok h
  obtain ⟨hrecorded, htally₄⟩ := recordStage_ok rfl hrecord
  obtain ⟨_, s₅, hverdict, h⟩ := Raising.bind_ok h
  obtain ⟨hs, hhalts, hcounted, htally₅⟩ := recordRisk_ok hverdict
  have hbefore := ((((hsilent.trans hintent).trans hsilent₃).trans hrecorded).trans hcounted)
  have htally : s₅.tally = countRisk { s.tally with intents := s.tally.intents + 1 } risk := by
    rw [countRisk_eq, htally₅, htally₄, htally₃, htally₂, htally₁]
  split at h
  · rename_i hrefused
    obtain ⟨hcapsule, hsealed, htally₆⟩ := sealWindow_ok h
    refine ⟨_, hbefore.trans hsealed, ?_, hcapsule.intent_eq, hcapsule.correlation, ?_, ?_⟩
    · simp only [List.append_nil, List.cons_append, List.nil_append]
      exact .cons rfl rfl (.cons rfl rfl (.halted hhalts (.sealed 3)))
    · constructor
      · rw [hcapsule.risk_eq, hcapsule.intent_eq]
        rfl
      · rw [hcapsule.supervisor_eq, hcapsule.risk_eq]
        simpa using hrefused
      · rw [hcapsule.result_eq]
        exact fun hresult => by cases hresult
    · unfold countCapsule
      rw [hcapsule.intent_eq, hcapsule.risk_eq, hcapsule.supervisor_eq, htally₆, htally]
  · rename_i hpassed
    obtain ⟨ns, supervisor, result, hrest, hflows, hcapsule, happroved, htally₆⟩ := supervise_ok h
    refine ⟨_, hbefore.trans hrest, ?_, hcapsule.intent_eq, hcapsule.correlation, ?_, ?_⟩
    · simp only [List.append_nil, List.cons_append, List.nil_append]
      exact .cons rfl rfl (.cons rfl rfl (.halted hhalts hflows))
    · constructor
      · rw [hcapsule.risk_eq, hcapsule.intent_eq]
        rfl
      · rw [hcapsule.supervisor_eq, hcapsule.risk_eq]
        simpa using not_not.mp hpassed
      · rw [hcapsule.result_eq, hcapsule.supervisor_eq]
        intro hresult
        simpa using happroved hresult
    · unfold countCapsule
      rw [hcapsule.intent_eq, hcapsule.risk_eq, hcapsule.supervisor_eq, hcapsule.result_eq, htally₆, htally]

omit [Externals] in
/-- The signal, before what follows it. -/
theorem Flows.decided {ns : List Noted} {signal : SignalGenerated} {s₁ : ReplayState}
    (hflows : Flows w.snapshot 1 ns capsule)
    (hsignal : Adds [stage w.snapshot (.signalGenerated signal)] s s₁) (hrest : Adds ns s₁ s')
    (hid : signal.snapshotId = w.snapshot.snapshotId)
    (hcorrelation : capsule.correlationId = w.snapshot.snapshotId) (hchained : capsule.Chained)
    (htally : s'.tally = countWindow s.tally signal capsule) :
    Decided w.snapshot s s' (stage w.snapshot (.signalGenerated signal) :: ns) signal capsule where
  adds := hsignal.trans hrest
  window n hn := by
    rcases List.mem_cons.mp hn with rfl | hn
    · exact ⟨rfl, fun _ => rfl⟩
    · exact hflows.window n hn
  signals := by
    have hcons : signalsIn (stage w.snapshot (.signalGenerated signal) :: ns)
        = signal :: signalsIn ns := rfl
    rw [hcons, hflows.signals]
  capsules := by
    have hcons : capsulesIn (stage w.snapshot (.signalGenerated signal) :: ns)
        = capsulesIn ns := rfl
    rw [hcons, hflows.capsules]
  stages := by
    obtain ⟨k, hk⟩ := hflows.stages
    refine ⟨k + 1, ?_⟩
    have hcons : stagesOf (stage w.snapshot (.signalGenerated signal) :: ns)
        = .signalGenerated :: stagesOf ns := rfl
    rw [hcons, hk]
    rfl
  tally := htally
  signalId := hid
  capsuleId := hcorrelation
  chained := hchained

theorem judge_ok {decision : StrategyDecision}
    (h : self.judge w decision s = (.ok capsule, s')) :
    ∃ ns signal, Decided w.snapshot s s' ns signal capsule := by
  unfold judge at h
  obtain ⟨_, s₁, hfeatures, h⟩ := Raising.bind_ok h
  have hevidence : Adds [] s s₁ ∧ s₁.tally = s.tally := by
    unfold call at hfeatures
    obtain rfl := change_ok hfeatures
    exact ⟨Adds.call (c := .recordFeatures w.features) rfl, rfl⟩
  obtain ⟨hsilent, htally₁⟩ := hevidence
  obtain ⟨_, s₂, hrecord, h⟩ := Raising.bind_ok h
  obtain ⟨hsignal, htally₂⟩ := recordStage_ok rfl hrecord
  have hsignal := hsilent.trans hsignal
  rw [htally₁] at htally₂
  cases hintent : decision.intent with
  | none =>
      rw [hintent] at h
      obtain ⟨_, s₃, hnone, h⟩ := Raising.bind_ok h
      obtain ⟨hsilent₃, htally₃⟩ := tallied_ok hnone
      obtain ⟨hcapsule, hsealed, htally₄⟩ := sealWindow_ok h
      have hchained : capsule.Chained := by
        constructor
        · rw [hcapsule.risk_eq, hcapsule.intent_eq]
          rfl
        · rw [hcapsule.supervisor_eq, hcapsule.risk_eq]
          rfl
        · rw [hcapsule.result_eq]
          exact fun hresult => by cases hresult
      refine ⟨_, _, Flows.decided (.sealed 1) hsignal (hsilent₃.trans hsealed) rfl
        hcapsule.correlation hchained ?_⟩
      unfold countWindow countCapsule
      rw [hcapsule.intent_eq, htally₄, htally₃, htally₂]
      rfl
  | some intent =>
      rw [hintent] at h
      obtain ⟨ns, hrest, hflows, hsome, hcorrelation, hchained, htally₃⟩ := judgeIntent_ok h
      refine ⟨_, _, Flows.decided hflows hsignal hrest rfl hcorrelation hchained ?_⟩
      unfold countWindow
      rw [hsome, htally₃, htally₂]
      rfl

theorem buildSnapshot_ok {tick : GeneratedTick} {spec : InstrumentSpec} {timeframe : String}
    {snapshot : MarketSnapshot} (h : tick.buildSnapshot spec timeframe = .ok snapshot) :
    snapshot.snapshotId = snapshotIdFor spec.canonicalSymbol tick.eventTimeUtc
      ∧ snapshot.eventTimeUtc = tick.eventTimeUtc := by
  unfold GeneratedTick.buildSnapshot at h
  obtain ⟨bid, -, h⟩ := bind_ok h
  obtain ⟨ask, -, h⟩ := bind_ok h
  unfold MarketSnapshot.create at h
  split at h
  · split at h
    · cases h
      exact ⟨rfl, rfl⟩
    · cases h
  · cases h

/-- A window says nothing for want of history, or is decided. -/
theorem processWindow_ok {tick : GeneratedTick} {decided : Option RunCapsule}
    (h : self.processWindow tick s = (.ok decided, s')) :
    (decided = none ∧ Adds [] s s'
        ∧ s'.tally = { s.tally with featuresUnavailable := s.tally.featuresUnavailable + 1 })
      ∨ ∃ snapshot ns signal capsule, decided = some capsule
        ∧ snapshot.snapshotId = snapshotIdFor self.spec.canonicalSymbol tick.eventTimeUtc
        ∧ snapshot.eventTimeUtc = tick.eventTimeUtc ∧ Decided snapshot s s' ns signal capsule := by
  have hunavailable : ∀ {t : ReplayState} {d : Option RunCapsule}, unavailable t = (.ok d, s') →
      d = none ∧ Adds [] t s'
        ∧ s'.tally = { t.tally with featuresUnavailable := t.tally.featuresUnavailable + 1 } := by
    intro t d h
    unfold unavailable at h
    obtain ⟨_, s₁, htally, h⟩ := Raising.bind_ok h
    obtain ⟨hsilent, hcount⟩ := tallied_ok htally
    obtain ⟨rfl, rfl⟩ := pure_ok h
    exact ⟨rfl, hsilent, hcount⟩
  unfold processWindow at h
  obtain ⟨t, s₁, hread, h⟩ := Raising.bind_ok h
  obtain ⟨rfl, rfl⟩ := read_ok hread
  split at h
  · exact .inl (hunavailable h)
  · obtain ⟨snapshot, s₁, hbuild, h⟩ := Raising.bind_ok h
    obtain ⟨hsnapshot, rfl⟩ := lift_ok hbuild
    obtain ⟨positions, s₁, hpositions, h⟩ := Raising.bind_ok h
    obtain ⟨-, rfl⟩ := lift_ok hpositions
    obtain ⟨outcome, s₁, houtcome, h⟩ := Raising.bind_ok h
    obtain ⟨-, rfl⟩ := lift_ok houtcome
    cases hfeatures : outcome.features with
    | none =>
        rw [hfeatures] at h
        exact .inl (hunavailable h)
    | some features =>
        rw [hfeatures] at h
        obtain ⟨capsule, s₁, hjudge, h⟩ := Raising.bind_ok h
        obtain ⟨rfl, rfl⟩ := pure_ok h
        obtain ⟨ns, signal, hdecided⟩ := judge_ok hjudge
        refine .inr ⟨snapshot, ns, signal, capsule, rfl, ?_, ?_, hdecided⟩
        · exact (buildSnapshot_ok hsnapshot).1
        · exact (buildSnapshot_ok hsnapshot).2

end ReplaySetup

end Crumblr
