import Crumblr.Proof.AtMostOnce
import Crumblr.Proof.LivePhases

/-!
# What was handed out can be read back

The capsule store keeps the first record of an id and drops any other without a word. The id of
a window's capsule comes from the time of the last tick, not from the bar: two bars decided on
one tick share it. So a caller can read back what it was handed as long as no window is sealed
under an id that another record holds.
-/

namespace Crumblr

open Machine

variable [Externals]

/-- What the capsule store returns for an id. -/
def LiveWorld.capsule? (w : LiveWorld) (capsuleId : Uuid) : Option SealedCapsule :=
  Table.lookup (·.capsuleId) w.capsules capsuleId

/-- Every capsule handed out is the one its id looks up. -/
def Retained (w : LiveWorld) : Prop :=
  ∀ capsule ∈ w.notes.reported, w.capsule? capsule.capsuleId = some capsule

/-- No window is sealed under the id of a different record. -/
def unclaimedIds : LiveSurroundings where
  call w _ c := ∀ capsule, c = .seal capsule →
    ∀ held, w.capsule? capsule.capsuleId = some held → held = capsule
  nature _ _ := True
  crash _ := True

omit [Externals] in
/-- A row that is found stays. -/
theorem capsule?_insertCapsule {w : LiveWorld} {capsule held : SealedCapsule} {capsuleId : Uuid}
    (h : w.capsule? capsuleId = some held) :
    (w.insertCapsule capsule).capsule? capsuleId = some held := by
  unfold LiveWorld.insertCapsule LiveWorld.capsule?
  cases hinsert : Table.insert? (·.capsuleId) w.capsules capsule with
  | none => exact h
  | some rows =>
      obtain ⟨-, rfl⟩ := Table.insert?_eq_some hinsert
      exact Table.lookup_append_mono h

omit [Externals] in
/-- Unless its id is another's, a capsule that is inserted is found. -/
theorem capsule?_insertCapsule_self {w : LiveWorld} {capsule : SealedCapsule}
    (h : ∀ held, w.capsule? capsule.capsuleId = some held → held = capsule) :
    (w.insertCapsule capsule).capsule? capsule.capsuleId = some capsule := by
  cases hfound : w.capsule? capsule.capsuleId with
  | some held =>
      obtain rfl := h held hfound
      exact capsule?_insertCapsule hfound
  | none =>
      have hinsert : Table.insert? (·.capsuleId) w.capsules capsule
          = some (w.capsules ++ [capsule]) := if_pos hfound
      unfold LiveWorld.insertCapsule LiveWorld.capsule?
      rw [hinsert]
      exact Table.lookup_append_self hfound

/-- What a call other than a report leaves of the store and of what was handed out. -/
theorem serve_capsules {w : LiveWorld} {o : LiveOracle} {c : LiveCall}
    (hc : ∀ outcome, c ≠ .report outcome) :
    (w.serve o c).2.notes.reported = w.notes.reported ∧
      ((w.serve o c).2.capsules = w.capsules ∨
        ∃ capsule, (w.serve o c).2.capsules = (w.insertCapsule capsule).capsules) := by
  cases c with
  | report outcome => exact absurd rfl (hc outcome)
  | «seal» capsule =>
      unfold LiveWorld.serve LiveOracle.write LiveOracle.writeThen LiveWorld.noteApproval
      dsimp only
      repeat' split
      all_goals first | exact ⟨rfl, .inl rfl⟩ | exact ⟨rfl, .inr ⟨_, rfl⟩⟩
  | _ =>
      unfold LiveWorld.serve
      try unfold LiveOracle.write
      try unfold LiveOracle.writeThen
      try unfold LiveOracle.read
      dsimp only
      repeat' split
      all_goals exact ⟨rfl, .inl rfl⟩

/-- What was found still is. -/
theorem capsule?_serve {w : LiveWorld} {o : LiveOracle} {c : LiveCall} {capsuleId : Uuid}
    {held : SealedCapsule} (hc : ∀ outcome, c ≠ .report outcome)
    (h : w.capsule? capsuleId = some held) : (w.serve o c).2.capsule? capsuleId = some held := by
  rcases (serve_capsules hc).2 with heq | ⟨capsule, heq⟩
  · unfold LiveWorld.capsule?
    rw [heq]
    exact h
  · have hkept : (w.insertCapsule capsule).capsule? capsuleId = some held :=
      capsule?_insertCapsule h
    unfold LiveWorld.capsule? at hkept ⊢
    rw [heq]
    exact hkept

/-- **No call but a report puts what was handed out at risk.** -/
theorem retained_serve {w : LiveWorld} {o : LiveOracle} {c : LiveCall}
    (hc : ∀ outcome, c ≠ .report outcome) (h : Retained w) : Retained (w.serve o c).2 := by
  intro capsule hmem
  rw [(serve_capsules hc).1] at hmem
  exact capsule?_serve hc (h capsule hmem)

variable {live : LiveDecisionService}

theorem stable_retained : Stable (liveWorker live) unclaimedIds Retained := by
  rintro n w hw -
  cases n <;> exact hw

theorem framed_retained : Framed live unclaimedIds Retained Retained Retained where
  toJ _ hw := hw
  toI _ hw := hw
  stable := stable_retained
  quiet w o c hw hc _ := retained_serve (fun outcome heq => by subst heq; exact hc) hw

/-- A program that reports nothing. -/
theorem retained_piece {α : Type} {p : LivePass α}
    (hp : Only (fun c => ∀ outcome, c ≠ .report outcome) p) :
    LiveTriple live unclaimedIds Retained Retained p (fun _ => Retained) Retained :=
  Triple.frame hp (fun _ hw => hw) stable_retained fun _ _ _ hw hc _ => retained_serve hc hw

omit [Externals] in
theorem silent_saveDecisionWindow {now : UtcDatetime} :
    Only (fun c => ∀ outcome, c ≠ LiveCall.report outcome) (live.saveDecisionWindow now) := by
  unfold LiveDecisionService.saveDecisionWindow
  exact Only.bind (Only.perform fun _ h => by cases h) fun m => Only.bind Only.ofExcept fun _ =>
    Only.perform fun _ h => by cases h

theorem silent_recoverDecisionWindow :
    Only (fun c => ∀ outcome, c ≠ LiveCall.report outcome) live.recoverDecisionWindow := by
  have htrip : ∀ reasonCodes by_ now correlationId detail,
      Only (fun c => ∀ outcome, c ≠ LiveCall.report outcome)
        (LiveDecisionService.trip reasonCodes by_ now correlationId detail) :=
    fun _ _ _ _ _ => Only.mono (fun c hc outcome heq => by subst heq; exact hc) quiet_trip
  unfold LiveDecisionService.recoverDecisionWindow
  refine Only.bind (Only.perform fun _ h => by cases h) fun record =>
    Only.bind (Only.perform fun _ h => by cases h) fun _ => ?_
  exact Only.ite (Only.bind (Only.perform fun _ h => by cases h) fun now => htrip _ _ _ _ _) Only.ret

/-- Sealing under an id that no other record holds. -/
theorem retained_seal {capsule : SealedCapsule} :
    LiveTriple live unclaimedIds Retained Retained (LiveDecisionService.ask (.seal capsule))
      (fun _ w => Retained w ∧ w.capsule? capsule.capsuleId = some capsule) Retained := by
  have hne : ∀ outcome, LiveCall.seal capsule ≠ .report outcome := fun _ h => by cases h
  refine Triple.perform (fun _ hw => hw) stable_retained ?_ ?_
  · intro w o _ w' hw hcall hserve
    have hw' := retained_serve (o := o) hne hw
    rw [show w.serve o (.seal capsule) = _ from hserve] at hw'
    refine ⟨hw', ?_⟩
    have hfound := capsule?_insertCapsule_self (hcall capsule rfl)
    change w.serve o (.seal capsule) = _ at hserve
    unfold LiveWorld.serve LiveOracle.write LiveOracle.writeThen LiveWorld.noteApproval at hserve
    dsimp only at hserve
    split at hserve
    · split at hserve <;> cases hserve <;> exact hfound
    · cases hserve
  · intro w o e w' hw _ hserve
    have hw' := retained_serve (o := o) hne hw
    rw [show w.serve o (.seal capsule) = _ from hserve] at hw'
    exact hw'

/-- The phases of a decision, where only a report and what precedes it matter. -/
def retainedPhases (live : LiveDecisionService) :
    LivePhases live unclaimedIds Retained Retained where
  Restored := Retained
  Ready := Retained
  Fresh _ := Retained
  Claimed _ := Retained
  Saved _ := Retained
  Put _ := Retained
  Passed _ _ := Retained
  Added _ _ := Retained
  Kept _ _ := Retained
  Done capsule w := w.capsule? capsule.capsuleId = some capsule
  idle := framed_retained
  ready := framed_retained
  fresh _ := framed_retained
  put _ := framed_retained
  passed _ _ := framed_retained
  recover := (retained_piece silent_recoverDecisionWindow).pre fun _ hw => hw.1
  mark := retained_piece (Only.perform fun _ h => by cases h)
  recovered _ hw _ := hw
  check _ _ hw _ := hw
  claim _ := retained_piece (Only.perform fun _ h => by cases h)
  save _ _ := retained_piece silent_saveDecisionWindow
  ask _ _ _ _ _ := retained_piece (Only.perform fun _ h => by cases h)
  pass _ _ _ _ _ _ _ _ _ hw _ _ _ := hw
  add _ _ := retained_piece (Only.perform fun _ h => by cases h)
  keep _ _ _ := retained_piece silent_saveDecisionWindow
  sealPlain _ _ _ := retained_seal
  sealKept _ _ _ _ := retained_seal
  reset _ _ := retained_piece (Only.perform fun _ h => by cases h)
  report outcome := by
    refine Triple.perform (fun _ hw => hw.1) ?_ ?_ ?_
    · rintro n w ⟨hw, hdone⟩ -
      exact ⟨stable_retained n w hw trivial, by cases n <;> exact hdone⟩
    · rintro w o _ w' ⟨hw, hdone⟩ - hserve
      cases hserve
      intro capsule hmem
      rcases List.mem_append.mp hmem with hold | hnew
      · exact hw capsule hold
      · exact hdone capsule (by simpa using hnew)
    · rintro w o e w' hw - hserve
      cases hserve

/--
**Audit retention.** As long as no window is sealed under the id of a different record, every
capsule that was handed out can be read back as it was, whatever fails and however often the
worker is started again.
-/
theorem capsules_retained (live : LiveDecisionService) (s₀ s : Config Unit LiveTask LiveWorld
      LiveCall LiveCall.Answer PyError) (hidle : s₀.threads () = none)
    (hinit : s₀.world.notes.reported = [])
    (hrun : Reach (liveWorker live) (unclaimedIds.guard) s₀ s) : Retained s.world :=
  Reach.solo hidle (fun capsule hmem => by simp [hinit] at hmem) (fun _ hw => hw) stable_retained stable_retained
    (fun _ hw _ => hw) (retainedPhases live).perform hrun

namespace Sample

/-- A strategy that is never asked: what it finds is the surroundings' own. -/
def liveStrategy : StrategyEntry where
  strategyId := "s"
  version := "v1"
  minimumBars := 1
  evaluate := fun _ _ _ _ => .ok ⟨⟨.flat, ⟨"0.0"⟩, [], none⟩, none⟩

def liveDecision : LiveDecisionService where
  canonicalSymbol := "EUR/USD"
  riskConfig := risk
  config := config
  supervisor := ⟨true, true, none, by decide⟩
  strategy := liveStrategy
  timeframe := "M5"
  riskConfigMerged := worker.riskConfigMerged
  resolved := rfl

/-- A process that has just started, and nothing on record. -/
def liveWorld : LiveWorld where
  memory := ⟨⟨.running, []⟩, false, none, [], []⟩
  windows := []
  safety := ⟨.running, [], noon, none, none⟩
  safetyReadable := true
  journal := []
  capsules := []
  now := noon
  notes := ⟨false, false, [], [], []⟩

def bar (openTimeUtc : UtcDatetime) : Bar where
  openTimeUtc
  openPrice := price 110000
  high := price 110010
  low := price 109990
  close := price 110005
  tickVolume := 1
  realVolume := none
  spreadPoints := none
  ohlc := by decide

def accountSnapshot : BrokerAccountSnapshot where
  snapshotId := ⟨"account"⟩
  observedAtUtc := noon
  recordedAtUtc := noon
  environment := .paper
  server := "Demo"
  accountRef := "ref"
  currency := "USD"
  leverage := 30
  marginMode := none
  balance := ⟨10000, 0⟩
  equity := ⟨10000, 0⟩
  profit := 0
  margin := account.margin
  marginFree := ⟨10000, 0⟩
  marginLevel := none
  accountTradeAllowed := true
  terminalTradeAllowed := some true
  positionSetState := .complete
  pendingOrderSetState := .complete

/-- Features and a proposal, if there is one. -/
def found (featureValuesHash : String) (proposal : Option TradeIntent) : StrategyOutcome where
  decision := ⟨.buy, ⟨"0.9"⟩, ["breakout"], proposal⟩
  features := some ⟨⟨"features"⟩, "f", featureValuesHash, .trend, "EUR/USD", .obj []⟩

/-- One newest bar, the last tick at noon, and nothing fails. -/
def facing (openTimeUtc : UtcDatetime) (outcome : StrategyOutcome) : LiveOracle where
  failure := none
  reached := false
  unreadable := none
  reply
    | .memory => liveWorld.memory
    | .clock => noon
    | .loadWindow .. => ⟨none, none⟩
    | .latestSpec _ => some spec
    | .recentBars .. => [bar openTimeUtc]
    | .latestTick _ => some tick
    | .latestAccountSnapshot => some accountSnapshot
    | .positionsFor _ => []
    | .loadRiskSession _ => ⟨none, none⟩
    | .strategy .. => outcome
    | .reconcile _ => .matched
    | .restore .. | .markRecovered | .claimWindow _ | .addSeen _ | .saveWindow _ | .lock _
    | .saveRiskSession _ | .trip _ | .recordFeatures _ | .record _ | .flush | .seal _
    | .report _ | .resetHalt .. => ()

/-- One window that is decided on without a proposal; the first after a start recovers. -/
def decidingFlat (calls : Nat) (openTimeUtc : UtcDatetime) (featureValuesHash : String) :
    List (Move Unit LiveTask LiveOracle LiveWorld.Event) :=
  .start () .decide
    :: List.replicate calls (.call () (facing openTimeUtc (found featureValuesHash none)))
    ++ [.finish ()]

end Sample

/-- The step seals no window, or one under an id nothing is stored under. -/
def sealsUnclaimed (s : Config Unit LiveTask LiveWorld LiveCall LiveCall.Answer PyError)
    (m : Move Unit LiveTask LiveOracle LiveWorld.Event) : Bool :=
  match asked s m with
  | some (.seal capsule) => (s.world.capsule? capsule.capsuleId).isNone
  | _ => true

omit [Externals] in
theorem unclaimedIds_of_check {s : Config Unit LiveTask LiveWorld LiveCall LiveCall.Answer PyError}
    {m : Move Unit LiveTask LiveOracle LiveWorld.Event} (h : sealsUnclaimed s m = true) :
    unclaimedIds.guard s.view m (asked s m) := by
  cases m with
  | call i o =>
      rintro c hasked capsule rfl held hheld
      unfold sealsUnclaimed at h
      rw [hasked] at h
      change s.world.capsule? capsule.capsuleId = some held at hheld
      simp [hheld] at h
  | _ => trivial

end Crumblr

namespace Crumblr

open Machine

open Sample in
/-- A window is decided, and its capsule handed out and read back. -/
theorem capsules_retained_sample : ∃ s, Reach (liveWorker liveDecision) unclaimedIds.guard
    (idle liveWorld) s ∧ s.world.notes.reported.length = 1 ∧ Retained s.world := by
  have hrun : ((liveWorker liveDecision).run sealsUnclaimed (idle liveWorld)
      (decidingFlat 25 (noon - minutes 5) "h1")).any
      (fun s => decide (s.world.notes.reported.length = 1)) = true := by decide +kernel
  obtain ⟨s, hs, hp⟩ := Reach.exists_of_run _ _ (fun _ _ => unclaimedIds_of_check) hrun
  exact ⟨s, hs, of_decide_eq_true hp, capsules_retained liveDecision _ s rfl rfl hs⟩

open Sample in
/-- Two bars are decided on the same last tick: the second record is dropped and handed out. -/
theorem capsule_of_same_tick_dropped :
    ¬ ∀ (live : LiveDecisionService) (s₀ s : Config Unit LiveTask LiveWorld LiveCall
        LiveCall.Answer PyError), s₀.threads () = none → s₀.world.notes.reported = [] →
      Reach (liveWorker live) Always s₀ s → Retained s.world := by
  intro h
  have hrun : ((liveWorker liveDecision).run unchecked (idle liveWorld)
      (decidingFlat 25 (noon - minutes 10) "h1" ++ decidingFlat 22 (noon - minutes 5) "h2")).any
      (fun s => s.world.notes.reported.any fun capsule =>
        (s.world.capsule? capsule.capsuleId).any fun held =>
          decide (held.featureValuesHash ≠ capsule.featureValuesHash)) = true := by decide +kernel
  obtain ⟨s, hs, hp⟩ := Reach.exists_of_run (G := Always) _ _ (fun _ _ _ => trivial) hrun
  obtain ⟨capsule, hmem, hany⟩ := List.any_eq_true.mp hp
  rw [h liveDecision _ s rfl rfl hs capsule hmem] at hany
  simp at hany

end Crumblr
