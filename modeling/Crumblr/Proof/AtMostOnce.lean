import Crumblr.Proof.Ownership

/-!
# A real submission happens at most once

Any number of workers, any interleaving of their calls, a crash between any two of
them and any number of restarts: a permit is consumed once, an order goes out once
for its request and once for its permit, and it goes out only after its commitment
and the consumption that pays for it are on record.
-/

namespace Crumblr

section

variable [Externals]

/-- **What the ownership invariant is for.** It holds of every reachable state. -/
theorem ownership_reachable {w : World} {s : Config Nat Task World Call Call.Answer PyError}
    (hev : w.db.executionEvents = []) (hcon : w.db.canaryPermitConsumptions = [])
    (hsends : w.sends = []) {G : Guard} (h : ReachUnder G w s) :
    Ownership (scene s.view) ∧ Machine.Kept (fun _ _ => passDiscipline) s :=
  scene_invariant (Ownership.init hev hcon hsends) (fun _ i hI => hI.reset i)
    (fun _ _ hI hs => hI.settled hs) (fun _ _ _ _ _ _ hI _ hmay heff _ => hI.call hmay heff) h

/-- A submission happens at most once, and only as committed. -/
structure SubmittedOnce (s : Config Nat Task World Call Call.Answer PyError) : Prop where
  /-- A permit has at most one consumption. -/
  consumed_once : ∀ permitId : Uuid,
    (s.world.db.canaryPermitConsumptions.filter fun c => c.permitId = permitId).length ≤ 1
  /-- At most one order was sent for a request. -/
  sent_once : ∀ r : Uuid,
    (s.world.sends.filter fun x => x.order.orderRequestId = r).length ≤ 1
  /-- At most one order was sent for a permit. -/
  spent_once : ∀ permitId : Uuid,
    (s.world.sends.filter fun x => s.world.db.canaryPermitConsumptions.any fun c =>
      c.permitId = permitId ∧ c.orderRequestId = x.order.orderRequestId).length ≤ 1
  /-- A worker about to send an order has committed it, and nobody sent it before. -/
  due : ∀ i q past order k, s.threads i = some ⟨q, past, .call (.orderSend order) k⟩ →
    Committed s.world.ledger order.orderRequestId
      ∧ ∀ x ∈ s.world.sends, x.order.orderRequestId ≠ order.orderRequestId
  /-- An order that was sent is committed. -/
  sent : ∀ x ∈ s.world.sends, Committed s.world.ledger x.order.orderRequestId
  /-- A commitment that does not succeed changes nothing. -/
  undone : ∀ (o : Oracle) (i : Nat) (permitId r : Uuid) (now : UtcDatetime) (payload : Json),
    (s.world.serve o i (.consumeAndStart permitId r now payload)).1 ≠ .ok .consumed →
      (s.world.serve o i (.consumeAndStart permitId r now payload)).2 = s.world
  /-- After it nothing is consumed, committed or sent for the request. -/
  refused : ∀ i t permitId r now payload a, s.threads i = some t →
    ⟨.consumeAndStart permitId r now payload, a⟩ ∈ t.past → a ≠ .ok .consumed →
      Untouched s.world.ledger r
        ∧ .submissionStarted ∉ types (s.world.ledger.eventsFor r)

/-- A transaction that does not consume leaves nothing behind. -/
theorem consumeAndStart_undone {w : World} {o : Oracle} {i : Nat} {permitId r : Uuid}
    {now : UtcDatetime} {payload : Json}
    (h : (w.serve o i (.consumeAndStart permitId r now payload)).1 ≠ .ok .consumed) :
    (w.serve o i (.consumeAndStart permitId r now payload)).2 = w := by
  have hanswer : (w.answer o.replies i (.consumeAndStart permitId r now payload)).1
      ≠ .ok .consumed →
      (w.answer o.replies i (.consumeAndStart permitId r now payload)).2 = w := by
    intro hne
    simp only [World.answer] at hne ⊢
    cases hdb : w.db.consumeAndStart permitId r now payload with
    | error e => rfl
    | ok result =>
        obtain ⟨outcome, db'⟩ := result
        rcases consumeAndStart_ok hdb with ⟨rfl, -⟩ | ⟨-, rfl⟩
        · rw [hdb] at hne
          exact absurd rfl hne
        · rfl
  unfold World.serve at h ⊢
  split
  · rfl
  · rename_i hfault
    simp only [hfault] at h
    exact hanswer h

/-- **A real submission happens at most once.** -/
theorem submission_at_most_once {w : World}
    {s : Config Nat Task World Call Call.Answer PyError} (hev : w.db.executionEvents = [])
    (hcon : w.db.canaryPermitConsumptions = []) (hsends : w.sends = []) (h : Reachable w s) :
    SubmittedOnce s := by
  obtain ⟨hown, hkept⟩ := ownership_reachable hev hcon hsends h
  have hpast : ∀ i t, s.threads i = some t → (scene s.view).past i = t.past := by
    intro i t ht
    simp [scene, Config.view, ht]
  have hpermits : Table.Keyed (fun c : CanaryPermitConsumption => c.permitId)
      s.world.db.canaryPermitConsumptions := hown.permits
  have hsent : Table.Keyed (fun x : Send => x.order.orderRequestId) s.world.sends := hown.once
  refine ⟨?_, ?_, ?_, ?_, hown.sent, fun _ _ _ _ _ _ => consumeAndStart_undone, ?_⟩
  · intro permitId
    refine hpermits.length_filter_le_one fun c _ c' _ hc hc' => ?_
    exact (of_decide_eq_true hc).trans (of_decide_eq_true hc').symm
  · intro r
    refine hsent.length_filter_le_one fun x _ x' _ hx hx' => ?_
    exact (of_decide_eq_true hx).trans (of_decide_eq_true hx').symm
  · intro permitId
    refine hsent.length_filter_le_one fun x _ x' _ hx hx' => ?_
    simp only [List.any_eq_true, decide_eq_true_eq] at hx hx'
    obtain ⟨c, hc, hp, hr⟩ := hx
    obtain ⟨c', hc', hp', hr'⟩ := hx'
    -- one permit, one consumption, one request
    have heq : c = c' := hpermits.eq_of_mem hc hc' (hp.trans hp'.symm)
    rw [← hr, ← hr', heq]
  · intro i q past order k ht
    have hjust : JustCommitted ((scene s.view).past i) order.orderRequestId := by
      rw [hpast i _ ht]
      exact (Conforms.call.mp (hkept i _ ht)).1
    exact hown.committed i _ hjust
  · intro i t permitId r now payload a ht hmem ha
    rw [← hpast i t ht] at hmem
    obtain ⟨hu, -, -, hearly⟩ := hown.fresh i r (.inr (hown.denied i _ r _ _ a hmem ha))
    exact ⟨⟨hu.consumed, hu.sent⟩, fun hss => absurd (hearly _ hss) (by decide)⟩

end

/-! ## A run that submits -/

namespace Sample

/-- A number for a text. -/
def textWeight (s : String) : Nat := s.toList.foldl (fun a c => (31 * a + c.toNat) % 4294967291) 7

mutual

/-- A number for a value. -/
def weight : Json → Nat
  | .null => 1
  | .bool b => if b then 2 else 3
  | .int n => textWeight (toString n)
  | .float x => textWeight x.repr
  | .str s => textWeight s
  | .decimal d => (textWeight (toString d.coeff) * 37 + textWeight (toString d.exp)) % 4294967291
  | .time t => textWeight (toString t)
  | .list items => listWeight items
  | .obj fields => fieldsWeight fields

def listWeight : List Json → Nat
  | [] => 11
  | x :: xs => (41 * weight x + listWeight xs) % 4294967291

def fieldsWeight : List (String × Json) → Nat
  | [] => 13
  | (k, x) :: xs =>
      (43 * textWeight k + 47 * weight x + 53 * fieldsWeight xs) % 4294967291

end

/-- Eight hex digits. -/
def hexText (n : Nat) : String := String.ofList (Nat.toDigits 16 (4294967296 + n)).tail

scoped instance externals : Externals where
  sha256Hex := fun j => hexText (weight j)
  uuid5 := fun name => ⟨name⟩
  uuid5Dns := fun name => ⟨name⟩
  saltedDigest := fun salt secret => salt ++ secret
  newYorkOffset := fun _ => hours (-4)
  newYorkToUtc := fun wall => wall + hours 4

/-- Tuesday, 2026-09-08, 12:00 UTC. -/
def noon : UtcDatetime := days 20704 + hours 12

def spec : InstrumentSpec where
  canonicalSymbol := "EUR/USD"
  brokerSymbol := "EURUSD"
  currencyBase := "EUR"
  currencyProfit := "USD"
  contractSize := ⟨⟨100000, 0⟩, by decide⟩
  digits := 5
  point := ⟨⟨1, -5⟩, by decide⟩
  tickSize := ⟨⟨1, -5⟩, by decide⟩
  tickValue := ⟨⟨1, 0⟩, by decide⟩
  volumeMin := ⟨⟨1, -2⟩, by decide⟩
  volumeMax := ⟨⟨100, 0⟩, by decide⟩
  volumeStep := ⟨⟨1, -2⟩, by decide⟩
  stopsLevel := 0
  freezeLevel := 0
  fillingModes := []
  tradeMode := "FULL"
  capturedAtUtc := noon - hours 1
  volumeBounds := by decide

def risk : RiskConfig where
  maxRiskPerTrade := ⟨⟨1, -2⟩, by decide⟩
  maxOpenRisk := ⟨⟨2, -2⟩, by decide⟩
  maxDailyLoss := ⟨⟨3, -2⟩, by decide⟩
  maxDrawdown := ⟨⟨10, -2⟩, by decide⟩
  maxOrdersPerHour := 5
  maxOpenPositions := 3
  minStopDistancePoints := 10
  approvedConfigVersion := some "cfg"
  budgetOrdering := by decide

def market : MarketConfig where
  canonicalSymbol := "EUR/USD"
  enabled := true
  assetClass := .fx
  brokerSymbol := "EURUSD"
  expectedSpecVersion := some spec.specVersion
  sessionPolicyApproved := true
  riskOverrides := none
  executionOverrides := none

def config : PlatformConfig where
  environment := .paper
  markets := [market]
  risk := risk
  execution := {
    maxSpreadPoints := 20
    maxMarketDataAgeMs := 5000
    orderTimeoutMs := 5000
    maxSlippagePoints := 5
    submissionEnabled := true
    feedback20Approved := true
    flattenSubmissionEnabled := true
    approvedCanaryAccountRef := some (accountRef 7 "Demo") }
  tradingAgent := ⟨"s", "v1", none⟩
  accountGuard := ⟨"Demo", none, true, none, none⟩
  intraday := ⟨true, 60, 30, by decide⟩
  configVersion := "cfg"
  marketsDistinct := by decide
  demoGuard := by decide

def intent : TradeIntent where
  intentId := ⟨"intent"⟩
  strategyId := "s"
  strategyVersion := "v1"
  modelVersion := none
  symbol := "EUR/USD"
  side := .buy
  createdAtUtc := noon - minutes 1
  expiresAtUtc := noon + minutes 5
  entryType := .market
  referencePrice := ⟨⟨110000, -5⟩, by decide⟩
  stopLossPrice := some ⟨⟨109900, -5⟩, by decide⟩
  takeProfitPrice := none
  confidence := ⟨"0.9"⟩
  reasonCodes := ["breakout"]
  requestedRiskFraction := some ⟨⟨5, -3⟩, by decide⟩
  featureSnapshotId := ⟨"features"⟩
  lifetime := by decide
  directional := by decide
  flat := by decide
  buyStops := by
    intro _
    refine ⟨?_, ?_⟩
    · intro s hs; cases hs; decide
    · intro t ht; cases ht
  sellStops := by decide

def riskDecision : RiskDecision where
  decisionId := ⟨"risk"⟩
  intentId := ⟨"intent"⟩
  verdict := .pass
  reasonCodes := []
  decidedAtUtc := noon - minutes 1
  riskConfigVersion := "cfg"
  approvedVolume := some ⟨⟨10, -2⟩, by decide⟩
  accountEquity := some ⟨10000, 0⟩
  stopDistancePoints := some 100
  riskAmount := some ⟨50, 0⟩
  stopDistancePositive := by intro n hn; cases hn; decide
  pass := by decide
  refusal := by decide

def supervisorDecision : SupervisorDecision where
  decisionId := ⟨"supervisor"⟩
  intentId := ⟨"intent"⟩
  verdict := .approve
  reasonCodes := []
  decidedAtUtc := noon - minutes 1
  policyVersion := "p"
  statisticalMonitorVersion := none
  observedRegime := .unknown
  notes := none
  uncalibratedChecks := []
  reasons := by decide

def capsule : DecisionCapsule where
  capsuleId := ⟨"capsule"⟩
  occurredAtUtc := noon - minutes 1
  canonicalSymbol := "EUR/USD"
  brokerSymbol := "EURUSD"
  marketSnapshotId := ⟨"snapshot"⟩
  featureSetVersion := "f"
  featureValuesHash := "h"
  strategyVersion := "v1"
  modelVersion := none
  tradeIntent := some intent
  riskConfigVersion := "cfg"
  riskDecision := some riskDecision
  supervisorDecision := some supervisorDecision
  codeCommit := "c"
  environment := .paper

def permit : CanaryPermit where
  permitId := ⟨"permit"⟩
  approvedAccountRef := accountRef 7 "Demo"
  expectedServer := "Demo"
  canonicalSymbol := "EUR/USD"
  entryType := .market
  agentId := none
  assignmentId := none
  strategyArtifactHash := none
  maxRequestedRiskFraction := ⟨⟨1, -2⟩, by decide⟩
  issuedBy := "operator"
  reason := "first canary"
  issuedAtUtc := noon - hours 1
  validUntilUtc := noon + hours 1
  firstCanary := rfl
  entryScope := .inl rfl
  identity := by decide
  window := by decide

/-- A worker that may send one real order. -/
def worker : ExecutionOrchestrator where
  config := config
  canonicalSymbol := "EUR/USD"
  activationWatermark := some (noon - days 1)
  workerId := "w"
  currentStrategyVersion := "v1"
  flattenCloseAdapter := true
  entrySubmission := some ⟨⟨"permit"⟩, ⟨"capsule"⟩, none, none, none⟩
  riskConfig := risk
  riskConfigMerged := rfl

/-- One approved capsule, one permit, and nothing done yet. -/
def world : World where
  db := {
    decisionCapsules := [capsule]
    executionRequests := []
    executionEvents := []
    canaryPermits := [permit]
    canaryPermitConsumptions := []
    flattenRequests := []
    flattenEvents := []
    brokerAccountSnapshots := []
    brokerPositionSnapshots := []
    brokerPendingOrderSnapshots := []
    instrumentSpecs := [spec]
    riskSessions := fun _ => ⟨none, none⟩
    safetyState := none }
  now := noon
  killSwitches := fun _ => ⟨.running, []⟩
  sends := []
  closes := []

def account : AccountState where
  login := 7
  server := "Demo"
  currency := "USD"
  isDemo := true
  tradeAllowed := true
  expertAllowed := true
  connected := true
  balance := ⟨10000, 0⟩
  equity := ⟨10000, 0⟩
  margin := ⟨⟨0, 0⟩, by decide⟩
  marginFree := ⟨10000, 0⟩
  marginLevel := none
  leverage := 30
  observedAtUtc := noon

def tick : MarketTick where
  tickId := ⟨"tick"⟩
  source := "execution_orchestrator"
  canonicalSymbol := "EUR/USD"
  brokerSymbol := "EURUSD"
  eventTimeUtc := noon
  receivedTimeUtc := noon
  bid := ⟨⟨110000, -5⟩, by decide⟩
  ask := ⟨⟨110002, -5⟩, by decide⟩
  dataQuality := .good
  anomalies := []

/-- An amount above nothing. -/
def amount (coeff : Nat) (exp : Int) : { d : Decimal // 0 < d } :=
  if h : (0 : Decimal) < ⟨coeff, exp⟩ then ⟨⟨coeff, exp⟩, h⟩ else spec.point

/-- A price in points. -/
def price (points : Nat) : Price := amount points (-5)

/-- A fraction of the equity. -/
def fraction (coeff : Nat) (exp : Int) : RiskFraction :=
  if h : (0 : Decimal) < ⟨coeff, exp⟩ ∧ (⟨coeff, exp⟩ : Decimal) ≤ 1 then ⟨⟨coeff, exp⟩, h⟩
  else risk.maxRiskPerTrade

theorem buy_directional : Side.buy ≠ .flat := by decide

theorem noon_lt : noon < noon + minutes 5 := by decide

/-- A flat account, a good quote, and a broker that fills. -/
def replies : Replies where
  now := noon
  freshId := ⟨"observation"⟩
  account := (account, ⟨⟨0, 0⟩, none⟩)
  terminalTradeAllowed := some true
  positions := []
  pendingOrders := []
  ticks := [tick]
  orderCheck := ⟨⟨"order"⟩, ⟨"intent"⟩, true, some 0, none, none, none⟩
  result := {
    executionId := ⟨"execution"⟩
    orderRequestId := ⟨"order"⟩
    intentId := some ⟨"intent"⟩
    state := .filled
    mt5OrderTicket := some 1
    mt5DealTicket := some 2
    retcode := some 10009
    retcodeComment := none
    requestedPrice := none
    executedPrice := none
    requestedVolume := none
    executedVolume := none }

/-- Nothing fails. -/
def calm : Oracle := ⟨replies, none, .reached⟩

/-- `n` calls of worker `i`, nothing failing. -/
def served (i n : Nat) : List (Move Nat Task Oracle World.Event) :=
  List.replicate n (.call i calm)

/-- One worker takes the capsule through to its order. -/
def submission : List (Move Nat Task Oracle World.Event) :=
  .start 0 ⟨worker, .runOnce⟩ :: served 0 41

end Sample

open Sample in
theorem submission_at_most_once_sample :
    ∃ s, Reachable Sample.world s ∧ s.world.sends.length = 1 ∧ SubmittedOnce s := by
  have hrun : (workers.run Machine.unchecked (Machine.idle Sample.world) submission).any
      (fun s => decide (s.world.sends.length = 1)) = true := by decide +kernel
  obtain ⟨s, hs, hp⟩ := Machine.Reach.exists_of_run (G := Machine.Always) submission _
    (fun _ _ _ => trivial) hrun
  exact ⟨s, hs, of_decide_eq_true hp, submission_at_most_once rfl rfl rfl hs⟩

end Crumblr
