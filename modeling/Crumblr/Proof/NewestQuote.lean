import Crumblr.Mt5Gateway.ReadOnly
import Crumblr.Proof.AtMostOnce
import Crumblr.Proof.Commitments

/-!
# The newest quote

FINAL risk and the submission gate judge a request by the last tick of one read, which asks for
the hundred oldest of the half minute before the pass and of the time since. That tick is the
newest the broker has exactly if these are all there are. A busy market has more, and the
hundredth of them may still be young enough to pass.
-/

namespace Crumblr

/-! ## Reading ticks -/

namespace ReadOnlyMt5Gateway

variable [Externals] {self : ReadOnlyMt5Gateway} {reading : TickReading} {since : UtcDatetime}
  {count : Nat} {source : String} {tick : MarketTick}

/-- Two rows make one tick, if they are received at one time, exactly if they quote the same. -/
theorem tickFromRaw_eq_iff {row row' : RawTick} {receivedAt receivedAt' : UtcDatetime} :
    self.tickFromRaw row source receivedAt = self.tickFromRaw row' source receivedAt'
      ↔ row.quote = row'.quote ∧ receivedAt = receivedAt' := by
  constructor
  · intro h
    have hevent : row.serverTime - self.clockOffset = row'.serverTime - self.clockOffset :=
      congrArg MarketTick.eventTimeUtc h
    have hbid : row.bid = row'.bid := congrArg MarketTick.bid h
    have hask : row.ask = row'.ask := congrArg MarketTick.ask h
    have htime : row.serverTime = row'.serverTime := by
      have hsum := congrArg (· + self.clockOffset) hevent
      simpa using hsum
    refine ⟨?_, congrArg MarketTick.receivedTimeUtc h⟩
    unfold RawTick.quote
    rw [htime, hbid, hask]
  · rintro ⟨h, rfl⟩
    unfold RawTick.quote at h
    obtain ⟨htime, hquote⟩ := Prod.mk.inj h
    obtain ⟨hbid, hask⟩ := Prod.mk.inj hquote
    unfold tickFromRaw
    rw [htime, hbid, hask]

omit [Externals] in
/-- The last row of a window that is not empty is the last there is. -/
theorem window_getLast? (h : self.window reading since ≠ []) :
    (self.window reading since).getLast? = reading.history.getLast? := by
  have hordered := reading.ordered
  unfold window at h ⊢
  generalize reading.history = history at *
  cases hlast : history.getLast? with
  | none =>
      rw [List.getLast?_eq_none_iff.mp hlast] at h
      exact absurd rfl h
  | some last =>
      obtain ⟨before, rfl⟩ := List.getLast?_eq_some_iff.mp hlast
      have hkept : since + self.clockOffset ≤ last.serverTime := by
        obtain ⟨row, hrow⟩ := List.exists_mem_of_ne_nil _ h
        obtain ⟨hmem, hsince⟩ := List.mem_filter.mp hrow
        have hsince : since + self.clockOffset ≤ row.serverTime := of_decide_eq_true hsince
        rcases List.mem_append.mp hmem with hmem | hmem
        · exact le_trans hsince
            ((List.pairwise_append.mp hordered).2.2 row hmem last (List.mem_singleton_self _))
        · rw [List.mem_singleton.mp hmem] at hsince
          exact hsince
      have hone : [last].filter (fun row => decide (since + self.clockOffset ≤ row.serverTime))
          = [last] := by simp [hkept]
      rw [List.filter_append, hone, List.getLast?_append, List.getLast?_singleton]
      rfl

/-- **The last tick of a read is the newest exactly if the read is complete.** -/
theorem newest_iff (h : (self.ticks reading since count source).getLast? = some tick) :
    self.Newest reading source tick ↔ self.Complete reading since count := by
  unfold ticks at h
  rw [List.getLast?_mapIdx] at h
  obtain ⟨row, hrow, rfl⟩ := Option.map_eq_some_iff.mp h
  have htaken : (copyTicksFrom reading.history (since + self.clockOffset) count).getLast?
      = ((self.window reading since).take count).getLast? := rfl
  rw [htaken, List.getLast?_take] at hrow
  split at hrow
  · cases hrow
  have hnonempty : self.window reading since ≠ [] := by
    intro hnil
    rw [hnil] at hrow
    cases hrow
  have hlast := window_getLast? hnonempty
  obtain ⟨last, hlastRow⟩ : ∃ last, reading.history.getLast? = some last := by
    rw [← hlast]
    exact ⟨_, List.getLast?_eq_some_getLast hnonempty⟩
  have hsame : row.quote = last.quote ↔ self.Complete reading since count := by
    unfold Complete
    rw [hlastRow]
    rw [hlast, hlastRow] at hrow
    cases hat : (self.window reading since)[count - 1]? with
    | none =>
        rw [hat] at hrow
        cases hrow
        have hshort := List.getElem?_eq_none_iff.mp hat
        exact ⟨fun _ => .inl (by omega), fun _ => rfl⟩
    | some found =>
        rw [hat] at hrow
        cases hrow
        constructor
        · intro hquote
          exact .inr (congrArg some hquote)
        · rintro (hfits | hquote)
          · have hlong := (List.getElem?_eq_some_iff.mp hat).1
            have hend : count - 1 = (self.window reading since).length - 1 := by omega
            rw [hend, ← List.getLast?_eq_getElem?, hlast, hlastRow] at hat
            cases hat
            rfl
          · exact Option.some.inj hquote
  rw [← hsame]
  unfold Newest
  rw [hlastRow]
  constructor
  · rintro ⟨newest, receivedAt, hnewest, heq⟩
    cases hnewest
    exact (tickFromRaw_eq_iff.mp heq).1
  · exact fun hquote => ⟨last, _, rfl, tickFromRaw_eq_iff.mpr ⟨hquote, rfl⟩⟩

end ReadOnlyMt5Gateway

/-! ## What a pass has read -/

deriving instance DecidableEq for MarketTick

/-- A read of ticks and what it was answered. -/
structure QuoteRead where
  canonicalSymbol : String
  since : UtcDatetime
  count : Nat
  source : String
  quotes : List MarketTick
  deriving DecidableEq

/-- The last read of ticks a pass made. -/
def quoteRead : Past → Option QuoteRead
  | [] => none
  | ⟨.ticks canonicalSymbol since count source, .ok quotes⟩ :: _ =>
      some ⟨canonicalSymbol, since, count, source, quotes⟩
  | _ :: past => quoteRead past

/-- The call reads no ticks. -/
def LeavesQuote : Call → Prop
  | .ticks .. => False
  | _ => True

theorem quoteRead_cons {c : Call} (h : LeavesQuote c) (a : Except PyError c.Answer)
    (past : Past) : quoteRead (⟨c, a⟩ :: past) = quoteRead past := by
  cases c <;> first | rfl | exact h.elim

/-- The pass last read its market's ticks of the half minute before it began and since, and this
is the last of them. -/
def Read (self : ExecutionOrchestrator) (past : Past) (tick : MarketTick) : Prop :=
  ∃ now quotes, ⟨.clock, .ok now⟩ ∈ past
    ∧ quoteRead past = some ⟨self.canonicalSymbol, now - seconds 30, 100, "execution_orchestrator",
      quotes⟩
    ∧ quotes.getLast? = some tick

theorem Read.mono {self : ExecutionOrchestrator} {past past' : Past} {tick : MarketTick}
    (h : Read self past tick) (hs : past <:+ past') (hread : quoteRead past' = quoteRead past) :
    Read self past' tick := by
  obtain ⟨now, quotes, hclock, hquotes, hlast⟩ := h
  exact ⟨now, quotes, hs.subset hclock, hread.trans hquotes, hlast⟩

theorem Read.cons {self : ExecutionOrchestrator} {past : Past} {tick : MarketTick} {c : Call}
    {a : Except PyError c.Answer} (h : Read self past tick) (hc : LeavesQuote c) :
    Read self (⟨c, a⟩ :: past) tick :=
  h.mono (List.suffix_cons ..) (quoteRead_cons hc a past)

open ExecutionOrchestrator

variable [Externals]

/-- The records of what was judged by a quote. -/
def quoteEvents : List ExecutionEventType :=
  [.finalRiskPassed, .submissionGatePassed, .submissionGateBlocked]

/-- The record says what FINAL risk, or the submission gate, says of this tick. -/
def JudgedBy (self : ExecutionOrchestrator) (tick : MarketTick) (e : ExecutionEventRecord) : Prop :=
  (e.eventType = .finalRiskPassed → ∃ q count killSwitch d order, q.tick = tick
    ∧ self.freshMarketSnapshot q.spec tick = .ok q.freshSnapshot
    ∧ self.finalRiskDecision q count killSwitch = .ok d ∧ d.verdict = .pass
    ∧ e.payload = some (finalRiskPayload d order))
  ∧ (e.eventType = .submissionGatePassed ∨ e.eventType = .submissionGateBlocked →
    ∃ p killSwitch, p.tick = tick
      ∧ e.reasonCodes = (evaluateSubmissionGate (self.submissionGateContext p killSwitch)).reasonCodes)

/-- What is judged by a quote is judged by the last tick of the last read. -/
def quoteDiscipline (self : ExecutionOrchestrator) : Discipline Call Call.Answer PyError where
  allows := fun past c => match c with
    | .append e => e.eventType ∈ quoteEvents → ∃ tick, Read self past tick ∧ JudgedBy self tick e
    | _ => True
  answers := mayAnswer

/-- The program judges by the last tick of its last read. -/
abbrev Quotes (self : ExecutionOrchestrator) (past : Past) (p : Pass α) : Prop :=
  Leads (quoteDiscipline self).protocol past p fun _ _ => True

section

variable {self : ExecutionOrchestrator} {past : Past} {α β : Type} {l : List ExecutionEventType}

theorem quoteDiscipline_lets {c : Call} (hl : ∀ t ∈ l, t ∉ quoteEvents) (hc : Records l c) :
    (quoteDiscipline self).allows past c := by
  cases c with
  | append e => exact fun h => absurd h (hl _ hc)
  | _ => trivial

theorem quotes_nothing {p : Pass α} (hp : Only (Records l) p) (hl : ∀ t ∈ l, t ∉ quoteEvents) :
    Quotes self past p :=
  Leads.frame hp (fun _ _ hc => quoteDiscipline_lets hl hc) (fun _ _ _ _ _ => trivial) trivial

theorem quotes_ask {c : Call} {f : c.Answer → Pass β} (hc : Records [] c)
    (hf : ∀ a, Quotes self (⟨c, .ok a⟩ :: past) (f a)) : Quotes self past (Prog.bind (ask c) f) :=
  Leads.next (quoteDiscipline_lets (l := []) (by decide) hc) fun a _ => hf a

/-- A part that records nothing of a quote, and then the rest. -/
theorem quotes_after {p : Pass α} {f : α → Pass β} (hp : Only (Records l) p)
    (hl : ∀ t ∈ l, t ∉ quoteEvents) (hf : ∀ past' a, past <:+ past' → Quotes self past' (f a)) :
    Quotes self past (Prog.bind p f) :=
  Leads.seq (Leads.suffix (quotes_nothing hp hl)) fun past' a h => hf past' a h.1

/-- The reading of the risk session leaves the quote. -/
theorem quotes_recover {observation : BrokerStateObservation} {account : AccountState}
    {finalNow : UtcDatetime} {tick : MarketTick} {f : Except PyError SessionRecovery → Pass β}
    (hread : Read self past tick)
    (hf : ∀ past' recovered, Read self past' tick → Quotes self past' (f recovered)) :
    Quotes self past (Prog.bind (Prog.rescue
      (do pure (Except.ok (← self.recoverRiskSession observation account finalNow)))
      fun e => pure (Except.error e)) f) := by
  have honly : Only (fun c => Records [] c ∧ LeavesQuote c)
      (Prog.rescue (do pure (Except.ok (← self.recoverRiskSession observation account finalNow)))
        fun e => pure (Except.error e)) :=
    Only.rescue (Only.bind (Only.bind (only_ask ⟨trivial, trivial⟩) fun _ => only_lift)
      fun _ => trivial) fun _ => trivial
  refine Leads.seq (Leads.frame (I := fun past' => Read self past' tick) honly ?_ ?_ hread) hf
  · exact fun _ _ hc => quoteDiscipline_lets (by simp) hc.1
  · exact fun _ _ a h hc => h.cons hc.2

/-! ## The parts of a pass -/

theorem records_startSubmission (p : Prepared) :
    Only (Records [.submissionStarted]) (startSubmission p) :=
  Only.bind (records_append (by decide)) fun _ => trivial

/-- What the last step of the chain records. -/
def submissionEvents : List ExecutionEventType :=
  [.submissionStarted, .canaryPermitBlocked, .filled, .rejected, .submitted]

theorem records_attemptRealEntrySubmission (canary : CanaryEntrySubmissionConfig) (p : Prepared) :
    Only (Records submissionEvents) (self.attemptRealEntrySubmission canary p) := by
  have hblocked : ∀ reasons, Only (Records submissionEvents)
      (refuse p.orderRequestId p.capsule .canaryPermitBlocked reasons p.finalNow none none) :=
    fun _ => records_refuse (by decide)
  unfold attemptRealEntrySubmission
  split
  · exact hblocked _
  refine Only.bind (only_ask trivial) fun permit => only_bind_lift fun mismatches _ => ?_
  split
  · exact hblocked _
  refine only_bind_lift fun permit _ => ?_
  have hstart : Records submissionEvents
      (.consumeAndStart permit.permitId p.orderRequestId p.finalNow p.order.dump) := by
    show ExecutionEventType.submissionStarted ∈ submissionEvents
    decide
  refine Only.bind (only_ask hstart) fun outcome => ?_
  split
  · exact Only.mono (Records.mono (by decide)) (records_sendOrder p)
  · exact hblocked _

/-- The gate judges by the quote of the chain. -/
theorem quotes_evaluateSubmissionReadiness {p : Prepared} (hread : Read self past p.tick) :
    Quotes self past (self.evaluateSubmissionReadiness p) := by
  refine quotes_ask trivial fun killSwitch => ?_
  dsimp only
  refine Leads.seq (leads_append fun _ => ⟨p.tick, hread.cons trivial, fun h => ?_, fun _ => ?_⟩)
    fun _ _ _ => Leads.ret.mpr trivial
  · dsimp only at h
    split at h <;> cases h
  · exact ⟨p, killSwitch, rfl, rfl⟩

theorem quotes_checkAndSubmit {p : Prepared} (hread : Read self past p.tick) :
    Quotes self past (self.checkAndSubmit p) := by
  refine quotes_ask trivial fun check => ?_
  dsimp only
  have hchecked : ∀ past', (quoteDiscipline self).allows past' (.append ⟨p.orderRequestId,
      if check.accepted then .orderChecked else .orderCheckRejected, p.finalNow, [], none,
      some check.dump⟩) := by
    intro past'
    refine quoteDiscipline_lets (l := [.orderChecked, .orderCheckRejected]) (by decide) ?_
    unfold Records
    dsimp only
    split <;> decide
  refine Leads.seq (leads_append (hchecked _)) ?_
  rintro past₁ _ ⟨_, rfl⟩
  cases check.accepted with
  | false => exact Leads.ret.mpr trivial
  | true =>
      refine Leads.seq (quotes_evaluateSubmissionReadiness
        (Read.cons (hread.cons trivial) trivial)) fun past₂ decision _ => ?_
      cases decision.isOpen with
      | false => exact Leads.ret.mpr trivial
      | true =>
          simp only [Bool.not_true, Bool.false_eq_true, if_false]
          split
          · exact quotes_nothing (records_startSubmission p) (by decide)
          · exact quotes_nothing (records_attemptRealEntrySubmission _ p) (by decide)

/-- FINAL risk judges by the quote of the chain. -/
theorem quotes_finalRisk {q : Priced} (hread : Read self past q.tick)
    (hfresh : self.freshMarketSnapshot q.spec q.tick = .ok q.freshSnapshot) :
    Quotes self past (self.finalRisk q) := by
  refine quotes_ask trivial fun count => quotes_ask trivial fun killSwitch =>
    leads_lift fun finalRisk hfinal => ?_
  split
  · exact quotes_nothing (l := [.finalRiskBlocked]) (records_refuse (List.mem_singleton_self _))
      (by decide)
  rename_i hverdict
  refine leads_lift fun volume _ => leads_lift fun stop _ => leads_lift fun order _ => ?_
  have hread₂ : Read self (⟨.killSwitch, .ok killSwitch⟩ :: ⟨.countEventsSince .submissionStarted
      (q.finalNow - hours 1) self.config.environment self.canonicalSymbol, .ok count⟩ :: past)
      q.tick := Read.cons (hread.cons trivial) trivial
  have hjudged : ∀ e : ExecutionEventRecord, e.eventType = .finalRiskPassed →
      e.payload = some (finalRiskPayload finalRisk order) → JudgedBy self q.tick e := by
    intro e htype hpayload
    refine ⟨fun _ => ⟨q, count, killSwitch, finalRisk, order, rfl, hfresh, hfinal,
      Decidable.not_not.mp hverdict, hpayload⟩, fun h => ?_⟩
    rw [htype] at h
    rcases h with h | h <;> cases h
  refine Leads.seq (leads_append fun _ => ⟨q.tick, hread₂, hjudged _ rfl rfl⟩) ?_
  rintro past₁ _ ⟨_, rfl⟩
  exact quotes_checkAndSubmit (hread₂.cons trivial)

variable {now : UtcDatetime}

theorem quotes_priceAndRisk {capsule : DecisionCapsule} {chain : ApprovalChain}
    {orderRequestId : Uuid} {observation : BrokerStateObservation} {account : AccountState}
    (hclock : ⟨.clock, .ok now⟩ ∈ past) :
    Quotes self past
      (self.priceAndRisk capsule chain orderRequestId observation account now) := by
  have hblocked : ∀ past reasons now detail, Quotes self past (refuse orderRequestId capsule
      .finalRiskBlocked reasons now detail none) :=
    fun _ _ _ _ => quotes_nothing (l := [.finalRiskBlocked])
      (records_refuse (List.mem_singleton_self _)) (by decide)
  refine quotes_ask trivial fun spec => ?_
  split
  · exact hblocked ..
  rename_i spec
  refine quotes_ask trivial fun ticks => ?_
  split
  · exact hblocked ..
  rename_i tick hlast
  refine leads_lift fun snapshot hsnapshot => quotes_ask trivial fun finalNow => ?_
  have hread : Read self (⟨.ticks self.canonicalSymbol (now - seconds 30) 100
      "execution_orchestrator", .ok ticks⟩ :: ⟨.latestSpec self.canonicalSymbol, .ok (some spec)⟩
      :: past) tick :=
    ⟨now, ticks, List.mem_cons_of_mem _ (List.mem_cons_of_mem _ hclock), rfl, hlast⟩
  refine quotes_recover (hread.cons trivial) fun past₁ recovered hread₁ => ?_
  split
  · exact quotes_after (l := []) (records_trip ..) (by simp) fun _ _ _ => hblocked ..
  split
  · exact quotes_after (l := []) (records_trip ..) (by simp) fun _ _ _ => hblocked ..
  · exact quotes_finalRisk hread₁ hsnapshot

theorem quotes_processClaimed {capsule : DecisionCapsule} {chain : ApprovalChain}
    {orderRequestId : Uuid} (hclock : ⟨.clock, .ok now⟩ ∈ past) :
    Quotes self past (self.processClaimed capsule chain orderRequestId now) := by
  have hblocked : ∀ past eventType reasons detail, eventType ∉ quoteEvents →
      Quotes self past (refuse orderRequestId capsule eventType reasons now detail none) := by
    intro past eventType reasons detail h
    refine quotes_nothing (l := [eventType]) (records_refuse (List.mem_singleton_self _)) ?_
    simpa using h
  refine quotes_after (l := [.requestClaimed]) (records_append (List.mem_singleton_self _))
    (by decide) fun past₁ _ hsuffix₁ => ?_
  dsimp only
  split
  · exact hblocked _ .ineligible _ _ (by decide)
  refine quotes_ask trivial fun killSwitch => ?_
  split
  · exact hblocked _ .gateClosed _ _ (by decide)
  refine quotes_after (l := []) (records_observe ..) (by simp) fun past₂ observation hsuffix₂ =>
    leads_lift fun account _ => quotes_after (l := []) (records_reconcile ..) (by simp)
      fun past₃ result hsuffix₃ => ?_
  split
  · exact hblocked _ .reconciliationBlocked _ _ (by decide)
  · refine quotes_priceAndRisk (List.IsSuffix.subset (List.IsSuffix.trans ?_ hsuffix₃) hclock)
    exact hsuffix₁.trans ((List.suffix_cons ..).trans hsuffix₂)

theorem quotes_process {capsule : DecisionCapsule} (hclock : ⟨.clock, .ok now⟩ ∈ past) :
    Quotes self past (self.process capsule now) := by
  refine leads_lift fun chain _ => ?_
  split
  · exact Leads.raise.mpr trivial
  refine quotes_ask trivial fun claimed => ?_
  cases claimed with
  | true =>
      exact Leads.seq (quotes_processClaimed (List.mem_cons_of_mem _ hclock))
        fun _ _ _ => Leads.ret.mpr trivial
  | false => exact quotes_nothing (records_recoverAmbiguousSubmission ..) (by decide)

theorem quotes_runOnce : Quotes self past self.runOnce := by
  refine quotes_after (l := []) (records_flattenOnce self) (by simp) fun past₁ _ _ =>
    quotes_ask trivial fun now => quotes_ask trivial fun capsules => ?_
  -- the pass goes on from one reading of the clock
  have hloop := Leads.collect (P := (quoteDiscipline self).protocol)
    (f := fun capsule => self.process capsule now)
    (I := fun _ _ past' => ⟨.clock, .ok now⟩ ∈ past') ?_
    (capsules.filter isIntentTimeApproved) []
    (s := ⟨.readAll self.config.environment self.canonicalSymbol, .ok capsules⟩
      :: ⟨.clock, .ok now⟩ :: past₁)
    (List.mem_cons_of_mem _ (List.mem_cons_self ..))
  · refine Leads.seq hloop fun past₂ outcomes _ => ?_
    exact Leads.seq (quotes_nothing (records_reconcileOnce self) (by decide))
      fun _ _ _ => Leads.ret.mpr trivial
  · intro capsule rest _ past' hclock
    refine Leads.mono (Leads.suffix (quotes_process hclock)) ?_
    rintro past'' _ ⟨hsuffix, -⟩
    exact hsuffix.subset hclock

end

/-- **Every pass judges by the last tick of its last read.** -/
theorem program_quotes (q : Task) :
    Conforms (quoteDiscipline q.orchestrator).protocol [] q.program fun _ _ => True := by
  have hquotes : Quotes q.orchestrator [] q.program := by
    unfold Task.program
    split
    · exact Leads.seq quotes_runOnce fun _ _ _ => Leads.ret.mpr trivial
    · exact Leads.seq (quotes_nothing (records_resolvePendingOnce _) (by decide))
        fun _ _ _ => Leads.ret.mpr trivial
    · exact Leads.seq (quotes_nothing (records_reconcileOnce _) (by decide))
        fun _ _ _ => Leads.ret.mpr trivial
  exact Conforms.mono (fun _ _ _ => trivial) hquotes

/-! ## What a request is judged by -/

/-- What is judged by a quote is judged by the last tick of the pass's last read. -/
theorem reachable_judged {w : World} {s : Config Nat Task World Call Call.Answer PyError}
    (h : Reachable w s) {i : Nat} {q : Task} {past : Past} {e : ExecutionEventRecord}
    {k : Except PyError (Call.append e).Answer → Pass Unit}
    (ht : s.threads i = some ⟨q, past, .call (.append e) k⟩) (he : e.eventType ∈ quoteEvents) :
    ∃ tick, Read q.orchestrator past tick ∧ JudgedBy q.orchestrator tick e :=
  reachable_allowed (D := fun q => quoteDiscipline q.orchestrator) program_quotes (fun _ => rfl)
    h ht he

/--
**FINAL risk and the gate judge by the newest quote exactly if the read was complete.** In every
state workers reach, a record of what FINAL risk passed or the gate judged is about the last
tick of a read that looks back half a minute from a reading of the pass's clock. Of whatever
ticks the broker had then, it is the newest if they fit in the hundred asked for, or the
hundredth quotes what the newest does, and not otherwise.
-/
theorem judged_by_newest_iff {w : World} {s : Config Nat Task World Call Call.Answer PyError}
    (h : Reachable w s) {i : Nat} {q : Task} {past : Past} {e : ExecutionEventRecord}
    {k : Except PyError (Call.append e).Answer → Pass Unit}
    (ht : s.threads i = some ⟨q, past, .call (.append e) k⟩) (he : e.eventType ∈ quoteEvents) :
    ∃ now read tick, ⟨.clock, .ok now⟩ ∈ past ∧ quoteRead past = some read
      ∧ read.since = now - seconds 30 ∧ read.quotes.getLast? = some tick
      ∧ JudgedBy q.orchestrator tick e
      ∧ ∀ (gateway : ReadOnlyMt5Gateway) (reading : TickReading),
        gateway.ticks reading read.since read.count read.source = read.quotes →
          (gateway.Newest reading read.source tick ↔ gateway.Complete reading read.since 100) := by
  obtain ⟨tick, ⟨now, quotes, hclock, hread, hlast⟩, hjudged⟩ := reachable_judged h ht he
  refine ⟨now, _, tick, hclock, hread, rfl, hlast, hjudged, fun gateway reading hticks => ?_⟩
  have hlast' : (gateway.ticks reading (now - seconds 30) 100 "execution_orchestrator").getLast?
      = some tick := by
    rw [hticks]
    exact hlast
  exact ReadOnlyMt5Gateway.newest_iff hlast'

end Crumblr

/-! ## A quiet market and a busy one -/

namespace Crumblr

/-- The record worker `i` is about to append. -/
def dueRecord (s : Config Nat Task World Call Call.Answer PyError) (i : Nat) :
    Option (Task × Past × ExecutionEventRecord) :=
  match s.threads i with
  | some ⟨q, past, .call (.append e) _⟩ => some (q, past, e)
  | _ => none

theorem dueRecord_eq_some {s : Config Nat Task World Call Call.Answer PyError} {i : Nat} {q : Task}
    {past : Past} {e : ExecutionEventRecord} (h : dueRecord s i = some (q, past, e)) :
    ∃ k, s.threads i = some ⟨q, past, .call (.append e) k⟩ := by
  unfold dueRecord at h
  split at h
  · rename_i ht
    cases h
    exact ⟨_, ht⟩
  · cases h

namespace Sample

/-- A terminal three hours ahead of UTC. -/
def reader : ReadOnlyMt5Gateway := ⟨"EUR/USD", "EURUSD", hours 3⟩

/-- A row some seconds after noon, by the terminal's clock. -/
def row (second : Nat) (bid ask : Price) : RawTick := ⟨1788879600 + second, 0, bid, ask⟩

/-- A hundred ticks at one price, and one at another. -/
def busy : TickReading where
  history := List.replicate 100 (row 0 (price 110000) (price 110002))
    ++ [row 1 (price 109800) (price 109802)]
  received := fun _ => noon + seconds 1
  ordered := by decide

/-- The first row of the busy market only. -/
def quiet : TickReading where
  history := [row 0 (price 110000) (price 110002)]
  received := fun _ => noon + seconds 1
  ordered := by decide

/-- What a pass from noon on reads of it. -/
def pricedBy (reading : TickReading) : QuoteRead where
  canonicalSymbol := "EUR/USD"
  since := noon - seconds 30
  count := 100
  source := "execution_orchestrator"
  quotes := reader.ticks reading (noon - seconds 30) 100 "execution_orchestrator"

/-- The pass, up to the record of its FINAL risk. -/
def priced (reading : TickReading) : List (Move Nat Task Oracle World.Event) :=
  .start 0 ⟨worker, .runOnce⟩ :: List.replicate 33 (.call 0 { calm with replies := { replies with
    ticks := (pricedBy reading).quotes } })

/-- The next call records that FINAL risk passed, on a read of the reading. -/
def passesOn (reading : TickReading) (s : Config Nat Task World Call Call.Answer PyError) : Bool :=
  (dueRecord s 0).any fun due => decide (due.2.2.eventType = .finalRiskPassed)
    && decide (quoteRead due.2.1 = some (pricedBy reading))

end Sample

open Sample in
theorem judged_by_newest_iff_sample :
    ∃ s q past e k tick, Reachable Sample.world s
      ∧ s.threads 0 = some ⟨q, past, .call (.append e) k⟩ ∧ e.eventType = .finalRiskPassed
      ∧ JudgedBy q.orchestrator tick e
      ∧ reader.Newest quiet "execution_orchestrator" tick := by
  have hrun : (workers.run Machine.unchecked (Machine.idle Sample.world) (priced quiet)).any
      (passesOn quiet) = true := by decide +kernel
  obtain ⟨s, hs, hp⟩ := Machine.Reach.exists_of_run (G := Machine.Always) _ _
    (fun _ _ _ => trivial) hrun
  obtain ⟨⟨q, past, e⟩, hdue, hp⟩ := (Option.any_eq_true _ _).mp hp
  obtain ⟨htype, hread⟩ := Bool.and_eq_true_iff.mp hp
  have htype : e.eventType = .finalRiskPassed := of_decide_eq_true htype
  have hread : quoteRead past = some (pricedBy quiet) := of_decide_eq_true hread
  obtain ⟨k, ht⟩ := dueRecord_eq_some hdue
  obtain ⟨now, read, tick, -, hread', -, -, hjudged, hnewest⟩ :=
    judged_by_newest_iff hs ht (by rw [htype]; decide)
  obtain rfl : pricedBy quiet = read := Option.some.inj (hread.symm.trans hread')
  refine ⟨s, q, past, e, k, tick, hs, ht, htype, hjudged, (hnewest reader quiet rfl).mpr (.inl ?_)⟩
  decide

open Sample in
/-- FINAL risk passes on a quote the broker had replaced. -/
theorem final_risk_on_replaced_quote :
    ∃ s q past e k tick, Reachable Sample.world s
      ∧ s.threads 0 = some ⟨q, past, .call (.append e) k⟩ ∧ e.eventType = .finalRiskPassed
      ∧ quoteRead past = some (pricedBy busy) ∧ JudgedBy q.orchestrator tick e
      ∧ ¬ reader.Newest busy "execution_orchestrator" tick := by
  have hrun : (workers.run Machine.unchecked (Machine.idle Sample.world) (priced busy)).any
      (passesOn busy) = true := by decide +kernel
  obtain ⟨s, hs, hp⟩ := Machine.Reach.exists_of_run (G := Machine.Always) _ _
    (fun _ _ _ => trivial) hrun
  obtain ⟨⟨q, past, e⟩, hdue, hp⟩ := (Option.any_eq_true _ _).mp hp
  obtain ⟨htype, hread⟩ := Bool.and_eq_true_iff.mp hp
  have htype : e.eventType = .finalRiskPassed := of_decide_eq_true htype
  have hread : quoteRead past = some (pricedBy busy) := of_decide_eq_true hread
  obtain ⟨k, ht⟩ := dueRecord_eq_some hdue
  obtain ⟨tick, ⟨now, quotes, -, hread', hlast⟩, hjudged⟩ :=
    reachable_judged hs ht (by rw [htype]; decide)
  refine ⟨s, q, past, e, k, tick, hs, ht, htype, hread, hjudged, fun hnewest => ?_⟩
  have hquotes : reader.ticks busy (noon - seconds 30) 100 "execution_orchestrator" = quotes :=
    congrArg QuoteRead.quotes (Option.some.inj (hread.symm.trans hread'))
  rw [← hquotes] at hlast
  have hlong : ¬ (reader.window busy (noon - seconds 30)).length ≤ 100 := by decide +kernel
  have hdiffers : ((reader.window busy (noon - seconds 30))[99]?).map RawTick.quote
      ≠ busy.history.getLast?.map RawTick.quote := by decide +kernel
  -- the window holds a hundred and one rows, and the last of them quotes lower
  rcases (ReadOnlyMt5Gateway.newest_iff hlast).mp hnewest with hfits | hsame
  · exact hlong hfits
  · exact hdiffers hsame

end Crumblr
