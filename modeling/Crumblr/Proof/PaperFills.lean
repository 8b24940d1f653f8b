import Crumblr.Proof.PaperBook
import Crumblr.Proof.OwnerPolicy
import Crumblr.Proof.PaperEvidence

/-!
# Paper fills

Every position the paper broker ever opened was opened by one order of one call, and that call had
all it takes. An order opens a position once: its id goes on record with it. The one fill that
leaves no record is at no price, and a portfolio with such a position can no longer be reported;
the process then does nothing with it, and what starts again makes nothing of its journal.
-/

namespace Crumblr.PaperLite

/-! ## What a portfolio knows of the positions it opened -/

/-- The positions can be reported, or there is nothing yet to report. -/
def Reports (b : DurablePaperBroker) : Prop :=
  b.latestTick = none ∨ ∃ positions, b.broker.positions = .ok positions

/-- A portfolio that has opened these positions. -/
structure Booked (opened : List OpenPosition) (b : DurablePaperBroker) : Prop where
  ticketed : b.broker.Ticketed
  /-- The simulation stands where the last observation put it. -/
  tick : b.broker.tick = b.latestTick
  quoted : ∀ tick, b.latestTick = some tick → 0 < tick.bid ∧ 0 < tick.ask
  untouched : b.latestTick = none → b.broker.open_ = []
  noted : ∀ p ∈ b.broker.open_, ∃ x ∈ opened, p.core = x.core
  /-- An order that opened a position is on record, or the position cannot be reported. -/
  ordered : ∀ x ∈ opened, (b.orderFingerprints.lookup x.orderRequestId).isSome
    ∨ ∃ p ∈ b.broker.open_, p.orderRequestId = x.orderRequestId ∧ ¬ 0 < p.entryPrice

section

variable {opened : List OpenPosition} {b s : DurablePaperBroker}

/-- **What can be reported is on record.** -/
theorem Booked.recorded (h : Booked opened b) (hr : Reports b) :
    ∀ x ∈ opened, (b.orderFingerprints.lookup x.orderRequestId).isSome := by
  intro x hx
  rcases h.ordered x hx with hrecorded | ⟨p, hp, -, hprice⟩
  · exact hrecorded
  · rcases hr with hnone | ⟨positions, hpositions⟩
    · rw [h.untouched hnone] at hp
      cases hp
    · exact absurd (SimulatedBroker.entryPrice_of_positions hpositions p hp) hprice

/-- Marking and closing what can be reported. -/
theorem Booked.settled (h : Booked opened b) (hr : Reports b) (hs : Settled b s)
    (htick : s.broker.tick = s.latestTick)
    (hquoted : ∀ tick, s.latestTick = some tick → 0 < tick.bid ∧ 0 < tick.ask)
    (huntouched : s.latestTick = none → b.latestTick = none) : Booked opened s where
  ticketed := hs.thinned.ticketed h.ticketed
  tick := htick
  quoted := hquoted
  untouched := fun hnone => by
    have htickets := hs.thinned.tickets
    rw [h.untouched (huntouched hnone)] at htickets
    simpa using htickets
  noted := fun p hp => by
    obtain ⟨p₀, hp₀, hcore⟩ := hs.thinned.cores p hp
    obtain ⟨x, hx, hcore₀⟩ := h.noted p₀ hp₀
    exact ⟨x, hx, hcore.trans hcore₀⟩
  ordered := fun x hx => .inl (hs.fingerprints ▸ h.recorded hr x hx)

/-- Only the positions, the last observation and the orders on record count. -/
theorem Booked.same (h : Booked opened b) (hopen : s.broker.open_ = b.broker.open_)
    (hnext : s.broker.nextTicket = b.broker.nextTicket) (htick : s.broker.tick = b.broker.tick)
    (hlatest : s.latestTick = b.latestTick) (hfp : b.orderFingerprints <+: s.orderFingerprints) :
    Booked opened s where
  ticketed := ⟨hopen ▸ h.ticketed.nodup, fun p hp => by
    rw [hnext]
    exact h.ticketed.below p (hopen ▸ hp)⟩
  tick := by rw [htick, hlatest, h.tick]
  quoted := fun tick => by
    rw [hlatest]
    exact h.quoted tick
  untouched := fun hnone => by
    rw [hopen]
    exact h.untouched (hlatest ▸ hnone)
  noted := fun p hp => h.noted p (hopen ▸ hp)
  ordered := fun x hx => by
    rcases h.ordered x hx with hrecorded | ⟨p, hp, hstuck⟩
    · exact .inl (isSome_lookup_mono hfp hrecorded)
    · exact .inr ⟨p, hopen ▸ hp, hstuck⟩

/-- **A fill** is of an order that opened nothing before. -/
theorem Booked.filled {order : ApprovedOrder} {fill : SimulatedBroker.SimulatedFill}
    (h : Booked opened b) (hr : Reports b) (hf : Filled b s order fill)
    (hlatest : s.latestTick = b.latestTick) :
    Booked (opened ++ [b.broker.positionOf order fill]) s
      ∧ ∀ x ∈ opened, x.orderRequestId ≠ order.orderRequestId := by
  have hrecorded := h.recorded hr
  obtain ⟨htick, hrequested⟩ := SimulatedBroker.fillOf_tick hf.filled
  have hpositive : 0 < fill.requested := by
    obtain ⟨hbid, hask⟩ := h.quoted fill.tick (h.tick ▸ htick)
    rw [hrequested]
    split
    · exact hask
    · exact hbid
  have hprefix : b.orderFingerprints <+: s.orderFingerprints := by
    rcases hf.recorded with ⟨fingerprint, hfp⟩ | ⟨hfp, -⟩
    · exact ⟨_, hfp.symm⟩
    · exact hfp ▸ List.prefix_refl _
  refine ⟨⟨⟨?_, ?_⟩, ?_, ?_, ?_, ?_, ?_⟩, ?_⟩
  · rw [hf.open_, List.map_append, List.nodup_append]
    refine ⟨h.ticketed.nodup, List.nodup_singleton _, ?_⟩
    intro t ht t' ht'
    obtain ⟨p, hp, rfl⟩ := List.mem_map.mp ht
    rw [List.map_singleton, List.mem_singleton] at ht'
    have hbelow := h.ticketed.below p hp
    rw [ht']
    change p.ticket ≠ b.broker.nextTicket
    omega
  · intro p hp
    rw [hf.open_] at hp
    rw [hf.nextTicket]
    rcases List.mem_append.mp hp with hp | hp
    · have hbelow := h.ticketed.below p hp
      omega
    · rw [List.mem_singleton.mp hp]
      change b.broker.nextTicket < _
      omega
  · rw [hf.tick, hlatest, h.tick]
  · rw [hlatest]
    exact h.quoted
  · intro hnone
    rw [hlatest, ← h.tick, htick] at hnone
    cases hnone
  · intro p hp
    rw [hf.open_] at hp
    rcases List.mem_append.mp hp with hp | hp
    · obtain ⟨x, hx, hcore⟩ := h.noted p hp
      exact ⟨x, List.mem_append_left _ hx, hcore⟩
    · exact ⟨p, List.mem_append_right _ hp, rfl⟩
  · intro x hx
    rcases List.mem_append.mp hx with hx | hx
    · exact .inl (isSome_lookup_mono hprefix (hrecorded x hx))
    · obtain rfl := List.mem_singleton.mp hx
      rcases hf.recorded with ⟨fingerprint, hfp⟩ | ⟨-, hprice⟩
      · rw [hfp]
        exact .inl lookup_concat_isSome
      · refine .inr ⟨_, hf.open_ ▸ List.mem_append_right _ (List.mem_singleton.mpr rfl), rfl, ?_⟩
        exact fun hentry => hprice ⟨hpositive, hentry⟩
  · intro x hx heq
    have hx := hrecorded x hx
    rw [heq, hf.fresh] at hx
    cases hx

end

/-! ## The positions an operation opens -/

theorem openedBy_of_tickets {before after : SimulatedBroker}
    (h : ∀ p ∈ after.open_, p.ticket ∈ before.open_.map (·.ticket)) : openedBy before after = [] :=
  List.filter_eq_nil_iff.mpr fun p hp hnew => of_decide_eq_true hnew (h p hp)

theorem openedBy_thinned {before after : SimulatedBroker} (h : before.Thinned after) :
    openedBy before after = [] :=
  openedBy_of_tickets fun _ hp => h.tickets.subset (List.mem_map_of_mem hp)

theorem openedBy_same {before after : SimulatedBroker} (h : after.open_ = before.open_) :
    openedBy before after = [] :=
  openedBy_of_tickets fun _ hp => List.mem_map_of_mem (h ▸ hp)

theorem openedBy_concat {before after : SimulatedBroker} {position : OpenPosition}
    (hb : before.Ticketed) (hopen : after.open_ = before.open_ ++ [position])
    (hticket : position.ticket = before.nextTicket) : openedBy before after = [position] := by
  unfold openedBy
  have hnew : decide (position.ticket ∉ before.open_.map (·.ticket)) = true := by
    refine decide_eq_true fun hmem => ?_
    obtain ⟨p, hp, heq⟩ := List.mem_map.mp hmem
    have hbelow := hb.below p hp
    rw [heq, hticket] at hbelow
    exact absurd hbelow (lt_irrefl _)
  have hold : before.open_.filter (fun p => decide (p.ticket ∉ before.open_.map (·.ticket))) = [] :=
    List.filter_eq_nil_iff.mpr fun p hp h => of_decide_eq_true h (List.mem_map_of_mem hp)
  rw [hopen, List.filter_append, hold, List.nil_append, List.filter_singleton, hnew]
  rfl

section

variable [Externals] {opened : List OpenPosition} {b : DurablePaperBroker}

omit [Externals] in
/-- A later quote of a bar is the quote. -/
theorem quoteOnlyTick_quote {tick simulated : GeneratedTick} (h : quoteOnlyTick tick = .ok simulated) :
    simulated.bid = tick.bid ∧ simulated.ask = tick.ask := by
  obtain ⟨midpoint, -, h⟩ := bind_ok h
  dsimp only at h
  split at h
  · obtain ⟨spreadPoints, -, h⟩ := bind_ok h
    obtain ⟨bar, -, h⟩ := bind_ok h
    cases h
    exact ⟨rfl, rfl⟩
  · cases h

theorem simulationTick_quote {tick simulated : GeneratedTick}
    (h : b.simulationTick tick = .ok simulated) :
    simulated.bid = tick.bid ∧ simulated.ask = tick.ask := by
  unfold DurablePaperBroker.simulationTick at h
  split at h
  · exact quoteOnlyTick_quote h
  · cases h
    exact ⟨rfl, rfl⟩

/-- What an operation is carried out on. -/
def Permitted (b : DurablePaperBroker) : PaperOperation → Prop
  | .advance tick => Reports b ∧ 0 < tick.bid ∧ 0 < tick.ask
  | .submit .. | .flattenAll .. => Reports b
  | .recordAuditFact .. => True

/-- **What an operation opens**: the position of the order it fills, if it is one. -/
theorem openedBy_run (h : Booked opened b) (op : PaperOperation) :
    openedBy b.broker (op.run b).left.broker = []
      ∨ ∃ order riskAmount correlationId fill, op = .submit order riskAmount correlationId
        ∧ Filled b (op.run b).left order.val fill
        ∧ openedBy b.broker (op.run b).left.broker = [b.broker.positionOf order.val fill] := by
  cases op with
  | advance tick => exact .inl (openedBy_thinned (advance_left h.ticketed tick).1.thinned)
  | submit order riskAmount correlationId =>
      rcases (submit_left (b := b) order riskAmount correlationId).2 with ⟨hopen, -⟩ | ⟨fill, hfilled⟩
      · exact .inl (openedBy_same hopen)
      · exact .inr ⟨order, riskAmount, correlationId, fill, rfl, hfilled,
          openedBy_concat h.ticketed hfilled.open_ rfl⟩
  | flattenAll flattenRequestId reason =>
      rcases (flattenAll_left (b := b) flattenRequestId reason).2.2 with hsame | ⟨closed, hclose⟩
      · exact .inl (openedBy_same (congrArg SimulatedBroker.open_ hsame))
      · refine .inl (openedBy_of_tickets fun p hp => ?_)
        have hnil := (SimulatedBroker.open_closeAllPositions hclose).1
        change p ∈ (b.flattenAll flattenRequestId reason).left.broker.open_ at hp
        rw [hnil] at hp
        cases hp
  | recordAuditFact fact correlationId detail =>
      exact .inl (openedBy_same (congrArg SimulatedBroker.open_ (recordAuditFact_left ..).2.2))

/-- **What an operation keeps.** -/
theorem booked_run (h : Booked opened b) {op : PaperOperation} (hop : Permitted b op) :
    Booked (opened ++ openedBy b.broker (op.run b).left.broker) (op.run b).left := by
  rcases openedBy_run h op with hnone | ⟨order, riskAmount, correlationId, fill, rfl, hfilled, hone⟩
  swap
  · rw [hone]
    exact (h.filled hop hfilled (submit_left ..).1).1
  rw [hnone, List.append_nil]
  cases op with
  | advance tick =>
      obtain ⟨hr, hquote⟩ := hop
      obtain ⟨hsettled, ⟨hbroker, hlatest⟩ | ⟨simulated, hsimulated, htick, hlatest⟩⟩ :=
        advance_left h.ticketed tick
      · refine h.settled hr hsettled ?_ ?_ fun hnone => hlatest ▸ hnone
        · exact (congrArg SimulatedBroker.tick hbroker).trans (h.tick.trans hlatest.symm)
        · exact fun t ht => h.quoted t (hlatest ▸ ht)
      · refine h.settled hr hsettled (htick.trans hlatest.symm) (fun t ht => ?_) fun hnone => ?_
        · cases hlatest.symm.trans ht
          obtain ⟨hbid, hask⟩ := simulationTick_quote hsimulated
          rw [hbid, hask]
          exact hquote
        · cases hlatest.symm.trans hnone
  | submit order riskAmount correlationId =>
      obtain ⟨hlatest, ⟨hopen, hnext, htick, hfp⟩ | ⟨fill, hfilled⟩⟩ := submit_left
        (b := b) order riskAmount correlationId
      · exact h.same hopen hnext htick hlatest hfp
      · cases (openedBy_concat h.ticketed hfilled.open_ rfl).symm.trans hnone
  | flattenAll flattenRequestId reason =>
      obtain ⟨hfp, hlatest, hsame | ⟨closed, hclose⟩⟩ := flattenAll_left (b := b)
        flattenRequestId reason
      · exact h.same (congrArg SimulatedBroker.open_ hsame)
          (congrArg SimulatedBroker.nextTicket hsame) (congrArg SimulatedBroker.tick hsame) hlatest
          (hfp ▸ List.prefix_refl _)
      · obtain ⟨hnil, htick, hnext⟩ := SimulatedBroker.open_closeAllPositions hclose
        have hthinned : b.broker.Thinned (b.flattenAll flattenRequestId reason).left.broker := by
          refine ⟨?_, ?_, hnext⟩
          · rw [hnil]
            exact List.nil_sublist _
          · rw [hnil]
            intro p hp
            cases hp
        refine h.settled hop ⟨hthinned, hfp⟩ ?_ ?_ fun hnone => hlatest ▸ hnone
        · exact htick.trans (h.tick.trans hlatest.symm)
        · exact fun t ht => h.quoted t (hlatest ▸ ht)
  | recordAuditFact fact correlationId detail =>
      obtain ⟨hfp, hlatest, hbroker⟩ := recordAuditFact_left (b := b) fact
        correlationId detail
      exact h.same (congrArg SimulatedBroker.open_ hbroker)
        (congrArg SimulatedBroker.nextTicket hbroker) (congrArg SimulatedBroker.tick hbroker) hlatest
        (hfp ▸ List.prefix_refl _)

end

/-! ## A call and the process -/

section

variable [Externals] {w : PaperWorld} {o : PaperOracle} {m : PaperMemory}

/-- What a call that is no operation leaves: the portfolio, and but for a halt the switch. -/
structure Undisturbed (c : PaperCall) (m : PaperMemory) (w w' : PaperWorld) : Prop where
  journal : w'.journal = w.journal
  opened : w'.opened = w.opened
  process : ∃ m', w'.process = .ok m' ∧ m'.book = m.book
    ∧ ((∀ halt, c ≠ .inl (.trip halt)) → m'.killSwitch = m.killSwitch)

variable {c : PaperCall}

omit [Externals] in
theorem Undisturbed.refl (hm : w.process = .ok m) : Undisturbed c m w w :=
  ⟨rfl, rfl, m, hm, rfl, fun _ => rfl⟩

omit [Externals] in
theorem write_either (w w' : PaperWorld) : (o.write w w').2 = w ∨ (o.write w w').2 = w' := by
  unfold PaperOracle.write
  split
  · exact .inr rfl
  · split
    · exact .inr rfl
    · exact .inl rfl

omit [Externals] in
theorem Undisturbed.write {w' w'' : PaperWorld} (h : Undisturbed c m w w')
    (h' : Undisturbed c m w w'') : Undisturbed c m w (o.write w' w'').2 := by
  rcases write_either (o := o) w' w'' with he | he <;> rw [he]
  · exact h
  · exact h'

omit [Externals] in
theorem Undisturbed.read {α : Type} {a : α} (hm : w.process = .ok m) :
    Undisturbed c m w (o.read a w).2 := by
  unfold PaperOracle.read
  split <;> exact .refl hm

/-- **Only an operation touches the portfolio**, and only a halt the switch. -/
theorem serve_undisturbed (hm : w.process = .ok m) (hc : ∀ op, c ≠ .inr (.operate op)) :
    Undisturbed c m w (w.serve o c).2 := by
  have hemptied : Undisturbed c m w (w.remembering { m with pending := [] }) :=
    ⟨rfl, rfl, _, rfl, rfl, fun _ => rfl⟩
  unfold PaperWorld.serve
  rw [hm]
  rcases c with c | c
  · cases c with
    | lock canonicalSymbol => exact .write (.refl hm) (.refl hm)
    | trip halt =>
        have htrip : ∀ halt', ¬ ∀ h, (Sum.inl (.trip halt') : PaperCall) ≠ .inl (.trip h) :=
          fun halt' h => h halt' rfl
        simp only [PaperWorld.serveAgent, PaperOracle.writeThen]
        split
        · exact ⟨rfl, rfl, _, rfl, rfl, fun h => absurd h (htrip halt)⟩
        · split
          · exact ⟨rfl, rfl, m, hm, rfl, fun _ => rfl⟩
          · exact .refl hm
    | record event => exact ⟨rfl, rfl, _, rfl, rfl, fun _ => rfl⟩
    | flush => exact .write hemptied ⟨rfl, rfl, _, rfl, rfl, fun _ => rfl⟩
    | review proposal intent riskDecisionId supervisorDecisionId now => exact .read hm
    | _ => first | exact .refl hm | exact .write hemptied ⟨rfl, rfl, _, rfl, rfl, fun _ => rfl⟩
  · cases c with
    | operate op => exact absurd rfl (hc op)
    | remember risk => exact ⟨rfl, rfl, _, rfl, rfl, fun _ => rfl⟩
    | saveRiskSession state => exact .write (.refl hm) ⟨rfl, rfl, m, hm, rfl, fun _ => rfl⟩
    | recordEvidence evidence => exact .write (.refl hm) ⟨rfl, rfl, m, hm, rfl, fun _ => rfl⟩
    | issueContextBundle bundle =>
        simp only [PaperWorld.serveOwn]
        split
        · exact .refl hm
        · exact .write (.refl hm) ⟨rfl, rfl, m, hm, rfl, fun _ => rfl⟩
    | decide context => exact .read hm
    | authenticateOwn agentId credentialSecret submission now =>
        simp only [PaperWorld.serveOwn]
        split <;> exact .refl hm
    | transact call =>
        simp only [PaperWorld.serveOwn]
        split
        · exact .refl hm
        · exact ⟨rfl, rfl, m, hm, rfl, fun _ => rfl⟩
    | _ => exact .refl hm

/-- **What an operation comes to.** An append that fails leaves the world as it is. -/
theorem serve_operate (hm : w.process = .ok m) (op : PaperOperation) :
    (w.serve o (.inr (.operate op))).2 = w
      ∨ w.serve o (.inr (.operate op)) = ((op.run m.book).outcome, { w with
          journal := w.journal ++ (op.run m.book).appended.toList
          process := .ok { m with book := (op.run m.book).left }
          opened := w.opened ++ openedBy m.book.broker (op.run m.book).left.broker }) := by
  unfold PaperWorld.serve
  rw [hm]
  simp only [PaperWorld.serveOwn, PaperWorld.operate]
  split
  · exact .inl rfl
  · exact .inr rfl

/-- Without a process every call raises. -/
theorem serve_dead {e : PyError} (hm : w.process = .error e) (c : PaperCall) :
    w.serve o c = (.error e, w) := by
  unfold PaperWorld.serve
  rw [hm]

end

/-! ## What a process that starts makes of the journal -/

section

variable [Externals] {p : PaperPortfolio} {w : PaperWorld} {o : PaperOracle} {m : PaperMemory}

/-- The portfolio in memory is what a process that starts makes of the journal, unless it can make
nothing of it. -/
structure Recoverable (p : PaperPortfolio) (w : PaperWorld) : Prop where
  chained : Chained (p.header :: w.journal)
  live : ∀ m, w.process = .ok m → m.book.entries = p.header :: w.journal
    ∧ ((paperSource p).rebuild w.journal = .ok m.book ∧ Claimed m.book
      ∨ ∃ e, (paperSource p).rebuild w.journal = .error e)
  dead : ∀ e, w.process = .error e → ∃ e', (paperSource p).rebuild w.journal = .error e'

/-- **A process that starts has the portfolio of the one before it**, or nothing. -/
theorem Recoverable.restart (h : Recoverable p w) : Recoverable p (w.restart p)
    ∧ ∀ m', (w.restart p).process = .ok m' → ∃ m, w.process = .ok m ∧ m'.book = m.book := by
  have hstarted : ∀ m', (w.restart p).process = .ok m' →
      (paperSource p).rebuild w.journal = .ok m'.book := by
    intro m' hm'
    obtain ⟨b, hb, hm'⟩ := bind_ok hm'
    cases hm'
    rwa [load_paperFile h.chained] at hb
  have hsame : ∀ m', (w.restart p).process = .ok m' →
      ∃ m, w.process = .ok m ∧ m'.book = m.book ∧ Claimed m.book := by
    intro m' hm'
    have hrebuild := hstarted m' hm'
    cases hm : w.process with
    | error e =>
        obtain ⟨e', he'⟩ := h.dead e hm
        rw [he'] at hrebuild
        cases hrebuild
    | ok m =>
        rcases (h.live m hm).2 with ⟨hlive, hclaimed⟩ | ⟨e', he'⟩
        · rw [hlive] at hrebuild
          exact ⟨m, rfl, (Except.ok.inj hrebuild).symm, hclaimed⟩
        · rw [he'] at hrebuild
          cases hrebuild
  refine ⟨⟨h.chained, fun m' hm' => ?_, fun e he => ?_⟩, fun m' hm' => ?_⟩
  · obtain ⟨m, hm, hbook, hclaimed⟩ := hsame m' hm'
    rw [hbook]
    exact ⟨(h.live m hm).1, .inl ⟨hbook ▸ hstarted m' hm', hclaimed⟩⟩
  · change (p.load (paperFile p w.journal) >>= _) = _ at he
    rw [load_paperFile h.chained] at he
    cases hrebuild : (paperSource p).rebuild w.journal with
    | error e' => exact ⟨e', hrebuild⟩
    | ok b =>
        rw [hrebuild] at he
        cases he
  · obtain ⟨m, hm, hbook, -⟩ := hsame m' hm'
    exact ⟨m, hm, hbook⟩

theorem Recoverable.same {w' : PaperWorld} (h : Recoverable p w)
    (hjournal : w'.journal = w.journal) (hprocess : w'.process = w.process) : Recoverable p w' := by
  refine ⟨hjournal ▸ h.chained, fun m hm => ?_, fun e he => ?_⟩ <;> rw [hjournal]
  · exact h.live m (hprocess ▸ hm)
  · exact h.dead e (hprocess ▸ he)

theorem Recoverable.undisturbed {w' : PaperWorld} {c : PaperCall} (h : Recoverable p w)
    (hm : w.process = .ok m) (hu : Undisturbed c m w w') : Recoverable p w' := by
  obtain ⟨m', hm', hbook, -⟩ := hu.process
  refine ⟨hu.journal ▸ h.chained, fun m'' hm'' => ?_, fun e he => ?_⟩
  · cases hm'.symm.trans hm''
    rw [hu.journal, hbook]
    exact h.live m hm
  · cases hm'.symm.trans he

/-- An operation and its append. -/
theorem Recoverable.operated (h : Recoverable p w) (hm : w.process = .ok m) (op : PaperOperation)
    {w' : PaperWorld} (hjournal : w'.journal = w.journal ++ (op.run m.book).appended.toList)
    (hprocess : w'.process = .ok { m with book := (op.run m.book).left }) : Recoverable p w' := by
  obtain ⟨hentries, hrebuild⟩ := h.live m hm
  have hrun := journalled_run (b := m.book) op
  have hentries' : (op.run m.book).left.entries = p.header :: w'.journal := by
    rw [hrun.entries, hentries, hjournal, List.cons_append]
  refine ⟨?_, fun m' hm' => ?_, fun e he => ?_⟩
  · rw [← hentries']
    exact hrun.chained (hentries ▸ h.chained)
  · cases hprocess.symm.trans hm'
    refine ⟨hentries', ?_⟩
    rw [hjournal]
    rcases hrebuild with ⟨hlive, hclaimed⟩ | ⟨e, he⟩
    swap
    · exact .inr ⟨e, Sourcing.Source.rebuild_error he _⟩
    have hS := paperSource_faithful p
    cases heffect : op.run m.book with
    | mk r outcome s =>
        cases outcome with
        | error e =>
            rcases run_error hclaimed heffect with ⟨rfl, rfl⟩ | ⟨entry, e', rfl, happly⟩
            · left
              simpa using ⟨hlive, hclaimed⟩
            · exact .inr ⟨e', (Sourcing.Source.rebuild_append hlive entry).trans happly⟩
        | ok a =>
            left
            refine ⟨?_, claimed_run hclaimed heffect⟩
            cases r with
            | none =>
                obtain rfl : s = m.book := hS.silent hclaimed heffect
                simpa using hlive
            | some entry =>
                exact hS.rebuild_cut (p := ⟨w.journal, m.book⟩) hlive hclaimed heffect
  · cases hprocess.symm.trans he

end

/-! ## What a call has heard of the process -/

section

variable [Externals] {w : PaperWorld} {o : PaperOracle} {m : PaperMemory} {past : PaperPast}

/-- What the call has heard is still so. -/
structure Linked (w : PaperWorld) (past : PaperPast) : Prop where
  switch : ∀ k, heardSwitch past = some k → ∃ m, w.process = .ok m ∧ m.killSwitch = k
  books : ∀ b ∈ heardBooks past, ∃ m, w.process = .ok m ∧ m.book.broker = b.broker
    ∧ m.book.latestTick = b.latestTick

omit [Externals] in
theorem Linked.init : Linked w [] where
  switch := fun _ h => by cases h
  books := fun _ h => by cases h

omit [Externals] in
/-- Positions the call could report can be reported. -/
theorem Linked.reports (h : Linked w past) (hr : Reportable past) :
    ∃ m, w.process = .ok m ∧ Reports m.book := by
  obtain ⟨b, hb, hreport⟩ := hr
  obtain ⟨m, hm, hbroker, hlatest⟩ := h.books b hb
  exact ⟨m, hm, by rwa [Reports, hbroker, hlatest]⟩

theorem switchAfter_call (hm : w.process = .ok m) (h : Linked w past) (c : PaperCall) :
    ∀ k, switchAfter (heardSwitch past) ⟨c, (w.serve o c).1⟩ = some k →
      ∃ m', (w.serve o c).2.process = .ok m' ∧ m'.killSwitch = k := by
  intro k hk
  have hkept : (∀ halt, c ≠ .inl (.trip halt)) →
      ∃ m', (w.serve o c).2.process = .ok m' ∧ m'.killSwitch = m.killSwitch := by
    intro htrip
    by_cases hc : ∃ op, c = .inr (.operate op)
    · obtain ⟨op, rfl⟩ := hc
      rcases serve_operate (o := o) hm op with hserve | hserve <;> rw [hserve]
      · exact ⟨m, hm, rfl⟩
      · exact ⟨_, rfl, rfl⟩
    · obtain ⟨m', hm', -, hswitch⟩ :=
        (serve_undisturbed (o := o) hm fun op hop => hc ⟨op, hop⟩).process
      exact ⟨m', hm', hswitch htrip⟩
  have hheard : ∀ k, heardSwitch past = some k → m.killSwitch = k := by
    intro k hk
    obtain ⟨m', hm', hk⟩ := h.switch k hk
    cases hm.symm.trans hm'
    exact hk
  by_cases hc : LeavesSwitch c
  · rw [switchAfter_of_leaves hc] at hk
    rw [← hheard k hk]
    refine hkept fun halt hhalt => ?_
    rw [hhalt] at hc
    exact hc
  · rcases c with c | c
    · cases c with
      | killSwitch =>
          have hanswer : (w.serve o (.inl .killSwitch)).1 = .ok m.killSwitch := by
            unfold PaperWorld.serve
            rw [hm]
            rfl
          rw [hanswer] at hk
          obtain rfl : m.killSwitch = k := Option.some.inj hk
          exact hkept fun halt hhalt => by cases hhalt
      | trip halt => cases hk
      | _ => exact absurd trivial hc
    · exact absurd trivial hc

theorem booksAfter_call (hm : w.process = .ok m) (h : Linked w past) (c : PaperCall) :
    ∀ b ∈ booksAfter (heardBooks past) ⟨c, (w.serve o c).1⟩,
      ∃ m', (w.serve o c).2.process = .ok m' ∧ m'.book.broker = b.broker
        ∧ m'.book.latestTick = b.latestTick := by
  have hheard : ∀ b ∈ heardBooks past,
      m.book.broker = b.broker ∧ m.book.latestTick = b.latestTick := by
    intro b hb
    obtain ⟨m', hm', hsame⟩ := h.books b hb
    cases hm.symm.trans hm'
    exact hsame
  have hkept : ∀ b : DurablePaperBroker, m.book.broker = b.broker ∧ m.book.latestTick = b.latestTick →
      (∀ op, c ≠ .inr (.operate op)) → ∃ m', (w.serve o c).2.process = .ok m'
        ∧ m'.book.broker = b.broker ∧ m'.book.latestTick = b.latestTick := by
    intro b hb hc
    obtain ⟨m', hm', hbook, -⟩ := (serve_undisturbed (o := o) hm hc).process
    exact ⟨m', hm', by rwa [hbook]⟩
  intro b hb
  rcases c with c | c
  · exact hkept b (hheard b hb) fun op hop => by cases hop
  · cases c with
    | book =>
        have hanswer : (w.serve o (.inr .book)).1 = .ok m.book := by
          unfold PaperWorld.serve
          rw [hm]
          rfl
        rw [hanswer] at hb
        refine hkept b ?_ fun op hop => by cases hop
        rcases List.mem_cons.mp hb with rfl | hb
        · exact ⟨rfl, rfl⟩
        · exact hheard b hb
    | operate op =>
        cases op with
        | recordAuditFact fact correlationId detail =>
            obtain ⟨-, hlatest, hbroker⟩ := recordAuditFact_left (b := m.book) fact
              correlationId detail
            rcases serve_operate (o := o) hm (.recordAuditFact fact correlationId detail)
              with hserve | hserve <;> rw [hserve]
            · exact ⟨m, hm, hheard b hb⟩
            · exact ⟨_, rfl, hbroker.trans (hheard b hb).1, hlatest.trans (hheard b hb).2⟩
        | _ => cases hb
    | _ => exact hkept b (hheard b hb) fun op hop => by cases hop

/-- **A call hears what is so.** -/
theorem Linked.call (h : Linked w past) (c : PaperCall) :
    Linked (w.serve o c).2 (⟨c, (w.serve o c).1⟩ :: past) := by
  cases hm : w.process with
  | ok m => exact ⟨switchAfter_call hm h c, booksAfter_call hm h c⟩
  | error e =>
      -- where there is no process, nothing was heard and nothing is answered
      have hswitch : heardSwitch past = none := by
        refine Option.eq_none_iff_forall_ne_some.mpr fun k hk => ?_
        obtain ⟨m, hm', -⟩ := h.switch k hk
        cases hm.symm.trans hm'
      have hbooks : heardBooks past = [] := by
        refine List.eq_nil_iff_forall_not_mem.mpr fun b hb => ?_
        obtain ⟨m, hm', -⟩ := h.books b hb
        cases hm.symm.trans hm'
      rw [serve_dead hm]
      refine ⟨fun k hk => ?_, fun b hb => ?_⟩
      · rw [heardSwitch_cons, hswitch] at hk
        rcases c with c | c <;> cases c <;> cases hk
      · rw [heardBooks_cons, hbooks] at hb
        rcases c with c | c
        · cases hb
        · cases c with
          | operate op => cases op <;> cases hb
          | _ => cases hb

end

/-! ## Every state a run reaches -/

section

variable [Externals] {self : PaperLiteOrchestrator} {p : PaperPortfolio}

/-- A portfolio that was just set up, and a process that has it. -/
structure Fresh (p : PaperPortfolio) (s : Config Unit PaperTask PaperWorld PaperCall PaperCall.Answer
    PyError) : Prop where
  idle : s.threads () = none
  journal : s.world.journal = []
  opened : s.world.opened = []
  book : ∃ m, s.world.process = .ok m ∧ m.book = p.created

/-- What holds in every state. -/
structure Sound (p : PaperPortfolio)
    (v : Machine.View Unit PaperTask PaperWorld PaperCall PaperCall.Answer PyError) : Prop where
  recoverable : Recoverable p v.world
  booked : ∀ m, v.world.process = .ok m → Booked v.world.opened m.book
  /-- No order opens two positions. -/
  once : (v.world.opened.map (·.orderRequestId)).Nodup
  linked : ∀ task past, v.seen () = some (task, past) → Linked v.world past

theorem booked_created (p : PaperPortfolio) : Booked [] p.created where
  ticketed := ⟨List.nodup_nil, fun q hq => by cases hq⟩
  tick := rfl
  quoted := fun tick htick => by cases htick
  untouched := fun _ => rfl
  noted := fun q hq => by cases hq
  ordered := fun x hx => by cases hx

theorem Fresh.sound {s : Config Unit PaperTask PaperWorld PaperCall PaperCall.Answer PyError}
    (h : Fresh p s) : Sound p s.view := by
  obtain ⟨m, hm, hbook⟩ := h.book
  have hjournal : s.view.world.journal = [] := h.journal
  have hopened : s.view.world.opened = [] := h.opened
  have hprocess : s.view.world.process = .ok m := hm
  refine ⟨⟨?_, fun m' hm' => ?_, fun e he => ?_⟩, fun m' hm' => ?_, ?_, fun task past hseen => ?_⟩
  · rw [hjournal]
    exact (claimed_created p).chained
  · cases hprocess.symm.trans hm'
    rw [hjournal, hbook]
    exact ⟨rfl, .inl ⟨rfl, claimed_created p⟩⟩
  · cases hprocess.symm.trans he
  · cases hprocess.symm.trans hm'
    rw [hopened, hbook]
    exact booked_created p
  · rw [hopened]
    exact List.nodup_nil
  · simp [Config.view, h.idle] at hseen

/-- An allowed operation is one the portfolio permits. -/
theorem permitted_of_mayCall {task : PaperTask} {past : PaperPast} {w : PaperWorld}
    {m : PaperMemory} (hl : Linked w past) (hm : w.process = .ok m) {op : PaperOperation}
    (hop : mayCall self task past (.inr (.operate op))) : Permitted m.book op := by
  have hreports : Reportable past → Reports m.book := by
    intro hr
    obtain ⟨m', hm', hreports⟩ := hl.reports hr
    cases hm.symm.trans hm'
    exact hreports
  cases op with
  | advance tick =>
      obtain ⟨hr, snapshot, htick⟩ := hop
      refine ⟨hreports hr, ?_⟩
      unfold generatedTickFromSnapshot at htick
      split at htick
      · cases htick
      · cases htick
        exact ⟨snapshot.bid.property, snapshot.ask.property⟩
  | submit order riskAmount correlationId => exact hreports hop.1
  | flattenAll flattenRequestId reason => exact hreports hop
  | recordAuditFact fact correlationId detail => trivial

/-- **A call keeps what holds.** -/
theorem Sound.served {w : PaperWorld} {o : PaperOracle} {task : PaperTask} {past : PaperPast}
    {c : PaperCall} (hr : Recoverable p w) (hb : ∀ m, w.process = .ok m → Booked w.opened m.book)
    (honce : (w.opened.map (·.orderRequestId)).Nodup) (hl : Linked w past)
    (hc : mayCall self task past c) :
    Recoverable p (w.serve o c).2
      ∧ (∀ m, (w.serve o c).2.process = .ok m → Booked (w.serve o c).2.opened m.book)
      ∧ ((w.serve o c).2.opened.map (·.orderRequestId)).Nodup := by
  cases hm : w.process with
  | error e =>
      rw [serve_dead hm]
      exact ⟨hr, hb, honce⟩
  | ok m =>
      have hbooked := hb m hm
      by_cases hop : ∃ op, c = .inr (.operate op)
      · obtain ⟨op, rfl⟩ := hop
        have hpermitted := permitted_of_mayCall hl hm hc
        rcases serve_operate (o := o) hm op with hserve | hserve
        · rw [hserve]
          exact ⟨hr, hb, honce⟩
        rw [hserve]
        refine ⟨hr.operated hm op rfl rfl, fun m' hm' => ?_, ?_⟩
        · cases hm'
          exact booked_run hbooked hpermitted
        · change ((w.opened ++ openedBy m.book.broker (op.run m.book).left.broker).map _).Nodup
          rcases openedBy_run hbooked op with hnone
            | ⟨order, riskAmount, correlationId, fill, rfl, hfilled, hone⟩
          · rw [hnone, List.append_nil]
            exact honce
          · rw [hone, List.map_append, List.nodup_append]
            refine ⟨honce, List.nodup_singleton _, ?_⟩
            intro id hid id' hid'
            obtain ⟨x, hx, rfl⟩ := List.mem_map.mp hid
            rw [List.map_singleton, List.mem_singleton] at hid'
            rw [hid']
            exact (hbooked.filled hpermitted hfilled (submit_left ..).1).2 x hx
      · have hu := serve_undisturbed (o := o) hm fun op h => hop ⟨op, h⟩
        obtain ⟨m', hm', hbook, -⟩ := hu.process
        refine ⟨hr.undisturbed hm hu, fun m'' hm'' => ?_, hu.opened ▸ honce⟩
        cases hm'.symm.trans hm''
        rw [hu.opened, hbook]
        exact hbooked

/-- What happens without the process leaves the journal and the process. -/
theorem nature_same (n : PaperWorld.Event) (w : PaperWorld) :
    (PaperWorld.nature n w).journal = w.journal ∧ (PaperWorld.nature n w).process = w.process
      ∧ (PaperWorld.nature n w).opened = w.opened := by
  cases n <;> exact ⟨rfl, rfl, rfl⟩

/-- **What holds in every state of every run**, whatever the agents answer, whichever append
fails, and wherever the process dies. -/
theorem sound {s₀ s : Config Unit PaperTask PaperWorld PaperCall PaperCall.Answer PyError}
    {G : Machine.Guard Unit PaperTask PaperOracle PaperWorld.Event PaperWorld PaperCall
      PaperCall.Answer PyError}
    (hfresh : Fresh p s₀) (h : Machine.Reach (paperWorker self p) G s₀ s) : Sound p s.view := by
  refine (Machine.Reach.invariant (M := paperWorker self p)
    (D := fun _ task => paperDiscipline self task)
    (fun _ task => conforms_perform task) (fun w o _ _ c => mayAnswer_serve w o c)
    (fun _ => hfresh.idle) hfresh.sound ?_ h).1
  intro v n c v' hv _ hglimpse
  obtain ⟨hr, hb, honce, hl⟩ := hv
  have hput : ∀ (w : PaperWorld) (x : Option (PaperTask × PaperPast)) task past,
      (Machine.View.put { v with world := w } () x).seen () = some (task, past) →
      x = some (task, past) := by
    intro w x task past hseen
    simpa [Machine.View.put] using hseen
  cases hglimpse with
  | start _ task hseen =>
      refine ⟨hr, hb, honce, fun task' past hseen => ?_⟩
      cases hput v.world _ _ _ hseen
      exact .init
  | call _ o task past c hseen hallow =>
      have hlinked := hl task past hseen
      obtain ⟨hr', hb', honce'⟩ := Sound.served (o := o) hr hb honce hlinked hallow
      refine ⟨hr', hb', honce', fun task' past' hseen' => ?_⟩
      cases hput _ _ _ _ hseen'
      exact hlinked.call c
  | finish _ =>
      refine ⟨hr, hb, honce, fun task past hseen => ?_⟩
      cases hput v.world _ _ _ hseen
  | crash _ =>
      obtain ⟨hr', hsame⟩ := hr.restart
      refine ⟨hr', fun m' hm' => ?_, honce, fun task past hseen => ?_⟩
      · obtain ⟨m, hm, hbook⟩ := hsame m' hm'
        rw [hbook]
        exact hb m hm
      · cases hput _ _ _ _ hseen
  | nature n =>
      obtain ⟨hjournal, hprocess, hopened⟩ := nature_same n v.world
      refine ⟨hr.same hjournal hprocess, fun m hm => ?_, ?_, fun task past hseen => ?_⟩
      · change Booked (PaperWorld.nature n v.world).opened m.book
        rw [hopened]
        exact hb m (hprocess ▸ hm)
      · change ((PaperWorld.nature n v.world).opened.map _).Nodup
        rw [hopened]
        exact honce
      · have hlinked := hl task past hseen
        refine ⟨fun k hk => ?_, fun b hb => ?_⟩
        · obtain ⟨m, hm, hk⟩ := hlinked.switch k hk
          exact ⟨m, hprocess.trans hm, hk⟩
        · obtain ⟨m, hm, hsame⟩ := hlinked.books b hb
          exact ⟨m, hprocess.trans hm, hsame⟩

/-! ## The call a position was opened in -/

/-- A system with one paper process. -/
abbrev PaperConfig : Type := Config Unit PaperTask PaperWorld PaperCall PaperCall.Answer PyError

/-- The process is about to have this order filled. -/
structure Filling (s : PaperConfig) (task : PaperTask) (past : PaperPast) (order : PaperOrder)
    (m : PaperMemory) (fill : SimulatedBroker.SimulatedFill) : Prop where
  calling : ∃ riskAmount correlationId k, s.threads ()
    = some ⟨task, past, .call (.inr (.operate (.submit order riskAmount correlationId))) k⟩
  process : s.world.process = .ok m
  filled : m.book.broker.fillOf order.val = .ok fill
  fresh : m.book.orderFingerprints.lookup order.val.orderRequestId = none

/-- **A step opens one position at most**, the one of the order it fills. -/
theorem opened_step {s s' : PaperConfig} (hs : Sound p s.view)
    {n : Move Unit PaperTask PaperOracle PaperWorld.Event}
    (hstep : (paperWorker self p).step s n = some s') :
    s'.world.opened = s.world.opened
      ∨ ∃ task past order m fill, Filling s task past order m fill ∧ (∃ o, n = .call () o)
        ∧ s'.world.opened = s.world.opened ++ [m.book.broker.positionOf order.val fill] := by
  rcases Machine.step_cases hstep with ⟨⟨⟩, task, rfl, hi, rfl⟩
    | ⟨⟨⟩, o, task, past, c, k, rfl, hi, rfl⟩ | ⟨⟨⟩, t, rfl, hi, rfl⟩ | ⟨⟨⟩, rfl, rfl⟩
    | ⟨event, rfl, rfl⟩
  · exact .inl rfl
  · change (s.world.serve o c).2.opened = _ ∨ ∃ task past order m fill, _ ∧ _ ∧
      (s.world.serve o c).2.opened = _
    cases hm : s.world.process with
    | error e =>
        rw [serve_dead hm]
        exact .inl rfl
    | ok m =>
        by_cases hop : ∃ op, c = .inr (.operate op)
        swap
        · exact .inl (serve_undisturbed (o := o) hm fun op h => hop ⟨op, h⟩).opened
        obtain ⟨op, rfl⟩ := hop
        rcases serve_operate (o := o) hm op with hserve | hserve <;> rw [hserve]
        · exact .inl rfl
        rcases openedBy_run (hs.booked m hm) op with hnone
          | ⟨order, riskAmount, correlationId, fill, rfl, hfilled, hone⟩
        · exact .inl (by rw [hnone, List.append_nil])
        · exact .inr ⟨task, past, order, m, fill,
            ⟨⟨riskAmount, correlationId, k, hi⟩, hm, hfilled.filled, hfilled.fresh⟩, ⟨o, rfl⟩,
            by rw [hone]⟩
  · exact .inl rfl
  · exact .inl rfl
  · exact .inl (nature_same event s.world).2.2

/-- The call of an observation that opened a position, and what it had. -/
structure OpenedIn (o : PaperLiteOrchestrator) (s : PaperConfig) (q : Observation)
    (x : OpenPosition) (g : Grounds) : Prop where
  /-- The process submits an order, and has what it takes. -/
  submits : ∃ past order m fill, Filling s (.process q) past order m fill
    ∧ Authorized o q past order.val g
    ∧ m.killSwitch.isHalted = false
    ∧ (∃ check, m.book.broker.orderCheck order.val = .ok check ∧ check.accepted = true)
    ∧ x = m.book.broker.positionOf order.val fill
  orderRequestId : x.orderRequestId = PaperLiteOrchestrator.orderId g.intent
  side : x.side = g.intent.side
  stopLossPrice : g.intent.stopLossPrice = some x.stopLossPrice
  volume : g.risk.approvedVolume = some x.volume

variable {s₀ s : PaperConfig}

/-- **An order that opens a position** is one of a call that has what it takes. -/
theorem openedIn_of_filling {G : Machine.Guard Unit PaperTask PaperOracle PaperWorld.Event PaperWorld
    PaperCall PaperCall.Answer PyError} (hfresh : Fresh p s₀)
    (h : Machine.Reach (paperWorker self p) G s₀ s) {task : PaperTask} {past : PaperPast}
    {order : PaperOrder} {m : PaperMemory} {fill : SimulatedBroker.SimulatedFill}
    (hfilling : Filling s task past order m fill) : ∃ q g, task = .process q
      ∧ Authorized self q past order.val g
      ∧ OpenedIn self s q (m.book.broker.positionOf order.val fill) g := by
  obtain ⟨riskAmount, correlationId, k, hcalling⟩ := hfilling.calling
  have hallowed : mayCall self task past
      (.inr (.operate (.submit order riskAmount correlationId))) :=
    Machine.Reach.allowed (M := paperWorker self p) (D := fun _ task => paperDiscipline self task)
      (fun _ task => conforms_perform task) (fun w o _ _ c => mayAnswer_serve w o c)
      (fun _ => hfresh.idle) h hcalling
  obtain ⟨-, q, g, rfl, hauthorized⟩ := hallowed
  have hlinked := (sound hfresh h).linked (.process q) past (by simp [Config.view, hcalling])
  refine ⟨q, g, rfl, hauthorized, ⟨past, order, m, fill, hfilling, hauthorized, ?_, ?_, rfl⟩,
    hauthorized.carries.orderRequestId, hauthorized.carries.side,
    hauthorized.carries.stopLossPrice, hauthorized.carries.volume⟩
  · obtain ⟨k, hk, hrunning⟩ := hauthorized.judged.running
    obtain ⟨m', hm', hswitch⟩ := hlinked.switch k hk
    cases hfilling.process.symm.trans hm'
    rwa [hswitch]
  · obtain ⟨b, hb, check, hcheck, haccepted⟩ := hauthorized.checked
    obtain ⟨m', hm', hbroker, -⟩ := hlinked.books b hb
    cases hfilling.process.symm.trans hm'
    exact ⟨check, hbroker ▸ hcheck, haccepted⟩

/-- What is opened was opened in a call. -/
theorem openedIn_of_mem (hfresh : Fresh p s₀)
    (h : Machine.Reach (paperWorker self p) Machine.Always s₀ s) {x : OpenPosition}
    (hx : x ∈ s.world.opened) : ∃ s₁ q g, Machine.Reach (paperWorker self p) Machine.Always s₀ s₁
      ∧ Machine.Reach (paperWorker self p) Machine.Always s₁ s ∧ OpenedIn self s₁ q x g := by
  rcases h.became (P := fun s => x ∈ s.world.opened) hx with h₀
    | ⟨s₁, n, s₂, hr₁, hnew, hg, hstep, hx₂, hrest⟩
  · rw [hfresh.opened] at h₀
    cases h₀
  rcases opened_step (sound hfresh hr₁) hstep with hsame
    | ⟨task, past, order, m, fill, hfilling, -, hopened⟩
  · exact absurd (hsame ▸ hx₂) hnew
  rw [hopened] at hx₂
  obtain hx₂ | hx₂ := List.mem_append.mp hx₂
  · exact absurd hx₂ hnew
  obtain rfl := List.mem_singleton.mp hx₂
  obtain ⟨q, g, -, -, hopenedIn⟩ := openedIn_of_filling hfresh hr₁ hfilling
  exact ⟨s₁, q, g, hr₁, .trans (.tail .init hg hstep) hrest, hopenedIn⟩

/-- **Paper fill authorization.** Every position that was ever opened was opened in a call that had
all it takes, with the intent's side and stop and the approved volume; no decision opens two
positions; and every position that is open is one of these, but for what it has seen of the market
since. -/
theorem paper_fill_authorization (hfresh : Fresh p s₀)
    (h : Machine.Reach (paperWorker self p) Machine.Always s₀ s) :
    ∃ fills : List (OpenPosition × Grounds), fills.map (·.1) = s.world.opened
      ∧ (∀ fill ∈ fills, ∃ s₁ q, Machine.Reach (paperWorker self p) Machine.Always s₀ s₁
        ∧ Machine.Reach (paperWorker self p) Machine.Always s₁ s ∧ OpenedIn self s₁ q fill.1 fill.2)
      ∧ (fills.map (·.2.intent.decisionHash)).Nodup
      ∧ ∀ m, s.world.process = .ok m → ∀ position ∈ m.book.broker.open_,
          ∃ x ∈ s.world.opened, position.core = x.core := by
  have hsound := sound hfresh h
  obtain ⟨fills, hfst, hfills⟩ : ∃ fills : List (OpenPosition × Grounds),
      fills.map (·.1) = s.world.opened
        ∧ ∀ fill ∈ fills, ∃ s₁ q, Machine.Reach (paperWorker self p) Machine.Always s₀ s₁
          ∧ Machine.Reach (paperWorker self p) Machine.Always s₁ s
          ∧ OpenedIn self s₁ q fill.1 fill.2 := by
    choose call q grounds hr₁ hrest hopened using
      fun x (hx : x ∈ s.world.opened) => openedIn_of_mem hfresh h hx
    refine ⟨s.world.opened.attach.map fun x => (x.1, grounds x.1 x.2), ?_, ?_⟩
    · rw [List.map_map]
      exact List.attach_map_subtype_val _
    · intro fill hfill
      obtain ⟨⟨x, hx⟩, -, rfl⟩ := List.mem_map.mp hfill
      exact ⟨call x hx, q x hx, hr₁ x hx, hrest x hx, hopened x hx⟩
  refine ⟨fills, hfst, hfills, ?_, fun m hm => (hsound.booked m hm).noted⟩
  -- one decision is one order id
  have hids : s.world.opened.map (·.orderRequestId)
      = (fills.map (·.2.intent.decisionHash)).map fun hash =>
        Externals.uuid5 ("crumblr:paper-lite:order:" ++ hash) := by
    rw [← hfst, List.map_map, List.map_map]
    refine List.map_congr_left fun fill hfill => ?_
    obtain ⟨s₁, q, -, -, hopened⟩ := hfills fill hfill
    exact hopened.orderRequestId
  have honce := hsound.once
  change (s.world.opened.map (·.orderRequestId)).Nodup at honce
  rw [hids] at honce
  exact honce.of_map _

end

end Crumblr.PaperLite

namespace Crumblr

open PaperLite

namespace Sample

/-- The market as it is seen some minutes after noon. -/
def seen (n : Int) : BarredSnapshot where
  snapshotId := ⟨"seen"⟩
  symbol := "EUR/USD"
  eventTimeUtc := noon + minutes n
  receivedTimeUtc := noon + minutes n
  bid := price 110000
  ask := price 110002
  spreadPoints := 2
  timeframe := "M5"
  sessionState := .open
  symbolSpecVersion := spec.specVersion
  dataQuality := .good
  spreadNonneg := by decide
  uncrossed := by decide
  bars := [{ (quoted n).bar with openTimeUtc := noon + minutes n }]

def observingPaper (n : Int) : PaperTask := .process ⟨seen n, spec, .clear, noon + minutes n⟩

def paperProposal (id : String) : TradeProposal where
  proposalId := ⟨id⟩
  agentId := ⟨"agent"⟩
  assignmentId := ⟨"assignment"⟩
  contextHash := bundle.contentHash
  strategyArtifactHash := "v1"
  side := .buy
  entryType := .market
  referencePrice := price 110000
  stopLossPrice := price 109900
  takeProfitPrice := price 110200
  confidence := ⟨"0.9"⟩
  requestedRiskFraction := fraction 5 (-3)
  reasonCodes := sweep
  evidenceRefs := []
  submittedAtUtc := noon
  expiresAtUtc := noon + minutes 5
  directional := buy_directional
  buyStops := fun _ => by decide
  sellStops := fun hs => by cases hs
  lifetime := noon_lt

/-- A process with a new portfolio; the agent is registered. -/
def paperWorld : PaperWorld where
  journal := []
  process := .ok ⟨portfolio.created, ⟨none, none, none⟩, ⟨.running, []⟩, []⟩
  sessions := []
  safety := resetState "operator" "checked" noon
  safetyReadable := true
  gateway := AgentGateway.empty.run registering
  events := []
  capsules := []
  now := noon
  opened := []

/-- A run whose operator cleared the incidents. -/
def clearedRun (market : MarketConfig) (assignment : TradingAssignment) :
    Except PyError PaperLite.PaperLiteOrchestrator :=
  PaperLiteOrchestrator.create (paperConfig market) settings assignment ⟨"agent"⟩ "secret" "c"
    (some ⟨"operator", "checked", noon⟩) false

/-- Every call succeeds, and the agent decides this. -/
def deciding (contextId : String) (decision : AgentSubmission) : PaperOracle :=
  ⟨none, false, none, fun _ => none, ⟨contextId⟩, decision, none⟩

/-- A whole call about the market some minutes after noon. -/
def calling (n : Int) (contextId : String) (decision : AgentSubmission) (calls : Nat) :
    List (Move Unit PaperTask PaperOracle PaperWorld.Event) :=
  [.start () (observingPaper n)] ++ List.replicate calls (.call () (deciding contextId decision))
    ++ [.finish ()]

/-- A proposal is filled, the process dies, and a fresh one has the position. -/
def filledAndRestarted : List (Move Unit PaperTask PaperOracle PaperWorld.Event) :=
  calling 0 "c0" (.proposal (paperProposal "first")) 40 ++ [.crash ()]

end Sample

open Sample in
theorem paper_fill_authorization_sample : ∃ o, clearedRun market assignment = .ok o
    ∧ ∃ s : PaperConfig, Machine.Reach (paperWorker o portfolio) Machine.Always
        (Machine.idle paperWorld) s
      ∧ s.world.opened.length = 1
      ∧ ∃ fills : List (OpenPosition × Grounds), fills.map (·.1) = s.world.opened
        ∧ ∀ fill ∈ fills, ∃ s₁ q, Machine.Reach (paperWorker o portfolio) Machine.Always s₁ s
          ∧ OpenedIn o s₁ q fill.1 fill.2 := by
  have hchecked : (clearedRun market assignment).toOption.any (fun o =>
      ((paperWorker o portfolio).run Machine.unchecked (Machine.idle paperWorld)
        filledAndRestarted).any fun s => decide (s.world.opened.length = 1)) = true := by
    decide +kernel
  cases h : clearedRun market assignment with
  | error e => rw [h] at hchecked; cases hchecked
  | ok o =>
      rw [h] at hchecked
      obtain ⟨s, hs, hone⟩ := Machine.Reach.exists_of_run (M := paperWorker o portfolio)
        (G := Machine.Always) filledAndRestarted _ (fun _ _ _ => trivial) hchecked
      obtain ⟨fills, hfst, hfills, -⟩ :=
        paper_fill_authorization ⟨rfl, rfl, rfl, _, rfl, rfl⟩ hs
      refine ⟨o, rfl, s, hs, of_decide_eq_true hone, fills, hfst, fun fill hfill => ?_⟩
      obtain ⟨s₁, q, -, hrest, hopened⟩ := hfills fill hfill
      exact ⟨s₁, q, hrest, hopened⟩

end Crumblr
