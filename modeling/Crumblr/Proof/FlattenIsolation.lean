import Crumblr.Proof.FlattenEvidence

/-!
# Which positions a flatten is about

The account is read as a whole, whatever its positions are in. A worker commits to closing what
it read, and later passes close and account for what some commitment of their own market named.
So the market's flattens stay with its own symbol exactly as long as the readings that are
committed to do.
-/

namespace Crumblr

open ExecutionOrchestrator

variable [Externals]

/-- The commitment's plan names positions in this symbol only. -/
def PlansOnly (brokerSymbol : String) (e : FlattenEventRecord) : Prop :=
  ∃ plan : FlattenPlan, e.payload = some plan.dump
    ∧ ∀ i ∈ plan.instructions, i.brokerSymbol = brokerSymbol

/-- Some commitment of the occurrence named the ticket. -/
def Targeted (log : List FlattenEventRecord) (flattenRequestId : Uuid) (ticket : Int) : Prop :=
  ∃ e ∈ log, e.flattenRequestId = flattenRequestId ∧ e.eventType = .flattenSubmissionStarted
    ∧ ∃ plan : FlattenPlan, e.payload = some plan.dump
      ∧ ∃ i ∈ plan.instructions, i.ticket = ticket

/-- A commitment is made to closing what was last read of the own symbol, and nothing else. -/
def PlansOwn (own : String → String) : Guard := fun v m c =>
  ∀ i o e q past, m = .call i o → c = some (.appendFlatten e) → v.seen i = some (q, past) →
    e.eventType = .flattenSubmissionStarted → ∀ positions,
      (sight past).positions = some (.ok positions) →
        ∀ p ∈ positions, p.brokerSymbol = own q.orchestrator.canonicalSymbol

/-- What the flatten log keeps to. -/
structure SeparateLog (own : String → String) (log : List FlattenEventRecord) : Prop where
  /-- Every commitment is some market's, and names its symbol only. -/
  committed : ∀ e ∈ log, e.eventType = .flattenSubmissionStarted →
    ∃ environment market day, e.flattenRequestId = flattenRequestIdFor environment market day
      ∧ PlansOnly (own market) e
  /-- Every outcome accounts for tickets its occurrence committed to. -/
  resolved : ∀ e ∈ log, e.eventType = .flattenOutcomeResolved →
    ∃ targets stillOpenTickets flattened,
      e.payload = some (flattenOutcomePayload targets stillOpenTickets flattened)
        ∧ stillOpenTickets ⊆ targets ∧ ∀ t ∈ targets, Targeted log e.flattenRequestId t

/-- The log keeps to it, and what a worker was told of an occurrence is still there. -/
structure Separate (own : String → String) (v : SystemView) : Prop where
  log : SeparateLog own v.world.ledger.flattenEvents
  told : ∀ i q past f events, v.seen i = some (q, past) →
    ⟨.flattenEventsFor f, .ok events⟩ ∈ past →
      ∀ e ∈ events, e ∈ v.world.ledger.flattenEvents ∧ e.flattenRequestId = f

variable {own : String → String}

omit [Externals] in
theorem Targeted.mono {log log' : List FlattenEventRecord} {f : Uuid} {t : Int}
    (h : Targeted log f t) (hs : log ⊆ log') : Targeted log' f t := by
  obtain ⟨e, he, hrest⟩ := h
  exact ⟨e, hs he, hrest⟩

/-! ## What a step does to the log -/

/-- What a worker is told of an occurrence is what the log holds of it. -/
theorem Effect.told {l l' : Ledger} {f : Uuid} {events : List FlattenEventRecord}
    (h : Effect l (.flattenEventsFor f) (.ok events) l') : events = l.flattenEventsFor f := by
  cases h with
  | readFlatten => rfl
  | idle c a hidle =>
      have hnews := hidle.flattenNews f
      simp [flattenNews] at hnews

omit [Externals] in
/-- A commitment is read back as the instructions it was made of. -/
theorem committedInstructions_dump (plan : FlattenPlan) :
    committedInstructions (some plan.dump) = .ok plan.instructions := by
  have hget : instructionsOf plan.dump = plan.instructions.map FlattenInstruction.dump := by
    simp [instructionsOf, FlattenPlan.dump, Json.asList?]
  change (instructionsOf plan.dump).mapM FlattenInstruction.modelValidate = _
  rw [hget]
  exact mapM_decode FlattenInstruction.modelValidate_dump plan.instructions

/-- What a pass goes on from is a plan in the log. -/
theorem Separate.resumed {v : SystemView} (h : Separate own v) {i : Nat} {q : Task} {past : Past}
    (hi : v.seen i = some (q, past)) {f : Uuid} {instructions : List FlattenInstruction}
    (hresumes : Resumes q.orchestrator f instructions past) :
    ∃ e ∈ v.world.ledger.flattenEvents, e.flattenRequestId = f
      ∧ e.eventType = .flattenSubmissionStarted
      ∧ ∃ plan : FlattenPlan, e.payload = some plan.dump ∧ plan.instructions = instructions := by
  obtain ⟨events, last, hread, hlast, hstarted, hinstructions⟩ := hresumes.committed
  obtain ⟨hin, hf⟩ := h.told i q past f events hi hread last hlast
  obtain ⟨environment, market, day, hid, plan, hplan, hown⟩ := h.log.committed last hin hstarted
  rw [hplan, committedInstructions_dump] at hinstructions
  cases hinstructions
  exact ⟨last, hin, hf, hstarted, plan, hplan, rfl⟩

omit [Externals] in
/-- Its plan is about that symbol, whichever plan it is read as. -/
theorem PlansOnly.instructions {brokerSymbol : String} {e : FlattenEventRecord}
    (h : PlansOnly brokerSymbol e) {plan : FlattenPlan} (hplan : e.payload = some plan.dump)
    {i : FlattenInstruction} (hi : i ∈ plan.instructions) : i.brokerSymbol = brokerSymbol := by
  obtain ⟨plan', hplan', hown⟩ := h
  have hsame : plan'.instructions = plan.instructions := by
    have hdump := Option.some.inj (hplan'.symm.trans hplan)
    have hread := committedInstructions_dump plan'
    rw [hdump, committedInstructions_dump] at hread
    exact (Except.ok.inj hread).symm
  exact hown i (hsame ▸ hi)

/-! ## The log stays separate -/

/-- What is committed to was read so. -/
theorem plansOnly_of_planned {o : ExecutionOrchestrator} {e : FlattenEventRecord}
    {observation : BrokerStateObservation} {past : Past}
    (hobs : Observed o.config.environment o.canonicalSymbol observation past)
    (hplanned : Planned o observation e)
    (hown : ∀ positions, (sight past).positions = some (.ok positions) →
      ∀ p ∈ positions, p.brokerSymbol = own o.canonicalSymbol) :
    ∃ environment market day, e.flattenRequestId = flattenRequestIdFor environment market day
      ∧ PlansOnly (own market) e := by
  obtain ⟨day, now, plan, hid, hinstructions, hpayload⟩ := hplanned
  obtain ⟨reading, hreading, hbook⟩ := hobs.book
  refine ⟨_, _, day, hid, plan, hpayload, fun i hi => ?_⟩
  rw [hinstructions] at hi
  obtain ⟨p, hp, rfl⟩ := List.mem_map.mp hi
  rw [(Prod.mk.inj hbook).1] at hp
  cases reading with
  | ok positions => exact hown positions hreading p hp
  | error err => cases hp

/-- An event keeps the log separate if what it commits to, or accounts for, does. -/
theorem SeparateLog.append {log : List FlattenEventRecord} {e : FlattenEventRecord}
    (h : SeparateLog own log)
    (hstarted : e.eventType = .flattenSubmissionStarted →
      ∃ environment market day, e.flattenRequestId = flattenRequestIdFor environment market day
        ∧ PlansOnly (own market) e)
    (hresolved : e.eventType = .flattenOutcomeResolved →
      ∃ targets stillOpenTickets flattened,
        e.payload = some (flattenOutcomePayload targets stillOpenTickets flattened)
          ∧ stillOpenTickets ⊆ targets ∧ ∀ t ∈ targets, Targeted log e.flattenRequestId t) :
    SeparateLog own (log ++ [e]) where
  committed := by
    intro e' he'
    rcases List.mem_append.mp he' with hold | hnew
    · exact h.committed e' hold
    · obtain rfl := List.mem_singleton.mp hnew
      exact hstarted
  resolved := by
    intro e' he' htype
    rcases List.mem_append.mp he' with hold | hnew
    · obtain ⟨targets, opens, flattened, hpayload, hopens, htargets⟩ := h.resolved e' hold htype
      exact ⟨targets, opens, flattened, hpayload, hopens,
        fun t ht => (htargets t ht).mono (List.subset_append_left ..)⟩
    · obtain rfl := List.mem_singleton.mp hnew
      obtain ⟨targets, opens, flattened, hpayload, hopens, htargets⟩ := hresolved htype
      exact ⟨targets, opens, flattened, hpayload, hopens,
        fun t ht => (htargets t ht).mono (List.subset_append_left ..)⟩

/-- A worker that starts over, or a world that changes elsewhere, keeps it separate. -/
theorem Separate.put {v : SystemView} (h : Separate own v) {w : World} {i : Nat}
    {x : Option (Task × Past)} (hw : w.ledger = v.world.ledger)
    (hx : ∀ q past, x = some (q, past) → past = []) :
    Separate own (Machine.View.put { v with world := w } i x) where
  log := by
    change SeparateLog own w.ledger.flattenEvents
    rw [hw]
    exact h.log
  told := by
    intro j q past f events hj hread
    change ∀ e ∈ events, e ∈ w.ledger.flattenEvents ∧ _
    rw [hw]
    by_cases hji : j = i
    · subst hji
      rw [hx q past (by simpa [Machine.View.put] using hj)] at hread
      cases hread
    · exact h.told j q past f events (by simpa [Machine.View.put, hji] using hj) hread

/-- A call a worker may make keeps it separate. -/
theorem Separate.called {v : SystemView} (h : Separate own v) {i : Nat} {o : Oracle} {q : Task}
    {past : Past} {c : Call} {a : Except PyError c.Answer} {w : World}
    (hi : v.seen i = some (q, past)) (hallow : (flattenDiscipline q.orchestrator).allows past c)
    (hg : PlansOwn own v (.call i o) (some c)) (heffect : Effect v.world.ledger c a w.ledger) :
    Separate own (Machine.View.put { v with world := w } i (some (q, ⟨c, a⟩ :: past))) := by
  have hgrows : v.world.ledger.flattenEvents ⊆ w.ledger.flattenEvents := by
    rcases heffect.flattened with hsame | ⟨e, -, hnew⟩
    · exact fun e he => hsame ▸ he
    · exact fun e he => hnew ▸ List.mem_append_left _ he
  refine ⟨?_, fun j q' past' f events hj hread => ?_⟩
  · change SeparateLog own w.ledger.flattenEvents
    rcases heffect.flattened with hsame | ⟨e, rfl, hnew⟩
    · rw [hsame]
      exact h.log
    rw [hnew]
    obtain ⟨hplans, hresolves⟩ := hallow
    refine h.log.append (fun htype => ?_) fun htype => ?_
    · obtain ⟨observation, hobs, hplanned⟩ := hplans htype
      exact plansOnly_of_planned hobs hplanned (hg i o e q past rfl rfl hi htype)
    · obtain ⟨observation, instructions, -, hresumes, hsettles⟩ := hresolves htype
      obtain ⟨e', hin, hid, hstarted, plan, hplan, rfl⟩ := h.resumed hi hresumes
      refine ⟨_, _, _, hsettles.payload, fun t ht => (mem_stillOpen_tickets.mp ht).1, fun t ht => ?_⟩
      obtain ⟨instruction, hinstruction, rfl⟩ := List.mem_map.mp ht
      exact ⟨e', hin, hid, hstarted, plan, hplan, instruction, hinstruction, rfl⟩
  · have htold : ∀ e ∈ events, e ∈ v.world.ledger.flattenEvents ∧ e.flattenRequestId = f := by
      by_cases hji : j = i
      · subst hji
        obtain ⟨rfl, rfl⟩ : q = q' ∧ ⟨c, a⟩ :: past = past' := by
          simpa [Machine.View.put] using hj
        rcases List.mem_cons.mp hread with hnow | hbefore
        · -- the log is what the worker has just read
          cases hnow
          rw [heffect.told]
          intro e he
          exact ⟨(List.mem_filter.mp he).1, of_decide_eq_true (List.mem_filter.mp he).2⟩
        · exact h.told j q past f events hi hbefore
      · exact h.told j q' past' f events (by simpa [Machine.View.put, hji] using hj) hread
    exact fun e he => ⟨hgrows (htold e he).1, (htold e he).2⟩

/-- **Every step keeps the log separate.** -/
theorem separate_step {v v' : SystemView} {m : Move Nat Task Oracle World.Event} {c : Option Call}
    (h : Separate own v) (hg : PlansOwn own v m c)
    (hs : Machine.Glimpse workers (fun _ q => flattenDiscipline q.orchestrator) v m c v') :
    Separate own v' := by
  cases hs with
  | start i q hi =>
      refine h.put rfl ?_
      rintro q' past ⟨⟩
      rfl
  | finish i => exact h.put rfl (by rintro q past ⟨⟩)
  | crash i => exact h.put (restart_ledger i v.world) (by rintro q past ⟨⟩)
  | nature n =>
      obtain ⟨sends, hl, -⟩ := nature_ledger n v.world
      have hw : (World.nature n v.world).ledger.flattenEvents = v.world.ledger.flattenEvents := by
        rw [hl]
      refine ⟨?_, fun j q past f events hj hread e he => ?_⟩
      · change SeparateLog own (World.nature n v.world).ledger.flattenEvents
        rw [hw]
        exact h.log
      · obtain ⟨hin, hf⟩ := h.told j q past f events hj hread e he
        exact ⟨hw.symm ▸ hin, hf⟩
  | call i o q past c hi hallow => exact h.called hi hallow hg (serve_effect o i v.world c)

/-! ## Market isolation -/

/-- Some commitment of the occurrence named the ticket, as a position in this symbol. -/
def NamedOwn (log : List FlattenEventRecord) (flattenRequestId : Uuid) (brokerSymbol : String)
    (ticket : Int) : Prop :=
  ∃ e ∈ log, e.flattenRequestId = flattenRequestId ∧ e.eventType = .flattenSubmissionStarted
    ∧ ∃ plan : FlattenPlan, e.payload = some plan.dump
      ∧ ∃ i ∈ plan.instructions, i.ticket = ticket ∧ i.brokerSymbol = brokerSymbol

/-- Each market's flattens are about positions in its own symbol. -/
structure FlattensOwn (own : String → String)
    (s : Config Nat Task World Call Call.Answer PyError) : Prop where
  /-- Its plans name no other position. -/
  planned : ∀ environment market day, ∀ e ∈ s.world.db.flattenEvents,
    e.flattenRequestId = flattenRequestIdFor environment market day →
      e.eventType = .flattenSubmissionStarted → PlansOnly (own market) e
  /-- Its outcomes name no other ticket. -/
  accounted : ∀ environment market day, ∀ e ∈ s.world.db.flattenEvents,
    e.flattenRequestId = flattenRequestIdFor environment market day →
      e.eventType = .flattenOutcomeResolved → ∃ targets stillOpenTickets flattened,
        e.payload = some (flattenOutcomePayload targets stillOpenTickets flattened)
          ∧ ∀ t ∈ targets ++ stillOpenTickets,
            NamedOwn s.world.db.flattenEvents e.flattenRequestId (own market) t
  /-- It takes no other ticket off the book it expects. -/
  removed : ∀ environment market day one,
    flattenOccurrence (flattenRequestIdFor environment market day)
        (s.world.ledger.flattenEventsFor (flattenRequestIdFor environment market day)) = .ok one →
      ∀ t ∈ one.1, NamedOwn s.world.db.flattenEvents (flattenRequestIdFor environment market day)
        (own market) t
  /-- A worker sends closes for no other position. -/
  closes : ∀ i q past instruction k,
    s.threads i = some ⟨q, past, .call (.closePosition instruction) k⟩ →
      instruction.brokerSymbol = own q.orchestrator.canonicalSymbol

/-- `uuid5` gives no two symbols' occurrences one id. -/
def OneSymbol (own : String → String) : Prop :=
  ∀ environment market day environment' market' day',
    flattenRequestIdFor environment market day = flattenRequestIdFor environment' market' day' →
      own market = own market'

/-- A commitment under a market's id is that market's. -/
theorem SeparateLog.planned {log : List FlattenEventRecord} (h : SeparateLog own log)
    (hids : OneSymbol own) {environment : Environment} {market : String} {day : Date}
    {e : FlattenEventRecord} (he : e ∈ log)
    (hid : e.flattenRequestId = flattenRequestIdFor environment market day)
    (htype : e.eventType = .flattenSubmissionStarted) : PlansOnly (own market) e := by
  obtain ⟨environment', market', day', hid', hplans⟩ := h.committed e he htype
  rwa [hids _ _ _ _ _ _ (hid.symm.trans hid')]

/-- A ticket targeted under a market's id is of a position in its symbol. -/
theorem SeparateLog.names {log : List FlattenEventRecord} (h : SeparateLog own log)
    (hids : OneSymbol own) {environment : Environment} {market : String} {day : Date} {t : Int}
    (ht : Targeted log (flattenRequestIdFor environment market day) t) :
    NamedOwn log (flattenRequestIdFor environment market day) (own market) t := by
  obtain ⟨e, he, hid, htype, plan, hplan, i, hi, hticket⟩ := ht
  exact ⟨e, he, hid, htype, plan, hplan, i, hi, hticket,
    (h.planned hids he hid htype).instructions hplan hi⟩

/--
**A market's flattens stay in its own symbol if what is committed to does.** In every run of
workers from an empty flatten log in which each commitment is made on a reading of positions in
the market's own symbol, every plan, every outcome and everything taken off the expected book
names such positions only, and no other position is ever sent a close.
-/
theorem flattens_own_market (hids : OneSymbol own) {w : World} (hlog : w.db.flattenEvents = [])
    {s : Config Nat Task World Call Call.Answer PyError} (h : ReachUnder (PlansOwn own) w s) :
    FlattensOwn own s := by
  have hinit : Separate own (Machine.idle w : Config Nat Task World Call Call.Answer PyError).view := by
    refine ⟨⟨fun e he => ?_, fun e he => ?_⟩, fun i q past f events hi => ?_⟩
    · change e ∈ w.db.flattenEvents at he
      rw [hlog] at he
      cases he
    · change e ∈ w.db.flattenEvents at he
      rw [hlog] at he
      cases he
    · cases hi
  obtain ⟨hseparate, hkept⟩ := Machine.Reach.invariant (M := workers)
    (D := fun _ q => flattenDiscipline q.orchestrator) (I := Separate own)
    (fun _ q => program_flattens q) (fun w o i _ c => serve_answers w o i c) (fun _ => rfl) hinit
    (fun v m c v' hI hG hstep => separate_step hI hG hstep) h
  have hlog := hseparate.log
  refine ⟨fun _ _ _ e he hid htype => hlog.planned hids he hid htype, ?_, ?_, ?_⟩
  · intro environment market day e he hid htype
    obtain ⟨targets, opens, flattened, hpayload, hopens, htargets⟩ := hlog.resolved e he htype
    refine ⟨targets, opens, flattened, hpayload, fun t ht => ?_⟩
    have htarget : t ∈ targets := (List.mem_append.mp ht).elim id fun hopen => hopens hopen
    have hnames := htargets t htarget
    rw [hid] at hnames ⊢
    exact hlog.names hids hnames
  · intro environment market day one hone t ht
    obtain ⟨closed, ⟨-, payload, hlast, hclosed⟩, ht⟩ := (flattenOccurrence_closed hone t).mp ht
    obtain ⟨e, he, htype, hp⟩ := lastFlattenPayload_some hlast
    obtain ⟨hin, hid⟩ := List.mem_filter.mp he
    obtain ⟨targets, opens, flattened, hpayload, -, htargets⟩ := hlog.resolved e hin htype
    obtain rfl := Option.some.inj (hp.symm.trans hpayload)
    rw [flattenOutcomePayload_closed] at hclosed
    cases hclosed
    have hnames := htargets t (List.mem_filter.mp ht).1
    rw [of_decide_eq_true hid] at hnames
    exact hlog.names hids hnames
  · intro i q past instruction k ht
    obtain ⟨f, instructions, hresumes, hmem⟩ := (Conforms.call.mp (hkept i _ ht)).1
    obtain ⟨day, hf⟩ := hresumes.occurrence
    have hseen : s.view.seen i = some (q, past) := by simp [Config.view, ht]
    obtain ⟨e, hin, hid, htype, plan, hplan, rfl⟩ := hseparate.resumed hseen hresumes
    exact (hlog.planned hids hin (hid.trans hf) htype).instructions hplan hmem

end Crumblr

/-! ## An account with a position of another market -/

namespace Crumblr

/-- The close worker `i` is about to send. -/
def dueClose (s : Config Nat Task World Call Call.Answer PyError) (i : Nat) :
    Option (Task × FlattenInstruction) :=
  match s.threads i with
  | some ⟨q, _, .call (.closePosition instruction) _⟩ => some (q, instruction)
  | _ => none

theorem dueClose_eq_some {s : Config Nat Task World Call Call.Answer PyError} {i : Nat} {q : Task}
    {instruction : FlattenInstruction} (h : dueClose s i = some (q, instruction)) :
    ∃ past k, s.threads i = some ⟨q, past, .call (.closePosition instruction) k⟩ := by
  unfold dueClose at h
  split at h
  · rename_i ht
    cases h
    exact ⟨_, _, ht⟩
  · cases h

/-- The step makes no commitment, or one on a reading of positions in the own symbol only. -/
def plansOwn (own : String → String) (s : Config Nat Task World Call Call.Answer PyError) :
    Move Nat Task Oracle World.Event → Bool
  | .call i _ => (dueFlatten s i).all fun (q, past, e) =>
      e.eventType ≠ .flattenSubmissionStarted || (sight past).positions.all fun reading =>
        match reading with
        | .ok positions => positions.all fun p => p.brokerSymbol = own q.orchestrator.canonicalSymbol
        | .error _ => true
  | _ => true

theorem plansOwn_guard [Externals] {own : String → String}
    (s : Config Nat Task World Call Call.Answer PyError) (m : Move Nat Task Oracle World.Event)
    (h : plansOwn own s m = true) : PlansOwn own s.view m (Machine.asked s m) := by
  rintro i o e q past rfl hask hseen htype positions hread p hp
  obtain ⟨t, ht, hview⟩ := Option.map_eq_some_iff.mp hseen
  obtain ⟨q', past', rest⟩ := t
  cases hview
  cases rest with
  | ret a => simp [Machine.asked, ht] at hask
  | raise err => simp [Machine.asked, ht] at hask
  | call c k =>
      obtain rfl : c = .appendFlatten e := by simpa [Machine.asked, ht] using hask
      have hdue : dueFlatten s i = some (q', past', e) := by simp [dueFlatten, ht]
      have hall : (positions.all fun p =>
          decide (p.brokerSymbol = own q'.orchestrator.canonicalSymbol)) = true := by
        simpa [plansOwn, hdue, htype, hread] using h
      exact of_decide_eq_true (List.all_eq_true.mp hall p hp)

namespace Sample

/-- A position of another market on the same account. -/
def foreign : PositionState := { overdue with ticket := 9, brokerSymbol := "BTCUSD" }

/-- The next pass, up to the close. -/
def sendsClose (p : PositionState) : List (Move Nat Task Oracle World.Event) :=
  committing p ++ exposed p "settled" 11

end Sample

open Sample in
theorem flattens_own_market_sample :
    ∃ s, ReachUnder (PlansOwn fun _ => "EURUSD") Sample.world s
      ∧ (∃ q instruction, dueClose s 0 = some (q, instruction))
      ∧ FlattensOwn (fun _ => "EURUSD") s := by
  have hrun : (workers.run (plansOwn fun _ => "EURUSD") (Machine.idle Sample.world)
      (sendsClose overdue)).any (fun s => (dueClose s 0).isSome) = true := by decide +kernel
  obtain ⟨s, hs, hp⟩ := Machine.Reach.exists_of_run _ _ plansOwn_guard hrun
  obtain ⟨⟨q, instruction⟩, hdue⟩ := Option.isSome_iff_exists.mp hp
  exact ⟨s, hs, ⟨q, instruction, hdue⟩, flattens_own_market (fun _ _ _ _ _ _ _ => rfl) rfl hs⟩

open Sample in
/-- A worker of one market closes another market's position. -/
theorem closes_foreign_position :
    ∃ s, Reachable Sample.world s ∧ ¬ FlattensOwn (fun m => if m = "BTC/USD" then "BTCUSD"
      else "EURUSD") s := by
  have hrun : (workers.run Machine.unchecked (Machine.idle Sample.world) (sendsClose foreign)).any
      (fun s => (dueClose s 0).any fun due => decide (due.1.orchestrator.canonicalSymbol = "EUR/USD")
        && decide (due.2.brokerSymbol = "BTCUSD")) = true := by decide +kernel
  obtain ⟨s, hs, hp⟩ := Machine.Reach.exists_of_run (G := Machine.Always) _ _
    (fun _ _ _ => trivial) hrun
  obtain ⟨⟨q, instruction⟩, hdue, hp⟩ := (Option.any_eq_true _ _).mp hp
  obtain ⟨hmarket, hsymbol⟩ := Bool.and_eq_true_iff.mp hp
  obtain ⟨past, k, ht⟩ := dueClose_eq_some hdue
  refine ⟨s, hs, fun hown => ?_⟩
  have hclose := hown.closes 0 q past instruction k ht
  rw [of_decide_eq_true hmarket, of_decide_eq_true hsymbol] at hclose
  exact absurd hclose (by decide)

end Crumblr
