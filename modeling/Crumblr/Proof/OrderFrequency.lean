import Crumblr.Lib.Window
import Crumblr.Proof.Commitments
import Crumblr.Proof.AtMostOnce

/-!
# How many submissions an hour sees

Each pass counts its market's commitments of the last hour before FINAL risk, and
commits later. So the hourly cap holds in every run in which nobody else's commitment
lands in between, or what landed left room.
-/

namespace Crumblr

/-! ## A market's commitments -/

/-- When the commitments of one market were made. -/
def commitmentTimes (db : Database) (environment : Environment) (canonicalSymbol : String) :
    List UtcDatetime :=
  (db.executionEvents.filter fun e => decide (e.eventType = .submissionStarted)
    && db.eventInMarket environment canonicalSymbol e).map (·.occurredAtUtc)

variable {db db' : Database} {environment : Environment} {canonicalSymbol : String}

/-- The store counts them. -/
theorem countEventsSince_eq (t : UtcDatetime) :
    db.countEventsSince .submissionStarted t environment canonicalSymbol
      = Window.since (commitmentTimes db environment canonicalSymbol) t := by
  unfold Database.countEventsSince Window.since commitmentTimes
  rw [List.countP_map, List.countP_eq_length_filter, List.filter_filter]
  congr 1
  refine List.filter_congr fun e _ => ?_
  simp only [Function.comp_apply, Bool.decide_and]
  ac_rfl

/-- The keys of the tables a market's commitments are read from. -/
structure Constrained (db : Database) : Prop where
  capsules : Table.Keyed (·.capsuleId) db.decisionCapsules
  requests : Table.Keyed (·.orderRequestId) db.executionRequests
  requestCapsules : ∀ r ∈ db.executionRequests,
    ∃ c ∈ db.decisionCapsules, c.capsuleId = r.capsuleId
  eventRequests : ∀ e ∈ db.executionEvents,
    ∃ r ∈ db.executionRequests, r.orderRequestId = e.orderRequestId

/-- What can happen to these tables. -/
inductive Filed (db db' : Database) : Prop where
  | same : db'.decisionCapsules = db.decisionCapsules →
      db'.executionRequests = db.executionRequests → db'.executionEvents = db.executionEvents →
      Filed db db'
  | capsule (c : DecisionCapsule) : (∀ c' ∈ db.decisionCapsules, c'.capsuleId ≠ c.capsuleId) →
      db'.decisionCapsules = db.decisionCapsules ++ [c] →
      db'.executionRequests = db.executionRequests → db'.executionEvents = db.executionEvents →
      Filed db db'
  | request (r : ExecutionRequest) :
      (∀ r' ∈ db.executionRequests, r'.orderRequestId ≠ r.orderRequestId) →
      (∃ c ∈ db.decisionCapsules, c.capsuleId = r.capsuleId) →
      db'.decisionCapsules = db.decisionCapsules →
      db'.executionRequests = db.executionRequests ++ [r] →
      db'.executionEvents = db.executionEvents → Filed db db'
  | event (e : ExecutionEventRecord) :
      (∃ r ∈ db.executionRequests, r.orderRequestId = e.orderRequestId) →
      db'.decisionCapsules = db.decisionCapsules →
      db'.executionRequests = db.executionRequests →
      db'.executionEvents = db.executionEvents ++ [e] → Filed db db'

/-- **The keys stay.** -/
theorem Constrained.filed (h : Constrained db) (hf : Filed db db') : Constrained db' := by
  cases hf with
  | same hc hr he => exact ⟨hc ▸ h.capsules, hr ▸ h.requests, by rw [hc, hr]; exact h.requestCapsules,
      by rw [hr, he]; exact h.eventRequests⟩
  | capsule c hfresh hc hr he =>
      refine ⟨?_, hr ▸ h.requests, ?_, by rw [hr, he]; exact h.eventRequests⟩
      · rw [hc]
        exact Table.keyed_append h.capsules (Table.lookup_eq_none.mpr hfresh)
      · rw [hc, hr]
        intro r hmem
        obtain ⟨c', hc', hid⟩ := h.requestCapsules r hmem
        exact ⟨c', List.mem_append_left _ hc', hid⟩
  | request r hfresh howned hc hr he =>
      refine ⟨hc ▸ h.capsules, ?_, ?_, ?_⟩
      · rw [hr]
        exact Table.keyed_append h.requests (Table.lookup_eq_none.mpr hfresh)
      · rw [hc, hr]
        intro r' hmem
        rcases List.mem_append.mp hmem with hmem | hmem
        · exact h.requestCapsules r' hmem
        · obtain rfl := List.mem_singleton.mp hmem
          exact howned
      · rw [hr, he]
        intro e hmem
        obtain ⟨r', hr', hid⟩ := h.eventRequests e hmem
        exact ⟨r', List.mem_append_left _ hr', hid⟩
  | event e howned hc hr he =>
      refine ⟨hc ▸ h.capsules, hr ▸ h.requests, by rw [hc, hr]; exact h.requestCapsules, ?_⟩
      rw [hr, he]
      intro e' hmem
      rcases List.mem_append.mp hmem with hmem | hmem
      · exact h.eventRequests e' hmem
      · obtain rfl := List.mem_singleton.mp hmem
        exact howned

/-- An event's market is that of its request's capsule. -/
theorem eventInMarket_iff {e : ExecutionEventRecord} :
    db.eventInMarket environment canonicalSymbol e = true
      ↔ ∃ r ∈ db.executionRequests, r.orderRequestId = e.orderRequestId
          ∧ ∃ c ∈ db.decisionCapsules, c.capsuleId = r.capsuleId ∧ c.environment = environment
            ∧ c.canonicalSymbol = canonicalSymbol := by
  simp only [Database.eventInMarket, List.any_eq_true, Bool.and_eq_true, decide_eq_true_eq]

/-- **What was filed stays in its market.** -/
theorem Filed.eventInMarket (hf : Filed db db') (h : Constrained db) {e : ExecutionEventRecord}
    (he : e ∈ db.executionEvents) : db'.eventInMarket environment canonicalSymbol e
      = db.eventInMarket environment canonicalSymbol e := by
  rw [Bool.eq_iff_iff, eventInMarket_iff, eventInMarket_iff]
  cases hf with
  | same hc hr _ => rw [hc, hr]
  | event _ _ hc hr _ => rw [hc, hr]
  | capsule c hfresh hc hr _ =>
      rw [hc, hr]
      refine exists_congr fun r => and_congr_right fun hr => and_congr_right fun _ => ?_
      constructor
      · rintro ⟨c', hmem, hid, hmarket⟩
        rcases List.mem_append.mp hmem with hmem | hmem
        · exact ⟨c', hmem, hid, hmarket⟩
        · -- the request has a capsule of its own already
          obtain rfl := List.mem_singleton.mp hmem
          obtain ⟨c'', hc'', hid'⟩ := h.requestCapsules r hr
          exact absurd (hid'.trans hid.symm) (hfresh c'' hc'')
      · rintro ⟨c', hmem, hrest⟩
        exact ⟨c', List.mem_append_left _ hmem, hrest⟩
  | request r hfresh _ hc hr _ =>
      rw [hc, hr]
      constructor
      · rintro ⟨r', hmem, hid, hmarket⟩
        rcases List.mem_append.mp hmem with hmem | hmem
        · exact ⟨r', hmem, hid, hmarket⟩
        · -- the event has a request of its own already
          obtain rfl := List.mem_singleton.mp hmem
          obtain ⟨r'', hr'', hid'⟩ := h.eventRequests e he
          exact absurd (hid'.trans hid.symm) (hfresh r'' hr'')
      · rintro ⟨r', hmem, hrest⟩
        exact ⟨r', List.mem_append_left _ hmem, hrest⟩

/-- **A market's commitments grow by a commitment in it, and by nothing else.** -/
theorem Filed.commitmentTimes (hf : Filed db db') (h : Constrained db) :
    commitmentTimes db' environment canonicalSymbol = commitmentTimes db environment canonicalSymbol
      ∨ ∃ e, e.eventType = .submissionStarted ∧ db'.executionEvents = db.executionEvents ++ [e]
        ∧ db'.executionRequests = db.executionRequests
        ∧ db'.decisionCapsules = db.decisionCapsules
        ∧ db'.eventInMarket environment canonicalSymbol e = true
        ∧ commitmentTimes db' environment canonicalSymbol
            = commitmentTimes db environment canonicalSymbol ++ [e.occurredAtUtc] := by
  have hold : (db.executionEvents.filter fun e => decide (e.eventType = .submissionStarted)
      && db'.eventInMarket environment canonicalSymbol e)
      = db.executionEvents.filter fun e => decide (e.eventType = .submissionStarted)
        && db.eventInMarket environment canonicalSymbol e :=
    List.filter_congr fun e he => by rw [hf.eventInMarket h he]
  have hsame : db'.executionEvents = db.executionEvents →
      Crumblr.commitmentTimes db' environment canonicalSymbol
        = Crumblr.commitmentTimes db environment canonicalSymbol := by
    intro he
    unfold Crumblr.commitmentTimes
    rw [he, hold]
  cases hf with
  | same _ _ he => exact .inl (hsame he)
  | capsule _ _ _ _ he => exact .inl (hsame he)
  | request _ _ _ _ _ he => exact .inl (hsame he)
  | event e howned hc hr he =>
      unfold Crumblr.commitmentTimes
      rw [he, List.filter_append, hold]
      by_cases hcommits : e.eventType = .submissionStarted
          ∧ db'.eventInMarket environment canonicalSymbol e = true
      · refine .inr ⟨e, hcommits.1, rfl, hr, hc, hcommits.2, ?_⟩
        simp [hcommits.1, hcommits.2]
      · refine .inl ?_
        rw [List.filter_cons_of_neg (by simpa using hcommits)]
        simp

/-! ## What a step does -/

/-- The call commits to a submission. -/
def IsCommitment : Call → Prop
  | .append e => e.eventType = .submissionStarted
  | .consumeAndStart .. => True
  | _ => False

section

variable [Externals] {w : World} {o : Oracle} {i : Nat} {c : Call} {past : Past}
  {l l' : Ledger} {a : Except PyError c.Answer}

/-- A request is claimed for a capsule there is. -/
theorem serve_claim_owned {row : ExecutionRequest}
    (h : (w.serve o i (.claim row)).2.db.executionRequests ≠ w.db.executionRequests) :
    ∃ c ∈ w.db.decisionCapsules, c.capsuleId = row.capsuleId := by
  have hanswer : (w.answer o.replies i (.claim row)).2.db.executionRequests
      ≠ w.db.executionRequests → ∃ c ∈ w.db.decisionCapsules, c.capsuleId = row.capsuleId := by
    intro hne
    by_contra hnone
    refine hne ?_
    have hany : (w.db.decisionCapsules.any fun c => decide (c.capsuleId = row.capsuleId))
        = false := by
      rw [List.any_eq_false]
      intro c hc
      simpa using fun hid => hnone ⟨c, hc, hid⟩
    show (w.stored (w.db.claim row)).2.db.executionRequests = _
    unfold Database.claim
    split
    · rw [if_neg (by simpa using hany)]
      rfl
    · split <;> rfl
  unfold World.serve at h
  split at h
  · split at h
    · exact absurd rfl h
    · exact hanswer h
  · exact hanswer h

/-- **What a call files.** -/
theorem serve_filed (w : World) (o : Oracle) (i : Nat) (c : Call) :
    Filed w.db (w.serve o i c).2.db := by
  have hcapsules := (serve_aside w o i c).capsules
  rcases (serve_effect o i w c).filed with ⟨hr, he⟩ | ⟨row, rfl, hnone, hr, he⟩
    | ⟨e, hr, he, hrow, -⟩
  · exact .same hcapsules hr he
  · refine .request row (Table.lookup_eq_none.mp hnone) (serve_claim_owned (i := i) (o := o) ?_)
      hcapsules hr he
    intro hsame
    have hgrown : w.db.executionRequests ++ [row] = w.db.executionRequests := hr.symm.trans hsame
    simp at hgrown
  · exact .event e hrow hcapsules hr he

omit [Externals] in
theorem nature_filed (n : World.Event) (w : World) : Filed w.db (w.nature n).db := by
  cases n with
  | sealCapsule capsule =>
      simp only [World.nature]
      split
      · exact .same rfl rfl rfl
      · rename_i hfresh
        refine .capsule capsule (fun c hc hid => hfresh ?_) rfl rfl rfl
        exact List.any_eq_true.mpr ⟨c, hc, by simpa using hid⟩
  | _ => exact .same rfl rfl rfl

/-- The claims a pass has won, and the capsules it has read, are in the store. -/
structure InStore (w : World) (past : Past) : Prop where
  claims : ∀ row, ⟨.claim row, .ok true⟩ ∈ past → row ∈ w.db.executionRequests
  capsules : ∀ environment canonicalSymbol capsules,
    ⟨.readAll environment canonicalSymbol, .ok capsules⟩ ∈ past → ∀ c ∈ capsules,
      c ∈ w.db.decisionCapsules ∧ c.environment = environment ∧ c.canonicalSymbol = canonicalSymbol

omit [Externals] in
/-- What is in the store stays there. -/
theorem InStore.filed {w' : World} (h : InStore w past) (hf : Filed w.db w'.db) :
    InStore w' past := by
  have hgrows : (∀ r ∈ w.db.executionRequests, r ∈ w'.db.executionRequests)
      ∧ ∀ c ∈ w.db.decisionCapsules, c ∈ w'.db.decisionCapsules := by
    cases hf with
    | same hc hr _ => exact ⟨fun r h => hr ▸ h, fun c h => hc ▸ h⟩
    | event _ _ hc hr _ => exact ⟨fun r h => hr ▸ h, fun c h => hc ▸ h⟩
    | capsule c _ hc hr _ => exact ⟨fun r h => hr ▸ h, fun c h => hc ▸ List.mem_append_left _ h⟩
    | request r _ _ hc hr _ => exact ⟨fun r h => hr ▸ List.mem_append_left _ h, fun c h => hc ▸ h⟩
  refine ⟨fun row hmem => hgrows.1 row (h.claims row hmem), ?_⟩
  intro environment canonicalSymbol capsules hmem c hc
  obtain ⟨hin, hmarket⟩ := h.capsules _ _ _ hmem c hc
  exact ⟨hgrows.2 c hin, hmarket⟩

omit [Externals] in
theorem readAll_mem {db : Database} {environment : Environment} {canonicalSymbol : String}
    {c : DecisionCapsule} (h : c ∈ db.readAll environment canonicalSymbol) :
    c ∈ db.decisionCapsules := by
  unfold Database.readAll at h
  rw [List.mem_insertionSort, List.mem_filter] at h
  exact h.1

/-- **A call leaves what is in the store there, and adds what it tells.** -/
theorem InStore.call (h : InStore w past) :
    InStore (w.serve o i c).2 (⟨c, (w.serve o i c).1⟩ :: past) := by
  have hold := h.filed (serve_filed w o i c)
  refine ⟨fun row hmem => ?_, fun environment canonicalSymbol capsules hmem => ?_⟩
  · rcases List.mem_cons.mp hmem with heq | hmem
    · obtain ⟨rfl, ha⟩ := Sigma.mk.inj_iff.mp heq
      have heffect := serve_effect o i w (.claim row)
      rw [← eq_of_heq ha] at heffect
      generalize (w.serve o i (.claim row)).2 = w' at heffect ⊢
      generalize hl : w'.ledger = l' at heffect
      cases heffect with
      | claimed row _ =>
          rw [show w'.db.executionRequests = w.ledger.requests ++ [row] from
            congrArg Ledger.requests hl]
          simp
      | idle c a hidle =>
          have hnews := hidle.news row.orderRequestId
          simp [executionNews] at hnews
    · exact hold.claims row hmem
  · rcases List.mem_cons.mp hmem with heq | hmem
    · obtain ⟨rfl, ha⟩ := Sigma.mk.inj_iff.mp heq
      have hanswer : (w.serve o i (.readAll environment canonicalSymbol)).1 = .ok capsules :=
        (eq_of_heq ha).symm
      have hread : capsules = w.db.readAll environment canonicalSymbol := by
        unfold World.serve at hanswer
        split at hanswer
        · cases hanswer
        · exact (Except.ok.inj hanswer).symm
      intro c hc
      rw [hread] at hc
      rw [(serve_aside w o i _).capsules]
      exact ⟨readAll_mem hc, readAll_market hc⟩
    · exact hold.capsules _ _ _ hmem

/-! ## Runs -/

/-- The worker is on the market. -/
def OnMarket (environment : Environment) (canonicalSymbol : String) (q : Task) : Prop :=
  q.orchestrator.config.environment = environment
    ∧ q.orchestrator.canonicalSymbol = canonicalSymbol

/-- The workers started on the market have the cap. -/
def Capped (environment : Environment) (canonicalSymbol : String) (cap : Nat) : Guard :=
  fun _ m _ => match m with
    | .start _ q => OnMarket environment canonicalSymbol q →
        q.orchestrator.riskConfig.maxOrdersPerHour ≤ cap
    | _ => True

/-- The workers on the market have the cap, and when one commits, no commitment of the
market has landed since it counted them; or those that have, left room. -/
def Unraced (environment : Environment) (canonicalSymbol : String) (cap : Nat) : Guard :=
  fun v m c => Capped environment canonicalSymbol cap v m c ∧ match m with
    | .call i _ => ∀ c' q past tally, c = some c' → IsCommitment c' →
        v.seen i = some (q, past) → OnMarket environment canonicalSymbol q →
        tallied past = some tally →
        v.world.db.countEventsSince tally.eventType tally.since environment canonicalSymbol
            ≤ tally.count
          ∨ v.world.db.countEventsSince tally.eventType tally.since environment canonicalSymbol
            < q.orchestrator.riskConfig.maxOrdersPerHour
    | _ => True

variable {environment : Environment} {canonicalSymbol : String} {cap : Nat}
  {s s' : Config Nat Task World Call Call.Answer PyError}

/-- What every pass is started with stays, and its claims and capsules are in the store. -/
theorem pass_inStore {G : Guard} {P : Task → Prop}
    (hstart : ∀ v i q, G v (.start i q) none → P q) (h : ReachUnder G w s)
    {t : Thread Task Call Call.Answer PyError} (ht : s.threads i = some t) :
    InStore s.world t.past ∧ P t.pass := by
  refine Machine.Reach.threads (M := workers) (D := fun _ q => commitDiscipline q.orchestrator)
    (I := fun _ w q past => InStore w past ∧ P q)
    (fun _ q => program_commits q) (fun w o i _ c => serve_answers w o i c) (fun _ => rfl)
    ?_ ?_ ?_ ?_ ?_ h ht
  · intro v i q hg
    refine ⟨⟨?_, ?_⟩, hstart v i q hg⟩
    · rintro row ⟨⟩
    · rintro environment canonicalSymbol capsules ⟨⟩
  · exact fun v o i q past c _ hI _ _ => ⟨hI.1.call, hI.2⟩
  · exact fun o i w c j q past _ hI => ⟨hI.1.filed (serve_filed w o i c), hI.2⟩
  · exact fun i w j q past _ hI => ⟨hI.1.filed (.same rfl rfl rfl), hI.2⟩
  · exact fun n w j q past hI => ⟨hI.1.filed (nature_filed n w), hI.2⟩

/-- **The keys hold in every run.** -/
theorem Constrained.run {G : Guard} (hdb : Constrained w.db) (h : ReachUnder G w s) :
    Constrained s.world.db := by
  induction h with
  | init => exact hdb
  | @tail s s' m _ _ hs ih =>
      rcases Machine.step_cases hs with ⟨j, q, rfl, -, rfl⟩ | ⟨j, o, q, past, c, k, rfl, ht, rfl⟩
        | ⟨j, t, rfl, -, rfl⟩ | ⟨j, rfl, rfl⟩ | ⟨n, rfl, rfl⟩
      · exact ih
      · exact ih.filed (serve_filed s.world o j c)
      · exact ih
      · exact ih
      · exact ih.filed (nature_filed n s.world)

/-- **A commitment in the market had room when it was made.** -/
theorem commitment_room (hdb : Constrained s.world.db)
    (h : ReachUnder (Unraced environment canonicalSymbol cap) w s)
    {t : Thread Task Call Call.Answer PyError} (ht : s.threads i = some t)
    {k : Except PyError c.Answer → Pass Unit} (hrest : t.rest = .call c k)
    (hg : Unraced environment canonicalSymbol cap s.view (.call i o) (some c))
    {e : ExecutionEventRecord} (htype : e.eventType = .submissionStarted)
    (hc : c = .append e ∨ ∃ permitId payload,
      c = .consumeAndStart permitId e.orderRequestId e.occurredAtUtc payload)
    (hmarket : s.world.db.eventInMarket environment canonicalSymbol e = true) :
    Window.since (commitmentTimes s.world.db environment canonicalSymbol)
      (e.occurredAtUtc - hours 1) < cap := by
  obtain ⟨q, past, rest⟩ := t
  obtain rfl : rest = .call c k := hrest
  obtain ⟨hstore, hcap⟩ := pass_inStore (P := fun q => OnMarket environment canonicalSymbol q →
    q.orchestrator.riskConfig.maxOrdersPerHour ≤ cap) (fun _ _ _ hg => hg.1) h ht
  have hallowed := reachable_allowed (D := fun q => commitDiscipline q.orchestrator)
    program_commits (fun _ => rfl) h ht
  obtain ⟨⟨count, htally, hroom⟩, row, capsules, capsule, hclaim, hid, hread, hmem, hcapsule⟩ :
      Counted q.orchestrator e.occurredAtUtc past
        ∧ ClaimedHere q.orchestrator e.orderRequestId past := by
    rcases hc with rfl | ⟨permitId, payload, rfl⟩
    · exact (hallowed.2 htype).2
    · exact hallowed.2
  have hcommits : IsCommitment c := by
    rcases hc with rfl | ⟨permitId, payload, rfl⟩
    · exact htype
    · trivial
  -- the request has one row and one capsule, so its market is the worker's
  obtain ⟨row', hrow', hid', capsule', hcapsule', hcid, henv, hsym⟩ := eventInMarket_iff.mp hmarket
  obtain ⟨hin, hcenv, hcsym⟩ := hstore.capsules _ _ _ hread capsule hmem
  obtain rfl : row = row' := hdb.requests.eq_of_mem (hstore.claims row hclaim) hrow'
    (hid.trans hid'.symm)
  obtain rfl : capsule = capsule' := hdb.capsules.eq_of_mem hin hcapsule'
    (hcapsule.symm.trans hcid.symm)
  have hon : OnMarket environment canonicalSymbol q := ⟨hcenv.symm.trans henv, hcsym.symm.trans hsym⟩
  have hseen : s.view.seen i = some (q, past) := by simp [Config.view, ht]
  have hcount := hg.2 c q past _ rfl hcommits hseen hon htally
  rw [countEventsSince_eq] at hcount
  have hcap' : q.orchestrator.riskConfig.maxOrdersPerHour ≤ cap := hcap hon
  dsimp only [Config.view] at hcount
  omega

/--
**The hourly cap holds unless two passes race.** In every run of any number of workers in
which, whenever a worker on the market commits, no commitment of the market has landed
since it counted them (or what landed left room), no window of an hour ever holds more
commitments of the market than the cap.
-/
theorem orders_within_cap (hdb : Constrained w.db)
    (hstart : Window.Rated (hours 1) cap (commitmentTimes w.db environment canonicalSymbol))
    (h : ReachUnder (Unraced environment canonicalSymbol cap) w s) :
    Window.Rated (hours 1) cap (commitmentTimes s.world.db environment canonicalSymbol) := by
  induction h with
  | init => exact hstart
  | @tail s s' m hr hg hs hrated =>
      have hdb := hdb.run hr
      rcases Machine.step_cases hs with ⟨j, q, rfl, -, rfl⟩ | ⟨j, o, q, past, c, k, rfl, ht, rfl⟩
        | ⟨j, t, rfl, -, rfl⟩ | ⟨j, rfl, rfl⟩ | ⟨n, rfl, rfl⟩
      · exact hrated
      · have hf := serve_filed s.world o j c
        show Window.Rated (hours 1) cap
          (commitmentTimes (s.world.serve o j c).2.db environment canonicalSymbol)
        rcases hf.commitmentTimes hdb with heq | ⟨e, htype, hev, hreq, hcaps, hmarket, htimes⟩
        · rw [heq]
          exact hrated
        rw [htimes]
        refine hrated.concat ?_
        have hasked : Machine.asked s (.call j o : Move Nat Task Oracle World.Event) = some c := by
          simp [Machine.asked, ht]
        rw [hasked] at hg
        have hmarket' : s.world.db.eventInMarket environment canonicalSymbol e = true := by
          rw [eventInMarket_iff] at hmarket ⊢
          rw [hreq, hcaps] at hmarket
          exact hmarket
        have hgrown : ∀ es, es = s.world.db.executionEvents →
            (s.world.serve o j c).2.db.executionEvents ≠ es := by
          rintro es rfl hsame
          rw [hev] at hsame
          simp at hsame
        refine commitment_room (o := o) hdb hr ht rfl hg htype ?_ hmarket'
        rcases (serve_effect o j s.world c).filed with ⟨-, hsame⟩ | ⟨row, -, -, -, hsame⟩
          | ⟨e', -, hev', -, hc⟩
        · exact absurd hsame (hgrown _ rfl)
        · exact absurd hsame (hgrown _ rfl)
        · have heq : s.world.db.executionEvents ++ [e] = s.world.db.executionEvents ++ [e'] :=
            hev.symm.trans hev'
          obtain rfl : e = e' := by simpa using heq
          exact hc.imp_right And.right
      · exact hrated
      · exact hrated
      · have hf := nature_filed n s.world
        show Window.Rated (hours 1) cap
          (commitmentTimes (World.nature n s.world).db environment canonicalSymbol)
        rcases hf.commitmentTimes hdb with heq | ⟨e, -, hev, -⟩
        · rw [heq]
          exact hrated
        · -- nature records no event of a request
          obtain ⟨sends, hl, -⟩ := nature_ledger n s.world
          have hsame : (World.nature n s.world).db.executionEvents = s.world.db.executionEvents :=
            congrArg Ledger.events hl
          have hgrown : s.world.db.executionEvents
              = s.world.db.executionEvents ++ [e] := hsame.symm.trans hev
          simp at hgrown

end

/-! ## Two workers -/

namespace Sample

/-- One order an hour. -/
def oneAnHour : RiskConfig := { risk with maxOrdersPerHour := 1 }

/-- A worker that goes as far as committing. -/
def oneAnHourWorker : ExecutionOrchestrator where
  config := { config with risk := oneAnHour }
  canonicalSymbol := "EUR/USD"
  activationWatermark := some (noon - days 1)
  workerId := "w"
  currentStrategyVersion := "v1"
  flattenCloseAdapter := true
  entrySubmission := none
  riskConfig := oneAnHour
  riskConfigMerged := rfl

/-- The approved capsule of another decision. -/
def secondCapsule : DecisionCapsule := { capsule with
  capsuleId := ⟨"second capsule"⟩
  tradeIntent := some { intent with
    intentId := ⟨"second intent"⟩
    featureSnapshotId := ⟨"second features"⟩ }
  riskDecision := some { riskDecision with intentId := ⟨"second intent"⟩ }
  supervisorDecision := some { supervisorDecision with intentId := ⟨"second intent"⟩ } }

/-- Two approved capsules, and nothing done yet. -/
def twoApproved : World :=
  { world with db := { world.db with decisionCapsules := [capsule, secondCapsule] } }

theorem twoApproved_constrained : Constrained twoApproved.db where
  capsules := by simp [twoApproved, Table.Keyed, secondCapsule, capsule]
  requests := List.nodup_nil
  requestCapsules := nofun
  eventRequests := nofun

/-- One worker takes the first capsule as far as committing to it. -/
def oneCommitment : List (Move Nat Task Oracle World.Event) :=
  .start 0 ⟨oneAnHourWorker, .runOnce⟩ :: served 0 39

/-- When the first worker is about to commit to the first capsule, a second worker takes
the second capsule through; then the first commits. -/
def race : List (Move Nat Task Oracle World.Event) :=
  .start 0 ⟨oneAnHourWorker, .runOnce⟩ :: served 0 38
    ++ .start 1 ⟨oneAnHourWorker, .runOnce⟩ :: served 1 41 ++ served 0 1

/-- The cap is checked. -/
def capped : Config Nat Task World Call Call.Answer PyError →
    Move Nat Task Oracle World.Event → Bool
  | _, .start _ q => decide (q.orchestrator.riskConfig.maxOrdersPerHour ≤ 1)
  | _, _ => true

/-- So is that nothing has landed since a pass counted. -/
def unraced (s : Config Nat Task World Call Call.Answer PyError)
    (m : Move Nat Task Oracle World.Event) : Bool :=
  capped s m && match m with
    | .call i _ => (s.threads i).all fun t => (tallied t.past).all fun tally =>
        decide (s.world.db.countEventsSince tally.eventType tally.since .paper "EUR/USD"
          ≤ tally.count)
    | _ => true

theorem capped_of_check (s : Config Nat Task World Call Call.Answer PyError)
    (m : Move Nat Task Oracle World.Event) (h : capped s m = true) :
    Capped .paper "EUR/USD" 1 s.view m (Machine.asked s m) := by
  cases m with
  | start i q => exact fun _ => of_decide_eq_true h
  | _ => trivial

theorem unraced_of_check (s : Config Nat Task World Call Call.Answer PyError)
    (m : Move Nat Task Oracle World.Event) (h : unraced s m = true) :
    Unraced .paper "EUR/USD" 1 s.view m (Machine.asked s m) := by
  simp only [unraced, Bool.and_eq_true] at h
  obtain ⟨hcapped, hcount⟩ := h
  refine ⟨capped_of_check s m hcapped, ?_⟩
  cases m with
  | call i o =>
      intro c q past tally _ _ hseen _ htally
      obtain ⟨t, ht, heq⟩ := Option.map_eq_some_iff.mp hseen
      obtain ⟨rfl, rfl⟩ := Prod.mk.inj heq
      simp only [ht, Option.all_some, htally, decide_eq_true_eq] at hcount
      exact .inl hcount
  | _ => trivial

end Sample

open Sample in
theorem orders_within_cap_sample :
    ∃ s, ReachUnder (Unraced .paper "EUR/USD" 1) twoApproved s
      ∧ commitmentTimes s.world.db .paper "EUR/USD" = [noon]
      ∧ Window.Rated (hours 1) 1 (commitmentTimes s.world.db .paper "EUR/USD") := by
  have hrun : (workers.run unraced (Machine.idle twoApproved) oneCommitment).any
      (fun s => decide (commitmentTimes s.world.db .paper "EUR/USD" = [noon])) = true := by
    decide +kernel
  obtain ⟨s, hs, hp⟩ := Machine.Reach.exists_of_run _ _ unraced_of_check hrun
  exact ⟨s, hs, of_decide_eq_true hp, orders_within_cap twoApproved_constrained Window.Rated.nil hs⟩

open Sample in
/-- **Two passes that race commit twice.** Both count before either commits. -/
theorem orders_raced :
    ∃ s, ReachUnder (Capped .paper "EUR/USD" 1) twoApproved s ∧ Constrained twoApproved.db
      ∧ commitmentTimes twoApproved.db .paper "EUR/USD" = []
      ∧ 1 < Window.within (hours 1) (commitmentTimes s.world.db .paper "EUR/USD") noon := by
  have hrun : (workers.run capped (Machine.idle twoApproved) race).any
      (fun s => decide (1 < Window.within (hours 1)
        (commitmentTimes s.world.db .paper "EUR/USD") noon)) = true := by decide +kernel
  obtain ⟨s, hs, hp⟩ := Machine.Reach.exists_of_run _ _ capped_of_check hrun
  exact ⟨s, hs, twoApproved_constrained, rfl, of_decide_eq_true hp⟩

end Crumblr
