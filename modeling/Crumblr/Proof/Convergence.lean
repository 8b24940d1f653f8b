import Crumblr.Proof.Findings
import Crumblr.Proof.Recovery

/-!
# Several workers and one determination

The stores keep one event of each type for a request or an occurrence. Who comes second with
the same content is told so, and goes on; who comes second with another is refused. What a pass
determines is the record of what it found itself: two passes that found the same tickets converge,
and only two that found different ones contradict each other.

What that can come to is limited, in whatever order workers take their turns. An event that the
owner of a claim records is new, so its pass is never refused. Only what resolves an event that
another pass recorded can be there already: what a recovery found, a resting order's fill, that
a book was accounted for, and the outcome of a flatten. So only these can be refused, and only
where another content is on record. And only a recovery can stand beside what the owner hears
from the broker: a history without one is on its life cycle, and so is every occurrence.

As long as nobody adds to a history between the reading and the writing of it, every history
stays on its life cycle, recoveries included, and no append is refused.
-/

namespace Crumblr

/-! ## One event of a type -/

/-- The stores keep one event of each type. -/
structure Unrepeated (l : Ledger) : Prop where
  events : Table.Keyed ExecutionEventRecord.key l.events
  flattens : Table.Keyed FlattenEventRecord.key l.flattenEvents

variable {S : Scene} {l l' : Ledger} {i : Nat} {c : Call} {a : Except PyError c.Answer}

theorem Unrepeated.effect [Externals] (h : Unrepeated l) (heff : Effect l c a l') : Unrepeated l' := by
  cases heff with
  | appended e hfree hrow => exact ⟨Table.keyed_append h.events hfree, h.flattens⟩
  | committed permitId r now payload hfree hnew hrow =>
      exact ⟨Table.keyed_append h.events hnew, h.flattens⟩
  | appendedFlatten e hfree hrow => exact ⟨h.events, Table.keyed_append h.flattens hfree⟩
  | _ => exact ⟨h.events, h.flattens⟩

theorem Unrepeated.types_nodup (h : Unrepeated l) (r : Uuid) : (types (l.eventsFor r)).Nodup := by
  refine h.events.nodup_filter fun e _ e' _ he he' ht => Prod.ext ?_ ht
  exact (of_decide_eq_true he).trans (of_decide_eq_true he').symm

theorem Unrepeated.flattenTypes_nodup (h : Unrepeated l) (f : Uuid) :
    (flattenTypes (l.flattenEventsFor f)).Nodup := by
  refine h.flattens.nodup_filter fun e _ e' _ he he' ht => Prod.ext ?_ ht
  exact (of_decide_eq_true he).trans (of_decide_eq_true he').symm

/-- What is on record with the same content is not recorded again; another is refused. -/
theorem appendEvent_recorded [Externals] {db : Database} {e e' : ExecutionEventRecord}
    (h : Table.lookup ExecutionEventRecord.key db.executionEvents e.key = some e') :
    (sameContent e e' → db.appendEvent e = .ok (false, db))
      ∧ (¬ sameContent e e' → ∃ err, db.appendEvent e = .error err) := by
  constructor
  · rintro ⟨digest, hnew, hold⟩
    unfold Database.appendEvent
    simp only [h, hnew, hold, bind, Except.bind, ne_eq, not_true, if_false]
  · intro hne
    cases hagain : db.appendEvent e with
    | error err => exact ⟨err, rfl⟩
    | ok out =>
        rcases appendEvent_ok hagain with ⟨-, hnone, -⟩ | ⟨-, -, e'', hthere, hsame⟩
        · rw [h] at hnone
          cases hnone
        · rw [h] at hthere
          cases hthere
          exact absurd hsame hne

theorem appendFlattenEvent_recorded [Externals] {db : Database} {e e' : FlattenEventRecord}
    (h : Table.lookup FlattenEventRecord.key db.flattenEvents e.key = some e') :
    (sameFlattenContent e e' → db.appendFlattenEvent e = .ok (false, db))
      ∧ (¬ sameFlattenContent e e' → ∃ err, db.appendFlattenEvent e = .error err) := by
  constructor
  · rintro ⟨digest, hnew, hold⟩
    unfold Database.appendFlattenEvent
    simp only [h, hnew, hold, bind, Except.bind, ne_eq, not_true, if_false]
  · intro hne
    cases hagain : db.appendFlattenEvent e with
    | error err => exact ⟨err, rfl⟩
    | ok out =>
        rcases appendFlattenEvent_ok hagain with ⟨-, hnone, -⟩ | ⟨-, -, e'', hthere, hsame⟩
        · rw [h] at hnone
          cases hnone
        · rw [h] at hthere
          cases hthere
          exact absurd hsame hne

/-! ## Writing on what is there -/

/-- The call appends to the history as its worker knows it. -/
def UpToDateFor (S : Scene) (i : Nat) : Call → Prop
  | .append e => ∀ events, known e.orderRequestId (S.past i) = some events →
      events = S.ledger.eventsFor e.orderRequestId
  | .appendFlatten e => ∀ events, knownFlatten e.flattenRequestId (S.past i) = some events →
      events = S.ledger.flattenEventsFor e.flattenRequestId
  | _ => True

/-- Nobody adds to a history between a worker's reading and its writing of it. -/
def UpToDate [Externals] : Guard := fun v m c => ∀ i o c', m = .call i o → c = some c' →
  UpToDateFor (scene v) i c'

/-- Every history of a request is a stage of a life cycle. -/
def Orderly (S : Scene) : Prop := ∀ r, types (S.ledger.eventsFor r) ∈ histories

/-- What a worker with the whole history may append comes next in it. -/
theorem UpToDateFor.next [Externals] {e : ExecutionEventRecord} (hup : UpToDateFor S i (.append e))
    (hmay : MayAppend (S.past i) e) :
    e.eventType ∈ advances (types (S.ledger.eventsFor e.orderRequestId)).getLast?
      ++ resolves (types (S.ledger.eventsFor e.orderRequestId)).getLast? := by
  obtain ⟨events, hk, hor⟩ := hmay.continues
  rw [← hup events hk]
  rcases hor with ⟨-, hadv, -⟩ | hres
  · exact List.mem_append_left _ hadv
  · exact List.mem_append_right _ hres

theorem UpToDateFor.nextFlatten {e : FlattenEventRecord}
    (hup : UpToDateFor S i (.appendFlatten e)) (hmay : MayAppendFlatten (S.past i) e) :
    e.eventType ∈ commits (flattenTypes (S.ledger.flattenEventsFor e.flattenRequestId)).getLast?
      ++ settles (flattenTypes (S.ledger.flattenEventsFor e.flattenRequestId)).getLast? := by
  obtain ⟨events, hk, hor⟩ := hmay
  rw [← hup events hk]
  rcases hor with ⟨-, hcommits⟩ | hsettles
  · exact List.mem_append_left _ hcommits
  · exact List.mem_append_right _ hsettles

namespace Orderly

theorem init {l : Ledger} (hev : l.events = []) : Orderly ⟨l, fun _ => []⟩ := by
  intro r
  simp only [Ledger.eventsFor, hev, List.filter_nil]
  exact nil_mem_histories

/-- A history that grows by what comes next stays on its life cycle. -/
theorem grown (h : Orderly S) {e : ExecutionEventRecord}
    (hnext : e.eventType ∈ advances (types (S.ledger.eventsFor e.orderRequestId)).getLast?
      ++ resolves (types (S.ledger.eventsFor e.orderRequestId)).getLast?)
    (hev : l.events = S.ledger.events ++ [e]) (r : Uuid) : types (l.eventsFor r) ∈ histories := by
  by_cases hr : e.orderRequestId = r
  · subst hr
    have hself : l.eventsFor e.orderRequestId = S.ledger.eventsFor e.orderRequestId ++ [e] := by
      simp [Ledger.eventsFor, hev]
    rw [hself, types_append]
    exact (histories_grow _ (h _) _ hnext).1
  · have hother : l.eventsFor r = S.ledger.eventsFor r := by
      simp [Ledger.eventsFor, hev, hr]
    rw [hother]
    exact h r

/-- **Every call made on what is there keeps histories on their life cycles.** -/
theorem call [Externals] (h : Orderly S) (hown : Ownership S) (hmay : mayCall (S.past i) c)
    (hup : UpToDateFor S i c) (heff : Effect S.ledger c a l) : Orderly (S.called i c a l) := by
  intro r
  rw [Scene.called_ledger]
  cases heff with
  | appended e hfree hrow => exact h.grown (hup.next hmay) rfl r
  | committed permitId r' now payload hfree hnew hrow =>
      -- who commits knows the whole history, so no guard is needed for it
      obtain ⟨howned, events, hk, hlast⟩ := hmay
      have hknown := (hown.fresh i r' (.inl howned)).2.1
      rw [hk] at hknown
      cases hknown
      refine h.grown (e := ⟨r', .submissionStarted, now, [], none, some payload⟩) ?_ rfl r
      simp [hlast, advances]
  | _ => exact h r

end Orderly

/-! ## What becomes of an append -/

variable [Externals]

/-- The store takes the append as a new event. -/
def Accepted (db : Database) : Call → Prop
  | .append e => ∃ db', db.appendEvent e = .ok (true, db')
  | .appendFlatten e => ∃ db', db.appendFlattenEvent e = .ok (true, db')
  | _ => True

theorem accepted_append {db : Database} {e : ExecutionEventRecord}
    (hfree : Table.lookup ExecutionEventRecord.key db.executionEvents e.key = none)
    (hrow : ∃ row ∈ db.executionRequests, row.orderRequestId = e.orderRequestId) :
    ∃ db', db.appendEvent e = .ok (true, db') := by
  have hany : db.executionRequests.any (fun r => r.orderRequestId = e.orderRequestId) = true := by
    simpa using hrow
  refine ⟨{ db with executionEvents := db.executionEvents ++ [e] }, ?_⟩
  unfold Database.appendEvent
  rw [hfree]
  exact if_pos hany

theorem accepted_appendFlatten {db : Database} {e : FlattenEventRecord}
    (hfree : Table.lookup FlattenEventRecord.key db.flattenEvents e.key = none)
    (hrow : ∃ row ∈ db.flattenRequests, row.flattenRequestId = e.flattenRequestId) :
    ∃ db', db.appendFlattenEvent e = .ok (true, db') := by
  have hany : db.flattenRequests.any (fun r => r.flattenRequestId = e.flattenRequestId) = true := by
    simpa using hrow
  refine ⟨{ db with flattenEvents := db.flattenEvents ++ [e] }, ?_⟩
  unfold Database.appendFlattenEvent
  rw [hfree]
  exact if_pos hany

/-- What becomes of an event a pass appends to a request, after these calls of its own. -/
structure RequestAppend (db : Database) (past : Past) (e : ExecutionEventRecord) : Prop where
  /-- It comes next in the history as the pass knows it, and what it knows is on record. -/
  informed : ∃ events, known e.orderRequestId past = some events
    ∧ (∀ t ∈ types events, t ∈ types (db.eventsFor e.orderRequestId))
    ∧ e.eventType ∈ advances (types events).getLast? ++ resolves (types events).getLast?
  /-- It is taken where none of its type is on record. -/
  taken : Table.lookup ExecutionEventRecord.key db.executionEvents e.key = none →
    ∃ db', db.appendEvent e = .ok (true, db')
  /-- The same determination converges: nothing is raised and nothing changes. -/
  converges : ∀ e', Table.lookup ExecutionEventRecord.key db.executionEvents e.key = some e' →
    sameContent e e' → db.appendEvent e = .ok (false, db)
  /-- Another determination is refused, neither recorded nor dropped. -/
  refused : ∀ e', Table.lookup ExecutionEventRecord.key db.executionEvents e.key = some e' →
    ¬ sameContent e e' → ∃ err, db.appendEvent e = .error err
  /-- Either can only be where it resolves what another pass had recorded. -/
  resolving : ∀ e', Table.lookup ExecutionEventRecord.key db.executionEvents e.key = some e' →
    ∃ t ∈ types (db.eventsFor e.orderRequestId), e.eventType ∈ resolves (some t)

/-- What becomes of an event a pass appends to an occurrence. -/
structure OccurrenceAppend (db : Database) (past : Past) (e : FlattenEventRecord) : Prop where
  informed : ∃ events, knownFlatten e.flattenRequestId past = some events
    ∧ (∀ t ∈ flattenTypes events, t ∈ flattenTypes (db.flattenEventsFor e.flattenRequestId))
    ∧ e.eventType ∈ commits (flattenTypes events).getLast? ++ settles (flattenTypes events).getLast?
  taken : Table.lookup FlattenEventRecord.key db.flattenEvents e.key = none →
    ∃ db', db.appendFlattenEvent e = .ok (true, db')
  converges : ∀ e', Table.lookup FlattenEventRecord.key db.flattenEvents e.key = some e' →
    sameFlattenContent e e' → db.appendFlattenEvent e = .ok (false, db)
  refused : ∀ e', Table.lookup FlattenEventRecord.key db.flattenEvents e.key = some e' →
    ¬ sameFlattenContent e e' → ∃ err, db.appendFlattenEvent e = .error err
  settling : ∀ e', Table.lookup FlattenEventRecord.key db.flattenEvents e.key = some e' →
    e.eventType = .flattenOutcomeResolved

theorem Racing.answered {w : World} {past : Nat → Past} (h : Racing ⟨w.ledger, past⟩)
    (hown : Ownership ⟨w.ledger, past⟩) {e : ExecutionEventRecord} (hmay : MayAppend (past i) e) :
    RequestAppend w.db (past i) e where
  informed := by
    -- the discipline speaks of what the pass knows, and that stays true of the ledger
    obtain ⟨events, hk, hor⟩ := hmay.continues
    refine ⟨events, hk, hown.remembered i _ events hk, ?_⟩
    rcases hor with ⟨-, hadv, -⟩ | hres
    · exact List.mem_append_left _ hadv
    · exact List.mem_append_right _ hres
  taken := fun hfree => accepted_append hfree (Racing.requested hown hmay)
  converges := fun _ hthere => (appendEvent_recorded hthere).1
  refused := fun _ hthere => (appendEvent_recorded hthere).2
  resolving := fun _ hthere =>
    h.resolves_of_recorded hown hmay (Ledger.mem_types_of_lookup (l := w.ledger) hthere)

theorem FlattenRacing.answered {w : World} {past : Nat → Past}
    (h : FlattenRacing ⟨w.ledger, past⟩) {e : FlattenEventRecord}
    (hmay : MayAppendFlatten (past i) e) : OccurrenceAppend w.db (past i) e where
  informed := by
    obtain ⟨events, hk, hor⟩ := hmay
    refine ⟨events, hk, h.remembered i _ events hk, ?_⟩
    rcases hor with ⟨-, hcommits⟩ | hsettles
    · exact List.mem_append_left _ hcommits
    · exact List.mem_append_right _ hsettles
  taken := fun hfree => accepted_appendFlatten hfree (h.requested hmay)
  converges := fun _ hthere => (appendFlattenEvent_recorded hthere).1
  refused := fun _ hthere => (appendFlattenEvent_recorded hthere).2
  settling := fun e' hthere => by
    obtain ⟨hmem, hkey⟩ := Table.lookup_eq_some hthere
    exact h.settles_of_recorded hmay (Ledger.mem_flattenTypes.mpr ⟨e', hmem, hkey⟩)

/-- **What a worker with the whole history appends, the store takes.** -/
theorem Orderly.accepted {w : World} {past : Nat → Past} (h : Orderly ⟨w.ledger, past⟩)
    (hown : Ownership ⟨w.ledger, past⟩) (hracing : FlattenRacing ⟨w.ledger, past⟩)
    (hmay : mayCall (past i) c) (hup : UpToDateFor ⟨w.ledger, past⟩ i c) : Accepted w.db c := by
  cases c with
  | append e =>
      -- no life cycle has one type of event twice
      have hfree := (histories_grow _ (h _) _ (hup.next hmay)).2
      exact accepted_append (Ledger.lookup_eq_none.mpr hfree) (Racing.requested hown hmay)
  | appendFlatten e =>
      have hfree := (flattenHistories_grow _ (hracing.grammar _) _ (hup.nextFlatten hmay)).2
      exact accepted_appendFlatten (Ledger.flattenLookup_eq_none.mpr hfree) (hracing.requested hmay)
  | _ => trivial

/-! ## Determinations -/

/-- What any interleaving leaves of two passes' determinations. -/
structure Converged (s : Config Nat Task World Call Call.Answer PyError) : Prop where
  /-- One event of each type is recorded for a request, and for an occurrence. -/
  once : ∀ r, (types (s.world.db.eventsFor r)).Nodup
  onceFlatten : ∀ f, (flattenTypes (s.world.db.flattenEventsFor f)).Nodup
  /-- Whatever a pass is about to append is taken, converges or is refused. -/
  appends : ∀ i q past e k, s.threads i = some ⟨q, past, .call (.append e) k⟩ →
    RequestAppend s.world.db past e
  appendsFlatten : ∀ i q past e k, s.threads i = some ⟨q, past, .call (.appendFlatten e) k⟩ →
    OccurrenceAppend s.world.db past e
  /-- What resolves on a request is the record of what the pass found, and whoever found the same
  converges. -/
  found : ∀ i q past e k, s.threads i = some ⟨q, past, .call (.append e) k⟩ → Resolving q e →
    ∃ finding : Finding, Discovered past e.orderRequestId finding ∧ finding.RecordedAs e
      ∧ ∀ e' (finding' : Finding),
        Table.lookup ExecutionEventRecord.key s.world.db.executionEvents e.key = some e' →
        finding'.RecordedAs e' → finding.Same finding' →
          s.world.db.appendEvent e = .ok (false, s.world.db)
  /-- So is what is on record in hindsight. -/
  recorded : ∀ e ∈ s.world.db.executionEvents, e.eventType ∈ hindsight →
    ∃ finding : Finding, finding.RecordedAs e
  /-- All that settle an occurrence settle what it was committed to, each on the observation its
  pass recorded, and whoever found the same tickets open converges. -/
  settled : ∀ i q past e k, s.threads i = some ⟨q, past, .call (.appendFlatten e) k⟩ →
    e.eventType = .flattenOutcomeResolved →
    ∃ observation instructions, (sight past).recorded = some observation
      ∧ Settles instructions observation e
      ∧ ∀ e', Table.lookup FlattenEventRecord.key s.world.db.flattenEvents e.key = some e' →
        ∃ observation', Settles instructions observation' e'
          ∧ (openTargets instructions observation = openTargets instructions observation' →
            s.world.db.appendFlattenEvent e = .ok (false, s.world.db))
  /-- Without what is recorded in hindsight, a history is on its life cycle. -/
  turn : ∀ r, ∃ word ∈ lifeCycles, inTurn (types (s.world.db.eventsFor r)) <+: word
  /-- Without a recovery, all of it is. -/
  history : ∀ r, .ambiguousOutcomeResolved ∉ types (s.world.db.eventsFor r) →
    ∃ word ∈ lifeCycles, types (s.world.db.eventsFor r) <+: word
  /-- What is recorded in hindsight is of a submission that was committed, -/
  hindsighted : ∀ r, ∀ t ∈ hindsight, t ∈ types (s.world.db.eventsFor r) →
    committedPrefix <+: types (s.world.db.eventsFor r)
  /-- and what is reconciled had been rejected or recovered. -/
  reconciled : ∀ r before, before ++ [.reconciled] <+: types (s.world.db.eventsFor r) →
    .rejected ∈ before ∨ .ambiguousOutcomeResolved ∈ before
  /-- Every occurrence is on its life cycle. -/
  historyFlatten : ∀ f, ∃ word ∈ flattenLifeCycles,
    flattenTypes (s.world.db.flattenEventsFor f) <+: word

/-- What workers leave that write on what is there. -/
structure Agreed (s : Config Nat Task World Call Call.Answer PyError) : Prop where
  /-- Nothing is recorded after a determination but what its life cycle has there. -/
  history : ∀ r, ∃ word ∈ lifeCycles, types (s.world.db.eventsFor r) <+: word
  /-- What is appended next on what is there is taken. -/
  taken : ∀ i q past c k, s.threads i = some ⟨q, past, .call c k⟩ →
    UpToDateFor (scene s.view) i c → Accepted s.world.db c

/-- What every state of a race keeps. -/
structure Raceable (S : Scene) : Prop where
  unrepeated : Unrepeated S.ledger
  ownership : Ownership S
  racing : Racing S
  flattenRacing : FlattenRacing S

/-- **Whoever found the same converges.** -/
theorem converges_of_found {w : World} {s : Config Nat Task World Call Call.Answer PyError}
    (h : Reachable w s) {q : Task} {past : Past} {e : ExecutionEventRecord}
    {k : Except PyError (Call.append e).Answer → Pass Unit}
    (ht : s.threads i = some ⟨q, past, .call (.append e) k⟩) (hresolving : Resolving q e) :
    ∃ finding : Finding, Discovered past e.orderRequestId finding ∧ finding.RecordedAs e
      ∧ ∀ e' (finding' : Finding),
        Table.lookup ExecutionEventRecord.key s.world.db.executionEvents e.key = some e' →
        finding'.RecordedAs e' → finding.Same finding' →
          s.world.db.appendEvent e = .ok (false, s.world.db) := by
  obtain ⟨finding, hdiscovered, hrecorded⟩ := reachable_allowed (D := findingDiscipline)
    program_finds (fun _ => rfl) h ht hresolving
  refine ⟨finding, hdiscovered, hrecorded, fun e' finding' hthere hrecorded' hsame => ?_⟩
  have hkey : e'.key = e.key := (Table.lookup_eq_some hthere).2
  refine (appendEvent_recorded hthere).1 (hrecorded.sameContent hrecorded' hsame ?_)
  exact (congrArg Prod.fst hkey).symm

/-- **Whoever found the same tickets open converges.** -/
theorem converges_of_settled {w : World} {s : Config Nat Task World Call Call.Answer PyError}
    (h : Reachable w s) (hevidenced : Evidenced (scene s.view))
    (hkeyed : Table.Keyed FlattenEventRecord.key s.world.db.flattenEvents) {q : Task} {past : Past}
    {e : FlattenEventRecord} {k : Except PyError (Call.appendFlatten e).Answer → Pass Unit}
    (ht : s.threads i = some ⟨q, past, .call (.appendFlatten e) k⟩)
    (htype : e.eventType = .flattenOutcomeResolved) :
    ∃ observation instructions, (sight past).recorded = some observation
      ∧ Settles instructions observation e
      ∧ ∀ e', Table.lookup FlattenEventRecord.key s.world.db.flattenEvents e.key = some e' →
        ∃ observation', Settles instructions observation' e'
          ∧ (openTargets instructions observation = openTargets instructions observation' →
            s.world.db.appendFlattenEvent e = .ok (false, s.world.db)) := by
  obtain ⟨-, hresolves⟩ := reachable_allowed (D := fun q => flattenDiscipline q.orchestrator)
    program_flattens (fun _ => rfl) h ht
  obtain ⟨observation, instructions, hobs, hresumes, hsettles⟩ := hresolves htype
  refine ⟨observation, instructions, hobs.recorded, hsettles, fun e' hthere => ?_⟩
  obtain ⟨hmem, hkey⟩ := Table.lookup_eq_some hthere
  have htype' : e'.eventType = .flattenOutcomeResolved := (congrArg Prod.snd hkey).trans htype
  obtain ⟨instructions', observation', hcommitted', hsettles'⟩ := hevidenced.settled e' hmem htype'
  -- both settle the one commitment the occurrence has
  have hcommitted : CommittedTo (scene s.view).ledger e.flattenRequestId instructions := by
    refine hevidenced.resumed (i := i) (o := q.orchestrator) ?_
    simpa [scene, Config.view, ht] using hresumes
  rw [show e'.flattenRequestId = e.flattenRequestId from congrArg Prod.fst hkey] at hcommitted'
  obtain rfl := hcommitted.unique hkeyed hcommitted'
  exact ⟨observation', hsettles', fun hopen =>
    (appendFlattenEvent_recorded hthere).1 (hsettles.sameContent hsettles' hopen)⟩

theorem raceable {G : Guard} {w : World} {s : Config Nat Task World Call Call.Answer PyError}
    (hev : w.db.executionEvents = []) (hflatten : w.db.flattenEvents = [])
    (hcon : w.db.canaryPermitConsumptions = []) (hsends : w.sends = []) (h : ReachUnder G w s) :
    Raceable (scene s.view) ∧ Machine.Kept (fun _ _ => passDiscipline) s := by
  have hinit : Unrepeated w.ledger := by
    refine ⟨?_, ?_⟩
    · change Table.Keyed ExecutionEventRecord.key w.db.executionEvents
      rw [hev]
      exact List.nodup_nil
    · change Table.Keyed FlattenEventRecord.key w.db.flattenEvents
      rw [hflatten]
      exact List.nodup_nil
  exact scene_invariant (I := Raceable)
    ⟨hinit, Ownership.init hev hcon hsends, Racing.init hev, FlattenRacing.init hflatten⟩
    (fun _ j hI => ⟨hI.unrepeated, hI.ownership.reset j, hI.racing.reset j, hI.flattenRacing.reset j⟩)
    (fun _ _ hI hs => ⟨⟨hI.unrepeated.events, hI.unrepeated.flattens⟩, hI.ownership.settled hs,
      hI.racing.settled, hI.flattenRacing.settled⟩)
    (fun _ _ _ _ _ _ hI _ hmay heff _ => ⟨hI.unrepeated.effect heff, hI.ownership.call hmay heff,
      hI.racing.call hI.ownership hmay heff, hI.flattenRacing.call hmay heff⟩) h

/--
**Determinations converge, or are refused.** In every state any interleaving of workers reaches,
a request and an occurrence have one event of each type. What a pass is about to append comes
next in the history as it read it. It is taken where none of its type is on record; the same
content on record it converges with, and another refuses it. The two last can only be where it
resolves what another pass had recorded; and what resolves is the record of the tickets its pass
found, so whoever found the same converges. A history without a recovery is on its life cycle, so
nothing recorded later contradicts a determination in it; beside a recovery stands what the owner
heard from the broker, which is on its life cycle by itself; and every occurrence is on its own.

In every run in which nobody adds to a history between a worker's reading and its writing of it,
every history is on its life cycle, recoveries included, and no append that is made so is refused.
-/
theorem determinations_converge {w : World} {s : Config Nat Task World Call Call.Answer PyError}
    (hev : w.db.executionEvents = []) (hflatten : w.db.flattenEvents = [])
    (hcon : w.db.canaryPermitConsumptions = []) (hsends : w.sends = []) (h : Reachable w s) :
    Converged s ∧ (ReachUnder UpToDate w s → Agreed s) := by
  obtain ⟨hrace, hkept⟩ := raceable hev hflatten hcon hsends h
  have hevidenced := evidenced_reachable hev hflatten h
  have hpast : ∀ i q past c k, s.threads i = some ⟨q, past, .call c k⟩ →
      mayCall past c ∧ (scene s.view).past i = past := by
    intro i q past c k ht
    exact ⟨(Conforms.call.mp (hkept i _ ht)).1, by simp [scene, Config.view, ht]⟩
  constructor
  · exact {
      once := hrace.unrepeated.types_nodup
      onceFlatten := hrace.unrepeated.flattenTypes_nodup
      appends := by
        intro i q past e k ht
        obtain ⟨hmay, rfl⟩ := hpast i q past _ k ht
        exact hrace.racing.answered hrace.ownership hmay
      appendsFlatten := by
        intro i q past e k ht
        obtain ⟨hmay, rfl⟩ := hpast i q past _ k ht
        exact hrace.flattenRacing.answered hmay
      found := fun i q past e k ht hresolving => converges_of_found h ht hresolving
      recorded := hevidenced.found
      settled := fun i q past e k ht htype =>
        converges_of_settled h hevidenced hrace.unrepeated.flattens ht htype
      turn := fun r => mem_histories.mp (hrace.racing.raced r).inTurn_mem
      history := fun r hnone => mem_histories.mp ((hrace.racing.raced r).mem_histories hnone)
      hindsighted := fun r t ht hmem => (hrace.racing.raced r).hindsighted ht hmem
      reconciled := fun r before hp => (hrace.racing.raced r).reconciled hp
      historyFlatten := fun f => mem_flattenHistories.mp (hrace.flattenRacing.grammar f) }
  · -- the same run, under the guard: its histories are orderly besides
    intro hup
    obtain ⟨⟨hown, horderly⟩, -⟩ := scene_invariant (G := UpToDate)
      (I := fun S => Ownership S ∧ Orderly S)
      ⟨Ownership.init hev hcon hsends, Orderly.init hev⟩
      (fun _ j hI => ⟨hI.1.reset j, hI.2⟩)
      (fun _ _ hI hs => ⟨hI.1.settled hs, hI.2⟩)
      (fun v j o c a l hI hG hmay heff _ =>
        ⟨hI.1.call hmay heff, hI.2.call hI.1 hmay (hG j o c rfl rfl) heff⟩) hup
    refine ⟨fun r => mem_histories.mp (horderly r), fun i q past c k ht hupto => ?_⟩
    obtain ⟨hmay, rfl⟩ := hpast i q past c k ht
    exact horderly.accepted hown hrace.flattenRacing hmay hupto

/-- A worker that is alone and appends to no occurrence writes on what is there. -/
theorem upToDate_of_alone {w : World} {s : Config Nat Task World Call Call.Answer PyError}
    {i : Nat} (hev : w.db.executionEvents = []) (hcon : w.db.canaryPermitConsumptions = [])
    (hsends : w.sends = [])
    (h : ReachUnder (fun _ m c => m.only i = true ∧ ∀ e, c ≠ some (.appendFlatten e)) w s) :
    ReachUnder UpToDate w s := by
  refine h.mono fun s m hr hg => ?_
  have halone : ReachUnder (Alone i) w s := hr.mono fun _ _ _ hg => hg.1
  -- a worker that is alone knows every history exactly
  have hfaithful := faithful_reachable hev hcon hsends halone
  intro j o c hm hc
  subst hm
  have hj : j = i := of_decide_eq_true hg.1
  subst hj
  cases c with
  | append e => exact hfaithful.exact e.orderRequestId
  | appendFlatten e => exact absurd hc (hg.2 e)
  | _ => trivial

end Crumblr

namespace Crumblr

namespace Sample

/-- A worker that closes no positions itself. -/
def keeper : ExecutionOrchestrator := { worker with flattenCloseAdapter := false }

/--
A worker commits to a flatten. Then two look at it, the first of them while the position is open,
and the first records what it found.
-/
def looking (second : List (Move Nat Task Oracle World.Event)) :
    List (Move Nat Task Oracle World.Event) :=
  .start 0 ⟨keeper, .runOnce⟩ :: exposed overdue "observation" 28
    ++ [.finish 0, .start 0 ⟨keeper, .runOnce⟩, .start 1 ⟨keeper, .runOnce⟩]
    ++ exposed overdue "first" 11 ++ second ++ served 0 1

/-- The second looks after the position closed. -/
def disagreeing : List (Move Nat Task Oracle World.Event) :=
  looking (List.replicate 10
    (.call 1 { calm with replies := { replies with freshId := ⟨"second"⟩ } }))

/-- The second sees it open as well. -/
def agreeing : List (Move Nat Task Oracle World.Event) :=
  looking (List.replicate 12
    (.call 1 { calm with replies := { replies with positions := [overdue], freshId := ⟨"second"⟩ } }))

/-- The step is of worker 0 alone, and does not append to an occurrence. -/
def ownAppend (s : Config Nat Task World Call Call.Answer PyError)
    (m : Move Nat Task Oracle World.Event) : Bool :=
  m.only 0 && match Machine.asked s m with
    | some (.appendFlatten _) => false
    | _ => true

theorem ownAppend_iff {s : Config Nat Task World Call Call.Answer PyError}
    {m : Move Nat Task Oracle World.Event} (h : ownAppend s m = true) :
    m.only 0 = true ∧ ∀ e, Machine.asked s m ≠ some (.appendFlatten e) := by
  obtain ⟨honly, hmatch⟩ := Bool.and_eq_true_iff.mp h
  refine ⟨honly, fun e he => ?_⟩
  rw [he] at hmatch
  cases hmatch

/-- The append is of a determination, and the store has it already. -/
def confirms (db : Database) (e : FlattenEventRecord) : Bool :=
  match db.appendFlattenEvent e with
  | .ok (inserted, _) => decide (inserted = false ∧ e.eventType = .flattenOutcomeResolved)
  | .error _ => false

/-- The append is of a determination, and the store refuses it as contradicting another. -/
def contradicts (db : Database) (e : FlattenEventRecord) : Bool :=
  match db.appendFlattenEvent e with
  | .error err => decide (e.eventType = .flattenOutcomeResolved
      ∧ err.kind = .flattenEventConflict)
  | .ok _ => false

end Sample

open Sample in
/--
Two workers saw different things of one occurrence, and the second's append is refused. And a
recovery said that an order had not been submitted, after which its owner recorded it as filled.
-/
theorem determination_refused :
    (∃ s q past e k err, Reachable Sample.world s
      ∧ s.threads 1 = some ⟨q, past, .call (.appendFlatten e) k⟩
      ∧ e.eventType = .flattenOutcomeResolved
      ∧ s.world.db.appendFlattenEvent e = .error err ∧ err.kind = .flattenEventConflict)
    ∧ ∃ s, Reachable Sample.world s ∧ ∃ e ∈ s.world.db.executionEvents, e.deniesSubmission
      ∧ types (s.world.db.eventsFor e.orderRequestId)
        = committedPrefix ++ [.ambiguousOutcomeResolved, .filled] := by
  constructor
  · have hrun : (workers.run Machine.unchecked (Machine.idle Sample.world) disagreeing).any
        (fun s => (dueFlatten s 1).any fun due => contradicts s.world.db due.2.2) = true := by
      decide +kernel
    obtain ⟨s, hs, hp⟩ := Machine.Reach.exists_of_run (G := Machine.Always) _ _
      (fun _ _ _ => trivial) hrun
    obtain ⟨⟨q, past, e⟩, hdue, hp⟩ := (Option.any_eq_true _ _).mp hp
    obtain ⟨k, ht⟩ := dueFlatten_eq_some hdue
    unfold contradicts at hp
    split at hp
    · rename_i err herr
      obtain ⟨htype, hkind⟩ := of_decide_eq_true hp
      exact ⟨s, q, past, e, k, err, hs, ht, htype, herr, hkind⟩
    · cases hp
  · have hrun : (workers.run Machine.unchecked (Machine.idle Sample.world)
        (overtaken ++ served 0 2)).any (fun s => s.world.db.executionEvents.any fun e =>
          decide (e.deniesSubmission ∧ types (s.world.db.eventsFor e.orderRequestId)
            = committedPrefix ++ [.ambiguousOutcomeResolved, .filled])) = true := by decide +kernel
    obtain ⟨s, hs, hp⟩ := Machine.Reach.exists_of_run (G := Machine.Always) _ _
      (fun _ _ _ => trivial) hrun
    obtain ⟨e, he, hp⟩ := List.any_eq_true.mp hp
    exact ⟨s, hs, e, he, of_decide_eq_true hp⟩

open Sample in
theorem determinations_converge_sample :
    (∃ s, ReachUnder UpToDate Sample.world s
      ∧ types (s.world.db.eventsFor (orderRequestIdFor intent)) = committedPrefix ++ [.filled]
      ∧ Converged s ∧ Agreed s)
    ∧ ∃ s q past e k, Reachable Sample.world s ∧ Converged s
      ∧ s.threads 1 = some ⟨q, past, .call (.appendFlatten e) k⟩
      ∧ e.eventType = .flattenOutcomeResolved
      ∧ s.world.db.appendFlattenEvent e = .ok (false, s.world.db) := by
  constructor
  · have hrun : (workers.run ownAppend (Machine.idle Sample.world) (submission ++ served 0 2)).any
        (fun s => decide (types (s.world.db.eventsFor (orderRequestIdFor intent))
          = committedPrefix ++ [.filled])) = true := by decide +kernel
    obtain ⟨s, hs, hp⟩ := Machine.Reach.exists_of_run
      (G := fun _ m c => m.only 0 = true ∧ ∀ e, c ≠ some (.appendFlatten e)) _ _
      (fun _ _ hm => ownAppend_iff hm) hrun
    have hup : ReachUnder UpToDate Sample.world s := upToDate_of_alone rfl rfl rfl hs
    have hconverge := determinations_converge rfl rfl rfl rfl (hs.mono fun _ _ _ _ => trivial)
    exact ⟨s, hup, of_decide_eq_true hp, hconverge.1, hconverge.2 hup⟩
  · have hrun : (workers.run Machine.unchecked (Machine.idle Sample.world) agreeing).any
        (fun s => (dueFlatten s 1).any fun due => confirms s.world.db due.2.2) = true := by
      decide +kernel
    obtain ⟨s, hs, hp⟩ := Machine.Reach.exists_of_run (G := Machine.Always) _ _
      (fun _ _ _ => trivial) hrun
    obtain ⟨⟨q, past, e⟩, hdue, hp⟩ := (Option.any_eq_true _ _).mp hp
    obtain ⟨k, ht⟩ := dueFlatten_eq_some hdue
    unfold confirms at hp
    split at hp
    · rename_i inserted db happend
      obtain ⟨rfl, htype⟩ := of_decide_eq_true hp
      rcases appendFlattenEvent_ok happend with ⟨hnew, -⟩ | ⟨-, rfl, -⟩
      · cases hnew
      · exact ⟨s, q, past, e, k, hs, (determinations_converge rfl rfl rfl rfl hs).1, ht, htype,
          happend⟩
    · cases hp

end Crumblr
