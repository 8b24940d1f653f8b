import Crumblr.Application.Placements
import Crumblr.Proof.AfterCommitment
import Crumblr.Proof.AtMostOnce
import Crumblr.Proof.Exposure
import Crumblr.Proof.Outcomes

/-!
# What a rejection stands for

The gateway reads every return code it does not know as a rejection, the timeout and the
lost connection among them, though these do not tell whether the order was executed.
Apart from them a recorded rejection is the terminal's word that nothing happened: each
request has one order, and what is recorded of it was read off that order's reply.
-/

namespace Crumblr

/-! ## What a reply tells -/

/-- The code does tell what became of the order. -/
def RetcodeTable.Conclusive (module : RetcodeTable) (retcode : Int) : Prop :=
  retcode ≠ module.timeout ∧ retcode ≠ module.connection

/-- The code says that the order was not executed. -/
def RetcodeTable.Refuses (module : RetcodeTable) (retcode : Int) : Prop :=
  retcode ≠ module.done ∧ retcode ≠ module.donePartial ∧ retcode ≠ module.placed
    ∧ module.Conclusive retcode

/-- A reply was read, and tells what became of the order. -/
def Placement.Tells (module : RetcodeTable) (p : Placement) : Prop :=
  ∃ result reply, p.answer = .ok result ∧ p.reply = some reply ∧ module.Conclusive reply.retcode

/-- For all that is known, the order may have been executed. -/
def Placement.MayBeExecuted (module : RetcodeTable) (p : Placement) : Prop :=
  p.executed = true ∨ ¬ p.Tells module

/-- Nothing on record says that the request left no order behind, but for the verdict of a
recovery: it was never rejected, and its exposure is not determined. -/
structure Undenied (db : Database) (orderRequestId : Uuid) : Prop where
  unrejected : .rejected ∉ types (db.eventsFor orderRequestId)
  undetermined : ∀ histories flattens exposure,
    deriveExpectedExposure histories flattens = .ok exposure →
    (histories.map Prod.fst).Nodup →
    (orderRequestId, db.eventsFor orderRequestId) ∈ histories →
    orderRequestId ∈ exposure.determinedRequestIds →
    .ambiguousOutcomeResolved ∈ types (db.eventsFor orderRequestId)

/-- The next recovery looks the request up by its magic number, or one has done so. -/
def OpenToRecovery (db : Database) (orderRequestId : Uuid) : Prop :=
  (types (db.eventsFor orderRequestId)).getLast? = some .submissionStarted
    ∨ .ambiguousOutcomeResolved ∈ types (db.eventsFor orderRequestId)

/-- **A rejection means that nothing happened.** -/
def RejectedMeansNothing (module : RetcodeTable) (w : BrokeredWorld) : Prop :=
  ∀ p ∈ w.placements, p.MayBeExecuted module →
    Undenied w.world.db p.order.orderRequestId
      ∧ (¬ p.Tells module → OpenToRecovery w.world.db p.order.orderRequestId)

section

variable [Externals]

/-- A condition on the steps of workers at one terminal. -/
abbrev TerminalGuard : Type :=
  Machine.Guard Nat Task TerminalOracle World.Event BrokeredWorld Call Call.Answer PyError

/-- Of the terminal: a code that refuses means that the order was not executed. -/
def Honest (module : RetcodeTable) : TerminalGuard := fun _ m c =>
  match m, c with
  | .call _ o, some (.orderSend _) =>
      ∀ reply ∈ o.replied, module.Refuses reply.retcode → o.executed = false
  | _, _ => True

/-- No reply that could be read says that the terminal timed out or lost its connection. -/
def Answered (module : RetcodeTable) : TerminalGuard := fun _ m c =>
  match m, c with
  | .call _ o, some (.orderSend order) =>
      ∀ result, o.answer module order = .ok result →
        ∀ reply ∈ o.replied, module.Conclusive reply.retcode
  | _, _ => True

/-- Both hold of a step. -/
def HonestAnswered (module : RetcodeTable) : TerminalGuard :=
  fun v m c => Honest module v m c ∧ Answered module v m c

/-- What workers at one terminal reach from a world in which no order was placed. -/
abbrev BrokeredReach (module : RetcodeTable) (G : TerminalGuard) (w : World)
    (s : Config Nat Task BrokeredWorld Call Call.Answer PyError) : Prop :=
  Machine.Reach (brokered module) G (Machine.idle ⟨w, []⟩) s

variable {module : RetcodeTable} {G : TerminalGuard} {w : World}
  {s s' : Config Nat Task BrokeredWorld Call Call.Answer PyError}

/-! ## What is on record, and whence -/

/-- **The record and the broker's side belong together.** -/
structure Accounted (module : RetcodeTable)
    (s : Config Nat Task BrokeredWorld Call Call.Answer PyError) : Prop where
  /-- An order that was sent is accounted for, and no other. -/
  placed : s.world.placements.map (·.order.orderRequestId)
    = s.world.world.sends.map (·.order.orderRequestId)
  /-- What a pass was told of an order is what was placed. -/
  heard : ∀ i t order result, s.threads i = some t → ⟨.orderSend order, .ok result⟩ ∈ t.past →
    ∃ p ∈ s.world.placements, p.order = order ∧ p.answer = .ok result
  /-- What a pass has read of a history is on record. -/
  read : ∀ i t r events, s.threads i = some t → ⟨.eventsFor r, .ok events⟩ ∈ t.past →
    ∀ e ∈ events, e ∈ s.world.world.db.executionEvents ∧ e.orderRequestId = r
  /-- An outcome on record was read off a reply. -/
  grounded : ∀ e ∈ s.world.world.db.executionEvents, e.eventType ∈ brokerOutcomes →
    ∃ p ∈ s.world.placements, p.order.orderRequestId = e.orderRequestId
      ∧ ∃ result, p.answer = .ok result ∧ (e.eventType = .rejected → result.state = .rejected)
  /-- A reply that was read is conclusive, and a refusal is true. -/
  conclusive : ∀ p ∈ s.world.placements, ∀ result, p.answer = .ok result →
    p.Tells module ∧ (result.state = .rejected → p.executed = false)

omit [Externals] in
theorem normalized_rejected {result : ExecutionResult} {payload : Json}
    (h : normalizeExecutionResult result = .ok (.rejected, payload)) :
    result.state = .rejected := by
  unfold normalizeExecutionResult at h
  cases hs : result.state <;> rw [hs] at h <;> cases h

omit [Externals] in
/-- A state is a rejection when the code is none of the three. -/
theorem orderStateOf_rejected {retcode : Int} (h : orderStateOf module retcode = .rejected) :
    retcode ≠ module.done ∧ retcode ≠ module.donePartial ∧ retcode ≠ module.placed := by
  unfold orderStateOf at h
  split at h
  · cases h
  split at h
  · cases h
  split at h
  · cases h
  · exact ⟨‹_›, ‹_›, ‹_›⟩

/-- The workers' side of what workers at a terminal reach. -/
theorem BrokeredReach.workers (h : BrokeredReach module G w s) :
    Reachable w (Machine.forget BrokeredWorld.world s) :=
  brokered_refines.reach h

namespace Accounted

omit [Externals] in
theorem init (hev : w.db.executionEvents = []) (hsends : w.sends = []) :
    Accounted module (Machine.idle ⟨w, []⟩) where
  placed := by simp [Machine.idle, hsends]
  heard := by intro i t order result ht; cases ht
  read := by intro i t r events ht; cases ht
  grounded := by
    intro e he
    simp [Machine.idle, hev] at he
  conclusive := by intro p hp; cases hp

omit [Externals] in
/-- A thread that starts over, or stops, has nothing behind it. -/
theorem reset (h : Accounted module s) {i : Nat} {x : Option (Thread Task Call Call.Answer PyError)}
    {v : BrokeredWorld} (hx : ∀ t, x = some t → t.past = [])
    (hplaced : v.placements = s.world.placements)
    (hsends : v.world.sends.map (·.order.orderRequestId)
      = s.world.world.sends.map (·.order.orderRequestId))
    (hev : v.world.db.executionEvents = s.world.world.db.executionEvents) :
    Accounted module (Machine.set { s with world := v } i x) where
  placed := by
    show v.placements.map _ = v.world.sends.map _
    rw [hplaced, hsends]
    exact h.placed
  heard := by
    intro j t order result ht hmem
    show ∃ p ∈ v.placements, _
    rw [hplaced]
    by_cases hj : j = i
    · subst hj
      rw [hx t (by simpa [Machine.set] using ht)] at hmem
      cases hmem
    · exact h.heard j t order result (by simpa [Machine.set, hj] using ht) hmem
  read := by
    intro j t r events ht hmem e he
    show e ∈ v.world.db.executionEvents ∧ _
    rw [hev]
    by_cases hj : j = i
    · subst hj
      rw [hx t (by simpa [Machine.set] using ht)] at hmem
      cases hmem
    · exact h.read j t r events (by simpa [Machine.set, hj] using ht) hmem e he
  grounded := by
    show ∀ e ∈ v.world.db.executionEvents, _ → ∃ p ∈ v.placements, _
    rw [hev, hplaced]
    exact h.grounded
  conclusive := by
    show ∀ p ∈ v.placements, _
    rw [hplaced]
    exact h.conclusive

/-- A history that is read is read as it is on record. -/
theorem read_on_record {w : World} {o : Oracle} {i : Nat} {r : Uuid}
    {events : List ExecutionEventRecord} (h : (w.serve o i (.eventsFor r)).1 = .ok events)
    {e : ExecutionEventRecord} (he : e ∈ events) :
    e ∈ w.db.executionEvents ∧ e.orderRequestId = r := by
  have hread : events = w.db.eventsFor r := by
    unfold World.serve at h
    split at h
    · cases h
    · exact (Except.ok.inj h).symm
  rw [hread] at he
  simpa [Database.eventsFor] using he

/-- Everything a call adds is accounted for. -/
theorem called (h : Accounted module s) {i : Nat} {o : TerminalOracle} {q : Task} {past : Past}
    {c : Call} {k : Except PyError c.Answer → Pass Unit}
    (ht : s.threads i = some ⟨q, past, .call c k⟩) (hallow : outcomeDiscipline.allows past c)
    (hg : HonestAnswered module s.view (.call i o) (some c)) :
    Accounted module (Machine.set
      { s with world := ((brokered module).serve o i s.world c).2 } i
      (some ⟨q, ⟨c, ((brokered module).serve o i s.world c).1⟩ :: past,
        k ((brokered module).serve o i s.world c).1⟩)) := by
  have heffect := serve_effect (o.seen module c) i s.world.world c
  have hsub : s.world.placements ⊆ ((brokered module).serve o i s.world c).2.placements :=
    List.subset_append_left ..
  obtain ⟨es, hgrown, hnew⟩ := serve_grows s.world.world (o.seen module c) i c
  have hmono : ∀ e ∈ s.world.world.db.executionEvents,
      e ∈ (s.world.world.serve (o.seen module c) i c).2.db.executionEvents := by
    intro e he
    rw [hgrown]
    exact List.mem_append_left _ he
  refine ⟨?_, ?_, ?_, ?_, ?_⟩
  · show (s.world.placements ++ o.placed module c).map _
      = (s.world.world.serve (o.seen module c) i c).2.sends.map _
    rw [List.map_append, h.placed]
    rcases heffect.sends with ⟨order, fate, rfl, hsends⟩ | ⟨hnone, hsends⟩
    · rw [show (s.world.world.serve _ i _).2.sends = s.world.world.sends ++ [⟨order, fate⟩] from
        hsends, List.map_append]
      rfl
    · rw [show (s.world.world.serve _ i _).2.sends = s.world.world.sends from hsends]
      have hempty : o.placed module c = [] := by
        cases c <;> first | rfl | exact absurd rfl (hnone _)
      simp [hempty]
  · intro j t order result hj hmem
    by_cases hji : j = i
    · subst hji
      obtain rfl : t = ⟨q, ⟨c, ((brokered module).serve o j s.world c).1⟩ :: past, _⟩ := by
        simpa [Machine.set] using hj.symm
      rcases List.mem_cons.mp hmem with heq | hmem
      · obtain ⟨rfl, ha⟩ := Sigma.mk.inj_iff.mp heq
        have hanswer : o.answer module order = .ok result := by
          rw [← brokered_answer o j s.world order]
          exact (eq_of_heq ha).symm
        exact ⟨⟨order, o.replied, o.answer module order, o.executed⟩,
          List.mem_append_right _ (List.mem_singleton_self _), rfl, hanswer⟩
      · obtain ⟨p, hp, hrest⟩ := h.heard j _ order result ht hmem
        exact ⟨p, hsub hp, hrest⟩
    · obtain ⟨p, hp, hrest⟩ := h.heard j t order result (by simpa [Machine.set, hji] using hj) hmem
      exact ⟨p, hsub hp, hrest⟩
  · intro j t r events hj hmem e he
    by_cases hji : j = i
    · subst hji
      obtain rfl : t = ⟨q, ⟨c, ((brokered module).serve o j s.world c).1⟩ :: past, _⟩ := by
        simpa [Machine.set] using hj.symm
      rcases List.mem_cons.mp hmem with heq | hmem
      · obtain ⟨rfl, ha⟩ := Sigma.mk.inj_iff.mp heq
        obtain ⟨hin, hid⟩ := read_on_record (eq_of_heq ha).symm he
        exact ⟨hmono e hin, hid⟩
      · obtain ⟨hin, hid⟩ := h.read j _ r events ht hmem e he
        exact ⟨hmono e hin, hid⟩
    · obtain ⟨hin, hid⟩ := h.read j t r events (by simpa [Machine.set, hji] using hj) hmem e he
      exact ⟨hmono e hin, hid⟩
  · intro e he hout
    have he' : e ∈ s.world.world.db.executionEvents ++ es := hgrown ▸ he
    rcases List.mem_append.mp he' with hold | hadded
    · obtain ⟨p, hp, hrest⟩ := h.grounded e hold hout
      exact ⟨p, hsub hp, hrest⟩
    rcases hnew e hadded with rfl | hstarted
    · -- the pass was told, or found the fill of a resting order
      rcases hallow hout with ⟨order, result, payload, hmem, hid, hn⟩
        | ⟨hfilled, events, hmem, last, hlast, hsubmitted⟩
      · obtain ⟨p, hp, rfl, hanswer⟩ := h.heard i _ order result ht hmem
        refine ⟨p, hsub hp, hid, result, hanswer, fun hrej => ?_⟩
        rw [hrej] at hn
        exact normalized_rejected hn
      · obtain ⟨hin, hid⟩ := h.read i _ e.orderRequestId events ht hmem last hlast
        obtain ⟨p, hp, hpid, result, hanswer, -⟩ :=
          h.grounded last hin (by rw [hsubmitted]; decide)
        refine ⟨p, hsub hp, hpid.trans hid, result, hanswer, fun hrej => ?_⟩
        rw [hfilled] at hrej
        cases hrej
    · rw [hstarted] at hout
      exact absurd hout (by decide)
  · intro p hp result hanswer
    rcases List.mem_append.mp hp with hp | hp
    · exact h.conclusive p hp result hanswer
    · cases c with
      | orderSend order =>
          obtain rfl := List.mem_singleton.mp hp
          obtain ⟨reply, hreply, hstate⟩ := answer_ok hanswer
          have hconclusive := hg.2 result hanswer reply hreply
          refine ⟨⟨result, reply, hanswer, hreply, hconclusive⟩, fun hrej => ?_⟩
          obtain ⟨hdone, hpartial, hplaced⟩ := orderStateOf_rejected (hstate.symm.trans hrej)
          exact hg.1 reply hreply ⟨hdone, hpartial, hplaced, hconclusive⟩
      | _ => cases hp

end Accounted

/-- **In every state workers at an honest, answering terminal reach, all is accounted for.** -/
theorem accounted_reachable (hev : w.db.executionEvents = []) (hsends : w.sends = [])
    (h : BrokeredReach module (HonestAnswered module) w s) : Accounted module s := by
  induction h with
  | init => exact .init hev hsends
  | @tail s s' m hr hg hs ih =>
      have hworkers : Reachable w (Machine.forget BrokeredWorld.world s) :=
        BrokeredReach.workers hr
      rcases Machine.step_cases hs with ⟨i, q, rfl, -, rfl⟩ | ⟨i, o, q, past, c, k, rfl, ht, rfl⟩
        | ⟨i, t, rfl, -, rfl⟩ | ⟨i, rfl, rfl⟩ | ⟨n, rfl, rfl⟩
      · refine ih.reset (v := s.world) ?_ rfl rfl rfl
        rintro t ⟨⟩
        rfl
      · have hasked : Machine.asked s (.call i o : Move Nat Task TerminalOracle World.Event)
            = some c := by
          simp [Machine.asked, ht]
        rw [hasked] at hg
        refine ih.called ht ?_ hg
        exact reachable_allowed (D := fun _ => outcomeDiscipline) program_grounds (fun _ => rfl)
          hworkers ht
      · exact ih.reset (v := s.world) (fun _ h => by cases h) rfl rfl rfl
      · exact ih.reset (v := (brokered module).restart i s.world) (fun _ h => by cases h)
          rfl rfl rfl
      · obtain ⟨sends, hl, hset⟩ := nature_ledger n s.world.world
        have hev' : (World.nature n s.world.world).db.executionEvents
            = s.world.world.db.executionEvents := congrArg Ledger.events hl
        have hsends' : (World.nature n s.world.world).sends.map (·.order.orderRequestId)
            = s.world.world.sends.map (·.order.orderRequestId) := by
          rw [show (World.nature n s.world.world).sends = sends from congrArg Ledger.sends hl]
          have hids := congrArg (List.map (·.orderRequestId)) (Ownership.settled_orders hset)
          simpa [List.map_map, Function.comp_def] using hids
        exact ⟨ih.placed.trans hsends'.symm, ih.heard,
          fun j t r events ht hmem e he => by
            show e ∈ (World.nature n s.world.world).db.executionEvents ∧ _
            rw [hev']
            exact ih.read j t r events ht hmem e he,
          fun e he => ih.grounded e (hev' ▸ he), ih.conclusive⟩

/-! ## What follows for a request -/

omit [Externals] in
theorem mem_types_eventsFor {db : Database} {r : Uuid} {t : ExecutionEventType}
    (h : t ∈ types (db.eventsFor r)) :
    ∃ e ∈ db.executionEvents, e.orderRequestId = r ∧ e.eventType = t := by
  obtain ⟨e, he, rfl⟩ := List.mem_map.mp h
  simp only [Database.eventsFor, List.mem_filter, decide_eq_true_eq] at he
  exact ⟨e, he.1, he.2, rfl⟩

omit [Externals] in
/-- A request that was determined was rejected or resolved. -/
theorem mem_of_determined {db : Database} {r : Uuid}
    {histories : List (Uuid × List ExecutionEventRecord)}
    {flattens : List (Uuid × List FlattenEventRecord)} {exposure : DerivedExposure}
    (h : deriveExpectedExposure histories flattens = .ok exposure)
    (hnodup : (histories.map Prod.fst).Nodup) (hmem : (r, db.eventsFor r) ∈ histories)
    (hd : r ∈ exposure.determinedRequestIds) :
    .rejected ∈ types (db.eventsFor r) ∨ .ambiguousOutcomeResolved ∈ types (db.eventsFor r) := by
  obtain ⟨events, one, hmem', hone, hsome⟩ := determined_of_derive h hd
  obtain rfl : events = db.eventsFor r :=
    (Prod.mk.inj (List.inj_on_of_nodup_map hnodup hmem' hmem rfl)).2
  obtain ⟨e, he, ht⟩ := requestExposure_determined hone hsome
  have hin : e ∈ db.eventsFor r := by
    have hfound := List.mem_of_find?_eq_some he
    exact List.mem_reverse.mp hfound
  rcases ht with ht | ht
  · exact .inl (List.mem_map.mpr ⟨e, hin, ht⟩)
  · exact .inr (List.mem_map.mpr ⟨e, hin, ht⟩)

omit [Externals] in
/-- **What the account says of one placement.** -/
theorem Accounted.meansNothing (hacc : Accounted module s)
    (hown : Ownership (scene (Machine.forget BrokeredWorld.world s).view))
    (hsealed : Sealed (scene (Machine.forget BrokeredWorld.world s).view)) :
    RejectedMeansNothing module s.world := by
  intro p hp hmay
  -- the request has this one placement
  have honly : ∀ p' ∈ s.world.placements,
      p'.order.orderRequestId = p.order.orderRequestId → p' = p := by
    have hnodup : (s.world.placements.map (·.order.orderRequestId)).Nodup := by
      rw [hacc.placed]
      exact hown.once
    exact fun p' hp' hid => List.inj_on_of_nodup_map hnodup hp' hp hid
  have hrejected : .rejected ∉ types (s.world.world.db.eventsFor p.order.orderRequestId) := by
    intro hmem
    obtain ⟨e, he, hid, htype⟩ := mem_types_eventsFor hmem
    obtain ⟨p', hp', hpid, result, hanswer, hstate⟩ :=
      hacc.grounded e he (by rw [htype]; decide)
    obtain rfl := honly p' hp' (hpid.trans hid)
    obtain ⟨htells, hnot⟩ := hacc.conclusive p' hp' result hanswer
    rcases hmay with hexecuted | huntold
    · rw [hnot (hstate htype)] at hexecuted
      cases hexecuted
    · exact huntold htells
  refine ⟨⟨hrejected, ?_⟩, fun huntold => ?_⟩
  · intro histories flattens exposure h hnodup hmem hd
    exact (mem_of_determined h hnodup hmem hd).resolve_left hrejected
  · -- no reply of it was read, so none is on record
    have hsilent : ∀ t ∈ brokerOutcomes,
        t ∉ types (s.world.world.db.eventsFor p.order.orderRequestId) := by
      intro t ht hmem
      obtain ⟨e, he, hid, htype⟩ := mem_types_eventsFor hmem
      obtain ⟨p', hp', hpid, result, hanswer, -⟩ := hacc.grounded e he (by rw [htype]; exact ht)
      obtain rfl := honly p' hp' (hpid.trans hid)
      exact huntold (hacc.conclusive p' hp' result hanswer).1
    have hsent : p.order.orderRequestId ∈ s.world.world.sends.map (·.order.orderRequestId) := by
      rw [← hacc.placed]
      exact List.mem_map_of_mem hp
    obtain ⟨x, hx, hid⟩ := List.mem_map.mp hsent
    have hstarted : .submissionStarted
        ∈ types (s.world.world.db.eventsFor p.order.orderRequestId) := by
      rw [← hid]
      exact (hown.sent x hx).started
    obtain ⟨t, hlate, hlast⟩ := hsealed.recorded p.order.orderRequestId hstarted
    have hthere := List.mem_of_getLast? hlast
    simp only [late, List.mem_cons, List.not_mem_nil, or_false] at hlate
    rcases hlate with rfl | rfl | rfl | rfl | rfl | rfl
    · exact .inl hlast
    · exact absurd hthere (hsilent _ (by decide))
    · exact absurd hthere (hsilent _ (by decide))
    · exact absurd hthere (hsilent _ (by decide))
    · exact .inr hthere
    · exact .inr ((hsealed.reconciled _ hthere).resolve_left (hsilent _ (by decide)))

/--
**A rejection means that nothing happened, unless a timeout or a lost connection is taken
for one.** In every run of any number of workers at an honest terminal in which no reply
that could be read says either, a request whose order was executed, or may still be, is
never rejected on record and its exposure never determined but by a recovery; and one
whose reply does not tell stays open to a recovery.
-/
theorem rejected_means_nothing (hev : w.db.executionEvents = [])
    (hcon : w.db.canaryPermitConsumptions = []) (hsends : w.sends = [])
    (h : BrokeredReach module (HonestAnswered module) w s) :
    RejectedMeansNothing module s.world := by
  obtain ⟨hown, hsealed⟩ := sealed_reachable hev hcon hsends (BrokeredReach.workers h)
  exact (accounted_reachable hev hsends h).meansNothing hown hsealed

end

/-! ## Runs at a terminal -/

namespace Sample

/-- The codes of the package. -/
def retcodes : RetcodeTable where
  done := 10009
  donePartial := 10010
  placed := 10008
  timeout := 10012
  connection := 10031

/-- A reply with the given code and no ticket. -/
def replyOf (retcode : Int) : OrderSendReply := ⟨retcode, "", 0, 0, some 0, some 0⟩

/-- Nothing fails; an order is answered as given, and executed. -/
def executing (reply : Option OrderSendReply) : TerminalOracle := ⟨calm, reply, (0, ""), true⟩

/-- One worker takes its capsule through to the broker's answer, and records it. -/
def placing (reply : Option OrderSendReply) :
    List (Move Nat Task TerminalOracle World.Event) :=
  .start 0 ⟨worker, .runOnce⟩ :: List.replicate 43 (.call 0 (executing reply))

/-- The terminal is honest: an order it executed it does not refuse. -/
def honest : Config Nat Task BrokeredWorld Call Call.Answer PyError →
    Move Nat Task TerminalOracle World.Event → Bool
  | _, .call _ o => o.replied.all fun reply =>
      !o.executed || [retcodes.done, retcodes.donePartial, retcodes.placed, retcodes.timeout,
        retcodes.connection].contains reply.retcode
  | _, _ => true

/-- It neither times out nor loses the connection, either. -/
def honestAnswered (s : Config Nat Task BrokeredWorld Call Call.Answer PyError)
    (m : Move Nat Task TerminalOracle World.Event) : Bool :=
  honest s m && match m with
    | .call _ o => o.replied.all fun reply =>
        decide (reply.retcode ≠ retcodes.timeout) && decide (reply.retcode ≠ retcodes.connection)
    | _ => true

theorem honest_of_check (s : Config Nat Task BrokeredWorld Call Call.Answer PyError)
    (m : Move Nat Task TerminalOracle World.Event) (h : honest s m = true) :
    Honest retcodes s.view m (Machine.asked s m) := by
  cases m with
  | call i o =>
      unfold Honest
      split
      · rename_i hm _
        cases hm
        rintro reply hreply ⟨hdone, hpartial, hplaced, htimeout, hconnection⟩
        rw [Option.mem_def] at hreply
        simp only [honest, hreply, Option.all_some, Bool.or_eq_true, Bool.not_eq_true',
          List.contains_iff_mem, List.mem_cons, List.not_mem_nil, or_false] at h
        rcases h with h | h | h | h | h | h
        · exact h
        · exact absurd h hdone
        · exact absurd h hpartial
        · exact absurd h hplaced
        · exact absurd h htimeout
        · exact absurd h hconnection
      · trivial
  | _ => trivial

theorem honestAnswered_of_check (s : Config Nat Task BrokeredWorld Call Call.Answer PyError)
    (m : Move Nat Task TerminalOracle World.Event) (h : honestAnswered s m = true) :
    HonestAnswered retcodes s.view m (Machine.asked s m) := by
  simp only [honestAnswered, Bool.and_eq_true] at h
  obtain ⟨hhonest, hanswered⟩ := h
  refine ⟨honest_of_check s m hhonest, ?_⟩
  cases m with
  | call i o =>
      unfold Answered
      split
      · rename_i hm _
        cases hm
        intro result _ reply hreply
        rw [Option.mem_def] at hreply
        simp only [hreply, Option.all_some, Bool.and_eq_true, decide_eq_true_eq] at hanswered
        exact hanswered
      · trivial
  | _ => trivial

end Sample

open Sample in
theorem rejected_means_nothing_sample :
    ∃ s, BrokeredReach retcodes (HonestAnswered retcodes) Sample.world s
      ∧ (∃ p ∈ s.world.placements, p.executed = true)
      ∧ RejectedMeansNothing retcodes s.world := by
  have hrun : ((brokered retcodes).run honestAnswered (Machine.idle ⟨Sample.world, []⟩)
      (placing (some (replyOf 10009)))).any
      (fun s => s.world.placements.any (·.executed)) = true := by decide +kernel
  obtain ⟨s, hs, hp⟩ := Machine.Reach.exists_of_run _ _ honestAnswered_of_check hrun
  obtain ⟨p, hp, hexecuted⟩ := List.any_eq_true.mp hp
  exact ⟨s, hs, ⟨p, hp, hexecuted⟩, rejected_means_nothing rfl rfl rfl hs⟩

open Sample in
/-- **A timeout is taken for a rejection.** The order was executed; the request is recorded
as rejected and counted as determined, with no position. -/
theorem timeout_rejected :
    ∃ s, BrokeredReach retcodes (Honest retcodes) Sample.world s
      ∧ ¬ RejectedMeansNothing retcodes s.world
      ∧ ∃ p ∈ s.world.placements, p.executed = true
        ∧ (types (s.world.world.db.eventsFor p.order.orderRequestId)).getLast? = some .rejected
        ∧ ∃ exposure, deriveExpectedExposure [(p.order.orderRequestId,
            s.world.world.db.eventsFor p.order.orderRequestId)] [] = .ok exposure
          ∧ exposure.ticketsByRequest = [(p.order.orderRequestId, [])]
          ∧ p.order.orderRequestId ∈ exposure.determinedRequestIds := by
  have hrun : ((brokered retcodes).run honest (Machine.idle ⟨Sample.world, []⟩)
      (placing (some (replyOf 10012)))).any (fun s => s.world.placements.any fun p =>
        p.executed && decide ((types (s.world.world.db.eventsFor p.order.orderRequestId)).getLast?
          = some .rejected)
        && decide ((lastExposureRelevant (s.world.world.db.eventsFor
          p.order.orderRequestId)).map (·.eventType) = some .rejected)) = true := by
    decide +kernel
  obtain ⟨s, hs, hp⟩ := Machine.Reach.exists_of_run _ _ honest_of_check hrun
  obtain ⟨p, hp, hboth⟩ := List.any_eq_true.mp hp
  simp only [Bool.and_eq_true, decide_eq_true_eq] at hboth
  obtain ⟨⟨hexecuted, hlast⟩, hrelevant⟩ := hboth
  refine ⟨s, hs, fun hmeans => ?_, p, hp, hexecuted, hlast, ?_⟩
  · exact (hmeans p hp (.inl hexecuted)).1.unrejected (List.mem_of_getLast? hlast)
  · obtain ⟨e, he, ht⟩ := Option.map_eq_some_iff.mp hrelevant
    have hone : requestExposure p.order.orderRequestId
        (s.world.world.db.eventsFor p.order.orderRequestId) = .ok ⟨some [], none, []⟩ := by
      simp [requestExposure, he, ht]
    refine ⟨⟨[], [], [], [(p.order.orderRequestId, [])], [p.order.orderRequestId], []⟩, ?_, rfl,
      List.mem_singleton_self _⟩
    simp only [deriveExpectedExposure, gatherExposure, hone]
    rfl

end Crumblr
