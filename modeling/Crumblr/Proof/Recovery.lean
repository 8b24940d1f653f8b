import Crumblr.Proof.OneWorker

/-!
# When a recovery may deny a submission

A pass that lost the claim and finds a history stopped at its commitment looks for
a position, then for a resting order, and when it sees neither it records that
nothing was submitted. Absence is evidence only under conditions on the moment it
reads the resting orders, having found no position:

* no other worker is between that commitment and the end of its `order_send`;
* no order of the request is still on its way to the broker;
* an order of the request that did reach the broker is among the resting orders.

From that moment on, no order of the request can come or change any more: what was
committed is committed, and its orders have settled. So what the reading misses is
not there.
-/

namespace Crumblr

open ExecutionOrchestrator

/-- No order of `r` can come or change any more. -/
structure Quiescent (S : Scene) (r : Uuid) : Prop where
  /-- The commitment is made. -/
  started : .submissionStarted ∈ types (S.ledger.eventsFor r)
  /-- No order is due. -/
  notDue : ∀ j, ¬ JustCommitted (S.past j) r
  /-- No order is on its way. -/
  landed : ∀ x ∈ S.ledger.sends, x.order.orderRequestId = r → x.fate ≠ .wire

/-- No order of `r` reached the broker, and none can. -/
structure NeverSubmitted (S : Scene) (r : Uuid) : Prop extends Quiescent S r where
  lost : ∀ x ∈ S.ledger.sends, x.order.orderRequestId = r → x.fate = .lost

variable {S : Scene} {i : Nat} {r : Uuid} {c : Call} {a : Except PyError c.Answer} {l : Ledger}

/-! ## What has come to rest stays at rest -/

theorem Quiescent.reset (h : Quiescent S r) : Quiescent (S.reset i) r where
  started := h.started
  notDue := by
    intro j hj
    rcases S.reset_past (i := i) j with hp | hp <;> rw [hp] at hj
    · obtain ⟨_, _, _, _, hj⟩ := hj
      cases hj
    · exact h.notDue j hj
  landed := h.landed

/-- An order that has landed is not touched again. -/
theorem settled_landed {sends sends' : List Send} (h : List.Forall₂ SettledFrom sends sends')
    (hr : ∀ x ∈ sends, x.order.orderRequestId = r → x.fate ≠ .wire) :
    ∀ x ∈ sends', x.order.orderRequestId = r → x ∈ sends := by
  induction h with
  | nil => intro x hx; cases hx
  | cons hs _ ih =>
      rename_i s s' rest rest' _
      intro x hx hid
      rcases List.mem_cons.mp hx with rfl | hx
      · have hsame := hs.2 (hr s (List.mem_cons_self ..) (by rw [← hs.1]; exact hid))
        rw [hsame]
        exact List.mem_cons_self ..
      · exact List.mem_cons_of_mem _
          (ih (fun x hx => hr x (List.mem_cons_of_mem _ hx)) x hx hid)

theorem Quiescent.settled {sends : List Send} (h : Quiescent S r)
    (hs : List.Forall₂ SettledFrom S.ledger.sends sends) : Quiescent (S.settled sends) r where
  started := h.started
  notDue := h.notDue
  landed := fun x hx hid => h.landed x (settled_landed hs h.landed x hx hid) hid

theorem NeverSubmitted.reset (h : NeverSubmitted S r) : NeverSubmitted (S.reset i) r :=
  ⟨h.toQuiescent.reset, h.lost⟩

theorem NeverSubmitted.settled {sends : List Send} (h : NeverSubmitted S r)
    (hs : List.Forall₂ SettledFrom S.ledger.sends sends) : NeverSubmitted (S.settled sends) r :=
  ⟨h.toQuiescent.settled hs,
    fun x hx hid => h.lost x (settled_landed hs h.landed x hx hid) hid⟩

section

variable [Externals]

/-- What a call leaves of the orders of `r` and of the one that is due. -/
theorem Quiescent.frame (h : Quiescent S r) (hown : Ownership S) (hmay : mayCall (S.past i) c)
    (heff : Effect S.ledger c a l) :
    S.ledger.events ⊆ l.events
      ∧ (∀ x ∈ l.sends, x.order.orderRequestId = r → x ∈ S.ledger.sends)
      ∧ ¬ JustCommitted ((S.called i c a l).past i) r := by
  have hnotdue : (∀ permitId r' now payload, c ≠ .consumeAndStart permitId r' now payload) →
      ¬ JustCommitted ((S.called i c a l).past i) r := by
    rintro hne ⟨_, _, _, _, hhead⟩
    rw [Scene.called_past_self] at hhead
    exact hne _ _ _ _ (congrArg Sigma.fst (List.cons.inj hhead).1)
  cases heff with
  | claimed row hfree => exact ⟨List.Subset.refl _, fun x hx _ => hx, hnotdue (by simp)⟩
  | appended e hfree hrow =>
      exact ⟨List.subset_append_left .., fun x hx _ => hx, hnotdue (by simp)⟩
  | repeated e e' hthere hsame =>
      exact ⟨List.Subset.refl _, fun x hx _ => hx, hnotdue (by simp)⟩
  | read r' => exact ⟨List.Subset.refl _, fun x hx _ => hx, hnotdue (by simp)⟩
  | committed permitId r' now payload hfree hnew hrow =>
      refine ⟨List.subset_append_left .., fun x hx _ => hx, ?_⟩
      rintro ⟨_, _, _, _, hhead⟩
      rw [Scene.called_past_self] at hhead
      cases hhead
      -- a request that is committed cannot be committed anew
      exact Ledger.lookup_eq_none.mp hnew h.started
  | recommitted permitId r' now payload e hfree hthere =>
      exact (hown.not_recommitted hmay hthere).elim
  | refused permitId r' now payload a ha =>
      refine ⟨List.Subset.refl _, fun x hx _ => hx, ?_⟩
      rintro ⟨_, _, _, _, hhead⟩
      rw [Scene.called_past_self] at hhead
      cases hhead
      exact ha rfl
  | sent order fate a =>
      refine ⟨List.Subset.refl _, ?_, hnotdue (by simp)⟩
      intro x hx hid
      rcases List.mem_append.mp hx with hx | hx
      · exact hx
      · rw [List.mem_singleton.mp hx] at hid
        have hdue : JustCommitted (S.past i) order.orderRequestId := hmay
        exact absurd (hid ▸ hdue) (h.notDue i)
  | idle c a hidle =>
      refine ⟨List.Subset.refl _, fun x hx _ => hx, ?_⟩
      rintro ⟨_, _, _, _, hhead⟩
      rw [Scene.called_past_self] at hhead
      exact Ownership.not_attempt hidle.holding _ (List.cons.inj hhead).1
  | claimedFlatten row hfree => exact ⟨List.Subset.refl _, fun x hx _ => hx, hnotdue (by simp)⟩
  | appendedFlatten e hfree hrow =>
      exact ⟨List.Subset.refl _, fun x hx _ => hx, hnotdue (by simp)⟩
  | repeatedFlatten e e' hthere hsame =>
      exact ⟨List.Subset.refl _, fun x hx _ => hx, hnotdue (by simp)⟩
  | readFlatten f => exact ⟨List.Subset.refl _, fun x hx _ => hx, hnotdue (by simp)⟩
  | closed instruction a => exact ⟨List.Subset.refl _, fun x hx _ => hx, hnotdue (by simp)⟩

theorem Quiescent.call (h : Quiescent S r) (hown : Ownership S) (hmay : mayCall (S.past i) c)
    (heff : Effect S.ledger c a l) : Quiescent (S.called i c a l) r := by
  obtain ⟨hev, hsend, hdue⟩ := h.frame hown hmay heff
  refine ⟨Ledger.types_eventsFor_mono hev h.started, ?_, ?_⟩
  · intro j
    by_cases hj : j = i
    · subst hj; exact hdue
    · rw [Scene.called_past_of_ne hj]
      exact h.notDue j
  · exact fun x hx hid => h.landed x (hsend x hx hid) hid

theorem NeverSubmitted.call (h : NeverSubmitted S r) (hown : Ownership S)
    (hmay : mayCall (S.past i) c) (heff : Effect S.ledger c a l) :
    NeverSubmitted (S.called i c a l) r :=
  ⟨h.toQuiescent.call hown hmay heff,
    fun x hx hid => h.lost x ((h.frame hown hmay heff).2.1 x hx hid) hid⟩

/-! ## The condition -/

/--
The pass is recovering `r`: it lost the claim, read a history that stops at the
commitment, and found no position.
-/
def FoundNoPosition (r : Uuid) (past : Past) : Prop :=
  ∃ (row : ExecutionRequest) (events : List ExecutionEventRecord) (now : UtcDatetime)
    (positions : List PositionState) (rest : Past),
    past = ⟨.clock, .ok now⟩ :: ⟨.positions, .ok positions⟩ :: ⟨.eventsFor r, .ok events⟩
      :: ⟨.claim row, .ok false⟩ :: rest
    ∧ row.orderRequestId = r
    ∧ (types events).getLast? = some .submissionStarted
    ∧ positionMatches r positions = []

/-- What a recovery that found no position has to find when it reads the resting orders. -/
def RecoverySees : Guard := fun v m c =>
  match m, c with
  | .call i o, some .pendingOrders =>
      ∀ r, FoundNoPosition r ((scene v).past i) →
        (∀ j, j ≠ i → ¬ JustCommitted ((scene v).past j) r)
          ∧ (∀ x ∈ v.world.sends, x.order.orderRequestId = r → x.fate ≠ .wire)
          ∧ ((∃ x ∈ v.world.sends, x.order.orderRequestId = r ∧ x.fate = .reached) →
              pendingMatches r o.replies.pendingOrders ≠ [])
  | _, _ => True

/-! ## Recoveries that look at the right moment -/

theorem SawNothing.found {past : Past} (h : SawNothing r past) :
    ∃ orders rest, past = ⟨.pendingOrders, .ok orders⟩ :: rest
      ∧ FoundNoPosition r rest ∧ pendingMatches r orders = [] := by
  obtain ⟨row, events, now, positions, orders, rest, rfl, hrow, hlast, hp, ho⟩ := h
  exact ⟨orders, _, rfl, ⟨row, events, now, positions, rest, rfl, hrow, hlast, hp⟩, ho⟩

/-- A recovery knows that the commitment is made. -/
theorem FoundNoPosition.started (hown : Ownership S) (h : FoundNoPosition r (S.past i)) :
    .submissionStarted ∈ types (S.ledger.eventsFor r) := by
  obtain ⟨row, events, now, positions, rest, heq, -, hlast, -⟩ := h
  refine hown.remembered i r events ?_ _ (List.mem_of_getLast? hlast)
  rw [heq]
  simp [known, recollect, executionNews]

/-- **Recoveries deny only what never happened.** -/
structure RightlyNegative (S : Scene) : Prop where
  /-- A recovery that saw nothing had nothing to see. -/
  sawNothing : ∀ i r, SawNothing r (S.past i) → NeverSubmitted S r
  /-- What a history denies never happened. -/
  denied : ∀ e ∈ S.ledger.events, e.deniesSubmission → NeverSubmitted S e.orderRequestId

namespace RightlyNegative

theorem init {l : Ledger} (hev : l.events = []) : RightlyNegative ⟨l, fun _ => []⟩ where
  sawNothing := by
    rintro i r ⟨_, _, _, _, _, _, heq, -⟩
    cases heq
  denied := by simp [hev]

theorem reset (h : RightlyNegative S) (i : Nat) : RightlyNegative (S.reset i) where
  sawNothing := by
    intro j r hj
    rcases S.reset_past (i := i) j with hp | hp <;> rw [hp] at hj
    · obtain ⟨_, _, _, _, _, _, heq, -⟩ := hj
      cases heq
    · exact (h.sawNothing j r hj).reset
  denied := fun e he hd => (h.denied e he hd).reset

theorem settled {sends : List Send} (h : RightlyNegative S)
    (hs : List.Forall₂ SettledFrom S.ledger.sends sends) : RightlyNegative (S.settled sends) where
  sawNothing := fun i r hi => (h.sawNothing i r hi).settled hs
  denied := fun e he hd => (h.denied e he hd).settled hs

/-- **A recovery that sees nothing at the right moment has nothing to see.** -/
theorem saw {v : SystemView} {o : Oracle} {orders : List PendingOrderState}
    (hown : Ownership (scene v)) (hG : RecoverySees v (.call i o) (some .pendingOrders))
    (ha : (v.world.serve o i .pendingOrders).1 = .ok orders)
    (hfound : FoundNoPosition r ((scene v).past i)) (hnone : pendingMatches r orders = []) :
    NeverSubmitted ((scene v).called i .pendingOrders (.ok orders) (scene v).ledger) r := by
  have horders : orders = o.replies.pendingOrders := by
    unfold World.serve at ha
    cases hf : o.fault with
    | none => rw [hf] at ha; cases ha; rfl
    | some e => rw [hf] at ha; cases ha
  obtain ⟨hdue, hwire, hseen⟩ := hG r hfound
  have hstarted := hfound.started hown
  refine ⟨⟨hstarted, ?_, hwire⟩, ?_⟩
  · intro j
    by_cases hj : j = i
    · subst hj
      rintro ⟨_, _, _, _, hhead⟩
      rw [Scene.called_past_self] at hhead
      cases hhead
    · rw [Scene.called_past_of_ne hj]
      exact hdue j hj
  · intro x hx hid
    cases hfate : x.fate with
    | wire => exact absurd hfate (hwire x hx hid)
    | reached => exact absurd (horders ▸ hnone) (hseen ⟨x, hx, hid, hfate⟩)
    | lost => rfl

/-- **Every call that finds what a recovery has to find keeps recoveries right.** -/
theorem call {v : SystemView} {o : Oracle} (h : RightlyNegative (scene v))
    (hown : Ownership (scene v)) (hG : RecoverySees v (.call i o) (some c))
    (hmay : mayCall ((scene v).past i) c) (heff : Effect (scene v).ledger c a l)
    (ha : a = (v.world.serve o i c).1) : RightlyNegative ((scene v).called i c a l) := by
  constructor
  · intro j r hj
    by_cases hji : j = i
    · subst hji
      rw [Scene.called_past_self] at hj
      obtain ⟨orders, rest, heq, hfound, hnone⟩ := hj.found
      cases heq
      cases heff with
      | idle => exact saw hown hG ha.symm hfound hnone
    · rw [Scene.called_past_of_ne hji] at hj
      exact (h.sawNothing j r hj).call hown hmay heff
  · intro e he hd
    by_cases hold : e ∈ (scene v).ledger.events
    · exact (h.denied e hold hd).call hown hmay heff
    · -- a new denial: the pass that made it saw nothing
      cases heff with
      | appended e' hfree hrow =>
          rcases List.mem_append.mp he with he | he
          · exact absurd he hold
          · rw [List.mem_singleton.mp he] at hd ⊢
            exact (h.sawNothing i _ (hmay.evidence hd)).call hown hmay
              (.appended e' hfree hrow)
      | committed permitId r' now payload hfree hnew hrow =>
          rcases List.mem_append.mp he with he | he
          · exact absurd he hold
          · rw [List.mem_singleton.mp he] at hd
            cases hd.1
      | _ => exact absurd he hold

end RightlyNegative

/-- Nothing a history denies has reached, or can still reach, the broker. -/
structure NeverWronglyNegative (s : Config Nat Task World Call Call.Answer PyError) : Prop where
  /-- Every order of a denied submission is lost. -/
  lost : ∀ e ∈ s.world.db.executionEvents, e.deniesSubmission → ∀ x ∈ s.world.sends,
    x.order.orderRequestId = e.orderRequestId → x.fate = .lost
  /-- No worker is about to send one. -/
  notDue : ∀ e ∈ s.world.db.executionEvents, e.deniesSubmission → ∀ i q past order k,
    s.threads i = some ⟨q, past, .call (.orderSend order) k⟩ →
      order.orderRequestId ≠ e.orderRequestId

/--
**A recovery that looks at the right moment is never wrongly negative.** In every
run in which each recovery that found no position finds, when it reads the resting
orders, nobody in the middle of that submission, no order of it on its way, and an
order of it that did reach the broker among them, no denied submission ever reaches
the broker.
-/
theorem recovery_never_wrongly_negative {w : World}
    {s : Config Nat Task World Call Call.Answer PyError} (hev : w.db.executionEvents = [])
    (hcon : w.db.canaryPermitConsumptions = []) (hsends : w.sends = [])
    (h : ReachUnder RecoverySees w s) : NeverWronglyNegative s := by
  have hinv := scene_invariant (G := RecoverySees)
    (I := fun S => Ownership S ∧ RightlyNegative S)
    ⟨Ownership.init hev hcon hsends, RightlyNegative.init hev⟩
    (fun _ j hI => ⟨hI.1.reset j, hI.2.reset j⟩)
    (fun _ _ hI hs => ⟨hI.1.settled hs, hI.2.settled hs⟩)
    (fun _ _ _ _ _ _ hI hG hmay heff ha =>
      ⟨hI.1.call hmay heff, hI.2.call hI.1 hG hmay heff ha⟩) h
  obtain ⟨⟨-, hright⟩, hkept⟩ := hinv
  refine ⟨fun e he hd => (hright.denied e he hd).lost, ?_⟩
  intro e he hd i q past order k ht hid
  have hdue : JustCommitted ((scene s.view).past i) order.orderRequestId := by
    have hpast : (scene s.view).past i = past := by simp [scene, Config.view, ht]
    rw [hpast]
    exact (Conforms.call.mp (hkept i _ ht)).1
  exact (hright.denied e he hd).notDue i (hid ▸ hdue)

end

namespace Sample

/--
A second worker loses the claim and recovers while the first is between its
commitment and its order; then the order goes out.
-/
def overtaken : List (Move Nat Task Oracle World.Event) :=
  .start 0 ⟨worker, .runOnce⟩ :: served 0 40 ++ .start 1 ⟨worker, .runOnce⟩ :: served 1 18
    ++ served 0 1

/-- A worker that commits without sending. -/
def rehearsal : ExecutionOrchestrator := { worker with entrySubmission := none }

/-- It commits, dies, and recovers in its next life. -/
def rehearsed : List (Move Nat Task Oracle World.Event) :=
  .start 0 ⟨rehearsal, .runOnce⟩ :: served 0 39 ++ .crash 0 :: .start 0 ⟨rehearsal, .runOnce⟩
    :: served 0 18

end Sample

open Sample in
/-- Without the condition a recovery denies an order that then reaches the broker. -/
theorem recovery_wrongly_negative :
    ∃ s, Reachable Sample.world s ∧ ¬ NeverWronglyNegative s := by
  have hrun : (workers.run Machine.unchecked (Machine.idle Sample.world) overtaken).any
      (fun s => s.world.db.executionEvents.any fun e => decide e.deniesSubmission
        && s.world.sends.any fun x => decide
          (x.order.orderRequestId = e.orderRequestId ∧ x.fate ≠ .lost)) = true := by
    decide +kernel
  obtain ⟨s, hs, hp⟩ := Machine.Reach.exists_of_run (G := Machine.Always) _ _
    (fun _ _ _ => trivial) hrun
  refine ⟨s, hs, fun hnever => ?_⟩
  simp only [List.any_eq_true, Bool.and_eq_true, decide_eq_true_eq] at hp
  obtain ⟨e, he, hd, x, hx, hid, hfate⟩ := hp
  exact hfate (hnever.lost e he hd x hx hid)

/-- A worker that is alone and sends nothing meets the condition. -/
theorem recoverySees_of_alone [Externals] {w : World}
    {s : Config Nat Task World Call Call.Answer PyError} {i : Nat}
    (h : ReachUnder (fun v m _ => m.only i = true ∧ v.world.sends = []) w s) :
    ReachUnder RecoverySees w s := by
  refine h.mono fun s m hr hg => ?_
  have halone : ReachUnder (Alone i) w s := hr.mono fun _ _ _ hg => hg.1
  unfold RecoverySees
  split
  · rename_i j o _
    have hj : j = i := of_decide_eq_true hg.1
    subst hj
    intro r _
    have hsends : s.view.world.sends = [] := hg.2
    refine ⟨?_, by simp [hsends], by simp [hsends]⟩
    rintro k hk ⟨_, _, _, _, hhead⟩
    rw [others_idle halone hk] at hhead
    cases hhead
  · trivial

open Sample in
theorem recovery_never_wrongly_negative_sample :
    ∃ s, ReachUnder RecoverySees Sample.world s
      ∧ (∃ e ∈ s.world.db.executionEvents, e.deniesSubmission) ∧ NeverWronglyNegative s := by
  have hrun : (workers.run (fun s m => m.only 0 && s.world.sends.isEmpty)
      (Machine.idle Sample.world) rehearsed).any
      (fun s => s.world.db.executionEvents.any fun e => decide e.deniesSubmission) = true := by
    decide +kernel
  obtain ⟨s, hs, hp⟩ := Machine.Reach.exists_of_run
    (G := fun v m _ => m.only 0 = true ∧ v.world.sends = []) _ _
    (fun s m hm => by simpa [Config.view] using hm) hrun
  simp only [List.any_eq_true, decide_eq_true_eq] at hp
  have hsees := recoverySees_of_alone hs
  exact ⟨s, hsees, hp, recovery_never_wrongly_negative rfl rfl rfl hsees⟩

end Crumblr
