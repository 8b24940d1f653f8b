import Crumblr.Proof.Scene

/-!
# Who may submit, and how often

A request belongs to the pass that won its claim, and the claim is won once. While
the owner has not committed, nobody else can add to the history: everyone else
needs an event that only comes after a commitment. So what the owner knows of the
history is the whole of it, and nothing at all has been consumed or sent for the
request. The commitment ends that, once; the order that follows it is the only one.

The invariant says this of the ledger and of what each worker has done in its pass.
`Effect` says what a call can do to the ledger, so a call is checked by what it
tells its worker (`known`), how it leaves the worker standing (`holding`), and which
history it adds to. Most calls do none of the three. Those that do are taken one by
one: a claim that is won, an append, an append of what is there already, a reading,
a commitment, a commitment that fails, and an order.
-/

namespace Crumblr

/-- Nothing has been consumed or sent for request `r`. -/
structure Untouched (l : Ledger) (r : Uuid) : Prop where
  consumed : ∀ c ∈ l.consumptions, c.orderRequestId ≠ r
  sent : ∀ s ∈ l.sends, s.order.orderRequestId ≠ r

/-- The submission of `r` is on record: the commitment, and the permit used for it. -/
structure Committed (l : Ledger) (r : Uuid) : Prop where
  started : .submissionStarted ∈ types (l.eventsFor r)
  consumed : ∃ c ∈ l.consumptions, c.orderRequestId = r

/-- **Who may submit, and how often.** -/
structure Ownership (S : Scene) : Prop where
  /-- A claim that was won is on record. -/
  claimed : ∀ i r, holding r (S.past i) ≠ .none →
    ∃ row ∈ S.ledger.requests, row.orderRequestId = r
  /-- A claim is won by one pass. -/
  unique : ∀ i j r, holding r (S.past i) ≠ .none → holding r (S.past j) ≠ .none → i = j
  /-- Until the commitment the owner knows everything, and nothing was done. -/
  fresh : ∀ i r, holding r (S.past i) = .owned ∨ holding r (S.past i) = .refused →
    Untouched S.ledger r ∧ known r (S.past i) = some (S.ledger.eventsFor r)
      ∧ types (S.ledger.eventsFor r) ∈ histories
      ∧ ∀ t ∈ types (S.ledger.eventsFor r), t ∈ early
  /-- What a pass knows of a history is true of it. -/
  remembered : ∀ i r events, known r (S.past i) = some events →
    ∀ t ∈ types events, t ∈ types (S.ledger.eventsFor r)
  /-- Between the commitment and the order nothing has been sent. -/
  committed : ∀ i r, JustCommitted (S.past i) r →
    Committed S.ledger r ∧ ∀ s ∈ S.ledger.sends, s.order.orderRequestId ≠ r
  /-- An order that was sent had been committed. -/
  sent : ∀ s ∈ S.ledger.sends, Committed S.ledger s.order.orderRequestId
  /-- A request is sent once. -/
  once : (S.ledger.sends.map fun s => s.order.orderRequestId).Nodup
  /-- A permit is consumed once. -/
  permits : (S.ledger.consumptions.map (·.permitId)).Nodup
  /-- A request consumes one permit. -/
  named : (S.ledger.consumptions.map (·.orderRequestId)).Nodup
  /-- A permit is consumed for a commitment. -/
  started : ∀ c ∈ S.ledger.consumptions,
    .submissionStarted ∈ types (S.ledger.eventsFor c.orderRequestId)
  /-- An event belongs to a request on record. -/
  refs : ∀ e ∈ S.ledger.events, ∃ row ∈ S.ledger.requests, row.orderRequestId = e.orderRequestId
  /-- A commitment that failed is never tried again. -/
  denied : ∀ i permitId r now payload a,
    ⟨.consumeAndStart permitId r now payload, a⟩ ∈ S.past i → a ≠ .ok .consumed →
      holding r (S.past i) = .refused

/-! ## Histories in the ledger -/

namespace Ledger

variable {l l' : Ledger} {r : Uuid} {e : ExecutionEventRecord}

theorem eventsFor_append_self (h : e.orderRequestId = r) :
    ({ l with events := l.events ++ [e] } : Ledger).eventsFor r = l.eventsFor r ++ [e] := by
  simp [eventsFor, h]

theorem eventsFor_append_of_ne (h : e.orderRequestId ≠ r) :
    ({ l with events := l.events ++ [e] } : Ledger).eventsFor r = l.eventsFor r := by
  simp [eventsFor, h]

theorem eventsFor_congr (h : l'.events = l.events) : l'.eventsFor r = l.eventsFor r := by
  simp [eventsFor, h]

theorem mem_types_eventsFor {t : ExecutionEventType} :
    t ∈ types (l.eventsFor r) ↔ ∃ e ∈ l.events, e.key = (r, t) := by
  simp only [types, eventsFor, List.mem_map, List.mem_filter, decide_eq_true_eq,
    ExecutionEventRecord.key, Prod.mk.injEq]
  constructor
  · rintro ⟨e, ⟨hmem, hr⟩, ht⟩
    exact ⟨e, hmem, hr, ht⟩
  · rintro ⟨e, hmem, hr, ht⟩
    exact ⟨e, ⟨hmem, hr⟩, ht⟩

/-- An event type is free in a history when its key is free in the table. -/
theorem lookup_eq_none {t : ExecutionEventType} :
    Table.lookup ExecutionEventRecord.key l.events (r, t) = none
      ↔ t ∉ types (l.eventsFor r) := by
  rw [Table.lookup_eq_none, mem_types_eventsFor]
  constructor
  · rintro h ⟨e, he, hk⟩; exact h e he hk
  · intro h e he hk; exact h ⟨e, he, hk⟩

theorem mem_types_of_lookup {t : ExecutionEventType}
    (h : Table.lookup ExecutionEventRecord.key l.events (r, t) = some e) :
    t ∈ types (l.eventsFor r) := by
  obtain ⟨hmem, hk⟩ := Table.lookup_eq_some h
  exact mem_types_eventsFor.mpr ⟨e, hmem, hk⟩

theorem types_eventsFor_mono {t : ExecutionEventType} (hsub : l.events ⊆ l'.events)
    (h : t ∈ types (l.eventsFor r)) : t ∈ types (l'.eventsFor r) := by
  obtain ⟨e, hmem, hk⟩ := mem_types_eventsFor.mp h
  exact mem_types_eventsFor.mpr ⟨e, hsub hmem, hk⟩

end Ledger

theorem types_append (events : List ExecutionEventRecord) (e : ExecutionEventRecord) :
    types (events ++ [e]) = types events ++ [e.eventType] := by
  simp [types]

/-- More on record is still on record. -/
theorem Committed.mono {l l' : Ledger} {r : Uuid} (h : Committed l r)
    (he : l.events ⊆ l'.events) (hc : l.consumptions ⊆ l'.consumptions) : Committed l' r := by
  obtain ⟨c, hmem, hr⟩ := h.consumed
  exact ⟨Ledger.types_eventsFor_mono he h.started, c, hc hmem, hr⟩

/-- A commitment just made holds its request. -/
theorem JustCommitted.holding {past : Past} {r : Uuid} (h : JustCommitted past r) :
    holding r past = .committed := by
  obtain ⟨permitId, now, payload, rest, rfl⟩ := h
  simp [Crumblr.holding, holdingAfter]

/-! ## Scenes after a call -/

/-- Worker `i` wins the claim of a request. -/
abbrev Scene.claiming (S : Scene) (i : Nat) (row : ExecutionRequest) : Scene :=
  S.called i (.claim row) (.ok true) { S.ledger with requests := S.ledger.requests ++ [row] }

/-- Worker `i` consumes a permit, and commits the submission of a request. -/
abbrev Scene.committing (S : Scene) (i : Nat) (permitId r : Uuid) (now : UtcDatetime)
    (payload : Json) : Scene :=
  S.called i (.consumeAndStart permitId r now payload) (.ok .consumed)
    { S.ledger with
      consumptions := S.ledger.consumptions ++ [⟨permitId, r, now⟩]
      events := S.ledger.events ++ [⟨r, .submissionStarted, now, [], none, some payload⟩] }

section

variable {S : Scene} {i : Nat} {c : Call} {a : Except PyError c.Answer} {l : Ledger}

/-- Only a commitment adds to the attempts to commit, and only after one is an order due. -/
theorem called_trace (hc : ∀ permitId r now payload, c ≠ .consumeAndStart permitId r now payload)
    (j : Nat) :
    (∀ r, JustCommitted ((S.called i c a l).past j) r → JustCommitted (S.past j) r)
      ∧ ∀ permitId r now payload b,
        ⟨.consumeAndStart permitId r now payload, b⟩ ∈ (S.called i c a l).past j →
          ⟨.consumeAndStart permitId r now payload, b⟩ ∈ S.past j := by
  by_cases hj : j = i
  · subst hj
    rw [Scene.called_past_self]
    constructor
    · rintro r ⟨permitId, now, payload, _, hhead⟩
      exact absurd (congrArg Sigma.fst (List.cons.inj hhead).1) (hc permitId r now payload)
    · intro permitId r now payload b hmem
      rcases List.mem_cons.mp hmem with heq | hmem
      · exact absurd (congrArg Sigma.fst heq).symm (hc permitId r now payload)
      · exact hmem
  · rw [Scene.called_past_of_ne hj]
    exact ⟨fun _ h => h, fun _ _ _ _ _ h => h⟩

variable {permitId r : Uuid} {now : UtcDatetime} {payload : Json}

/-- Who did not get the permit is refused, -/
theorem holdingAfter_refused {a : Except PyError Database.CanaryPermitConsumeOutcome}
    (ha : a ≠ .ok .consumed) (r' : Uuid) (h : Holding) :
    holdingAfter r' h ⟨.consumeAndStart permitId r now payload, a⟩
      = if r = r' then .refused else h := by
  cases a with
  | error e => rfl
  | ok outcome => cases outcome <;> first | exact absurd rfl ha | rfl

/-- and learns nothing. -/
theorem executionNews_refused {a : Except PyError Database.CanaryPermitConsumeOutcome}
    (ha : a ≠ .ok .consumed) (r' : Uuid) :
    executionNews r' ⟨.consumeAndStart permitId r now payload, a⟩ = .silent := by
  cases a with
  | error e => rfl
  | ok outcome => cases outcome <;> first | exact absurd rfl ha | rfl

variable {row : ExecutionRequest}

theorem claiming_holding (hr : row.orderRequestId ≠ r) (j : Nat) :
    holding r ((S.claiming i row).past j) = holding r (S.past j) := by
  by_cases hj : j = i
  · subst hj; simp [holding, holdingAfter, hr]
  · rw [Scene.called_past_of_ne hj]

theorem claiming_known (hr : row.orderRequestId ≠ r) (j : Nat) :
    known r ((S.claiming i row).past j) = known r (S.past j) := by
  by_cases hj : j = i
  · subst hj; simp [known, recollect, executionNews, hr]
  · rw [Scene.called_past_of_ne hj]

/-- Where nobody held the request, only the winner does. -/
theorem claiming_owner (hnobody : ∀ j, holding row.orderRequestId (S.past j) = .none) {j : Nat}
    (hj : holding row.orderRequestId ((S.claiming i row).past j) ≠ .none) : j = i := by
  by_contra hji
  rw [Scene.called_past_of_ne hji, hnobody] at hj
  exact hj rfl

theorem committing_holding {r' : Uuid} (hr : r ≠ r') (j : Nat) :
    holding r' ((S.committing i permitId r now payload).past j) = holding r' (S.past j) := by
  by_cases hj : j = i
  · subst hj; simp [holding, holdingAfter, hr]
  · rw [Scene.called_past_of_ne hj]

theorem committing_known {r' : Uuid} (hr : r ≠ r') (j : Nat) :
    known r' ((S.committing i permitId r now payload).past j) = known r' (S.past j) := by
  by_cases hj : j = i
  · subst hj; simp [known, recollect, executionNews, hr]
  · rw [Scene.called_past_of_ne hj]

theorem committing_eventsFor {r' : Uuid} (hr : r ≠ r') :
    (S.committing i permitId r now payload).ledger.eventsFor r' = S.ledger.eventsFor r' := by
  simp [Ledger.eventsFor, hr]

/-- The commitment is the newest event of its request. -/
theorem committing_types :
    types ((S.committing i permitId r now payload).ledger.eventsFor r)
      = types (S.ledger.eventsFor r) ++ [.submissionStarted] := by
  simp [Ledger.eventsFor, types]

/-- Whatever was on record still is. -/
theorem committing_mono {r' : Uuid} {t : ExecutionEventType}
    (h : t ∈ types (S.ledger.eventsFor r')) :
    t ∈ types ((S.committing i permitId r now payload).ledger.eventsFor r') :=
  Ledger.types_eventsFor_mono (l := S.ledger) (List.subset_append_left ..) h

end

namespace Ownership

variable {S : Scene}

/-! ## Steps that touch nothing -/

theorem init {l : Ledger} (hev : l.events = [])
    (hcon : l.consumptions = []) (hsends : l.sends = []) : Ownership ⟨l, fun _ => []⟩ where
  claimed := by intro i r h; exact absurd rfl h
  unique := by intro i j r h; exact absurd rfl h
  fresh := by rintro i r (h | h) <;> cases h
  remembered := by intro i r events h; cases h
  committed := by rintro i r ⟨_, _, _, _, h⟩; cases h
  sent := by simp [hsends]
  once := by simp [hsends]
  permits := by simp [hcon]
  named := by simp [hcon]
  started := by simp [hcon]
  refs := by simp [hev]
  denied := by intro i permitId r now payload a h; cases h

theorem reset (h : Ownership S) (i : Nat) : Ownership (S.reset i) where
  claimed := by
    intro j r hj
    rcases S.reset_past (i := i) j with hp | hp <;> rw [hp] at hj
    · exact absurd rfl hj
    · exact h.claimed j r hj
  unique := by
    intro j k r hj hk
    rcases S.reset_past (i := i) j with hp | hp <;> rw [hp] at hj
    · exact absurd rfl hj
    rcases S.reset_past (i := i) k with hp' | hp' <;> rw [hp'] at hk
    · exact absurd rfl hk
    exact h.unique j k r hj hk
  fresh := by
    intro j r hj
    rcases S.reset_past (i := i) j with hp | hp <;> rw [hp] at hj ⊢
    · rcases hj with hj | hj <;> cases hj
    · exact h.fresh j r hj
  remembered := by
    intro j r events hj
    rcases S.reset_past (i := i) j with hp | hp <;> rw [hp] at hj
    · cases hj
    · exact h.remembered j r events hj
  committed := by
    intro j r hj
    rcases S.reset_past (i := i) j with hp | hp <;> rw [hp] at hj
    · obtain ⟨_, _, _, _, hj⟩ := hj
      cases hj
    · exact h.committed j r hj
  sent := h.sent
  once := h.once
  permits := h.permits
  named := h.named
  started := h.started
  refs := h.refs
  denied := by
    intro j permitId r now payload a hmem ha
    rcases S.reset_past (i := i) j with hp | hp <;> rw [hp] at hmem ⊢
    · cases hmem
    · exact h.denied j permitId r now payload a hmem ha

/-- Orders that settle are the orders they were. -/
theorem settled_orders {sends sends' : List Send} (h : List.Forall₂ SettledFrom sends sends') :
    sends'.map (·.order) = sends.map (·.order) := by
  induction h with
  | nil => rfl
  | cons hs _ ih => simp [hs.1, ih]

theorem settled {sends : List Send} (h : Ownership S)
    (hs : List.Forall₂ SettledFrom S.ledger.sends sends) : Ownership (S.settled sends) := by
  have hids := settled_orders hs
  -- every order in the settled list was in the list before
  have hback : ∀ s ∈ sends, ∃ s' ∈ S.ledger.sends, s'.order = s.order := by
    intro s hmem
    have : s.order ∈ S.ledger.sends.map (·.order) := by
      rw [← hids]; exact List.mem_map_of_mem hmem
    simpa using this
  exact {
    claimed := h.claimed
    unique := h.unique
    fresh := by
      intro i r hi
      obtain ⟨hu, hrest⟩ := h.fresh i r hi
      refine ⟨⟨hu.consumed, ?_⟩, hrest⟩
      intro s hmem
      obtain ⟨s', hs', ho⟩ := hback s hmem
      rw [← ho]
      exact hu.sent s' hs'
    remembered := h.remembered
    committed := by
      intro i r hi
      obtain ⟨hc, hsent⟩ := h.committed i r hi
      refine ⟨⟨hc.started, hc.consumed⟩, ?_⟩
      intro s hmem
      obtain ⟨s', hs', ho⟩ := hback s hmem
      rw [← ho]
      exact hsent s' hs'
    sent := by
      intro s hmem
      obtain ⟨s', hs', ho⟩ := hback s hmem
      have hc := h.sent s' hs'
      rw [ho] at hc
      exact ⟨hc.started, hc.consumed⟩
    once := by
      have hmap : sends.map (fun s => s.order.orderRequestId)
          = S.ledger.sends.map fun s => s.order.orderRequestId := by
        have := congrArg (List.map fun o : ApprovedOrder => o.orderRequestId) hids
        simpa [List.map_map, Function.comp_def] using this
      change (sends.map fun s => s.order.orderRequestId).Nodup
      rw [hmap]
      exact h.once
    permits := h.permits
    named := h.named
    started := h.started
    refs := h.refs
    denied := h.denied }

/-! ## Calls -/

variable {i : Nat} {c : Call} {a : Except PyError c.Answer} {l : Ledger}

/-- A call that changes no standing is not an attempt to commit. -/
theorem not_attempt {permitId r : Uuid} {now : UtcDatetime} {payload : Json}
    {entry : Entry Call Call.Answer PyError} (hhold : ∀ r h, holdingAfter r h entry = h)
    (b : Except PyError Database.CanaryPermitConsumeOutcome)
    (he : entry = ⟨.consumeAndStart permitId r now payload, b⟩) : False := by
  subst he
  have hkept := hhold r .none
  cases b with
  | error e => simp [holdingAfter] at hkept
  | ok outcome => cases outcome <;> simp [holdingAfter] at hkept

/-- **A call that tells nothing and changes no submission changes nothing here.** -/
theorem silent (h : Ownership S) (hnews : ∀ r, executionNews r ⟨c, a⟩ = .silent)
    (hhold : ∀ r h, holdingAfter r h ⟨c, a⟩ = h) (hreq : l.requests = S.ledger.requests)
    (hev : l.events = S.ledger.events) (hcon : l.consumptions = S.ledger.consumptions)
    (hsend : l.sends = S.ledger.sends) : Ownership (S.called i c a l) := by
  have hheld : ∀ j r, holding r ((S.called i c a l).past j) = holding r (S.past j) := by
    intro j r
    by_cases hj : j = i
    · subst hj; rw [Scene.called_past_self]; exact hhold r _
    · rw [Scene.called_past_of_ne hj]
  have hknown : ∀ j r, known r ((S.called i c a l).past j) = known r (S.past j) := by
    intro j r
    by_cases hj : j = i
    · subst hj
      rw [Scene.called_past_self]
      simp only [known, recollect, hnews]
    · rw [Scene.called_past_of_ne hj]
  have hfor : ∀ r, l.eventsFor r = S.ledger.eventsFor r := fun r => Ledger.eventsFor_congr hev
  have hcommitted : ∀ r, Committed S.ledger r → Committed l r := by
    intro r hc
    exact ⟨by rw [hfor]; exact hc.started, by rw [hcon]; exact hc.consumed⟩
  exact {
    claimed := by
      intro j r hj
      rw [hheld] at hj
      simpa [hreq] using h.claimed j r hj
    unique := by
      intro j k r hj hk
      rw [hheld] at hj hk
      exact h.unique j k r hj hk
    fresh := by
      intro j r hj
      rw [hheld] at hj
      obtain ⟨hu, hrest⟩ := h.fresh j r hj
      rw [hknown]
      simp only [Scene.called_ledger, hfor]
      exact ⟨⟨by rw [hcon]; exact hu.consumed, by rw [hsend]; exact hu.sent⟩, hrest⟩
    remembered := by
      intro j r events hj
      rw [hknown] at hj
      simp only [Scene.called_ledger, hfor]
      exact h.remembered j r events hj
    committed := by
      intro j r hj
      have hj' : JustCommitted (S.past j) r := by
        by_cases hji : j = i
        · -- a commitment would have changed its standing
          subst hji
          obtain ⟨_, _, _, _, hhead⟩ := hj
          rw [Scene.called_past_self] at hhead
          exact (not_attempt hhold _ (List.cons.inj hhead).1).elim
        · rwa [Scene.called_past_of_ne hji] at hj
      obtain ⟨hc, hs⟩ := h.committed j r hj'
      exact ⟨hcommitted r hc, by simpa [hsend] using hs⟩
    sent := by
      simp only [Scene.called_ledger, hsend]
      exact fun s hs => hcommitted _ (h.sent s hs)
    once := by simpa [hsend] using h.once
    permits := by simpa [hcon] using h.permits
    named := by simpa [hcon] using h.named
    started := by simpa [hcon, hfor] using h.started
    refs := by simpa [hev, hreq] using h.refs
    denied := by
      intro j permitId r now payload b hmem hb
      rw [hheld]
      by_cases hj : j = i
      · subst hj
        rw [Scene.called_past_self] at hmem
        rcases List.mem_cons.mp hmem with heq | hmem
        · exact (not_attempt hhold _ heq.symm).elim
        · exact h.denied j permitId r now payload b hmem hb
      · rw [Scene.called_past_of_ne hj] at hmem
        exact h.denied j permitId r now payload b hmem hb }

/-! ### Winning a claim -/

/-- A request nobody claimed has no history, no permit and no order. -/
theorem blank (h : Ownership S) {r : Uuid}
    (hnone : ∀ row ∈ S.ledger.requests, row.orderRequestId ≠ r) :
    S.ledger.eventsFor r = [] ∧ Untouched S.ledger r := by
  have hev : S.ledger.eventsFor r = [] := by
    rw [Ledger.eventsFor, List.filter_eq_nil_iff]
    intro e he her
    obtain ⟨row, hrow, hid⟩ := h.refs e he
    exact hnone row hrow (hid.trans (by simpa using her))
  -- a permit or an order would need a commitment, which would be an event
  have hstarted : .submissionStarted ∉ types (S.ledger.eventsFor r) := by simp [hev, types]
  refine ⟨hev, ⟨?_, ?_⟩⟩
  · rintro c hc rfl
    exact hstarted (h.started c hc)
  · rintro s hs rfl
    exact hstarted (h.sent s hs).started

/-- Nobody holds a request that isn't on record. -/
theorem unheld (h : Ownership S) {r : Uuid}
    (hnone : ∀ row ∈ S.ledger.requests, row.orderRequestId ≠ r) (j : Nat) :
    holding r (S.past j) = .none := by
  by_contra hj
  obtain ⟨row, hrow, hid⟩ := h.claimed j _ hj
  exact hnone row hrow hid

/-- Whoever wins a claim knows the whole of an empty history. -/
theorem claim_fresh (h : Ownership S) {row : ExecutionRequest}
    (hnone : ∀ row' ∈ S.ledger.requests, row'.orderRequestId ≠ row.orderRequestId)
    {j : Nat} {r : Uuid} (hj : holding r ((S.claiming i row).past j) = .owned
      ∨ holding r ((S.claiming i row).past j) = .refused) :
    Untouched (S.claiming i row).ledger r
      ∧ known r ((S.claiming i row).past j) = some ((S.claiming i row).ledger.eventsFor r)
      ∧ types ((S.claiming i row).ledger.eventsFor r) ∈ histories
      ∧ ∀ t ∈ types ((S.claiming i row).ledger.eventsFor r), t ∈ early := by
  by_cases hr : row.orderRequestId = r
  · subst hr
    obtain ⟨hblank, huntouched⟩ := h.blank hnone
    have hji : j = i := claiming_owner (h.unheld hnone) (by rcases hj with hj | hj <;> simp [hj])
    subst hji
    have hempty : (S.claiming j row).ledger.eventsFor row.orderRequestId = [] := hblank
    rw [hempty]
    refine ⟨⟨huntouched.consumed, huntouched.sent⟩, ?_, nil_mem_histories, by simp [types]⟩
    simp [known, recollect, executionNews]
  · rw [claiming_holding hr] at hj
    obtain ⟨hu, hrest⟩ := h.fresh j r hj
    rw [claiming_known hr]
    exact ⟨⟨hu.consumed, hu.sent⟩, hrest⟩

theorem claim_remembered (h : Ownership S) {row : ExecutionRequest} {j : Nat} {r : Uuid}
    {events : List ExecutionEventRecord}
    (hj : known r ((S.claiming i row).past j) = some events) :
    ∀ t ∈ types events, t ∈ types ((S.claiming i row).ledger.eventsFor r) := by
  by_cases hr : row.orderRequestId = r
  · by_cases hji : j = i
    · subst hji; subst hr
      simp only [Scene.called_past_self, known, recollect, executionNews, if_true] at hj
      cases hj
      simp [types]
    · rw [Scene.called_past_of_ne hji] at hj
      exact h.remembered j r events hj
  · rw [claiming_known hr] at hj
    exact h.remembered j r events hj

theorem claim (h : Ownership S) {row : ExecutionRequest}
    (hfree : Table.lookup (·.orderRequestId) S.ledger.requests row.orderRequestId = none) :
    Ownership (S.claiming i row) := by
  have hnone := Table.lookup_eq_none.mp hfree
  have hnobody := h.unheld hnone
  have htrace := called_trace (S := S) (i := i) (c := .claim row) (a := .ok true)
    (l := { S.ledger with requests := S.ledger.requests ++ [row] }) fun _ _ _ _ h => by cases h
  exact {
    claimed := by
      intro j r hj
      by_cases hr : row.orderRequestId = r
      · exact ⟨row, by simp, hr⟩
      · rw [claiming_holding hr] at hj
        obtain ⟨row', hrow', hid⟩ := h.claimed j r hj
        exact ⟨row', by simp [hrow'], hid⟩
    unique := by
      intro j k r hj hk
      by_cases hr : row.orderRequestId = r
      · subst hr
        rw [claiming_owner hnobody hj, claiming_owner hnobody hk]
      · rw [claiming_holding hr] at hj hk
        exact h.unique j k r hj hk
    fresh := fun _ _ hj => h.claim_fresh hnone hj
    remembered := fun _ _ _ hj => h.claim_remembered hj
    committed := by
      intro j r hj
      obtain ⟨hc, hs⟩ := h.committed j r ((htrace j).1 r hj)
      exact ⟨⟨hc.started, hc.consumed⟩, hs⟩
    sent := fun s hs => ⟨(h.sent s hs).started, (h.sent s hs).consumed⟩
    once := h.once
    permits := h.permits
    named := h.named
    started := h.started
    refs := by
      intro e he
      obtain ⟨row', hrow', hid⟩ := h.refs e he
      exact ⟨row', by simp [hrow'], hid⟩
    denied := by
      intro j permitId r now payload b hmem hb
      have hrefused := h.denied j permitId r now payload b ((htrace j).2 _ _ _ _ _ hmem) hb
      have hr : row.orderRequestId ≠ r := by
        rintro rfl
        rw [hnobody j] at hrefused
        cases hrefused
      rw [claiming_holding hr]
      exact hrefused }

/-! ### Appending -/

variable [Externals]

/--
**Before the commitment only the owner appends.** Whoever else appends to a history
has seen something that only comes after a commitment.
-/
theorem owner_appends (h : Ownership S) {e : ExecutionEventRecord}
    (hmay : MayAppend (S.past i) e) {j : Nat}
    (hj : holding e.orderRequestId (S.past j) = .owned
      ∨ holding e.orderRequestId (S.past j) = .refused) :
    j = i ∧ known e.orderRequestId (S.past i) = some (S.ledger.eventsFor e.orderRequestId)
      ∧ e.eventType ∈ advances (types (S.ledger.eventsFor e.orderRequestId)).getLast?
      ∧ (e.eventType = .submissionStarted →
          holding e.orderRequestId (S.past i) = .owned) := by
  obtain ⟨events, hk, hor⟩ := hmay.continues
  obtain ⟨-, hkj, -, hearly⟩ := h.fresh j _ hj
  rcases hor with ⟨hheld, hadv, hss⟩ | hres
  · have hji : j = i := h.unique j i _ (by rcases hj with hj | hj <;> simp [hj]) hheld
    subst hji
    rw [hkj] at hk
    cases hk
    exact ⟨rfl, hkj, hadv, hss⟩
  · obtain ⟨t, ht, hlate⟩ := late_of_resolves hres
    exact absurd (hearly t (h.remembered i _ events hk t (List.mem_of_getLast? ht))) hlate

omit [Externals] in
/-- What an append does to the standings and to what is known. -/
theorem appended_past {e : ExecutionEventRecord} {b : Bool} (j : Nat) (r : Uuid)
    (hr : e.orderRequestId ≠ r ∨ j ≠ i) :
    holding r ((S.called i (.append e) (.ok b) l).past j) = holding r (S.past j)
      ∧ known r ((S.called i (.append e) (.ok b) l).past j) = known r (S.past j) := by
  by_cases hj : j = i
  · subst hj
    have hne : e.orderRequestId ≠ r := by simpa using hr
    simp [holding, holdingAfter, known, recollect, executionNews, hne]
  · rw [Scene.called_past_of_ne hj]
    exact ⟨rfl, rfl⟩

/-- An append may only make an owner of an owner. -/
theorem appended_holding {e : ExecutionEventRecord} {b : Bool}
    (hmay : MayAppend (S.past i) e) (j : Nat) (r : Uuid)
    (hj : holding r ((S.called i (.append e) (.ok b) l).past j) ≠ .none) :
    holding r (S.past j) ≠ .none := by
  by_cases hr : e.orderRequestId ≠ r ∨ j ≠ i
  · rwa [(appended_past j r hr).1] at hj
  · simp only [not_or, Decidable.not_not] at hr
    obtain ⟨rfl, rfl⟩ := hr
    intro hnone
    have hss : e.eventType ≠ .submissionStarted := by
      intro hss
      obtain ⟨events, -, hor⟩ := hmay.continues
      rcases hor with ⟨hheld, -⟩ | hres
      · exact hheld hnone
      · rw [hss] at hres
        exact not_started_of_resolves hres
    simp [holding, holdingAfter, hss, hnone] at hj

/-- Attempts that failed stay failed through an append. -/
theorem appended_denied (h : Ownership S) {e : ExecutionEventRecord} {b : Bool}
    (hmay : MayAppend (S.past i) e) (j : Nat) (r : Uuid)
    (hrefused : holding r (S.past j) = .refused) :
    holding r ((S.called i (.append e) (.ok b) l).past j) = .refused := by
  by_cases hr : e.orderRequestId ≠ r ∨ j ≠ i
  · rw [(appended_past j r hr).1, hrefused]
  · simp only [not_or, Decidable.not_not] at hr
    obtain ⟨rfl, rfl⟩ := hr
    have hss : e.eventType ≠ .submissionStarted := by
      intro hss
      have := (h.owner_appends hmay (.inr hrefused)).2.2.2 hss
      rw [hrefused] at this
      cases this
    simp [holding, holdingAfter, hss, hrefused]

theorem append (h : Ownership S) {e : ExecutionEventRecord} (hmay : MayAppend (S.past i) e)
    (hrow : ∃ row ∈ S.ledger.requests, row.orderRequestId = e.orderRequestId) :
    Ownership (S.called i (.append e) (.ok true)
      { S.ledger with events := S.ledger.events ++ [e] }) := by
  have hsub : S.ledger.events ⊆ S.ledger.events ++ [e] := List.subset_append_left ..
  have htrace := called_trace (S := S) (i := i) (c := .append e) (a := .ok true)
    (l := { S.ledger with events := S.ledger.events ++ [e] }) fun _ _ _ _ h => by cases h
  exact {
    claimed := fun j r hj => h.claimed j r (appended_holding hmay j r hj)
    unique := fun j k r hj hk =>
      h.unique j k r (appended_holding hmay j r hj) (appended_holding hmay k r hk)
    fresh := by
      intro j r hj
      by_cases hr : e.orderRequestId = r
      · subst hr
        have hj' : holding e.orderRequestId (S.past j) = .owned
            ∨ holding e.orderRequestId (S.past j) = .refused := by
          by_cases hji : j = i
          · subst hji
            simp only [Scene.called_past_self, holding, holdingAfter, true_and] at hj
            split at hj
            · rcases hj with hj | hj <;> cases hj
            · exact hj
          · rwa [(appended_past j _ (.inr hji)).1] at hj
        -- only the owner itself can have appended to a history that is all early
        obtain ⟨rfl, hk, hadv, hss⟩ := h.owner_appends hmay hj'
        obtain ⟨hu, -, hhist, hearly⟩ := h.fresh j _ hj'
        have hne : e.eventType ≠ .submissionStarted := by
          intro hss'
          simp only [Scene.called_past_self, holding, holdingAfter, true_and, if_pos hss'] at hj
          rcases hj with hj | hj <;> cases hj
        simp only [Scene.called_ledger, Ledger.eventsFor_append_self (l := S.ledger) rfl,
          types_append]
        refine ⟨⟨hu.consumed, hu.sent⟩, ?_, ?_, ?_⟩
        · unfold known at hk ⊢
          simp [recollect, executionNews, hk]
        · exact (histories_grow _ hhist _ (List.mem_append_left _ hadv)).1
        · intro t ht
          rcases List.mem_append.mp ht with ht | ht
          · exact hearly t ht
          · rw [List.mem_singleton.mp ht]
            exact early_advances _ hhist hearly _ hadv hne
      · rw [(appended_past j r (.inl hr)).1] at hj
        obtain ⟨hu, hk, hrest⟩ := h.fresh j r hj
        rw [(appended_past j r (.inl hr)).2]
        simp only [Scene.called_ledger, Ledger.eventsFor_append_of_ne (l := S.ledger) hr]
        exact ⟨⟨hu.consumed, hu.sent⟩, hk, hrest⟩
    remembered := by
      intro j r events hj t ht
      by_cases hr : e.orderRequestId ≠ r ∨ j ≠ i
      · rw [(appended_past j r hr).2] at hj
        exact Ledger.types_eventsFor_mono hsub (h.remembered j r events hj t ht)
      · simp only [not_or, Decidable.not_not] at hr
        obtain ⟨rfl, rfl⟩ := hr
        simp only [Scene.called_past_self, known, recollect, executionNews, if_true,
          Option.map_eq_some_iff] at hj
        obtain ⟨events', hk, rfl⟩ := hj
        simp only [Scene.called_ledger, Ledger.eventsFor_append_self (l := S.ledger) rfl,
          types_append] at ht ⊢
        rcases List.mem_append.mp ht with ht | ht
        · exact List.mem_append_left _ (h.remembered j _ events' hk t ht)
        · exact List.mem_append_right _ ht
    committed := by
      intro j r hj
      obtain ⟨hc, hs⟩ := h.committed j r ((htrace j).1 r hj)
      exact ⟨hc.mono hsub (List.Subset.refl _), hs⟩
    sent := fun s hs => (h.sent s hs).mono hsub (List.Subset.refl _)
    once := h.once
    permits := h.permits
    named := h.named
    started := fun c hc => Ledger.types_eventsFor_mono hsub (h.started c hc)
    refs := by
      intro e' he'
      rcases List.mem_append.mp he' with he' | he'
      · exact h.refs e' he'
      · rw [List.mem_singleton.mp he']
        exact hrow
    denied := by
      intro j permitId r now payload b hmem hb
      exact h.appended_denied hmay j r
        (h.denied j permitId r now payload b ((htrace j).2 _ _ _ _ _ hmem) hb) }

/-- An event that is there already was not appended by an owner who has not committed. -/
theorem repeated (h : Ownership S) {e e' : ExecutionEventRecord}
    (hmay : MayAppend (S.past i) e)
    (hthere : Table.lookup ExecutionEventRecord.key S.ledger.events e.key = some e') :
    Ownership (S.called i (.append e) (.ok false) S.ledger) := by
  have hmem : e.eventType ∈ types (S.ledger.eventsFor e.orderRequestId) :=
    Ledger.mem_types_of_lookup hthere
  -- what an owner appends comes next in the whole history, so it was not there
  have hnot : ∀ j, holding e.orderRequestId (S.past j) = .owned
      ∨ holding e.orderRequestId (S.past j) = .refused → False := by
    intro j hj
    obtain ⟨-, -, hadv, -⟩ := h.owner_appends hmay hj
    obtain ⟨-, -, hhist, -⟩ := h.fresh j _ hj
    exact (histories_grow _ hhist _ (List.mem_append_left _ hadv)).2 hmem
  have htrace := called_trace (S := S) (i := i) (c := .append e) (a := .ok false)
    (l := S.ledger) fun _ _ _ _ h => by cases h
  exact {
    claimed := fun j r hj => h.claimed j r (appended_holding hmay j r hj)
    unique := fun j k r hj hk =>
      h.unique j k r (appended_holding hmay j r hj) (appended_holding hmay k r hk)
    fresh := by
      intro j r hj
      by_cases hr : e.orderRequestId ≠ r ∨ j ≠ i
      · rw [(appended_past j r hr).1] at hj
        rw [(appended_past j r hr).2]
        exact h.fresh j r hj
      · simp only [not_or, Decidable.not_not] at hr
        obtain ⟨rfl, rfl⟩ := hr
        simp only [Scene.called_past_self, holding, holdingAfter, true_and] at hj
        split at hj
        · rcases hj with hj | hj <;> cases hj
        · exact (hnot j hj).elim
    remembered := by
      intro j r events hj t ht
      by_cases hr : e.orderRequestId ≠ r ∨ j ≠ i
      · rw [(appended_past j r hr).2] at hj
        exact h.remembered j r events hj t ht
      · simp only [not_or, Decidable.not_not] at hr
        obtain ⟨rfl, rfl⟩ := hr
        simp only [Scene.called_past_self, known, recollect, executionNews, if_true,
          Option.map_eq_some_iff] at hj
        obtain ⟨events', hk, rfl⟩ := hj
        rw [types_append] at ht
        rcases List.mem_append.mp ht with ht | ht
        · exact h.remembered j _ events' hk t ht
        · rw [List.mem_singleton.mp ht]
          exact hmem
    committed := fun j r hj => h.committed j r ((htrace j).1 r hj)
    sent := h.sent
    once := h.once
    permits := h.permits
    named := h.named
    started := h.started
    refs := h.refs
    denied := by
      intro j permitId r now payload b hmem hb
      exact h.appended_denied hmay j r
        (h.denied j permitId r now payload b ((htrace j).2 _ _ _ _ _ hmem) hb) }

/-! ### Reading -/

omit [Externals] in
theorem read (h : Ownership S) (r : Uuid) :
    Ownership (S.called i (.eventsFor r) (.ok (S.ledger.eventsFor r)) S.ledger) := by
  have hheld : ∀ j r', holding r' ((S.called i (.eventsFor r) (.ok (S.ledger.eventsFor r))
      S.ledger).past j) = holding r' (S.past j) := by
    intro j r'
    by_cases hj : j = i
    · subst hj; rw [Scene.called_past_self]; rfl
    · rw [Scene.called_past_of_ne hj]
  have hknown : ∀ j r' events, known r' ((S.called i (.eventsFor r)
      (.ok (S.ledger.eventsFor r)) S.ledger).past j) = some events →
      known r' (S.past j) = some events ∨ events = S.ledger.eventsFor r' := by
    intro j r' events hk
    by_cases hj : j = i
    · subst hj
      by_cases hr : r = r'
      · subst hr
        simp only [Scene.called_past_self, known, recollect, executionNews, if_true] at hk
        cases hk
        exact .inr rfl
      · simp only [Scene.called_past_self, known, recollect, executionNews, if_neg hr] at hk
        exact .inl hk
    · rw [Scene.called_past_of_ne hj] at hk
      exact .inl hk
  have htrace := called_trace (S := S) (i := i) (c := .eventsFor r)
    (a := .ok (S.ledger.eventsFor r)) (l := S.ledger) fun _ _ _ _ h => by cases h
  exact {
    claimed := fun j r' hj => h.claimed j r' (by rwa [hheld] at hj)
    unique := fun j k r' hj hk => h.unique j k r' (by rwa [hheld] at hj) (by rwa [hheld] at hk)
    fresh := by
      intro j r' hj
      rw [hheld] at hj
      obtain ⟨hu, hk, hrest⟩ := h.fresh j r' hj
      refine ⟨hu, ?_, hrest⟩
      by_cases hji : j = i
      · -- the worker knows what it has just read, the whole of it
        subst hji
        by_cases hr : r = r'
        · subst hr; simp [known, recollect, executionNews]
        · unfold known at hk ⊢
          simp [recollect, executionNews, hr, hk]
      · rw [Scene.called_past_of_ne hji]
        exact hk
    remembered := by
      intro j r' events hk t ht
      rcases hknown j r' events hk with hk | rfl
      · exact h.remembered j r' events hk t ht
      · exact ht
    committed := fun j r' hj => h.committed j r' ((htrace j).1 r' hj)
    sent := h.sent
    once := h.once
    permits := h.permits
    named := h.named
    started := h.started
    refs := h.refs
    denied := by
      intro j permitId r' now payload a hmem ha
      rw [hheld]
      exact h.denied j permitId r' now payload a ((htrace j).2 _ _ _ _ _ hmem) ha }

/-! ### Committing -/

section

variable {permitId r : Uuid} {now : UtcDatetime} {payload : Json}

omit [Externals] in
/-- The others hold other requests. -/
theorem commit_alone (h : Ownership S) (howned : holding r (S.past i) = .owned) {j : Nat}
    (hj : j ≠ i) : holding r (S.past j) = .none := by
  by_contra hne
  exact hj (h.unique j i r hne (by simp [howned]))

omit [Externals] in
theorem commit_unique (h : Ownership S) (howned : holding r (S.past i) = .owned) {j k : Nat}
    {r' : Uuid} (hj : holding r' ((S.committing i permitId r now payload).past j) ≠ .none)
    (hk : holding r' ((S.committing i permitId r now payload).past k) ≠ .none) : j = k := by
  by_cases hr : r = r'
  · subst hr
    have honly : ∀ j, holding r ((S.committing i permitId r now payload).past j) ≠ .none → j = i := by
      intro j hj
      by_contra hne
      rw [Scene.called_past_of_ne hne, h.commit_alone howned hne] at hj
      exact hj rfl
    rw [honly j hj, honly k hk]
  · rw [committing_holding hr] at hj hk
    exact h.unique j k r' hj hk

omit [Externals] in
/-- Who has committed is no longer an owner, so only other requests are fresh. -/
theorem commit_fresh (h : Ownership S) (howned : holding r (S.past i) = .owned) {j : Nat}
    {r' : Uuid} (hj : holding r' ((S.committing i permitId r now payload).past j) = .owned
      ∨ holding r' ((S.committing i permitId r now payload).past j) = .refused) :
    Untouched (S.committing i permitId r now payload).ledger r'
      ∧ known r' ((S.committing i permitId r now payload).past j)
        = some ((S.committing i permitId r now payload).ledger.eventsFor r')
      ∧ types ((S.committing i permitId r now payload).ledger.eventsFor r') ∈ histories
      ∧ ∀ t ∈ types ((S.committing i permitId r now payload).ledger.eventsFor r'), t ∈ early := by
  have hr : r ≠ r' := by
    rintro rfl
    by_cases hji : j = i
    · subst hji
      simp only [Scene.called_past_self, holding, holdingAfter, if_true] at hj
      rcases hj with hj | hj <;> cases hj
    · rw [Scene.called_past_of_ne hji, h.commit_alone howned hji] at hj
      rcases hj with hj | hj <;> cases hj
  rw [committing_holding hr] at hj
  obtain ⟨hu, hrest⟩ := h.fresh j r' hj
  rw [committing_known hr, committing_eventsFor hr]
  refine ⟨⟨fun c hc => ?_, hu.sent⟩, hrest⟩
  rcases List.mem_append.mp hc with hc | hc
  · exact hu.consumed c hc
  · rw [List.mem_singleton.mp hc]
    exact hr

omit [Externals] in
theorem commit_remembered (h : Ownership S) {events : List ExecutionEventRecord} {j : Nat}
    {r' : Uuid} (hj : known r' ((S.committing i permitId r now payload).past j) = some events) :
    ∀ t ∈ types events, t ∈ types ((S.committing i permitId r now payload).ledger.eventsFor r') := by
  intro t ht
  by_cases hself : j = i ∧ r = r'
  · obtain ⟨rfl, rfl⟩ := hself
    obtain ⟨events', hk, rfl⟩ := Option.map_eq_some_iff.mp
      (by simpa [known, recollect, executionNews] using hj)
    rw [types_append] at ht
    rcases List.mem_append.mp ht with ht | ht
    · exact committing_mono (h.remembered j r events' hk t ht)
    · rw [committing_types]
      exact List.mem_append_right _ ht
  · have hsame : known r' ((S.committing i permitId r now payload).past j) = known r' (S.past j) := by
      by_cases hji : j = i
      · exact committing_known (fun hr => hself ⟨hji, hr⟩) j
      · rw [Scene.called_past_of_ne hji]
    rw [hsame] at hj
    exact committing_mono (h.remembered j r' events hj t ht)

omit [Externals] in
theorem commit_denied (h : Ownership S) (howned : holding r (S.past i) = .owned) {j : Nat}
    {permitId' r' : Uuid} {now' : UtcDatetime} {payload' : Json}
    {b : Except PyError Database.CanaryPermitConsumeOutcome}
    (hmem : ⟨.consumeAndStart permitId' r' now' payload', b⟩
      ∈ (S.committing i permitId r now payload).past j) (hb : b ≠ .ok .consumed) :
    holding r' ((S.committing i permitId r now payload).past j) = .refused := by
  have hbefore : ⟨.consumeAndStart permitId' r' now' payload', b⟩ ∈ S.past j := by
    by_cases hji : j = i
    · subst hji
      rw [Scene.called_past_self] at hmem
      rcases List.mem_cons.mp hmem with heq | hmem
      · cases heq
        exact absurd rfl hb
      · exact hmem
    · rwa [Scene.called_past_of_ne hji] at hmem
  have hrefused := h.denied j permitId' r' now' payload' b hbefore hb
  -- who was refused once is no owner, so this commitment is of another request
  have hr : r ≠ r' := by
    rintro rfl
    by_cases hji : j = i
    · subst hji
      rw [howned] at hrefused
      cases hrefused
    · rw [h.commit_alone howned hji] at hrefused
      cases hrefused
  rw [committing_holding hr]
  exact hrefused

omit [Externals] in
/-- **The commitment.** It is the owner's, and the first and only one. -/
theorem commit (h : Ownership S) (hmay : MayCommit (S.past i) r)
    (hfree : Table.lookup (·.permitId) S.ledger.consumptions permitId = none) :
    Ownership (S.committing i permitId r now payload) := by
  obtain ⟨howned, -⟩ := hmay
  obtain ⟨hu, -⟩ := h.fresh i r (.inl howned)
  have hkept : ∀ r', Committed S.ledger r' →
      Committed (S.committing i permitId r now payload).ledger r' :=
    fun r' hc => hc.mono (List.subset_append_left ..) (List.subset_append_left ..)
  have hstarted : .submissionStarted
      ∈ types ((S.committing i permitId r now payload).ledger.eventsFor r) := by
    rw [committing_types]
    exact List.mem_append_right _ (List.mem_singleton_self _)
  exact {
    claimed := by
      intro j r' hj
      by_cases hr : r = r'
      · subst hr
        exact h.claimed i r (by simp [howned])
      · rw [committing_holding hr] at hj
        exact h.claimed j r' hj
    unique := fun _ _ _ hj hk => h.commit_unique howned hj hk
    fresh := fun _ _ hj => h.commit_fresh howned hj
    remembered := fun _ _ _ hj => h.commit_remembered hj
    committed := by
      intro j r' hj
      by_cases hji : j = i
      · subst hji
        obtain ⟨_, _, _, _, hhead⟩ := hj
        rw [Scene.called_past_self] at hhead
        cases hhead
        -- nothing had been sent while the request was fresh
        exact ⟨⟨hstarted, ⟨permitId, r, now⟩, by simp, rfl⟩, hu.sent⟩
      · rw [Scene.called_past_of_ne hji] at hj
        obtain ⟨hc, hs⟩ := h.committed j r' hj
        exact ⟨hkept r' hc, hs⟩
    sent := fun s hs => hkept _ (h.sent s hs)
    once := h.once
    permits :=
      (Table.keyed_append h.permits hfree :
        Table.Keyed (fun c : CanaryPermitConsumption => c.permitId) _)
    named := by
      simp only [Scene.called_ledger, List.map_append, List.map_cons, List.map_nil]
      refine List.nodup_append.mpr ⟨h.named, by simp, ?_⟩
      intro r₁ h₁ r₂ h₂
      obtain ⟨c, hc, rfl⟩ := List.mem_map.mp h₁
      rw [List.mem_singleton.mp h₂]
      exact hu.consumed c hc
    started := by
      intro c hc
      rcases List.mem_append.mp hc with hc | hc
      · exact committing_mono (h.started c hc)
      · rw [List.mem_singleton.mp hc]
        exact hstarted
    refs := by
      intro e he
      rcases List.mem_append.mp he with he | he
      · exact h.refs e he
      · rw [List.mem_singleton.mp he]
        exact h.claimed i r (by simp [howned])
    denied := fun _ _ _ _ _ _ hmem hb => h.commit_denied howned hmem hb }

end

omit [Externals] in
/-- A commitment that was there already is nobody's to make. -/
theorem not_recommitted (h : Ownership S) {r : Uuid} {e : ExecutionEventRecord}
    (hmay : MayCommit (S.past i) r)
    (hthere : Table.lookup ExecutionEventRecord.key S.ledger.events (r, .submissionStarted)
      = some e) : False := by
  obtain ⟨-, -, -, hearly⟩ := h.fresh i r (.inl hmay.1)
  exact absurd (hearly _ (Ledger.mem_types_of_lookup hthere)) (by decide)

omit [Externals] in
/-- The permit was not consumed: nothing changed, and the owner will not try again. -/
theorem refuse (h : Ownership S) {permitId r : Uuid} {now : UtcDatetime} {payload : Json}
    {a : Except PyError Database.CanaryPermitConsumeOutcome} (hmay : MayCommit (S.past i) r)
    (ha : a ≠ .ok .consumed) :
    Ownership (S.called i (.consumeAndStart permitId r now payload) a S.ledger) := by
  obtain ⟨howned, -⟩ := hmay
  have hheld : ∀ j r', holding r' ((S.called i (.consumeAndStart permitId r now payload) a
      S.ledger).past j) = if j = i ∧ r = r' then .refused else holding r' (S.past j) := by
    intro j r'
    by_cases hj : j = i
    · subst hj
      rw [Scene.called_past_self, holding, holdingAfter_refused ha]
      simp
    · rw [Scene.called_past_of_ne hj, if_neg (fun hh => hj hh.1)]
  have hknown : ∀ j r', known r' ((S.called i (.consumeAndStart permitId r now payload) a
      S.ledger).past j) = known r' (S.past j) := by
    intro j r'
    by_cases hj : j = i
    · subst hj
      rw [Scene.called_past_self]
      simp only [known, recollect, executionNews_refused ha]
    · rw [Scene.called_past_of_ne hj]
  have hback : ∀ j r', holding r' ((S.called i (.consumeAndStart permitId r now payload) a
      S.ledger).past j) ≠ .none → holding r' (S.past j) ≠ .none := by
    intro j r' hj
    rw [hheld] at hj
    split at hj
    · rename_i hboth
      obtain ⟨rfl, rfl⟩ := hboth
      simp [howned]
    · exact hj
  exact {
    claimed := fun j r' hj => h.claimed j r' (hback j r' hj)
    unique := fun j k r' hj hk => h.unique j k r' (hback j r' hj) (hback k r' hk)
    fresh := by
      intro j r' hj
      rw [hheld] at hj
      rw [hknown]
      split at hj
      · rename_i hboth
        obtain ⟨rfl, rfl⟩ := hboth
        exact h.fresh j r (.inl howned)
      · exact h.fresh j r' hj
    remembered := by
      intro j r' events hj
      rw [hknown] at hj
      exact h.remembered j r' events hj
    committed := by
      intro j r' hj
      by_cases hji : j = i
      · subst hji
        obtain ⟨_, _, _, _, hhead⟩ := hj
        rw [Scene.called_past_self] at hhead
        cases hhead
        exact absurd rfl ha
      · rw [Scene.called_past_of_ne hji] at hj
        exact h.committed j r' hj
    sent := h.sent
    once := h.once
    permits := h.permits
    named := h.named
    started := h.started
    refs := h.refs
    denied := by
      intro j permitId' r' now' payload' b hmem hb
      rw [hheld]
      split
      · rfl
      · rename_i hnot
        by_cases hji : j = i
        · subst hji
          rw [Scene.called_past_self] at hmem
          rcases List.mem_cons.mp hmem with heq | hmem
          · cases heq
            exact absurd ⟨rfl, rfl⟩ hnot
          · exact h.denied j permitId' r' now' payload' b hmem hb
        · rw [Scene.called_past_of_ne hji] at hmem
          exact h.denied j permitId' r' now' payload' b hmem hb }

/-! ### Sending -/

omit [Externals] in
/-- **The order.** It follows its commitment, so it is the first for its request. -/
theorem send (h : Ownership S) {order : ApprovedOrder} {fate : SendFate}
    {a : Except PyError ExecutionResult} (hjust : JustCommitted (S.past i) order.orderRequestId) :
    Ownership (S.called i (.orderSend order) a
      { S.ledger with sends := S.ledger.sends ++ [⟨order, fate⟩] }) := by
  obtain ⟨hcommitted, hnone⟩ := h.committed i _ hjust
  have hheld : ∀ j r, holding r ((S.called i (.orderSend order) a
      { S.ledger with sends := S.ledger.sends ++ [⟨order, fate⟩] }).past j)
      = holding r (S.past j) := by
    intro j r
    by_cases hj : j = i
    · subst hj; rw [Scene.called_past_self]; rfl
    · rw [Scene.called_past_of_ne hj]
  have hknown : ∀ j r, known r ((S.called i (.orderSend order) a
      { S.ledger with sends := S.ledger.sends ++ [⟨order, fate⟩] }).past j)
      = known r (S.past j) := by
    intro j r
    by_cases hj : j = i
    · subst hj; rw [Scene.called_past_self]; rfl
    · rw [Scene.called_past_of_ne hj]
  have htrace := called_trace (S := S) (i := i) (c := .orderSend order) (a := a)
    (l := { S.ledger with sends := S.ledger.sends ++ [⟨order, fate⟩] }) fun _ _ _ _ h => by cases h
  -- whoever else stands with the request would be its owner too
  have hother : ∀ j r, holding r (S.past j) ≠ .none → (j ≠ i ∨ holding r (S.past j) ≠ .committed) →
      order.orderRequestId ≠ r := by
    rintro j r hj hor rfl
    have hji := h.unique j i _ hj (by simp [hjust.holding])
    subst hji
    rcases hor with hor | hor
    · exact hor rfl
    · exact hor hjust.holding
  exact {
    claimed := fun j r hj => h.claimed j r (by rwa [hheld] at hj)
    unique := fun j k r hj hk => h.unique j k r (by rwa [hheld] at hj) (by rwa [hheld] at hk)
    fresh := by
      intro j r hj
      rw [hheld] at hj
      rw [hknown]
      obtain ⟨hu, hrest⟩ := h.fresh j r hj
      refine ⟨⟨hu.consumed, ?_⟩, hrest⟩
      intro s hs
      rcases List.mem_append.mp hs with hs | hs
      · exact hu.sent s hs
      · rw [List.mem_singleton.mp hs]
        refine hother j r ?_ (.inr ?_) <;> rcases hj with hj | hj <;> simp [hj]
    remembered := fun j r events hj => h.remembered j r events (by rwa [hknown] at hj)
    committed := by
      intro j r hj
      -- the sender's last call is the order now, not its commitment
      have hji : j ≠ i := by
        rintro rfl
        obtain ⟨_, _, _, _, hhead⟩ := hj
        rw [Scene.called_past_self] at hhead
        cases hhead
      have hbefore := (htrace j).1 r hj
      obtain ⟨hc, hs⟩ := h.committed j r hbefore
      refine ⟨⟨hc.started, hc.consumed⟩, ?_⟩
      intro s hmem
      rcases List.mem_append.mp hmem with hmem | hmem
      · exact hs s hmem
      · rw [List.mem_singleton.mp hmem]
        exact hother j r (by simp [hbefore.holding]) (.inl hji)
    sent := by
      intro s hs
      rcases List.mem_append.mp hs with hs | hs
      · exact ⟨(h.sent s hs).started, (h.sent s hs).consumed⟩
      · rw [List.mem_singleton.mp hs]
        exact ⟨hcommitted.started, hcommitted.consumed⟩
    once := by
      simp only [Scene.called_ledger, List.map_append, List.map_cons, List.map_nil]
      refine List.nodup_append.mpr ⟨h.once, by simp, ?_⟩
      intro r₁ h₁ r₂ h₂
      obtain ⟨s, hs, rfl⟩ := List.mem_map.mp h₁
      rw [List.mem_singleton.mp h₂]
      exact hnone s hs
    permits := h.permits
    named := h.named
    started := h.started
    refs := h.refs
    denied := by
      intro j permitId r now payload b hmem hb
      rw [hheld]
      exact h.denied j permitId r now payload b ((htrace j).2 _ _ _ _ _ hmem) hb }

/-! ## Every reachable state -/

/-- **Every call the discipline allows keeps the ownership.** -/
theorem call (h : Ownership S) (hmay : mayCall (S.past i) c) (heff : Effect S.ledger c a l) :
    Ownership (S.called i c a l) := by
  cases heff with
  | claimed row hfree => exact h.claim hfree
  | appended e hfree hrow => exact h.append hmay hrow
  | repeated e e' hthere hsame => exact h.repeated hmay hthere
  | read r => exact h.read r
  | committed permitId r now payload hfree hnew hrow => exact h.commit hmay hfree
  | recommitted permitId r now payload e hfree hthere => exact (h.not_recommitted hmay hthere).elim
  | refused permitId r now payload a ha => exact h.refuse hmay ha
  | sent order fate a => exact h.send hmay
  | idle c a hidle => exact h.silent hidle.news hidle.holding rfl rfl rfl rfl
  | claimedFlatten row hfree => exact h.silent (fun _ => rfl) (fun _ _ => rfl) rfl rfl rfl rfl
  | appendedFlatten e hfree hrow => exact h.silent (fun _ => rfl) (fun _ _ => rfl) rfl rfl rfl rfl
  | repeatedFlatten e e' hthere hsame =>
      exact h.silent (fun _ => rfl) (fun _ _ => rfl) rfl rfl rfl rfl
  | readFlatten f => exact h.silent (fun _ => rfl) (fun _ _ => rfl) rfl rfl rfl rfl
  | closed instruction a => exact h.silent (fun _ => rfl) (fun _ _ => rfl) rfl rfl rfl rfl

end Ownership

end Crumblr
