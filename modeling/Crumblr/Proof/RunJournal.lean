import Crumblr.Proof.RunMoves
import Crumblr.Proof.RunResume

/-!
# What a run leaves in its journal

An event is built when its stage is recorded, and stored when the window seals: in between it
waits. The journal and what waits for it, taken together, grow by one event with each stage, so
that what holds of the two together holds of every first part of them, and a journal is always
that, however the run was stopped.
-/

namespace Crumblr

open Resume

/-! ## Stages -/

/-- A stage, as it is recorded. -/
structure Noted where
  payload : RunPayload
  correlationId : Uuid
  occurredAtUtc : UtcDatetime

/-- The stage that an event is about. -/
def Event.noted (e : Event) : Noted := ⟨e.payload, e.correlationId, e.occurredAtUtc⟩

/-- The stages that a call records. -/
def RecorderCall.noted : RecorderCall → List Noted
  | .record payload correlationId occurredAtUtc _ => [⟨payload, correlationId, occurredAtUtc⟩]
  | .seal capsule => [⟨.decisionCapsule capsule, capsule.correlationId, capsule.occurredAtUtc⟩]
  | _ => []

section

variable [Externals] [ModelDump] {environment : Environment} {es : List Event} {ns : List Noted}

/-- Events built for stages, one for each. -/
structure Built (environment : Environment) (es : List Event) (ns : List Noted) : Prop where
  noted : es.map Event.noted = ns
  environment_eq : ∀ e ∈ es, e.environment = environment
  identity : ∀ e ∈ es, e.eventId = eventIdentity e.payload e.correlationId

theorem Built.nil : Built environment [] [] := ⟨rfl, by simp, by simp⟩

theorem Built.append {es' : List Event} {ns' : List Noted} (h : Built environment es ns)
    (h' : Built environment es' ns') : Built environment (es ++ es') (ns ++ ns') where
  noted := by rw [List.map_append, h.noted, h'.noted]
  environment_eq e he := (List.mem_append.mp he).elim (h.environment_eq e) (h'.environment_eq e)
  identity e he := (List.mem_append.mp he).elim (h.identity e) (h'.identity e)

end

/-- The journal with the events that wait for it. -/
def RecorderBuffer.journal (b : RecorderBuffer) (s : RunStore) : List Event :=
  b.pending.foldl EventJournal.append s.events

theorem RecorderBuffer.prefix_journal (b : RecorderBuffer) (s : RunStore) :
    s.events <+: b.journal s := Table.prefix_foldl_insertNew

/-! ## What the transactions do to the journal -/

section

variable {s s' : RunStore} {ticks : List StoredTick} {bars : List MarketBar}
  {features : FeatureEvidence} {b : RecorderBuffer}

theorem observations_frame (h : observations ticks bars s = .ok s') :
    s'.events = s.events ∧ s'.capsules = s.capsules := by
  obtain ⟨bars', -, rfl⟩ := observations_ok h
  exact ⟨rfl, rfl⟩

theorem evidence_frame (h : evidence features s = .ok s') :
    s'.events = s.events ∧ s'.capsules = s.capsules := by
  unfold evidence transactionOf RunStore.recordFeatures at h
  split at h
  · cases h
    exact ⟨rfl, rfl⟩
  · cases h

/-- A transaction that went through alone. -/
theorem commit_singleton {t : RunTransaction} (h : commit [t] s = (s', none)) : t s = .ok s' := by
  cases ht : t s with
  | ok s₁ =>
      rw [commit_cons_ok ht] at h
      cases h
      rfl
  | error e =>
      rw [commit_cons_error ht] at h
      cases h

theorem marketTransactions_frame (h : commit b.marketTransactions s = (s', none)) :
    s'.events = s.events ∧ s'.capsules = s.capsules := by
  unfold RecorderBuffer.marketTransactions at h
  split at h
  · cases h
    exact ⟨rfl, rfl⟩
  · exact observations_frame (commit_singleton h)

end

section

variable [Externals] [ModelDump] {b b' : RecorderBuffer} {s s' : RunStore} {c : RecorderCall}
  {payload : RunPayload} {correlationId : Uuid} {occurredAtUtc : UtcDatetime} {source : String}

/-- What recording a stage comes to: one event more waits, caused by the one before it in its
window. -/
theorem record_ok (h : b.record payload correlationId occurredAtUtc source = .ok b') :
    ∃ e : Event, b' = { b with
        pending := b.pending ++ [e]
        chainCorrelationId := some correlationId
        chainLastEventId := some e.eventId }
      ∧ e.noted = ⟨payload, correlationId, occurredAtUtc⟩ ∧ e.environment = b.environment
      ∧ e.eventId = eventIdentity e.payload e.correlationId
      ∧ e.causationId = if b.chainCorrelationId = some correlationId then b.chainLastEventId
          else none := by
  unfold RecorderBuffer.record at h
  obtain ⟨e, hbuild, h⟩ := bind_ok h
  cases h
  unfold buildEvent at hbuild
  split at hbuild
  · cases hbuild
    exact ⟨_, rfl, rfl, rfl, rfl, rfl⟩
  · cases hbuild

omit [Externals] [ModelDump] in
theorem journal_record {e : Event} :
    RecorderBuffer.journal { b with
        pending := b.pending ++ [e]
        chainCorrelationId := some correlationId
        chainLastEventId := some e.eventId } s
      = EventJournal.append (b.journal s) e := by
  unfold RecorderBuffer.journal
  rw [List.foldl_append]
  rfl

/-- What a call that went through does to the journal: nothing, or one event more. -/
inductive Stepped (b : RecorderBuffer) (chain : Option Uuid) (j j' : List Event) :
    List Noted → Prop
  | still : j' = j → chain = b.chainLastEventId → Stepped b chain j j' []
  | grown (e : Event) : e.environment = b.environment →
      e.eventId = eventIdentity e.payload e.correlationId →
      (∀ id ∈ e.causationId, id ∈ b.chainLastEventId) → j' = EventJournal.append j e →
      chain = some e.eventId → Stepped b chain j j' [e.noted]

theorem Stepped.record (h : b.record payload correlationId occurredAtUtc source = .ok b') :
    Stepped b b'.chainLastEventId (b.journal s) (b'.journal s) [⟨payload, correlationId, occurredAtUtc⟩] := by
  obtain ⟨e, rfl, hnoted, henvironment, hid, hcause⟩ := record_ok h
  rw [← hnoted]
  refine .grown e henvironment hid ?_ journal_record rfl
  intro id hc
  rw [hcause] at hc
  split at hc
  · exact hc
  · cases hc

/-- What waits at a flush went through: the observations first, and then the events. -/
theorem commit_flush (h : commit (b.plan .flush).1 s = (s', none)) :
    s'.events = b.journal s ∧ s'.capsules = s.capsules := by
  have hplan : (b.plan .flush).1
      = b.marketTransactions ++ if b.pending = [] then [] else [appending b.pending] := rfl
  rw [hplan] at h
  rcases hmarket : commit b.marketTransactions s with ⟨s₁, _ | e⟩
  · obtain ⟨hevents, hcapsules⟩ := marketTransactions_frame hmarket
    rw [commit_append_none hmarket] at h
    unfold RecorderBuffer.journal
    rw [← hevents, ← hcapsules]
    split at h
    · rename_i hnone
      cases h
      rw [hnone]
      exact ⟨rfl, rfl⟩
    · have happend := commit_singleton h
      cases happend
      exact ⟨rfl, rfl⟩
  · rw [commit_append_some hmarket] at h
    cases h

/-- **A call that went through grows the journal by its stages.** -/
theorem plan_stepped (h : commit (b.plan c).1 s = (s', none)) (hb : (b.plan c).2 = some b') :
    b'.environment = b.environment
      ∧ Stepped b b'.chainLastEventId (b.journal s) (b'.journal s') c.noted := by
  cases c with
  | observe tick bar =>
      unfold RecorderBuffer.plan at h hb
      dsimp only at h hb
      split at h
      · rename_i hfull
        rw [if_pos hfull] at hb
        cases hb
        obtain ⟨hevents, -⟩ := marketTransactions_frame h
        refine ⟨rfl, .still ?_ rfl⟩
        unfold RecorderBuffer.journal
        rw [hevents]
        rfl
      · rename_i hnotfull
        rw [if_neg hnotfull] at hb
        cases hb
        cases h
        exact ⟨rfl, .still rfl rfl⟩
  | recordFeatures features =>
      cases hb
      obtain ⟨hevents, -⟩ := evidence_frame (commit_singleton h)
      refine ⟨rfl, .still ?_ rfl⟩
      unfold RecorderBuffer.journal
      rw [hevents]
  | record payload correlationId occurredAtUtc source =>
      cases h
      change (b.record payload correlationId occurredAtUtc source).toOption = some b' at hb
      cases hrecord : b.record payload correlationId occurredAtUtc source with
      | error e =>
          rw [hrecord] at hb
          cases hb
      | ok noted =>
          rw [hrecord] at hb
          cases hb
          obtain ⟨e, rfl, -⟩ := record_ok hrecord
          exact ⟨rfl, .record hrecord⟩
  | «seal» capsule =>
      unfold RecorderBuffer.plan at h hb
      dsimp only at h hb
      cases hrecord : b.record (.decisionCapsule capsule) capsule.correlationId
          capsule.occurredAtUtc "orchestration" with
      | error e =>
          rw [hrecord] at hb
          cases hb
      | ok noted =>
          rw [hrecord] at h hb
          cases hb
          have hsealing := commit_singleton h
          cases hsealing
          have hstep := Stepped.record (s := s) hrecord
          obtain ⟨e, rfl, -⟩ := record_ok hrecord
          exact ⟨rfl, hstep⟩
  | flush =>
      cases hb
      obtain ⟨hevents, -⟩ := commit_flush h
      exact ⟨rfl, .still hevents rfl⟩

end

/-! ## Causes -/

/-- Every event comes after the event that caused it. -/
def Caused (events : List Event) : Prop :=
  ∀ before e after, events = before ++ e :: after → ∀ c ∈ e.causationId, c ∈ before.map (·.eventId)

section

variable {events : List Event} {e : Event}

theorem Caused.nil : Caused [] := by
  intro before e after h
  cases before <;> cases h

theorem Caused.append (h : Caused events) (he : ∀ c ∈ e.causationId, c ∈ events.map (·.eventId)) :
    Caused (EventJournal.append events e) := by
  rcases Table.insertNew_cases (·.eventId) events e with ⟨-, heq⟩ | ⟨-, heq⟩
  · unfold EventJournal.append
    rw [heq]
    intro before x after hsplit
    rcases List.eq_nil_or_concat after with rfl | ⟨after, y, rfl⟩
    · obtain ⟨rfl, hx⟩ := List.append_inj' hsplit rfl
      cases hx
      exact he
    · rw [List.concat_eq_append] at hsplit
      have hsplit' : events ++ [e] = (before ++ x :: after) ++ [y] := by simpa using hsplit
      obtain ⟨hevents, -⟩ := List.append_inj' hsplit' rfl
      exact h before x after hevents
  · unfold EventJournal.append
    rw [heq]
    exact h

/-- Its id is there after an event was stored, whether it was new or not. -/
theorem mem_append_id : e.eventId ∈ (EventJournal.append events e).map (·.eventId) := by
  have hall : e.eventId ∈ ([e].foldl (Table.insertNew (·.eventId)) events).map (·.eventId) :=
    Table.mem_keys_foldl_insertNew (.inr (by simp))
  exact hall

theorem mem_append_of_mem {id : Uuid} (h : id ∈ events.map (·.eventId)) :
    id ∈ (EventJournal.append events e).map (·.eventId) := by
  have hall : id ∈ ([e].foldl (Table.insertNew (·.eventId)) events).map (·.eventId) :=
    Table.mem_keys_foldl_insertNew (.inl h)
  exact hall

end

section

variable [Externals] [ModelDump] {b b' : RecorderBuffer} {s s' : RunStore} {c : RecorderCall}

/-- What a store says of itself, whatever became of the runs that wrote it. -/
structure RunStore.Sound (s : RunStore) : Prop where
  ids : Table.Keyed (·.eventId) s.events
  caused : Caused s.events
  capsuleIds : Table.Keyed (·.capsuleId) s.capsules
  /-- A capsule's sealing is in the journal. -/
  sealing : ∀ capsule ∈ s.capsules,
    eventIdentity (.decisionCapsule capsule) capsule.correlationId ∈ s.events.map (·.eventId)
  /-- What the journal says is sealed is in the capsule store. -/
  capsule : ∀ e ∈ s.events, ∀ capsule, e.payload = .decisionCapsule capsule →
    capsule.capsuleId ∈ s.capsules.map (·.capsuleId)

/-- A recorder that goes on from events that are stored or wait to be. -/
structure RecorderBuffer.Sound (b : RecorderBuffer) (s : RunStore) : Prop where
  store : s.Sound
  caused : Caused (b.journal s)
  chain : ∀ id ∈ b.chainLastEventId, id ∈ (b.journal s).map (·.eventId)
  waiting : ∀ e ∈ b.pending, ∀ capsule, e.payload ≠ .decisionCapsule capsule

/-- A capsule is recorded by sealing it, and not otherwise. -/
def RecorderCall.Proper : RecorderCall → Prop
  | .record payload _ _ _ => ∀ capsule, payload ≠ .decisionCapsule capsule
  | _ => True

theorem RunStore.Sound.frame (h : s.Sound) (hevents : s'.events = s.events)
    (hcapsules : s'.capsules = s.capsules) : s'.Sound := by
  obtain ⟨h₁, h₂, h₃, h₄, h₅⟩ := h
  constructor <;> rw [hevents] at * <;> rw [hcapsules] at * <;> assumption

/-- The journal with what waits for it says no more of capsules than the journal does. -/
theorem RecorderBuffer.Sound.of_journal (h : b.Sound s) {e : Event} (he : e ∈ b.journal s)
    {capsule : RunCapsule} (hpayload : e.payload = .decisionCapsule capsule) :
    capsule.capsuleId ∈ s.capsules.map (·.capsuleId) := by
  rcases Table.mem_of_foldl_insertNew he with hstored | hpending
  · exact h.store.capsule e hstored capsule hpayload
  · exact absurd hpayload (h.waiting e hpending capsule)

theorem RecorderBuffer.Sound.appended (h : b.Sound s) (hevents : s'.events = b.journal s)
    (hcapsules : s'.capsules = s.capsules) : s'.Sound where
  ids := hevents ▸ Table.keyed_foldl_insertNew h.store.ids
  caused := hevents ▸ h.caused
  capsuleIds := hcapsules ▸ h.store.capsuleIds
  sealing := by
    intro capsule hc
    rw [hcapsules] at hc
    rw [hevents]
    exact ((b.prefix_journal s).map (·.eventId)).subset (h.store.sealing capsule hc)
  capsule := by
    intro e he capsule hpayload
    rw [hevents] at he
    rw [hcapsules]
    exact h.of_journal he hpayload

/-- A window that seals stores its events and its capsule together. -/
theorem RecorderBuffer.Sound.sealed (h : b.Sound s) {capsule : RunCapsule}
    (hrecord : b.record (.decisionCapsule capsule) capsule.correlationId capsule.occurredAtUtc
      "orchestration" = .ok b') : (RunStore.seal b'.pending capsule s).Sound := by
  obtain ⟨e, rfl, hnoted, -, hid, hcause⟩ := record_ok hrecord
  have hpayload : e.payload = .decisionCapsule capsule := congrArg Noted.payload hnoted
  have hcorrelation : e.correlationId = capsule.correlationId := congrArg Noted.correlationId hnoted
  have hevents : (RunStore.seal (b.pending ++ [e]) capsule s).events
      = EventJournal.append (b.journal s) e := by
    change (b.pending ++ [e]).foldl EventJournal.append s.events = _
    rw [List.foldl_append]
    rfl
  have hcapsules : (RunStore.seal (b.pending ++ [e]) capsule s).capsules
      = [capsule].foldl (Table.insertNew (·.capsuleId)) s.capsules := rfl
  have hcapsuleIn : capsule.capsuleId
      ∈ ([capsule].foldl (Table.insertNew (·.capsuleId)) s.capsules).map (·.capsuleId) :=
    Table.mem_keys_foldl_insertNew (.inr (by simp))
  constructor
  · rw [hevents]
    have hall : Table.Keyed (·.eventId) ([e].foldl (Table.insertNew (·.eventId)) (b.journal s)) :=
      Table.keyed_foldl_insertNew (Table.keyed_foldl_insertNew h.store.ids)
    exact hall
  · rw [hevents]
    refine h.caused.append fun id hcid => ?_
    rw [hcause] at hcid
    split at hcid
    · exact h.chain id hcid
    · cases hcid
  · rw [hcapsules]
    exact Table.keyed_foldl_insertNew h.store.capsuleIds
  · intro c hc
    rw [hcapsules] at hc
    rw [hevents]
    rcases Table.mem_of_foldl_insertNew hc with hc | hc
    · exact mem_append_of_mem (((b.prefix_journal s).map (·.eventId)).subset
        (h.store.sealing c hc))
    · obtain rfl := List.mem_singleton.mp hc
      rw [← hpayload, ← hcorrelation, ← hid]
      exact mem_append_id
  · intro x hx c hc
    rw [hevents] at hx
    rw [hcapsules]
    have hall : x ∈ [e].foldl (Table.insertNew (·.eventId)) (b.journal s) := hx
    rcases Table.mem_of_foldl_insertNew hall with hx | hx
    · exact Table.mem_keys_foldl_insertNew (.inl (h.of_journal hx hc))
    · obtain rfl := List.mem_singleton.mp hx
      rw [hpayload] at hc
      cases hc
      exact hcapsuleIn

omit [Externals] [ModelDump] in
/-- Observations and what a strategy saw are stored elsewhere. -/
theorem commit_frame (ts : List RunTransaction)
    (hts : ∀ t ∈ ts, ∀ s s', t s = .ok s' → s'.events = s.events ∧ s'.capsules = s.capsules) :
    (commit ts s).1.events = s.events ∧ (commit ts s).1.capsules = s.capsules := by
  induction ts generalizing s with
  | nil => exact ⟨rfl, rfl⟩
  | cons t ts ih =>
      cases ht : t s with
      | ok s₁ =>
          obtain ⟨hevents, hcapsules⟩ := hts t List.mem_cons_self s s₁ ht
          obtain ⟨hrest, hrest'⟩ := ih (s := s₁) fun u hu => hts u (List.mem_cons_of_mem _ hu)
          rw [commit_cons_ok ht]
          exact ⟨hrest.trans hevents, hrest'.trans hcapsules⟩
      | error e =>
          rw [commit_cons_error ht]
          exact ⟨rfl, rfl⟩

omit [Externals] [ModelDump] in
theorem market_frame {t : RunTransaction} (ht : t ∈ b.marketTransactions) (s s' : RunStore)
    (h : t s = .ok s') : s'.events = s.events ∧ s'.capsules = s.capsules := by
  unfold RecorderBuffer.marketTransactions at ht
  split at ht
  · cases ht
  · obtain rfl := List.mem_singleton.mp ht
    exact observations_frame h

/-- **Wherever a call is cut off**, the stores are sound. -/
theorem sound_cut (h : b.Sound s) (n : Nat) : (commit ((b.plan c).1.take n) s).1.Sound := by
  cases c with
  | observe tick bar =>
      obtain ⟨hevents, hcapsules⟩ := commit_frame (s := s)
        ((b.plan (.observe tick bar)).1.take n) (by
          intro t ht
          have hin := List.mem_of_mem_take ht
          unfold RecorderBuffer.plan at hin
          dsimp only at hin
          split at hin
          · exact market_frame hin
          · cases hin)
      exact h.store.frame hevents hcapsules
  | recordFeatures features =>
      obtain ⟨hevents, hcapsules⟩ := commit_frame (s := s)
        ((b.plan (.recordFeatures features)).1.take n) (by
          intro t ht
          obtain rfl := List.mem_singleton.mp (List.mem_of_mem_take ht)
          exact fun _ _ => evidence_frame)
      exact h.store.frame hevents hcapsules
  | record payload correlationId occurredAtUtc source =>
      have hnone : (b.plan (.record payload correlationId occurredAtUtc source)).1 = [] := rfl
      rw [hnone, List.take_nil]
      exact h.store
  | «seal» capsule =>
      unfold RecorderBuffer.plan
      dsimp only
      cases hrecord : b.record (.decisionCapsule capsule) capsule.correlationId
          capsule.occurredAtUtc "orchestration" with
      | error e =>
          rw [List.take_nil]
          exact h.store
      | ok noted =>
          cases n with
          | zero => exact h.store
          | succ n =>
              dsimp only
              rw [List.take_succ_cons, List.take_nil]
              exact h.sealed hrecord
  | flush =>
      have hplan : (b.plan .flush).1
          = b.marketTransactions ++ if b.pending = [] then [] else [appending b.pending] := rfl
      obtain ⟨hevents, hcapsules⟩ := commit_frame (s := s) (b.marketTransactions.take n)
        fun t ht => market_frame (List.mem_of_mem_take ht)
      rw [hplan, List.take_append]
      rcases hmarket : commit (b.marketTransactions.take n) s with ⟨s₁, _ | e⟩
      · rw [hmarket] at hevents hcapsules
        rw [commit_append_none hmarket]
        split
        · rw [List.take_nil]
          exact h.store.frame hevents hcapsules
        · cases n - b.marketTransactions.length with
          | zero => exact h.store.frame hevents hcapsules
          | succ k =>
              rw [List.take_succ_cons, List.take_nil]
              refine h.appended ?_ hcapsules
              unfold RecorderBuffer.journal
              rw [← hevents]
              rfl
      · rw [hmarket] at hevents hcapsules
        rw [commit_append_some hmarket]
        exact h.store.frame hevents hcapsules

/-- **A recorder goes on soundly** from a call that went through. -/
theorem sound_stepped (h : b.Sound s) (hproper : c.Proper)
    (hcommit : commit (b.plan c).1 s = (s', none)) (hb : (b.plan c).2 = some b') : b'.Sound s' := by
  obtain ⟨-, hstep⟩ := plan_stepped hcommit hb
  have hstore : s'.Sound := by
    have hcut := sound_cut (c := c) h (b.plan c).1.length
    rw [List.take_length, hcommit] at hcut
    exact hcut
  have hwaiting : ∀ e ∈ b'.pending, ∀ capsule, e.payload ≠ .decisionCapsule capsule := by
    cases c with
    | observe tick bar =>
        unfold RecorderBuffer.plan at hb
        dsimp only at hb
        split at hb
        · cases hb
          exact h.waiting
        · cases hb
          exact h.waiting
    | recordFeatures features =>
        cases hb
        exact h.waiting
    | record payload correlationId occurredAtUtc source =>
        change (b.record payload correlationId occurredAtUtc source).toOption = some b' at hb
        cases hrecord : b.record payload correlationId occurredAtUtc source with
        | error e =>
            rw [hrecord] at hb
            cases hb
        | ok noted =>
            rw [hrecord] at hb
            cases hb
            obtain ⟨e, rfl, hnoted, -⟩ := record_ok hrecord
            intro x hx
            rcases List.mem_append.mp hx with hx | hx
            · exact h.waiting x hx
            · obtain rfl := List.mem_singleton.mp hx
              have hpayload : x.payload = payload := congrArg Noted.payload hnoted
              rw [hpayload]
              exact hproper
    | «seal» capsule =>
        unfold RecorderBuffer.plan at hb
        dsimp only at hb
        cases hrecord : b.record (.decisionCapsule capsule) capsule.correlationId
            capsule.occurredAtUtc "orchestration" with
        | error e =>
            rw [hrecord] at hb
            cases hb
        | ok noted =>
            rw [hrecord] at hb
            cases hb
            exact fun e he => by cases he
    | flush =>
        cases hb
        exact fun e he => by cases he
  generalize c.noted = ns at hstep
  cases hstep with
  | still hjournal hchain =>
      exact ⟨hstore, hjournal ▸ h.caused, by rw [hchain, hjournal]; exact h.chain, hwaiting⟩
  | grown e _ _ hcause hjournal hchain =>
      refine ⟨hstore, ?_, ?_, hwaiting⟩
      · rw [hjournal]
        exact h.caused.append fun id hid => h.chain id (hcause id hid)
      · intro id hid
        rw [hchain] at hid
        cases hid
        rw [hjournal]
        exact mem_append_id

/-- **A run leaves sound stores**, wherever it is cut off. -/
theorem sound_planAll {calls : List RecorderCall} (h : b.Sound s) (hcalls : ∀ c ∈ calls, c.Proper)
    (n : Nat) : (commit ((b.planAll calls).take n) s).1.Sound := by
  induction calls generalizing b s n with
  | nil =>
      have hnil : b.planAll [] = [] := rfl
      rw [hnil, List.take_nil]
      exact h.store
  | cons c calls ih =>
      rw [planAll_cons, List.take_append]
      have hcut := sound_cut (c := c) h n
      rcases hcommit : commit ((b.plan c).1.take n) s with ⟨s₁, _ | e⟩
      · rw [commit_append_none hcommit]
        rcases Nat.lt_or_ge n (b.plan c).1.length with hlt | hle
        · have hzero : n - (b.plan c).1.length = 0 := by omega
          rw [hcommit] at hcut
          rw [hzero, List.take_zero]
          exact hcut
        · rw [List.take_of_length_le hle] at hcommit
          cases hafter : (b.plan c).2 with
          | none =>
              rw [List.take_of_length_le hle, hcommit] at hcut
              simp only [Option.map_none, Option.getD_none, List.take_nil]
              exact hcut
          | some b' =>
              have hnext := sound_stepped h (hcalls c List.mem_cons_self) hcommit hafter
              simp only [Option.map_some, Option.getD_some]
              exact ih hnext (fun x hx => hcalls x (List.mem_cons_of_mem _ hx)) _
      · rw [commit_append_some hcommit]
        rw [hcommit] at hcut
        exact hcut

/-- A recorder that starts. -/
theorem sound_create (h : s.Sound) (environment : Environment) :
    (JournalRecorder.create environment).toRecorderBuffer.Sound s where
  store := h
  caused := h.caused
  chain := fun id hid => by cases hid
  waiting := fun e he => by cases he

end

/-! ## What a replay records -/

/-- No capsule is recorded but by sealing it. -/
def ProperCalls (s : ReplayState) : Prop := ∀ c ∈ s.calls, c.Proper

section

variable {s s' : ReplayState} {c : RecorderCall}

theorem RecorderCall.Plain.proper (h : c.Plain) : c.Proper := by
  cases c with
  | record payload correlationId occurredAtUtc source =>
      intro capsule hpayload
      subst hpayload
      exact h
  | _ => trivial

theorem ProperCalls.call (h : ProperCalls s) (hc : c.Proper) (hcalls : s'.calls = s.calls ++ [c]) :
    ProperCalls s' := by
  intro x hx
  rw [hcalls] at hx
  rcases List.mem_append.mp hx with hx | hx
  · exact h x hx
  · rw [List.mem_singleton.mp hx]
    exact hc

theorem proper_move [Externals] (h : ProperCalls s) (hmove : Move s s') : ProperCalls s' := by
  cases hmove with
  | inside hcalls _ _ =>
      intro x hx
      rw [hcalls] at hx
      exact h x hx
  | tick _ => exact h
  | call c hplain => exact h.call hplain.proper rfl
  | halt _ halt id at_ _ =>
      refine h.call (c := .record (.systemHalted halt) id at_ "risk_engine") ?_ rfl
      exact fun _ hpayload => by cases hpayload
  | submit order id at_ source _ =>
      refine h.call (c := .record (.orderSubmitted order) id at_ source) ?_ rfl
      exact fun _ hpayload => by cases hpayload
  | send _ _ _ => exact h

theorem proper_moved [Externals] (h : ProperCalls s) (hmoved : Moved s s') : ProperCalls s' := by
  induction hmoved with
  | refl => exact h
  | tail _ hmove ih => exact proper_move ih hmove

end

/-- A replay that is started: what it starts from, and how far this attempt gets. -/
structure ReplayStart where
  setup : ReplaySetup
  broker : SimulatedBroker
  startingEquity : Decimal
  killSwitch : KillSwitch
  sessionStore : RiskSessionStates
  ticks : List GeneratedTick
  attempt : Attempt

section

variable [Externals] [ModelDump]

/-- The calls its recorder is given, also those of a replay that raises. -/
def ReplayStart.calls (r : ReplayStart) : List RecorderCall :=
  match r.setup.create r.broker r.startingEquity r.killSwitch r.sessionStore with
  | .error _ => []
  | .ok start => (r.setup.run r.ticks start).2.calls

/-- The stores after it. -/
def ReplayStart.leaves (store : RunStore) (r : ReplayStart) : RunStore :=
  r.attempt.leaves r.setup.config.environment r.calls store

omit [ModelDump] in
theorem proper_calls (r : ReplayStart) : ∀ c ∈ r.calls, c.Proper := by
  unfold ReplayStart.calls
  cases hcreate : r.setup.create r.broker r.startingEquity r.killSwitch r.sessionStore with
  | error e => exact fun c hc => by cases hc
  | ok start =>
      refine proper_moved (fun c hc => ?_) (ReplaySetup.moves_run start .refl)
      unfold ReplaySetup.create at hcreate
      obtain ⟨session, -, hcreate⟩ := bind_ok hcreate
      cases hcreate
      cases hc

/-- Stores that hold nothing yet. -/
def RunStore.empty : RunStore := ⟨[], [], [], [], []⟩

theorem sound_empty : RunStore.empty.Sound where
  ids := List.nodup_nil
  caused := .nil
  capsuleIds := List.nodup_nil
  sealing := fun c hc => by cases hc
  capsule := fun e he => by cases he

theorem sound_leaves {store : RunStore} (h : store.Sound) (r : ReplayStart) :
    (r.leaves store).Sound := by
  unfold ReplayStart.leaves
  obtain ⟨n, hn⟩ := leaves_eq r.setup.config.environment r.calls store r.attempt
  rw [hn]
  exact sound_planAll (sound_create h _) (proper_calls r) n

/-- **Whatever replays were started and however they ended**, over one set of stores: no event and
no capsule is stored twice, no event is stored without the one that caused it before it, and the
journal says a window was sealed just where its capsule is stored. -/
theorem journal_sound (replays : List ReplayStart) :
    (replays.foldl ReplayStart.leaves .empty).Sound := by
  suffices h : ∀ store : RunStore, store.Sound → (replays.foldl ReplayStart.leaves store).Sound from
    h _ sound_empty
  induction replays with
  | nil => exact fun store h => h
  | cons r replays ih => exact fun store h => ih _ (sound_leaves h r)

end

end Crumblr
