import Crumblr.Proof.FlattenEvidence

/-!
# Exposure past the weekly deadline

A flatten looks at the clock, at what the day's occurrence has come to, and only then at the
broker. An occurrence that was blocked or resolved is left alone for the day. Otherwise what
the pass reads decides: a position that should not be open halts the worker, and so does a
book that cannot be read in the last minutes of the week.
-/

namespace Crumblr

open ExecutionOrchestrator

variable [Externals]

/-! ## What a pass saw of its switch -/

/-- The pass has seen its kill switch halted, or has halted it. -/
def SeenHalted (past : Past) : Prop :=
  (∃ killSwitch : KillSwitch, ⟨.killSwitch, .ok killSwitch⟩ ∈ past ∧ killSwitch.isHalted = true)
    ∨ ∃ halt, ⟨.trip halt, .ok ()⟩ ∈ past

variable {self : ExecutionOrchestrator} {past past' : Past} {now : UtcDatetime} {α β : Type}
  {D : Discipline Call Call.Answer PyError}

omit [Externals] in
theorem SeenHalted.mono (h : SeenHalted past) (hs : past ⊆ past') : SeenHalted past' := by
  rcases h with ⟨killSwitch, hmem, hhalted⟩ | ⟨halt, hmem⟩
  · exact .inl ⟨killSwitch, hs hmem, hhalted⟩
  · exact .inr ⟨halt, hs hmem⟩

omit [Externals] in
theorem leads_tripUnlessHalted {reasonCodes : List ReasonCode} {trippedBy : String}
    {detail : Option String} (hD : Lets D [.halting]) :
    Leads D.protocol past (tripUnlessHalted reasonCodes trippedBy now detail)
      fun past' _ => SeenHalted past' := by
  refine Leads.next (hD _ _ rfl) fun killSwitch _ => ?_
  split
  · rename_i hhalted
    exact Leads.ret.mpr (.inl ⟨killSwitch, List.mem_cons_self .., hhalted⟩)
  split
  · exact Leads.raise.mpr trivial
  · refine Leads.mono (Leads.perform.mpr ⟨hD _ _ rfl, fun _ _ hm => hm.2⟩) ?_
    rintro past' a rfl
    exact .inr ⟨_, List.mem_cons_self ..⟩

omit [Externals] in
/-- Positions past the deadline halt. -/
theorem leads_tripOvernightExposure {positions : List PositionState} (hD : Lets D [.halting]) :
    Leads D.protocol past (tripOvernightExposure positions now) fun past' _ =>
      positions ≠ [] → SeenHalted past' := by
  unfold tripOvernightExposure
  split
  · rename_i hnone
    exact Leads.ret.mpr fun h => absurd hnone h
  · exact Leads.mono (leads_tripUnlessHalted hD) fun _ _ h _ => h

/-! ## The discipline -/

/-- The position should not be open: it is the end of the week, or it is from a week before. -/
def ExecutionOrchestrator.Exposed (o : ExecutionOrchestrator) (now : UtcDatetime)
    (p : PositionState) : Prop :=
  requiresFlat now (policyFromConfig o.config.intraday) o.calendar = true
    ∨ hasCrossedWeeklyClose p.openedAtUtc now o.calendar = true

/-- The occurrence is not claimed yet, or is committed to and not resolved. -/
def Unsettled (events : List FlattenEventRecord) : Prop :=
  events = [] ∨ ∃ last, events.getLast? = some last ∧ last.eventType = .flattenSubmissionStarted

/-- A reading of the open positions, and what it halted. -/
structure BookWatched (o : ExecutionOrchestrator) (now : UtcDatetime)
    (events : List FlattenEventRecord) (reading : Except PyError (List PositionState))
    (past : Past) : Prop where
  read : ⟨.positions, reading⟩ ∈ past
  /-- A position that should not be open halts. -/
  exposed : ∀ positions, reading = .ok positions → (∃ p ∈ positions, o.Exposed now p) →
    SeenHalted past
  /-- In the last minutes of the week, before anything is claimed, so does a failed read. -/
  unknown : ∀ e, reading = .error e → events = [] →
    phaseAt now (policyFromConfig o.config.intraday) o.calendar = .flattenRequired →
      SeenHalted past

/-- The pass has looked at its flatten: an occurrence that is not settled was watched. -/
def LookedAt (o : ExecutionOrchestrator) (past : Past) : Prop :=
  ∃ now, past.getLast? = some ⟨.clock, .ok now⟩ ∧ ∀ m, o.flattenMoment now = some m →
    ∃ events, ⟨.flattenEventsFor m.flattenRequestId, .ok events⟩ ∈ past
      ∧ (Unsettled events → ∃ reading, BookWatched o now events reading past)

omit [Externals] in
theorem mem_of_sight_positions {reading : Except PyError (List PositionState)} :
    ∀ {past : Past}, (sight past).positions = some reading → ⟨.positions, reading⟩ ∈ past
  | [], h => by cases h
  | ⟨c, a⟩ :: past, h => by
      by_cases hc : c = .positions
      · subst hc
        cases h
        exact List.mem_cons_self ..
      · refine List.mem_cons_of_mem _ (mem_of_sight_positions (Eq.trans ?_ h))
        cases c <;> first | exact absurd rfl hc | rfl | (cases a <;> rfl)

theorem BookWatched.mono {events : List FlattenEventRecord}
    {reading : Except PyError (List PositionState)} (h : BookWatched self now events reading past)
    (hs : past ⊆ past') : BookWatched self now events reading past' where
  read := hs h.read
  exposed := fun positions hr hp => (h.exposed positions hr hp).mono hs
  unknown := fun e hr hnone hphase => (h.unknown e hr hnone hphase).mono hs

theorem LookedAt.mono (h : LookedAt self past) (hs : past <:+ past') : LookedAt self past' := by
  obtain ⟨now, hclock, hm⟩ := h
  obtain ⟨l, rfl⟩ := hs
  refine ⟨now, ?_, fun m hmoment => ?_⟩
  · rw [List.getLast?_append, hclock]
    rfl
  · obtain ⟨events, hread, hwatched⟩ := hm m hmoment
    refine ⟨events, List.mem_append_right _ hread, fun hun => ?_⟩
    obtain ⟨reading, h⟩ := hwatched hun
    exact ⟨reading, h.mono (List.subset_append_right ..)⟩

/-- Capsules are read once the flatten has been looked at. -/
def watchDiscipline (self : ExecutionOrchestrator) : Discipline Call Call.Answer PyError where
  allows := fun past c => match c with
    | .readAll _ _ => LookedAt self past
    | _ => True
  answers := mayAnswer

/-! ## A worker that has seen its switch halted -/

/-- What a pass is told of its switch is how its switch is. -/
theorem serve_killSwitch {w : World} {o : Oracle} {i : Nat} {killSwitch : KillSwitch} {c : Call}
    (h : (⟨.killSwitch, .ok killSwitch⟩ : Entry Call Call.Answer PyError) = ⟨c, (w.serve o i c).1⟩) :
    w.killSwitches i = killSwitch := by
  cases c with
  | killSwitch =>
      have hserved : (w.serve o i .killSwitch).1 = .ok (w.killSwitches i) := by
        unfold World.serve
        cases o.fault <;> rfl
      rw [hserved] at h
      cases h
      rfl
  | _ => cases h

/-- A halt that was carried out has halted the switch. -/
theorem serve_trip {w : World} {o : Oracle} {i : Nat} {halt : HaltRecord} {c : Call}
    (h : (⟨.trip halt, .ok ()⟩ : Entry Call Call.Answer PyError) = ⟨c, (w.serve o i c).1⟩) :
    (w.serve o i c).2.killSwitches i = (w.killSwitches i).tripped halt := by
  cases c with
  | trip halt' =>
      cases hfault : o.fault with
      | some e =>
          have hserved : (w.serve o i (.trip halt')).1 = .error e := by
            unfold World.serve
            rw [hfault]
            rfl
          rw [hserved] at h
          cases h
      | none =>
          have hserved : w.serve o i (.trip halt') = w.answer o.replies i (.trip halt') := by
            unfold World.serve
            rw [hfault]
          rw [hserved] at h ⊢
          cases h
          exact Function.update_self ..
  | _ => cases h
/-- What a pass has seen halted is halted after its next call. -/
theorem seenHalted_call {w : World} {o : Oracle} {i : Nat} {c : Call}
    (h : SeenHalted past → (w.killSwitches i).isHalted = true)
    (hseen : SeenHalted (⟨c, (w.serve o i c).1⟩ :: past)) :
    ((w.serve o i c).2.killSwitches i).isHalted = true := by
  have hswitches := (serve_aside w o i c).switches
  have hkeeps : (w.killSwitches i).isHalted = true →
      ((w.serve o i c).2.killSwitches i).isHalted = true := by
    intro hhalted
    rcases hswitches with heq | ⟨halt, -, heq⟩
    · rwa [heq]
    · rw [heq]
      simp
  rcases hseen with ⟨killSwitch, hmem, hhalted⟩ | ⟨halt, hmem⟩
  · rcases List.mem_cons.mp hmem with hnow | hbefore
    · have hswitch := serve_killSwitch hnow
      exact hkeeps (by rwa [hswitch])
    · exact hkeeps (h (.inl ⟨killSwitch, hbefore, hhalted⟩))
  · rcases List.mem_cons.mp hmem with hnow | hbefore
    · rw [serve_trip hnow]
      simp
    · exact hkeeps (h (.inr ⟨halt, hbefore⟩))

/-- A worker that has seen its switch halted has it halted. -/
theorem seenHalted_holds {w : World} {s : Config Nat Task World Call Call.Answer PyError}
    (h : Reachable w s) {i : Nat} {t : Thread Task Call Call.Answer PyError}
    (ht : s.threads i = some t) (hseen : SeenHalted t.past) :
    (s.world.killSwitches i).isHalted = true := by
  refine Machine.Reach.threads (M := workers) (D := fun _ q => flattenDiscipline q.orchestrator)
    (I := fun i w _ past => SeenHalted past → (w.killSwitches i).isHalted = true)
    (fun _ q => program_flattens q) (fun w o i _ c => serve_answers w o i c) (fun _ => rfl)
    ?_ ?_ ?_ ?_ ?_ h ht hseen
  · rintro v i q - (⟨killSwitch, hmem, -⟩ | ⟨halt, hmem⟩)
    · cases hmem
    · cases hmem
  · exact fun v o i q past c _ hI _ _ => seenHalted_call hI
  · intro o i w c j q past hj hI hk
    rcases (serve_aside w o i c).switches with heq | ⟨halt, -, heq⟩
    · exact (congrArg KillSwitch.isHalted (congrFun heq j)).trans (hI hk)
    · exact (congrArg KillSwitch.isHalted ((congrFun heq j).trans
        (Function.update_of_ne hj ..))).trans (hI hk)
  · intro i w j q past hj hI hk
    exact (congrArg KillSwitch.isHalted (Function.update_of_ne hj ..)).trans (hI hk)
  · intro n w j q past hI hk
    exact (congrArg KillSwitch.isHalted (congrFun (nature_killSwitches n w) j)).trans (hI hk)

/-! ## What a pass looks at -/

theorem watchDiscipline_lets {topics : List Topic} (h : .capsules ∉ topics) :
    Lets (watchDiscipline self) topics := by
  intro past c hc
  have ht := hc.mem
  cases c <;> trivial

/-- The program reads no capsules before the flatten has been looked at. -/
abbrev Watches (self : ExecutionOrchestrator) (past : Past) {α : Type} (p : Pass α)
    (Q : Past → α → Prop) : Prop :=
  Leads (watchDiscipline self).protocol past p Q

theorem watches_about {topics : List Topic} {p : Pass α} (hp : Only (About topics) p)
    (h : .capsules ∉ topics) : Watches self past p fun past' _ => past <:+ past' :=
  Leads.mono (Leads.suffix (Q := fun _ _ => True) (Leads.frame hp
    (fun _ _ hc => watchDiscipline_lets h _ _ hc) (fun _ _ _ _ _ => trivial) trivial))
    fun _ _ h => h.1

/-- What was looked at stays looked at while a part goes on. -/
theorem watches_lookedAt {topics : List Topic} {p : Pass α} (hp : Only (About topics) p)
    (h : .capsules ∉ topics) (hlooked : LookedAt self past) :
    Watches self past p fun past' _ => LookedAt self past' :=
  Leads.mono (watches_about hp h) fun _ _ hs => hlooked.mono hs

theorem flattenMoment_now {m : FlattenMoment} (h : self.flattenMoment now = some m) :
    m.now = now := by
  unfold flattenMoment at h
  split at h
  · cases h
  · obtain ⟨close, -, rfl⟩ := Option.map_eq_some_iff.mp h
    rfl

/-- An observation that halts whatever is open watches the occurrence. -/
theorem bookWatched_of_halts {environment : Environment} {observation : BrokerStateObservation}
    {events : List FlattenEventRecord}
    (hobs : Observed environment self.canonicalSymbol observation past) (hs : past ⊆ past')
    (hopen : (∃ p ∈ observation.positionStates, self.Exposed now p) → SeenHalted past')
    (hunknown : observation.account.positionSetState ≠ .complete → events = [] →
      phaseAt now (policyFromConfig self.config.intraday) self.calendar = .flattenRequired →
        SeenHalted past') :
    ∃ reading, BookWatched self now events reading past' := by
  obtain ⟨reading, hreading, hbook⟩ := hobs.book
  obtain ⟨hpositions, hstate⟩ := Prod.mk.inj hbook
  refine ⟨reading, hs (mem_of_sight_positions hreading), ?_, ?_⟩
  · rintro positions rfl
    rw [hpositions] at hopen
    exact hopen
  · rintro e rfl
    exact hunknown (by rw [hstate]; exact fun h => by cases h)

/-- An occurrence that was looked at, whatever comes after. -/
theorem lookedAt_of_read {m : FlattenMoment} {events : List FlattenEventRecord}
    (hmoment : self.flattenMoment now = some m)
    (hs : [⟨.flattenEventsFor m.flattenRequestId, .ok events⟩, ⟨.clock, .ok now⟩] <:+ past)
    (h : Unsettled events → ∃ reading, BookWatched self now events reading past) :
    LookedAt self past := by
  obtain ⟨l, rfl⟩ := hs
  refine ⟨now, ?_, fun m' hm' => ?_⟩
  · rw [List.getLast?_append]
    rfl
  · obtain rfl : m = m' := Option.some.inj (hmoment.symm.trans hm')
    exact ⟨events, List.mem_append_right _ (List.mem_cons_self ..), h⟩

theorem watches_flattenClaimed {m : FlattenMoment} {events : List FlattenEventRecord}
    {last : FlattenEventRecord} (hmoment : self.flattenMoment now = some m)
    (hlast : events.getLast? = some last) :
    Watches self [⟨.flattenEventsFor m.flattenRequestId, .ok events⟩, ⟨.clock, .ok now⟩]
      (self.flattenClaimed m events last) fun past' _ => LookedAt self past' := by
  have hne : events ≠ [] := by
    rintro rfl
    cases hlast
  unfold flattenClaimed
  split
  · rename_i hsettled
    refine Leads.ret.mpr (lookedAt_of_read hmoment (List.suffix_refl _) fun hun => ?_)
    rcases hun with hnone | ⟨last', hlast', hstarted⟩
    · exact absurd hnone hne
    · obtain rfl := Option.some.inj (hlast.symm.trans hlast')
      exact absurd hstarted hsettled
  refine Leads.seq (Leads.suffix (leads_observe self (watchDiscipline_lets (by decide)))) ?_
  rintro past₁ observation ⟨hsuffix₁, hobs⟩
  refine Leads.seq (Leads.suffix (leads_tripOvernightExposure (watchDiscipline_lets (by decide)))) ?_
  rintro past₂ - ⟨hsuffix₂, hhalted⟩
  refine watches_lookedAt (ofClosing_resolveFlattenOutcome ..) (by decide) ?_
  refine lookedAt_of_read hmoment (hsuffix₁.trans hsuffix₂) fun _ => ?_
  refine bookWatched_of_halts hobs hsuffix₂.subset ?_ fun _ hnone => absurd hnone hne
  rintro ⟨p, hp, -⟩
  exact hhalted (List.ne_nil_of_mem hp)

theorem watches_flattenUnclaimed {m : FlattenMoment} {events : List FlattenEventRecord}
    (hmoment : self.flattenMoment now = some m) :
    Watches self [⟨.flattenEventsFor m.flattenRequestId, .ok events⟩, ⟨.clock, .ok now⟩]
      (self.flattenUnclaimed m) fun past' _ => LookedAt self past' := by
  have hnow := flattenMoment_now hmoment
  unfold flattenUnclaimed
  refine Leads.seq (Leads.suffix (leads_observe self (watchDiscipline_lets (by decide)))) ?_
  rintro past₁ observation ⟨hsuffix₁, hobs⟩
  dsimp only
  have hunknown : Watches self past₁ (self.tripUnlessBookKnown m observation) fun past' _ =>
      observation.account.positionSetState ≠ .complete →
        phaseAt now (policyFromConfig self.config.intraday) self.calendar = .flattenRequired →
          SeenHalted past' := by
    unfold tripUnlessBookKnown
    rw [hnow]
    split
    · exact Leads.mono (leads_tripUnlessHalted (watchDiscipline_lets (by decide)))
        fun _ _ h _ _ => h
    · rename_i hknown
      exact Leads.ret.mpr fun hstate hphase => absurd ⟨hphase, hstate⟩ hknown
  refine Leads.seq (Leads.suffix hunknown) ?_
  rintro past₂ - ⟨hsuffix₂, hunknown⟩
  split
  · -- nothing is open, or nothing that should not be
    rename_i hquiet
    refine Leads.ret.mpr (lookedAt_of_read hmoment (hsuffix₁.trans hsuffix₂) fun _ => ?_)
    refine bookWatched_of_halts hobs hsuffix₂.subset ?_ fun hstate _ hphase => hunknown hstate hphase
    rintro ⟨p, hp, hexposed⟩
    rw [hnow] at hquiet
    rcases hquiet with hnone | hquiet
    · exact absurd hnone (List.ne_nil_of_mem hp)
    · simp only [Bool.not_eq_true', Bool.or_eq_false_iff] at hquiet
      rcases hexposed with hflat | hcrossed
      · rw [hflat] at hquiet
        cases hquiet.1
      · have hany : (observation.positionStates.any fun p =>
            hasCrossedWeeklyClose p.openedAtUtc now self.calendar) = true :=
          List.any_eq_true.mpr ⟨p, hp, hcrossed⟩
        rw [hany] at hquiet
        cases hquiet.2
  refine Leads.next trivial fun claimed _ => ?_
  refine Leads.seq (Leads.suffix (leads_tripOvernightExposure (watchDiscipline_lets (by decide)))) ?_
  rintro past₃ - ⟨hsuffix₃, hhalted⟩
  have hsuffix : past₂ <:+ past₃ := (List.suffix_cons ..).trans hsuffix₃
  have hlooked : LookedAt self past₃ := by
    refine lookedAt_of_read hmoment ((hsuffix₁.trans hsuffix₂).trans hsuffix) fun _ => ?_
    refine bookWatched_of_halts hobs (hsuffix₂.trans hsuffix).subset ?_ ?_
    · rintro ⟨p, hp, -⟩
      exact hhalted (List.ne_nil_of_mem hp)
    · exact fun hstate _ hphase => (hunknown hstate hphase).mono hsuffix.subset
  split
  · have hsettles : ∀ events, OfClosing (self.resolveFlattenOutcome m.flattenRequestId
        observation.positionStates events m.now) := fun _ => ofClosing_resolveFlattenOutcome ..
    exact watches_lookedAt (Only.bind (N := About closeTopics) (only_ask rfl) hsettles) (by decide)
      hlooked
  · exact watches_lookedAt (Only.bind (ofFlatten_commitFlatten ..) fun _ => trivial) (by decide)
      hlooked

theorem watches_flattenOnce :
    Watches self [] self.flattenOnce fun past' _ => LookedAt self past' := by
  refine Leads.next trivial fun now _ => ?_
  split
  · rename_i hmoment
    refine Leads.ret.mpr ⟨now, rfl, fun m hm => ?_⟩
    rw [hmoment] at hm
    cases hm
  rename_i m hmoment
  refine Leads.next trivial fun events _ => ?_
  split
  · rename_i last hlast
    exact watches_flattenClaimed hmoment hlast
  · exact watches_flattenUnclaimed hmoment

theorem watches_runOnce : Watches self [] self.runOnce fun _ _ => True := by
  unfold runOnce
  refine Leads.seq watches_flattenOnce fun past₁ _ hlooked => ?_
  refine Leads.next trivial fun now _ => Leads.next (hlooked.mono (List.suffix_cons ..))
    fun capsules _ => ?_
  refine Leads.seq (watches_about (Only.collect fun capsule _ => ofChain_process ..) (by decide))
    fun past₂ outcomes _ => ?_
  exact Leads.seq (watches_about (only_reconcileOnce _) (by decide)) fun _ _ _ =>
    Leads.ret.mpr trivial

/-- **No pass reads its capsules before it has looked at its flatten.** -/
theorem program_watches (q : Task) :
    Conforms (watchDiscipline q.orchestrator).protocol [] q.program fun _ _ => True := by
  have hwatches : Watches q.orchestrator [] q.program fun _ _ => True := by
    unfold Task.program
    split
    · exact Leads.seq watches_runOnce fun _ _ _ => Leads.ret.mpr trivial
    · exact Leads.seq (watches_about (ofRecords_resolvePendingOnce _) (by decide)) fun _ _ _ =>
        Leads.ret.mpr trivial
    · exact Leads.seq (watches_about (only_reconcileOnce _) (by decide)) fun _ _ _ =>
        Leads.ret.mpr trivial
  exact Conforms.mono (fun _ _ _ => trivial) hwatches

/--
**Live exposure halts, unless the day's flatten is settled.** In every state workers reach, a
pass about to read its capsules has looked at its flatten by the clock reading it began with.
Unless the day's occurrence had already gone past its commitment, the pass has read the open
positions. If a position was among them at the end of the week, or one from a week before, the
worker is halted. So it is when they could not be read in the last minutes of the week and
nothing had been claimed.
-/
theorem live_exposure_halted {w : World} {s : Config Nat Task World Call Call.Answer PyError}
    (h : Reachable w s) {i : Nat} {q : Task} {past : Past} {environment : Environment}
    {canonicalSymbol : String}
    {k : Except PyError (Call.readAll environment canonicalSymbol).Answer → Pass Unit}
    (ht : s.threads i = some ⟨q, past, .call (.readAll environment canonicalSymbol) k⟩) :
    ∃ now, past.getLast? = some ⟨.clock, .ok now⟩
      ∧ ∀ m, q.orchestrator.flattenMoment now = some m → ∃ events,
        ⟨.flattenEventsFor m.flattenRequestId, .ok events⟩ ∈ past
          ∧ (Unsettled events → ∃ reading, ⟨.positions, reading⟩ ∈ past
            ∧ (∀ positions, reading = .ok positions →
              (∀ p ∈ positions, ¬ q.orchestrator.Exposed now p)
                ∨ (s.world.killSwitches i).isHalted = true)
            ∧ (∀ e, reading = .error e → events = [] →
              phaseAt now (policyFromConfig q.orchestrator.config.intraday) q.orchestrator.calendar
                = .flattenRequired → (s.world.killSwitches i).isHalted = true)) := by
  have hlooked : LookedAt q.orchestrator past := reachable_allowed
    (D := fun q => watchDiscipline q.orchestrator) program_watches (fun _ => rfl) h ht
  have hhalted : SeenHalted past → (s.world.killSwitches i).isHalted = true :=
    seenHalted_holds h ht
  obtain ⟨now, hclock, hmoments⟩ := hlooked
  refine ⟨now, hclock, fun m hm => ?_⟩
  obtain ⟨events, hread, hwatched⟩ := hmoments m hm
  refine ⟨events, hread, fun hun => ?_⟩
  obtain ⟨reading, hreading, hexposed, hunknown⟩ := hwatched hun
  refine ⟨reading, hreading, fun positions hpositions => ?_,
    fun e he hnone hphase => hhalted (hunknown e he hnone hphase)⟩
  by_cases hany : ∃ p ∈ positions, q.orchestrator.Exposed now p
  · exact .inr (hhalted (hexposed positions hpositions hany))
  · exact .inl fun p hp hp' => hany ⟨p, hp, hp'⟩

end Crumblr

/-! ## A week's end -/

namespace Crumblr

/-- What worker `i` has done before reading its capsules. -/
def dueCapsules (s : Config Nat Task World Call Call.Answer PyError) (i : Nat) :
    Option (Task × Past) :=
  match s.threads i with
  | some ⟨q, past, .call (.readAll _ _) _⟩ => some (q, past)
  | _ => none

theorem dueCapsules_eq_some {s : Config Nat Task World Call Call.Answer PyError} {i : Nat}
    {q : Task} {past : Past} (h : dueCapsules s i = some (q, past)) :
    ∃ environment canonicalSymbol k,
      s.threads i = some ⟨q, past, .call (.readAll environment canonicalSymbol) k⟩ := by
  unfold dueCapsules at h
  split at h
  · rename_i ht
    cases h
    exact ⟨_, _, _, ht⟩
  · cases h

namespace Sample

def saturday : UtcDatetime := noon + days 4

/-- The pass, up to its capsules, while a position from the week before is open. -/
def flattened : List (Move Nat Task Oracle World.Event) :=
  .start 0 ⟨worker, .runOnce⟩ :: exposed overdue "observation" 22

/-- A flatten on Saturday is resolved, an operator resets, and the worker is restarted. -/
def weekend : List (Move Nat Task Oracle World.Event) :=
  (.nature (.wait saturday) :: .start 0 ⟨worker, .runOnce⟩ :: exposed overdue "observation" 21)
    ++ .crash 0 :: .start 0 ⟨worker, .runOnce⟩ :: observing "settled" 11
    ++ [.nature (.saveSafety ⟨.running, [], saturday, none, none⟩), .crash 0,
      .start 0 ⟨worker, .runOnce⟩]
    ++ served 0 3

/-- The call did not show anything else than a new occurrence and one position from last week. -/
def readsOverdue : Entry Call Call.Answer PyError → Bool
  | ⟨.flattenEventsFor _, .ok events⟩ => events.isEmpty
  | ⟨.positions, .ok positions⟩ => positions.map (·.openedAtUtc) = [overdue.openedAtUtc]
  | ⟨.positions, .error _⟩ => false
  | _ => true

/-- The pass began at a moment flattens are decided, with that position from the week before. -/
def beganOverdue (due : Task × Past) : Bool :=
  match due.2.getLast? with
  | some ⟨.clock, .ok now⟩ => (due.1.orchestrator.flattenMoment now).isSome
      && due.2.all readsOverdue
      && hasCrossedWeeklyClose overdue.openedAtUtc now due.1.orchestrator.calendar
  | _ => false

/-- The pass began in a phase that must be flat, and read no positions since. -/
def beganUnwatched (due : Task × Past) : Bool :=
  match due.2.getLast? with
  | some ⟨.clock, .ok now⟩ => (due.1.orchestrator.flattenMoment now).isSome
      && requiresFlat now (policyFromConfig due.1.orchestrator.config.intraday)
        due.1.orchestrator.calendar
      && due.2.all fun entry => match entry with
        | ⟨.positions, _⟩ => false
        | _ => true
  | _ => false

end Sample

open Sample in
theorem live_exposure_halted_sample :
    ∃ s q past, Reachable Sample.world s ∧ dueCapsules s 0 = some (q, past)
      ∧ (s.world.killSwitches 0).isHalted = true := by
  have hrun : (workers.run Machine.unchecked (Machine.idle Sample.world) flattened).any
      (fun s => (dueCapsules s 0).any beganOverdue) = true := by decide +kernel
  obtain ⟨s, hs, hp⟩ := Machine.Reach.exists_of_run (G := Machine.Always) _ _
    (fun _ _ _ => trivial) hrun
  obtain ⟨⟨q, past⟩, hdue, hp⟩ := (Option.any_eq_true _ _).mp hp
  obtain ⟨environment, canonicalSymbol, k, ht⟩ := dueCapsules_eq_some hdue
  refine ⟨s, q, past, hs, hdue, ?_⟩
  obtain ⟨now, hclock, hlooked⟩ := live_exposure_halted hs ht
  simp only [beganOverdue, hclock, Bool.and_eq_true] at hp
  obtain ⟨⟨hmoment, hreads⟩, hcrossed⟩ := hp
  obtain ⟨m, hm⟩ := Option.isSome_iff_exists.mp hmoment
  obtain ⟨events, hevents, hwatched⟩ := hlooked m hm
  have hread := List.all_eq_true.mp hreads
  have hnew : events = [] := List.isEmpty_iff.mp (hread _ hevents)
  obtain ⟨reading, hpositions, hexposed, -⟩ := hwatched (.inl hnew)
  cases reading with
  | error e => cases hread _ hpositions
  | ok positions =>
      have hopened : positions.map (·.openedAtUtc) = [overdue.openedAtUtc] :=
        of_decide_eq_true (hread _ hpositions)
      obtain ⟨p, hp, hpopened⟩ : ∃ p ∈ positions, p.openedAtUtc = overdue.openedAtUtc := by
        simpa using congrArg (overdue.openedAtUtc ∈ ·) hopened
      refine (hexposed positions rfl).resolve_left fun hquiet => hquiet p hp (.inr ?_)
      rw [hpopened]
      exact hcrossed

open Sample in
/-- After a flatten was resolved the rest of the day is not watched. -/
theorem live_exposure_unwatched :
    ∃ s q past now, Reachable Sample.world s ∧ dueCapsules s 0 = some (q, past)
      ∧ past.getLast? = some ⟨.clock, .ok now⟩
      ∧ (q.orchestrator.flattenMoment now).isSome = true
      ∧ requiresFlat now (policyFromConfig q.orchestrator.config.intraday)
        q.orchestrator.calendar = true
      ∧ (∀ reading, ⟨.positions, reading⟩ ∉ past)
      ∧ (s.world.killSwitches 0).isHalted = false := by
  have hrun : (workers.run Machine.unchecked (Machine.idle Sample.world) weekend).any
      (fun s => (dueCapsules s 0).any beganUnwatched && !(s.world.killSwitches 0).isHalted)
        = true := by decide +kernel
  obtain ⟨s, hs, hp⟩ := Machine.Reach.exists_of_run (G := Machine.Always) _ _
    (fun _ _ _ => trivial) hrun
  obtain ⟨hp, hrunning⟩ := Bool.and_eq_true_iff.mp hp
  obtain ⟨⟨q, past⟩, hdue, hp⟩ := (Option.any_eq_true _ _).mp hp
  unfold beganUnwatched at hp
  split at hp
  · rename_i now hclock
    simp only [Bool.and_eq_true] at hp
    obtain ⟨⟨hmoment, hflat⟩, hreads⟩ := hp
    refine ⟨s, q, past, now, hs, hdue, hclock, hmoment, hflat, fun reading hread => ?_,
      by simpa using hrunning⟩
    cases List.all_eq_true.mp hreads _ hread
  · cases hp

end Crumblr
