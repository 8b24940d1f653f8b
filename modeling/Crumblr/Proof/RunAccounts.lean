import Crumblr.Proof.RunWindows

/-!
# The account of a run

A run is taken apart into its ticks: what was recorded at each, and the window that was decided
there, if one was. What the run counts, returns and records is read off the ticks.
-/

namespace Crumblr

open Reconstruction

/-- What became of a tick. -/
structure Block where
  tick : GeneratedTick
  ns : List Noted
  window : Option (SignalGenerated × RunCapsule)

namespace Block

/-- What was recorded at a tick is about that tick and its window. -/
structure Sound [Externals] (symbol : String) (b : Block) : Prop where
  ids : ∀ n ∈ b.ns, n.correlationId = snapshotIdFor symbol b.tick.eventTimeUtc
  times : ∀ n ∈ b.ns, n.payload.halt? = none → n.occurredAtUtc = b.tick.eventTimeUtc
  signals : signalsIn b.ns = b.window.toList.map (·.1)
  capsules : capsulesIn b.ns = b.window.toList.map (·.2)
  idle : b.window = none → stagesOf b.ns = []
  stages : b.window ≠ none → ∃ k, stagesOf b.ns = stageFlow.take k ++ [.decisionCapsuleSealed]
  window : ∀ w ∈ b.window, w.1.snapshotId = snapshotIdFor symbol b.tick.eventTimeUtc
    ∧ w.2.correlationId = snapshotIdFor symbol b.tick.eventTimeUtc ∧ w.2.Chained

/-- What a tick adds to the tally. -/
def tallied (tally : RunTally) (b : Block) : RunTally :=
  let tally := { tally with
    windows := tally.windows + 1
    injectedFaults := tally.injectedFaults.countAll (ReplaySetup.faultNames b.tick) }
  match b.window with
  | none => { tally with featuresUnavailable := tally.featuresUnavailable + 1 }
  | some (signal, capsule) => countWindow tally signal capsule

/-- From before a tick to after it. -/
structure Step (b : Block) (s s' : ReplayState) : Prop where
  noted : s'.noted = s.noted ++ b.ns
  capsules : s'.capsules = s.capsules ++ b.window.toList.map (·.2)
  halts : s'.haltCount = s.haltCount + (haltsIn b.ns).length
  tally : s'.tally = b.tallied s.tally

variable [Externals] {symbol : String} {b : Block} {hs : List Noted} {s s' s'' : ReplayState}

/-- A halt after a window belongs to the tick. -/
def andThen (b : Block) (hs : List Noted) : Block := { b with ns := b.ns ++ hs }

/-- A halt before it, too. -/
def after (b : Block) (hs : List Noted) : Block := { b with ns := hs ++ b.ns }

theorem Sound.andThen (h : b.Sound symbol)
    (hhalts : OnlyHalts (snapshotIdFor symbol b.tick.eventTimeUtc) hs) :
    (b.andThen hs).Sound symbol where
  ids n hn := (List.mem_append.mp hn).elim (h.ids n) fun hn => (hhalts n hn).1
  times n hn hnone := by
    rcases List.mem_append.mp hn with hn | hn
    · exact h.times n hn hnone
    · obtain ⟨-, halt, hpayload⟩ := hhalts n hn
      rw [hpayload] at hnone
      cases hnone
  signals := by
    change signalsIn (b.ns ++ hs) = _
    rw [signalsIn_append, hhalts.signalsIn, List.append_nil]
    exact h.signals
  capsules := by
    change capsulesIn (b.ns ++ hs) = _
    rw [capsulesIn_append, hhalts.capsulesIn, List.append_nil]
    exact h.capsules
  idle hw := by
    change stagesOf (b.ns ++ hs) = _
    rw [stagesOf_append, hhalts.stagesOf, List.append_nil]
    exact h.idle hw
  stages hw := by
    obtain ⟨k, hk⟩ := h.stages hw
    refine ⟨k, ?_⟩
    change stagesOf (b.ns ++ hs) = _
    rw [stagesOf_append, hhalts.stagesOf, List.append_nil, hk]
  window := h.window

theorem Sound.after (h : b.Sound symbol)
    (hhalts : OnlyHalts (snapshotIdFor symbol b.tick.eventTimeUtc) hs) :
    (b.after hs).Sound symbol where
  ids n hn := (List.mem_append.mp hn).elim (fun hn => (hhalts n hn).1) (h.ids n)
  times n hn hnone := by
    rcases List.mem_append.mp hn with hn | hn
    · obtain ⟨-, halt, hpayload⟩ := hhalts n hn
      rw [hpayload] at hnone
      cases hnone
    · exact h.times n hn hnone
  signals := by
    change signalsIn (hs ++ b.ns) = _
    rw [signalsIn_append, hhalts.signalsIn, List.nil_append]
    exact h.signals
  capsules := by
    change capsulesIn (hs ++ b.ns) = _
    rw [capsulesIn_append, hhalts.capsulesIn, List.nil_append]
    exact h.capsules
  idle hw := by
    change stagesOf (hs ++ b.ns) = _
    rw [stagesOf_append, hhalts.stagesOf, List.nil_append]
    exact h.idle hw
  stages hw := by
    obtain ⟨k, hk⟩ := h.stages hw
    refine ⟨k, ?_⟩
    change stagesOf (hs ++ b.ns) = _
    rw [stagesOf_append, hhalts.stagesOf, List.nil_append, hk]
  window := h.window

omit [Externals] in
theorem Step.andThen (h : b.Step s s') (hadds : ReplayState.Adds hs s' s'')
    (htally : s''.tally = s'.tally) : (b.andThen hs).Step s s'' where
  noted := by
    change s''.noted = s.noted ++ (b.ns ++ hs)
    rw [hadds.noted, h.noted, List.append_assoc]
  capsules := hadds.capsules.trans h.capsules
  halts := by
    change s''.haltCount = s.haltCount + (haltsIn (b.ns ++ hs)).length
    rw [hadds.halts, h.halts, haltsIn_append, List.length_append]
    omega
  tally := htally.trans h.tally

omit [Externals] in
theorem Step.after (hadds : ReplayState.Adds hs s s') (htally : s'.tally = s.tally)
    (h : b.Step s' s'') : (b.after hs).Step s s'' where
  noted := by
    change s''.noted = s.noted ++ (hs ++ b.ns)
    rw [h.noted, hadds.noted, List.append_assoc]
  capsules := by
    rw [h.capsules, hadds.capsules]
    rfl
  halts := by
    change s''.haltCount = s.haltCount + (haltsIn (hs ++ b.ns)).length
    rw [h.halts, hadds.halts, haltsIn_append, List.length_append]
    omega
  tally := by
    rw [h.tally, htally]
    rfl

end Block

/-! ## One tick -/

namespace ReplaySetup

open Raising ReplayState

variable {self : ReplaySetup} {tick : GeneratedTick} {s s' : ReplayState} {u : Unit}

/-- Nothing that the account is about. -/
def Quiet (s s' : ReplayState) : Prop := Adds [] s s' ∧ s'.tally = s.tally

theorem Quiet.refl (s : ReplayState) : Quiet s s := ⟨.silent rfl rfl rfl, rfl⟩

theorem Quiet.trans {s'' : ReplayState} (h : Quiet s s') (h' : Quiet s' s'') : Quiet s s'' :=
  ⟨h.1.trans h'.1, h'.2.trans h.2⟩

theorem onSession_quiet {f : ReplayOrchestrator → ReplayOrchestrator}
    (h : onSession f s = (.ok u, s')) : Quiet s s' := by
  unfold onSession at h
  obtain rfl := change_ok h
  exact ⟨.silent rfl rfl rfl, rfl⟩

theorem advance_quiet (h : advance tick s = (.ok u, s')) : Quiet s s' := by
  unfold advance at h
  obtain rfl := change_ok h
  exact ⟨.silent rfl rfl rfl, rfl⟩

theorem markEquity_quiet (h : markEquity s = (.ok u, s')) : Quiet s s' := by
  unfold markEquity at h
  obtain ⟨t, s₁, hread, h⟩ := Raising.bind_ok h
  obtain ⟨rfl, rfl⟩ := read_ok hread
  obtain ⟨equity, s₁, hequity, h⟩ := Raising.bind_ok h
  obtain ⟨-, rfl⟩ := lift_ok hequity
  exact onSession_quiet h

variable [Externals]

theorem persistSession_quiet (h : self.persistSession tick s = (.ok u, s')) : Quiet s s' := by
  unfold persistSession at h
  obtain ⟨t, s₁, hread, h⟩ := Raising.bind_ok h
  obtain ⟨rfl, rfl⟩ := read_ok hread
  split at h
  · obtain ⟨-, rfl⟩ := pure_ok h
    exact .refl s
  · obtain ⟨seen, s₁, hseen, h⟩ := Raising.bind_ok h
    obtain ⟨-, rfl⟩ := lift_ok hseen
    exact onSession_quiet h

/-- At most halts, of a tick's window. -/
def Halts (self : ReplaySetup) (tick : GeneratedTick) (s s' : ReplayState) : Prop :=
  ∃ hs, OnlyHalts (snapshotIdFor self.spec.canonicalSymbol tick.eventTimeUtc) hs
    ∧ Adds hs s s' ∧ s'.tally = s.tally

theorem Quiet.halts (h : Quiet s s') : Halts self tick s s' := ⟨[], .nil, h.1, h.2⟩

theorem recoverSession_ok (h : self.recoverSession tick s = (.ok u, s')) :
    Halts self tick s s' := by
  unfold recoverSession at h
  obtain ⟨t, s₁, hread, h⟩ := Raising.bind_ok h
  obtain ⟨rfl, rfl⟩ := read_ok hread
  obtain ⟨equity, s₁, hequity, h⟩ := Raising.bind_ok h
  obtain ⟨-, rfl⟩ := lift_ok hequity
  obtain ⟨positions, s₁, hpositions, h⟩ := Raising.bind_ok h
  obtain ⟨-, rfl⟩ := lift_ok hpositions
  obtain ⟨recovery, s₁, hrecovery, h⟩ := Raising.bind_ok h
  obtain ⟨-, rfl⟩ := lift_ok hrecovery
  obtain ⟨_, s₁, hchange, h⟩ := Raising.bind_ok h
  have hquiet : Quiet s s₁ := by
    obtain rfl := change_ok hchange
    exact ⟨.silent rfl rfl rfl, rfl⟩
  split at h
  · obtain ⟨hs, hhalts, hadds, htally⟩ := trip_ok h
    exact ⟨hs, hhalts, hquiet.1.trans hadds, htally.trans hquiet.2⟩
  · obtain ⟨-, rfl⟩ := pure_ok h
    exact hquiet.halts

theorem checkLossGates_ok (h : self.checkLossGates tick s = (.ok u, s')) : Halts self tick s s' := by
  unfold checkLossGates at h
  obtain ⟨t, s₁, hread, h⟩ := Raising.bind_ok h
  obtain ⟨rfl, rfl⟩ := read_ok hread
  dsimp only at h
  generalize hbreached : ((if self.riskConfig.maxDrawdown.val ≤ s.ledger.drawdownFraction
    then [ReasonCode.maxDrawdown] else []) ++ _) = breached at h
  by_cases hnothing : s.killSwitch.isHalted = true ∨ breached = []
  · rw [if_pos hnothing] at h
    obtain ⟨-, rfl⟩ := pure_ok h
    exact (Quiet.refl s).halts
  · rw [if_neg hnothing] at h
    obtain ⟨hs, hhalts, hadds, htally⟩ := trip_ok h
    exact ⟨hs, hhalts, hadds, htally⟩

theorem checkSessionBoundary_ok (h : self.checkSessionBoundary tick s = (.ok u, s')) :
    Halts self tick s s' := by
  unfold checkSessionBoundary at h
  obtain ⟨t, s₁, hread, h⟩ := Raising.bind_ok h
  obtain ⟨rfl, rfl⟩ := read_ok hread
  split at h
  · obtain ⟨-, rfl⟩ := pure_ok h
    exact (Quiet.refl s).halts
  · obtain ⟨positions, s₁, hpositions, h⟩ := Raising.bind_ok h
    obtain ⟨-, rfl⟩ := lift_ok hpositions
    split at h
    · obtain ⟨hs, hhalts, hadds, htally⟩ := trip_ok h
      exact ⟨hs, hhalts, hadds, htally⟩
    · obtain ⟨-, rfl⟩ := pure_ok h
      exact (Quiet.refl s).halts

theorem observeTick_ok (h : self.observeTick tick s = (.ok u, s')) :
    Adds [] s s' ∧ s'.tally = { s.tally with
      windows := s.tally.windows + 1
      injectedFaults := s.tally.injectedFaults.countAll (faultNames tick) } := by
  unfold observeTick at h
  obtain ⟨_, s₁, hfaults, h⟩ := Raising.bind_ok h
  obtain ⟨hsilent, htally⟩ := tallied_ok hfaults
  obtain ⟨stored, s₂, hstored, h⟩ := Raising.bind_ok h
  obtain ⟨-, rfl⟩ := lift_ok hstored
  obtain ⟨_, s₂, hobserve, h⟩ := Raising.bind_ok h
  have hobserved : Quiet s₁ s₂ := by
    unfold call at hobserve
    obtain rfl := change_ok hobserve
    exact ⟨Adds.call (c := .observe stored _) rfl, rfl⟩
  obtain ⟨_, s₃, hhistory, h⟩ := Raising.bind_ok h
  have hpushed : Quiet s₂ s₃ := by
    obtain rfl := change_ok hhistory
    exact ⟨⟨by simp [ReplayState.noted], rfl, rfl⟩, rfl⟩
  obtain ⟨hsilent₄, htally₄⟩ := tallied_ok h
  refine ⟨((hsilent.trans hobserved.1).trans hpushed.1).trans hsilent₄, ?_⟩
  rw [htally₄, hpushed.2, hobserved.2, htally]

/-- The window of a tick, and the capsule it leaves. -/
theorem window_ok {decided : Option RunCapsule} {s₁ s₂ : ReplayState}
    (hobserve : Adds [] s s₁ ∧ s₁.tally = { s.tally with
      windows := s.tally.windows + 1
      injectedFaults := s.tally.injectedFaults.countAll (faultNames tick) })
    (h : self.processWindow tick s₁ = (.ok decided, s₂))
    (hkept : s' = { s₂ with capsules := s₂.capsules ++ decided.toList }) :
    ∃ b : Block, b.tick = tick ∧ b.Sound self.spec.canonicalSymbol ∧ b.Step s s' := by
  subst hkept
  obtain ⟨hsilent, htally⟩ := hobserve
  rcases processWindow_ok h with ⟨rfl, hadds, hcount⟩
    | ⟨snapshot, ns, signal, capsule, rfl, hid, htime, hdecided⟩
  · have hall := hsilent.trans hadds
    refine ⟨⟨tick, [], none⟩, rfl, ?_, ⟨hall.noted, ?_, hall.halts, ?_⟩⟩
    · exact ⟨fun n hn => (by cases hn), fun n hn => (by cases hn), rfl, rfl, fun _ => rfl,
        fun hw => absurd rfl hw, fun w hw => by cases hw⟩
    · change s₂.capsules ++ [] = _
      rw [hall.capsules]
      rfl
    · change s₂.tally = _
      rw [hcount, htally]
      rfl
  · have hall := hsilent.trans hdecided.adds
    refine ⟨⟨tick, ns, some (signal, capsule)⟩, rfl, ?_, ⟨hall.noted, ?_, hall.halts, ?_⟩⟩
    · refine ⟨fun n hn => ?_, fun n hn hnone => ?_, hdecided.signals, hdecided.capsules,
        fun hw => (by cases hw), fun _ => hdecided.stages, fun w hw => ?_⟩
      · rw [(hdecided.window n hn).1, hid]
      · rw [(hdecided.window n hn).2 hnone, htime]
      · cases hw
        exact ⟨hdecided.signalId.trans hid, hdecided.capsuleId.trans hid, hdecided.chained⟩
    · change s₂.capsules ++ [capsule] = _
      rw [hall.capsules]
      rfl
    · change s₂.tally = _
      rw [hdecided.tally, htally]
      rfl

/-- **What becomes of a tick.** -/
theorem takeTick_ok (h : self.takeTick tick s = (.ok u, s')) :
    ∃ b : Block, b.tick = tick ∧ b.Sound self.spec.canonicalSymbol ∧ b.Step s s' := by
  unfold takeTick at h
  obtain ⟨_, s₁, hroll, h⟩ := Raising.bind_ok h
  obtain ⟨_, s₂, hmark, h⟩ := Raising.bind_ok h
  have hquiet := (onSession_quiet hroll).trans (markEquity_quiet hmark)
  obtain ⟨_, s₃, hobserve, h⟩ := Raising.bind_ok h
  obtain ⟨hsilent, htally⟩ := observeTick_ok hobserve
  rw [hquiet.2] at htally
  unfold settleTick at h
  obtain ⟨decided, s₄, hprocess, h⟩ := Raising.bind_ok h
  obtain ⟨_, s₅, hcapsules, h⟩ := Raising.bind_ok h
  obtain ⟨b, rfl, hsound, hstep⟩ := window_ok ⟨hquiet.1.trans hsilent, htally⟩ hprocess
    (change_ok hcapsules)
  obtain ⟨_, s₆, hgates, h⟩ := Raising.bind_ok h
  obtain ⟨hs, hhalts, hadds, htally₆⟩ := checkLossGates_ok hgates
  obtain ⟨_, s₇, hboundary, h⟩ := Raising.bind_ok h
  obtain ⟨hs', hhalts', hadds', htally₇⟩ := checkSessionBoundary_ok hboundary
  have hpersist := persistSession_quiet h
  have hstep' := ((hstep.andThen hadds htally₆).andThen hadds' htally₇).andThen hpersist.1 hpersist.2
  exact ⟨((b.andThen hs).andThen hs').andThen [], rfl,
    ((hsound.andThen hhalts).andThen hhalts').andThen .nil, hstep'⟩

theorem nextTick_ok (h : self.nextTick tick s = (.ok u, s')) :
    ∃ b : Block, b.tick = tick ∧ b.Sound self.spec.canonicalSymbol ∧ b.Step s s' := by
  unfold nextTick at h
  obtain ⟨_, s₁, hadvance, h⟩ := Raising.bind_ok h
  obtain ⟨b, rfl, hsound, hstep⟩ := takeTick_ok h
  have hquiet := advance_quiet hadvance
  exact ⟨b.after [], rfl, hsound.after .nil, .after hquiet.1 hquiet.2 hstep⟩

theorem firstTick_ok (h : self.firstTick tick s = (.ok u, s')) :
    ∃ b : Block, b.tick = tick ∧ b.Sound self.spec.canonicalSymbol ∧ b.Step s s' := by
  unfold firstTick at h
  obtain ⟨_, s₁, hadvance, h⟩ := Raising.bind_ok h
  obtain ⟨_, s₂, hrecover, h⟩ := Raising.bind_ok h
  obtain ⟨_, s₃, hstart, h⟩ := Raising.bind_ok h
  have hquiet := advance_quiet hadvance
  have hquiet₃ : Quiet s₂ s₃ := by
    obtain rfl := change_ok hstart
    exact ⟨.silent rfl rfl rfl, rfl⟩
  obtain ⟨hs, hhalts, hadds, htally⟩ := recoverSession_ok hrecover
  obtain ⟨b, rfl, hsound, hstep⟩ := takeTick_ok h
  have hbefore := (hquiet.1.trans hadds).trans hquiet₃.1
  rw [List.nil_append, List.append_nil] at hbefore
  refine ⟨b.after hs, rfl, hsound.after hhalts, .after hbefore ?_ hstep⟩
  rw [hquiet₃.2, htally, hquiet.2]

end ReplaySetup

/-! ## The run -/

/-- The windows that were decided. -/
def windowsOf (bs : List Block) : List (SignalGenerated × RunCapsule) :=
  bs.flatMap fun b => b.window.toList

/-- From the start of a run, by its ticks. -/
structure Accounts [Externals] (symbol : String) (bs : List Block) (start s : ReplayState) : Prop where
  sound : ∀ b ∈ bs, b.Sound symbol
  noted : s.noted = start.noted ++ bs.flatMap (·.ns)
  capsules : s.capsules = start.capsules ++ (windowsOf bs).map (·.2)
  halts : s.haltCount = start.haltCount + (haltsIn (bs.flatMap (·.ns))).length
  tally : s.tally = bs.foldl Block.tallied start.tally

section

variable [Externals] {symbol : String} {bs : List Block} {b : Block} {start s s' : ReplayState}

theorem Accounts.refl : Accounts symbol [] s s where
  sound := fun b hb => by cases hb
  noted := by simp
  capsules := by simp [windowsOf]
  halts := by simp [haltsIn]
  tally := rfl

theorem Accounts.step (h : Accounts symbol bs start s) (hsound : b.Sound symbol)
    (hstep : b.Step s s') : Accounts symbol (bs ++ [b]) start s' where
  sound x hx := by
    rcases List.mem_append.mp hx with hx | hx
    · exact h.sound x hx
    · rw [List.mem_singleton.mp hx]
      exact hsound
  noted := by
    rw [hstep.noted, h.noted, List.flatMap_append, List.append_assoc]
    simp
  capsules := by
    rw [hstep.capsules, h.capsules]
    simp [windowsOf]
  halts := by
    rw [hstep.halts, h.halts, List.flatMap_append, haltsIn_append, List.length_append]
    simp [Nat.add_assoc]
  tally := by
    rw [hstep.tally, h.tally, List.foldl_append]
    rfl

end

namespace ReplaySetup

open Raising ReplayState

variable [Externals] {self : ReplaySetup} {ticks : List GeneratedTick} {s s' : ReplayState}

/-- **A run comes to what its ticks come to.** -/
theorem takeTicks_ok {u : Unit} (h : self.takeTicks ticks s = (.ok u, s')) :
    ∃ bs, bs.map Block.tick = ticks ∧ Accounts self.spec.canonicalSymbol bs s s' := by
  cases ticks with
  | nil =>
      obtain ⟨-, rfl⟩ := pure_ok h
      exact ⟨[], rfl, .refl⟩
  | cons first ticks =>
      unfold takeTicks at h
      obtain ⟨_, s₁, hfirst, hrest⟩ := Raising.bind_ok h
      obtain ⟨b, rfl, hsound, hstep⟩ := firstTick_ok hfirst
      refine each_induct (motive := fun seen t => ∃ bs, bs.map Block.tick = b.tick :: seen
        ∧ Accounts self.spec.canonicalSymbol bs s t) ?_ ?_ hrest
      · exact ⟨[b], rfl, Accounts.refl.step hsound hstep⟩
      · rintro seen tick t t' - ⟨bs, hbs, haccounts⟩ hturn
        obtain ⟨b', rfl, hsound', hstep'⟩ := nextTick_ok hturn
        exact ⟨bs ++ [b'], by simp [hbs], haccounts.step hsound' hstep'⟩

/-- The state at the end, and what the run reports of it. -/
theorem run_ok {result : RunResult} (h : self.run ticks s = (.ok result, s')) :
    (∃ bs, bs.map Block.tick = ticks ∧ Accounts self.spec.canonicalSymbol bs s s')
      ∧ (∃ calls, s'.calls = calls ++ [.flush])
      ∧ result.tally = s'.tally ∧ result.capsules = s'.capsules
      ∧ result.halted = s'.killSwitch.isHalted := by
  unfold run at h
  obtain ⟨_, s₁, hticks, h⟩ := Raising.bind_ok h
  obtain ⟨_, s₂, hmark, h⟩ := Raising.bind_ok h
  obtain ⟨_, s₃, hflush, h⟩ := Raising.bind_ok h
  obtain ⟨t, s₄, hread, h⟩ := Raising.bind_ok h
  obtain ⟨rfl, rfl⟩ := read_ok hread
  obtain ⟨hreport, rfl⟩ := lift_ok h
  obtain ⟨bs, hbs, haccounts⟩ := takeTicks_ok hticks
  have hquiet := markEquity_quiet hmark
  unfold call at hflush
  obtain rfl := change_ok hflush
  unfold report at hreport
  obtain ⟨finalEquity, -, hreport⟩ := bind_ok hreport
  cases hreport
  have hflushed : Adds [] s₁ { s₂ with calls := s₂.calls ++ [.flush] } :=
    hquiet.1.trans (Adds.call (c := .flush) rfl)
  refine ⟨⟨bs, hbs, haccounts.sound, ?_, ?_, ?_, ?_⟩, ⟨s₂.calls, rfl⟩, rfl, rfl, rfl⟩
  · rw [hflushed.noted, haccounts.noted, List.append_nil]
  · rw [hflushed.capsules, haccounts.capsules]
  · rw [hflushed.halts, haccounts.halts]
    rfl
  · exact hquiet.2.trans haccounts.tally

end ReplaySetup

end Crumblr
