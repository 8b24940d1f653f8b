import Crumblr.Proof.PaperBook

/-!
# Old bars and newer positions

A bar closes before it's seen, so its range says nothing of a position that was opened since. The
paper broker uses the range of a bar once, and knows a bar again by its whole content: a bar that
was revised, or that is older than one it has seen, is a new one to it, and its range is used on
whatever is open.
-/

namespace Crumblr

/-- Something holds of each member of a list, with what stands before it. -/
def Throughout {α : Type} (P : List α → α → Prop) : List α → List α → Prop
  | _, [] => True
  | past, a :: rest => P past a ∧ Throughout P (past ++ [a]) rest

instance Throughout.decidable {α : Type} {P : List α → α → Prop}
    [h : ∀ past a, Decidable (P past a)] :
    (past rest : List α) → Decidable (Throughout P past rest)
  | _, [] => .isTrue trivial
  | past, a :: rest =>
      have := Throughout.decidable (h := h) (past ++ [a]) rest
      inferInstanceAs (Decidable (_ ∧ _))

theorem throughout_congr {α : Type} {P Q : List α → α → Prop} {K : α → Prop}
    (h : ∀ past a, (∀ b ∈ past, K b) → K a → (P past a ↔ Q past a)) {past rest : List α}
    (hpast : ∀ b ∈ past, K b) (hrest : ∀ b ∈ rest, K b) :
    Throughout P past rest ↔ Throughout Q past rest := by
  induction rest generalizing past with
  | nil => exact Iff.rfl
  | cons a rest ih =>
      obtain ⟨ha, hrest⟩ := List.forall_mem_cons.mp hrest
      refine and_congr (h past a hpast ha) (ih (fun b hb => ?_) hrest)
      rcases List.mem_append.mp hb with hb | hb
      · exact hpast b hb
      · exact List.mem_singleton.mp hb ▸ ha

/-! ## What is observed -/

/-- An observation on record. -/
structure Seen where
  bar : Bar
  /-- The simulation was shown the range of the bar. -/
  rangeUsed : Bool
  /-- No bar of this content was on record. -/
  isNew : Bool
  /-- The positions that were open. -/
  tickets : List Int

def Seen.openTimeUtc (seen : Seen) : UtcDatetime := seen.bar.openTimeUtc

section

variable [Externals]

def Seen.fingerprint (seen : Seen) : String := digestOf seen.bar.dump

/-- What an operation puts on record of the market. -/
def observing (b : DurablePaperBroker) (past : List Seen) : PaperOperation → List Seen
  | .advance tick =>
      if (b.advance tick).appended.isSome then
        [{ bar := tick.bar
           rangeUsed := decide (digestOf tick.bar.dump ∉ b.barRangesApplied)
           isNew := decide (digestOf tick.bar.dump ∉ past.map Seen.fingerprint)
           tickets := b.broker.open_.map (·.ticket) }]
      else []
  | .submit .. | .flattenAll .. | .recordAuditFact .. => []

/-- A portfolio and what it has seen, after one more operation. -/
def watch (s : DurablePaperBroker × List Seen) (op : PaperOperation) :
    DurablePaperBroker × List Seen :=
  ((op.run s.1).left, s.2 ++ observing s.1 s.2 op)

/-- A new portfolio after some operations, and all that it has seen. -/
def watched (p : PaperPortfolio) (ops : List PaperOperation) : DurablePaperBroker × List Seen :=
  ops.foldl watch (p.created, [])

end

/-- The range of a bar is used on no position that has had the range of a bar of that time, or that
was opened after a bar of that or a later time was observed. -/
def RangeSpentOnce (past : List Seen) (seen : Seen) : Prop :=
  seen.rangeUsed = true → ∀ ticket ∈ seen.tickets, ∀ earlier ∈ past,
    (earlier.rangeUsed = true → ticket ∈ earlier.tickets →
        earlier.openTimeUtc ≠ seen.openTimeUtc)
      ∧ (ticket ∉ earlier.tickets → earlier.openTimeUtc < seen.openTimeUtc)

/-- A bar of new content is later than each that was observed before a position was opened that's
still open, and of another time than each new one since. -/
def BarInTurn (past : List Seen) (seen : Seen) : Prop :=
  seen.isNew = true → ∀ ticket ∈ seen.tickets, ∀ earlier ∈ past,
    (earlier.isNew = true → ticket ∈ earlier.tickets → earlier.openTimeUtc ≠ seen.openTimeUtc)
      ∧ (ticket ∉ earlier.tickets → earlier.openTimeUtc < seen.openTimeUtc)

instance (past : List Seen) (seen : Seen) : Decidable (RangeSpentOnce past seen) :=
  inferInstanceAs (Decidable (_ → _))

instance (past : List Seen) (seen : Seen) : Decidable (BarInTurn past seen) :=
  inferInstanceAs (Decidable (_ → _))

/-! ## A range is used for each new content -/

section

variable [Externals] {b : DurablePaperBroker}

/-- What an observation does: nothing, when it's on record or cannot be made one, and else it moves
the simulation to the tick or, when the range of its bar was used, to its quote alone. -/
theorem advance_seen (tick : GeneratedTick) :
    ((b.advance tick).appended = none ∧ (b.advance tick).left = b)
      ∨ ∃ simulated, b.simulationTick tick = .ok simulated
        ∧ (b.advance tick).appended.isSome
        ∧ (b.advance tick).left.broker = (b.broker.advance simulated).1
        ∧ (b.advance tick).left.barRangesApplied
          = b.barRangesApplied ++ (rangeOf b tick).toList := by
  unfold DurablePaperBroker.advance
  split
  · exact .inl ⟨rfl, rfl⟩
  rename_i simulated hsimulated
  dsimp only
  split
  · exact .inl ⟨rfl, rfl⟩
  rcases append_result (b := b) _ _ _ _ with ⟨e, happend⟩ | ⟨hknown, -⟩ | ⟨-, happend⟩
  · rw [happend]
    exact .inl ⟨rfl, rfl⟩
  · -- the key was looked up already
    rename_i hnew
    rw [hknown] at hnew
    exact absurd rfl hnew
  · rw [happend]
    refine .inr ⟨simulated, hsimulated, rfl, rfl, ?_⟩
    simp [DurablePaperBroker.observed, DurablePaperBroker.journalled, rangeOf]

/-- What an append and what follows it keep, the append keeps. -/
theorem append_keeps {α γ : Type} (f : DurablePaperBroker → γ) {eventType : PaperJournalEventType}
    {eventKey : String} {payload : Json}
    {next : Bool → DurablePaperBroker → Except PyError α × DurablePaperBroker}
    (hjournalled : ∀ entry, f (b.journalled entry) = f b)
    (hnext : ∀ appended b, f (next appended b).2 = f b) :
    f (b.append eventType eventKey payload next).left = f b := by
  rcases append_result (b := b) eventType eventKey payload next
    with ⟨e, happend⟩ | ⟨-, happend⟩ | ⟨-, happend⟩ <;> rw [happend]
  · exact hnext false b
  · exact (hnext true _).trans (hjournalled _)

/-- Only an observation uses a range. -/
theorem barRangesApplied_run {op : PaperOperation} (hop : ∀ tick, op ≠ .advance tick) :
    (op.run b).left.barRangesApplied = b.barRangesApplied := by
  cases op with
  | advance tick => exact absurd rfl (hop tick)
  | submit order authorizedRiskAmount correlationId =>
      change (b.submit order authorizedRiskAmount correlationId).left.barRangesApplied = _
      unfold DurablePaperBroker.submit
      split
      · rfl
      split
      · split
        · rfl
        · split <;> rfl
      · refine append_keeps DurablePaperBroker.barRangesApplied (fun _ => rfl) fun _ b => ?_
        unfold DurablePaperBroker.applyOrder
        split <;> rfl
  | flattenAll flattenRequestId reason =>
      change (b.flattenAll flattenRequestId reason).left.barRangesApplied = _
      unfold DurablePaperBroker.flattenAll
      split
      · rfl
      · refine append_keeps DurablePaperBroker.barRangesApplied (fun _ => rfl) fun _ b => ?_
        unfold DurablePaperBroker.applyFlatten
        split <;> rfl
  | recordAuditFact fact correlationId detail =>
      exact append_keeps DurablePaperBroker.barRangesApplied (fun _ => rfl) fun _ _ => rfl

/-- The ranges used are those of the contents that were seen, each the first time. -/
structure Marked (b : DurablePaperBroker) (past : List Seen) : Prop where
  ranges : ∀ d, d ∈ b.barRangesApplied ↔ d ∈ past.map Seen.fingerprint
  used : ∀ seen ∈ past, seen.rangeUsed = seen.isNew

/-- **One more operation.** -/
theorem marked_watch {past : List Seen} (h : Marked b past) (op : PaperOperation) :
    Marked (op.run b).left (past ++ observing b past op) := by
  by_cases hop : ∃ tick, op = .advance tick
  swap
  · have hnothing : observing b past op = [] := by
      cases op with
      | advance tick => exact absurd ⟨tick, rfl⟩ hop
      | _ => rfl
    have hsame := barRangesApplied_run (b := b) fun tick h => hop ⟨tick, h⟩
    rw [hnothing, List.append_nil]
    exact ⟨fun d => by rw [hsame]; exact h.ranges d, h.used⟩
  obtain ⟨tick, rfl⟩ := hop
  change Marked (b.advance tick).left (past ++ observing b past (.advance tick))
  simp only [observing]
  rcases advance_seen (b := b) tick with ⟨hnone, hleft⟩ | ⟨simulated, -, hsome, -, hranges⟩
  · rw [hnone, hleft]
    simpa using h
  rw [if_pos hsome]
  have hfresh := not_congr (h.ranges (digestOf tick.bar.dump))
  constructor
  · intro d
    rw [hranges, List.map_append, List.mem_append, List.mem_append, h.ranges]
    have hmark : d ∈ (rangeOf b tick).toList
        ↔ d = digestOf tick.bar.dump ∧ digestOf tick.bar.dump ∉ past.map Seen.fingerprint := by
      unfold rangeOf
      by_cases hmem : digestOf tick.bar.dump ∈ b.barRangesApplied
      · simp [hmem, not_not.mp (mt hfresh.mpr (not_not.mpr hmem))]
      · simp [hmem, hfresh.mp hmem]
    rw [hmark]
    simp only [List.map_cons, List.map_nil, List.mem_singleton, Seen.fingerprint]
    by_cases hold : digestOf tick.bar.dump ∈ past.map Seen.fingerprint
    · constructor
      · rintro (hd | ⟨-, hnot⟩)
        · exact .inl hd
        · exact absurd hold hnot
      · rintro (hd | rfl)
        · exact .inl hd
        · exact .inl hold
    · constructor
      · rintro (hd | ⟨hd, -⟩)
        · exact .inl hd
        · exact .inr hd
      · rintro (hd | hd)
        · exact .inl hd
        · exact .inr ⟨hd, hold⟩
  · intro seen hseen
    rcases List.mem_append.mp hseen with hseen | hseen
    · exact h.used seen hseen
    · obtain rfl := List.mem_singleton.mp hseen
      exact decide_eq_decide.mpr hfresh

/-- **A whole run.** -/
theorem marked_watched (p : PaperPortfolio) (ops : List PaperOperation) :
    Marked (watched p ops).1 (watched p ops).2 := by
  unfold watched
  induction ops using List.reverseRecOn with
  | nil => exact ⟨fun d => by simp [PaperPortfolio.created, PaperPortfolio.fresh,
      DurablePaperBroker.journalled], fun _ h => absurd h List.not_mem_nil⟩
  | append_singleton ops op ih =>
      rw [List.foldl_append, List.foldl_cons, List.foldl_nil]
      exact marked_watch ih op

omit [Externals] in
/-- A quote alone has no range. -/
theorem quoteOnlyTick_range {tick simulated : GeneratedTick} (h : quoteOnlyTick tick = .ok simulated) :
    simulated.bar.high = simulated.bar.low := by
  obtain ⟨midpoint, -, h⟩ := bind_ok h
  dsimp only at h
  split at h
  · obtain ⟨spreadPoints, -, h⟩ := bind_ok h
    obtain ⟨bar, hbar, h⟩ := bind_ok h
    cases h
    unfold Bar.create at hbar
    split at hbar
    · cases hbar
      rfl
    · cases hbar
  · cases h

/-- An observation changes nothing, or moves the simulation: with the range of the bar when that's
used, and with no range when it's not. -/
def Shown (b : DurablePaperBroker) (tick : GeneratedTick) : Prop :=
  (b.advance tick).left = b
    ∨ ∃ simulated, (b.advance tick).left.broker = (b.broker.advance simulated).1
      ∧ if digestOf tick.bar.dump ∉ b.barRangesApplied then simulated = tick
        else simulated.bar.high = simulated.bar.low

theorem shown_advance (b : DurablePaperBroker) (tick : GeneratedTick) : Shown b tick := by
  rcases advance_seen (b := b) tick with ⟨-, hleft⟩ | ⟨simulated, hsimulated, -, hbroker, -⟩
  · exact .inl hleft
  · refine .inr ⟨simulated, hbroker, ?_⟩
    unfold DurablePaperBroker.simulationTick at hsimulated
    by_cases hused : digestOf tick.bar.dump ∈ b.barRangesApplied
    · rw [if_pos hused] at hsimulated
      rw [if_neg (not_not.mpr hused)]
      exact quoteOnlyTick_range hsimulated
    · rw [if_neg hused] at hsimulated
      rw [if_pos hused]
      exact (Except.ok.inj hsimulated).symm

/-- **An old bar and a newer position.** Over any operations, the range of a bar is used at most
once on a position and never on one that was opened after a bar of that or a later time, just when
each bar of new content is in its turn. A range that's not used is not shown to the simulation. -/
theorem old_bars_spent_iff (p : PaperPortfolio) (ops : List PaperOperation) :
    (Throughout RangeSpentOnce [] (watched p ops).2
        ↔ Throughout BarInTurn [] (watched p ops).2)
      ∧ ∀ tick, Shown (watched p ops).1 tick := by
  refine ⟨?_, fun tick => shown_advance _ tick⟩
  refine throughout_congr (K := fun seen => seen.rangeUsed = seen.isNew) ?_
    (fun _ h => absurd h List.not_mem_nil) (marked_watched p ops).used
  intro past seen hpast hseen
  unfold RangeSpentOnce BarInTurn
  rw [hseen]
  refine imp_congr_right fun _ => forall₂_congr fun ticket _ => forall₂_congr fun earlier hearlier => ?_
  rw [hpast earlier hearlier]

end

namespace Sample

/-- A bar that went down to 1.09900, with its ticks as they were counted. -/
def wideQuote (n : Int) (tickVolume : Nat) : GeneratedTick :=
  { Sample.quoted n with
    bar := {
      openTimeUtc := noon
      openPrice := price 110000
      high := price 110010
      low := price 109900
      close := price 110001
      tickVolume
      realVolume := none
      spreadPoints := none
      ohlc := by decide } }

/-- The bar is seen, a position is opened with its stop at 1.09950, and the same bar is seen again a
minute later with one more tick. -/
def revisedFeed : List PaperOperation :=
  [.advance (wideQuote 0 1), .submit paperOrder 10 none, .advance (wideQuote 1 2)]

end Sample

open Sample in
/-- The range of the revised bar stops out the position that was opened after it. -/
theorem revised_bar_closes_newer_position :
    ¬ Throughout RangeSpentOnce [] (watched portfolio revisedFeed).2
      ∧ (watched portfolio revisedFeed).1.broker.closed.map (·.exitReason) = ["stop_loss"] := by
  decide +kernel

end Crumblr
