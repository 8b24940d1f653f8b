import Crumblr.Proof.IsoText
import Crumblr.Proof.JournalReading
import Crumblr.Proof.PaperJournal
import Crumblr.Proof.RunAccounts

/-!
# A run and its journal

The journal of a run, read back, comes to the run: to its decisions in their order, to their
digest, and to every counter that the journal accounts for. That the two sides count in different
ways, the one stage by stage as the run goes and the other capsule by capsule in the end, is
where they could differ.
-/

namespace Crumblr

/-! ## Counting again -/

/-- The counters that the journal accounts for. -/
def RunTally.journalled (tally : RunTally) : RunTally :=
  { tally with windows := 0, featuresUnavailable := 0, injectedFaults := [] }

/-- The counters that no verdict moves. -/
def RunTally.frame (tally : RunTally) (windows featuresUnavailable : Nat)
    (injectedFaults noTradeReasons : Counts) : RunTally :=
  { tally with windows, featuresUnavailable, injectedFaults, noTradeReasons }

namespace Reconstruction

variable {t : RunTally} {signal : SignalGenerated} {c : RunCapsule} {b : Block}
  {bs : List Block} {ws : List (SignalGenerated × RunCapsule)} {n m : Nat} {f r : Counts}

theorem countRisk_frame (risk : RiskDecision) :
    countRisk (t.frame n m f r) risk
      = (countRisk t risk).frame n m f r := by
  unfold countRisk
  dsimp only
  split
  · rfl
  · split <;> rfl

theorem countSupervisor_frame (supervisor : SupervisorDecision) (result : Option SimulatedResult) :
    countSupervisor (t.frame n m f r) supervisor result
      = (countSupervisor t supervisor result).frame n m f r := by
  unfold countSupervisor
  dsimp only
  split
  · split <;> rfl
  · split <;> rfl

theorem countCapsule_frame : countCapsule (t.frame n m f r) c
    = (countCapsule t c).frame n m f r := by
  unfold countCapsule
  cases c.tradeIntent with
  | none => rfl
  | some intent =>
      have hintents : { t.frame n m f r with
            intents := (t.frame n m f r).intents + 1 }
          = ({ t with intents := t.intents + 1 } : RunTally).frame n m f r := rfl
      cases c.riskDecision with
      | none =>
          cases c.supervisorDecision with
          | none => rfl
          | some supervisor =>
              dsimp only
              rw [hintents, countSupervisor_frame]
      | some risk =>
          cases c.supervisorDecision with
          | none =>
              dsimp only
              rw [hintents, countRisk_frame]
          | some supervisor =>
              dsimp only
              rw [hintents, countRisk_frame, countSupervisor_frame]

theorem countCapsule_keeps : (countCapsule t c).windows = t.windows
    ∧ (countCapsule t c).featuresUnavailable = t.featuresUnavailable
    ∧ (countCapsule t c).injectedFaults = t.injectedFaults
    ∧ (countCapsule t c).noTradeReasons = t.noTradeReasons := by
  have hself : t.frame t.windows t.featuresUnavailable t.injectedFaults
      t.noTradeReasons = t := rfl
  have hframe := countCapsule_frame (c := c) (t := t) (n := t.windows)
    (m := t.featuresUnavailable) (f := t.injectedFaults)
    (r := t.noTradeReasons)
  rw [hself] at hframe
  rw [hframe]
  exact ⟨rfl, rfl, rfl, rfl⟩

theorem countWindow_frame : countWindow (t.frame n m f r) signal c
    = (countWindow t signal c).frame n m f
        (if c.tradeIntent.isNone then r.countAll signal.reasonCodes else r) := by
  unfold countWindow
  rw [countCapsule_frame]
  split <;> rfl

theorem journalled_eq : t.journalled = t.frame 0 0 [] t.noTradeReasons := rfl

theorem countWindow_journalled : (countWindow t signal c).journalled
    = countWindow t.journalled signal c := by
  rw [journalled_eq, journalled_eq, countWindow_frame]
  congr 1
  unfold countWindow
  split
  · rfl
  · exact countCapsule_keeps.2.2.2

theorem countWindow_keeps : (countWindow t signal c).windows = t.windows
    ∧ (countWindow t signal c).featuresUnavailable = t.featuresUnavailable
    ∧ (countWindow t signal c).injectedFaults = t.injectedFaults := by
  obtain ⟨h, h', h'', -⟩ := countCapsule_keeps (t := t) (c := c)
  unfold countWindow
  split
  · exact ⟨h, h', h''⟩
  · exact ⟨h, h', h''⟩

/-- A run counts its windows as they are counted afterwards. -/
theorem foldl_tallied : (bs.foldl Block.tallied t).journalled
    = (windowsOf bs).foldl (fun t w => countWindow t w.1 w.2) t.journalled := by
  induction bs generalizing t with
  | nil => rfl
  | cons b bs ih =>
      have hsplit : windowsOf (b :: bs) = b.window.toList ++ windowsOf bs := rfl
      rw [List.foldl_cons, ih, hsplit, List.foldl_append]
      congr 1
      unfold Block.tallied
      cases b.window with
      | none => rfl
      | some w =>
          dsimp only
          rw [countWindow_journalled]
          rfl

/-- Windows and faults are counted tick by tick. -/
theorem foldl_ticks (bs : List Block) (t : RunTally) :
    (bs.foldl Block.tallied t).windows = t.windows + bs.length
    ∧ (bs.foldl Block.tallied t).featuresUnavailable + (windowsOf bs).length
      = t.featuresUnavailable + bs.length
    ∧ (bs.foldl Block.tallied t).injectedFaults
      = t.injectedFaults.countAll (bs.flatMap fun b => ReplaySetup.faultNames b.tick) := by
  induction bs generalizing t with
  | nil => exact ⟨rfl, rfl, rfl⟩
  | cons b bs ih =>
      obtain ⟨hwindows, hfeatures, hfaults⟩ := ih (b.tallied t)
      have hsplit : windowsOf (b :: bs) = b.window.toList ++ windowsOf bs := rfl
      rw [List.foldl_cons, hwindows, hfaults, hsplit, List.length_append, List.length_cons,
        List.flatMap_cons]
      have htick : (b.tallied t).windows = t.windows + 1
          ∧ (b.tallied t).featuresUnavailable + b.window.toList.length
            = t.featuresUnavailable + 1
          ∧ (b.tallied t).injectedFaults
            = t.injectedFaults.countAll (ReplaySetup.faultNames b.tick) := by
        unfold Block.tallied
        cases b.window with
        | none => exact ⟨rfl, rfl, rfl⟩
        | some w =>
            obtain ⟨h, h', h''⟩ := countWindow_keeps (c := w.2)
              (t := { t with
                windows := t.windows + 1
                injectedFaults :=
                  t.injectedFaults.countAll (ReplaySetup.faultNames b.tick) })
            exact ⟨h, by dsimp only; rw [h']; rfl, h''⟩
      obtain ⟨h, h', h''⟩ := htick
      refine ⟨?_, ?_, ?_⟩
      · rw [h]
        omega
      · omega
      · rw [h'']
        unfold Counts.countAll
        rw [List.foldl_append]

/-- A signal may be counted before a capsule or after it. -/
theorem countSignal_capsule (free : List Uuid) :
    countSignal free (countCapsule t c) signal
      = countCapsule (countSignal free t signal) c := by
  unfold countSignal
  split
  · have hframe := countCapsule_frame (c := c) (t := t) (n := t.windows)
      (m := t.featuresUnavailable) (f := t.injectedFaults)
      (r := t.noTradeReasons.countAll signal.reasonCodes)
    obtain ⟨hwindows, hfeatures, hfaults, hreasons⟩ :=
      countCapsule_keeps (t := t) (c := c)
    calc { countCapsule t c with
            noTradeReasons := (countCapsule t c).noTradeReasons.countAll
              signal.reasonCodes }
        = (countCapsule t c).frame (countCapsule t c).windows
            (countCapsule t c).featuresUnavailable
            (countCapsule t c).injectedFaults
            ((countCapsule t c).noTradeReasons.countAll signal.reasonCodes) := rfl
      _ = (countCapsule t c).frame t.windows t.featuresUnavailable
            t.injectedFaults (t.noTradeReasons.countAll signal.reasonCodes) := by
          rw [hwindows, hfeatures, hfaults, hreasons]
      _ = countCapsule (t.frame t.windows t.featuresUnavailable t.injectedFaults
            (t.noTradeReasons.countAll signal.reasonCodes)) c := hframe.symm
  · rfl

theorem countSignal_capsules (free : List Uuid) (capsules : List RunCapsule) :
    countSignal free (capsules.foldl countCapsule t) signal
      = capsules.foldl countCapsule (countSignal free t signal) := by
  induction capsules generalizing t with
  | nil => rfl
  | cons c capsules ih => rw [List.foldl_cons, List.foldl_cons, ih, countSignal_capsule]

/-- All capsules and then all signals, or window by window. -/
theorem recount_windows {free : List Uuid}
    (h : ∀ w ∈ ws, w.1.snapshotId ∈ free ↔ w.2.tradeIntent.isNone = true) :
    (ws.map (·.1)).foldl (countSignal free) ((ws.map (·.2)).foldl countCapsule t)
      = ws.foldl (fun t w => countWindow t w.1 w.2) t := by
  induction ws generalizing t with
  | nil => rfl
  | cons w ws ih =>
      rw [List.map_cons, List.map_cons, List.foldl_cons, List.foldl_cons, List.foldl_cons,
        countSignal_capsules, ih fun x hx => h x (List.mem_cons_of_mem _ hx)]
      congr 1
      have hw := h w List.mem_cons_self
      unfold countSignal countWindow
      by_cases hnone : w.2.tradeIntent.isNone = true
      · rw [if_pos (hw.mpr hnone), if_pos hnone, countCapsule_keeps.2.2.2]
      · rw [if_neg (fun hin => hnone (hw.mp hin)), if_neg hnone]

/-- **The recount comes to the count**, where no two windows share an id. -/
theorem recount (hids : ∀ w ∈ ws, w.1.snapshotId = w.2.correlationId)
    (hnodup : (ws.map (·.2.correlationId)).Nodup) :
    tallyFromCapsules (ws.map (·.2)) (ws.map (·.1))
      = ws.foldl (fun t w => countWindow t w.1 w.2) {} := by
  refine recount_windows fun w hw => ?_
  rw [hids w hw]
  constructor
  · intro hin
    obtain ⟨c, hc, hid⟩ := List.mem_map.mp hin
    obtain ⟨hc, hnone⟩ := List.mem_filter.mp hc
    obtain ⟨w', hw', rfl⟩ := List.mem_map.mp hc
    have heq : w' = w := List.inj_on_of_nodup_map hnodup hw' hw hid
    rw [← heq]
    exact hnone
  · intro hnone
    refine List.mem_map.mpr ⟨w.2, List.mem_filter.mpr ⟨List.mem_map_of_mem hw, ?_⟩, rfl⟩
    exact hnone

end Reconstruction

/-! ## What the journal holds of a run -/

section

open Resume

variable [Externals] [ModelDump] {r r' : JournalRecorder} {w w' : RunWorld}
  {calls : List RecorderCall}

/-- Calls that went through grow the journal by their stages. -/
theorem performAll_journal (h : r.performAll w calls = (.ok r', w')) :
    ∃ es, Built r.environment es (calls.flatMap RecorderCall.noted)
      ∧ r'.journal w'.store = es.foldl EventJournal.append (r.journal w.store) := by
  induction calls generalizing r w with
  | nil =>
      cases h
      exact ⟨[], .nil, rfl⟩
  | cons c calls ih =>
      obtain ⟨hcarries, hafter⟩ := performs (r := r) (w := w) c
      unfold JournalRecorder.performAll at h
      rcases hstep : r.perform w c with ⟨e | r₁, w₁⟩
      · rw [hstep] at h
        cases h
      · rw [hstep] at h hcarries hafter
        rcases hcarries with ⟨e, he, -⟩ | hcarries
        · cases he
        obtain ⟨henvironment, hgrown⟩ := plan_stepped (hcarries.whole r₁ rfl) (hafter r₁ rfl)
        obtain ⟨es, hbuilt, hjournal⟩ := ih h
        rw [henvironment] at hbuilt
        rw [List.flatMap_cons]
        generalize c.noted = ns at hgrown
        cases hgrown with
        | still hsame _ =>
            exact ⟨es, hbuilt, by rw [hjournal, hsame]⟩
        | grown e he hid _ hsame _ =>
            have hone : Built r.environment [e] [e.noted] := by
              refine ⟨rfl, fun x hx => ?_, fun x hx => ?_⟩
              · rw [List.mem_singleton.mp hx, he]
              · rw [List.mem_singleton.mp hx, hid]
            exact ⟨e :: es, hone.append hbuilt, by rw [hjournal, hsame]; rfl⟩

theorem performAll_append {more : List RecorderCall}
    (h : r.performAll w (calls ++ more) = (.ok r', w')) :
    ∃ r₁ w₁, r.performAll w calls = (.ok r₁, w₁) ∧ r₁.performAll w₁ more = (.ok r', w') := by
  induction calls generalizing r w with
  | nil => exact ⟨r, w, rfl, h⟩
  | cons c calls ih =>
      rw [List.cons_append] at h
      unfold JournalRecorder.performAll at h
      rcases hstep : r.perform w c with ⟨e | r₁, w₁⟩
      · rw [hstep] at h
        cases h
      · rw [hstep] at h
        have hfirst : r.performAll w (c :: calls) = r₁.performAll w₁ calls := by
          simp only [JournalRecorder.performAll, hstep]
        rw [hfirst]
        exact ih h

/-- After a flush nothing waits. -/
theorem performAll_flushed (h : r.performAll w (calls ++ [.flush]) = (.ok r', w')) :
    r'.pending = [] := by
  obtain ⟨r₁, w₁, -, hflush⟩ := performAll_append h
  unfold JournalRecorder.performAll at hflush
  obtain ⟨-, hafter⟩ := performs (r := r₁) (w := w₁) .flush
  rcases hstep : r₁.perform w₁ .flush with ⟨e | r₂, w₂⟩
  · rw [hstep] at hflush
    cases hflush
  · rw [hstep] at hflush hafter
    cases hflush
    have hbuffer := hafter r' rfl
    exact congrArg RecorderBuffer.pending (Option.some.inj hbuffer).symm

end

/-! ## Names and ids -/

/-- Two texts that go on alike from the first mark on begin alike. -/
theorem split_first {α : Type} {c : α} {xs xs' ys ys' : List α} (hx : c ∉ xs) (hx' : c ∉ xs')
    (h : xs ++ c :: ys = xs' ++ c :: ys') : xs = xs' ∧ ys = ys' := by
  induction xs generalizing xs' with
  | nil =>
      cases xs' with
      | nil => exact ⟨rfl, (List.cons.inj h).2⟩
      | cons x xs' =>
          rw [(List.cons.inj h).1] at hx'
          exact absurd List.mem_cons_self hx'
  | cons x xs ih =>
      cases xs' with
      | nil =>
          rw [← (List.cons.inj h).1] at hx
          exact absurd List.mem_cons_self hx
      | cons x' xs' =>
          obtain ⟨hhead, htail⟩ := List.cons.inj h
          obtain ⟨hxs, hys⟩ := ih (fun hc => hx (List.mem_cons_of_mem _ hc))
            (fun hc => hx' (List.mem_cons_of_mem _ hc)) htail
          exact ⟨by rw [hhead, hxs], hys⟩

/-- And two that end alike from the last one on end alike. -/
theorem split_last {α : Type} {c : α} {xs xs' ys ys' : List α} (hy : c ∉ ys) (hy' : c ∉ ys')
    (h : xs ++ c :: ys = xs' ++ c :: ys') : xs = xs' ∧ ys = ys' := by
  have hback : ys.reverse ++ c :: xs.reverse = ys'.reverse ++ c :: xs'.reverse := by
    simpa using congrArg List.reverse h
  obtain ⟨hys, hxs⟩ := split_first (by simpa using hy) (by simpa using hy') hback
  exact ⟨List.reverse_injective hxs, List.reverse_injective hys⟩

theorem marked_text (a b c d : String) : (a ++ b ++ ":" ++ c ++ ":" ++ d).toList
    = a.toList ++ (b.toList ++ ':' :: (c.toList ++ ':' :: d.toList)) := by
  simp [String.toList_append]

theorem EventType.value_inj {t t' : EventType} (h : t.value = t'.value) : t = t' := by
  cases t <;> cases t' <;> first | rfl | exact absurd h (by decide)

theorem EventType.value_mark (t : EventType) : ':' ∉ t.value.toList := by
  cases t <;> decide

/-- What the id of a window is hashed from. -/
def windowName (symbol : String) (t : UtcDatetime) : String :=
  "crumblr:snapshot:" ++ symbol ++ ":" ++ isoTime t

theorem windowName_inj {symbol : String} {t t' : UtcDatetime} (ht : PyDatetime.Representable t)
    (ht' : PyDatetime.Representable t') (h : windowName symbol t = windowName symbol t') :
    t = t' := by
  refine isoTime_inj ht ht' ?_
  have htext := congrArg String.toList h
  unfold windowName at htext
  rw [String.toList_append, String.toList_append (s := _ ++ ":")] at htext
  exact List.append_cancel_left htext

section

variable [Externals] [ModelDump] {n n' : Noted}

/-- What the id of an event is hashed from. -/
def Noted.name (n : Noted) : String :=
  "crumblr:event:" ++ n.type.value ++ ":" ++ n.correlationId.text ++ ":" ++ payloadDigest n.payload

theorem Noted.name_text (n : Noted) : n.name.toList = "crumblr:event:".toList ++ (n.type.value.toList
    ++ ':' :: (n.correlationId.text.toList ++ ':' :: (payloadDigest n.payload).toList)) :=
  marked_text _ _ _ _

/-- An event is known by its type and its window, and then by what it says. -/
theorem Noted.name_inj (hhex : ∀ j, ':' ∉ (Externals.sha256Hex j).toList) (h : n.name = n'.name) :
    n.type = n'.type ∧ n.correlationId = n'.correlationId := by
  have htext := congrArg String.toList h
  rw [n.name_text, n'.name_text] at htext
  obtain ⟨htype, hrest⟩ := split_first n.type.value_mark n'.type.value_mark
    (List.append_cancel_left htext)
  obtain ⟨hid, -⟩ := split_last (hhex _) (hhex _) hrest
  refine ⟨EventType.value_inj (String.toList_injective htype), ?_⟩
  cases hn : n.correlationId
  cases hn' : n'.correlationId
  rw [hn, hn'] at hid
  exact congrArg Uuid.mk (String.toList_injective hid)

/-- No two of the names are hashed to one id. -/
def ToldApart (names : List String) : Prop :=
  ∀ name ∈ names, ∀ name' ∈ names, Externals.uuid5 name = Externals.uuid5 name' → name = name'

end

/-! ## No two stages share an id -/

/-- A halt, or not. -/
def Noted.halting (n : Noted) : Bool := decide (n.type = .systemHalted)

section

variable {n : Noted} {ns : List Noted}

theorem halting_iff : n.halting = true ↔ n.payload.halt?.isSome = true := by
  unfold Noted.halting Noted.type
  cases n.payload <;> simp [eventTypeFor, RunPayload.halt?]

theorem stagesOf_eq : stagesOf ns = (ns.filter fun n => !n.halting).map Noted.type := by
  unfold stagesOf
  rw [List.filter_map]
  congr 1
  refine List.filter_congr fun n _ => ?_
  simp [Noted.halting]

theorem haltsIn_length : (haltsIn ns).length = (ns.filter Noted.halting).length := by
  induction ns with
  | nil => rfl
  | cons n ns ih =>
      unfold haltsIn at ih ⊢
      cases hn : n.payload.halt? with
      | none =>
          have hnot : ¬ n.halting = true := by simp [halting_iff, hn]
          rw [List.filterMap_cons_none (f := fun n : Noted => n.payload.halt?) hn, List.filter_cons_of_neg hnot, ih]
      | some halt =>
          have his : n.halting = true := by simp [halting_iff, hn]
          rw [List.filterMap_cons_some (f := fun n : Noted => n.payload.halt?) hn, List.filter_cons_of_pos his, List.length_cons,
            List.length_cons, ih]

/-- No stage comes twice in a window. -/
theorem stageFlow_nodup (k : Nat) : (stageFlow.take k ++ [EventType.decisionCapsuleSealed]).Nodup := by
  have hall : (stageFlow ++ [EventType.decisionCapsuleSealed]).Nodup := by decide
  exact hall.sublist ((List.take_sublist k stageFlow).append_right _)

end

/-- Of different types, or of different windows. -/
def Noted.Apart (n n' : Noted) : Prop := n.type ≠ n'.type ∨ n.correlationId ≠ n'.correlationId

theorem Noted.Apart.symm {n n' : Noted} (h : n.Apart n') : n'.Apart n :=
  h.imp Ne.symm Ne.symm

section

variable [Externals] {symbol : String} {b : Block} {bs : List Block} {start s : ReplayState}

theorem Block.Sound.apart (h : b.Sound symbol) :
    (b.ns.filter fun n => !n.halting).Pairwise Noted.Apart := by
  have hnodup : (stagesOf b.ns).Nodup := by
    by_cases hw : b.window = none
    · rw [h.idle hw]
      exact List.nodup_nil
    · obtain ⟨k, hk⟩ := h.stages hw
      rw [hk]
      exact stageFlow_nodup k
  rw [stagesOf_eq] at hnodup
  exact (List.pairwise_map.mp hnodup).imp fun hne => .inl hne

/-- Windows of different times have different ids. -/
structure ApartInTime (symbol : String) (ticks : List GeneratedTick) : Prop where
  later : ticks.Pairwise fun t t' => t.eventTimeUtc < t'.eventTimeUtc
  ids : ticks.Pairwise fun t t' =>
    snapshotIdFor symbol t.eventTimeUtc ≠ snapshotIdFor symbol t'.eventTimeUtc

/-- What is recorded but for halts, tick by tick. -/
theorem pairwise_stages {R : Noted → Noted → Prop} (hsound : ∀ b ∈ bs, b.Sound symbol)
    (hwithin : ∀ b : Block, b.Sound symbol → (b.ns.filter fun n => !n.halting).Pairwise R)
    (hacross : ∀ b b' : Block, b.Sound symbol → b'.Sound symbol →
      b.tick.eventTimeUtc < b'.tick.eventTimeUtc →
      snapshotIdFor symbol b.tick.eventTimeUtc ≠ snapshotIdFor symbol b'.tick.eventTimeUtc →
      ∀ n ∈ b.ns.filter (fun n => !n.halting), ∀ n' ∈ b'.ns.filter (fun n => !n.halting), R n n')
    (hticks : ApartInTime symbol (bs.map Block.tick)) :
    ((bs.flatMap (·.ns)).filter fun n => !n.halting).Pairwise R := by
  rw [List.filter_flatMap, List.pairwise_flatMap]
  refine ⟨fun b hb => hwithin b (hsound b hb), ?_⟩
  have hlater := List.pairwise_map.mp hticks.later
  have hids := List.pairwise_map.mp hticks.ids
  refine (hlater.and hids).imp_of_mem ?_
  rintro b b' hb hb' ⟨hlt, hne⟩ n hn n' hn'
  exact hacross b b' (hsound b hb) (hsound b' hb') hlt hne n hn n' hn'

theorem apart_stages (hsound : ∀ b ∈ bs, b.Sound symbol)
    (hticks : ApartInTime symbol (bs.map Block.tick)) :
    ((bs.flatMap (·.ns)).filter fun n => !n.halting).Pairwise Noted.Apart := by
  refine pairwise_stages hsound (fun b hb => hb.apart) ?_ hticks
  intro b b' hb hb' _ hne n hn n' hn'
  right
  rw [hb.ids n (List.mem_of_mem_filter hn), hb'.ids n' (List.mem_of_mem_filter hn')]
  exact hne

/-- They are recorded in the order of their times. -/
theorem ordered_stages (hsound : ∀ b ∈ bs, b.Sound symbol)
    (hticks : ApartInTime symbol (bs.map Block.tick)) :
    ((bs.flatMap (·.ns)).filter fun n => !n.halting).Pairwise
      fun n n' => n.occurredAtUtc ≤ n'.occurredAtUtc := by
  have htime : ∀ b : Block, b.Sound symbol → ∀ n ∈ b.ns.filter (fun n => !n.halting),
      n.occurredAtUtc = b.tick.eventTimeUtc := by
    intro b hb n hn
    obtain ⟨hn, hnot⟩ := List.mem_filter.mp hn
    refine hb.times n hn ?_
    cases hhalt : n.payload.halt? with
    | none => rfl
    | some halt =>
        have his : n.halting = true := by simp [halting_iff, hhalt]
        rw [his] at hnot
        cases hnot
  refine pairwise_stages hsound (fun b hb => ?_) ?_ hticks
  · refine List.pairwise_of_forall_mem_list fun n hn n' hn' => ?_
    rw [htime b hb n hn, htime b hb n' hn']
  · intro b b' hb hb' hlt _ n hn n' hn'
    rw [htime b hb n hn, htime b' hb' n' hn']
    exact le_of_lt hlt

/-- **No two of a run's stages are alike in type and window**, as it halts but once. -/
theorem Accounts.apart (h : Accounts symbol bs start s)
    (hticks : ApartInTime symbol (bs.map Block.tick)) :
    (bs.flatMap (·.ns)).Pairwise Noted.Apart := by
  generalize hns : bs.flatMap (·.ns) = ns
  have hone : (ns.filter Noted.halting).length ≤ 1 := by
    rw [← haltsIn_length, ← hns]
    have hcount := h.halts
    have hatMost : s.haltCount ≤ 1 := by
      unfold ReplayState.haltCount
      split <;> omega
    omega
  have hhalts : (ns.filter Noted.halting).Pairwise Noted.Apart := by
    generalize ns.filter Noted.halting = hs at hone
    rcases hs with _ | ⟨n, _ | ⟨n', hs⟩⟩
    · exact .nil
    · exact List.pairwise_singleton _ _
    · simp only [List.length_cons] at hone
      omega
  have hstages := apart_stages h.sound hticks
  rw [hns] at hstages
  refine (List.filter_append_perm Noted.halting ns).pairwise_iff (fun h => h.symm) |>.mp ?_
  refine List.pairwise_append.mpr ⟨hhalts, hstages, fun n hn n' hn' => .inl ?_⟩
  have his := (List.mem_filter.mp hn).2
  have hnot := (List.mem_filter.mp hn').2
  unfold Noted.halting at his hnot
  simp only [decide_eq_true_eq, Bool.not_eq_true', decide_eq_false_iff_not] at his hnot
  rw [his]
  exact Ne.symm hnot

end

/-! ## Reading it back -/

section

variable {environment : Environment} {events old es : List Event} {r : ReconstructedRun}

theorem foldl_take :
    events.foldl (fun r e => if (some environment).any (fun env => decide (e.environment ≠ env))
      then r else r.take e) r
    = { capsules := r.capsules
          ++ (events.filter fun e => decide (e.environment = environment)).filterMap
            fun e => e.payload.capsule?
        signals := r.signals
          ++ (events.filter fun e => decide (e.environment = environment)).filterMap
            fun e => e.payload.signal?
        halts := r.halts
          ++ (events.filter fun e => decide (e.environment = environment)).filterMap
            fun e => e.payload.halt? } := by
  induction events generalizing r with
  | nil => simp
  | cons e events ih =>
      rw [List.foldl_cons, ih]
      by_cases hmine : e.environment = environment
      · have hout : ¬ (some environment).any (fun env => decide (e.environment ≠ env)) = true := by
          simp [hmine]
        rw [if_neg hout, List.filter_cons_of_pos (by simpa using hmine)]
        unfold ReconstructedRun.take
        cases he : e.payload <;>
          simp [he, RunPayload.capsule?, RunPayload.signal?, RunPayload.halt?]
      · have hout : (some environment).any (fun env => decide (e.environment ≠ env)) = true := by
          simp [hmine]
        rw [if_pos hout, List.filter_cons_of_neg (by simpa using hmine)]

/-- The part of the journal that is one environment's. -/
def mineOf (environment : Environment) (events : List Event) : List Event :=
  (EventJournal.stream events).filter fun e => decide (e.environment = environment)

theorem reconstruct_eq : reconstructFromJournal events (some environment)
    = { capsules := (mineOf environment events).filterMap fun e => e.payload.capsule?
        signals := (mineOf environment events).filterMap fun e => e.payload.signal?
        halts := (mineOf environment events).filterMap fun e => e.payload.halt? } := by
  unfold reconstructFromJournal
  rw [EventJournal.readAll_all, foldl_take]
  rfl

/-- A reader of what is no halt need not look at halts. -/
theorem filterMap_stages {α : Type} {f : RunPayload → Option α}
    (hf : ∀ p : RunPayload, p.halt?.isSome = true → f p = none) :
    events.filterMap (fun e => f e.payload)
      = (events.filter fun e => !e.noted.halting).filterMap fun e => f e.payload := by
  rw [List.filterMap_filter]
  refine List.filterMap_congr fun e _ => ?_
  by_cases hhalt : e.noted.halting = true
  · rw [hf e.payload (halting_iff.mp hhalt)]
    simp [hhalt]
  · simp [hhalt]

theorem old_unread (hold : ∀ e ∈ old, e.environment ≠ environment)
    (hes : ∀ e ∈ es, e.environment = environment) :
    (old ++ es).filter (fun e => decide (e.environment = environment)) = es := by
  have hnone : old.filter (fun e => decide (e.environment = environment)) = [] := by
    refine List.filter_eq_nil_iff.mpr fun e he => ?_
    simpa using hold e he
  have hall : es.filter (fun e => decide (e.environment = environment)) = es := by
    refine List.filter_eq_self.mpr fun e he => ?_
    simpa using hes e he
  rw [List.filter_append, hnone, hall, List.nil_append]

/-- What one environment recorded in the order of its times is read in the order it was recorded
in, but for halts. -/
theorem mineOf_stages (hold : ∀ e ∈ old, e.environment ≠ environment)
    (hes : ∀ e ∈ es, e.environment = environment)
    (hordered : (es.filter fun e => !e.noted.halting).Pairwise
      fun e e' => e.occurredAtUtc ≤ e'.occurredAtUtc) :
    (mineOf environment (old ++ es)).filter (fun e => !e.noted.halting)
      = es.filter fun e => !e.noted.halting := by
  have hpart : (old ++ es).filter
      (fun e => !e.noted.halting && decide (e.environment = environment))
      = es.filter fun e => !e.noted.halting := by
    rw [← List.filter_filter, old_unread hold hes]
  have hread := Numbered.read_in_order (fun e : Event => e.occurredAtUtc) (l := old ++ es)
    (fun e => !e.noted.halting && decide (e.environment = environment)) (by rwa [hpart])
  rw [hpart] at hread
  rw [mineOf, List.filter_filter]
  exact hread

/-- The halts of an environment, whatever their order. -/
theorem mineOf_perm (hold : ∀ e ∈ old, e.environment ≠ environment)
    (hes : ∀ e ∈ es, e.environment = environment) :
    (mineOf environment (old ++ es)).Perm es := by
  have hperm := (EventJournal.stream_perm : (EventJournal.stream (old ++ es)).Perm _).filter
    fun e => decide (e.environment = environment)
  rw [old_unread hold hes] at hperm
  exact hperm

theorem reconstruct_stages (hold : ∀ e ∈ old, e.environment ≠ environment)
    (hes : ∀ e ∈ es, e.environment = environment)
    (hordered : (es.filter fun e => !e.noted.halting).Pairwise
      fun e e' => e.occurredAtUtc ≤ e'.occurredAtUtc) :
    (reconstructFromJournal (old ++ es) (some environment)).capsules = capsulesIn (es.map Event.noted)
      ∧ (reconstructFromJournal (old ++ es) (some environment)).signals
        = signalsIn (es.map Event.noted)
      ∧ (reconstructFromJournal (old ++ es) (some environment)).halts.Perm
        (haltsIn (es.map Event.noted)) := by
  have hstages := mineOf_stages hold hes hordered
  rw [reconstruct_eq]
  refine ⟨?_, ?_, ?_⟩
  · have hnone : ∀ p : RunPayload, p.halt?.isSome = true → p.capsule? = none := by
      intro p
      cases p <;> simp [RunPayload.halt?, RunPayload.capsule?]
    dsimp only
    rw [filterMap_stages hnone, hstages, ← filterMap_stages hnone, capsulesIn, List.filterMap_map]
    rfl
  · have hnone : ∀ p : RunPayload, p.halt?.isSome = true → p.signal? = none := by
      intro p
      cases p <;> simp [RunPayload.halt?, RunPayload.signal?]
    dsimp only
    rw [filterMap_stages hnone, hstages, ← filterMap_stages hnone, signalsIn, List.filterMap_map]
    rfl
  · rw [haltsIn, List.filterMap_map]
    exact (mineOf_perm hold hes).filterMap _

end

/-! ## A run is what its journal says -/

/-- What the ids of a run's windows and events are hashed from. -/
def namesOf [Externals] [ModelDump] (symbol : String) (ticks : List GeneratedTick)
    (final : ReplayState) : List String :=
  ticks.map (fun tick => windowName symbol tick.eventTimeUtc) ++ final.noted.map Noted.name

section

variable [Externals] {symbol : String} {ticks : List GeneratedTick} {bs : List Block}
  {start final : ReplayState}

theorem apartInTime [ModelDump]
    (htimes : ticks.Pairwise fun t t' => t.eventTimeUtc < t'.eventTimeUtc)
    (hdates : ∀ tick ∈ ticks, PyDatetime.Representable tick.eventTimeUtc)
    (hnames : ToldApart (namesOf symbol ticks final)) : ApartInTime symbol ticks where
  later := htimes
  ids := by
    refine htimes.imp_of_mem fun {t t'} ht ht' hlt hid => ?_
    have hname : ∀ tick ∈ ticks, windowName symbol tick.eventTimeUtc ∈ namesOf symbol ticks final :=
      fun tick htick => List.mem_append_left _ (List.mem_map_of_mem htick)
    have hsame := hnames _ (hname t ht) _ (hname t' ht') hid
    have htime := windowName_inj (hdates t ht) (hdates t' ht') hsame
    exact absurd (htime ▸ hlt) (lt_irrefl _)

/-- The events of a run have ids of their own. -/
theorem ids_nodup [ModelDump] {environment : Environment} {es : List Event} {ns : List Noted}
    (hbuilt : Built environment es ns) (hapart : ns.Pairwise Noted.Apart)
    (hhex : ∀ j, ':' ∉ (Externals.sha256Hex j).toList) (hnames : ToldApart (ns.map Noted.name)) :
    (es.map (·.eventId)).Nodup := by
  rw [← hbuilt.noted, List.pairwise_map] at hapart
  refine List.pairwise_map.mpr (hapart.imp_of_mem fun {e e'} he he' hapart hid => ?_)
  rw [hbuilt.identity e he, hbuilt.identity e' he'] at hid
  have hname : ∀ e ∈ es, e.noted.name ∈ ns.map Noted.name := by
    intro e he
    rw [← hbuilt.noted]
    exact List.mem_map_of_mem (List.mem_map_of_mem he)
  obtain ⟨htype, hwindow⟩ := Noted.name_inj hhex (hnames _ (hname e he) _ (hname e' he') hid)
  exact hapart.elim (fun hne => hne htype) fun hne => hne hwindow

theorem capsulesIn_blocks (h : ∀ b ∈ bs, b.Sound symbol) :
    capsulesIn (bs.flatMap (·.ns)) = (windowsOf bs).map (·.2) := by
  induction bs with
  | nil => rfl
  | cons b bs ih =>
      have hrest := ih fun x hx => h x (List.mem_cons_of_mem _ hx)
      rw [List.flatMap_cons, capsulesIn_append, hrest, (h b List.mem_cons_self).capsules]
      simp [windowsOf]

theorem signalsIn_blocks (h : ∀ b ∈ bs, b.Sound symbol) :
    signalsIn (bs.flatMap (·.ns)) = (windowsOf bs).map (·.1) := by
  induction bs with
  | nil => rfl
  | cons b bs ih =>
      have hrest := ih fun x hx => h x (List.mem_cons_of_mem _ hx)
      rw [List.flatMap_cons, signalsIn_append, hrest, (h b List.mem_cons_self).signals]
      simp [windowsOf]

/-- Each window's signal and capsule carry the window's id, and no other's. -/
theorem windows_apart (h : ∀ b ∈ bs, b.Sound symbol)
    (hticks : ApartInTime symbol (bs.map Block.tick)) :
    (∀ w ∈ windowsOf bs, w.1.snapshotId = w.2.correlationId)
      ∧ ((windowsOf bs).map (·.2.correlationId)).Nodup := by
  have hid : ∀ b ∈ bs, ∀ w ∈ b.window.toList,
      w.1.snapshotId = snapshotIdFor symbol b.tick.eventTimeUtc
        ∧ w.2.correlationId = snapshotIdFor symbol b.tick.eventTimeUtc := by
    intro b hb w hw
    obtain ⟨hsignal, hcapsule, -⟩ := (h b hb).window w (Option.mem_toList.mp hw)
    exact ⟨hsignal, hcapsule⟩
  constructor
  · intro w hw
    obtain ⟨b, hb, hw⟩ := List.mem_flatMap.mp hw
    obtain ⟨hsignal, hcapsule⟩ := hid b hb w hw
    rw [hsignal, hcapsule]
  · refine List.pairwise_map.mpr (List.pairwise_flatMap.mpr ⟨fun b hb => ?_, ?_⟩)
    · cases b.window with
      | none => exact .nil
      | some w => exact List.pairwise_singleton _ _
    · refine (List.pairwise_map.mp hticks.ids).imp_of_mem fun {b b'} hb hb' hne w hw w' hw' => ?_
      rw [(hid b hb w hw).2, (hid b' hb' w' hw').2]
      exact hne

/-- A run halted at most once, and not if it was halted before. -/
theorem Accounts.halted (h : Accounts symbol bs start final) :
    final.killSwitch.isHalted
      = (start.killSwitch.isHalted || !(haltsIn (bs.flatMap (·.ns))).isEmpty) := by
  have hcount := h.halts
  unfold ReplayState.haltCount at hcount
  generalize haltsIn (bs.flatMap (·.ns)) = hs at hcount ⊢
  cases hstart : start.killSwitch.isHalted <;> cases hfinal : final.killSwitch.isHalted <;>
    cases hs <;> simp [hstart, hfinal] at hcount ⊢

end

theorem create_start {setup : ReplaySetup} {broker : SimulatedBroker} {equity : Decimal}
    {killSwitch : KillSwitch} {sessions : RiskSessionStates} {start : ReplayState}
    (h : setup.create broker equity killSwitch sessions = .ok start) :
    start.noted = [] ∧ start.capsules = [] ∧ start.tally = {} ∧ start.killSwitch = killSwitch := by
  unfold ReplaySetup.create at h
  obtain ⟨session, -, h⟩ := bind_ok h
  cases h
  exact ⟨rfl, rfl, rfl, rfl⟩

section

variable [Externals] [ModelDump]

/-- The journal once a run got to its end, whatever attempts it took. -/
theorem journal_completed {environment : Environment} {calls : List RecorderCall}
    {store : RunStore} {recorder : JournalRecorder}
    (hrecorded : ((JournalRecorder.create environment).performAll ⟨store, []⟩ calls).1 = .ok recorder)
    (hflush : ∃ before, calls = before ++ [.flush]) (attempts : List Attempt) :
    ∃ es, Built environment es (calls.flatMap RecorderCall.noted)
      ∧ ((Attempt.undisturbed calls).leaves environment calls
          (attempts.foldl (fun s a => a.leaves environment calls s) store)).events
        = es.foldl EventJournal.append store.events := by
  have hleaves : ((Attempt.undisturbed calls).leaves environment calls
      (attempts.foldl (fun s a => a.leaves environment calls s) store))
      = ((JournalRecorder.create environment).performAll ⟨store, []⟩ calls).2.store := by
    obtain ⟨ns, hns⟩ := attempts_commit environment calls attempts store
    rw [undisturbed_leaves, hns, Resume.commit_resumed absorbing_planAll, ← undisturbed_leaves]
    unfold Attempt.leaves Attempt.undisturbed
    rw [List.take_length]
  rcases hrun : (JournalRecorder.create environment).performAll ⟨store, []⟩ calls with ⟨x, w⟩
  rw [hrun] at hrecorded hleaves
  cases hrecorded
  obtain ⟨es, hbuilt, hjournal⟩ := performAll_journal hrun
  obtain ⟨before, rfl⟩ := hflush
  have hpending := performAll_flushed hrun
  unfold RecorderBuffer.journal at hjournal
  rw [hpending] at hjournal
  exact ⟨es, hbuilt, by rw [hleaves]; exact hjournal⟩

/--
**A run is what its journal says.** Of a replay that got to its end, whatever attempts it took, the
journal alone gives back its decisions in their order, their digest, every counter that leaves a
trace, and whether it halted; whatever else the journal holds.
-/
theorem run_reconstructed {setup : ReplaySetup} {broker : SimulatedBroker} {equity : Decimal}
    {killSwitch : KillSwitch} {sessions : RiskSessionStates} {ticks : List GeneratedTick}
    {start final : ReplayState} {result : RunResult} {store : RunStore} {recorder : JournalRecorder}
    (hcreate : setup.create broker equity killSwitch sessions = .ok start)
    (hrun : setup.run ticks start = (.ok result, final))
    (hrecorded : ((JournalRecorder.create setup.config.environment).performAll ⟨store, []⟩
      final.calls).1 = .ok recorder)
    (htimes : ticks.Pairwise fun t t' => t.eventTimeUtc < t'.eventTimeUtc)
    (hdates : ∀ tick ∈ ticks, PyDatetime.Representable tick.eventTimeUtc)
    (hhex : ∀ j, ':' ∉ (Externals.sha256Hex j).toList)
    (hnames : ToldApart (namesOf setup.spec.canonicalSymbol ticks final))
    (hstore : ∀ e ∈ store.events, e.environment ≠ setup.config.environment
      ∧ ∀ n ∈ final.noted, e.eventId ≠ Externals.uuid5 n.name)
    (attempts : List Attempt) :
    let environment := setup.config.environment
    let left := (Attempt.undisturbed final.calls).leaves environment final.calls
      (attempts.foldl (fun s a => a.leaves environment final.calls s) store)
    let rebuilt := reconstructFromJournal left.events (some environment)
    rebuilt.capsules = result.capsules
      ∧ rebuilt.fingerprint = decisionFingerprint result.capsules
      ∧ rebuilt.tally = result.tally.journalled
      ∧ result.halted = (killSwitch.isHalted || rebuilt.halted) := by
  dsimp only
  obtain ⟨⟨bs, hbs, haccounts⟩, hflush, htally, hcapsules, hhalted⟩ := ReplaySetup.run_ok hrun
  obtain ⟨hnothing, hnone, hzero, hswitch⟩ := create_start hcreate
  obtain ⟨es, hbuilt, hevents⟩ := journal_completed hrecorded hflush attempts
  have hticks := apartInTime htimes hdates hnames
  rw [← hbs] at hticks
  have hnoted : final.noted = bs.flatMap (·.ns) := by
    rw [haccounts.noted, hnothing, List.nil_append]
  -- its events are in the journal, one for each stage and behind whatever was there
  have hnames' : ToldApart (final.noted.map Noted.name) := fun x hx y hy =>
    hnames x (List.mem_append_right _ hx) y (List.mem_append_right _ hy)
  have hbuilt' : Built setup.config.environment es final.noted := hbuilt
  have hnodup : (es.map (·.eventId)).Nodup :=
    ids_nodup hbuilt' (hnoted ▸ haccounts.apart hticks) hhex hnames'
  have hfresh : ∀ e ∈ es, e.eventId ∉ store.events.map (·.eventId) := by
    intro e he hmem
    obtain ⟨old, hold, hid⟩ := List.mem_map.mp hmem
    have hin : e.noted ∈ final.noted := by
      rw [← hbuilt'.noted]
      exact List.mem_map_of_mem he
    exact (hstore old hold).2 e.noted hin (hid.trans (hbuilt'.identity e he))
  have hjournal := Table.foldl_insertNew_fresh hnodup hfresh
  change es.foldl EventJournal.append store.events = _ at hjournal
  rw [hevents, hjournal]
  -- and are read in the order of the windows
  have hordered : (es.filter fun e => !e.noted.halting).Pairwise
      fun e e' => e.occurredAtUtc ≤ e'.occurredAtUtc := by
    have hstages := ordered_stages haccounts.sound hticks
    rw [← hnoted, ← hbuilt'.noted, List.filter_map, List.pairwise_map] at hstages
    exact hstages
  obtain ⟨hread, hsignals, hhalts⟩ := reconstruct_stages (fun e he => (hstore e he).1)
    hbuilt'.environment_eq hordered
  rw [hbuilt'.noted, hnoted] at hread hsignals hhalts
  rw [capsulesIn_blocks haccounts.sound] at hread
  rw [signalsIn_blocks haccounts.sound] at hsignals
  have hsame : result.capsules = (windowsOf bs).map (·.2) := by
    rw [hcapsules, haccounts.capsules, hnone, List.nil_append]
  obtain ⟨hids, hapart⟩ := windows_apart haccounts.sound hticks
  refine ⟨hread.trans hsame.symm, ?_, ?_, ?_⟩
  · unfold ReconstructedRun.fingerprint
    rw [hread, hsame]
  · unfold ReconstructedRun.tally
    rw [hread, hsignals, Reconstruction.recount hids hapart, htally, haccounts.tally,
      Reconstruction.foldl_tallied, hzero]
    rfl
  · unfold ReconstructedRun.halted
    rw [hhalted, haccounts.halted, hswitch]
    congr 2
    have hlength := hhalts.length_eq
    rw [Bool.eq_iff_iff, List.isEmpty_iff_length_eq_zero, List.isEmpty_iff_length_eq_zero, hlength]

end

namespace Sample

/-- A dump that says what kind of payload it is of. -/
scoped instance kinds : ModelDump where
  modelDump payload := .str (eventTypeFor payload).value

/-- A strategy that buys at every opportunity. -/
def eager : StrategyEntry where
  strategyId := "s"
  version := "v1"
  minimumBars := 1
  evaluate snapshot _ _ _ := .ok {
    decision := ⟨.buy, ⟨"0.9"⟩, ["breakout"],
      some { intent with createdAtUtc := noon, lifetime := by decide }⟩
    features := some ⟨⟨"features"⟩, "f", "h", .trend, snapshot.symbol,
      .obj [("computed_at_utc", .time noon)]⟩ }

theorem uncapped : ∀ n ∈ (none : Option Nat), 1 ≤ n := by
  intro n hn
  cases hn

def replaySetup : ReplaySetup where
  config := config
  supervisor := ⟨true, true, none, uncapped⟩
  spec := spec
  strategy := eager
  riskConfig := risk
  riskConfigMerged := worker.riskConfigMerged
  resolved := rfl

def twoTicks : List GeneratedTick := [quoted 0, quoted 5]

/-- A replay of two ticks, and a recorder for it. -/
def recordedReplay : Except PyError (ReplayState × RunResult × ReplayState × JournalRecorder) := do
  let start ← replaySetup.create (.create spec ⟨10000, 0⟩ "EUR" "Demo" 1 30) ⟨10000, 0⟩
    ⟨.running, []⟩ []
  let (result, final) := replaySetup.run twoTicks start
  let result ← result
  let recorder ← ((JournalRecorder.create .paper).performAll ⟨.empty, []⟩ final.calls).1
  pure (start, result, final, recorder)

theorem ok_of_toOption {x : Except ε α} {a : α} (h : x.toOption = some a) : x = .ok a := by
  cases x with
  | error e => cases h
  | ok b =>
      cases h
      rfl

/-- The first intent is filled, and the second comes too late. -/
theorem recordedReplay_counts : recordedReplay.toOption.map
    (fun r => (r.2.1.tally.ordersFilled, r.2.1.tally.riskBlocked)) = some (1, 1) := by
  decide +kernel

/-- It runs to its end, and so does its recorder. -/
theorem recordedReplay_runs : ∃ start result final recorder,
    replaySetup.create (.create spec ⟨10000, 0⟩ "EUR" "Demo" 1 30) ⟨10000, 0⟩ ⟨.running, []⟩ []
        = .ok start
      ∧ replaySetup.run twoTicks start = (.ok result, final)
      ∧ ((JournalRecorder.create .paper).performAll ⟨.empty, []⟩ final.calls).1 = .ok recorder
      ∧ result.tally.ordersFilled = 1 ∧ result.tally.riskBlocked = 1 := by
  obtain ⟨⟨start, result, final, recorder⟩, hrun, hcounts⟩ :=
    Option.map_eq_some_iff.mp recordedReplay_counts
  have hok := ok_of_toOption hrun
  unfold recordedReplay at hok
  obtain ⟨start', hcreate, hok⟩ := bind_ok hok
  obtain ⟨result', hresult, hok⟩ := bind_ok hok
  obtain ⟨recorder', hrecorded, hok⟩ := bind_ok hok
  cases hok
  obtain ⟨hfilled, hblocked⟩ := Prod.mk.inj hcounts
  exact ⟨start, result, _, recorder, hcreate, Prod.ext hresult rfl, hrecorded, hfilled, hblocked⟩

theorem hexText_mark (n : Nat) : ':' ∉ (hexText n).toList := by
  have hdigits : ∀ n : Nat, ':' ∉ Nat.toDigits 16 n := by
    intro n
    induction n using Nat.strongRecOn with
    | _ n ih =>
        have hdigit : ∀ d : Fin 16, ':' ≠ d.val.digitChar := by decide
        rw [Nat.toDigits_eq_if (by decide)]
        split
        · rename_i hlt
          exact fun hin => hdigit ⟨n, hlt⟩ (List.mem_singleton.mp hin)
        · rename_i hle
          have hrest := ih (n / 16) (by omega)
          have hlast := hdigit ⟨n % 16, Nat.mod_lt _ (by decide)⟩
          intro hin
          exact (List.mem_append.mp hin).elim hrest fun hin => hlast (List.mem_singleton.mp hin)
  unfold hexText
  rw [String.toList_ofList]
  exact fun hin => hdigits _ (List.mem_of_mem_tail hin)

end Sample

open Sample in
/-- A window with a fill and one with a refusal, written at the second attempt. -/
theorem replay_reconstructed : ∃ (result : RunResult) (final : ReplayState),
    result.tally.ordersFilled = 1 ∧ result.tally.riskBlocked = 1
      ∧ (let left := (Attempt.undisturbed final.calls).leaves .paper final.calls
            (Attempt.leaves .paper final.calls .empty ⟨7, []⟩)
        let rebuilt := reconstructFromJournal left.events (some .paper)
        rebuilt.capsules = result.capsules
          ∧ rebuilt.fingerprint = decisionFingerprint result.capsules
          ∧ rebuilt.tally = result.tally.journalled
          ∧ result.halted = (false || rebuilt.halted)) := by
  obtain ⟨start, result, final, recorder, hcreate, hrun, hrecorded, hfilled, hblocked⟩ :=
    recordedReplay_runs
  refine ⟨result, final, hfilled, hblocked, ?_⟩
  refine run_reconstructed hcreate hrun hrecorded ?_ ?_ (fun j => hexText_mark _) ?_ ?_ [⟨7, []⟩]
  · decide
  · decide
  · intro name _ name' _ hid
    exact congrArg Uuid.text hid
  · exact fun e he => by cases he

end Crumblr
