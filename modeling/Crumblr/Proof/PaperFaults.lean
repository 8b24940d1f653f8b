import Crumblr.Persistence.PaperFile
import Crumblr.Proof.PaperBook
import Mathlib.Tactic.IntervalCases

/-!
# A paper journal after an append that failed

A line that is in the file counts, whatever became of the append: a sync that fails leaves one that
memory does not have, and the next append takes its number again. And what the simulation refuses
after its append is refused by every replay.

Where neither happens the file is what memory holds.
-/

namespace Crumblr

/-! ## What must not happen -/

/-- The simulation fills an order, or has filled it. -/
def SimulatedBroker.Fills (b : SimulatedBroker) (order : ApprovedOrder) : Prop :=
  (b.handledRequests.lookup order.orderRequestId).isSome
    ∨ ∃ fill, b.fillOf order = .ok fill ∧ 0 < fill.requested ∧ 0 < fill.price

/-- The simulation does not raise after the append: an order that is new can be filled, and there is
a quote to flatten at. -/
def PaperOperation.Simulated (b : DurablePaperBroker) : PaperOperation → Prop
  | .submit order authorizedRiskAmount _ => ¬ authorizedRiskAmount < 0 →
      b.orderFingerprints.lookup order.val.orderRequestId = none → b.broker.Fills order.val
  | .flattenAll flattenRequestId _ =>
      b.flattenResults.lookup flattenRequestId = none → b.broker.tick.isSome
  | .advance _ | .recordAuditFact .. => True

/-- No part of a line is left in the file by an append that fails, and no operation raises after
one. The first line may be there, if it is whole. -/
def PaperStep.Sound [Externals] (p : PaperPortfolio) (s : PaperStand) : PaperStep → Prop
  | .construct outcome =>
      s.file = none → ∀ bytes, outcome = .broken bytes → (lineBytes p.header).length ≤ bytes
  | .operate o outcome => ∀ b, s.broker = some b →
      match outcome with
      | .done => o.Simulated b
      | .refused => True
      | .broken bytes => bytes = 0

/-- The file is what memory holds, and a new broker can be made of it, which is the one in use. -/
structure PaperStand.Usable [Externals] (host : JournalHost) (p : PaperPortfolio) (s : PaperStand) :
    Prop where
  readsBack : ∀ b, s.broker = some b →
    ∃ file, s.file = some file ∧ file.readEntries host = .ok b.entries
  rebuilds : ∃ b, (p.construct host s.file .done).broker = some b
    ∧ ∀ b', s.broker = some b' → b' = b

section

variable [Externals] {host : JournalHost} {p : PaperPortfolio} {s : PaperStand}

/-! ## The simulation -/

theorem SimulatedBroker.Fills.orderSend {b : SimulatedBroker} {order : ApprovedOrder}
    (h : b.Fills order) : ∃ result, (b.orderSend order).1 = .ok result := by
  unfold SimulatedBroker.orderSend
  cases hhandled : b.handledRequests.lookup order.orderRequestId with
  | some result => exact ⟨result, rfl⟩
  | none =>
      rcases h with hsome | ⟨fill, hfill, hrequested, hprice⟩
      · rw [hhandled] at hsome
        cases hsome
      · cases hresult : SimulatedBroker.fillResult order fill b.nextTicket with
        | error e => exact absurd ⟨hrequested, hprice⟩ (SimulatedBroker.fillResult_error hresult)
        | ok result =>
            refine ⟨result, ?_⟩
            simp only [hfill, hresult]

omit [Externals] in
theorem closeAllPositions_ok {b : SimulatedBroker} (h : b.tick.isSome) (reason : String) :
    ∃ closed, b.closeAllPositions reason = .ok closed := by
  obtain ⟨tick, htick⟩ := Option.isSome_iff_exists.mp h
  have hrequire : b.requireTick = .ok tick := by
    unfold SimulatedBroker.requireTick
    rw [htick]
  unfold SimulatedBroker.closeAllPositions
  rw [hrequire]
  exact ⟨_, rfl⟩

/-- An operation that appends and is simulated returns. -/
theorem run_of_simulated {b b' : DurablePaperBroker} {o : PaperOperation}
    (ho : o.Simulated b) {e : PaperJournalEntry} {outcome : Except PyError o.Answer}
    (hrun : o.run b = ⟨some e, outcome, b'⟩) : ∃ a, outcome = .ok a := by
  cases o with
  | advance tick =>
      change b.advance tick = _ at hrun
      unfold DurablePaperBroker.advance at hrun
      split at hrun
      · cases hrun
      · dsimp only at hrun
        split at hrun
        · cases hrun
        · rcases append_result (b := b) _ _ _ _ with ⟨e', happend⟩ | ⟨-, happend⟩ | ⟨-, happend⟩
          · rw [happend] at hrun
            cases hrun
          · rw [happend] at hrun
            cases hrun
          · rw [happend] at hrun
            cases hrun
            exact ⟨_, rfl⟩
  | submit order authorizedRiskAmount correlationId =>
      change b.submit order authorizedRiskAmount correlationId = _ at hrun
      unfold DurablePaperBroker.submit at hrun
      split at hrun
      · cases hrun
      rename_i hamount
      split at hrun
      · split at hrun
        · cases hrun
        · split at hrun <;> cases hrun
      · rename_i hfresh
        obtain ⟨result, hresult⟩ := (ho hamount hfresh).orderSend
        rcases append_result (b := b) _ _ _ _ with ⟨e', happend⟩ | ⟨-, happend⟩ | ⟨-, happend⟩
        · rw [happend] at hrun
          cases hrun
        · rw [happend] at hrun
          cases hrun
        · rw [happend] at hrun
          obtain ⟨-, houtcome, -⟩ := Sourcing.Effect.mk.inj hrun
          refine ⟨result, houtcome.symm.trans ?_⟩
          unfold DurablePaperBroker.applyOrder
          have hbroker : (b.journalled (b.nextEntry .paperOrderAccepted
              (DurablePaperBroker.orderKey order.val.orderRequestId)
              (DurablePaperBroker.orderPayload order.val authorizedRiskAmount correlationId))).broker
              = b.broker := rfl
          rw [hbroker]
          cases hsend : b.broker.orderSend order.val with
          | mk sent broker =>
              rw [hsend] at hresult
              obtain rfl : sent = .ok result := hresult
              rfl
  | flattenAll flattenRequestId reason =>
      change b.flattenAll flattenRequestId reason = _ at hrun
      unfold DurablePaperBroker.flattenAll at hrun
      split at hrun
      · cases hrun
      · rename_i hfresh
        obtain ⟨closed, hclosed⟩ := closeAllPositions_ok (ho hfresh) reason
        rcases append_result (b := b) _ _ _ _ with ⟨e', happend⟩ | ⟨-, happend⟩ | ⟨-, happend⟩
        · rw [happend] at hrun
          cases hrun
        · rw [happend] at hrun
          cases hrun
        · rw [happend] at hrun
          obtain ⟨-, houtcome, -⟩ := Sourcing.Effect.mk.inj hrun
          refine ⟨closed.1, houtcome.symm.trans ?_⟩
          unfold DurablePaperBroker.applyFlatten
          have hbroker : (b.journalled (b.nextEntry .paperFlattenRequested
              (DurablePaperBroker.flattenKey flattenRequestId)
              (DurablePaperBroker.flattenPayload flattenRequestId reason))).broker = b.broker := rfl
          rw [hbroker, hclosed]
  | recordAuditFact fact correlationId detail =>
      change b.recordAuditFact fact correlationId detail = _ at hrun
      unfold DurablePaperBroker.recordAuditFact at hrun
      rcases append_result (b := b) _ _ _ _ with ⟨e', happend⟩ | ⟨-, happend⟩ | ⟨-, happend⟩
      · rw [happend] at hrun
        cases hrun
      · rw [happend] at hrun
        cases hrun
      · rw [happend] at hrun
        cases hrun
        exact ⟨_, rfl⟩

/-! ## The file -/

theorem readEntries_whole (host : JournalHost) (records : List Json) :
    JournalFile.readEntries ⟨records, []⟩ host = readEntries records := by
  unfold JournalFile.readEntries
  cases readEntries records with
  | error e => rfl
  | ok entries => rfl

omit [Externals] in
/-- A line that is written whole is a record more. -/
theorem written_whole {records : List Json} {e : PaperJournalEntry} {bytes : Nat}
    (h : (lineBytes e).length ≤ bytes) :
    JournalFile.written ⟨records, []⟩ e bytes = ⟨records ++ [e.encoded], []⟩ := by
  unfold JournalFile.written
  rw [if_pos ⟨rfl, h⟩]

omit [Externals] in
theorem lineBytes_ne_nil (e : PaperJournalEntry) : (lineBytes e).length ≠ 0 := by
  unfold lineBytes
  generalize e.encoded.sortKeys.dumps false = text
  have hsize : (String.ofList (text ++ ['\n'])).utf8ByteSize ≠ 0 := by
    intro hzero
    rw [String.utf8ByteSize_eq_zero_iff] at hzero
    have hlist := congrArg String.toList hzero
    simp at hlist
  exact hsize

omit [Externals] in
/-- Nothing written is nothing there. -/
theorem written_zero (file : JournalFile) (e : PaperJournalEntry) : file.written e 0 = file := by
  unfold JournalFile.written
  rw [if_neg fun hcontra => lineBytes_ne_nil e (Nat.le_zero.mp hcontra.2), List.take_zero,
    List.append_nil]

/-! ## The invariant -/

/-- Nothing is there, or the file is the journal of a run and the broker in use the one it left. -/
inductive PaperStand.Kept (p : PaperPortfolio) : PaperStand → Prop where
  | nothing : Kept p ⟨none, none⟩
  | kept {h : List ((o : PaperOperation) × o.Answer)}
      {process : Sourcing.Process DurablePaperBroker PaperJournalEntry}
      {broker : Option DurablePaperBroker} (hp : (paperSource p).Reach h process)
      (hbroker : ∀ b, broker = some b → b = process.live) :
      Kept p ⟨some ⟨paperFile p process.journal, []⟩, broker⟩

theorem loadFile_of_reach {h : List ((o : PaperOperation) × o.Answer)}
    {process : Sourcing.Process DurablePaperBroker PaperJournalEntry}
    (hp : (paperSource p).Reach h process) :
    p.loadFile host ⟨paperFile p process.journal, []⟩ = .ok process.live := by
  unfold PaperPortfolio.loadFile
  rw [readEntries_whole]
  exact (load_of_reach hp).1

theorem PaperStand.Kept.usable (hs : s.Kept p) : s.Usable host p := by
  cases hs with
  | nothing =>
      refine ⟨fun b hb => ?_, p.created, rfl, fun b hb => ?_⟩
      · cases hb
      · cases hb
  | @kept h process broker hp hbroker =>
      obtain ⟨-, hclaimed, hentries⟩ := load_of_reach hp
      refine ⟨fun b hb => ⟨_, rfl, ?_⟩, process.live, ?_, hbroker⟩
      · obtain rfl := hbroker b hb
        rw [readEntries_whole, hentries]
        have hchained := hclaimed.chained
        rw [hentries] at hchained
        exact hchained.readEntries
      · change (p.loadFile host ⟨paperFile p process.journal, []⟩).toOption = some process.live
        rw [loadFile_of_reach hp]
        rfl

/-- What an operation of the broker in use leads to. -/
theorem step_operate {file : JournalFile} {b b' : DurablePaperBroker} {o : PaperOperation}
    {r : Option PaperJournalEntry} {result : Except PyError o.Answer} (outcome : AppendOutcome)
    (hrun : o.run b = ⟨r, result, b'⟩) :
    PaperStand.step host p ⟨some file, some b⟩ (.operate o outcome)
      = match r with
        | none => ⟨some file, some b'⟩
        | some entry =>
            match outcome with
            | .done => ⟨some (file.written entry (lineBytes entry).length), some b'⟩
            | .refused => ⟨some file, some b⟩
            | .broken bytes => ⟨some (file.written entry bytes), some b⟩ := by
  unfold PaperStand.step
  simp only [hrun, Option.getD_some]
  cases r <;> rfl

/-- **The step lemma.** -/
theorem PaperStand.Kept.step (hs : s.Kept p) {step : PaperStep} (h : step.Sound p s) :
    (s.step host p step).Kept p := by
  cases step with
  | construct outcome =>
      cases hs with
      | nothing =>
          cases outcome with
          | done => exact .kept .init fun b hb => (Option.some.inj hb).symm
          | refused => exact .nothing
          | broken bytes =>
              have hwhole : JournalFile.empty.written p.header bytes
                  = ⟨paperFile p [], []⟩ := written_whole (h rfl bytes rfl)
              change PaperStand.Kept p ⟨some (JournalFile.empty.written p.header bytes), none⟩
              rw [hwhole]
              exact .kept .init fun b hb => by cases hb
      | @kept h process broker hp hbroker =>
          change PaperStand.Kept p ⟨some ⟨paperFile p process.journal, []⟩,
            (p.loadFile host ⟨paperFile p process.journal, []⟩).toOption⟩
          rw [loadFile_of_reach hp]
          exact .kept hp fun b hb => (Option.some.inj hb).symm
  | operate o outcome =>
      cases hs with
      | nothing => exact .nothing
      | @kept h process broker hp hbroker =>
          cases broker with
          | none => exact .kept hp fun b hb => by cases hb
          | some b =>
              obtain rfl := hbroker b rfl
              obtain ⟨-, hclaimed, -⟩ := load_of_reach hp
              have hsound := h process.live rfl
              cases hrun : o.run process.live with
              | mk appended result b' =>
                  rw [step_operate outcome hrun]
                  cases appended with
                  | none =>
                      -- What appends nothing changes nothing.
                      have hsame : b' = process.live := by
                        cases result with
                        | ok a => exact (paperSource_faithful p).silent hclaimed hrun
                        | error e =>
                            rcases run_error hclaimed hrun with ⟨-, hsame⟩ | ⟨_, _, hnone, -⟩
                            · exact hsame
                            · cases hnone
                      subst hsame
                      exact .kept hp fun b hb => (Option.some.inj hb).symm
                  | some entry =>
                      cases outcome with
                      | refused => exact .kept hp hbroker
                      | broken bytes =>
                          obtain rfl : bytes = 0 := hsound
                          dsimp only
                          rw [written_zero]
                          exact .kept hp hbroker
                      | done =>
                          obtain ⟨a, rfl⟩ := run_of_simulated hsound hrun
                          have hran := hp.ran hrun
                          have hfile : paperFile p process.journal ++ [entry.encoded]
                              = paperFile p (process.journal ++ [entry]) := by
                            simp [paperFile]
                          dsimp only
                          rw [written_whole (Nat.le_refl _), hfile]
                          exact .kept hran fun b hb => (Option.some.inj hb).symm

/-- **A journal stays usable** in a run none of whose appends leaves a part of a line in the file when
it fails, and none of whose operations raises after its append. -/
theorem paper_journal_usable (host : JournalHost) (p : PaperPortfolio) (steps : List PaperStep)
    (h : ∀ past step, past ++ [step] <+: steps → step.Sound p (p.after host past)) :
    ∀ past, past <+: steps → (p.after host past).Usable host p := by
  have hkept : ∀ past, past <+: steps → (p.after host past).Kept p := by
    intro past
    induction past using List.reverseRecOn with
    | nil => exact fun _ => .nothing
    | append_singleton past step ih =>
        intro hpast
        have hbefore := ih ((List.prefix_append past [step]).trans hpast)
        have hstep : ((p.after host past).step host p step).Kept p :=
          hbefore.step (h past step hpast)
        unfold PaperPortfolio.after at hstep ⊢
        rw [List.foldl_append]
        exact hstep
  exact fun past hpast => (hkept past hpast).usable

end

namespace Sample

/-- A fact that may be tried again. -/
def filledFact : PaperOperation := .recordAuditFact "PAPER_FILLED" ⟨"outcome"⟩ none

/-- A sync fails when the whole line is in the file, and the operation is tried again. -/
def unsynced : List PaperStep :=
  [.construct .done, .operate filledFact (.broken 1000), .operate filledFact .done]

def journalHost : JournalHost := ⟨String.ofList, ⟨1000, 4300⟩, fun _ => []⟩

/-- Two facts after a bar, of which one could not be written at first. -/
def retried : List PaperStep :=
  [.construct .done, .operate (.advance (quoted 0)) .done, .operate filledFact .refused,
   .operate filledFact .done, .operate (.flattenAll ⟨"flatten"⟩ "end") .done, .construct .done]

end Sample

open Sample in
theorem paper_journal_usable_sample :
    ∃ b, (portfolio.after journalHost retried).broker = some b ∧ b.entries.length = 4
      ∧ (portfolio.after journalHost retried).Usable journalHost portfolio := by
  have hsound : ∀ past step, past ++ [step] <+: retried →
      step.Sound portfolio (portfolio.after journalHost past) := by
    intro past step hpast
    obtain ⟨later, hsplit⟩ := hpast
    have hquote : ∀ b, (portfolio.after journalHost (retried.take 4)).broker = some b →
        b.broker.tick.isSome = true := by
      intro b hb
      have hticks : ((portfolio.after journalHost (retried.take 4)).broker.all
          fun b => b.broker.tick.isSome) = true := by decide +kernel
      rw [hb] at hticks
      exact hticks
    have htake : past = retried.take past.length := by
      rw [← hsplit, List.append_assoc, List.take_left]
    have hlength : past.length < 6 := by
      have hsum := congrArg List.length hsplit
      simp only [List.length_append, retried, List.length_cons,
        List.length_nil] at hsum
      omega
    have hstep : retried[past.length]? = some step := by
      rw [← hsplit, List.append_assoc]
      simp
    rw [htake]
    generalize past.length = n at hlength hstep
    interval_cases n
    · cases hstep
      exact fun _ bytes hbytes => by cases hbytes
    · cases hstep
      exact fun _ _ => trivial
    · cases hstep
      exact fun _ _ => trivial
    · cases hstep
      exact fun _ _ => trivial
    · cases hstep
      exact fun b hb _ => hquote b hb
    · cases hstep
      exact fun _ bytes hbytes => by cases hbytes
  have husable := paper_journal_usable journalHost portfolio retried hsound
  have hbroker : ((portfolio.after journalHost (retried.take 5)).broker.any
      fun b => decide (b.entries.length = 4)) = true := by decide +kernel
  obtain ⟨b, hb, hlength⟩ := (Option.any_eq_true ..).mp hbroker
  -- what the last step reads is what was there before it
  obtain ⟨b', hread, hsame⟩ := (husable (retried.take 5) (List.take_prefix ..)).rebuilds
  obtain rfl := hsame b hb
  exact ⟨b, hread, of_decide_eq_true hlength, husable retried List.prefix_rfl⟩

open Sample in
/-- A line whose sync failed is in the file, and its number is taken again. -/
theorem unsynced_unusable : ¬ (portfolio.after journalHost unsynced).Usable journalHost portfolio := by
  intro h
  obtain ⟨b, hb, -⟩ := h.rebuilds
  have hnone : (portfolio.construct journalHost
      (portfolio.after journalHost unsynced).file .done).broker.isNone = true := by decide +kernel
  rw [hb] at hnone
  cases hnone

end Crumblr
