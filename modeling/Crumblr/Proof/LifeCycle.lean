import Crumblr.Proof.Knowledge
import Mathlib.Data.List.Infix

/-!
# The life cycles of a request and of an occurrence

The complete histories a request can have, written down one by one, and those of a
flatten occurrence. Everything that comes next takes a prefix of one of them to a
prefix of one of them, which is a check over a short list.
-/

namespace Crumblr

/-- What every submission that was committed has behind it. -/
def committedPrefix : List ExecutionEventType :=
  [.requestClaimed, .finalRiskPassed, .orderChecked, .submissionGatePassed, .submissionStarted]

/-- The complete histories of a request. -/
def lifeCycles : List (List ExecutionEventType) :=
  [[.requestClaimed, .ineligible],
   [.requestClaimed, .gateClosed],
   [.requestClaimed, .reconciliationBlocked],
   [.requestClaimed, .finalRiskBlocked],
   [.requestClaimed, .finalRiskPassed, .orderCheckRejected],
   [.requestClaimed, .finalRiskPassed, .orderChecked, .submissionGateBlocked],
   [.requestClaimed, .finalRiskPassed, .orderChecked, .submissionGatePassed,
     .canaryPermitBlocked],
   committedPrefix ++ [.filled, .reconciled],
   committedPrefix ++ [.rejected, .reconciled],
   committedPrefix ++ [.ambiguousOutcomeResolved, .reconciled],
   committedPrefix ++ [.submitted, .reconciled],
   committedPrefix ++ [.submitted, .filled, .reconciled],
   committedPrefix ++ [.submitted, .ambiguousOutcomeResolved, .reconciled]]

/-- Every stage of every life cycle. -/
def histories : List (List ExecutionEventType) := lifeCycles.flatMap List.inits

/-- A history is some life cycle, cut short. -/
theorem mem_histories {ts : List ExecutionEventType} :
    ts ∈ histories ↔ ∃ word ∈ lifeCycles, ts <+: word := by
  simp [histories, List.mem_flatMap, List.mem_inits]

/-- The events that end a request without a submission. -/
def refusals : List ExecutionEventType :=
  [.ineligible, .gateClosed, .reconciliationBlocked, .finalRiskBlocked, .orderCheckRejected,
   .submissionGateBlocked, .canaryPermitBlocked]

theorem nil_mem_histories : [] ∈ histories := by decide

/-- **A history grows along a life cycle, and never says the same twice.** -/
theorem histories_grow : ∀ ts ∈ histories, ∀ t ∈ advances ts.getLast? ++ resolves ts.getLast?,
    ts ++ [t] ∈ histories ∧ t ∉ ts := by
  decide +kernel

/-- No event type occurs twice in a history. -/
theorem histories_nodup : ∀ ts ∈ histories, ts.Nodup := by decide +kernel

/-- Nothing follows a refusal. -/
theorem histories_refusal : ∀ ts ∈ histories, ∀ t ∈ refusals, t ∈ ts → ts.getLast? = some t := by
  decide +kernel

/-! ## Before the submission is committed -/

/-- The event types of a request whose submission has not been committed. -/
def early : List ExecutionEventType :=
  [.requestClaimed, .finalRiskPassed, .orderChecked, .submissionGatePassed] ++ refusals

/-- Short of the commitment itself, the owner's next event is an early one. -/
theorem early_advances : ∀ ts ∈ histories, (∀ t ∈ ts, t ∈ early) →
    ∀ t ∈ advances ts.getLast?, t ≠ .submissionStarted → t ∈ early := by
  decide +kernel

/-- Only what came after a commitment leaves anything to resolve. -/
theorem late_of_resolves {l : Option ExecutionEventType} {t : ExecutionEventType}
    (h : t ∈ resolves l) : ∃ t', l = some t' ∧ t' ∉ early := by
  unfold resolves at h
  split at h <;> first | exact ⟨_, rfl, by decide⟩ | cases h

/-- The commitment itself resolves nothing. -/
theorem not_started_of_resolves {l : Option ExecutionEventType}
    (h : .submissionStarted ∈ resolves l) : False := by
  unfold resolves at h
  split at h <;> simp at h

/-! ## The life cycle of an occurrence -/

/-- The complete histories of an occurrence. -/
def flattenLifeCycles : List (List FlattenEventType) :=
  [[.flattenRequestClaimed, .flattenGateBlocked],
   [.flattenRequestClaimed, .flattenGatePassed, .flattenSubmissionStarted,
     .flattenOutcomeResolved]]

/-- Every stage of either. -/
def flattenHistories : List (List FlattenEventType) := flattenLifeCycles.flatMap List.inits

theorem mem_flattenHistories {ts : List FlattenEventType} :
    ts ∈ flattenHistories ↔ ∃ word ∈ flattenLifeCycles, ts <+: word := by
  simp [flattenHistories, List.mem_flatMap, List.mem_inits]

/-- **An occurrence grows along a life cycle, and never says the same twice.** -/
theorem flattenHistories_grow : ∀ ts ∈ flattenHistories,
    ∀ t ∈ commits ts.getLast? ++ settles ts.getLast?, ts ++ [t] ∈ flattenHistories ∧ t ∉ ts := by
  decide +kernel

/-- A commitment is followed by its outcome. -/
theorem flattenHistories_started : ∀ ts ∈ flattenHistories, .flattenSubmissionStarted ∈ ts →
    .flattenOutcomeResolved ∉ ts →
    ts.getLast? = some .flattenSubmissionStarted ∧ ts ++ [.flattenOutcomeResolved] ∈ flattenHistories := by
  decide +kernel

/-- What is settled had been committed. -/
theorem settles_cases {t : FlattenEventType} {last : Option FlattenEventType}
    (h : t ∈ settles last) :
    last = some .flattenSubmissionStarted ∧ t = .flattenOutcomeResolved := by
  unfold settles at h
  split at h
  · exact ⟨rfl, List.mem_singleton.mp h⟩
  · cases h

end Crumblr
