import Crumblr.AgentGateway.Http
import Crumblr.Proof.AtMostOnce

/-!
# Where a contract's time comes from

The platform's check sees what a field was given before pydantic reads it, and looks only at
what is a `datetime` already. A text passes it unread, so the time it stands for keeps the
offset the text has, or has none. Every time that is read is at UTC exactly where what was given
says so, and of a body whose times are all at UTC, and only of those, no comparison and no
fingerprint raises for a time's sake.
-/

namespace Crumblr

/-- What a field is given says that its time is at UTC: it is a `datetime`, which the check
converts, a number, or a text with the offset zero. -/
def DesignatesUtc : PyValue → Prop
  | .str text => designatedOffset text = some 0
  | .bytes text => designatedOffset text = some 0
  | .date _ => False
  | _ => True

section

variable [Pydantic]

omit [Pydantic] in
theorem readOr_ok {read : Option PyDatetime} {d : PyDatetime} (h : readOr read = .ok d) :
    read = some d := by
  unfold readOr at h
  split at h
  · cases h
    rfl
  · cases h

/-- **A time is at UTC exactly where its text says so.** -/
theorem utcDatetimeField_isUtc_iff (hdoc : Pydantic.Documented) {value : PyValue} {d : PyDatetime}
    (h : utcDatetimeField value = .ok d) : d.IsUtc ↔ DesignatesUtc value := by
  obtain ⟨value', hrequired, hfield⟩ := bind_ok h
  cases value with
  | datetime e =>
      refine iff_of_true ?_ trivial
      simp only [requireUtc] at hrequired
      split at hrequired
      · cases hrequired
      · obtain ⟨e', hastimezone, heq⟩ := bind_ok hrequired
        cases heq
        cases hfield
        unfold PyDatetime.astimezoneUtc at hastimezone
        split at hastimezone
        · cases hastimezone
          rfl
        · cases hastimezone
  | date e =>
      cases hrequired
      cases hfield
      exact iff_of_false (by simp [PyDatetime.IsUtc]) fun h => h
  | str text =>
      cases hrequired
      have hoffset := hdoc.text (readOr_ok hfield)
      unfold PyDatetime.IsUtc
      rw [hoffset]
      rfl
  | bytes text =>
      cases hrequired
      have hoffset := hdoc.text (readOr_ok hfield)
      unfold PyDatetime.IsUtc
      rw [hoffset]
      rfl
  | int n =>
      cases hrequired
      exact iff_of_true (hdoc.number (readOr_ok hfield)) trivial
  | float x =>
      cases hrequired
      exact iff_of_true (hdoc.number (readOr_ok hfield)) trivial
  | decimal x =>
      cases hrequired
      exact iff_of_true (hdoc.number (readOr_ok hfield)) trivial
  | other =>
      cases hrequired
      cases hfield

/-- A field of a document says that its time is at UTC. -/
def DesignatesUtcAt (payload : Json) (key : String) : Prop :=
  ∃ value, payload.get? key = some value ∧ DesignatesUtc (.ofJson value)

theorem utcDatetimeAt_isUtc_iff (hdoc : Pydantic.Documented) {payload : Json} {key : String}
    {d : PyDatetime} (h : utcDatetimeAt payload key = .ok d) :
    d.IsUtc ↔ DesignatesUtcAt payload key := by
  unfold utcDatetimeAt at h
  split at h
  · cases h
  · rename_i value hvalue
    rw [utcDatetimeField_isUtc_iff hdoc h]
    constructor
    · exact fun hd => ⟨value, hvalue, hd⟩
    · rintro ⟨value', hvalue', hd⟩
      rw [hvalue] at hvalue'
      cases hvalue'
      exact hd

end

/-! ## What times at UTC spare -/

namespace PyDatetime

variable {d e : PyDatetime}

theorem le_of_isUtc (hd : d.IsUtc) (he : e.IsUtc) : d.le e = .ok (decide (d.wall ≤ e.wall)) := by
  obtain ⟨w, o⟩ := d
  obtain ⟨w', o'⟩ := e
  cases hd
  cases he
  simp [le]

theorem canonical_of_isUtc (hd : d.IsUtc) : d.canonical = .ok (.time d.wall) := by
  obtain ⟨w, o⟩ := d
  cases hd
  rfl

end PyDatetime

theorem canonicalDecimal_ok {x : Decimal} {j : Json} (h : canonicalDecimal x = .ok j) :
    ¬ x.Overflows ∧ j = .decimal x.normalize := by
  unfold canonicalDecimal at h
  split at h
  · cases h
  · rename_i hfits
    cases h
    exact ⟨hfits, rfl⟩

/-- The decimals a proposal's fingerprint is made of. -/
def ProposalFields.decimals (f : ProposalFields) : List Decimal :=
  [f.referencePrice.val, f.stopLossPrice.val, f.takeProfitPrice.val, f.requestedRiskFraction.val]

namespace ReceivedProposal

variable {p : ReceivedProposal}

/-- Its times are at UTC. -/
structure AtUtc (p : ReceivedProposal) : Prop where
  submitted : p.submittedAtUtc.IsUtc
  expires : p.expiresAtUtc.IsUtc

/-- What refuses the whole refuses it by a validation error. -/
theorem check_refusal (h : p.AtUtc) {e : PyError} (he : p.check = .error e) :
    e.kind = .validation := by
  have hdirectional : ∀ e, p.checkDirectional = .error e → e.kind = .validation := by
    intro e he
    unfold checkDirectional at he
    split at he
    · cases he
      rfl
    · cases he
  have hstops : ∀ e, p.checkStopAndTargetDirection = .error e → e.kind = .validation := by
    intro e he
    unfold checkStopAndTargetDirection at he
    repeat' split at he
    all_goals cases he
    all_goals rfl
  have hlifetime : ∀ e, p.checkLifetime = .error e → e.kind = .validation := by
    intro e he
    unfold checkLifetime at he
    rw [PyDatetime.le_of_isUtc h.expires h.submitted] at he
    by_cases hle : p.expiresAtUtc.wall ≤ p.submittedAtUtc.wall
    · simp [hle, bind, Except.bind] at he
      rw [← he]
    · simp [hle, bind, Except.bind, pure, Except.pure] at he
  unfold check at he
  cases h₁ : p.checkDirectional with
  | error e₁ =>
      rw [h₁] at he
      cases he
      exact hdirectional e h₁
  | ok u =>
      rw [h₁] at he
      cases h₂ : p.checkStopAndTargetDirection with
      | error e₂ =>
          rw [h₂] at he
          cases he
          exact hstops e h₂
      | ok u =>
          rw [h₂] at he
          exact hlifetime e he

/-- The payload, where it can be made. -/
theorem content_ok (h : p.AtUtc) (hfits : ∀ x ∈ p.fields.decimals, ¬ x.Overflows) :
    ∃ j, p.content = .ok j := by
  simp only [ProposalFields.decimals, List.mem_cons, List.not_mem_nil, or_false, forall_eq_or_imp,
    forall_eq] at hfits
  obtain ⟨hreference, hstop, htake, hrisk⟩ := hfits
  unfold content
  simp only [PyDatetime.canonical_of_isUtc h.submitted, PyDatetime.canonical_of_isUtc h.expires,
    canonicalDecimal, if_neg hreference, if_neg hstop, if_neg htake, if_neg hrisk, bind,
    Except.bind]
  exact ⟨_, rfl⟩

theorem not_overflows {j : Json} (h : p.content = .ok j) :
    ∀ x ∈ p.fields.decimals, ¬ x.Overflows := by
  unfold content at h
  obtain ⟨_, -, h⟩ := bind_ok h
  obtain ⟨_, hreference, h⟩ := bind_ok h
  obtain ⟨_, hrisk, h⟩ := bind_ok h
  obtain ⟨_, hstop, h⟩ := bind_ok h
  obtain ⟨_, -, h⟩ := bind_ok h
  obtain ⟨_, htake, h⟩ := bind_ok h
  simp only [ProposalFields.decimals, List.mem_cons, List.not_mem_nil, or_false, forall_eq_or_imp,
    forall_eq]
  exact ⟨(canonicalDecimal_ok hreference).1, (canonicalDecimal_ok hstop).1,
    (canonicalDecimal_ok htake).1, (canonicalDecimal_ok hrisk).1⟩

/-- Nothing that is done with it raises, but to refuse it. -/
structure NeverRaises [Externals] (p : ReceivedProposal) : Prop where
  checked : ∀ e, p.check = .error e → e.kind = .validation
  fingerprinted : ∃ h, p.proposalFingerprint = .ok h
  judged : ∀ now : PyDatetime, now.IsUtc → ∃ b, p.expired now = .ok b

theorem neverRaises_iff [Externals] (h : p.AtUtc) :
    p.NeverRaises ↔ ∀ x ∈ p.fields.decimals, ¬ x.Overflows := by
  constructor
  · intro hp
    obtain ⟨fp, hfp⟩ := hp.fingerprinted
    obtain ⟨j, hj, -⟩ := bind_ok hfp
    exact not_overflows hj
  · intro hfits
    refine ⟨fun e he => check_refusal h he, ?_, fun now hnow =>
      ⟨_, PyDatetime.le_of_isUtc h.expires hnow⟩⟩
    obtain ⟨j, hj⟩ := content_ok h hfits
    unfold proposalFingerprint
    rw [hj]
    exact ⟨_, rfl⟩

end ReceivedProposal

/-! ## The boundary -/

/-- Every time a proposal's body gives is at UTC, and nothing done with the proposal raises. -/
def ReceivedProposal.Kept [Externals] (p : ReceivedProposal) : Prop := p.AtUtc ∧ p.NeverRaises

def ReceivedNoTrade.Kept [Externals] (d : ReceivedNoTrade) : Prop :=
  d.decidedAtUtc.IsUtc ∧ ∃ h, d.decisionFingerprint = .ok h

/--
**A time is at UTC exactly where what was given says so.** Of a field, whatever it was given and
on whatever route; of a body, whose times are then compared and fingerprinted without raising,
if its decimals are within the range of the decimal context, and not otherwise.

pydantic's reading of texts and numbers is a parameter. It is taken to give a text's time the
offset the text has and a number's time the offset zero, as it documents.
-/
theorem utc_boundary [Externals] [Pydantic] (hdoc : Pydantic.Documented) :
    (∀ value d, utcDatetimeField value = .ok d → (d.IsUtc ↔ DesignatesUtc value))
      ∧ (∀ (body : ProposalBody) p, body.read = .ok p →
        (p.Kept ↔ DesignatesUtcAt body.payload "submitted_at_utc"
          ∧ DesignatesUtcAt body.payload "expires_at_utc"
          ∧ ∀ x ∈ body.fields.decimals, ¬ x.Overflows))
      ∧ ∀ (body : NoTradeBody) d, body.modelValidate = .ok d →
        (d.Kept ↔ DesignatesUtcAt body.payload "decided_at_utc") := by
  refine ⟨fun value d h => utcDatetimeField_isUtc_iff hdoc h, fun body p h => ?_, fun body d h => ?_⟩
  · obtain ⟨submitted, hsubmitted, h⟩ := bind_ok h
    obtain ⟨expires, hexpires, heq⟩ := bind_ok h
    cases heq
    rw [← utcDatetimeAt_isUtc_iff hdoc hsubmitted, ← utcDatetimeAt_isUtc_iff hdoc hexpires]
    constructor
    · rintro ⟨hutc, hnever⟩
      exact ⟨hutc.submitted, hutc.expires, (ReceivedProposal.neverRaises_iff hutc).mp hnever⟩
    · rintro ⟨hsub, hexp, hfits⟩
      exact ⟨⟨hsub, hexp⟩, (ReceivedProposal.neverRaises_iff ⟨hsub, hexp⟩).mpr hfits⟩
  · obtain ⟨decided, hdecided, heq⟩ := bind_ok h
    cases heq
    rw [← utcDatetimeAt_isUtc_iff hdoc hdecided]
    refine ⟨fun hkept => hkept.1, fun hutc => ⟨hutc, ?_⟩⟩
    unfold ReceivedNoTrade.decisionFingerprint ReceivedNoTrade.content
    simp only [PyDatetime.canonical_of_isUtc hutc, bind, Except.bind]
    exact ⟨_, rfl⟩

/-! ## A body without an offset -/

namespace Sample

/-- Noon of 2026-09-08 as some texts give it, two of them at UTC; and a number of seconds. -/
scoped instance pydantic : Pydantic where
  datetimeOfText := fun text =>
    if text = "2026-09-08T12:00:00" ∨ text = "2026-09-08T12:00:00Z"
        ∨ text = "2026-09-08T12:00:00+02:00" then some ⟨noon, designatedOffset text⟩
    else if text = "1.7e9" then some ⟨seconds 1700000000, some 0⟩
    else none
  datetimeOfNumber := fun
    | .int n => some ⟨seconds n, some 0⟩
    | _ => none

theorem documented : Pydantic.Documented where
  text := by
    intro text d h
    simp only [Pydantic.datetimeOfText] at h
    split at h
    · cases h
      rfl
    · split at h
      · rename_i htext
        cases h
        rw [htext]
        decide +kernel
      · cases h
  number := by
    intro value d h
    simp only [Pydantic.datetimeOfNumber] at h
    split at h
    · cases h
      rfl
    · cases h

/-- A proposal's fields, whatever its times. -/
def fields : ProposalFields where
  proposalId := ⟨"asked"⟩
  agentId := ⟨"agent"⟩
  assignmentId := ⟨"assignment"⟩
  contextHash := "context"
  strategyArtifactHash := "v1"
  side := .buy
  entryType := .market
  referencePrice := ⟨⟨11, 2⟩, by decide⟩
  stopLossPrice := ⟨⟨10, 2⟩, by decide⟩
  takeProfitPrice := ⟨⟨12, 2⟩, by decide⟩
  confidence := ⟨"0.9"⟩
  requestedRiskFraction := ⟨⟨50, -4⟩, by decide +kernel⟩
  reasonCodes := ⟨[], by decide⟩
  evidenceRefs := []

/-- It was submitted at UTC, and its expiry has no offset. -/
def unmarked : ProposalBody :=
  ⟨fields, .obj [("submitted_at_utc", .str "2026-09-08T12:00:00Z"),
    ("expires_at_utc", .str "2026-09-08T12:00:00")]⟩

end Sample

open Sample in
/-- A text that says UTC and a number of seconds are at UTC; a text with another offset is read as
well, and is not. -/
theorem utc_boundary_sample :
    (∃ d, utcDatetimeField (.str "2026-09-08T12:00:00Z") = .ok d ∧ d.IsUtc)
      ∧ (∃ d, utcDatetimeField (.str "1.7e9") = .ok d ∧ d.IsUtc)
      ∧ ∃ d, utcDatetimeField (.str "2026-09-08T12:00:00+02:00") = .ok d ∧ ¬ d.IsUtc := by
  have hutc : utcDatetimeField (.str "2026-09-08T12:00:00Z") = .ok ⟨noon, some 0⟩ := by
    decide +kernel
  have hunix : utcDatetimeField (.str "1.7e9") = .ok ⟨seconds 1700000000, some 0⟩ := by
    decide +kernel
  have heast : utcDatetimeField (.str "2026-09-08T12:00:00+02:00")
      = .ok ⟨noon, some (hours 2)⟩ := by decide +kernel
  have hmarked : designatedOffset "2026-09-08T12:00:00Z" = some 0 := by decide +kernel
  have hnumber : designatedOffset "1.7e9" = some 0 := by decide +kernel
  have hahead : ¬ designatedOffset "2026-09-08T12:00:00+02:00" = some 0 := by decide +kernel
  have hfield := (utc_boundary documented).1
  exact ⟨⟨_, hutc, (hfield _ _ hutc).mpr hmarked⟩, ⟨_, hunix, (hfield _ _ hunix).mpr hnumber⟩,
    ⟨_, heast, fun h => hahead ((hfield _ _ heast).mp h)⟩⟩

open Sample in
/-- **A text without an offset is let in**, and comparing its time with another raises. -/
theorem utc_boundary_unmarked :
    ¬ ((∀ value d, utcDatetimeField value = .ok d → d.IsUtc)
      ∧ (∀ (body : ProposalBody) p, body.read = .ok p → p.Kept)
      ∧ ∀ (body : NoTradeBody) d, body.modelValidate = .ok d → d.Kept) := by
  rintro ⟨-, hkept, -⟩
  have hread : unmarked.read = .ok ⟨fields, ⟨noon, some 0⟩, ⟨noon, none⟩⟩ := rfl
  obtain ⟨-, hnever⟩ := hkept _ _ hread
  have hraised : (⟨fields, ⟨noon, some 0⟩, ⟨noon, none⟩⟩ : ReceivedProposal).check
      = .error ⟨.type, "can't compare offset-naive and offset-aware datetimes"⟩ := by
    decide +kernel
  have := hnever.checked _ hraised
  cases this

end Crumblr
