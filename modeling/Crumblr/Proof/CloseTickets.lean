import Crumblr.Mt5Gateway.DemoExecution
import Crumblr.Proof.FlattenEvidence
import Crumblr.Proof.OrderRequest

/-!
# Which tickets count as closed

An operator's close asks the broker for one position after another and returns the tickets it
takes for closed. A flatten asks the same of the same replies, and takes fewer for closed: a
close that was filled in part leaves a position open.
-/

namespace Crumblr

variable {module : Mt5Module} {retcodes : RetcodeTable} {replies : Nat → CloseReply}
  {n : Nat} {positions : List PositionState} {closed out : List Int}

/-- Two selections of a list, one within the other, are of the same elements if they agree. -/
theorem map_filter_eq_iff {α β : Type} {l : List α} {f : α → β} {p q : α → Bool}
    (hqp : ∀ a ∈ l, q a = true → p a = true) :
    (l.filter p).map f = (l.filter q).map f ↔ ∀ a ∈ l, p a = true → q a = true := by
  have hwithin : (l.filter p).filter q = l.filter q := by
    rw [List.filter_filter]
    refine List.filter_congr fun a ha => ?_
    cases hq : q a with
    | true => simp [hqp a ha hq]
    | false => simp
  constructor
  · intro h a ha hp
    have hlength : ((l.filter p).filter q).length = (l.filter p).length := by
      rw [hwithin]
      simpa using (congrArg List.length h).symm
    exact List.length_filter_eq_length_iff.mp hlength a (List.mem_filter.mpr ⟨ha, hp⟩)
  · intro h
    have hself : (l.filter p).filter q = l.filter p :=
      List.filter_eq_self.mpr fun a ha =>
        h a (List.mem_of_mem_filter ha) (List.of_mem_filter ha)
    rw [← hwithin, hself]

/-- What came of each attempt, by the ticket it was made on. -/
def closeAttempts (module : Mt5Module) (retcodes : RetcodeTable) (replies : Nat → CloseReply) :
    Nat → List PositionState → List (Int × Except PyError ExecutionResult)
  | _, [] => []
  | n, position :: rest =>
      (position.ticket,
        closePosition module retcodes (replies n) (operatorInstruction (replies n) position))
        :: closeAttempts module retcodes replies (n + 1) rest

/-- The attempt came to a result in one of the given states. -/
def endedIn (states : List OrderState) (attempt : Int × Except PyError ExecutionResult) : Bool :=
  match attempt.2 with
  | .ok result => result.state ∈ states
  | .error _ => false

theorem endedIn_iff {states : List OrderState} {attempt : Int × Except PyError ExecutionResult} :
    endedIn states attempt = true ↔ ∃ result, attempt.2 = .ok result ∧ result.state ∈ states := by
  unfold endedIn
  cases attempt.2 <;> simp

/-- The tickets whose reply says that the position is gone. -/
def fullyClosedTickets (attempts : List (Int × Except PyError ExecutionResult)) : List Int :=
  (attempts.filter fun attempt => match attempt.2 with
    | .ok result => closeResultFullyClosed result
    | .error _ => false).map Prod.fst

theorem fullyClosedTickets_eq (attempts : List (Int × Except PyError ExecutionResult)) :
    fullyClosedTickets attempts = (attempts.filter (endedIn [.filled])).map Prod.fst := by
  unfold fullyClosedTickets
  congr 1
  refine List.filter_congr fun attempt _ => ?_
  unfold endedIn
  split
  · simp [closeResultFullyClosed]
  · simp

/-- **The loop returns the tickets that were filled, in whole or in part.** -/
theorem closeEach_ok (h : closeEach module retcodes replies n positions closed = .ok out) :
    out = closed ++ ((closeAttempts module retcodes replies n positions).filter
      (endedIn [.filled, .partiallyFilled])).map Prod.fst := by
  induction positions generalizing n closed with
  | nil =>
      cases h
      simp [closeAttempts]
  | cons position rest ih =>
      unfold closeEach at h
      unfold closeAttempts
      split at h
      · rename_i exc hexc
        split at h
        · rw [ih h]
          simp [endedIn, hexc]
        · cases h
      · rename_i result hresult
        split at h
        · rename_i hstate
          have hended : endedIn [.filled, .partiallyFilled] (position.ticket,
              closePosition module retcodes (replies n)
                (operatorInstruction (replies n) position)) = true := by
            simpa [endedIn, hresult] using hstate
          rw [ih h, List.filter_cons_of_pos hended, List.map_cons, List.append_assoc]
          rfl
        · rename_i hstate
          have hended : ¬ endedIn [.filled, .partiallyFilled] (position.ticket,
              closePosition module retcodes (replies n)
                (operatorInstruction (replies n) position)) = true := by
            simpa [endedIn, hresult] using hstate
          rw [ih h, List.filter_cons_of_neg hended]

/-- The close request was sent, and the terminal filled a part of it. -/
def CloseReply.PartialFill (retcodes : RetcodeTable) (reply : CloseReply) : Prop :=
  (∃ account, reply.account = .ok account)
    ∧ ∃ answer, reply.result = some answer
        ∧ orderStateOf retcodes answer.retcode = .partiallyFilled

/-- A close request names the side its instruction gives it. -/
theorem buildCloseOrderRequest_ok (module : Mt5Module) (instruction : FlattenInstruction) :
    ∃ request, buildCloseOrderRequest module instruction = .ok request := by
  have hside : ∃ orderType, module.marketOrderType instruction.closeSide = some orderType := by
    rw [instruction.inverse]
    split
    · exact ⟨_, rfl⟩
    · exact ⟨_, rfl⟩
  obtain ⟨orderType, hside⟩ := hside
  unfold buildCloseOrderRequest
  rw [hside]
  exact ⟨_, rfl⟩

/-- A close that comes to a result has the state of its reply. -/
theorem closePosition_ok {reply : CloseReply} {instruction : FlattenInstruction}
    {result : ExecutionResult} (h : closePosition module retcodes reply instruction = .ok result) :
    (∃ account, reply.account = .ok account)
      ∧ ∃ answer, reply.result = some answer
        ∧ result.state = orderStateOf retcodes answer.retcode := by
  unfold closePosition at h
  obtain ⟨account, haccount, h⟩ := bind_ok h
  obtain ⟨request, -, h⟩ := bind_ok h
  exact ⟨⟨account, haccount⟩, decodeOrderSendResult_ok h⟩

/-- A reply that cannot be read is an invalid one. -/
theorem decodeOrderSendResult_error {operation : String} {lastError : Int × String}
    {executionId orderRequestId : Uuid} {answer : OrderSendReply} {intentId : Option Uuid}
    {requestedPrice : Option Price} {requestedVolume : Option Volume} {exc : PyError}
    (h : decodeOrderSendResult operation retcodes lastError executionId (some answer)
      orderRequestId intentId requestedPrice requestedVolume = .error exc) :
    exc.kind = .validation := by
  simp only [decodeOrderSendResult] at h
  rcases bind_error h with hprice | ⟨price, -, hrest⟩
  · unfold executedPriceOf at hprice
    split at hprice
    · cases hprice
      rfl
    · split at hprice
      · cases hprice
      · split at hprice <;> cases hprice
        rfl
  · rcases bind_error hrest with hvolume | ⟨volume, -, hrest⟩
    · unfold executedVolumeOf at hvolume
      split at hvolume
      · cases hvolume
        rfl
      · split at hvolume <;> cases hvolume
        rfl
    · rcases bind_error hrest with hcomment | ⟨comment, -, hrest⟩
      · unfold retcodeCommentOf at hcomment
        split at hcomment <;> cases hcomment
        rfl
      · cases hrest

/-- A partial fill is reported as one, or ends the loop. -/
theorem closePosition_of_partialFill {reply : CloseReply} {instruction : FlattenInstruction}
    (h : reply.PartialFill retcodes) :
    (∃ result, closePosition module retcodes reply instruction = .ok result
        ∧ result.state = .partiallyFilled)
      ∨ ∃ exc, closePosition module retcodes reply instruction = .error exc
        ∧ exc.kind ≠ .mt5CallFailed := by
  obtain ⟨⟨account, haccount⟩, answer, hanswer, hstate⟩ := h
  cases hclose : closePosition module retcodes reply instruction with
  | ok result =>
      obtain ⟨-, answer', hanswer', hstate'⟩ := closePosition_ok hclose
      rw [hanswer] at hanswer'
      cases hanswer'
      exact .inl ⟨result, rfl, hstate'.trans hstate⟩
  | error exc =>
      refine .inr ⟨exc, rfl, ?_⟩
      obtain ⟨request, hrequest⟩ := buildCloseOrderRequest_ok module instruction
      have hkind : exc.kind = .validation := by
        unfold closePosition at hclose
        rcases bind_error hclose with hbad | ⟨account, -, hclose⟩
        · rw [haccount] at hbad
          cases hbad
        · rcases bind_error hclose with hbad | ⟨request, -, hclose⟩
          · rw [hrequest] at hbad
            cases hbad
          · rw [hanswer] at hclose
            exact decodeOrderSendResult_error hclose
      rw [hkind]
      nofun

theorem mem_closeAttempts {attempt : Int × Except PyError ExecutionResult} :
    attempt ∈ closeAttempts module retcodes replies n positions
      ↔ ∃ i p, positions[i]? = some p ∧ attempt = (p.ticket,
          closePosition module retcodes (replies (n + i)) (operatorInstruction (replies (n + i)) p)) := by
  induction positions generalizing n with
  | nil => simp [closeAttempts]
  | cons position rest ih =>
      simp only [closeAttempts, List.mem_cons, ih]
      constructor
      · rintro (hhead | ⟨i, p, hp, hattempt⟩)
        · exact ⟨0, position, rfl, hhead⟩
        · refine ⟨i + 1, p, hp, ?_⟩
          rw [hattempt, show n + (i + 1) = n + 1 + i by omega]
      · rintro ⟨i, p, hp, hattempt⟩
        cases i with
        | zero =>
            cases hp
            exact .inl hattempt
        | succ i =>
            refine .inr ⟨i, p, hp, ?_⟩
            rw [hattempt, show n + (i + 1) = n + 1 + i by omega]

/-- A loop that ends in a report met no error but failed calls. -/
theorem closeEach_errors (h : closeEach module retcodes replies n positions closed = .ok out) :
    ∀ attempt ∈ closeAttempts module retcodes replies n positions,
      ∀ exc, attempt.2 = .error exc → exc.kind = .mt5CallFailed := by
  induction positions generalizing n closed with
  | nil => simp [closeAttempts]
  | cons position rest ih =>
      unfold closeEach at h
      intro attempt hattempt exc hexc
      rcases List.mem_cons.mp hattempt with hhead | htail
      · subst hhead
        split at h
        · rename_i exc' hexc'
          split at h
          · rename_i hkind
            rw [hexc'] at hexc
            cases hexc
            exact hkind
          · cases h
        · rename_i result hresult
          rw [hresult] at hexc
          cases hexc
      · split at h
        · split at h
          · exact ih h attempt htail exc hexc
          · cases h
        · split at h
          · exact ih h attempt htail exc hexc
          · exact ih h attempt htail exc hexc

/--
**The tickets that are reported are those fully closed exactly when nothing was filled in
part.** Whatever the positions and the replies to the close requests, the report of a close of
all positions is the tickets whose reply says so under the full-close rule if and only if the
terminal answered none of the requests with a partial fill. The ticket of each it did so answer
is reported.
-/
theorem close_all_reports_fully_closed_iff {account : Except PyError AccountState}
    (h : closeAllPositions module retcodes account (.ok positions) replies = .ok closed) :
    (closed = fullyClosedTickets (closeAttempts module retcodes replies 0 positions)
        ↔ ∀ i < positions.length, ¬ (replies i).PartialFill retcodes)
      ∧ ∀ i p, positions[i]? = some p → (replies i).PartialFill retcodes → p.ticket ∈ closed := by
  obtain ⟨-, -, hloop⟩ := bind_ok h
  have hclosed := closeEach_ok hloop
  have herrors := closeEach_errors hloop
  have hpartial : ∀ i p, positions[i]? = some p → (replies i).PartialFill retcodes →
      ∃ result, closePosition module retcodes (replies i) (operatorInstruction (replies i) p)
        = .ok result ∧ result.state = .partiallyFilled := by
    intro i p hp hfill
    rcases @closePosition_of_partialFill module retcodes (replies i)
      (operatorInstruction (replies i) p) hfill with hresult | ⟨exc, hexc, hkind⟩
    · exact hresult
    · refine absurd (herrors _ (mem_closeAttempts.mpr ⟨i, p, hp, rfl⟩) exc ?_) hkind
      rw [Nat.zero_add]
      exact hexc
  rw [List.nil_append] at hclosed
  rw [hclosed, fullyClosedTickets_eq]
  have hattempt : ∀ i p, positions[i]? = some p →
      (p.ticket, closePosition module retcodes (replies i) (operatorInstruction (replies i) p))
        ∈ closeAttempts module retcodes replies 0 positions := by
    intro i p hp
    exact mem_closeAttempts.mpr ⟨i, p, hp, by rw [Nat.zero_add]⟩
  constructor
  · rw [map_filter_eq_iff ?_]
    · constructor
      · -- a partial fill is selected by the one rule and not by the other
        intro hagree i hi hfill
        have hget := List.getElem?_eq_getElem hi
        obtain ⟨result, hresult, hstate⟩ := hpartial i _ hget hfill
        have hended := hagree _ (hattempt i _ hget)
          (endedIn_iff.mpr ⟨result, hresult, by simp [hstate]⟩)
        obtain ⟨result', hresult', hstate'⟩ := endedIn_iff.mp hended
        rw [hresult] at hresult'
        cases hresult'
        rw [hstate] at hstate'
        simp at hstate'
      · intro hnone attempt hmem hended
        obtain ⟨result, hresult, hstate⟩ := endedIn_iff.mp hended
        obtain ⟨i, p, hp, rfl⟩ := mem_closeAttempts.mp hmem
        rw [Nat.zero_add] at hresult
        obtain ⟨haccount, answer, hanswer, hread⟩ := closePosition_ok hresult
        refine endedIn_iff.mpr ⟨result, by rw [Nat.zero_add]; exact hresult, ?_⟩
        have hi : i < positions.length := (List.getElem?_eq_some_iff.mp hp).1
        have hnot : result.state ≠ .partiallyFilled := by
          rw [hread]
          exact fun hstate => hnone i hi ⟨haccount, answer, hanswer, hstate⟩
        simpa [hnot] using hstate
    · intro attempt _ hended
      obtain ⟨result, hresult, hstate⟩ := endedIn_iff.mp hended
      exact endedIn_iff.mpr ⟨result, hresult, by simp [List.mem_singleton.mp hstate]⟩
  · intro i p hp hfill
    obtain ⟨result, hresult, hstate⟩ := hpartial i p hp hfill
    refine List.mem_map.mpr ⟨_, List.mem_filter.mpr ⟨hattempt i p hp, ?_⟩, rfl⟩
    exact endedIn_iff.mpr ⟨result, hresult, by simp [hstate]⟩

namespace Sample

/-- The return codes of the package, as it documents them. -/
def mt5Retcodes : RetcodeTable where
  done := 10009
  donePartial := 10010
  placed := 10008
  timeout := 10012
  connection := 10031

/-- The terminal answers with a return code, having closed so many lots at 1.1. -/
def answering (retcode : Int) (volume : Decimal) : CloseReply where
  account := .ok account
  flattenRequestId := ⟨"flatten"⟩
  observedAtUtc := noon
  executionId := ⟨"execution"⟩
  lastError := (1, "Success")
  result := some ⟨retcode, "", 7, 8, some ⟨110000, -5⟩, some volume⟩

/-- The first close is filled in whole, and every later one in part. -/
def inPart : Nat → CloseReply
  | 0 => answering 10009 ⟨10, -2⟩
  | _ => answering 10010 ⟨4, -2⟩

/-- The first close is filled in whole, and every later one refused. -/
def refusedAfter : Nat → CloseReply
  | 0 => answering 10009 ⟨10, -2⟩
  | _ => answering 10006 ⟨0, 0⟩

end Sample

open Sample in
/-- The first of two positions is closed, the close of the second is refused. -/
theorem close_all_reports_fully_closed_iff_sample :
    ∃ closed, closeAllPositions mt5Module mt5Retcodes (.ok account)
        (.ok [overdue, { overdue with ticket := 6 }]) refusedAfter = .ok closed
      ∧ closed = [5]
      ∧ closed = fullyClosedTickets (closeAttempts mt5Module mt5Retcodes refusedAfter 0
        [overdue, { overdue with ticket := 6 }]) := by
  have hreport : closeAllPositions mt5Module mt5Retcodes (.ok account)
      (.ok [overdue, { overdue with ticket := 6 }]) refusedAfter = .ok [5] := rfl
  refine ⟨[5], hreport, rfl, (close_all_reports_fully_closed_iff hreport).1.mpr ?_⟩
  rintro i - ⟨-, answer, hanswer, hstate⟩
  cases i <;> cases hanswer <;> cases hstate

open Sample in
/-- A position that was closed in part is reported as closed. -/
theorem close_all_reports_partial :
    closeAllPositions mt5Module mt5Retcodes (.ok account)
        (.ok [overdue, { overdue with ticket := 6 }]) inPart = .ok [5, 6]
      ∧ fullyClosedTickets (closeAttempts mt5Module mt5Retcodes inPart 0
        [overdue, { overdue with ticket := 6 }]) = [5] :=
  ⟨rfl, rfl⟩

end Crumblr
