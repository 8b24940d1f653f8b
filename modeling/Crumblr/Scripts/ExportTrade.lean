import Mathlib.Data.Finset.Sort
import Crumblr.Lib.Query
import Crumblr.Persistence.Database

/-!
# The evidence of a closed trade

Nothing durable records what a position was closed at. The outcome is read off the account's
balance instead: before, at the last observation that shows the ticket, and after, at the first
one that does not. A window in which money could have moved for another reason is refused.
-/

namespace Crumblr

/-- An instant as `str` writes it. -/
def timeText (t : UtcDatetime) : String := (isoTime t).replace "T" " "

/-- A list of tickets as `str` writes it. -/
def ticketsText (tickets : Finset Int) : String :=
  "[" ++ ", ".intercalate ((tickets.sort (· ≤ ·)).map toString) ++ "]"

/-- The id an execution event is stored under. -/
def ExecutionEventRecord.eventId [Externals] (e : ExecutionEventRecord) : Uuid :=
  Externals.uuid5 s!"crumblr:execution_event:{e.orderRequestId.text}:{e.eventType.value}"

def evidenceIncomplete {α : Type} (message : String) : Except PyError α :=
  .error ⟨.evidenceIncomplete, message⟩

namespace Database

def ticketsInSnapshot (db : Database) (snapshotId : Uuid) : Finset Int :=
  ((db.positionsFor snapshotId).map (·.ticket)).toFinset

def accountBalanceAndCurrency (db : Database) (snapshotId : Uuid) :
    Except PyError (Decimal × String) :=
  match Table.lookup (·.snapshotId) db.brokerAccountSnapshots snapshotId with
  | none =>
      evidenceIncomplete s!"no broker_account_snapshots row for snapshot_id {snapshotId.text}"
  | some row => .ok (row.balance, row.currency)

end Database

structure CloseWindow where
  lastOpenAt : UtcDatetime
  balanceBeforeClose : Decimal
  postCloseAt : UtcDatetime
  balanceAfterClose : Decimal
  accountCurrency : String
  deriving DecidableEq

/-! ## What the database answers -/

/-- The answers to the three statements, for whatever each is asked about. -/
structure CloseRows where
  lastOpen (ticket : Int) : List BrokerPositionSnapshot
  candidates (since : UtcDatetime) : List BrokerAccountSnapshot
  foreignFills (orderRequestId : Uuid) (since until_ : UtcDatetime) : List ExecutionEventRecord

/-- Whether another request's order was filled strictly between two instants. -/
def ForeignFill (orderRequestId : Uuid) (since until_ : UtcDatetime) (e : ExecutionEventRecord) :
    Prop :=
  e.eventType = .filled ∧ e.orderRequestId ≠ orderRequestId
    ∧ since < e.occurredAtUtc ∧ e.occurredAtUtc < until_

instance (orderRequestId : Uuid) (since until_ : UtcDatetime) (e : ExecutionEventRecord) :
    Decidable (ForeignFill orderRequestId since until_ e) :=
  inferInstanceAs (Decidable (_ ∧ _))

/-- The database answers so: latest position row first, account rows oldest first. -/
structure CloseRows.Of (db : Database) (rows : CloseRows) : Prop where
  lastOpen : ∀ ticket, Query.Selects db.brokerPositionSnapshots
    (fun p => decide (p.ticket = ticket)) (fun p q => q.observedAtUtc ≤ p.observedAtUtc)
    (rows.lastOpen ticket)
  candidates : ∀ since, Query.Selects db.brokerAccountSnapshots
    (fun s => decide (since < s.observedAtUtc)) (fun s s' => s.observedAtUtc ≤ s'.observedAtUtc)
    (rows.candidates since)
  foreignFills : ∀ orderRequestId since until_, Query.Selects db.executionEvents
    (fun e => decide (ForeignFill orderRequestId since until_ e)) (fun _ _ => True)
    (rows.foreignFills orderRequestId since until_)

/-! ## The window -/

/-- The two observations the window lies between, with what is read of the account at the first. -/
structure CloseEnds where
  lastOpen : BrokerPositionSnapshot
  balanceBeforeClose : Decimal
  accountCurrency : String
  postClose : BrokerAccountSnapshot

/-- Steps 2, 3 and 5: the first observation without the ticket, which must be flat. -/
def firstWithout (db : Database) (ticket : Int) :
    List BrokerAccountSnapshot → Except PyError (Option BrokerAccountSnapshot)
  | [] => .ok none
  | candidate :: later =>
      let tickets := db.ticketsInSnapshot candidate.snapshotId
      let place := s!"snapshot {candidate.snapshotId.text} at {timeText candidate.observedAtUtc}"
      if ticket ∈ tickets then
        if tickets ≠ {ticket} then
          evidenceIncomplete (place ++ s!" is not isolated to ticket {ticket} alone (also open: "
            ++ ticketsText (tickets \ {ticket})
            ++ ") -- refusing an account-balance derivation across a contaminated window")
        else firstWithout db ticket later
      else if tickets ≠ ∅ then
        evidenceIncomplete (place ++ s!" is the first observation without ticket {ticket}, "
          ++ s!"but the account is not flat there (open: {ticketsText tickets}) "
          ++ "-- Slice 1 requires a flat close")
      else .ok (some candidate)

/-- The five checks, in their order. -/
def closeEnds [Externals] (db : Database) (rows : CloseRows) (ticket : Int)
    (orderRequestId : Uuid) : Except PyError CloseEnds := do
  match (rows.lastOpen ticket).head? with
  | none =>
      evidenceIncomplete (s!"no broker_position_snapshots row was ever recorded for ticket {ticket} "
        ++ "-- cannot establish this trade was ever durably observed open")
  | some lastOpen =>
      -- Step 1: what else the observation of the row shows open.
      let lastOpenTickets := db.ticketsInSnapshot lastOpen.snapshotId
      if lastOpenTickets ≠ {ticket} then
        evidenceIncomplete (s!"snapshot {lastOpen.snapshotId.text} at "
          ++ timeText lastOpen.observedAtUtc
          ++ s!" is not isolated to ticket {ticket} alone (also open: "
          ++ ticketsText (lastOpenTickets \ {ticket})
          ++ ") -- refusing an account-balance derivation across a contaminated window")
      else do
        let (balanceBeforeClose, accountCurrency) ←
          db.accountBalanceAndCurrency lastOpen.snapshotId
        match ← firstWithout db ticket (rows.candidates lastOpen.observedAtUtc) with
        | none =>
            evidenceIncomplete ("no broker_account_snapshots row exists after "
              ++ s!"{timeText lastOpen.observedAtUtc} showing ticket {ticket} closed "
              ++ "-- this trade is not durably confirmed closed yet")
        | some postClose =>
            -- Step 4: what opened and closed between two observations left only its fill.
            match (rows.foreignFills orderRequestId lastOpen.observedAtUtc
              postClose.observedAtUtc).head? with
            | some foreignFill =>
                evidenceIncomplete (s!"a different order's FILLED event "
                  ++ s!"({foreignFill.eventId.text}) occurred between "
                  ++ s!"{timeText lastOpen.observedAtUtc} and {timeText postClose.observedAtUtc} "
                  ++ "-- refusing an account-balance derivation across a window that may include "
                  ++ "another trade's outcome")
            | none => pure { lastOpen, balanceBeforeClose, accountCurrency, postClose }

/-- The account's balance around the close of one ticket. -/
def resolveIsolatedCloseWindow [Externals] (db : Database) (rows : CloseRows) (ticket : Int)
    (orderRequestId : Uuid) : Except PyError CloseWindow := do
  let ends ← closeEnds db rows ticket orderRequestId
  let (balanceAfterClose, _) ← db.accountBalanceAndCurrency ends.postClose.snapshotId
  pure
    { lastOpenAt := ends.lastOpen.observedAtUtc
      balanceBeforeClose := ends.balanceBeforeClose
      postCloseAt := ends.postClose.observedAtUtc
      balanceAfterClose
      accountCurrency := ends.accountCurrency }

end Crumblr
