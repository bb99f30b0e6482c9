import NoticeLedger.Delivery.Desk

/-!
# NoticeLedger.Delivery.Journal

The journal of what was delivered.

* `record` — journals a notice; a journal that cannot be written asks for another delivery.
* `Outcome` — what was done for a notice.
* `Attempt` — how far a notice got: the entries found out for it, and the result.
* `journaled` — an attempt, journaled whatever became of it.
-/

namespace NoticeLedger

inductive Outcome where
  /-- The transaction was updated; the flag tells whether its state was still open. -/
  | updated (ids : LedgerIds) (stateApplied : Bool)
  | paid (ids : LedgerIds)
  | chargedBack (ids : LedgerIds)
  /-- Nothing but the journal was written. -/
  | journaledOnly
  deriving DecidableEq

namespace Outcome

def name : Outcome → String
  | updated .. => "updated_transaction"
  | paid _ => "created_payment"
  | chargedBack _ => "created_chargeback"
  | journaledOnly => "journaled_only"

def ids : Outcome → LedgerIds
  | updated ids _ => ids
  | paid ids => ids
  | chargedBack ids => ids
  | journaledOnly => {}

end Outcome

structure Attempt where
  ids : LedgerIds := {}
  result : Except Failure Outcome

namespace Delivery

def shownId (id : Given) : String :=
  Json.display (id.orElse (.text "-"))

def record (ids : LedgerIds) (transactionType : Given) (n : Notice) (recordedAt : Instant) :
    Action JournalEntry := do
  let entry : JournalEntry := ⟨ids.filled, some transactionType.orNull, n, recordedAt⟩
  match ← resultOf (Desk.appendJournal entry) with
  | .ok entry =>
    let account := shownId entry.ids.accountId
    let transaction := shownId entry.ids.transactionId
    Desk.note .journal .debug
      s!"Journaled {n.describe} as <id> (account={account}, transaction={transaction})"
    pure entry
  | .error f =>
    throw (.retryable s!"Unable to record notification {n.describe}"
      (some StoreOperation.appendJournal.name) (some f))

/-- Makes an attempt and journals it; a journal that cannot be written is the failure of the
whole. -/
def journaled (intent : Option Intent) (n : Notice) (attempt : StateM Desk Attempt) :
    Action Outcome := do
  let recordedAt := (← get).now
  let a ← attempt
  let _ ← record a.ids (some (Intent.value intent)) n recordedAt
  ExceptT.mk (pure a.result)

end Delivery

end NoticeLedger
