import Mathlib
import NoticeLedger.Ledger.Book

/-!
# NoticeLedger.Proofs.Ledger.Calls

What a call of a book does to it.

* `Book.call_cases` — a call is made to fail, or it is answered by the book that remembers it.
* `getAccount_cases` and the like — the same for each operation, with the book after it.
* `Book.Refuses` — the failures that a call can have.
* `Book.Frame` — what a call leaves as it is, whatever it answers.
* `Book.Untouched` — the payments and the numbers given so far are as they were; so they are after
  every call that fails.
-/

namespace NoticeLedger

/-- What a call leaves as it is, whatever it answers; it is remembered as the last one. -/
structure Book.Frame (op : LedgerOperation) (b b' : Book) : Prop where
  calls : b'.calls = b.calls ++ [op]
  accounts : b'.accounts = b.accounts
  methods : b'.methods = b.methods
  failures : b'.failures = b.failures

/-- The payments of a book and the numbers given so far are those of another. -/
structure Book.Untouched (b b' : Book) : Prop where
  payments : b'.payments = b.payments
  paymentCount : b'.paymentCount = b.paymentCount
  transactionCount : b'.transactionCount = b.transactionCount

/-- A failure that a call of an operation can have: the one that it is made to have, or one that the
book answers with. -/
def Book.Refuses (b : Book) (op : LedgerOperation) (f : Failure) : Prop :=
  b.failure? op = some f ∨ ∃ message code status, f = .platform message code status

namespace Book

variable {α : Type} {b b' : Book} {account : Account} {context : CallContext}

/-- A call either has the failure that its operation is made to have, or is answered. -/
theorem call_cases {op : LedgerOperation} {answer : Book → Except Failure α × Book}
    {r : Except Failure α} (h : b.call op answer = (r, b')) :
    (∃ f, b.failure? op = some f ∧ r = .error f ∧ b' = b.called op) ∨
      (b.failure? op = none ∧ answer (b.called op) = (r, b')) := by
  rw [call] at h
  cases hf : b.failure? op with
  | some f =>
    rw [show (b.called op).failure? op = some f from hf] at h
    cases h
    exact .inl ⟨f, rfl, rfl, rfl⟩
  | none =>
    rw [show (b.called op).failure? op = none from hf] at h
    exact .inr ⟨rfl, h⟩

/-! ## Questions -/

theorem getAccount_cases {id : Given} {r : Except Failure Account}
    (h : b.getAccount id = (r, b')) :
    b' = b.called .getAccount ∧
      ((∃ f, r = .error f ∧ b.Refuses .getAccount f ∧
          (b.failure? .getAccount = none → b.findAccount id = none)) ∨
        ∃ a, b.findAccount id = some a ∧ r = .ok a) := by
  rcases call_cases h with ⟨f, hf, hr, hb⟩ | ⟨-, h⟩
  · refine ⟨hb, .inl ⟨f, hr, .inl hf, fun hn => ?_⟩⟩
    rw [hf] at hn
    exact nomatch hn
  · rw [show (b.called .getAccount).findAccount id = b.findAccount id from rfl] at h
    cases hf : b.findAccount id with
    | some a =>
      rw [hf] at h
      cases h
      exact ⟨rfl, .inr ⟨a, rfl, rfl⟩⟩
    | none =>
      rw [hf] at h
      cases h
      exact ⟨rfl, .inl ⟨_, rfl, .inr ⟨_, _, _, rfl⟩, fun _ => rfl⟩⟩

theorem listPaymentMethods_cases {id : Given} {r : Except Failure (List PaymentMethod)}
    (h : b.listPaymentMethods id = (r, b')) :
    b' = b.called .listPaymentMethods ∧
      ((∃ f, r = .error f ∧ b.failure? .listPaymentMethods = some f) ∨
        r = .ok (b.methods.filter (·.accountId == id))) := by
  rcases call_cases h with ⟨f, hf, hr, hb⟩ | ⟨-, h⟩
  · exact ⟨hb, .inl ⟨f, hr, hf⟩⟩
  · cases h
    exact ⟨rfl, .inr rfl⟩

/-! ## Changes -/

/-- Only a pending transaction takes a state. -/
theorem reportState_cases {id success : Given} {r : Except Failure Payment}
    (h : b.reportState account id success context = (r, b')) :
    ∃ records, (∃ f, r = .error f ∧ b.Refuses .reportState f ∧
        b' = { b.called .reportState with stateChanges := records }) ∨
      ∃ p t, b.findTransaction id = some (p, t) ∧
        t.status = TransactionStatus.pending.given ∧
        r = .ok { p with transactions := changeFirst id (settled · success) p.transactions } ∧
        b' = { b.called .reportState with
          stateChanges := records
          payments := Keyed.put Payment.id b.payments
            { p with transactions := changeFirst id (settled · success) p.transactions }
          distinct := Keyed.nodup_put Payment.id _ b.distinct } := by
  rcases call_cases h with ⟨f, hf, hr, hb⟩ | ⟨-, h⟩
  · exact ⟨b.stateChanges, .inl ⟨f, hr, .inl hf, hb⟩⟩
  · refine ⟨b.stateChanges ++ [⟨account.id, id, success, context⟩], ?_⟩
    dsimp only [settle] at h
    rw [show findTransaction { b.called .reportState with stateChanges := _ } id =
      b.findTransaction id from rfl] at h
    split at h
    · cases h
      exact .inl ⟨_, rfl, .inr ⟨_, _, _, rfl⟩, rfl⟩
    · rename_i p t hf
      split at h
      · rename_i ht
        cases h
        exact .inr ⟨p, t, hf, ht, rfl, rfl⟩
      · cases h
        exact .inl ⟨_, rfl, .inr ⟨_, _, _, rfl⟩, rfl⟩

/-- A purchase that is not made to fail is recorded. -/
theorem createPurchase_cases {order : PurchaseOrder} {r : Except Failure Payment}
    (h : b.createPurchase account order context = (r, b')) :
    (∃ f, r = .error f ∧ b.failure? .createPurchase = some f ∧
        b' = b.called .createPurchase) ∨
      (r = .ok (b.purchased account order) ∧
        b' = { b.called .createPurchase with
          payments := Keyed.put Payment.id b.payments (b.purchased account order)
          distinct := Keyed.nodup_put Payment.id _ b.distinct
          paymentCount := b.paymentCount + 1
          transactionCount := b.transactionCount + 1
          purchases := b.purchases ++
            [⟨account.id, order, context, (b.purchased account order).id⟩] }) := by
  rcases call_cases h with ⟨f, hf, hr, hb⟩ | ⟨-, h⟩
  · exact .inl ⟨f, hr, hf, hb⟩
  · cases h
    exact .inr ⟨rfl, rfl⟩

/-- A chargeback is recorded on a payment that there is. -/
theorem createChargeback_cases {order : ChargebackOrder} {r : Except Failure Payment}
    (h : b.createChargeback account order context = (r, b')) :
    ∃ records, (∃ f, r = .error f ∧ b.Refuses .createChargeback f ∧
        b' = { b.called .createChargeback with chargebacks := records }) ∨
      ∃ p, b.findPayment order.paymentId = some p ∧
        r = .ok { p with transactions := p.transactions ++ [b.chargedBack order] } ∧
        b' = { b.called .createChargeback with
          chargebacks := records
          payments := Keyed.put Payment.id b.payments
            { p with transactions := p.transactions ++ [b.chargedBack order] }
          distinct := Keyed.nodup_put Payment.id _ b.distinct
          transactionCount := b.transactionCount + 1 } := by
  rcases call_cases h with ⟨f, hf, hr, hb⟩ | ⟨-, h⟩
  · exact ⟨b.chargebacks, .inl ⟨f, hr, .inl hf, hb⟩⟩
  · refine ⟨b.chargebacks ++ [⟨account.id, order, context⟩], ?_⟩
    dsimp only at h
    rw [show findPayment { b.called .createChargeback with chargebacks := _ } order.paymentId =
      b.findPayment order.paymentId from rfl] at h
    split at h
    · cases h
      exact .inl ⟨_, rfl, .inr ⟨_, _, _, rfl⟩, rfl⟩
    · rename_i p hf
      cases h
      exact .inr ⟨p, hf, rfl, rfl⟩

/-! ## What stays -/

theorem getAccount_frame {id : Given} {r : Except Failure Account}
    (h : b.getAccount id = (r, b')) : b.Frame .getAccount b' ∧ b.Untouched b' := by
  obtain ⟨rfl, -⟩ := getAccount_cases h
  exact ⟨⟨rfl, rfl, rfl, rfl⟩, ⟨rfl, rfl, rfl⟩⟩

theorem listPaymentMethods_frame {id : Given} {r : Except Failure (List PaymentMethod)}
    (h : b.listPaymentMethods id = (r, b')) :
    b.Frame .listPaymentMethods b' ∧ b.Untouched b' := by
  obtain ⟨rfl, -⟩ := listPaymentMethods_cases h
  exact ⟨⟨rfl, rfl, rfl, rfl⟩, ⟨rfl, rfl, rfl⟩⟩

theorem reportState_frame {id success : Given} {r : Except Failure Payment}
    (h : b.reportState account id success context = (r, b')) : b.Frame .reportState b' := by
  obtain ⟨records, ⟨f, -, -, rfl⟩ | ⟨p, t, -, -, -, rfl⟩⟩ := reportState_cases h
  · exact ⟨rfl, rfl, rfl, rfl⟩
  · exact ⟨rfl, rfl, rfl, rfl⟩

theorem createPurchase_frame {order : PurchaseOrder} {r : Except Failure Payment}
    (h : b.createPurchase account order context = (r, b')) : b.Frame .createPurchase b' := by
  obtain ⟨f, -, -, rfl⟩ | ⟨-, rfl⟩ := createPurchase_cases h
  · exact ⟨rfl, rfl, rfl, rfl⟩
  · exact ⟨rfl, rfl, rfl, rfl⟩

theorem createChargeback_frame {order : ChargebackOrder} {r : Except Failure Payment}
    (h : b.createChargeback account order context = (r, b')) : b.Frame .createChargeback b' := by
  obtain ⟨records, ⟨f, -, -, rfl⟩ | ⟨p, -, -, rfl⟩⟩ := createChargeback_cases h
  · exact ⟨rfl, rfl, rfl, rfl⟩
  · exact ⟨rfl, rfl, rfl, rfl⟩

theorem reportState_error {id success : Given} {f : Failure}
    (h : b.reportState account id success context = (.error f, b')) : b.Untouched b' := by
  obtain ⟨records, ⟨_, -, -, rfl⟩ | ⟨_, _, _, _, hr, -⟩⟩ := reportState_cases h
  · exact ⟨rfl, rfl, rfl⟩
  · exact nomatch hr

theorem createPurchase_error {order : PurchaseOrder} {f : Failure}
    (h : b.createPurchase account order context = (.error f, b')) : b.Untouched b' := by
  obtain ⟨_, -, -, rfl⟩ | ⟨hr, -⟩ := createPurchase_cases h
  · exact ⟨rfl, rfl, rfl⟩
  · exact nomatch hr

theorem createChargeback_error {order : ChargebackOrder} {f : Failure}
    (h : b.createChargeback account order context = (.error f, b')) : b.Untouched b' := by
  obtain ⟨records, ⟨_, -, -, rfl⟩ | ⟨_, _, hr, -⟩⟩ := createChargeback_cases h
  · exact ⟨rfl, rfl, rfl⟩
  · exact nomatch hr

end Book

end NoticeLedger
