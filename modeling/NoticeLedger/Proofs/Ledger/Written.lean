import NoticeLedger.Proofs.Ledger.Orderly
import NoticeLedger.Proofs.Rehearsal.Run

/-!
# NoticeLedger.Proofs.Ledger.Written

How much a delivery writes to the payments of a ledger.

* `Book.Written` — a book in which at most one payment was put; none is ever taken out.
* `Course.written`, `Delivered.written` — a delivery puts in at most one, whatever fails.
* `Arrangement.written` — and so does what is arranged in between.
-/

namespace NoticeLedger

open Delivery

/-- At most one payment was put in a book. -/
def Book.Written (b b' : Book) : Prop :=
  b'.payments = b.payments ∨
    ∃ payment, b'.payments = Keyed.put Payment.id b.payments payment

namespace Book

variable {b b' : Book} {account : Account} {context : CallContext} {r : Except Failure Payment}

theorem Untouched.written (h : b.Untouched b') : b.Written b' := .inl h.payments

theorem Written.of_untouched {b₁ : Book} (h : b.Untouched b₁) (h' : b₁.Written b') :
    b.Written b' := by
  rw [Written, ← h.payments]
  exact h'

theorem reportState_written {id success : Given}
    (h : b.reportState account id success context = (r, b')) : b.Written b' := by
  obtain ⟨records, ⟨f, -, -, rfl⟩ | ⟨p, t, -, -, -, rfl⟩⟩ := reportState_cases h
  · exact .inl rfl
  · exact .inr ⟨_, rfl⟩

theorem createPurchase_written {order : PurchaseOrder}
    (h : b.createPurchase account order context = (r, b')) : b.Written b' := by
  obtain ⟨f, -, -, rfl⟩ | ⟨-, rfl⟩ := createPurchase_cases h
  · exact .inl rfl
  · exact .inr ⟨_, rfl⟩

theorem createChargeback_written {order : ChargebackOrder}
    (h : b.createChargeback account order context = (r, b')) : b.Written b' := by
  obtain ⟨records, ⟨f, -, -, rfl⟩ | ⟨p, -, -, rfl⟩⟩ := createChargeback_cases h
  · exact .inl rfl
  · exact .inr ⟨_, rfl⟩

end Book

variable {p : Profile} {n : Notice} {w w' : Bench} {account : Account} {context : CallContext}

theorem ChargingBack.written {earlier : StoredResponse} {result : Except Failure Payment}
    (h : ChargingBack n earlier account context w result w') : w.book.Written w'.book := by
  cases h with
  | noMoney _ => exact .inl rfl
  | refused _ hc => exact Book.createChargeback_written hc
  | recorded _ hc => exact Book.createChargeback_written hc

theorem Updating.written {c : Correlation} {result : Except Failure Bool}
    (h : Updating n c account context w result w') : w.book.Written w'.book := by
  cases h with
  | notStored _ => exact .inl rfl
  | stored _ hr =>
    cases hr with
    | refused hs _ => exact Book.reportState_written hs
    | notOpen hs _ => exact Book.reportState_written hs
    | applied hs => exact Book.reportState_written hs

theorem Purchasing.written {c : Correlation} {result : Except Failure Payment}
    (h : Purchasing p n c account context w result w') : w.book.Written w'.book := by
  cases h with
  | noMoney _ => exact .inl rfl
  | noMethods _ hl => exact (Book.listPaymentMethods_frame hl).2.written
  | noMethod _ hl _ => exact (Book.listPaymentMethods_frame hl).2.written
  | ordered _ hl _ ho =>
    refine .of_untouched (Book.listPaymentMethods_frame hl).2 ?_
    cases ho with
    | refused hc => exact Book.createPurchase_written hc
    | unfinished hc _ => exact Book.createPurchase_written hc
    | recorded hc _ => exact Book.createPurchase_written hc

/-- Acting on what was found puts in at most one payment. -/
theorem Course.written {found : Finding} {result : Except Failure Outcome}
    (h : Course p n w found result w') : w.book.Written w'.book := by
  cases h with
  | failed => exact .inl rfl
  | nothing => exact .inl rfl
  | noAccount _ ha => exact (Book.getAccount_frame ha).2.written
  | disputed ha hc => exact .of_untouched (Book.getAccount_frame ha).2 hc.written
  | transaction ha hu => exact .of_untouched (Book.getAccount_frame ha).2 hu.written
  | account ha hp => exact .of_untouched (Book.getAccount_frame ha).2 hp.written

theorem Delivered.written {r : Receipt} (h : Delivered p n w r w') : w.book.Written w'.book := by
  cases h with
  | journaled hc _ => exact hc.written
  | unrecorded hc _ => exact hc.written

theorem Arrangement.written (a : Arrangement) (w : Bench) : w.book.Written (a.apply w).book := by
  cases a with
  | addPayment payment => exact .inr ⟨payment, rfl⟩
  | saveResponse draft =>
    rw [apply]
    cases w.store.saveResponse w.now draft <;> exact .inl rfl
  | savePendingRequest draft =>
    rw [apply]
    cases w.store.savePendingRequest w.now draft <;> exact .inl rfl
  | _ => exact .inl rfl

end NoticeLedger
