import NoticeLedger.Proofs.Ledger.Orderly
import NoticeLedger.Proofs.Rehearsal.Frame
import NoticeLedger.Proofs.Rehearsal.Soundness

/-!
# NoticeLedger.Proofs.Ledger.Accounting

The payments change by what is told about a notice, and by nothing else.

* `Accounted` — the change that each result stands for; a failure stands for none.
* `Course.accounted` — acting on what was found makes that change, and keeps the book orderly.
* `processBatch_orderly`, `process_accounted` — a batch of any length leaves the book orderly, and a
  delivery makes the change that it tells.
-/

namespace NoticeLedger

open Delivery Keyed

/-- The change of the payments that a result stands for. -/
def Accounted (n : Notice) (before after : List Payment) : Except Failure Outcome → Prop
  | .ok (.paid ids) =>
    ∃ p t, after = before ++ [p] ∧ p.id = ids.paymentId ∧ p.transactions = [t] ∧
      t.id = ids.transactionId ∧ t.kind = TransactionKind.purchase.given
  | .ok (.chargedBack ids) =>
    ∃ p t, Replaces p { p with transactions := p.transactions ++ [t] } before after ∧
      p.id = ids.paymentId ∧ t.id = ids.transactionId ∧
      t.kind = TransactionKind.chargeback.given
  | .ok (.updated ids true) =>
    ∃ p t ts, Replaces p { p with transactions := ts } before after ∧
      Replaces t { t with status :=
        if n.succeeded then TransactionStatus.success.given
        else TransactionStatus.paymentFailure.given } p.transactions ts ∧
      t.id = ids.transactionId ∧ t.status = TransactionStatus.pending.given
  | .ok (.updated _ false) => after = before
  | .ok .journaledOnly => after = before
  | .error _ => after = before

variable {p : Profile} {n : Notice} {w w' : Bench} {account : Account} {context : CallContext}

/-- Without a hook nothing can go wrong after a purchase. -/
theorem Bench.afterPurchase_of_no_hook (hh : w.hook = {}) (payment : Payment)
    (context : CallContext) : w.afterPurchase payment context = (.ok (), w.store) := by
  rw [afterPurchase, hh]

theorem lastChargeback_append (p : Payment) {t : Transaction}
    (ht : t.kind = TransactionKind.chargeback.given) :
    lastChargeback { p with transactions := p.transactions ++ [t] } = some t := by
  rw [lastChargeback, List.getLast?_append_cons]
  simp [ht]

theorem ChargingBack.accounted {earlier : StoredResponse} {result : Except Failure Payment}
    (h : ChargingBack n earlier account context w result w') (ho : w.book.Orderly) :
    w'.book.Orderly ∧ Accounted n w.book.payments w'.book.payments
      (result.map fun payment => .chargedBack (chargedBackIds earlier payment)) := by
  cases h with
  | noMoney _ => exact ⟨ho, rfl⟩
  | refused _ hc =>
    have hu := Book.createChargeback_error hc
    exact ⟨ho.untouched hu, hu.payments⟩
  | recorded _ hc =>
    obtain ⟨ho', q, hid, rfl, hq⟩ := ho.createChargeback hc
    refine ⟨ho', q, _, hq, hid, ?_, rfl⟩
    rw [chargedBackIds, lastChargeback_append q rfl]
    rfl

theorem settled_reported (t : Transaction) (n : Notice) :
    Book.settled t (some n.reportedSuccess) = { t with
      status :=
        if n.succeeded then TransactionStatus.success.given
        else TransactionStatus.paymentFailure.given } := by
  rw [Book.settled, show Given.isTruthy (some n.reportedSuccess) = n.succeeded from rfl]
  cases n.succeeded <;> rfl

theorem Reporting.accounted {c : Correlation} {result : Except Failure Bool}
    (h : Reporting n c account context w result w') (ho : w.book.Orderly) :
    w'.book.Orderly ∧ Accounted n w.book.payments w'.book.payments
      (result.map fun open? => .updated c.ids open?) := by
  cases h with
  | refused hs _ =>
    have hu := Book.reportState_error hs
    exact ⟨ho.untouched hu, hu.payments⟩
  | notOpen hs _ =>
    have hu := Book.reportState_error hs
    exact ⟨ho.untouched hu, hu.payments⟩
  | applied hs =>
    obtain ⟨ho', q, t, hid, ht, hq, ts, rfl, hts⟩ := ho.reportState hs
    refine ⟨ho', q, t, ts, hq, ?_, hid, ht⟩
    rwa [settled_reported] at hts

theorem Updating.accounted {c : Correlation} {result : Except Failure Bool}
    (h : Updating n c account context w result w') (ho : w.book.Orderly) :
    w'.book.Orderly ∧ Accounted n w.book.payments w'.book.payments
      (result.map fun open? => .updated c.ids open?) := by
  cases h with
  | notStored _ => exact ⟨ho, rfl⟩
  | stored _ hr => exact hr.accounted ho

theorem Ordering.accounted {c : Correlation} {order : PurchaseOrder}
    {result : Except Failure Payment} (h : Ordering account order context w result w')
    (hh : w.hook = {}) (ho : w.book.Orderly) :
    w'.book.Orderly ∧ Accounted n w.book.payments w'.book.payments
      (result.map fun payment => .paid (paidIds c payment)) := by
  cases h with
  | refused hc =>
    have hu := Book.createPurchase_error hc
    exact ⟨ho.untouched hu, hu.payments⟩
  | unfinished _ ha =>
    rw [Bench.afterPurchase_of_no_hook hh] at ha
    exact nomatch ha
  | recorded hc _ =>
    obtain ⟨ho', rfl, hp⟩ := ho.createPurchase hc
    exact ⟨ho', _, _, hp, rfl, rfl, rfl, rfl⟩

theorem Purchasing.accounted {c : Correlation} {result : Except Failure Payment}
    (h : Purchasing p n c account context w result w') (hh : w.hook = {})
    (ho : w.book.Orderly) :
    w'.book.Orderly ∧ Accounted n w.book.payments w'.book.payments
      (result.map fun payment => .paid (paidIds c payment)) := by
  cases h with
  | noMoney _ => exact ⟨ho, rfl⟩
  | noMethods _ hl =>
    have hu := (Book.listPaymentMethods_frame hl).2
    exact ⟨ho.untouched hu, hu.payments⟩
  | noMethod _ hl _ =>
    have hu := (Book.listPaymentMethods_frame hl).2
    exact ⟨ho.untouched hu, hu.payments⟩
  | ordered _ hl _ hp =>
    have hu := (Book.listPaymentMethods_frame hl).2
    rw [← hu.payments]
    exact hp.accounted hh (ho.untouched hu)

/-- Acting on what was found makes the change that its result stands for. -/
theorem Course.accounted {found : Finding} {result : Except Failure Outcome}
    (h : Course p n w found result w') (hh : w.hook = {}) (ho : w.book.Orderly) :
    w'.book.Orderly ∧ Accounted n w.book.payments w'.book.payments result := by
  cases h with
  | failed => exact ⟨ho, rfl⟩
  | nothing => exact ⟨ho, rfl⟩
  | noAccount _ ha =>
    have hu := (Book.getAccount_frame ha).2
    exact ⟨ho.untouched hu, hu.payments⟩
  | disputed ha hc =>
    have hu := (Book.getAccount_frame ha).2
    rw [← hu.payments]
    exact hc.accounted (ho.untouched hu)
  | transaction ha hr =>
    have hu := (Book.getAccount_frame ha).2
    rw [← hu.payments]
    exact hr.accounted (ho.untouched hu)
  | account ha hp =>
    have hu := (Book.getAccount_frame ha).2
    rw [← hu.payments]
    exact hp.accounted hh (ho.untouched hu)

theorem Delivered.accounted {r : Receipt} (h : Delivered p n w r w') (hh : w.hook = {})
    (hj : w.store.enter .appendJournal = .ok ()) (ho : w.book.Orderly) :
    w'.book.Orderly ∧ Accounted n w.book.payments w'.book.payments r.result := by
  obtain ⟨result, w₁, hc, rfl, rfl⟩ := h.of_ok hj
  cases result <;> exact hc.accounted hh ho

/-- A batch of any length leaves an orderly book. -/
theorem Deliveries.orderly {notices : List Notice} {receipts : List Receipt}
    (h : Deliveries p notices w receipts w') (hh : w.hook = {})
    (hj : w.store.enter .appendJournal = .ok ()) (ho : w.book.Orderly) : w'.book.Orderly := by
  induction h with
  | nil => exact ho
  | cons hd _ ih =>
    have hp := hd.precedes
    exact ih (hp.hook.trans hh) ((hp.enter _).trans hj) (hd.accounted hh hj ho).1

theorem processBatch_orderly {r : Reconciler} (hr : r.Articulate) (notices : List Notice)
    {w : Bench} {d : Desk} (hd : w.On d) (hh : w.hook = {})
    (hj : w.store.enter .appendJournal = .ok ()) (ho : w.book.Orderly) :
    ∃ (batch : BatchReceipt) (d' : Desk) (w' : Bench),
      r.processBatch notices d = (.ok batch, d') ∧ w'.On d' ∧ w'.book.Orderly := by
  obtain ⟨_, d', w', hrun, hd', hdeliveries⟩ := Reconciler.processBatch_delivered hr notices hd
  exact ⟨_, d', w', hrun, hd', hdeliveries.orderly hh hj ho⟩

theorem Sample.book_orderly : Sample.book.Orderly where
  payments := by
    refine ⟨by decide, fun k hk h => ?_⟩
    have : k = 1 := Book.numberedPayment_injective (List.mem_singleton.mp h)
    exact Nat.ne_of_gt hk this
  transactions := by
    refine ⟨by decide, fun k hk h => ?_⟩
    have : k = 1 := Book.numberedTransaction_injective (List.mem_singleton.mp h)
    exact Nat.ne_of_gt hk this

/-- **Accounting.** A delivery changes the payments by exactly what it tells, whatever fails. -/
theorem process_accounted {r : Reconciler} (hr : r.Articulate) (n : Notice) {w : Bench}
    {d : Desk} (hd : w.On d) (hh : w.hook = {}) (hj : w.store.enter .appendJournal = .ok ())
    (ho : w.book.Orderly) :
    ∃ (receipt : Receipt) (d' : Desk) (w' : Bench), r.process n d = (.ok receipt, d') ∧ w'.On d' ∧
      w'.book.Orderly ∧ Accounted n w.book.payments w'.book.payments receipt.result := by
  obtain ⟨receipt, d', w', hrun, hd', hdelivered⟩ := Reconciler.process_delivered hr n hd
  exact ⟨receipt, d', w', hrun, hd', hdelivered.accounted hh hj ho⟩

/-- The transaction of the sample succeeds. -/
theorem process_accounted_sample :
    ∃ (receipt : Receipt) (d' : Desk) (w' : Bench),
      Sample.reconciler.process Sample.authorisation Sample.bench.desk = (.ok receipt, d') ∧
        receipt.result = .ok (.updated (Correlation.ofResponse Sample.response).ids true) ∧
        w'.On d' ∧ w'.book.Orderly ∧
        Accounted Sample.authorisation Sample.book.payments w'.book.payments receipt.result := by
  obtain ⟨receipt, d', w', hrun, hd', hrest⟩ := process_accounted Sample.articulate
    Sample.authorisation Sample.bench.on_desk rfl rfl Sample.book_orderly
  have hresult : (Sample.reconciler.process Sample.authorisation Sample.bench.desk).1.map
      Receipt.result = .ok (.ok (.updated (Correlation.ofResponse Sample.response).ids true)) := rfl
  rw [hrun] at hresult
  exact ⟨receipt, d', w', hrun, Except.ok.inj hresult, hd', hrest⟩

end NoticeLedger
