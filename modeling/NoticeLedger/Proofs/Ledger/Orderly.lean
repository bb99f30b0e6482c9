import NoticeLedger.Proofs.Ledger.Calls

/-!
# NoticeLedger.Proofs.Ledger.Orderly

Books whose identifiers are distinct.

* `Numbered` — identifiers that are distinct, where none is one of the numbers still to be given.
* `Book.Orderly` — the identifiers of the payments and those of the transactions are so.
* `Orderly.createPurchase`, `Orderly.createChargeback`, `Orderly.reportState` — an operation that
  is answered keeps a book orderly, and changes its payments in one place.
-/

namespace NoticeLedger

open Keyed

/-- Identifiers that are distinct, where none is a number above `n`. -/
structure Numbered (number : Nat → Given) (n : Nat) (ids : List Given) : Prop where
  nodup : ids.Nodup
  ahead : ∀ k, n < k → number k ∉ ids

/-- The next number keeps them distinct. -/
theorem Numbered.next {number : Nat → Given} {n : Nat} {ids ids' : List Given}
    (h : Numbered number n ids) (hn : number.Injective)
    (hp : ids'.Perm (number (n + 1) :: ids)) : Numbered number (n + 1) ids' where
  nodup := by
    rw [hp.nodup_iff, List.nodup_cons]
    exact ⟨h.ahead (n + 1) (Nat.lt_succ_self n), h.nodup⟩
  ahead k hk := by
    rw [hp.mem_iff, List.mem_cons, not_or]
    refine ⟨fun e => ?_, h.ahead k (by omega)⟩
    have := hn e
    omega

namespace Book

def paymentIds (b : Book) : List Given :=
  b.payments.map Payment.id

def transactionIds (b : Book) : List Given :=
  b.payments.flatMap fun p => p.transactions.map Transaction.id

def numberedPayment (k : Nat) : Given := .text s!"payment-{k}"

def numberedTransaction (k : Nat) : Given := .text s!"transaction-{k}"

theorem numberedPayment_injective : numberedPayment.Injective := by
  intro j k h
  simpa [numberedPayment, Given.text] using h

theorem numberedTransaction_injective : numberedTransaction.Injective := by
  intro j k h
  simpa [numberedTransaction, Given.text] using h

/-- The identifiers in use are distinct, and none is one that is still to be given. -/
structure Orderly (b : Book) : Prop where
  payments : Numbered numberedPayment b.paymentCount b.paymentIds
  transactions : Numbered numberedTransaction b.transactionCount b.transactionIds

variable {b b' : Book} {account : Account} {context : CallContext} {payment : Payment}

theorem Orderly.untouched (ho : b.Orderly) (h : b.Untouched b') : b'.Orderly where
  payments := by
    rw [paymentIds, h.payments, h.paymentCount]
    exact ho.payments
  transactions := by
    rw [transactionIds, h.payments, h.transactionCount]
    exact ho.transactions

theorem Orderly.createPurchase {order : PurchaseOrder} (ho : b.Orderly)
    (h : b.createPurchase account order context = (.ok payment, b')) :
    b'.Orderly ∧ payment = b.purchased account order ∧ b'.payments = b.payments ++ [payment] := by
  obtain ⟨f, hr, -, -⟩ | ⟨hr, rfl⟩ := createPurchase_cases h
  · exact nomatch hr
  · cases hr
    have hfresh : (b.purchased account order).id ∉ b.paymentIds :=
      ho.payments.ahead _ (Nat.lt_succ_self _)
    have hput := put_eq_append Payment.id hfresh
    refine ⟨⟨ho.payments.next numberedPayment_injective ?_,
      ho.transactions.next numberedTransaction_injective ?_⟩, rfl, hput⟩
    · rw [paymentIds]
      dsimp only
      rw [hput, List.map_append]
      exact List.perm_append_singleton _ _
    · rw [transactionIds]
      dsimp only
      rw [hput, List.flatMap_append]
      exact List.perm_append_singleton _ _

theorem Orderly.createChargeback {order : ChargebackOrder} (ho : b.Orderly)
    (h : b.createChargeback account order context = (.ok payment, b')) :
    b'.Orderly ∧ ∃ p, p.id = order.paymentId ∧
      payment = { p with transactions := p.transactions ++ [b.chargedBack order] } ∧
      Replaces p payment b.payments b'.payments := by
  obtain ⟨records, ⟨f, hr, -⟩ | ⟨p, hp, hr, rfl⟩⟩ := createChargeback_cases h
  · exact nomatch hr
  · cases hr
    have hid := (find?_eq_some Payment.id hp).2
    have hput := put_eq_replace Payment.id
      (r := { p with transactions := p.transactions ++ [b.chargedBack order] }) (hid ▸ hp)
    refine ⟨⟨?_, ho.transactions.next numberedTransaction_injective ?_⟩, p, hid, rfl, hput⟩
    · rw [paymentIds]
      dsimp only
      rw [hput.map_eq rfl]
      exact ho.payments
    · -- the new transaction stands after those of its payment, before those of the later ones
      obtain ⟨left, right, hbefore, hafter⟩ := hput
      rw [transactionIds, transactionIds]
      dsimp only
      rw [hafter, hbefore]
      simp only [List.flatMap_append, List.flatMap_cons, List.map_append, List.map_cons,
        List.map_nil, List.append_assoc, List.cons_append, List.nil_append]
      rw [← List.append_assoc, ← List.append_assoc]
      exact List.perm_middle

theorem changeFirst_replaces {id : Given} {ts : List Transaction} {t : Transaction}
    (change : Transaction → Transaction) (h : find? Transaction.id ts id = some t) :
    Replaces t (change t) ts (changeFirst id change ts) := by
  induction ts with
  | nil => exact nomatch h
  | cons u us ih =>
    rw [find?_cons] at h
    rw [changeFirst]
    split at h
    · rename_i hu
      cases h
      rw [if_pos hu]
      exact ⟨[], us, rfl, rfl⟩
    · rename_i hu
      rw [if_neg hu]
      exact (ih h).cons u

theorem findTransaction_eq_some {id : Given} {p : Payment} {t : Transaction}
    (h : b.findTransaction id = some (p, t)) :
    p ∈ b.payments ∧ find? Transaction.id p.transactions id = some t := by
  obtain ⟨q, hq, hf⟩ := List.exists_of_findSome?_eq_some h
  obtain ⟨u, hu, he⟩ := Option.map_eq_some_iff.mp hf
  cases he
  exact ⟨hq, hu⟩

/-- A state that is taken changes the status of one pending transaction. -/
theorem Orderly.reportState {id success : Given} (ho : b.Orderly)
    (h : b.reportState account id success context = (.ok payment, b')) :
    b'.Orderly ∧ ∃ p t, t.id = id ∧ t.status = TransactionStatus.pending.given ∧
      Replaces p payment b.payments b'.payments ∧
      ∃ ts, payment = { p with transactions := ts } ∧
        Replaces t (settled t success) p.transactions ts := by
  obtain ⟨records, ⟨f, hr, -⟩ | ⟨p, t, hf, ht, hr, rfl⟩⟩ := reportState_cases h
  · exact nomatch hr
  · cases hr
    obtain ⟨hp, htp⟩ := findTransaction_eq_some hf
    have hts := changeFirst_replaces (settled · success) htp
    -- the payment is put back under its identifier, which no other payment may have
    have hfound : find? Payment.id b.payments p.id = some p :=
      find?_of_mem Payment.id ho.payments.nodup hp
    have hput := put_eq_replace Payment.id
      (r := { p with transactions := changeFirst id (settled · success) p.transactions }) hfound
    refine ⟨⟨?_, ?_⟩, p, t, (find?_eq_some Transaction.id htp).2, ht, hput, _, rfl, hts⟩
    · rw [paymentIds]
      dsimp only
      rw [hput.map_eq rfl]
      exact ho.payments
    · rw [transactionIds]
      dsimp only
      rw [hput.flatMap_eq (hts.map_eq rfl)]
      exact ho.transactions

end Book

end NoticeLedger
