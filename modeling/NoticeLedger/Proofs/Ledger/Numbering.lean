import NoticeLedger.Proofs.Delivery.Table
import NoticeLedger.Proofs.Ledger.Orderly

/-!
# NoticeLedger.Proofs.Ledger.Numbering

What the numbers that a book gives can run into.

* `Book.Act`, `Book.after` — what happens to a book: entries that are added, operations that are
  made to fail or to work again, and calls; and the book after a list of them.
* `Drawn` — identifiers that are numbers given so far, unless they come from elsewhere.
* `Book.Known added b` — so it is with the payments and the transactions of a book, where those that
  come from elsewhere were added with the payments `added`.
* `Known.act`, `Book.after_known` — every act keeps it, and so does every run of them.
* `Book.purchases_apart` — a purchase takes the place of a payment exactly if one was added under
  the number that it gets, and it leaves every other payment as it is.

Nothing looks at what was added before a number is given (`not_every_purchase_apart`).
-/

namespace NoticeLedger

/-! ## Numbers -/

/-- Identifiers that are numbers up to `n`, or come from elsewhere. -/
def Drawn (number : Nat → Given) (n : Nat) (elsewhere ids : List Given) : Prop :=
  ∀ id ∈ ids, (∃ k ≤ n, id = number k) ∨ id ∈ elsewhere

namespace Drawn

variable {number : Nat → Given} {n : Nat} {elsewhere elsewhere' ids ids' : List Given}

theorem mono (h : Drawn number n elsewhere ids) (he : elsewhere ⊆ elsewhere')
    (hids : ∀ id ∈ ids', id ∈ ids ∨ id ∈ elsewhere') : Drawn number n elsewhere' ids' := by
  intro id hid
  rcases hids id hid with hold | hnew
  · exact (h id hold).imp_right fun hmem => he hmem
  · exact .inr hnew

theorem next (h : Drawn number n elsewhere ids)
    (hids : ∀ id ∈ ids', id = number (n + 1) ∨ id ∈ ids) :
    Drawn number (n + 1) elsewhere ids' := by
  intro id hid
  rcases hids id hid with hnew | hold
  · exact .inl ⟨n + 1, Nat.le_refl _, hnew⟩
  · exact (h id hold).imp_left fun ⟨k, hk, he⟩ => ⟨k, Nat.le_succ_of_le hk, he⟩

/-- The next number is in use only if it comes from elsewhere. -/
theorem of_next (h : Drawn number n elsewhere ids) (hn : number.Injective)
    (hid : number (n + 1) ∈ ids) : number (n + 1) ∈ elsewhere := by
  rcases h _ hid with ⟨k, hk, he⟩ | hmem
  · have hsame := hn he
    omega
  · exact hmem

end Drawn

/-- The keys after a record was put in. -/
theorem Keyed.mem_keys_put {α κ : Type} [DecidableEq κ] (key : α → κ) {records : List α} {r : α}
    {k : κ} : k ∈ (put key records r).map key ↔ k = key r ∨ k ∈ records.map key := by
  induction records with
  | nil => simp [put]
  | cons x xs ih =>
    by_cases h : key x = key r
    · rw [put, if_pos h, List.map_cons, List.map_cons, List.mem_cons, List.mem_cons, h,
        or_self_left]
    · rw [put, if_neg h, List.map_cons, List.map_cons, List.mem_cons, List.mem_cons, ih,
        or_left_comm]

namespace Book

open Keyed

/-! ## What happens to a book -/

inductive Act where
  | addAccount (account : Account)
  | addPaymentMethod (method : PaymentMethod)
  | addPayment (payment : Payment)
  | failOn (op : LedgerOperation) (failure : Option Failure)
  | restore
  | call (c : LedgerCall) (context : CallContext)

def Act.apply (b : Book) : Act → Book
  | addAccount account => b.addAccount account
  | addPaymentMethod method => b.addPaymentMethod method
  | addPayment payment => b.addPayment payment
  | failOn op failure => b.failOn op failure
  | restore => b.restore
  | call c context => (c.answer context b).2

def after (b : Book) (acts : List Act) : Book :=
  acts.foldl Act.apply b

def Act.added? : Act → Option Payment
  | addPayment payment => some payment
  | _ => none

theorem mem_added {acts : List Act} {p : Payment} :
    p ∈ acts.filterMap Act.added? ↔ .addPayment p ∈ acts := by
  rw [List.mem_filterMap]
  constructor
  · rintro ⟨a, ha, hp⟩
    cases a with
    | addPayment payment =>
      cases hp
      exact ha
    | _ => exact nomatch hp
  · exact fun h => ⟨_, h, rfl⟩

/-! ## Where identifiers come from -/

def transactionIdsOf (payments : List Payment) : List Given :=
  payments.flatMap fun p => p.transactions.map Transaction.id

theorem mem_transactionIdsOf {payments : List Payment} {id : Given} :
    id ∈ transactionIdsOf payments ↔
      ∃ p ∈ payments, id ∈ p.transactions.map Transaction.id :=
  List.mem_flatMap

/-- Every identifier in a book was given as a number or was added with a payment, and the payments
that were added are still known by their identifiers. -/
structure Known (added : List Payment) (b : Book) : Prop where
  payments : Drawn numberedPayment b.paymentCount (added.map Payment.id) b.paymentIds
  transactions :
    Drawn numberedTransaction b.transactionCount (transactionIdsOf added) b.transactionIds
  kept : ∀ p ∈ added, p.id ∈ b.paymentIds

theorem mem_transactionIds_put {payments : List Payment} {p : Payment} {id : Given}
    (h : id ∈ transactionIdsOf (put Payment.id payments p)) :
    id ∈ p.transactions.map Transaction.id ∨ id ∈ transactionIdsOf payments := by
  obtain ⟨q, hq, hid⟩ := mem_transactionIdsOf.mp h
  rcases mem_put Payment.id hq with rfl | hq
  · exact .inl hid
  · exact .inr (mem_transactionIdsOf.mpr ⟨q, hq, hid⟩)

namespace Known

variable {added : List Payment} {b b' : Book} {account : Account} {context : CallContext}
  {r : Except Failure Payment}

theorem untouched (h : b.Known added) (hu : b.Untouched b') : b'.Known added := by
  obtain ⟨hpayments, htransactions, hkept⟩ := h
  refine ⟨?_, ?_, ?_⟩
  · rw [paymentIds, hu.payments, hu.paymentCount]
    exact hpayments
  · rw [transactionIds, hu.payments, hu.transactionCount]
    exact htransactions
  · rw [paymentIds, hu.payments]
    exact hkept

theorem addPayment (h : b.Known added) (p : Payment) : (b.addPayment p).Known (added ++ [p]) where
  payments := by
    refine h.payments.mono ?_ fun id hid => ?_
    · rw [List.map_append]
      exact List.subset_append_left _ _
    · rw [List.map_append, List.mem_append]
      rcases (mem_keys_put Payment.id).mp hid with rfl | hold
      · exact .inr (.inr List.mem_cons_self)
      · exact .inl hold
  transactions := by
    refine h.transactions.mono ?_ fun id hid => ?_
    · rw [transactionIdsOf, transactionIdsOf, List.flatMap_append]
      exact List.subset_append_left _ _
    · rcases mem_transactionIds_put hid with hnew | hold
      · exact .inr (mem_transactionIdsOf.mpr ⟨p, by simp, hnew⟩)
      · exact .inl hold
  kept q hq := by
    refine (mem_keys_put Payment.id).mpr ?_
    rcases List.mem_append.mp hq with hold | hnew
    · exact .inr (h.kept q hold)
    · cases List.mem_singleton.mp hnew
      exact .inl rfl

/-- A payment that is put back with the transactions that it had. -/
theorem putBack (h : b.Known added) {p : Payment} {ts : List Transaction} (hp : p ∈ b.payments)
    (hts : ∀ t ∈ ts.map Transaction.id, t ∈ p.transactions.map Transaction.id)
    (hpayments : b'.payments = put Payment.id b.payments { p with transactions := ts })
    (hcounts : b'.paymentCount = b.paymentCount ∧ b'.transactionCount = b.transactionCount) :
    b'.Known added := by
  have hids (id : Given) : id ∈ b'.paymentIds ↔ id ∈ b.paymentIds := by
    rw [paymentIds, hpayments, mem_keys_put]
    refine or_iff_right_of_imp ?_
    rintro rfl
    exact List.mem_map.mpr ⟨p, hp, rfl⟩
  refine ⟨?_, ?_, fun q hq => (hids q.id).mpr (h.kept q hq)⟩
  · rw [hcounts.1]
    exact h.payments.mono (List.Subset.refl _) fun id hid => .inl ((hids id).mp hid)
  · rw [hcounts.2]
    refine h.transactions.mono (List.Subset.refl _) fun id hid => .inl ?_
    rw [transactionIds, hpayments] at hid
    rcases mem_transactionIds_put hid with hown | hold
    · exact mem_transactionIdsOf.mpr ⟨p, hp, hts id hown⟩
    · exact hold

theorem reportState {id success : Given} (h : b.Known added)
    (hr : b.reportState account id success context = (r, b')) : b'.Known added := by
  obtain ⟨records, ⟨f, -, -, rfl⟩ | ⟨p, t, hfound, -, -, rfl⟩⟩ := reportState_cases hr
  · exact h.untouched ⟨rfl, rfl, rfl⟩
  · obtain ⟨hp, ht⟩ := findTransaction_eq_some hfound
    have hids := (changeFirst_replaces (settled · success) ht).map_eq (f := Transaction.id) rfl
    exact h.putBack hp (fun k hk => hids ▸ hk) rfl ⟨rfl, rfl⟩

theorem createPurchase {order : PurchaseOrder} (h : b.Known added)
    (hr : b.createPurchase account order context = (r, b')) : b'.Known added := by
  obtain ⟨f, -, -, rfl⟩ | ⟨-, rfl⟩ := createPurchase_cases hr
  · exact h.untouched ⟨rfl, rfl, rfl⟩
  · refine ⟨h.payments.next fun id hid => ?_, h.transactions.next fun id hid => ?_,
      fun q hq => (mem_keys_put Payment.id).mpr (.inr (h.kept q hq))⟩
    · exact (mem_keys_put Payment.id).mp hid
    · exact (mem_transactionIds_put hid).imp_left List.mem_singleton.mp

theorem createChargeback {order : ChargebackOrder} (h : b.Known added)
    (hr : b.createChargeback account order context = (r, b')) : b'.Known added := by
  obtain ⟨records, ⟨f, -, -, rfl⟩ | ⟨p, hfound, -, rfl⟩⟩ := createChargeback_cases hr
  · exact h.untouched ⟨rfl, rfl, rfl⟩
  · have hp : p ∈ b.payments := (find?_eq_some Payment.id hfound).1
    have hids (id : Given) (hid : id = p.id ∨ id ∈ b.paymentIds) : id ∈ b.paymentIds :=
      hid.elim (fun he => List.mem_map.mpr ⟨p, hp, he.symm⟩) fun hold => hold
    refine ⟨h.payments.mono (List.Subset.refl _) fun id hid => .inl ?_,
      h.transactions.next fun id hid => ?_,
      fun q hq => (mem_keys_put Payment.id).mpr (.inr (h.kept q hq))⟩
    · have hput := (mem_keys_put Payment.id).mp hid
      exact hids id hput
    · rcases mem_transactionIds_put hid with hown | hold
      · rw [List.map_append, List.mem_append] at hown
        rcases hown with hold | hnew
        · exact .inr (mem_transactionIdsOf.mpr ⟨p, hp, hold⟩)
        · exact .inl (List.mem_singleton.mp hnew)
      · exact .inr hold

theorem answer (h : b.Known added) (c : LedgerCall) (context : CallContext) :
    (c.answer context b).2.Known added := by
  cases c with
  | getAccount id => exact h.untouched (getAccount_frame rfl).2
  | listPaymentMethods id => exact h.untouched (listPaymentMethods_frame rfl).2
  | reportState account id success => exact h.reportState rfl
  | createPurchase account order => exact h.createPurchase rfl
  | createChargeback account order => exact h.createChargeback rfl

/-- Whatever happens to a book, its identifiers are numbers or were added. -/
theorem act (h : b.Known added) (a : Act) : (a.apply b).Known (added ++ a.added?.toList) := by
  have hsame {b' : Book} (h' : b'.Known added) : b'.Known (added ++ []) :=
    (List.append_nil added).symm ▸ h'
  cases a with
  | addPayment payment => exact h.addPayment payment
  | addAccount account => exact hsame (h.untouched ⟨rfl, rfl, rfl⟩)
  | addPaymentMethod method => exact hsame (h.untouched ⟨rfl, rfl, rfl⟩)
  | failOn op failure => exact hsame (h.untouched ⟨rfl, rfl, rfl⟩)
  | restore => exact hsame (h.untouched ⟨rfl, rfl, rfl⟩)
  | call c context => exact hsame (h.answer c context)

theorem after (h : b.Known added) (acts : List Act) :
    (b.after acts).Known (added ++ acts.filterMap Act.added?) := by
  induction acts generalizing b added with
  | nil =>
    rw [List.filterMap_nil, List.append_nil]
    exact h
  | cons a acts ih =>
    have hrest := ih (h.act a)
    rw [List.append_assoc] at hrest
    have hadded : a.added?.toList ++ acts.filterMap Act.added? =
        (a :: acts).filterMap Act.added? := by
      cases a <;> rfl
    rw [hadded] at hrest
    exact hrest

end Known

/-- After every run of acts the identifiers in use are numbers or were added. -/
theorem after_known (acts : List Act) :
    ((({} : Book)).after acts).Known (acts.filterMap Act.added?) := by
  have hempty : ({} : Book).Known [] := ⟨nofun, nofun, nofun⟩
  exact hempty.after acts

/-! ## Purchases -/

/-- What a purchase that is recorded has to do with the payments that were there, where acts led
from an empty book to `b`: its payment and its transaction have identifiers that no other has,
unless a payment or a transaction was added under them; the payment is stored, and every other one
stays as it was. -/
structure PurchasedApart (acts : List Act) (b b' : Book) (payment : Payment) : Prop where
  /-- The payment takes a place exactly if one was added there. -/
  payment_taken : payment.id ∈ b.paymentIds ↔ ∃ p, .addPayment p ∈ acts ∧ p.id = payment.id
  transaction_taken : ∃ t, payment.transactions = [t] ∧
    (t.id ∈ b.transactionIds →
      ∃ p, .addPayment p ∈ acts ∧ t.id ∈ p.transactions.map Transaction.id)
  stored : b'.findPayment payment.id = some payment
  others : ∀ id, id ≠ payment.id → b'.findPayment id = b.findPayment id
  /-- Where none was added there, the payments are those that were there and this one. -/
  fresh : (∀ p, .addPayment p ∈ acts → p.id ≠ payment.id) → b'.payments = b.payments ++ [payment]

/-- **Purchases.** Whatever happened to a book, a purchase that is recorded takes the place of
another payment only where one was added under the number that it gets. -/
theorem purchases_apart (acts : List Act) {account : Account} {order : PurchaseOrder}
    {context : CallContext} {payment : Payment} {b' : Book}
    (h : (({} : Book).after acts).createPurchase account order context = (.ok payment, b')) :
    PurchasedApart acts (({} : Book).after acts) b' payment := by
  have hknown := after_known acts
  generalize ({} : Book).after acts = b at h hknown
  obtain ⟨f, hr, -⟩ | ⟨hr, rfl⟩ := createPurchase_cases h
  · exact nomatch hr
  cases hr
  have htaken : (b.purchased account order).id ∈ b.paymentIds ↔
      ∃ p, .addPayment p ∈ acts ∧ p.id = (b.purchased account order).id := by
    constructor
    · intro hid
      obtain ⟨p, hp, he⟩ :=
        List.mem_map.mp (hknown.payments.of_next numberedPayment_injective hid)
      exact ⟨p, mem_added.mp hp, he⟩
    · rintro ⟨p, hp, he⟩
      rw [← he]
      exact hknown.kept p (mem_added.mpr hp)
  refine ⟨htaken, ⟨_, rfl, fun hid => ?_⟩, ?_, fun id hid => ?_, fun hnone => ?_⟩
  · obtain ⟨p, hp, he⟩ :=
      mem_transactionIdsOf.mp (hknown.transactions.of_next numberedTransaction_injective hid)
    exact ⟨p, mem_added.mp hp, he⟩
  · exact (find?_put Payment.id _ _ _).trans (if_pos rfl)
  · exact (find?_put Payment.id _ _ _).trans (if_neg (Ne.symm hid))
  · refine put_eq_append Payment.id fun hid => ?_
    obtain ⟨p, hp, he⟩ := htaken.mp hid
    exact hnone p hp he

namespace Sample

def order : PurchaseOrder where
  paymentMethodId := .text "payment-method-1"
  amount := ⟨500, ⟨"EUR", 2, rfl⟩, by decide⟩
  externalKey := .text "order-2"
  transactionExternalKey := .text "psp-2"
  properties := []

def context : CallContext where
  tenantId := .text "tenant-1"
  userName := .text "reconciler"
  createdAt := ⟨0⟩

def account : Account where
  id := .text "account-1"

/-- A payment with one transaction, both under identifiers of somebody's choice. -/
def seeded (paymentId transactionId : String) : Payment where
  id := .text paymentId
  accountId := .text "account-1"
  paymentMethodId := .text "payment-method-1"
  transactions :=
    [{ id := .text transactionId
       paymentId := .text paymentId
       kind := TransactionKind.authorize.given
       status := TransactionStatus.success.given }]

/-- A payment was added; a purchase was recorded, and disputed after that. -/
def acts : List Act :=
  [.addAccount account,
   .addPayment (seeded "payment-10" "transaction-10"),
   .failOn .getAccount none,
   .call (.createPurchase account order) context,
   .call (.createChargeback account ⟨.text "payment-1", order.amount, .null⟩) context]

end Sample

theorem purchases_apart_sample :
    let b := ({} : Book).after Sample.acts
    let payment := b.purchased Sample.account Sample.order
    ∃ b', b.createPurchase Sample.account Sample.order Sample.context = (.ok payment, b') ∧
      PurchasedApart Sample.acts b b' payment := by
  have h : (({} : Book).after Sample.acts).createPurchase Sample.account Sample.order
      Sample.context = (.ok _, _) := rfl
  exact ⟨_, h, purchases_apart Sample.acts h⟩

/-- A payment that was added under the first number gives way to the first purchase. -/
theorem not_every_purchase_apart :
    ¬ ∀ (acts : List Act) (account : Account) (order : PurchaseOrder) (context : CallContext)
      (payment : Payment) (b' : Book),
      (({} : Book).after acts).createPurchase account order context = (.ok payment, b') →
        payment.id ∉ (({} : Book).after acts).paymentIds ∧
        (∀ t ∈ payment.transactions, t.id ∉ (({} : Book).after acts).transactionIds) ∧
        ∀ p ∈ (({} : Book).after acts).payments,
          ∃ q ∈ b'.payments, q.id = p.id ∧ q.transactions = p.transactions := by
  intro h
  have happart := h [.addPayment (Sample.seeded "payment-1" "transaction-7")] Sample.account
    Sample.order Sample.context _ _ rfl
  exact happart.1 List.mem_cons_self

end Book

end NoticeLedger
