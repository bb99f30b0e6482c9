import NoticeLedger.Proofs.Delivery.Settled
import NoticeLedger.Proofs.Ledger.Written
import NoticeLedger.Proofs.Rehearsal.Determined

/-!
# NoticeLedger.Proofs.Delivery.Disputes

How many chargebacks a notice that is delivered again and again puts on a payment.

* `Book.chargebacksOn`, `Book.chargebackCount` — the chargebacks on a payment, and in the ledger.
* `Delivered.chargebacks` — a delivery adds at most one, on the payment of the disputed operation;
  `Bench.ChargesBack`, `Delivered.charges_back` — where nothing stands against it, it adds one.
* `Turn`, `Reconciler.addedOver` — deliveries of notices, alone and in batches, and what those of
  one notice add to a count.
* `Reconciler.Adds` — what each delivery adds at least and at most, and so all of them.
* `chargebacks_added` — one for each delivery at most, and one for each where the ledger takes it.

Nothing tells a chargeback that was recorded before from a new one.
-/

namespace NoticeLedger

open Delivery

def Payment.chargebacks (p : Payment) : Nat :=
  p.transactions.countP (·.kind == TransactionKind.chargeback.given)

def Book.chargebacksOn (b : Book) (id : Given) : Nat :=
  ((b.findPayment id).map Payment.chargebacks).getD 0

def Book.chargebackCount (b : Book) : Nat :=
  (b.payments.map Payment.chargebacks).sum

/-- The payment of an identifier gets one chargeback, and nothing else happens to the payments. -/
def Book.AddsChargeback (b : Book) (id : Given) (b' : Book) : Prop :=
  ∃ (payment : Payment) (t : Transaction), b.findPayment id = some payment ∧
    t.kind = TransactionKind.chargeback.given ∧ b'.payments = Keyed.put Payment.id b.payments
      { payment with transactions := payment.transactions ++ [t] }

variable {p : Profile} {n m : Notice} {c : Correlation} {w w' : Bench} {d : Desk} {id : Given}

/-! ## The ledger -/

namespace Book

variable {b b' : Book} {account : Account} {context : CallContext}

theorem chargebacksOn_congr (h : b'.payments = b.payments) (id : Given) :
    b'.chargebacksOn id = b.chargebacksOn id := by
  rw [chargebacksOn, chargebacksOn, findPayment, findPayment, h]

theorem chargebackCount_congr (h : b'.payments = b.payments) :
    b'.chargebackCount = b.chargebackCount := by
  rw [chargebackCount, chargebackCount, h]

theorem AddsChargeback.of_createChargeback {order : ChargebackOrder} {payment : Payment}
    (h : b.createChargeback account order context = (.ok payment, b')) :
    b.AddsChargeback order.paymentId b' := by
  obtain ⟨records, ⟨_, hr, -⟩ | ⟨charged, hfound, -, rfl⟩⟩ := createChargeback_cases h
  · exact nomatch hr
  · exact ⟨charged, b.chargedBack order, hfound, rfl, rfl⟩

theorem chargebacks_append {payment : Payment} {t : Transaction}
    (ht : t.kind = TransactionKind.chargeback.given) :
    { payment with transactions := payment.transactions ++ [t] }.chargebacks =
      payment.chargebacks + 1 := by
  rw [Payment.chargebacks, Payment.chargebacks, List.countP_append, List.countP_singleton, ht,
    if_pos BEq.rfl]

theorem AddsChargeback.chargebacksOn (h : b.AddsChargeback id b') (id' : Given) :
    b'.chargebacksOn id' = b.chargebacksOn id' + if id = id' then 1 else 0 := by
  obtain ⟨charged, t, hfound, ht, hput⟩ := h
  have hid : charged.id = id := (Keyed.find?_eq_some Payment.id hfound).2
  rw [Book.chargebacksOn, Book.chargebacksOn, findPayment, hput, Keyed.find?_put]
  dsimp only
  rw [hid]
  by_cases he : id = id'
  · rw [if_pos he, if_pos he, ← he, hfound]
    exact chargebacks_append ht
  · rw [if_neg he, if_neg he, Nat.add_zero]
    rfl

theorem AddsChargeback.chargebackCount (h : b.AddsChargeback id b') :
    b'.chargebackCount = b.chargebackCount + 1 := by
  obtain ⟨charged, t, hfound, ht, hput⟩ := h
  have hid : charged.id = id := (Keyed.find?_eq_some Payment.id hfound).2
  rw [findPayment, ← hid] at hfound
  -- the payment stands where it stood, so the counts of the others are the same
  obtain ⟨left, right, hbefore, hafter⟩ := Keyed.put_eq_replace Payment.id
    (r := { charged with transactions := charged.transactions ++ [t] }) hfound
  rw [Book.chargebackCount, Book.chargebackCount, hput, hafter, hbefore]
  simp only [List.map_append, List.map_cons, List.sum_append, List.sum_cons,
    chargebacks_append ht]
  omega

theorem getAccount_ok (hf : b.failure? .getAccount = none) (ha : (b.findAccount id).isSome) :
    ∃ account b', b.getAccount id = (.ok account, b') := by
  obtain ⟨found, hfound⟩ := Option.isSome_iff_exists.mp ha
  refine ⟨found, b.called .getAccount, ?_⟩
  rw [getAccount, call, show (b.called .getAccount).failure? .getAccount = none from hf]
  dsimp only
  rw [show (b.called .getAccount).findAccount id = some found from hfound]

theorem createChargeback_ok {order : ChargebackOrder} (hf : b.failure? .createChargeback = none)
    (hp : (b.findPayment order.paymentId).isSome) :
    ∃ payment b', b.createChargeback account order context = (.ok payment, b') := by
  rcases hc : b.createChargeback account order context with ⟨answer, b'⟩
  rw [createChargeback, call,
    show (b.called .createChargeback).failure? .createChargeback = none from hf] at hc
  dsimp only at hc
  rw [show findPayment { b.called .createChargeback with chargebacks := _ } order.paymentId =
    b.findPayment order.paymentId from rfl] at hc
  obtain ⟨charged, hfound⟩ := Option.isSome_iff_exists.mp hp
  rw [hfound] at hc
  cases hc
  exact ⟨_, _, rfl⟩

theorem Written.findPayment_isSome (h : b.Written b') (hid : (b.findPayment id).isSome) :
    (b'.findPayment id).isSome := by
  rw [findPayment] at hid ⊢
  rcases h with hkept | ⟨payment, hput⟩
  · rw [hkept]
    exact hid
  · rw [hput, Keyed.find?_put]
    split
    · rfl
    · exact hid

end Book

/-! ## One delivery -/

/-- Nothing stands against a chargeback: the operation that it disputes is stored, and no hook
stores another one in its place; its account and its payment are in the ledger, the notice says how
much, and no call is made to fail. -/
structure Bench.ChargesBack (w : Bench) (n : Notice) (c : Correlation) : Prop where
  reference : n.earlierReference ≠ .null
  stored : w.Holds (some n.earlierReference) c
  lookUp : w.store.enter .getResponse = .ok ()
  account : (w.book.findAccount c.accountId).isSome
  accountCall : w.book.failure? .getAccount = none
  amount : ∃ amount, n.money LedgerOperation.createChargeback.name = .ok amount
  payment : (w.book.findPayment c.paymentId).isSome
  chargebackCall : w.book.failure? .createChargeback = none

/-- A chargeback disputes the operation whose response is stored under its earlier reference. -/
theorem Finding.of_chargeback (hn : n.classification = some .chargeback) (s : MemoryStore) :
    (∃ f, of s n = .failed f) ∨ of s n = .nothing ∨
      ∃ earlier, s.findResponse (some n.earlierReference) = some earlier ∧
        of s n = .disputed earlier := by
  rw [of, if_pos hn, ofEarlier]
  split
  · exact .inr (.inl rfl)
  · cases hr : s.getResponse (some n.earlierReference) with
    | error f => exact .inl ⟨_, rfl⟩
    | ok found =>
      have hfound := MemoryStore.getResponse_ok hr
      cases found with
      | none => exact .inr (.inl rfl)
      | some earlier => exact .inr (.inr ⟨earlier, hfound, rfl⟩)

theorem ChargingBack.chargebacks {earlier : StoredResponse} {account : Account}
    {context : CallContext} {result : Except Failure Payment}
    (h : ChargingBack n earlier account context w result w') :
    w'.book.payments = w.book.payments ∨ w.book.AddsChargeback earlier.paymentId w'.book := by
  cases h with
  | noMoney _ => exact .inl rfl
  | refused _ hc => exact .inl (Book.createChargeback_error hc).payments
  | recorded _ hc => exact .inr (.of_createChargeback hc)

theorem Book.AddsChargeback.of_payments {b₁ b b' : Book} (h : b₁.AddsChargeback id b')
    (hb : b₁.payments = b.payments) : b.AddsChargeback id b' := by
  obtain ⟨payment, t, hfound, ht, hput⟩ := h
  rw [hb] at hput
  rw [findPayment, hb] at hfound
  exact ⟨payment, t, hfound, ht, hput⟩

/-- A delivery of a chargeback adds at most one, and none on another payment than that of the
disputed operation. -/
theorem Delivered.chargebacks {r : Receipt} (h : Delivered p n w r w')
    (hn : n.classification = some .chargeback) :
    w'.book.payments = w.book.payments ∨
      ∃ earlier, w.store.findResponse (some n.earlierReference) = some earlier ∧
        w.book.AddsChargeback earlier.paymentId w'.book := by
  obtain ⟨result, w₁, hc, hbook, -⟩ := h.result
  rw [hbook]
  rcases Finding.of_chargeback hn w.store with ⟨f, hf⟩ | hf | ⟨earlier, hstored, hf⟩
  · rw [hf] at hc
    rw [hc.of_failed.2]
    exact .inl rfl
  · rw [hf] at hc
    rw [hc.of_nothing.2]
    exact .inl rfl
  · rw [hf] at hc
    cases hc with
    | noAccount _ ha => exact .inl (Book.getAccount_frame ha).2.payments
    | disputed ha hcharging =>
      have hsame := (Book.getAccount_frame ha).2.payments
      exact hcharging.chargebacks.imp (·.trans hsame) fun hadds =>
        ⟨earlier, hstored, hadds.of_payments hsame⟩

theorem Delivered.charges_back {r : Receipt} (h : Delivered p n w r w')
    (hn : n.classification = some .chargeback) (hw : w.ChargesBack n c) :
    w.book.AddsChargeback c.paymentId w'.book := by
  obtain ⟨result, w₁, hc, hbook, -⟩ := h.result
  obtain ⟨earlier, hearlier, rfl⟩ := Option.map_eq_some_iff.mp hw.stored.store
  have hf : Finding.of w.store n = .disputed earlier := by
    rw [Finding.of, if_pos hn, Finding.ofEarlier, if_neg hw.reference, MemoryStore.getResponse,
      hw.lookUp, hearlier]
    rfl
  obtain ⟨amount, hamount⟩ := hw.amount
  obtain ⟨account, b, ha⟩ := Book.getAccount_ok hw.accountCall hw.account
  obtain ⟨hframe, huntouched⟩ := Book.getAccount_frame ha
  -- the look-up of the account leaves the payment there, and the call working
  have hcall : b.failure? .createChargeback = none := by
    rw [Book.failure?, hframe.failures]
    exact hw.chargebackCall
  have hpaid : (b.findPayment earlier.paymentId).isSome :=
    huntouched.written.findPayment_isSome hw.payment
  have hcreates : ∃ payment b', b.createChargeback account (n.chargebackOrder earlier amount)
      (contextOf earlier.tenantId p.userName w.now) = (.ok payment, b') :=
    Book.createChargeback_ok hcall hpaid
  obtain ⟨payment, b', hcreated⟩ := hcreates
  rw [hf] at hc
  obtain ⟨made, hcharging, -⟩ := hc.of_disputed ha
  obtain ⟨-, rfl⟩ := hcharging.of_answer hamount hcreated
  have hadds : b.AddsChargeback earlier.paymentId b' := .of_createChargeback hcreated
  rw [hbook]
  exact hadds.of_payments huntouched.payments

/-! ## Deliveries, one after another -/

theorem Made.accounts_eq {context : CallContext} {b b' : Book} {calls : List LedgerCall}
    (h : Made context b calls b') : b'.accounts = b.accounts := by
  induction h with
  | nil => rfl
  | failed hc => exact (LedgerCall.answer_frame hc).accounts
  | answered hc _ ih => exact ih.trans (LedgerCall.answer_frame hc).accounts

/-- A delivery of any notice leaves it so that nothing stands against the chargeback. -/
theorem Delivered.keeps_chargesBack {receipt : Receipt} (h : Delivered p m w receipt w')
    (hw : w.ChargesBack n c) : w'.ChargesBack n c := by
  have hp := h.precedes
  obtain ⟨result, w₁, hc, hbook, -⟩ := h.result
  obtain ⟨calls, hcalls⟩ := hc.obeys
  have haccounts : w'.book.accounts = w.book.accounts := by
    rw [hbook]
    exact hcalls.made.accounts_eq
  refine ⟨hw.reference, h.holds hw.stored, ?_, ?_, ?_, hw.amount, ?_, ?_⟩
  · rw [hp.enter]
    exact hw.lookUp
  · rw [Book.findAccount, haccounts]
    exact hw.account
  · rw [Book.failure?, hp.bookFailures]
    exact hw.accountCall
  · exact h.written.findPayment_isSome hw.payment
  · rw [Book.failure?, hp.bookFailures]
    exact hw.chargebackCall

/-! ## At a desk -/

/-- A count in the ledger of a desk; where the ledger is not in memory, nothing is counted. -/
def Desk.counted (count : Book → Nat) (d : Desk) : Nat :=
  match d.platform with
  | .book b => count b
  | _ => 0

theorem Bench.On.counted (hd : w.On d) (count : Book → Nat) : d.counted count = count w.book := by
  rw [Desk.counted, hd.platform]

/-- What happens at a desk to which notices come alone and in batches. -/
inductive Turn where
  | deliver (n : Notice)
  | batch (notices : List Notice)
  | arrange (a : Arrangement)

namespace Turn

def notices : Turn → List Notice
  | deliver n => [n]
  | batch notices => notices
  | arrange _ => []

def play (r : Reconciler) : Turn → Desk → Desk
  | deliver n, d => (r.process n d).2
  | batch notices, d => (r.processBatch notices d).2
  | arrange a, d => d.arranged a.apply

/-- How often a notice is delivered in some turns; copies of it in one batch count as well. -/
def deliveries (n : Notice) (turns : List Turn) : Nat :=
  (turns.map fun t => t.notices.count n).sum

end Turn

namespace Reconciler

/-- What the deliveries of one notice add to a count, among notices that are delivered one after
another. -/
def added (r : Reconciler) (count : Book → Nat) (n : Notice) : List Notice → Desk → Nat
  | [], _ => 0
  | m :: notices, d =>
    let after := (r.process m d).2
    (if m = n then after.counted count - d.counted count else 0) + r.added count n notices after

def addedOver (r : Reconciler) (count : Book → Nat) (n : Notice) : List Turn → Desk → Nat
  | [], _ => 0
  | t :: turns, d => r.added count n t.notices d + r.addedOver count n turns (t.play r d)

/-- Each delivery of a notice adds at least `low` to a count, and at most one, at benches with a
property that every delivery keeps. -/
structure Adds (r : Reconciler) (count : Book → Nat) (n : Notice) (P : Bench → Prop)
    (low : Nat) : Prop where
  kept : ∀ {m receipt w w'}, Delivered r.profile m w receipt w' → P w → P w'
  least : ∀ {receipt w w'}, Delivered r.profile n w receipt w' → P w →
    count w.book + low ≤ count w'.book
  most : ∀ {receipt w w'}, Delivered r.profile n w receipt w' → P w →
    count w'.book ≤ count w.book + 1

namespace Adds

variable {r : Reconciler} {count : Book → Nat} {P : Bench → Prop} {low : Nat}

theorem deliveries (h : r.Adds count n P low) {notices : List Notice} {receipts : List Receipt}
    (hs : Deliveries r.profile notices w receipts w') (hw : P w) : P w' := by
  induction hs with
  | nil => exact hw
  | cons hd _ ih => exact ih (h.kept hd hw)

/-- Notices that are delivered one after another add as much as the notice is among them. -/
theorem added_bounds (h : r.Adds count n P low) (hr : r.Articulate) (notices : List Notice)
    (hd : w.On d) (hw : P w) :
    low * notices.count n ≤ r.added count n notices d ∧
      r.added count n notices d ≤ notices.count n := by
  induction notices generalizing w d with
  | nil => exact ⟨Nat.le_refl 0, Nat.le_refl 0⟩
  | cons m notices ih =>
    obtain ⟨receipt, d₁, w₁, hrun, hd₁, hdelivered⟩ := process_delivered hr m hd
    obtain ⟨hleast, hmost⟩ := ih hd₁ (h.kept hdelivered hw)
    rw [added, hrun]
    dsimp only
    rw [hd₁.counted, hd.counted, List.count_cons]
    by_cases hm : m = n
    · subst hm
      have hleast' := h.least hdelivered hw
      have hmost' := h.most hdelivered hw
      rw [if_pos rfl, if_pos BEq.rfl, Nat.mul_add, Nat.mul_one]
      omega
    · rw [if_neg hm, if_neg (by simpa using hm), Nat.add_zero, Nat.zero_add]
      exact ⟨hleast, hmost⟩

/-- A turn leaves a bench, and one with the property if what is arranged keeps it. -/
theorem play (h : r.Adds count n P low) (hr : r.Articulate) (t : Turn) (hd : w.On d) (hw : P w)
    (harrange : ∀ a, t = .arrange a → ∀ w, P w → P (a.apply w)) :
    ∃ w' : Bench, w'.On (t.play r d) ∧ P w' := by
  cases t with
  | deliver m =>
    obtain ⟨receipt, d', w', hrun, hd', hdelivered⟩ := process_delivered hr m hd
    rw [Turn.play, hrun]
    exact ⟨w', hd', h.kept hdelivered hw⟩
  | batch notices =>
    obtain ⟨receipts, d', w', hrun, hd', hdelivered⟩ := processBatch_delivered hr notices hd
    rw [Turn.play, hrun]
    exact ⟨w', hd', h.deliveries hdelivered hw⟩
  | arrange a => exact ⟨a.apply w, hd.arranged a.apply, harrange a rfl w hw⟩

theorem addedOver_bounds (h : r.Adds count n P low) (hr : r.Articulate) (turns : List Turn)
    (hd : w.On d) (hw : P w) (harrange : ∀ a, .arrange a ∈ turns → ∀ w, P w → P (a.apply w)) :
    low * Turn.deliveries n turns ≤ r.addedOver count n turns d ∧
      r.addedOver count n turns d ≤ Turn.deliveries n turns := by
  induction turns generalizing w d with
  | nil => exact ⟨Nat.le_refl 0, Nat.le_refl 0⟩
  | cons t turns ih =>
    obtain ⟨hleast, hmost⟩ := h.added_bounds hr t.notices hd hw
    obtain ⟨w', hd', hw'⟩ := h.play hr t hd hw fun a ha => harrange a (ha ▸ List.mem_cons_self)
    obtain ⟨hleast', hmost'⟩ := ih hd' hw' fun a ha => harrange a (List.mem_cons_of_mem t ha)
    have hcons : Turn.deliveries n (t :: turns) =
        t.notices.count n + Turn.deliveries n turns := by
      rw [Turn.deliveries, List.map_cons, List.sum_cons, ← Turn.deliveries]
    rw [addedOver, hcons, Nat.mul_add]
    omega

/-- Where each delivery adds one, there are as many as deliveries. -/
theorem addedOver_eq (h : r.Adds count n P 1) (hr : r.Articulate) (turns : List Turn)
    (hd : w.On d) (hw : P w) (harrange : ∀ a, .arrange a ∈ turns → ∀ w, P w → P (a.apply w)) :
    r.addedOver count n turns d = Turn.deliveries n turns := by
  obtain ⟨hleast, hmost⟩ := h.addedOver_bounds hr turns hd hw harrange
  omega

end Adds

end Reconciler

/-! ## Chargebacks, again and again -/

variable {r : Reconciler} {count : Book → Nat}

/-- A chargeback adds at most one to every count that is the same for the same payments, and one
more at most for one more chargeback. -/
theorem adds_of_chargeback (hn : n.classification = some .chargeback)
    (hsame : ∀ b b' : Book, b'.payments = b.payments → count b' = count b)
    (hmore : ∀ (b b' : Book) id, b.AddsChargeback id b' →
      count b ≤ count b' ∧ count b' ≤ count b + 1) :
    r.Adds count n (fun _ => True) 0 where
  kept _ _ := trivial
  least h _ := by
    rcases h.chargebacks hn with hkept | ⟨earlier, -, hadds⟩
    · exact Nat.le_of_eq (hsame _ _ hkept).symm
    · exact (hmore _ _ _ hadds).1
  most h _ := by
    rcases h.chargebacks hn with hkept | ⟨earlier, -, hadds⟩
    · exact (hsame _ _ hkept).trans_le (Nat.le_add_right _ 1)
    · exact (hmore _ _ _ hadds).2

/-- Where nothing stands against it, it adds one to every count that has one more for one more
chargeback on the disputed payment. -/
theorem adds_of_chargesBack (hn : n.classification = some .chargeback)
    (hmore : ∀ b b' : Book, b.AddsChargeback c.paymentId b' → count b' = count b + 1) :
    r.Adds count n (·.ChargesBack n c) 1 where
  kept h hw := h.keeps_chargesBack hw
  least h hw := Nat.le_of_eq (hmore _ _ (h.charges_back hn hw)).symm
  most h hw := Nat.le_of_eq (hmore _ _ (h.charges_back hn hw))

/-- **Chargebacks.** A chargeback that is delivered again and again, alone and in batches, whatever
else is delivered and arranged, adds at most one each time: to the whole ledger, and to any payment.
Where nothing stands against it, and what is arranged keeps it so, each delivery adds one to the
payment of the disputed operation, and just that one to the ledger. -/
theorem chargebacks_added (hr : r.Articulate) {n : Notice} {w : Bench} {d : Desk} (hd : w.On d)
    (hn : n.classification = some .chargeback) (turns : List Turn) :
    (r.addedOver Book.chargebackCount n turns d ≤ Turn.deliveries n turns ∧
      ∀ id, r.addedOver (·.chargebacksOn id) n turns d ≤ Turn.deliveries n turns) ∧
    ∀ c, w.ChargesBack n c →
      (∀ a, .arrange a ∈ turns → ∀ w, w.ChargesBack n c → (a.apply w).ChargesBack n c) →
      r.addedOver Book.chargebackCount n turns d = Turn.deliveries n turns ∧
        r.addedOver (·.chargebacksOn c.paymentId) n turns d = Turn.deliveries n turns := by
  have hwhole : r.Adds Book.chargebackCount n (fun _ => True) 0 :=
    adds_of_chargeback hn (fun _ _ => Book.chargebackCount_congr) fun b b' id h => by
      rw [h.chargebackCount]
      omega
  have hpayment (id : Given) : r.Adds (·.chargebacksOn id) n (fun _ => True) 0 :=
    adds_of_chargeback hn (fun _ _ h => Book.chargebacksOn_congr h id) fun b b' id' h => by
      rw [h.chargebacksOn]
      split <;> omega
  refine ⟨⟨?_, fun id => ?_⟩, fun c hw harrange => ⟨?_, ?_⟩⟩
  · exact (hwhole.addedOver_bounds hr turns hd trivial fun _ _ _ _ => trivial).2
  · exact ((hpayment id).addedOver_bounds hr turns hd trivial fun _ _ _ _ => trivial).2
  · exact (adds_of_chargesBack hn fun _ _ h => h.chargebackCount).addedOver_eq hr turns hd hw
      harrange
  · refine (adds_of_chargesBack hn fun _ _ h => ?_).addedOver_eq hr turns hd hw harrange
    rw [h.chargebacksOn, if_pos rfl]

namespace Sample

def dispute : Notice :=
  { authorisation with
    eventCode := "CHARGEBACK"
    pspReference := .text "psp-9"
    earlierReference := .text "psp-1" }

/-- A payment for an account that the ledger does not know, so it is to be delivered again. -/
def stray : Notice :=
  { authorisation with pspReference := .text "psp-8", merchantReference := .text "order-8" }

def disputed : Bench :=
  { bench with
    store.responses := [response]
    store.pendingRequests :=
      [{ merchantReference := .text "order-8"
         accountId := .text "account-8"
         tenantId := .text "tenant-1"
         paymentId := .null
         transactionId := .null
         additionalData := .object []
         createdAt := ⟨0⟩ }] }

def disputeTwice : List Turn :=
  [.batch [dispute, stray], .arrange (.setTime ⟨2⟩), .batch [dispute, stray]]

theorem disputed_chargesBack : disputed.ChargesBack dispute (.ofResponse response) where
  reference := by decide
  stored := ⟨rfl, nofun⟩
  lookUp := rfl
  account := rfl
  accountCall := rfl
  amount := ⟨_, rfl⟩
  payment := rfl
  chargebackCall := rfl

theorem disputeTwice_keeps (a : Arrangement) (ha : .arrange a ∈ disputeTwice) (w : Bench)
    (h : w.ChargesBack dispute c) : (a.apply w).ChargesBack dispute c := by
  simp only [disputeTwice, List.mem_cons, reduceCtorEq, Turn.arrange.injEq, false_or, or_false,
    List.not_mem_nil] at ha
  subst ha
  exact { h with stored := ⟨h.stored.store, h.stored.hook⟩ }

end Sample

/-- The batch is delivered again because of the other notice, and the chargeback is recorded a
second time. -/
theorem chargebacks_added_sample :
    Sample.reconciler.addedOver (·.chargebacksOn (.text "payment-1")) Sample.dispute
      Sample.disputeTwice Sample.disputed.desk = 2 := by
  obtain ⟨-, hall⟩ := chargebacks_added Sample.articulate Sample.disputed.on_desk
    (show Sample.dispute.classification = some .chargeback from rfl) Sample.disputeTwice
  exact (hall (.ofResponse Sample.response) Sample.disputed_chargesBack
    Sample.disputeTwice_keeps).2

/-- So not every chargeback is recorded at most once. -/
theorem chargebacks_not_absorbed :
    (∃ batch d', Sample.reconciler.processBatch [Sample.dispute, Sample.stray]
      Sample.disputed.desk = (.ok batch, d') ∧ batch.signal.retryRequested = true) ∧
    ¬ ∀ (n : Notice) (w : Bench) (id : Given) (turns : List Turn),
      n.classification = some .chargeback →
        Sample.reconciler.addedOver (·.chargebacksOn id) n turns w.desk ≤ 1 := by
  refine ⟨⟨_, _, rfl, rfl⟩, fun h => ?_⟩
  have hone := h Sample.dispute Sample.disputed (.text "payment-1") Sample.disputeTwice rfl
  have htwo : Sample.reconciler.addedOver (·.chargebacksOn (.text "payment-1")) Sample.dispute
    Sample.disputeTwice Sample.disputed.desk = 2 := rfl
  omega

end NoticeLedger
