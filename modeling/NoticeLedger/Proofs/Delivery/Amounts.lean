import NoticeLedger.Proofs.Delivery.Blame
import NoticeLedger.Proofs.Delivery.Disputes
import NoticeLedger.Proofs.Delivery.Settled
import NoticeLedger.Proofs.Delivery.Table
import NoticeLedger.Proofs.Ledger.Settling
import NoticeLedger.Proofs.Money.Decimal

/-!
# NoticeLedger.Proofs.Delivery.Amounts

The money that a delivery records is the money that was sent.

* `Notice.Renders` — a decimal and a code are the amount of a notice, as the ledger writes it.
* `Notice.PaidInto`, `Notice.ChargedBackIn` — what a book has after the purchase, or the chargeback,
  of a notice.
* `Notice.Moneyless` — a notice whose amount is no money.
* `Book.RecordsNothing` — no purchase and no chargeback was recorded or asked for.
* `process_money` — a delivery that tells of a purchase or of a chargeback has recorded the amount
  that was sent; a notice without money records nothing, and is dropped where its amount is needed.
-/

namespace NoticeLedger

open Delivery

variable {p : Profile} {n : Notice} {w w' : Bench} {operation : String}

/-! ## Amounts as they are written -/

/-- A decimal and a code are the amount that was sent: the code is the spelling of its currency, and
the decimal, read in that currency, is its value. -/
def Notice.Renders (n : Notice) (decimal code : String) : Prop :=
  ∃ amount name m, n.amount = some amount ∧
    Members.get? amount "currency" = some (.text name) ∧ code = Text.canonical name ∧
    Money.parse decimal (.text code) = .ok m ∧
    Members.get? amount "value" = some (.number (.ofInt m.amount))

theorem Notice.money_renders {m : Money} (h : n.money operation = .ok m) :
    n.Renders m.decimal m.currency.code := by
  unfold Notice.money at h
  split at h
  · exact nomatch h
  · rename_i amount hamount
    split at h
    · rename_i hm
      cases h
      obtain ⟨hvalue, name, hcurrency, hcode⟩ := Money.of_eq_ok hm
      exact ⟨amount, name, m, hamount, hcurrency, hcode, m.parse_decimal, hvalue⟩
    · split at h
      · exact nomatch h
      · exact nomatch h

theorem Money.of_refused {amount currency : Given}
    (h : (∀ k ≤ Number.maxSafe, amount ≠ some (.number (.ofInt k))) ∨
      ∃ name, currency = some (.text name) ∧ Currency.named? name = none) :
    ∃ refusal, Money.of amount currency = .error refusal ∧ refusal.message ≠ none := by
  unfold Money.of
  cases hunits : Money.unitsOf amount with
  | error refusal => exact ⟨refusal, rfl, Money.unitsOf_reason hunits⟩
  | ok units =>
    rcases h with hvalue | ⟨name, rfl, hname⟩
    · exact absurd (Money.unitsOf_eq_ok hunits) (hvalue units.val units.property)
    · simp only [Money.currencyOf, hname]
      exact ⟨_, rfl, Option.some_ne_none _⟩

/-- A notice has no amount, or one whose value is not a whole number from zero up to the greatest
that is not rounded, or whose currency is the name of none. -/
def Notice.Moneyless (n : Notice) : Prop :=
  ∀ amount, n.amount = some amount →
    (∀ k ≤ Number.maxSafe, Members.get? amount "value" ≠ some (.number (.ofInt k))) ∨
      ∃ name, Members.get? amount "currency" = some (.text name) ∧ Currency.named? name = none

/-- A notice without money is malformed where its amount is needed. -/
theorem Notice.Moneyless.money_fatal (h : n.Moneyless) (operation : String) :
    ∃ f, n.money operation = .error f ∧ f.disposition = .fatal := by
  unfold Notice.money
  cases hamount : n.amount with
  | none => exact ⟨_, rfl, rfl⟩
  | some amount =>
    obtain ⟨refusal, hrefused, hreason⟩ := Money.of_refused (h amount hamount)
    obtain ⟨reason, hreason⟩ := Option.ne_none_iff_exists'.mp hreason
    simp only [hrefused, hreason]
    exact ⟨_, rfl, rfl⟩

/-! ## Purchases and chargebacks -/

theorem PropertyKey.name_injective : PropertyKey.name.Injective := by
  intro k k' h
  cases k <;> cases k' <;> first | rfl | exact absurd h (by decide)

theorem Notice.mem_purchaseProperties (n : Notice) (m : Money) (hosted : Bool) (key : PropertyKey)
    (value : Given) :
    ⟨key.name, value⟩ ∈ n.purchaseProperties m hosted ↔
      (key, some value) ∈ n.propertyValues m hosted := by
  simp only [purchaseProperties, List.mem_filterMap, Option.map_eq_some_iff, Property.mk.injEq,
    Prod.exists]
  constructor
  · rintro ⟨key', _, hmem, _, rfl, hkey, rfl⟩
    rwa [← PropertyKey.name_injective hkey]
  · exact fun hmem => ⟨key, some value, hmem, value, rfl, rfl, rfl⟩

theorem Notice.amount_property (n : Notice) (m : Money) (hosted : Bool) (value : Given) :
    ⟨PropertyKey.amount.name, value⟩ ∈ n.purchaseProperties m hosted ↔
      value = .text m.decimal := by
  rw [mem_purchaseProperties]
  simp [propertyValues]

theorem Notice.currency_property (n : Notice) (m : Money) (hosted : Bool) (value : Given) :
    ⟨PropertyKey.currency.name, value⟩ ∈ n.purchaseProperties m hosted ↔
      value = .text m.currency.code := by
  rw [mem_purchaseProperties]
  simp [propertyValues]

/-- A transaction of a kind, with an amount of money as it is written. -/
structure Transaction.Holds (t : Transaction) (kind : TransactionKind) (m : Money) : Prop where
  kind : t.kind = kind.given
  amount : t.amount = .text m.decimal
  currency : t.currency = .text m.currency.code

namespace Book

variable {b b' : Book} {account : Account} {context : CallContext} {payment : Payment}

theorem createPurchase_recorded {order : PurchaseOrder}
    (h : b.createPurchase account order context = (.ok payment, b')) :
    b'.findPayment payment.id = some payment ∧
      (∃ t id, payment.transactions = [t] ∧ t.id = some id ∧ t.Holds .purchase order.amount) ∧
      b'.purchases = b.purchases ++ [⟨account.id, order, context, payment.id⟩] := by
  obtain ⟨_, hr, -⟩ | ⟨hr, rfl⟩ := createPurchase_cases h
  · exact nomatch hr
  · cases hr
    exact ⟨(Keyed.find?_put _ _ _ _).trans (if_pos rfl), ⟨_, _, rfl, rfl, rfl, rfl, rfl⟩, rfl⟩

theorem createChargeback_recorded {order : ChargebackOrder}
    (h : b.createChargeback account order context = (.ok payment, b')) :
    ∃ p t, b.findPayment order.paymentId = some p ∧
      payment = { p with transactions := p.transactions ++ [t] } ∧
      b'.findPayment order.paymentId = some payment ∧ t.Holds .chargeback order.amount := by
  obtain ⟨_, ⟨_, hr, -⟩ | ⟨p, hfound, hr, rfl⟩⟩ := createChargeback_cases h
  · exact nomatch hr
  · cases hr
    exact ⟨p, _, hfound, rfl,
      (Keyed.find?_put _ _ _ _).trans (if_pos (Keyed.find?_eq_some _ hfound).2), rfl, rfl, rfl⟩

end Book

/-- The last purchase of a book is that of a notice: a payment with one transaction, which has the
amount that was sent, and with a bag that has the same. -/
def Notice.PaidInto (n : Notice) (ids : LedgerIds) (before after : Book) : Prop :=
  ∃ decimal code payment t record, n.Renders decimal code ∧
    after.findPayment ids.paymentId = some payment ∧ payment.transactions = [t] ∧
    t.id = ids.transactionId ∧ t.kind = TransactionKind.purchase.given ∧
    t.amount = .text decimal ∧ t.currency = .text code ∧
    after.purchases = before.purchases ++ [record] ∧ record.paymentId = ids.paymentId ∧
    (∀ value, ⟨PropertyKey.amount.name, value⟩ ∈ record.order.properties ↔
      value = .text decimal) ∧
    ∀ value, ⟨PropertyKey.currency.name, value⟩ ∈ record.order.properties ↔ value = .text code

/-- A payment of a book has one transaction more, the chargeback of a notice with the amount that
was sent. -/
def Notice.ChargedBackIn (n : Notice) (ids : LedgerIds) (before after : Book) : Prop :=
  ∃ decimal code payment t, n.Renders decimal code ∧
    before.findPayment ids.paymentId = some payment ∧
    after.findPayment ids.paymentId =
      some { payment with transactions := payment.transactions ++ [t] } ∧
    t.id = ids.transactionId ∧ t.kind = TransactionKind.chargeback.given ∧
    t.amount = .text decimal ∧ t.currency = .text code

theorem Course.paidInto {found : Finding} {ids : LedgerIds}
    (h : Course p n w found (.ok (.paid ids)) w') : n.PaidInto ids w.book w'.book := by
  generalize hresult : (Except.ok (.paid ids) : Except Failure Outcome) = result at h
  cases h with
  | failed => exact nomatch hresult
  | nothing => exact nomatch hresult
  | noAccount _ _ => exact nomatch hresult
  | @disputed _ _ _ made _ _ _ => cases made <;> exact nomatch hresult
  | @transaction _ _ _ made _ _ _ => cases made <;> exact nomatch hresult
  | account ha hp =>
    obtain ⟨rfl, -⟩ := Book.getAccount_cases ha
    cases hp with
    | noMoney _ => exact nomatch hresult
    | noMethods _ _ => exact nomatch hresult
    | noMethod _ _ _ => exact nomatch hresult
    | ordered hm hl _ ho =>
      obtain ⟨rfl, -⟩ := Book.listPaymentMethods_cases hl
      cases ho with
      | refused _ => exact nomatch hresult
      | unfinished _ _ => exact nomatch hresult
      | recorded hc _ =>
        obtain ⟨hfound, ⟨t, id, hts, hid, ht⟩, hpurchases⟩ := Book.createPurchase_recorded hc
        cases hresult
        refine ⟨_, _, _, t, _, Notice.money_renders hm, hfound, hts, ?_, ht.kind, ht.amount,
          ht.currency, hpurchases, rfl, n.amount_property _ _, n.currency_property _ _⟩
        rw [paidIds, hts, List.head?_cons, Option.bind_some, hid]
        rfl

theorem Course.chargedBackIn {found : Finding} {ids : LedgerIds}
    (h : Course p n w found (.ok (.chargedBack ids)) w') : n.ChargedBackIn ids w.book w'.book := by
  generalize hresult : (Except.ok (.chargedBack ids) : Except Failure Outcome) = result at h
  cases h with
  | failed => exact nomatch hresult
  | nothing => exact nomatch hresult
  | noAccount _ _ => exact nomatch hresult
  | @account _ _ _ made _ _ _ => cases made <;> exact nomatch hresult
  | @transaction _ _ _ made _ _ _ => cases made <;> exact nomatch hresult
  | disputed ha hc =>
    obtain ⟨rfl, -⟩ := Book.getAccount_cases ha
    cases hc with
    | noMoney _ => exact nomatch hresult
    | refused _ _ => exact nomatch hresult
    | recorded hm hc =>
      obtain ⟨payment, t, hbefore, rfl, hafter, ht⟩ := Book.createChargeback_recorded hc
      cases hresult
      refine ⟨_, _, payment, t, Notice.money_renders hm, hbefore, hafter, ?_, ht.kind, ht.amount,
        ht.currency⟩
      rw [chargedBackIds, lastChargeback_append payment ht.kind]
      rfl

/-! ## Notices without money -/

/-- No purchase and no chargeback was recorded, or asked for. -/
structure Book.RecordsNothing (b b' : Book) : Prop where
  calls : ∃ made, b'.calls = b.calls ++ made ∧ LedgerOperation.createPurchase ∉ made ∧
    LedgerOperation.createChargeback ∉ made
  paymentCount : b'.paymentCount = b.paymentCount
  transactionCount : b'.transactionCount = b.transactionCount
  purchases : b'.purchases = b.purchases
  chargebacks : b'.chargebacks = b.chargebacks
  paymentIds : b'.paymentIds = b.paymentIds
  transactionIds : b'.transactionIds = b.transactionIds

namespace Book

variable {b b' : Book} {account : Account} {context : CallContext}

theorem RecordsNothing.refl (b : Book) : b.RecordsNothing b :=
  ⟨⟨[], (List.append_nil _).symm, nofun, nofun⟩, rfl, rfl, rfl, rfl, rfl, rfl⟩

theorem RecordsNothing.trans {b₁ : Book} (h : b.RecordsNothing b₁) (h' : b₁.RecordsNothing b') :
    b.RecordsNothing b' := by
  obtain ⟨made, hcalls, hp, hc⟩ := h.calls
  obtain ⟨made', hcalls', hp', hc'⟩ := h'.calls
  refine ⟨⟨made ++ made', ?_, ?_, ?_⟩, h'.paymentCount.trans h.paymentCount,
    h'.transactionCount.trans h.transactionCount, h'.purchases.trans h.purchases,
    h'.chargebacks.trans h.chargebacks, h'.paymentIds.trans h.paymentIds,
    h'.transactionIds.trans h.transactionIds⟩
  · rw [hcalls', hcalls, List.append_assoc]
  · exact fun hm => (List.mem_append.mp hm).elim hp hp'
  · exact fun hm => (List.mem_append.mp hm).elim hc hc'

theorem getAccount_recordsNothing {id : Given} {r : Except Failure Account}
    (h : b.getAccount id = (r, b')) : b.RecordsNothing b' := by
  obtain ⟨rfl, -⟩ := getAccount_cases h
  exact ⟨⟨[_], rfl, by decide, by decide⟩, rfl, rfl, rfl, rfl, rfl, rfl⟩

theorem changeFirst_ids (id success : Given) (ts : List Transaction) :
    (changeFirst id (settleOpen success) ts).map Transaction.id = ts.map Transaction.id := by
  induction ts with
  | nil => rfl
  | cons t ts ih =>
    rw [changeFirst]
    split
    · rw [List.map_cons, settleOpen_id, List.map_cons]
    · rw [List.map_cons, ih, List.map_cons]

theorem settleFirst_ids (id success : Given) (ps : List Payment) :
    (settleFirst id success ps).map (fun p => (p.id, p.transactions.map Transaction.id)) =
      ps.map fun p => (p.id, p.transactions.map Transaction.id) := by
  induction ps with
  | nil => rfl
  | cons p ps ih =>
    rw [settleFirst]
    split
    · rw [List.map_cons, settleIn, changeFirst_ids, List.map_cons]
    · rw [List.map_cons, ih, List.map_cons]

theorem reportState_recordsNothing {id success : Given} {r : Except Failure Payment}
    (h : b.reportState account id success context = (r, b')) : b.RecordsNothing b' := by
  have hids : b'.payments.map (fun p => (p.id, p.transactions.map Transaction.id)) =
      b.payments.map fun p => (p.id, p.transactions.map Transaction.id) := by
    rw [reportState_payments h]
    split
    · rfl
    · exact settleFirst_ids id success b.payments
  have hpayments := congrArg (List.map Prod.fst) hids
  have htransactions := congrArg (List.flatMap Prod.snd) hids
  simp only [List.map_map, List.flatMap_map] at hpayments htransactions
  obtain ⟨records, ⟨f, -, -, rfl⟩ | ⟨p, t, -, -, -, rfl⟩⟩ := reportState_cases h
  · exact ⟨⟨[_], rfl, by decide, by decide⟩, rfl, rfl, rfl, rfl, hpayments, htransactions⟩
  · exact ⟨⟨[_], rfl, by decide, by decide⟩, rfl, rfl, rfl, rfl, hpayments, htransactions⟩

end Book

/-- A notice without money records nothing, and is neither paid nor charged back. -/
theorem Course.moneyless {found : Finding} {result : Except Failure Outcome}
    (h : Course p n w found result w') (hn : n.Moneyless) :
    w.book.RecordsNothing w'.book ∧
      ∀ ids, result ≠ .ok (.paid ids) ∧ result ≠ .ok (.chargedBack ids) := by
  cases h with
  | failed => exact ⟨.refl _, fun _ => ⟨nofun, nofun⟩⟩
  | nothing => exact ⟨.refl _, fun _ => ⟨nofun, nofun⟩⟩
  | noAccount _ ha => exact ⟨Book.getAccount_recordsNothing ha, fun _ => ⟨nofun, nofun⟩⟩
  | disputed ha hc =>
    -- the account was asked for, and the amount is looked at before anything is recorded
    obtain ⟨f, hm, -⟩ := hn.money_fatal LedgerOperation.createChargeback.name
    obtain ⟨rfl, rfl⟩ := hc.of_no_money hm
    exact ⟨Book.getAccount_recordsNothing ha, fun _ => ⟨nofun, nofun⟩⟩
  | account ha hp =>
    obtain ⟨f, hm, -⟩ := hn.money_fatal LedgerOperation.createPurchase.name
    obtain ⟨rfl, rfl⟩ := hp.of_no_money hm
    exact ⟨Book.getAccount_recordsNothing ha, fun _ => ⟨nofun, nofun⟩⟩
  | @transaction _ _ _ result _ ha hu =>
    refine ⟨(Book.getAccount_recordsNothing ha).trans ?_, fun _ => ?_⟩
    · cases hu with
      | notStored _ => exact .refl _
      | stored _ hr =>
        cases hr with
        | refused hr _ => exact Book.reportState_recordsNothing hr
        | notOpen hr _ => exact Book.reportState_recordsNothing hr
        | applied hr => exact Book.reportState_recordsNothing hr
    · cases result with
      | error f => exact ⟨nofun, nofun⟩
      | ok open? => exact ⟨nofun, nofun⟩

/-- The delivery of a notice comes to its amount: the notice is to be charged back or to be paid,
and its account is found. -/
def Bench.ComesToAmount (w : Bench) (n : Notice) : Prop :=
  ((∃ earlier, Finding.of w.store n = .disputed earlier) ∨
      ∃ c, Finding.of w.store n = .account c) ∧
    ∃ id account, (Finding.of w.store n).accountId? = some id ∧
      (w.book.getAccount id).1 = .ok account

/-- There it ends, if the amount is no money. -/
theorem Course.malformed {result : Except Failure Outcome}
    (h : Course p n w (Finding.of w.store n) result w') (hn : n.Moneyless)
    (hw : w.ComesToAmount n) : ∃ f, result = .error f ∧ f.disposition = .fatal := by
  obtain ⟨hfound, id, account, hid, haccount⟩ := hw
  generalize Finding.of w.store n = found at h hfound hid
  cases h with
  | failed => exact nomatch hid
  | nothing => exact nomatch hid
  | noAccount hid' ha =>
    cases hid.symm.trans hid'
    rw [ha] at haccount
    exact nomatch haccount
  | disputed _ hc =>
    obtain ⟨f, hm, hf⟩ := hn.money_fatal LedgerOperation.createChargeback.name
    obtain ⟨rfl, -⟩ := hc.of_no_money hm
    exact ⟨f, rfl, hf⟩
  | account _ hp =>
    obtain ⟨f, hm, hf⟩ := hn.money_fatal LedgerOperation.createPurchase.name
    obtain ⟨rfl, -⟩ := hp.of_no_money hm
    exact ⟨f, rfl, hf⟩
  | transaction _ _ =>
    rcases hfound with ⟨_, h⟩ | ⟨_, h⟩
    · exact nomatch h
    · exact nomatch h

/-! ## Deliveries -/

/-- A notice was accepted as malformed, and is not to be delivered again. -/
structure Receipt.Drops (r : Receipt) : Prop where
  signal : r.signal = ⟨true, false⟩
  fate : r.fate = .malformed
  result : ∃ f, r.result = .error f ∧ f.disposition = .fatal

theorem receiptOf_drops (n : Notice) {f : Failure} (hf : f.disposition = .fatal) :
    (receiptOf n (.error f)).Drops := by
  cases f with
  | malformed message operation cause => exact ⟨rfl, rfl, _, rfl, rfl⟩
  | _ => exact nomatch hf

/-- **Amounts.** A delivery that tells of a purchase or of a chargeback has recorded the amount that
was sent, in the spelling of its currency and with the places of it. A notice without money records
neither; where its amount is needed, and the journal works, it is dropped as malformed. -/
theorem process_money {r : Reconciler} (hr : r.Articulate) (n : Notice) {w : Bench}
    {d : Desk} (hd : w.On d) :
    ∃ (receipt : Receipt) (d' : Desk) (w' : Bench), r.process n d = (.ok receipt, d') ∧ w'.On d' ∧
      (∀ ids, receipt.result = .ok (.paid ids) → n.PaidInto ids w.book w'.book) ∧
      (∀ ids, receipt.result = .ok (.chargedBack ids) → n.ChargedBackIn ids w.book w'.book) ∧
      (n.Moneyless → w.book.RecordsNothing w'.book ∧
        (∀ ids, receipt.result ≠ .ok (.paid ids) ∧ receipt.result ≠ .ok (.chargedBack ids)) ∧
        (w.ComesToAmount n → w.store.enter .appendJournal = .ok () → receipt.Drops)) := by
  obtain ⟨receipt, d', w', hrun, hd', hdelivered⟩ := Reconciler.process_delivered hr n hd
  obtain ⟨result, w₁, hc, hbook, hresult⟩ := hdelivered.result
  refine ⟨receipt, d', w', hrun, hd', fun ids hids => ?_, fun ids hids => ?_,
    fun hn => ⟨?_, fun ids => ⟨?_, ?_⟩, ?_⟩⟩
  · rw [hbook]
    exact (hresult _ hids ▸ hc).paidInto
  · rw [hbook]
    exact (hresult _ hids ▸ hc).chargedBackIn
  · rw [hbook]
    exact (hc.moneyless hn).1
  · exact fun hids => ((hc.moneyless hn).2 ids).1 (hresult _ hids)
  · exact fun hids => ((hc.moneyless hn).2 ids).2 (hresult _ hids)
  · intro hneeds hj
    obtain ⟨result, w₁, hc, hreceipt, -⟩ := hdelivered.of_ok hj
    obtain ⟨f, rfl, hf⟩ := hc.malformed hn hneeds
    rw [hreceipt]
    exact receiptOf_drops n hf

namespace Sample

/-- The order is known, and nothing is paid for it yet. -/
def ordered : Bench :=
  { bench with
    store.pendingRequests :=
      [{ merchantReference := .text "order-2"
         accountId := .text "account-1"
         tenantId := .text "tenant-1"
         paymentId := .null
         transactionId := .null
         additionalData := .object []
         createdAt := ⟨0⟩ }] }

def orderUnpriced : Notice :=
  { orderPaid with amount := none }

def orderIds : LedgerIds where
  accountId := .text "account-1"
  tenantId := .text "tenant-1"
  paymentId := .text "payment-2"
  transactionId := .text "transaction-2"

def disputeIds : LedgerIds where
  accountId := .text "account-1"
  tenantId := .text "tenant-1"
  paymentId := .text "payment-1"
  transactionId := .text "transaction-2"

end Sample

/-- An order is paid, an operation is charged back, and an order without an amount is dropped. -/
theorem process_money_sample :
    (∃ w' : Bench, w'.On (Sample.reconciler.process Sample.orderPaid Sample.ordered.desk).2 ∧
      Sample.orderPaid.PaidInto Sample.orderIds Sample.book w'.book) ∧
    (∃ w' : Bench, w'.On (Sample.reconciler.process Sample.dispute Sample.bench.desk).2 ∧
      Sample.dispute.ChargedBackIn Sample.disputeIds Sample.book w'.book) ∧
    ∃ receipt, (Sample.reconciler.process Sample.orderUnpriced Sample.ordered.desk).1 =
      .ok receipt ∧ receipt.Drops := by
  refine ⟨?_, ?_, ?_⟩
  · obtain ⟨receipt, d', w', hrun, hd, hpaid, -⟩ :=
      process_money Sample.articulate Sample.orderPaid Sample.ordered.on_desk
    have hresult : (Sample.reconciler.process Sample.orderPaid Sample.ordered.desk).1.map
      Receipt.result = .ok (.ok (.paid Sample.orderIds)) := rfl
    rw [hrun] at hresult ⊢
    exact ⟨w', hd, hpaid _ (Except.ok.inj hresult)⟩
  · obtain ⟨receipt, d', w', hrun, hd, -, hcharged, -⟩ :=
      process_money Sample.articulate Sample.dispute Sample.bench.on_desk
    have hresult : (Sample.reconciler.process Sample.dispute Sample.bench.desk).1.map
      Receipt.result = .ok (.ok (.chargedBack Sample.disputeIds)) := rfl
    rw [hrun] at hresult ⊢
    exact ⟨w', hd, hcharged _ (Except.ok.inj hresult)⟩
  · obtain ⟨receipt, d', _, hrun, -, -, -, hdrops⟩ :=
      process_money Sample.articulate Sample.orderUnpriced Sample.ordered.on_desk
    have hneeds : Sample.ordered.ComesToAmount Sample.orderUnpriced :=
      ⟨.inr ⟨_, rfl⟩, .text "account-1", _, rfl, rfl⟩
    rw [hrun]
    exact ⟨receipt, rfl, (hdrops nofun).2.2 hneeds rfl⟩

end NoticeLedger
