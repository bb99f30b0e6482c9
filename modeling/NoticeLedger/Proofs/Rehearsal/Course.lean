import NoticeLedger.Proofs.Rehearsal.Bench

/-!
# NoticeLedger.Proofs.Rehearsal.Course

How a delivery can go at a bench.

* `Finding` — what the records say about a notice: which entries of the ledger it is about, and
  what is to be done with them. `Finding.of` is the decision table of correlation.
* `ChargingBack`, `Updating`, `Purchasing` — the ways in which each kind of work can go, with the
  calls that are made, what they answer, and what they leave.
* `Course` — the ways in which what was found is acted on.
* `Delivered` — the ways in which a whole delivery can go: acted on, then journaled or not.
* `Deliveries` — deliveries one after another, each at the bench that the one before left.

Each relation has one rule for each way; that deliveries go no other way is `Reconciler.process_on`.
-/

namespace NoticeLedger

inductive Finding where
  /-- A look-up failed. -/
  | failed (failure : Failure)
  | nothing
  /-- The notice disputes an operation whose response is stored. -/
  | disputed (earlier : StoredResponse)
  /-- The notice is about a transaction. -/
  | transaction (c : Correlation)
  /-- The notice is about an account, and about no transaction yet. -/
  | account (c : Correlation)

namespace Finding

/-- A chargeback is about the response stored under its earlier reference, and about no hosted
request. -/
def ofEarlier (s : MemoryStore) (n : Notice) : Finding :=
  if n.earlierReference = .null then nothing
  else
    match s.getResponse (some n.earlierReference) with
    | .error f => failed (Failure.wrap StoreOperation.getResponse.name [] f)
    | .ok none => nothing
    | .ok (some r) => disputed r

def ofCorrelation (c : Correlation) : Finding :=
  if c.transactionId = .null then account c else transaction c

/-- Any other notice may be about the hosted request stored under the merchant's reference. -/
def ofRequest (s : MemoryStore) (n : Notice) : Finding :=
  if n.merchantReference = .null then nothing
  else
    match s.getPendingRequest (some n.merchantReference) with
    | .error f => failed (Failure.wrap StoreOperation.getPendingRequest.name [] f)
    | .ok none => nothing
    | .ok (some r) => ofCorrelation (.ofRequest r)

/-- The response stored under the gateway's own reference comes before any hosted request. -/
def ofReference (s : MemoryStore) (n : Notice) : Finding :=
  match s.getResponse n.pspReference with
  | .error f => failed (Failure.wrap StoreOperation.getResponse.name [] f)
  | .ok none => ofRequest s n
  | .ok (some r) => ofCorrelation (.ofResponse r)

def of (s : MemoryStore) (n : Notice) : Finding :=
  if n.classification = some .chargeback then ofEarlier s n
  else if EventCode.isReport n.eventCode then nothing
  else ofReference s n

/-- The entries that were found. No transaction of a chargeback or of a purchase is known before it
is made. -/
def ids : Finding → LedgerIds
  | failed _ => {}
  | nothing => {}
  | disputed r => { accountId := r.accountId, tenantId := r.tenantId, paymentId := r.paymentId }
  | transaction c => c.ids
  | account c => { c.ids with transactionId := .null }

/-- The entries that are journaled: those that something was done to, or else those found. -/
def idsAfter (found : Finding) : Except Failure Outcome → LedgerIds
  | .ok outcome => outcome.ids
  | .error _ => found.ids

def accountId? : Finding → Option Given
  | failed _ => none
  | nothing => none
  | disputed r => some r.accountId
  | transaction c => some c.accountId
  | account c => some c.accountId

theorem of_report {n : Notice} (h : EventCode.isReport n.eventCode = true) (s : MemoryStore) :
    of s n = nothing := by
  have hc : n.classification ≠ some .chargeback := by
    rw [Notice.classification, EventCode.classify_of_isReport h]
    exact nofun
  rw [of, if_neg hc, if_pos h]

end Finding

def Notice.purchaseOrder (n : Notice) (c : Correlation) (amount : Money) (method : PaymentMethod) :
    PurchaseOrder where
  paymentMethodId := method.id
  amount := amount
  externalKey := Delivery.externalKey n
  transactionExternalKey := Delivery.externalKey n
  properties := n.purchaseProperties amount c.isHosted

def Notice.chargebackOrder (n : Notice) (earlier : StoredResponse) (amount : Money) :
    ChargebackOrder where
  paymentId := earlier.paymentId
  amount := amount
  reason := some n.reason

/-- What the hook comes to after a purchase, and the records that it leaves. -/
def Bench.afterPurchase (w : Bench) (payment : Payment) (context : CallContext) :
    Except Failure Unit × MemoryStore :=
  let fate : Except Failure Unit :=
    match w.hook.failure with
    | some f => .error f
    | none => .ok ()
  match w.hook.save with
  | none => (fate, w.store)
  | some draft =>
    match w.store.saveResponse w.now (draft payment context) with
    | .error f => (.error f, w.store)
    | .ok (_, s) => (fate, s)

/-- How recording a chargeback can go, once the account is known. -/
inductive ChargingBack (n : Notice) (earlier : StoredResponse) (account : Account)
    (context : CallContext) (w : Bench) : Except Failure Payment → Bench → Prop where
  | noMoney {f : Failure} :
      n.money LedgerOperation.createChargeback.name = .error f →
      ChargingBack n earlier account context w (.error f) w
  | refused {amount : Money} {f : Failure} {b : Book} :
      n.money LedgerOperation.createChargeback.name = .ok amount →
      w.book.createChargeback account (n.chargebackOrder earlier amount) context =
        (.error f, b) →
      ChargingBack n earlier account context w
        (.error (Failure.wrap LedgerOperation.createChargeback.name [] f)) { w with book := b }
  | recorded {amount : Money} {payment : Payment} {b : Book} :
      n.money LedgerOperation.createChargeback.name = .ok amount →
      w.book.createChargeback account (n.chargebackOrder earlier amount) context =
        (.ok payment, b) →
      ChargingBack n earlier account context w (.ok payment) { w with book := b }

/-- How reporting the state of a transaction can go; the result tells whether it was still open. -/
inductive Reporting (n : Notice) (c : Correlation) (account : Account) (context : CallContext)
    (w : Bench) : Except Failure Bool → Bench → Prop where
  | refused {f : Failure} {b : Book} :
      w.book.reportState account c.transactionId (some n.reportedSuccess) context =
        (.error f, b) →
      (Failure.wrap LedgerOperation.reportState.name [PlatformCode.notPending] f).disposition ≠
        .benign →
      Reporting n c account context w
        (.error (Failure.wrap LedgerOperation.reportState.name [PlatformCode.notPending] f))
        { w with book := b }
  | notOpen {f : Failure} {b : Book} :
      w.book.reportState account c.transactionId (some n.reportedSuccess) context =
        (.error f, b) →
      (Failure.wrap LedgerOperation.reportState.name [PlatformCode.notPending] f).disposition =
        .benign →
      Reporting n c account context w (.ok false) { w with book := b }
  | applied {payment : Payment} {b : Book} :
      w.book.reportState account c.transactionId (some n.reportedSuccess) context =
        (.ok payment, b) →
      Reporting n c account context w (.ok true) { w with book := b }

/-- How updating a transaction can go: its data is changed before its state is reported. -/
inductive Updating (n : Notice) (c : Correlation) (account : Account) (context : CallContext)
    (w : Bench) : Except Failure Bool → Bench → Prop where
  | notStored {f : Failure} :
      w.store.updateMetadata w.now c.transactionId (n.responseProperties c.isHosted)
        c.tenantId = .error f →
      Updating n c account context w
        (.error (Failure.wrap StoreOperation.updateMetadata.name [] f)) w
  | stored {s : MemoryStore} {result : Except Failure Bool} {w' : Bench} :
      w.store.updateMetadata w.now c.transactionId (n.responseProperties c.isHosted)
        c.tenantId = .ok s →
      Reporting n c account context { w with store := s } result w' →
      Updating n c account context w result w'

/-- How placing the order of a purchase can go. The purchase stays recorded when the hook fails. -/
inductive Ordering (account : Account) (order : PurchaseOrder) (context : CallContext)
    (w : Bench) : Except Failure Payment → Bench → Prop where
  | refused {f : Failure} {b : Book} :
      w.book.createPurchase account order context = (.error f, b) →
      Ordering account order context w
        (.error (Failure.wrap LedgerOperation.createPurchase.name [] f)) { w with book := b }
  | unfinished {payment : Payment} {f : Failure} {b : Book} {s : MemoryStore} :
      w.book.createPurchase account order context = (.ok payment, b) →
      w.afterPurchase payment context = (.error f, s) →
      Ordering account order context w
        (.error (Failure.wrap LedgerOperation.createPurchase.name [] f))
        { w with store := s, book := b }
  | recorded {payment : Payment} {b : Book} {s : MemoryStore} :
      w.book.createPurchase account order context = (.ok payment, b) →
      w.afterPurchase payment context = (.ok (), s) →
      Ordering account order context w (.ok payment) { w with store := s, book := b }

/-- How recording a purchase can go, once the account is known. -/
inductive Purchasing (p : Delivery.Profile) (n : Notice) (c : Correlation) (account : Account)
    (context : CallContext) (w : Bench) : Except Failure Payment → Bench → Prop where
  | noMoney {f : Failure} :
      n.money LedgerOperation.createPurchase.name = .error f →
      Purchasing p n c account context w (.error f) w
  | noMethods {amount : Money} {f : Failure} {b : Book} :
      n.money LedgerOperation.createPurchase.name = .ok amount →
      w.book.listPaymentMethods account.id = (.error f, b) →
      Purchasing p n c account context w
        (.error (Failure.wrap LedgerOperation.listPaymentMethods.name [] f))
        { w with book := b }
  | noMethod {amount : Money} {methods : List PaymentMethod} {b : Book} :
      n.money LedgerOperation.createPurchase.name = .ok amount →
      w.book.listPaymentMethods account.id = (.ok methods, b) →
      methods.find? (·.pluginName == .text p.pluginName) = none →
      Purchasing p n c account context w
        (.error (.retryable
          s!"No {p.pluginName} payment method for account {account.id.display}"
          (some LedgerOperation.listPaymentMethods.name) none))
        { w with book := b }
  | ordered {amount : Money} {methods : List PaymentMethod} {method : PaymentMethod}
      {b : Book} {result : Except Failure Payment} {w' : Bench} :
      n.money LedgerOperation.createPurchase.name = .ok amount →
      w.book.listPaymentMethods account.id = (.ok methods, b) →
      methods.find? (·.pluginName == .text p.pluginName) = some method →
      Ordering account (n.purchaseOrder c amount method) context { w with book := b } result w' →
      Purchasing p n c account context w result w'

def chargedBackIds (earlier : StoredResponse) (payment : Payment) : LedgerIds :=
  { (Finding.disputed earlier).ids with
    transactionId := ((Delivery.lastChargeback payment).map Transaction.id).getD .null }

/-- How acting on what was found can go. -/
inductive Course (p : Delivery.Profile) (n : Notice) (w : Bench) :
    Finding → Except Failure Outcome → Bench → Prop where
  | failed {f : Failure} : Course p n w (.failed f) (.error f) w
  | nothing : Course p n w .nothing (.ok .journaledOnly) w
  | noAccount {found : Finding} {id : Given} {f : Failure} {b : Book} :
      found.accountId? = some id →
      w.book.getAccount id = (.error f, b) →
      Course p n w found (.error (Failure.wrap LedgerOperation.getAccount.name [] f))
        { w with book := b }
  | disputed {earlier : StoredResponse} {account : Account} {b : Book}
      {result : Except Failure Payment} {w' : Bench} :
      w.book.getAccount earlier.accountId = (.ok account, b) →
      ChargingBack n earlier account (Delivery.contextOf earlier.tenantId p.userName w.now)
        { w with book := b } result w' →
      Course p n w (.disputed earlier)
        (result.map fun payment => .chargedBack (chargedBackIds earlier payment)) w'
  | transaction {c : Correlation} {account : Account} {b : Book}
      {result : Except Failure Bool} {w' : Bench} :
      w.book.getAccount c.accountId = (.ok account, b) →
      Updating n c account (Delivery.contextOf c.tenantId p.userName w.now)
        { w with book := b } result w' →
      Course p n w (.transaction c) (result.map fun open? => .updated c.ids open?) w'
  | account {c : Correlation} {account : Account} {b : Book}
      {result : Except Failure Payment} {w' : Bench} :
      w.book.getAccount c.accountId = (.ok account, b) →
      Purchasing p n c account (Delivery.contextOf c.tenantId p.userName w.now)
        { w with book := b } result w' →
      Course p n w (.account c)
        (result.map fun payment => .paid (Delivery.paidIds c payment)) w'

/-- The outcomes that acting on what was found can have. -/
inductive Finding.Fits : Finding → Outcome → Prop where
  | nothing : Finding.Fits .nothing .journaledOnly
  | disputed {earlier : StoredResponse} {payment : Payment} :
      Finding.Fits (.disputed earlier) (.chargedBack (chargedBackIds earlier payment))
  | transaction {c : Correlation} {open? : Bool} :
      Finding.Fits (.transaction c) (.updated c.ids open?)
  | account {c : Correlation} {payment : Payment} :
      Finding.Fits (.account c) (.paid (Delivery.paidIds c payment))

theorem Course.of_nothing {p : Delivery.Profile} {n : Notice} {w w' : Bench}
    {result : Except Failure Outcome} (h : Course p n w .nothing result w') :
    result = .ok .journaledOnly ∧ w' = w := by
  cases h with
  | nothing => exact ⟨rfl, rfl⟩
  | noAccount hid _ => exact nomatch hid

theorem Course.fits {p : Delivery.Profile} {n : Notice} {w w' : Bench}
    {found : Finding} {result : Except Failure Outcome} {outcome : Outcome}
    (h : Course p n w found result w') (ho : result = .ok outcome) : found.Fits outcome := by
  cases h with
  | failed => exact nomatch ho
  | nothing =>
    cases ho
    exact .nothing
  | noAccount _ _ => exact nomatch ho
  | @disputed _ _ _ result _ _ _ =>
    cases result with
    | error f => exact nomatch ho
    | ok payment =>
      cases ho
      exact .disputed
  | @transaction _ _ _ result _ _ _ =>
    cases result with
    | error f => exact nomatch ho
    | ok open? =>
      cases ho
      exact .transaction
  | @account _ _ _ result _ _ _ =>
    cases result with
    | error f => exact nomatch ho
    | ok payment =>
      cases ho
      exact .account

def Notice.entry (n : Notice) (ids : LedgerIds) (now : Instant) : JournalEntry where
  ids := ids.filled
  transactionType := some (Intent.value (EventCode.journalIntent n.eventCode))
  notice := n
  recordedAt := now

def Bench.journaling (w : Bench) (e : JournalEntry) : Bench :=
  { w with store := { w.store with journal := w.store.journal ++ [e] } }

def Notice.unrecorded (n : Notice) (f : Failure) : Failure :=
  .retryable s!"Unable to record notification {n.describe}"
    (some StoreOperation.appendJournal.name) (some f)

/-- How a delivery can go: whatever came of the notice, it is journaled; if that fails, so does the
delivery. -/
inductive Delivered (p : Delivery.Profile) (n : Notice) (w : Bench) : Receipt → Bench → Prop where
  | journaled {result : Except Failure Outcome} {w' : Bench} :
      Course p n w (Finding.of w.store n) result w' →
      w'.store.enter .appendJournal = .ok () →
      Delivered p n w (Delivery.receiptOf n result)
        (w'.journaling (n.entry ((Finding.of w.store n).idsAfter result) w.now))
  | unrecorded {result : Except Failure Outcome} {w' : Bench} {f : Failure} :
      Course p n w (Finding.of w.store n) result w' →
      w'.store.enter .appendJournal = .error f →
      Delivered p n w (Delivery.receiptOf n (.error (n.unrecorded f))) w'

inductive Deliveries (p : Delivery.Profile) :
    List Notice → Bench → List Receipt → Bench → Prop where
  | nil {w : Bench} : Deliveries p [] w [] w
  | cons {n : Notice} {notices : List Notice} {r : Receipt} {receipts : List Receipt}
      {w w₁ w' : Bench} :
      Delivered p n w r w₁ →
      Deliveries p notices w₁ receipts w' →
      Deliveries p (n :: notices) w (r :: receipts) w'

end NoticeLedger
