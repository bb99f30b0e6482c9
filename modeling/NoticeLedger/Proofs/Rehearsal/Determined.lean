import NoticeLedger.Proofs.Ledger.Accounting

/-!
# NoticeLedger.Proofs.Rehearsal.Determined

A delivery goes the way that the answers of the store and of the ledger determine.

For each relation of `Course` there is one statement for each thing that the next step depends on:
given that answer, the result and the bench are known, or the work goes on in one way. From these it
follows that there is one way only: `Course.unique`.
-/

namespace NoticeLedger

variable {p : Delivery.Profile} {n : Notice} {w w' : Bench} {account : Account}
  {context : CallContext} {b : Book} {f : Failure} {amount : Money}

/-! ## Chargebacks -/

theorem ChargingBack.of_no_money {earlier : StoredResponse} {result : Except Failure Payment}
    (h : ChargingBack n earlier account context w result w')
    (hm : n.money LedgerOperation.createChargeback.name = .error f) :
    result = .error f ∧ w' = w := by
  cases h with
  | noMoney hm' =>
    cases hm'.symm.trans hm
    exact ⟨rfl, rfl⟩
  | refused hm' _ => exact nomatch hm'.symm.trans hm
  | recorded hm' _ => exact nomatch hm'.symm.trans hm

theorem ChargingBack.of_answer {earlier : StoredResponse} {result answer : Except Failure Payment}
    (h : ChargingBack n earlier account context w result w')
    (hm : n.money LedgerOperation.createChargeback.name = .ok amount)
    (hc : w.book.createChargeback account (n.chargebackOrder earlier amount) context =
      (answer, b)) :
    result = answer.mapError (Failure.wrap LedgerOperation.createChargeback.name []) ∧
      w' = { w with book := b } := by
  cases h with
  | noMoney hm' => exact nomatch hm'.symm.trans hm
  | refused hm' hc' =>
    cases hm'.symm.trans hm
    cases hc'.symm.trans hc
    exact ⟨rfl, rfl⟩
  | recorded hm' hc' =>
    cases hm'.symm.trans hm
    cases hc'.symm.trans hc
    exact ⟨rfl, rfl⟩

/-! ## Updates -/

/-- What the report of a state comes to, by the answer of the ledger. -/
def reported (answer : Except Failure Payment) : Except Failure Bool :=
  match answer with
  | .ok _ => .ok true
  | .error f =>
    let f := Failure.wrap LedgerOperation.reportState.name [PlatformCode.notPending] f
    if f.disposition = .benign then .ok false else .error f

theorem Reporting.of_answer {c : Correlation} {result : Except Failure Bool}
    {answer : Except Failure Payment} (h : Reporting n c account context w result w')
    (hs : w.book.reportState account c.transactionId (some n.reportedSuccess) context =
      (answer, b)) :
    result = reported answer ∧ w' = { w with book := b } := by
  cases h with
  | refused hs' hf =>
    cases hs'.symm.trans hs
    exact ⟨(if_neg hf).symm, rfl⟩
  | notOpen hs' hf =>
    cases hs'.symm.trans hs
    exact ⟨(if_pos hf).symm, rfl⟩
  | applied hs' =>
    cases hs'.symm.trans hs
    exact ⟨rfl, rfl⟩

theorem Updating.of_error {c : Correlation} {result : Except Failure Bool}
    (h : Updating n c account context w result w')
    (hs : w.store.updateMetadata w.now c.transactionId (n.responseProperties c.isHosted)
      c.tenantId = .error f) :
    result = .error (Failure.wrap StoreOperation.updateMetadata.name [] f) ∧ w' = w := by
  cases h with
  | notStored hs' =>
    cases hs'.symm.trans hs
    exact ⟨rfl, rfl⟩
  | stored hs' _ => exact nomatch hs'.symm.trans hs

theorem Updating.of_ok {c : Correlation} {result : Except Failure Bool} {s : MemoryStore}
    (h : Updating n c account context w result w')
    (hs : w.store.updateMetadata w.now c.transactionId (n.responseProperties c.isHosted)
      c.tenantId = .ok s) :
    Reporting n c account context { w with store := s } result w' := by
  cases h with
  | notStored hs' => exact nomatch hs'.symm.trans hs
  | stored hs' hr =>
    cases hs'.symm.trans hs
    exact hr

/-! ## Purchases -/

theorem Ordering.of_refused {order : PurchaseOrder} {result : Except Failure Payment}
    (h : Ordering account order context w result w')
    (hc : w.book.createPurchase account order context = (.error f, b)) :
    result = .error (Failure.wrap LedgerOperation.createPurchase.name [] f) ∧
      w' = { w with book := b } := by
  cases h with
  | refused hc' =>
    cases hc'.symm.trans hc
    exact ⟨rfl, rfl⟩
  | unfinished hc' _ => exact nomatch hc'.symm.trans hc
  | recorded hc' _ => exact nomatch hc'.symm.trans hc

/-- Once the purchase is recorded, an order comes to what the hook comes to. -/
theorem Ordering.of_hook {order : PurchaseOrder} {result : Except Failure Payment}
    {payment : Payment} {fate : Except Failure Unit} {s : MemoryStore}
    (h : Ordering account order context w result w')
    (hc : w.book.createPurchase account order context = (.ok payment, b))
    (ha : w.afterPurchase payment context = (fate, s)) :
    result = (fate.map fun _ => payment).mapError
        (Failure.wrap LedgerOperation.createPurchase.name []) ∧
      w' = { w with store := s, book := b } := by
  cases h with
  | refused hc' => exact nomatch hc'.symm.trans hc
  | unfinished hc' ha' =>
    cases hc'.symm.trans hc
    cases ha'.symm.trans ha
    exact ⟨rfl, rfl⟩
  | recorded hc' ha' =>
    cases hc'.symm.trans hc
    cases ha'.symm.trans ha
    exact ⟨rfl, rfl⟩

/-- Without a hook, an order comes to what the ledger answers. -/
theorem Ordering.of_answer {order : PurchaseOrder} {result answer : Except Failure Payment}
    (h : Ordering account order context w result w') (hh : w.hook = {})
    (hc : w.book.createPurchase account order context = (answer, b)) :
    result = answer.mapError (Failure.wrap LedgerOperation.createPurchase.name []) ∧
      w' = { w with book := b } := by
  cases answer with
  | error f => exact h.of_refused hc
  | ok payment => exact h.of_hook hc (Bench.afterPurchase_of_no_hook hh _ _)

/-- The failure of an account without a payment method of the profile's plugin. -/
def Delivery.Profile.noMethod (p : Delivery.Profile) (account : Account) : Failure :=
  .retryable s!"No {p.pluginName} payment method for account {account.id.display}"
    (some LedgerOperation.listPaymentMethods.name) none

theorem Purchasing.of_no_money {c : Correlation} {result : Except Failure Payment}
    (h : Purchasing p n c account context w result w')
    (hm : n.money LedgerOperation.createPurchase.name = .error f) :
    result = .error f ∧ w' = w := by
  cases h with
  | noMoney hm' =>
    cases hm'.symm.trans hm
    exact ⟨rfl, rfl⟩
  | noMethods hm' _ => exact nomatch hm'.symm.trans hm
  | noMethod hm' _ _ => exact nomatch hm'.symm.trans hm
  | ordered hm' _ _ _ => exact nomatch hm'.symm.trans hm

theorem Purchasing.of_no_methods {c : Correlation} {result : Except Failure Payment}
    (h : Purchasing p n c account context w result w')
    (hm : n.money LedgerOperation.createPurchase.name = .ok amount)
    (hl : w.book.listPaymentMethods account.id = (.error f, b)) :
    result = .error (Failure.wrap LedgerOperation.listPaymentMethods.name [] f) ∧
      w' = { w with book := b } := by
  cases h with
  | noMoney hm' => exact nomatch hm'.symm.trans hm
  | noMethods _ hl' =>
    cases hl'.symm.trans hl
    exact ⟨rfl, rfl⟩
  | noMethod _ hl' _ => exact nomatch hl'.symm.trans hl
  | ordered _ hl' _ _ => exact nomatch hl'.symm.trans hl

theorem Purchasing.of_no_method {c : Correlation} {result : Except Failure Payment}
    {methods : List PaymentMethod} (h : Purchasing p n c account context w result w')
    (hm : n.money LedgerOperation.createPurchase.name = .ok amount)
    (hl : w.book.listPaymentMethods account.id = (.ok methods, b))
    (hf : methods.find? (·.pluginName == .text p.pluginName) = none) :
    result = .error (p.noMethod account) ∧ w' = { w with book := b } := by
  cases h with
  | noMoney hm' => exact nomatch hm'.symm.trans hm
  | noMethods _ hl' => exact nomatch hl'.symm.trans hl
  | noMethod _ hl' _ =>
    cases hl'.symm.trans hl
    exact ⟨rfl, rfl⟩
  | ordered _ hl' hf' _ =>
    cases hl'.symm.trans hl
    exact nomatch hf'.symm.trans hf

theorem Purchasing.of_method {c : Correlation} {result : Except Failure Payment}
    {methods : List PaymentMethod} {method : PaymentMethod}
    (h : Purchasing p n c account context w result w')
    (hm : n.money LedgerOperation.createPurchase.name = .ok amount)
    (hl : w.book.listPaymentMethods account.id = (.ok methods, b))
    (hf : methods.find? (·.pluginName == .text p.pluginName) = some method) :
    Ordering account (n.purchaseOrder c amount method) context { w with book := b } result w' := by
  cases h with
  | noMoney hm' => exact nomatch hm'.symm.trans hm
  | noMethods _ hl' => exact nomatch hl'.symm.trans hl
  | noMethod _ hl' hf' =>
    cases hl'.symm.trans hl
    exact nomatch hf'.symm.trans hf
  | ordered hm' hl' hf' ho =>
    cases hm'.symm.trans hm
    cases hl'.symm.trans hl
    cases hf'.symm.trans hf
    exact ho

/-! ## Courses -/

variable {result : Except Failure Outcome}

theorem Course.of_failed (h : Course p n w (.failed f) result w') :
    result = .error f ∧ w' = w := by
  cases h with
  | failed => exact ⟨rfl, rfl⟩
  | noAccount hid _ => exact nomatch hid

theorem Course.of_no_account {found : Finding} {id : Given} (h : Course p n w found result w')
    (hid : found.accountId? = some id) (ha : w.book.getAccount id = (.error f, b)) :
    result = .error (Failure.wrap LedgerOperation.getAccount.name [] f) ∧
      w' = { w with book := b } := by
  cases h with
  | failed => exact nomatch hid
  | nothing => exact nomatch hid
  | noAccount hid' ha' =>
    cases hid'.symm.trans hid
    cases ha'.symm.trans ha
    exact ⟨rfl, rfl⟩
  | disputed ha' _ =>
    cases hid
    exact nomatch ha'.symm.trans ha
  | transaction ha' _ =>
    cases hid
    exact nomatch ha'.symm.trans ha
  | account ha' _ =>
    cases hid
    exact nomatch ha'.symm.trans ha

theorem Course.of_disputed {earlier : StoredResponse}
    (h : Course p n w (.disputed earlier) result w')
    (ha : w.book.getAccount earlier.accountId = (.ok account, b)) :
    ∃ made, ChargingBack n earlier account (Delivery.contextOf earlier.tenantId p.userName w.now)
        { w with book := b } made w' ∧
      result = made.map fun payment => .chargedBack (chargedBackIds earlier payment) := by
  cases h with
  | noAccount hid ha' =>
    cases hid
    exact nomatch ha'.symm.trans ha
  | disputed ha' hc =>
    cases ha'.symm.trans ha
    exact ⟨_, hc, rfl⟩

theorem Course.of_transaction {c : Correlation} (h : Course p n w (.transaction c) result w')
    (ha : w.book.getAccount c.accountId = (.ok account, b)) :
    ∃ made, Updating n c account (Delivery.contextOf c.tenantId p.userName w.now)
        { w with book := b } made w' ∧
      result = made.map fun open? => .updated c.ids open? := by
  cases h with
  | noAccount hid ha' =>
    cases hid
    exact nomatch ha'.symm.trans ha
  | transaction ha' hu =>
    cases ha'.symm.trans ha
    exact ⟨_, hu, rfl⟩

theorem Course.of_account {c : Correlation} (h : Course p n w (.account c) result w')
    (ha : w.book.getAccount c.accountId = (.ok account, b)) :
    ∃ made, Purchasing p n c account (Delivery.contextOf c.tenantId p.userName w.now)
        { w with book := b } made w' ∧
      result = made.map fun payment => .paid (Delivery.paidIds c payment) := by
  cases h with
  | noAccount hid ha' =>
    cases hid
    exact nomatch ha'.symm.trans ha
  | account ha' hp =>
    cases ha'.symm.trans ha
    exact ⟨_, hp, rfl⟩

/-! ## One way -/

theorem ChargingBack.unique {earlier : StoredResponse} {r r₂ : Except Failure Payment} {u v : Bench}
    (h : ChargingBack n earlier account context w r u)
    (h₂ : ChargingBack n earlier account context w r₂ v) : r₂ = r ∧ v = u := by
  cases h with
  | noMoney hm => exact h₂.of_no_money hm
  | refused hm hc => exact h₂.of_answer hm hc
  | recorded hm hc => exact h₂.of_answer hm hc

theorem Reporting.unique {c : Correlation} {r r₂ : Except Failure Bool} {u v : Bench}
    (h : Reporting n c account context w r u) (h₂ : Reporting n c account context w r₂ v) :
    r₂ = r ∧ v = u := by
  rcases hs : w.book.reportState account c.transactionId (some n.reportedSuccess) context with
    ⟨answer, b⟩
  obtain ⟨rfl, rfl⟩ := h.of_answer hs
  exact h₂.of_answer hs

theorem Updating.unique {c : Correlation} {r r₂ : Except Failure Bool} {u v : Bench}
    (h : Updating n c account context w r u) (h₂ : Updating n c account context w r₂ v) :
    r₂ = r ∧ v = u := by
  cases h with
  | notStored hs => exact h₂.of_error hs
  | stored hs hr => exact hr.unique (h₂.of_ok hs)

theorem Ordering.unique {order : PurchaseOrder} {r r₂ : Except Failure Payment} {u v : Bench}
    (h : Ordering account order context w r u) (h₂ : Ordering account order context w r₂ v) :
    r₂ = r ∧ v = u := by
  cases h with
  | refused hc => exact h₂.of_refused hc
  | unfinished hc ha => exact h₂.of_hook hc ha
  | recorded hc ha => exact h₂.of_hook hc ha

theorem Purchasing.unique {c : Correlation} {r r₂ : Except Failure Payment} {u v : Bench}
    (h : Purchasing p n c account context w r u) (h₂ : Purchasing p n c account context w r₂ v) :
    r₂ = r ∧ v = u := by
  cases h with
  | noMoney hm => exact h₂.of_no_money hm
  | noMethods hm hl => exact h₂.of_no_methods hm hl
  | noMethod hm hl hf => exact h₂.of_no_method hm hl hf
  | ordered hm hl hf ho => exact ho.unique (h₂.of_method hm hl hf)

/-- What was found fixes what comes of it, and the bench that is left. -/
theorem Course.unique {found : Finding} {r r₂ : Except Failure Outcome} {u v : Bench}
    (h : Course p n w found r u) (h₂ : Course p n w found r₂ v) : r₂ = r ∧ v = u := by
  cases h with
  | failed => exact h₂.of_failed
  | nothing => exact h₂.of_nothing
  | noAccount hid ha => exact h₂.of_no_account hid ha
  | disputed ha hc =>
    obtain ⟨made, hc₂, rfl⟩ := h₂.of_disputed ha
    obtain ⟨rfl, rfl⟩ := hc.unique hc₂
    exact ⟨rfl, rfl⟩
  | transaction ha hu =>
    obtain ⟨made, hu₂, rfl⟩ := h₂.of_transaction ha
    obtain ⟨rfl, rfl⟩ := hu.unique hu₂
    exact ⟨rfl, rfl⟩
  | account ha hp =>
    obtain ⟨made, hp₂, rfl⟩ := h₂.of_account ha
    obtain ⟨rfl, rfl⟩ := hp.unique hp₂
    exact ⟨rfl, rfl⟩

end NoticeLedger
