import NoticeLedger.Delivery.Chargeback
import NoticeLedger.Notice.Properties

/-!
# NoticeLedger.Delivery.Reconcile

What a notice does to the ledger.

* `updateTransaction` — the transaction that a notice is about learns its state.
* `purchase` — a payment is recorded for a notice that is about none.
* `settle` — tries the one or the other, by what the notice is about.
* `reconcile` — the same, or a chargeback, journaled.
-/

namespace NoticeLedger.Delivery

/-- Whose payment methods are used, and as which user the platform is called. -/
structure Profile where
  pluginName : String
  userName : String

/-- Reports the state of a transaction; tells whether it was still open. -/
def reportState (n : Notice) (account : Account) (transactionId : Given)
    (context : CallContext) : Action Bool := do
  let report := guarded LedgerOperation.reportState.name [PlatformCode.notPending]
    (Desk.reportState account transactionId (some n.reportedSuccess) context)
  match ← resultOf report with
  | .ok _ => pure true
  | .error (.benign ..) =>
    Desk.note .engine .debug
      s!"Transaction {transactionId.display} was not pending, state left unchanged"
    pure false
  | .error f => throw f

/-- Updates the transaction that a notice is about: first the data stored for it, then its state
in the ledger. -/
def updateTransaction (n : Notice) (c : Correlation) (account : Account) (context : CallContext) :
    Action Outcome := do
  guarded StoreOperation.updateMetadata.name []
    (Desk.updateMetadata c.transactionId (n.responseProperties c.isHosted) c.tenantId)
  let applied ← reportState n account c.transactionId context
  pure (.updated c.ids applied)

def purchaseMethod (p : Profile) (account : Account) (context : CallContext) :
    Action PaymentMethod := do
  let methods ← guarded LedgerOperation.listPaymentMethods.name []
    (Desk.listPaymentMethods account.id context)
  match methods.find? (·.pluginName == .text p.pluginName) with
  | some method => pure method
  | none =>
    throw (.retryable s!"No {p.pluginName} payment method for account {account.id.display}"
      (some LedgerOperation.listPaymentMethods.name) none)

/-- The key of a purchase: the merchant's reference, or else the gateway's. -/
def externalKey (n : Notice) : Given :=
  if n.merchantReference = .null then n.pspReference else some n.merchantReference

def purchase (p : Profile) (n : Notice) (c : Correlation) (account : Account)
    (context : CallContext) : Action Payment := do
  let amount ← ExceptT.mk (pure (n.money LedgerOperation.createPurchase.name))
  let method ← purchaseMethod p account context
  let order : PurchaseOrder :=
    { paymentMethodId := method.id
      amount := amount
      externalKey := externalKey n
      transactionExternalKey := externalKey n
      properties := n.purchaseProperties amount c.isHosted }
  let payment ← guarded LedgerOperation.createPurchase.name []
    (Desk.createPurchase account order context)
  Desk.note .engine .info
    s!"Recorded purchase {payment.id.display} of {amount.text} for account {account.id.display}"
  pure payment

def paidIds (c : Correlation) (payment : Payment) : LedgerIds :=
  { c.ids with
    paymentId := payment.id
    transactionId := some (Given.orNull (payment.transactions.head?.bind Transaction.id)) }

def settle (p : Profile) (n : Notice) : StateM Desk Attempt := do
  match ← (resolve n).run with
  | .error f => pure { result := .error f }
  | .ok none =>
    Desk.note .engine .debug s!"No ledger entity for {n.describe}"
    pure { result := .ok .journaledOnly }
  | .ok (some c) =>
    let context := contextOf c.tenantId p.userName (← get).now
    match ← (findAccount c.accountId context).run with
    | .error f => pure { ids := c.ids, result := .error f }
    | .ok account =>
      if c.transactionId = .null then
        match ← (purchase p n c account context).run with
        | .error f => pure { ids := c.ids, result := .error f }
        | .ok payment =>
          let ids := paidIds c payment
          pure { ids := ids, result := .ok (.paid ids) }
      else
        let result ← (updateTransaction n c account context).run
        pure { ids := c.ids, result := result }

/-- Applies a notice to the ledger, and journals it. -/
def reconcile (p : Profile) (n : Notice) (classification : Classification) : Action Outcome :=
  if classification = some .chargeback then handleChargeback p.userName n
  else journaled (EventCode.journalIntent n.eventCode) n (settle p n)

end NoticeLedger.Delivery
