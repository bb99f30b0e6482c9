import NoticeLedger.Delivery.Correlation
import NoticeLedger.Delivery.Journal
import NoticeLedger.Notice.Reader

/-!
# NoticeLedger.Delivery.Chargeback

Chargebacks, which are recorded on the payment of the operation that they dispute.

* `chargeBack` — tries to record a chargeback.
* `handleChargeback` — the same, journaled.

A chargeback always adds a transaction and never changes one.
-/

namespace NoticeLedger.Delivery

def contextOf (tenantId : Given) (userName : String) (now : Instant) : CallContext where
  tenantId := tenantId
  userName := .text userName
  createdAt := now

def findAccount (id : Given) (context : CallContext) : Action Account :=
  guarded LedgerOperation.getAccount.name [] (Desk.getAccount id context)

/-- The response to the operation that a chargeback disputes, if the notice names one and it is
stored. -/
def earlierOf (n : Notice) : Action (Option StoredResponse) :=
  if n.earlierReference = .null then pure none else resolveEarlier (some n.earlierReference)

def createChargeback (n : Notice) (earlier : StoredResponse) (context : CallContext) :
    Action Payment := do
  let account ← findAccount earlier.accountId context
  let amount ← ExceptT.mk (pure (n.money LedgerOperation.createChargeback.name))
  guarded LedgerOperation.createChargeback.name []
    (Desk.createChargeback account ⟨earlier.paymentId, amount, some n.reason⟩ context)

/-- The chargeback that a payment ends with. -/
def lastChargeback (p : Payment) : Option Transaction :=
  p.transactions.getLast?.filter (·.kind == TransactionKind.chargeback.given)

def chargeBack (userName : String) (n : Notice) : StateM Desk Attempt := do
  match ← (earlierOf n).run with
  | .error f => pure { result := .error f }
  | .ok none =>
    Desk.note .chargebacks .warning
      s!"No original operation for chargeback {n.describe}, journaling only"
    pure { result := .ok .journaledOnly }
  | .ok (some earlier) =>
    let ids : LedgerIds :=
      { accountId := earlier.accountId
        tenantId := earlier.tenantId
        paymentId := earlier.paymentId }
    let context := contextOf earlier.tenantId userName (← get).now
    match ← (createChargeback n earlier context).run with
    | .error f => pure { ids := ids, result := .error f }
    | .ok payment =>
      match lastChargeback payment with
      | some t =>
        let ids := { ids with transactionId := t.id }
        pure { ids := ids, result := .ok (.chargedBack ids) }
      | none =>
        Desk.note .chargebacks .warning
          s!"Chargeback on payment {payment.id.display} did not return a chargeback transaction"
        pure { ids := ids, result := .ok (.chargedBack ids) }

def handleChargeback (userName : String) (n : Notice) : Action Outcome :=
  journaled (some .chargeback) n (chargeBack userName n)

end NoticeLedger.Delivery
