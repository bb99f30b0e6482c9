import NoticeLedger.Delivery.Desk

/-!
# NoticeLedger.Delivery.Correlation

Which entries of the ledger a notice is about.

* `Correlation` — the account, the payment and the transaction that a notice was tied to.
* `resolve` — the response stored under the notice's own reference, or else the hosted request
  under the merchant's. Reports are tied to nothing.
* `resolveEarlier` — the response stored under the reference of an earlier operation.
-/

namespace NoticeLedger

/-- The kinds of record that a notice is tied by. -/
inductive Correlation.Source where
  | response
  | hostedRequest
  deriving DecidableEq, Repr

/-- The entries of the ledger that a notice is about. -/
structure Correlation where
  source : Correlation.Source
  accountId : Given
  tenantId : Given
  paymentId : Given
  transactionId : Given
  deriving DecidableEq

namespace Correlation

def ofResponse (r : StoredResponse) : Correlation where
  source := .response
  accountId := r.accountId
  tenantId := r.tenantId
  paymentId := r.paymentId
  transactionId := r.transactionId

def ofRequest (r : HostedRequest) : Correlation where
  source := .hostedRequest
  accountId := r.accountId
  tenantId := r.tenantId
  paymentId := r.paymentId
  transactionId := r.transactionId

def ids (c : Correlation) : LedgerIds where
  accountId := c.accountId
  tenantId := c.tenantId
  paymentId := c.paymentId
  transactionId := c.transactionId

/-- Whether a notice was tied by a payment started on the hosted page. -/
def isHosted (c : Correlation) : Bool :=
  c.source == .hostedRequest

end Correlation

namespace Delivery

def findResponse (ref : Given) : Action (Option StoredResponse) :=
  guarded StoreOperation.getResponse.name [] (Desk.getResponse ref)

def findPendingRequest (ref : Given) : Action (Option HostedRequest) :=
  guarded StoreOperation.getPendingRequest.name [] (Desk.getPendingRequest ref)

def resolve (n : Notice) : Action (Option Correlation) := do
  if EventCode.isReport n.eventCode then pure none
  else
    match ← findResponse n.pspReference with
    | some response => pure (some (.ofResponse response))
    | none =>
      if n.merchantReference = .null then pure none
      else pure ((← findPendingRequest (some n.merchantReference)).map .ofRequest)

def resolveEarlier (ref : Given) : Action (Option StoredResponse) :=
  findResponse ref

end Delivery

end NoticeLedger
