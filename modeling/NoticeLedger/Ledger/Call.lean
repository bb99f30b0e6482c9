import NoticeLedger.Ledger.Basic

/-!
# NoticeLedger.Ledger.Call

Calls of a billing platform.

* `LedgerOperation` — the operations of a platform.
* `PurchaseOrder`, `ChargebackOrder` — what is to be recorded.
* `LedgerCall` — one call with what it is about.
-/

namespace NoticeLedger

inductive LedgerOperation where
  | getAccount
  | listPaymentMethods
  | reportState
  | createPurchase
  | createChargeback
  deriving DecidableEq, Repr

namespace LedgerOperation

def name : LedgerOperation → String
  | getAccount => "getAccount"
  | listPaymentMethods => "listAccountPaymentMethods"
  | reportState => "notifyTransactionStateChanged"
  | createPurchase => "createPurchase"
  | createChargeback => "createChargeback"

def all : List LedgerOperation :=
  [getAccount, listPaymentMethods, reportState, createPurchase, createChargeback]

def named? (s : String) : Option LedgerOperation :=
  all.find? (·.name == s)

end LedgerOperation

/-- A purchase to be recorded. The keys are references of the merchant or of the gateway. -/
structure PurchaseOrder where
  paymentMethodId : Given
  amount : Money
  externalKey : Given
  transactionExternalKey : Given
  properties : List Property

structure ChargebackOrder where
  paymentId : Given
  amount : Money
  reason : Given

inductive LedgerCall where
  | getAccount (accountId : Given)
  | listPaymentMethods (accountId : Given)
  | reportState (account : Account) (transactionId success : Given)
  | createPurchase (account : Account) (order : PurchaseOrder)
  | createChargeback (account : Account) (order : ChargebackOrder)

def LedgerCall.operation : LedgerCall → LedgerOperation
  | getAccount _ => .getAccount
  | listPaymentMethods _ => .listPaymentMethods
  | reportState .. => .reportState
  | createPurchase .. => .createPurchase
  | createChargeback .. => .createChargeback

end NoticeLedger
