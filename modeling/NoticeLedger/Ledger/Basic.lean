import NoticeLedger.Instant
import NoticeLedger.Money.Basic

/-!
# NoticeLedger.Ledger.Basic

What the billing platform keeps, and how it is called.

* `CallContext` — for whom and as whom a call is made.
* `Account`, `PaymentMethod`, `Payment`, `Transaction` — the entries of the platform, with every
  part as it was given.
* `TransactionKind`, `TransactionStatus` — what a transaction does, and how far it got.
* `Property` — an entry of the bag that goes with a purchase.
* `PlatformCode` — the codes of the platform's failures.
-/

namespace NoticeLedger

/-- For which tenant and as which user a call is made, why, and when. -/
structure CallContext where
  tenantId : Given
  userName : Given
  reasonCode : Given := .null
  createdAt : Instant
  deriving DecidableEq

structure Account where
  id : Given
  externalKey : Given := .null
  currency : Given := .null
  deriving DecidableEq

structure PaymentMethod where
  id : Given
  accountId : Given
  pluginName : Given
  isDefault : Given := some (.bool false)
  deriving DecidableEq

inductive TransactionKind where
  | authorize
  | capture
  | purchase
  | void
  | refund
  | credit
  | chargeback
  deriving DecidableEq, Repr

namespace TransactionKind

def name : TransactionKind → String
  | authorize => "AUTHORIZE"
  | capture => "CAPTURE"
  | purchase => "PURCHASE"
  | void => "VOID"
  | refund => "REFUND"
  | credit => "CREDIT"
  | chargeback => "CHARGEBACK"

def all : List TransactionKind := [authorize, capture, purchase, void, refund, credit, chargeback]

def given (k : TransactionKind) : Given := .text k.name

end TransactionKind

inductive TransactionStatus where
  | pending
  | success
  | paymentFailure
  | pluginFailure
  deriving DecidableEq, Repr

namespace TransactionStatus

def name : TransactionStatus → String
  | pending => "PENDING"
  | success => "SUCCESS"
  | paymentFailure => "PAYMENT_FAILURE"
  | pluginFailure => "PLUGIN_FAILURE"

def all : List TransactionStatus := [pending, success, paymentFailure, pluginFailure]

def given (s : TransactionStatus) : Given := .text s.name

end TransactionStatus

/-- A transaction of a payment; the amount is a decimal in major units. -/
structure Transaction where
  id : Given
  paymentId : Given
  externalKey : Given := .null
  kind : Given
  status : Given
  amount : Given := .null
  currency : Given := .null
  deriving DecidableEq

structure Payment where
  id : Given
  accountId : Given
  paymentMethodId : Given
  externalKey : Given := .null
  transactions : List Transaction
  deriving DecidableEq

/-- An entry of the bag that goes with a purchase. A reference that was left out of a notice leaves
an entry without a value. -/
structure Property where
  key : String
  value : Given

namespace PlatformCode

def notPending : String := "PAYMENT_NO_SUCH_SUCCESS_PAYMENT"

def noAccount : String := "ACCOUNT_DOES_NOT_EXIST_FOR_ID"

def noPayment : String := "PAYMENT_NO_SUCH_PAYMENT"

def noTransaction : String := "PAYMENT_NO_SUCH_PAYMENT_TRANSACTION"

def unknown : String := "UNKNOWN"

end PlatformCode

end NoticeLedger
