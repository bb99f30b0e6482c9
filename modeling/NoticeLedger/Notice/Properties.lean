import NoticeLedger.Ledger.Basic
import NoticeLedger.Notice.Basic

/-!
# NoticeLedger.Notice.Properties

What the ledger and the store learn of a notice besides money.

* `PropertyKey` — the keys of a purchase's bag, in the order of the bag.
* `Notice.purchaseProperties` — the bag of a purchase recorded for a notice.
* `Notice.responseProperties` — the changes to the data of a stored response.
-/

namespace NoticeLedger

inductive PropertyKey where
  | hosted
  | hostedStatus
  | merchantReference
  | pspReference
  | amount
  | currency
  | additionalData
  | eventCode
  | eventDate
  | merchantAccountCode
  | operations
  | earlierReference
  | paymentMethod
  | reason
  | success
  deriving DecidableEq, Repr

def PropertyKey.name : PropertyKey → String
  | hosted => "fromHPP"
  | hostedStatus => "fromHPPTransactionStatus"
  | merchantReference => "merchantReference"
  | pspReference => "pspReference"
  | amount => "amount"
  | currency => "currency"
  | additionalData => "additionalData"
  | eventCode => "eventCode"
  | eventDate => "eventDate"
  | merchantAccountCode => "merchantAccountCode"
  | operations => "operations"
  | earlierReference => "originalReference"
  | paymentMethod => "paymentMethod"
  | reason => "reason"
  | success => "success"

namespace Notice

def hostedStatus (n : Notice) : String :=
  if n.succeeded then "PROCESSED" else "ERROR"

/-- The value that each key of the bag has, if it has one. The gateway's reference has one even
when it was left out, an entry without a value. -/
def propertyValues (n : Notice) (amount : Money) (hosted : Bool) :
    List (PropertyKey × Option Given) :=
  let said (v : Json) : Option Given := if v = .null then none else some (some v)
  [ (.hosted, some (some (.bool hosted))),
    (.hostedStatus, if hosted then some (.text n.hostedStatus) else none),
    (.merchantReference, said n.merchantReference),
    (.pspReference, if n.pspReference = .null then none else some n.pspReference),
    (.amount, some (.text amount.decimal)),
    (.currency, some (.text amount.currency.code)),
    (.additionalData, n.additionalData.map fun m => some (.object m)),
    (.eventCode, some (.text n.eventCode)),
    (.eventDate, said n.eventDate),
    (.merchantAccountCode, said n.merchantAccountCode),
    (.operations, n.operations.map fun xs => some (.array xs)),
    (.earlierReference, said n.earlierReference),
    (.paymentMethod, said n.paymentMethod),
    (.reason, said n.reason),
    (.success, said n.success) ]

/-- The bag of a purchase recorded for a notice: every key that has a value. -/
def purchaseProperties (n : Notice) (amount : Money) (hosted : Bool) : List Property :=
  (n.propertyValues amount hosted).filterMap fun (key, value) =>
    value.map fun value => ⟨key.name, value⟩

/-- What is put over the data of the responses stored for an updated transaction. A reference that
was left out takes the old one away. -/
def responseProperties (n : Notice) (hosted : Bool) : List (String × Given) :=
  (PropertyKey.pspReference.name, n.pspReference) ::
    if hosted then [(PropertyKey.hostedStatus.name, .text n.hostedStatus)] else []

end Notice

end NoticeLedger
