import NoticeLedger.Failure
import NoticeLedger.Notice.Intent

/-!
# NoticeLedger.Notice.Basic

One notice of the payment gateway.

* `Notice.Draft` — the properties that a notice is made from, which nobody checked.
* `Notice` — a notice: a canonical event code, and `null` where nothing is said.
* `Notice.create`, `Notice.toDraft` — from properties to a notice and back.
* `Notice.describe` — a notice inside a sentence.
-/

namespace NoticeLedger

namespace Notice

structure Draft where
  eventCode : Given
  /-- The gateway's reference of the operation that the notice is about. -/
  pspReference : Given := none
  /-- The gateway's reference of the operation that the notice reacts to. -/
  earlierReference : Given := none
  /-- The reference that the merchant chose. -/
  merchantReference : Given := none
  amount : Given := none
  success : Given := none
  additionalData : Given := none
  eventDate : Given := none
  merchantAccountCode : Given := none
  operations : Given := none
  paymentMethod : Given := none
  reason : Given := none
  live : Given := none

end Notice

/-- One notice of the gateway. Its parts are kept as they came: `null` where nothing is said, and
the gateway's own reference may even be left out. An action that needs an amount judges it then. -/
structure Notice where
  eventCode : String
  pspReference : Given
  earlierReference : Json
  merchantReference : Json
  amount : Option Members
  success : Json
  additionalData : Option Members
  eventDate : Json
  merchantAccountCode : Json
  operations : Option (List Json)
  paymentMethod : Json
  reason : Json
  live : Json
  deriving DecidableEq

namespace Notice

def membersOf (value : Given) : Option Members :=
  if value.isTruthy then some value.spread else none

/-- The items of a given value: those of a list, or the characters of a text. -/
def itemsOf (value : Given) : Except Failure (Option (List Json)) :=
  if value.isTruthy then
    match value with
    | some (.array items) => .ok (some items)
    | some (.text s) => .ok (some (Json.characters s))
    | _ => .error (.unforeseen "The operations of a notice are no list")
  else .ok none

def codeOf (value : Given) : Except Failure String :=
  match value with
  | some (.text s) => .ok s
  | _ => .error (.unforeseen "A notice has no event code")

/-- The notice with given properties. Without an event code, or with operations that are no list,
there is none. -/
def create (d : Draft) : Except Failure Notice := do
  let eventCode ← codeOf d.eventCode
  let operations ← itemsOf d.operations
  pure
    { eventCode := Text.canonical eventCode
      pspReference := d.pspReference
      earlierReference := d.earlierReference.meaning
      merchantReference := d.merchantReference.meaning
      amount := membersOf d.amount
      success := d.success.orNull
      additionalData := membersOf d.additionalData
      eventDate := d.eventDate.meaning
      merchantAccountCode := d.merchantAccountCode.meaning
      operations := operations
      paymentMethod := d.paymentMethod.meaning
      reason := d.reason.meaning
      live := d.live.orElse (.bool false) }

def toDraft (n : Notice) : Draft where
  eventCode := .text n.eventCode
  pspReference := n.pspReference
  earlierReference := some n.earlierReference
  merchantReference := some n.merchantReference
  amount := some ((n.amount.map Json.object).getD .null)
  success := some n.success
  additionalData := some ((n.additionalData.map Json.object).getD .null)
  eventDate := some n.eventDate
  merchantAccountCode := some n.merchantAccountCode
  operations := some ((n.operations.map Json.array).getD .null)
  paymentMethod := some n.paymentMethod
  reason := some n.reason
  live := some n.live

/-- What a notice says about success; one that does not say is taken as failed. -/
def reportedSuccess (n : Notice) : Json :=
  if n.success = .null then .bool false else n.success

def succeeded (n : Notice) : Bool :=
  n.reportedSuccess.isTruthy

def classification (n : Notice) : Classification :=
  EventCode.classify n.eventCode

/-- A reference inside a sentence; a dash stands for one that is nothing. -/
def shownReference (reference : Json) : String :=
  if reference = .null then "-" else reference.display

def describe (n : Notice) : String :=
  let psp := n.pspReference.display
  let merchant := shownReference n.merchantReference
  let earlier := shownReference n.earlierReference
  s!"{n.eventCode}(psp={psp}, merchant={merchant}, original={earlier})"

end Notice

end NoticeLedger
