import NoticeLedger.Notice.Basic

/-!
# NoticeLedger.Notice.Sample

Notices to rehearse with.

* `Sample.Options` — what a sample is to have; what is left out is filled in.
* `Sample.properties` — the properties of a sample. One without a reference gets the next number.
* `Sample.notice`, `Sample.item`, `Sample.batch` — samples as notices, as items of a batch, and as a
  whole batch as the gateway posts it.
-/

namespace NoticeLedger

namespace Sample

structure Options where
  pspReference : Given := none
  earlierReference : Given := none
  merchantReference : Given := none
  amount : Given := none
  success : Given := none
  additionalData : Given := none
  eventDate : Given := none
  merchantAccountCode : Given := none
  operations : Given := none
  paymentMethod : Given := none
  reason : Given := none
  live : Given := none

inductive Kind where
  | authorisation
  | capture
  | refund
  | chargeback
  | report
  deriving DecidableEq, Repr

def Kind.eventCode : Kind → String
  | authorisation => "AUTHORISATION"
  | capture => "CAPTURE"
  | refund => "REFUND"
  | chargeback => "CHARGEBACK"
  | report => "REPORT_AVAILABLE"

def Kind.fill (k : Kind) (o : Options) : Options :=
  let earlier := o.earlierReference <|> .text "psp-original"
  match k with
  | authorisation => o
  | capture => { o with earlierReference := earlier }
  | refund => { o with earlierReference := earlier }
  | chargeback =>
    { o with earlierReference := earlier, reason := o.reason <|> .text "Fraudulent transaction" }
  | report =>
    { o with amount := o.amount <|> .null, merchantReference := o.merchantReference <|> .null }

/-- The amount of a sample that says nothing about it. -/
def standardAmount : Given :=
  some (.object [("value", .number 1000), ("currency", .text "EUR")])

/-- The properties of a sample, and how many references were given out by then. -/
def properties (eventCode : Given) (o : Options) (given : Nat) : Notice.Draft × Nat :=
  let numbered := o.pspReference.isNothing
  ({ eventCode := eventCode
     pspReference := if numbered then .text s!"psp-{given + 1}" else o.pspReference
     earlierReference := some o.earlierReference.orNull
     merchantReference := o.merchantReference <|> .text "order-1"
     amount := o.amount <|> standardAmount
     success := o.success <|> some (.bool true)
     additionalData := some o.additionalData.orNull
     eventDate := some (o.eventDate.orElse (.text "2024-03-01T10:00:00+01:00"))
     merchantAccountCode := some (o.merchantAccountCode.orElse (.text "TestMerchant"))
     operations := some o.operations.orNull
     paymentMethod := some (o.paymentMethod.orElse (.text "visa"))
     reason := some o.reason.orNull
     live := some (o.live.orElse (.bool false)) },
   if numbered then given + 1 else given)

def notice (eventCode : Given) (o : Options) (given : Nat) : Except Failure (Notice × Nat) := do
  let (draft, given) := properties eventCode o given
  pure (← Notice.create draft, given)

def noticeOfKind (k : Kind) (o : Options) (given : Nat) : Except Failure (Notice × Nat) :=
  notice (.text k.eventCode) (k.fill o) given

/-- The item that properties are posted as; what counts as absent is left out. Operations that are
no list cannot be posted. -/
def itemOf (d : Notice.Draft) : Except Failure Members := do
  let operations ← Notice.itemsOf d.operations
  let whole (name : String) (v : Given) : Members := (v.map fun v => (name, v)).toList
  let said (name : String) (v : Given) : Members := if v.isTruthy then whole name v else []
  let data (name : String) (v : Given) : Members :=
    whole name ((Notice.membersOf v).map Json.object)
  let success := if d.success.isNothing then none else Given.text d.success.display
  pure (
    whole "eventCode" d.eventCode ++
    whole "pspReference" d.pspReference ++
    said "originalReference" d.earlierReference ++
    said "merchantReference" d.merchantReference ++
    data "amount" d.amount ++
    whole "success" success ++
    data "additionalData" d.additionalData ++
    said "eventDate" d.eventDate ++
    said "merchantAccountCode" d.merchantAccountCode ++
    whole "operations" (operations.map Json.array) ++
    said "paymentMethod" d.paymentMethod ++
    said "reason" d.reason)

def item (eventCode : Given) (o : Options) (given : Nat) : Except Failure (Members × Nat) := do
  let (draft, given) := properties eventCode o given
  pure (← itemOf draft, given)

def items : List (Given × Options) → Nat → Except Failure (List Members × Nat)
  | [], given => .ok ([], given)
  | (eventCode, o) :: rest, given => do
    let (first, given) ← item eventCode o given
    let (others, given) ← items rest given
    pure (first :: others, given)

/-- Items as a batch, which is live only if that is said. -/
def batch (items : List Members) (live : Given) : Members :=
  let wrap (m : Members) : Json := .object [("NotificationRequestItem", .object m)]
  let word := Given.display (live <|> some (.bool false))
  [("live", .text word), ("notificationItems", .array (items.map wrap))]

end Sample

end NoticeLedger
