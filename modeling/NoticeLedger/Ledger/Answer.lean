import NoticeLedger.Form.Reader
import NoticeLedger.Form.Report
import NoticeLedger.Json.Reader
import NoticeLedger.Ledger.Basic

/-!
# NoticeLedger.Ledger.Answer

What a billing platform answers to requests.

* `Answer.accountForm` and the like — the forms of the objects that a platform answers.
* `Answer.account`, `methods`, `payment` — the entries of the ledger from the body of an answer.
* `Answer.refusal` — the failure that a body with a status outside the 200s stands for.
-/

namespace NoticeLedger.Answer

def needed (name : String) : Field :=
  { name := name, optional := false, requirements := [.text] }

def possible (name : String) : Field :=
  { name := name, requirements := [.text] }

def accountForm : Form :=
  .fields [needed "accountId", possible "externalKey", possible "currency"] .empty

def methodForm : Form :=
  .fields
    [ needed "paymentMethodId", needed "accountId", needed "pluginName",
      { name := "isDefault", requirements := [.flag] } ]
    .empty

def transactionForm : Form :=
  .fields
    [ needed "transactionId", needed "paymentId", possible "transactionExternalKey",
      { name := "transactionType", optional := false,
        requirements := [.oneOf (TransactionKind.all.map TransactionKind.name)] },
      { name := "status", optional := false,
        requirements := [.oneOf (TransactionStatus.all.map TransactionStatus.name)] },
      possible "amount", possible "currency" ]
    .empty

def paymentForm : Form :=
  .fields
    [ needed "paymentId", needed "accountId", needed "paymentMethodId",
      possible "paymentExternalKey" ]
    (.nested { name := "transactions", optional := false, requirements := [.list] }
      transactionForm .empty)

def refusalForm : Form :=
  .fields [possible "code", possible "message"] .empty

/-- The failure of a body that is not what was asked for. -/
def unexpected (what : String) (faulty : List String) : Failure :=
  let detail := if faulty.isEmpty then "" else " (" ++ ", ".intercalate faulty ++ ")"
  .platform s!"Unexpected {what} response from the billing platform{detail}"
    (some (.text PlatformCode.unknown)) none

def membersOf (form : Form) (what : String) (body : Json) : Except Failure Members :=
  match body with
  | .object m =>
    match form.readMembers m with
    | .error f => .error f
    | .ok m =>
      match form.faultyMembers m with
      | [] => .ok m
      | faulty => .error (unexpected what faulty)
  | _ => .error (unexpected what [])

/-- A member, with `null` for one that was left out. -/
def orNull (m : Members) (name : String) : Given :=
  some (Given.orNull (m.get? name))

def account (body : Json) : Except Failure Account := do
  let m ← membersOf accountForm "account" body
  pure
    { id := m.get? "accountId"
      externalKey := orNull m "externalKey"
      currency := orNull m "currency" }

def method (item : Json) : Except Failure PaymentMethod := do
  let m ← membersOf methodForm "payment method" item
  pure
    { id := m.get? "paymentMethodId"
      accountId := m.get? "accountId"
      pluginName := m.get? "pluginName"
      isDefault := some (Given.orElse (m.get? "isDefault") (.bool false)) }

def methods (body : Json) : Except Failure (List PaymentMethod) :=
  match body with
  | .array items => items.mapM method
  | _ => .error (unexpected "payment method list" [])

/-- The transaction that an item of a payment describes; a list in its place describes nothing. -/
def transaction (item : Json) : Transaction :=
  let m := item.members?.getD []
  { id := m.get? "transactionId"
    paymentId := m.get? "paymentId"
    externalKey := orNull m "transactionExternalKey"
    kind := m.get? "transactionType"
    status := m.get? "status"
    amount := orNull m "amount"
    currency := orNull m "currency" }

def payment (body : Json) : Except Failure Payment := do
  let m ← membersOf paymentForm "payment" body
  pure
    { id := m.get? "paymentId"
      accountId := m.get? "accountId"
      paymentMethodId := m.get? "paymentMethodId"
      externalKey := orNull m "paymentExternalKey"
      transactions := (((m.get? "transactions").bind Json.items?).getD []).map transaction }

def body (s : String) : Json :=
  if s = "" then .null else (Json.parse? s).getD (.text s)

/-- A member of a body, unless it counts as absent. -/
def said (body : Json) (name : String) : Option Json :=
  (body.members?.bind fun m => Members.get? m name).filter Json.isTruthy

/-- The failure that a refusal stands for; `otherwise` is said when it has no message. -/
def refusal (otherwise : String) (status : Nat) (body : Json) : Except Failure Failure := do
  let body ← refusalForm.read body
  let message := ((said body "message").map Json.display).getD otherwise
  let code := (said body "code").getD (.text PlatformCode.unknown)
  pure (.platform message (some code) (some (Number.ofInt status)))

end NoticeLedger.Answer
