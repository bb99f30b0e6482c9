import NoticeLedger.Form.Reader
import NoticeLedger.Form.Report
import NoticeLedger.Json.Printer
import NoticeLedger.Notice.Reader

/-!
# NoticeLedger.Intake.Batch

Batches of notices as the gateway posts them.

* `Batch.form` — the form of a batch.
* `Batch.texts` — additional data with every value as a text.
* `Batch.parse` — the notices of a batch, in order.
-/

namespace NoticeLedger.Batch

def amountForm : Form :=
  .fields
    [ { name := "value", optional := false, requirements := [.number] },
      { name := "currency", optional := false, requirements := [.text] } ]
    .empty

def noticeForm : Form :=
  let text (name : String) : Field := { name := name, requirements := [.text] }
  let needed (name : String) : Field :=
    { name := name, optional := false, requirements := [.notEmpty, .text] }
  .fields
    [needed "eventCode", needed "pspReference", text "originalReference", text "merchantReference"]
    (.nested { name := "amount" } amountForm
      (.fields
        [ { name := "success", reading := .flag, requirements := [.flag] },
          { name := "additionalData", requirements := [.members] },
          text "eventDate", text "merchantAccountCode",
          { name := "operations", requirements := [.texts, .list] },
          text "paymentMethod", text "reason" ]
        .empty))

def itemForm : Form :=
  .nested { name := "NotificationRequestItem", optional := false } noticeForm .empty

def form : Form :=
  .field { name := "live", reading := .flag, requirements := [.flag] }
    (.nested { name := "notificationItems", optional := false, requirements := [.list] } itemForm
      .empty)

def valueText : Json → Option String
  | .null => none
  | .array items => some (Json.render (.array items))
  | .object m => some (Json.render (.object m))
  | v => some v.display

/-- Additional data with every value as a text; what has no value is left out. -/
def texts (m : Members) : Members :=
  m.filterMap fun (name, value) => (valueText value).map fun s => (name, .text s)

def amountOf (value : Given) : Given :=
  match value with
  | some (.object m) =>
    some (.object (["value", "currency"].filterMap fun name =>
      (Members.get? m name).map fun v => (name, v)))
  | some (.array _) => some (.object [])
  | _ => none

/-- The additional data of a notice, with every value as a text. -/
def dataOf (value : Given) : Given :=
  value.map fun
    | .object m => .object (texts m)
    | v => v

def noticeOf (live : Bool) (m : Members) : Except Failure Notice :=
  Notice.create
    { Notice.Draft.ofMembers m with
      amount := amountOf (m.get? "amount")
      additionalData := dataOf (m.get? "additionalData")
      live := some (.bool live) }

/-- The notice of an item. An item without one, or with a list in its place, has no event code to
read. -/
def noticeOfItem (live : Bool) (item : Json) : Except Failure Notice :=
  match item.members?.bind fun m => Members.get? m "NotificationRequestItem" with
  | some (.object m) => noticeOf live m
  | some _ => noticeOf live []
  | none => .error (.unforeseen "An item has no notice")

def noticesOf (max : Option Number) (m : Members) : Except Failure (List Notice) :=
  let items := ((m.get? "notificationItems").bind Json.items?).getD []
  let live := ((m.get? "live").bind Json.bool?).getD false
  match max with
  | some limit =>
    if limit < Number.ofInt items.length then
      let message :=
        s!"Notification batch has {items.length} items, at most {limit.text} accepted"
      .error (.unreadable message [])
    else items.mapM (noticeOfItem live)
  | none => items.mapM (noticeOfItem live)

/-- The notices of a batch with at most so many items. -/
def parse (max : Option Number) (body : Given) : Except Failure (List Notice) :=
  match body with
  | some (.object m) => do
    let m ← form.readMembers m
    match form.violations m with
    | [] => noticesOf max m
    | violations =>
      .error (.unreadable "Invalid notification batch" (violations.map Violation.text))
  | _ => .error (.unreadable "Notification batch must be a JSON object" [])

end NoticeLedger.Batch
