import NoticeLedger.Form.Reader
import NoticeLedger.Form.Report
import NoticeLedger.Store.Basic

/-!
# NoticeLedger.Intake.Query

Queries of the journal as operators send them.

* `Query.form` — the form of a query.
* `Query.accept` — the members of a query, with the defaults filled in; or why it is refused.
* `Query.filter`, `Query.pagination` — what an accepted query asks for.
-/

namespace NoticeLedger.Query

def maxLimit : Nat := 500

def form : Form :=
  let text (name : String) : Field := { name := name, requirements := [.text] }
  .fields
    [ text "pspReference", text "accountId", text "eventCode",
      { name := "page", reading := .number, requirements := [.atLeast 1, .whole] },
      { name := "limit", reading := .number,
        requirements := [.atMost maxLimit, .atLeast 1, .whole] } ]
    .empty

/-- What stands for the members that a query leaves out. -/
def defaults : Members :=
  [("page", .number 1), ("limit", .number 50)]

/-- A fault of a query in words. -/
def complaint (v : Violation) : String :=
  let name := ".".intercalate v.path
  match v.fault with
  | .unmet .whole => s!"{name} must be an integer number"
  | .unmet (.atLeast n) => s!"{name} must not be less than {n}"
  | .unmet (.atMost n) => s!"{name} must not be greater than {n}"
  | _ => s!"{name} must be a string"

def refusal (complaints : List String) : Failure :=
  .refused 400 (.object [
    ("message", .array (complaints.map .text)),
    ("error", .text "Bad Request"),
    ("statusCode", .number 400)])

def accept (query : Members) : Except Failure Members := do
  let read ← form.readMembers query
  let m := Members.merge defaults read
  match form.violations m with
  | [] => pure m
  | violations => .error (refusal (violations.map complaint))

def filter (m : Members) : JournalFilter where
  pspReference := m.get? "pspReference"
  accountId := m.get? "accountId"
  eventCode := m.get? "eventCode"

def pagination (m : Members) : Pagination where
  page := some (Given.orElse (m.get? "page") (.number 1))
  limit := some (Given.orElse (m.get? "limit") (.number 50))

end NoticeLedger.Query
