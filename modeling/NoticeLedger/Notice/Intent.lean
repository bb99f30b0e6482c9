import NoticeLedger.Json.Basic
import NoticeLedger.Text.Upper

/-!
# NoticeLedger.Notice.Intent

What a notice says was done, read from its event code.

* `Intent` — the kinds of operation that the ledger knows; `Intent.value` — one as it is written.
* `EventCode.classify` — the operation an event is about; none for the codes without one.
* `EventCode.journalIntent` — the operation under which an event is journaled.
* `EventCode.isReport` — the codes that never refer to an entry of the ledger.

A code counts in its canonical spelling, so case and blanks at the ends do not matter.
-/

namespace NoticeLedger

inductive Intent where
  | authorize
  | capture
  | void
  | refund
  | chargeback
  deriving DecidableEq, Repr

namespace Intent

def name : Intent → String
  | authorize => "AUTHORIZE"
  | capture => "CAPTURE"
  | void => "VOID"
  | refund => "REFUND"
  | chargeback => "CHARGEBACK"

def value : Option Intent → Json
  | some intent => .text intent.name
  | none => .null

def all : List Intent := [authorize, capture, void, refund, chargeback]

def named? (s : String) : Option Intent :=
  all.find? (·.name == s)

end Intent

/-- What an event is classified as: an operation, or none. -/
abbrev Classification := Option Intent

def Classification.name : Classification → String
  | some intent => intent.name
  | none => "UNMAPPED"

namespace EventCode

def intents : List (String × Intent) := [
  ("AUTHORISATION", .authorize),
  ("CAPTURE", .capture),
  ("CAPTURE_FAILED", .capture),
  ("CANCELLATION", .void),
  ("REFUND", .refund),
  ("REFUND_FAILED", .refund),
  ("REFUNDED_REVERSED", .refund),
  ("CHARGEBACK", .chargeback),
  ("NOTIFICATION_OF_CHARGEBACK", .chargeback)]

/-- The codes that stand for no operation and are journaled under one nevertheless. -/
def journalIntents : List (String × Intent) := [
  ("CHARGEBACK_REVERSED", .chargeback)]

/-- The codes of reports and of test messages. -/
def reports : List String := ["REPORT_AVAILABLE", "NOTIFICATIONTEST"]

def classify (code : String) : Classification :=
  intents.lookup (Text.canonical code)

def journalIntent (code : String) : Option Intent :=
  match classify code with
  | some intent => some intent
  | none => journalIntents.lookup (Text.canonical code)

def isReport (code : String) : Bool :=
  reports.contains (Text.canonical code)

/-- Reports stand for no operation. -/
theorem classify_of_isReport {code : String} (h : isReport code = true) : classify code = none := by
  rw [isReport] at h
  rw [classify]
  generalize Text.canonical code = c at h ⊢
  have hc : c = "REPORT_AVAILABLE" ∨ c = "NOTIFICATIONTEST" := by simpa [reports] using h
  rcases hc with rfl | rfl
  · rfl
  · rfl

end EventCode

end NoticeLedger
