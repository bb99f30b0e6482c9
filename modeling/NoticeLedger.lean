import NoticeLedger.Delivery.Chargeback
import NoticeLedger.Delivery.Correlation
import NoticeLedger.Delivery.Desk
import NoticeLedger.Delivery.Journal
import NoticeLedger.Delivery.Receipt
import NoticeLedger.Delivery.Reconcile
import NoticeLedger.Failure
import NoticeLedger.Form.Basic
import NoticeLedger.Form.Reader
import NoticeLedger.Form.Report
import NoticeLedger.Instant
import NoticeLedger.Intake.Batch
import NoticeLedger.Intake.Query
import NoticeLedger.Json.Basic
import NoticeLedger.Json.Given
import NoticeLedger.Json.Printer
import NoticeLedger.Json.Reader
import NoticeLedger.Keyed
import NoticeLedger.Ledger.Answer
import NoticeLedger.Ledger.Basic
import NoticeLedger.Ledger.Book
import NoticeLedger.Ledger.Call
import NoticeLedger.Ledger.Remote
import NoticeLedger.Ledger.Request
import NoticeLedger.Log
import NoticeLedger.Money.Basic
import NoticeLedger.Money.Currency
import NoticeLedger.Money.Decimal
import NoticeLedger.Notice.Basic
import NoticeLedger.Notice.Intent
import NoticeLedger.Notice.Properties
import NoticeLedger.Notice.Reader
import NoticeLedger.Notice.Sample
import NoticeLedger.Number.Basic
import NoticeLedger.Number.Extended
import NoticeLedger.Number.Reader
import NoticeLedger.Number.Rounded
import NoticeLedger.Number.Shortest
import NoticeLedger.Platform
import NoticeLedger.Service
import NoticeLedger.Settings.Basic
import NoticeLedger.Settings.Database
import NoticeLedger.Store
import NoticeLedger.Store.Basic
import NoticeLedger.Store.Column
import NoticeLedger.Store.Fault
import NoticeLedger.Store.Memory
import NoticeLedger.Store.Relational
import NoticeLedger.Text.Blank
import NoticeLedger.Text.Percent
import NoticeLedger.Text.Upper
import NoticeLedger.Text.Upper.Table
import NoticeLedger.Proofs.Rehearsal.Bench
import NoticeLedger.Proofs.Rehearsal.Announced
import NoticeLedger.Proofs.Rehearsal.Course
import NoticeLedger.Proofs.Rehearsal.Soundness
import NoticeLedger.Proofs.Ledger.Calls
import NoticeLedger.Proofs.Ledger.Orderly
import NoticeLedger.Proofs.Rehearsal.Frame
import NoticeLedger.Proofs.Ledger.Accounting
import NoticeLedger.Proofs.Journal.Attempts
import NoticeLedger.Proofs.Rehearsal.Fair
import NoticeLedger.Proofs.Rehearsal.Run
import NoticeLedger.Proofs.Journal.Content
import NoticeLedger.Proofs.Delivery.Table
import NoticeLedger.Proofs.Form.Accepting
import NoticeLedger.Proofs.Form.Reading
import NoticeLedger.Proofs.Intake.Item
import NoticeLedger.Proofs.Intake.Parse
import NoticeLedger.Proofs.Rehearsal.Records
import NoticeLedger.Proofs.Rehearsal.Determined
import NoticeLedger.Proofs.Rehearsal.Alike
import NoticeLedger.Proofs.Delivery.Retry
import NoticeLedger.Proofs.Ledger.Status
import NoticeLedger.Proofs.Rehearsal.Steady
import NoticeLedger.Proofs.Ledger.Written
import NoticeLedger.Proofs.Delivery.Redelivery
import NoticeLedger.Proofs.Delivery.Isolation
import NoticeLedger.Proofs.Delivery.Settled
import NoticeLedger.Proofs.Delivery.Disputes
import NoticeLedger.Proofs.Number.Rounding
import NoticeLedger.Proofs.Json.Printing
import NoticeLedger.Proofs.Store.Paging
import NoticeLedger.Proofs.Delivery.Interchange
import NoticeLedger.Proofs.Delivery.Discreet
import NoticeLedger.Proofs.Delivery.Told
import NoticeLedger.Proofs.Intake.Receive
import NoticeLedger.Proofs.Delivery.Blame
import NoticeLedger.Proofs.Ledger.Settling
import NoticeLedger.Proofs.Rehearsal.Beside
import NoticeLedger.Proofs.Rehearsal.Grown
import NoticeLedger.Proofs.Delivery.Commuting
import NoticeLedger.Proofs.Form.Carrying
import NoticeLedger.Proofs.Intake.Posting
import NoticeLedger.Proofs.Ledger.Replies
import NoticeLedger.Proofs.Delivery.Reporting
import NoticeLedger.Proofs.Delivery.Replied
import NoticeLedger.Proofs.Money.Decimal
import NoticeLedger.Proofs.Delivery.Amounts
import NoticeLedger.Proofs.Money.Reading
import NoticeLedger.Proofs.Money.Rendering
import NoticeLedger.Proofs.Text.Canonical
import NoticeLedger.Proofs.Notice.Canonical
import NoticeLedger.Proofs.Store.Partition
import NoticeLedger.Proofs.Journal.Replay
import NoticeLedger.Proofs.Delivery.Precedence
import NoticeLedger.Proofs.Journal.Search
import NoticeLedger.Proofs.Intake.Asking
import NoticeLedger.Proofs.Ledger.Resolved
import NoticeLedger.Proofs.Ledger.Addresses
import NoticeLedger.Proofs.Ledger.Numbering
import NoticeLedger.Proofs.Intake.Report
import NoticeLedger.Proofs.Notice.Bag
import NoticeLedger.Proofs.Settings.Readings
