import NoticeLedger.Failure
import NoticeLedger.Instant
import NoticeLedger.Notice.Basic

/-!
# NoticeLedger.Store.Basic

The records of the reconciler.

* `StoredResponse` — what the gateway answered to an operation of the platform.
* `HostedRequest` — a payment started on the hosted page, known by the merchant's reference.
* `LedgerIds`, `JournalEntry` — a journaled notice and the entries of the ledger it was tied to.
* `JournalFilter`, `Pagination`, `Page` — queries of the journal, newest entries first.
* `Statistics` — how many records there are.
-/

namespace NoticeLedger

/-- What the gateway answered to an operation, under its own reference of it. Every part is kept as
it was given. -/
structure StoredResponse where
  pspReference : Given
  accountId : Given
  tenantId : Given
  paymentId : Given
  transactionId : Given
  transactionType : Given
  additionalData : Json
  createdAt : Instant
  updatedAt : Instant

def StoredResponse.changed (r : StoredResponse) (now : Instant)
    (changes : List (String × Given)) : StoredResponse :=
  { r with additionalData := .object (r.additionalData.spread.update changes), updatedAt := now }

structure StoredResponse.Draft where
  pspReference : Given
  accountId : Given
  tenantId : Given
  paymentId : Given
  transactionId : Given
  transactionType : Given := none
  additionalData : Given := none

/-- A payment started on the hosted page, under the reference that the merchant chose. Every part is
kept as it was given. -/
structure HostedRequest where
  merchantReference : Given
  accountId : Given
  tenantId : Given
  paymentId : Given
  transactionId : Given
  additionalData : Json
  createdAt : Instant

structure HostedRequest.Draft where
  merchantReference : Given
  accountId : Given
  tenantId : Given
  paymentId : Given := none
  transactionId : Given := none
  additionalData : Given := none

/-- The entries of the ledger that a notice was tied to; `null` where nothing is known. -/
structure LedgerIds where
  accountId : Given := .null
  tenantId : Given := .null
  paymentId : Given := .null
  transactionId : Given := .null
  deriving DecidableEq, Inhabited

/-- The entries with `null` in the place of those that were left out. -/
def LedgerIds.filled (ids : LedgerIds) : LedgerIds where
  accountId := some ids.accountId.orNull
  tenantId := some ids.tenantId.orNull
  paymentId := some ids.paymentId.orNull
  transactionId := some ids.transactionId.orNull

structure JournalEntry where
  ids : LedgerIds
  transactionType : Given
  notice : Notice
  recordedAt : Instant

/-- Whether an entry was tied to the ledger. -/
def JournalEntry.isCorrelated (e : JournalEntry) : Bool :=
  e.ids.accountId != .null

/-- Which entries of the journal are asked for; a value that counts as absent asks for nothing. -/
structure JournalFilter where
  pspReference : Given := none
  accountId : Given := none
  eventCode : Given := none
  fromDate : TimeBound := .unlimited
  toDate : TimeBound := .unlimited

namespace JournalFilter

/-- Whether a value is the one asked for. -/
def admits (asked value : Given) : Bool :=
  !asked.isTruthy || value == asked

/-- Whether a code is the one asked for, whose case does not matter; blanks around it do. -/
def admitsCode (asked : Given) (code : String) : Bool :=
  match asked with
  | some (.text s) => s == "" || code == Text.upper s
  | _ => true

/-- Fails if the code asked for is no text. -/
def check (f : JournalFilter) : Except Failure Unit :=
  match f.eventCode with
  | some (.text _) => .ok ()
  | code =>
    if code.isTruthy then .error (.unforeseen "filter.eventCode.toUpperCase is not a function")
    else .ok ()

def selects (f : JournalFilter) (e : JournalEntry) : Bool :=
  admits f.pspReference e.notice.pspReference &&
    admits f.accountId e.ids.accountId &&
    admitsCode f.eventCode e.notice.eventCode &&
    f.fromDate.isBefore e.recordedAt &&
    f.toDate.isAfter e.recordedAt

end JournalFilter

structure Pagination where
  page : Given
  limit : Given

namespace Pagination

def start (p : Pagination) : Number :=
  (p.page.toNumber - 1) * p.limit.toNumber

/-- The place at which the part ends. The digits of a limit that is a text or a list stand behind
those of the start. -/
def stop (p : Pagination) : Number :=
  match p.limit with
  | some (.text s) => Number.read (p.start.text ++ s)
  | some (.array items) => Number.read (p.start.text ++ Json.display (.array items))
  | limit => p.start + Given.toNumber limit

/-- How many parts a listing of so many items has; without a limit above zero it has none. -/
def pageCount (p : Pagination) (total : Number) : Number :=
  let limit := p.limit.toNumber
  if 0 < limit then (total / limit).ceil else 0

end Pagination

structure Page (α : Type) where
  items : List α
  total : Number
  page : Given
  limit : Given
  totalPages : Number

namespace Page

def of {α : Type} (items : List α) (total : Nat) (p : Pagination) : Page α where
  items := items
  total := Number.ofInt total
  page := p.page
  limit := p.limit
  totalPages := p.pageCount (Number.ofInt total)

/-- The place in a list of `length` items that a number names: fractions are cut off, and negative
numbers count from the end. -/
def position (length : Nat) (x : Number) : Nat :=
  match x with
  | .nan => 0
  | .infinite negative => if negative then 0 else length
  | .finite d =>
    let q := d.toRat
    let i := if q < 0 then q.ceil else q.floor
    if i < 0 then (length + i).toNat else min i.toNat length

/-- The items from one number to another, the last one left out. -/
def slice {α : Type} (items : List α) (first last : Number) : List α :=
  let start := position items.length first
  let stop := position items.length last
  (items.take stop).drop start

def ofListing {α : Type} (items : List α) (p : Pagination) : Page α :=
  of (slice items p.start p.stop) items.length p

end Page

structure Statistics where
  responseCount : Nat
  pendingRequestCount : Nat
  journalEntryCount : Nat
  uncorrelatedJournalEntryCount : Nat
  deriving DecidableEq, Repr

inductive StoreOperation where
  | getResponse
  | getPendingRequest
  | saveResponse
  | savePendingRequest
  | updateMetadata
  | appendJournal
  | listJournal
  | getStatistics
  deriving DecidableEq, Repr

namespace StoreOperation

def name : StoreOperation → String
  | getResponse => "getResponseByReference"
  | getPendingRequest => "getPendingRequestByMerchantRef"
  | saveResponse => "saveResponse"
  | savePendingRequest => "savePendingRequest"
  | updateMetadata => "updateTransactionMetadata"
  | appendJournal => "appendJournal"
  | listJournal => "listJournalEntries"
  | getStatistics => "getStatistics"

def all : List StoreOperation := [getResponse, getPendingRequest, saveResponse,
  savePendingRequest, updateMetadata, appendJournal, listJournal, getStatistics]

def named? (s : String) : Option StoreOperation :=
  all.find? (·.name == s)

end StoreOperation

end NoticeLedger
