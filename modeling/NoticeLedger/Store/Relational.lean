import NoticeLedger.Json.Printer
import NoticeLedger.Keyed
import NoticeLedger.Store.Basic
import NoticeLedger.Store.Column

/-!
# NoticeLedger.Store.Relational

A store that keeps its records as rows of tables.

* `JournalRow` — the columns of a journaled notice; the amount takes two of them.
* `Tables` — the rows, in the order in which they were inserted.
* `Scan` — the order in which they are read.
* one function per operation; every operation fails once the connection is closed.

A look-up or an update by nothing is one without a condition. What is answered to a change is what
was given, and not what the columns keep of it; of a new row the key is read back.
-/

namespace NoticeLedger

/-- A journaled notice as a row. Of an amount only the value and the currency have a column. -/
structure JournalRow where
  accountId : Json
  tenantId : Json
  paymentId : Json
  transactionId : Json
  transactionType : Json
  eventCode : String
  pspReference : Json
  earlierReference : Json
  merchantReference : Json
  amountValue : Json
  amountCurrency : Json
  success : Json
  additionalData : Option Members
  eventDate : Json
  merchantAccountCode : Json
  operations : Option (List Json)
  paymentMethod : Json
  reason : Json
  live : Json
  recordedAt : Instant

namespace JournalRow

def part (amount : Option Members) (name : String) : Json :=
  Given.orNull (amount.bind (·.get? name))

def amountOf (value currency : Json) : Option Members :=
  if value = .null ∨ currency = .null then none
  else some [("value", value), ("currency", currency)]

def ofEntry (e : JournalEntry) : JournalRow where
  accountId := Column.text e.ids.accountId.orNull
  tenantId := Column.text e.ids.tenantId.orNull
  paymentId := Column.text e.ids.paymentId.orNull
  transactionId := Column.text e.ids.transactionId.orNull
  transactionType := Column.text e.transactionType.orNull
  eventCode := e.notice.eventCode
  pspReference := Column.text e.notice.pspReference.orNull
  earlierReference := Column.text e.notice.earlierReference
  merchantReference := Column.text e.notice.merchantReference
  amountValue := Column.whole (part e.notice.amount "value")
  amountCurrency := Column.text (part e.notice.amount "currency")
  success := Column.flag e.notice.success
  additionalData := e.notice.additionalData
  eventDate := Column.text e.notice.eventDate
  merchantAccountCode := Column.text e.notice.merchantAccountCode
  operations := e.notice.operations
  paymentMethod := Column.text e.notice.paymentMethod
  reason := Column.text e.notice.reason
  live := Column.flag e.notice.live
  recordedAt := e.recordedAt.inFourDigits

def toEntry (r : JournalRow) : JournalEntry where
  ids :=
    { accountId := some r.accountId
      tenantId := some r.tenantId
      paymentId := some r.paymentId
      transactionId := some r.transactionId }
  transactionType := some r.transactionType
  notice :=
    { eventCode := r.eventCode
      pspReference := some r.pspReference
      earlierReference := r.earlierReference
      merchantReference := r.merchantReference
      amount := amountOf r.amountValue r.amountCurrency
      success := r.success
      additionalData := r.additionalData
      eventDate := r.eventDate
      merchantAccountCode := r.merchantAccountCode
      operations := r.operations
      paymentMethod := r.paymentMethod
      reason := r.reason
      live := r.live }
  recordedAt := r.recordedAt

end JournalRow

/-- The order in which the rows that a filter asks for are read. A statement asks for the newest
first and leaves it open which of two rows of one time that is. -/
structure Scan where
  read : JournalFilter → List JournalRow → List JournalRow
  read_perm : ∀ f rows, (read f rows).Perm rows

/-- Rows are found by a column that they are asked for by, oldest first, or else by their times,
newest first. -/
def Scan.indexed : Scan where
  read f rows := if f.pspReference.isTruthy || f.accountId.isTruthy then rows else rows.reverse
  read_perm f rows := by
    split
    · exact .refl rows
    · exact List.reverse_perm rows

structure Tables where
  responses : List StoredResponse := []
  pendingRequests : List HostedRequest := []
  journal : List JournalRow := []
  isOpen : Bool := true
  scan : Scan := .indexed

namespace Tables

/-- Fails if the connection is closed. -/
def enter (t : Tables) : Except Failure Unit :=
  if t.isOpen then .ok () else .error (.unforeseen "The database connection is not open")

/-- The first record, or the one under a reference if that is not nothing. -/
def lookUp {α : Type} (key : α → Given) (records : List α) (ref : Given) : Option α :=
  records.find? fun r => Column.admits ref (key r)

def getResponse (t : Tables) (ref : Given) : Except Failure (Option StoredResponse) := do
  t.enter
  Column.bind [ref]
  pure (lookUp StoredResponse.pspReference t.responses ref)

def getPendingRequest (t : Tables) (ref : Given) : Except Failure (Option HostedRequest) := do
  t.enter
  Column.bind [ref]
  pure (lookUp HostedRequest.merchantReference t.pendingRequests ref)

/-- The record that a change under a reference is one of; only a text refers to one. -/
def changedBy {α : Type} (key : α → Given) (records : List α) (ref : Given) : Option α :=
  match ref with
  | some (.text s) => Keyed.find? key records (.text s)
  | _ => none

/-- Fails if a table has a record under a key already. -/
def claim {α : Type} (table column : String) (key : α → Given) (records : List α) (ref : Given) :
    Except Failure Unit :=
  match Keyed.find? key records (some (Column.text ref.orNull)) with
  | some _ => .error (.refusedStatement (.takenKey table column))
  | none => .ok ()

/-- The response that is answered to a change: what was given. -/
def givenResponse (now : Instant) (d : StoredResponse.Draft) : StoredResponse where
  pspReference := d.pspReference
  accountId := d.accountId
  tenantId := d.tenantId
  paymentId := d.paymentId
  transactionId := d.transactionId
  transactionType := some d.transactionType.orNull
  additionalData := d.additionalData.orElse (.object [])
  createdAt := now
  updatedAt := now

def responseTexts (r : StoredResponse) : List Given :=
  [r.pspReference, r.accountId, r.tenantId, r.paymentId, r.transactionId, r.transactionType]

def setResponse (row given : StoredResponse) : StoredResponse :=
  { row with
    pspReference := Column.set row.pspReference given.pspReference
    accountId := Column.set row.accountId given.accountId
    tenantId := Column.set row.tenantId given.tenantId
    paymentId := Column.set row.paymentId given.paymentId
    transactionId := Column.set row.transactionId given.transactionId
    transactionType := Column.set row.transactionType given.transactionType
    additionalData := Column.data given.additionalData
    updatedAt := given.updatedAt }

def differs (value column : Given) : Bool :=
  value.isSome && value != column

/-- Whether what was given differs from a row of the responses. -/
def changesResponse (row given : StoredResponse) : Bool :=
  ((responseTexts given).zip (responseTexts row)).any (fun (v, c) => differs v c) ||
    given.additionalData.render != row.additionalData.render

def requireResponse (r : StoredResponse) : Except Failure Unit :=
  Column.require "gateway_responses"
    [ ("psp_reference", r.pspReference), ("account_id", r.accountId), ("tenant_id", r.tenantId),
      ("payment_id", r.paymentId) ]

/-- Inserts a response, or changes the one under its reference. What is left out of a change stays
as it was, and so does a row that nothing changes. -/
def saveResponse (t : Tables) (now : Instant) (d : StoredResponse.Draft) :
    Except Failure (StoredResponse × Tables) := do
  t.enter
  Column.bind [d.pspReference]
  let given := givenResponse now d
  let answer := { given with transactionId := some given.transactionId.orNull }
  let key := StoredResponse.pspReference
  match changedBy key t.responses d.pspReference with
  | none =>
    Column.bind (responseTexts given)
    let row := setResponse answer answer
    requireResponse row
    claim "gateway_responses" "psp_reference" key t.responses d.pspReference
    let answer := { answer with pspReference := row.pspReference }
    pure (answer, { t with responses := t.responses ++ [row] })
  | some old =>
    if changesResponse old given then
      Column.bind (responseTexts given)
      let row := setResponse old given
      requireResponse row
      pure (answer, { t with responses := Keyed.put key t.responses row })
    else pure (given, t)

/-- The hosted request that is answered to a change: what was given. -/
def givenRequest (now : Instant) (d : HostedRequest.Draft) : HostedRequest where
  merchantReference := d.merchantReference
  accountId := d.accountId
  tenantId := d.tenantId
  paymentId := some d.paymentId.orNull
  transactionId := some d.transactionId.orNull
  additionalData := d.additionalData.orElse (.object [])
  createdAt := now

def requestTexts (r : HostedRequest) : List Given :=
  [r.merchantReference, r.accountId, r.tenantId, r.paymentId, r.transactionId]

def setRequest (row given : HostedRequest) : HostedRequest :=
  { row with
    merchantReference := Column.set row.merchantReference given.merchantReference
    accountId := Column.set row.accountId given.accountId
    tenantId := Column.set row.tenantId given.tenantId
    paymentId := Column.set row.paymentId given.paymentId
    transactionId := Column.set row.transactionId given.transactionId
    additionalData := Column.data given.additionalData }

def requireRequest (r : HostedRequest) : Except Failure Unit :=
  Column.require "hosted_payment_requests"
    [ ("merchant_reference", r.merchantReference), ("account_id", r.accountId),
      ("tenant_id", r.tenantId) ]

/-- Inserts a hosted request, or changes the one under its reference. What is left out of a change
stays as it was. -/
def savePendingRequest (t : Tables) (now : Instant) (d : HostedRequest.Draft) :
    Except Failure (HostedRequest × Tables) := do
  t.enter
  Column.bind [d.merchantReference]
  let given := givenRequest now d
  let key := HostedRequest.merchantReference
  Column.bind (requestTexts given)
  match changedBy key t.pendingRequests d.merchantReference with
  | none =>
    let row := setRequest given given
    requireRequest row
    claim "hosted_payment_requests" "merchant_reference" key t.pendingRequests d.merchantReference
    let answer := { given with merchantReference := row.merchantReference }
    pure (answer, { t with pendingRequests := t.pendingRequests ++ [row] })
  | some old =>
    let row := setRequest old given
    requireRequest row
    pure (given, { t with pendingRequests := Keyed.put key t.pendingRequests row })

def isFor (transactionId tenantId : Given) (r : StoredResponse) : Bool :=
  Column.admits transactionId r.transactionId && Column.admits tenantId r.tenantId

/-- Changes the data of the rows of a transaction and tenant; tells whether there were any. -/
def updateMetadata (t : Tables) (now : Instant) (transactionId : Given)
    (changes : List (String × Given)) (tenantId : Given) : Except Failure (Bool × Tables) := do
  t.enter
  Column.bind [transactionId, tenantId]
  let isRow := isFor transactionId tenantId
  let update (r : StoredResponse) : StoredResponse := if isRow r then r.changed now changes else r
  pure (t.responses.any isRow, { t with responses := t.responses.map update })

/-- The entry that is answered to an insertion: what was given, with an amount of both parts or
none. Whether a notice is live is read back. -/
def answeredEntry (e : JournalEntry) : JournalEntry where
  ids := e.ids.filled
  transactionType := some e.transactionType.orNull
  notice :=
    { e.notice with
      amount := JournalRow.amountOf
        (JournalRow.part e.notice.amount "value") (JournalRow.part e.notice.amount "currency")
      live := Column.flag e.notice.live }
  recordedAt := e.recordedAt

def entryValues (e : JournalEntry) : List Given :=
  let n := e.notice
  [ e.ids.accountId, e.ids.tenantId, e.ids.paymentId, e.ids.transactionId, e.transactionType,
    n.pspReference, some n.earlierReference, some n.merchantReference,
    some (JournalRow.part n.amount "value"), some (JournalRow.part n.amount "currency"),
    some n.eventDate, some n.merchantAccountCode, some n.paymentMethod, some n.reason ]

def appendJournal (t : Tables) (e : JournalEntry) : Except Failure (JournalEntry × Tables) := do
  t.enter
  Column.bind (entryValues e)
  let row := JournalRow.ofEntry e
  Column.require "notification_journal" [("psp_reference", some row.pspReference)]
  pure (answeredEntry e, { t with journal := t.journal ++ [row] })

def columnFilter (f : JournalFilter) : JournalFilter :=
  let column (asked : Given) : Given := (asked.filter Json.isTruthy).map Column.text
  { f with
    pspReference := column f.pspReference
    accountId := column f.accountId
    fromDate := Column.bound Column.thousandthYear f.fromDate
    toDate := Column.bound ⟨Column.thousandthYear.millis - 1⟩ f.toDate }

def filterValues (f : JournalFilter) : List Given :=
  [f.pspReference, f.accountId].filter Given.isTruthy

def listing (t : Tables) (f : JournalFilter) : List JournalEntry :=
  let entries := (t.scan.read f t.journal).map JournalRow.toEntry
  (entries.filter (columnFilter f).selects).mergeSort fun a b => b.recordedAt ≤ a.recordedAt

/-- A whole number in a statement, which has to be shorter than 64 bits. -/
def wholeOf (x : Number) : Except Failure Int :=
  match x.toInt? with
  | some i => if i.natAbs < Nat.pow 2 63 then .ok i else .error (.refusedStatement .notWhole)
  | none => .error (.refusedStatement .notWhole)

/-- Fails if a number has no digits to write a statement with. -/
def writable (x : Number) : Except Failure Unit :=
  match x with
  | .infinite _ => .error (.refusedStatement (.noColumn "Infinity"))
  | _ => .ok ()

/-- The part of a listing from a start on; a limit below zero cuts off nothing, and neither does
`null`. -/
def cut {α : Type} (items : List α) (p : Pagination) : Except Failure (List α) := do
  writable p.limit.toNumber
  writable p.start
  if p.limit.isNothing then
    let start ← wholeOf p.start
    pure (items.drop start.toNat)
  else
    let limit ← wholeOf p.limit.toNumber
    if limit = 0 then pure []
    else
      let start ← wholeOf p.start
      let rest := items.drop start.toNat
      pure (if limit < 0 then rest else rest.take limit.toNat)

def listJournal (t : Tables) (f : JournalFilter) (p : Pagination) :
    Except Failure (Page JournalEntry) := do
  f.check
  if p.start = .nan then throw (.refusedStatement .startNotNumber)
  t.enter
  Column.bind (filterValues f)
  let entries := t.listing f
  pure (.of (← cut entries p) entries.length p)

def getStatistics (t : Tables) : Except Failure Statistics := do
  t.enter
  pure
    { responseCount := t.responses.length
      pendingRequestCount := t.pendingRequests.length
      journalEntryCount := t.journal.length
      uncorrelatedJournalEntryCount := (t.journal.filter (·.accountId == .null)).length }

/-- Rows in the order of their keys. -/
def byKey {α : Type} (key : α → Given) (rows : List α) : List α :=
  rows.mergeSort fun a b => (key a).display ≤ (key b).display

def close (t : Tables) : Tables :=
  { t with isOpen := false }

end Tables

end NoticeLedger
