import NoticeLedger.Keyed
import NoticeLedger.Store.Basic

/-!
# NoticeLedger.Store.Memory

A store that keeps its records in memory, in the order in which they came.

* `MemoryStore` — the records, and the operations that are made to fail.
* one function per operation; a failing operation changes nothing.
* `MemoryStore.failOn`, `restore`, `clear`, `inject` — what rehearsals need besides.
-/

namespace NoticeLedger

/-- Records in memory. A record that replaces another takes its place. -/
structure MemoryStore where
  responses : List StoredResponse := []
  pendingRequests : List HostedRequest := []
  journal : List JournalEntry := []
  failures : StoreOperation → Option Failure := fun _ => none
  healthy : Bool := true

namespace MemoryStore

/-- Fails if an operation is made to fail. -/
def enter (s : MemoryStore) (op : StoreOperation) : Except Failure Unit :=
  match s.failures op with
  | some f => if f.isRaised then .error f else .ok ()
  | none => .ok ()

def findResponse (s : MemoryStore) (ref : Given) : Option StoredResponse :=
  Keyed.find? StoredResponse.pspReference s.responses ref

def findPendingRequest (s : MemoryStore) (ref : Given) : Option HostedRequest :=
  Keyed.find? HostedRequest.merchantReference s.pendingRequests ref

def getResponse (s : MemoryStore) (ref : Given) : Except Failure (Option StoredResponse) := do
  s.enter .getResponse
  pure (s.findResponse ref)

def getPendingRequest (s : MemoryStore) (ref : Given) : Except Failure (Option HostedRequest) := do
  s.enter .getPendingRequest
  pure (s.findPendingRequest ref)

/-- The record of a response; one that replaces another keeps the time at which that was made. -/
def responseOf (s : MemoryStore) (now : Instant) (d : StoredResponse.Draft) : StoredResponse where
  pspReference := d.pspReference
  accountId := d.accountId
  tenantId := d.tenantId
  paymentId := d.paymentId
  transactionId := d.transactionId
  transactionType := some d.transactionType.orNull
  additionalData := .object d.additionalData.spread
  createdAt := ((s.findResponse d.pspReference).map (·.createdAt)).getD now
  updatedAt := now

def saveResponse (s : MemoryStore) (now : Instant) (d : StoredResponse.Draft) :
    Except Failure (StoredResponse × MemoryStore) := do
  s.enter .saveResponse
  let record := s.responseOf now d
  pure (record, { s with responses := Keyed.put StoredResponse.pspReference s.responses record })

def requestOf (now : Instant) (d : HostedRequest.Draft) : HostedRequest where
  merchantReference := d.merchantReference
  accountId := d.accountId
  tenantId := d.tenantId
  paymentId := some d.paymentId.orNull
  transactionId := some d.transactionId.orNull
  additionalData := .object d.additionalData.spread
  createdAt := now

def savePendingRequest (s : MemoryStore) (now : Instant) (d : HostedRequest.Draft) :
    Except Failure (HostedRequest × MemoryStore) := do
  s.enter .savePendingRequest
  let record := requestOf now d
  let records := Keyed.put HostedRequest.merchantReference s.pendingRequests record
  pure (record, { s with pendingRequests := records })

/-- Whether a response was stored for a transaction of a tenant. -/
def isFor (transactionId tenantId : Given) (r : StoredResponse) : Bool :=
  r.transactionId == transactionId && r.tenantId == tenantId

/-- Changes the data of the responses stored for a transaction of a tenant. -/
def updateMetadata (s : MemoryStore) (now : Instant) (transactionId : Given)
    (changes : List (String × Given)) (tenantId : Given) : Except Failure MemoryStore := do
  s.enter .updateMetadata
  let update (r : StoredResponse) : StoredResponse :=
    if isFor transactionId tenantId r then r.changed now changes else r
  pure { s with responses := s.responses.map update }

def appendJournal (s : MemoryStore) (e : JournalEntry) :
    Except Failure (JournalEntry × MemoryStore) := do
  s.enter .appendJournal
  pure (e, { s with journal := s.journal ++ [e] })

/-- The entries asked for, newest first; of entries of one time the one added later comes first. -/
def listing (journal : List JournalEntry) (f : JournalFilter) : List JournalEntry :=
  (journal.reverse.filter f.selects).mergeSort fun a b => b.recordedAt ≤ a.recordedAt

def listJournal (s : MemoryStore) (f : JournalFilter) (p : Pagination) :
    Except Failure (Page JournalEntry) := do
  s.enter .listJournal
  f.check
  pure (.ofListing (listing s.journal f) p)

def getStatistics (s : MemoryStore) : Except Failure Statistics := do
  s.enter .getStatistics
  pure
    { responseCount := s.responses.length
      pendingRequestCount := s.pendingRequests.length
      journalEntryCount := s.journal.length
      uncorrelatedJournalEntryCount := (s.journal.filter (!·.isCorrelated)).length }

/-- Makes an operation fail until `restore`. -/
def failOn (s : MemoryStore) (op : StoreOperation) (failure : Option Failure) : MemoryStore :=
  let failure := failure.getD (.plain s!"Simulated {op.name} failure")
  { s with failures := fun o => if o = op then some failure else s.failures o }

def restore (s : MemoryStore) : MemoryStore :=
  { s with failures := fun _ => none }

def clear (s : MemoryStore) : MemoryStore :=
  { healthy := s.healthy }

def inject (s : MemoryStore) (responses : List StoredResponse)
    (pendingRequests : List HostedRequest) : MemoryStore :=
  { s with
    responses := responses.foldl (Keyed.put StoredResponse.pspReference) s.responses
    pendingRequests :=
      pendingRequests.foldl (Keyed.put HostedRequest.merchantReference) s.pendingRequests }

end MemoryStore

end NoticeLedger
