import NoticeLedger.Store.Memory
import NoticeLedger.Store.Relational

/-!
# NoticeLedger.Store

A store of either kind.

* `Store` — records in memory, or rows of tables.
* one function per operation, each that of the kind.
-/

namespace NoticeLedger

/-- A store. -/
inductive Store where
  | memory (s : MemoryStore)
  | relational (t : Tables)

namespace Store

def getResponse (s : Store) (ref : Given) : Except Failure (Option StoredResponse) :=
  match s with
  | memory m => m.getResponse ref
  | relational t => t.getResponse ref

def getPendingRequest (s : Store) (ref : Given) : Except Failure (Option HostedRequest) :=
  match s with
  | memory m => m.getPendingRequest ref
  | relational t => t.getPendingRequest ref

def saveResponse (s : Store) (now : Instant) (d : StoredResponse.Draft) :
    Except Failure (StoredResponse × Store) :=
  match s with
  | memory m => (m.saveResponse now d).map fun (r, m) => (r, memory m)
  | relational t => (t.saveResponse now d).map fun (r, t) => (r, relational t)

def savePendingRequest (s : Store) (now : Instant) (d : HostedRequest.Draft) :
    Except Failure (HostedRequest × Store) :=
  match s with
  | memory m => (m.savePendingRequest now d).map fun (r, m) => (r, memory m)
  | relational t => (t.savePendingRequest now d).map fun (r, t) => (r, relational t)

/-- Changes the data of the responses stored for a transaction of a tenant; tells whether a miss is
worth a line of the log. -/
def updateMetadata (s : Store) (now : Instant) (transactionId : Given)
    (changes : List (String × Given)) (tenantId : Given) : Except Failure (Bool × Store) :=
  match s with
  | memory m => (m.updateMetadata now transactionId changes tenantId).map fun m =>
    (false, memory m)
  | relational t => (t.updateMetadata now transactionId changes tenantId).map fun (hit, t) =>
    (!hit, relational t)

def appendJournal (s : Store) (e : JournalEntry) : Except Failure (JournalEntry × Store) :=
  match s with
  | memory m => (m.appendJournal e).map fun (e, m) => (e, memory m)
  | relational t => (t.appendJournal e).map fun (e, t) => (e, relational t)

def listJournal (s : Store) (f : JournalFilter) (p : Pagination) :
    Except Failure (Page JournalEntry) :=
  match s with
  | memory m => m.listJournal f p
  | relational t => t.listJournal f p

def getStatistics (s : Store) : Except Failure Statistics :=
  match s with
  | memory m => m.getStatistics
  | relational t => t.getStatistics

/-- Why a store is not well: nothing, or a failure to report, if there is one. -/
def complaint (s : Store) : Except (Option Failure) Unit :=
  match s with
  | memory m => if m.healthy then .ok () else .error none
  | relational t =>
    match t.enter with
    | .ok () => .ok ()
    | .error f => .error (some f)

/-- Closes the connection, if there is one. -/
def close (s : Store) : Store :=
  match s with
  | memory m => memory m
  | relational t => relational t.close

end Store

end NoticeLedger
