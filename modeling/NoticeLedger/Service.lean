import NoticeLedger.Delivery.Receipt
import NoticeLedger.Intake.Batch
import NoticeLedger.Intake.Query

/-!
# NoticeLedger.Service

What the gateway and operators ask of the reconciler.

* `Reconciler` — how it is set up.
* `Reconciler.process`, `processBatch` — delivers notices.
* `Reconciler.handleBatch`, `receive` — takes a batch; `receive` answers as the gateway expects.
* `Reconciler.listJournal` — answers a query of the journal.
* `Reconciler.readiness` — tells whether the store and the platform are well.
-/

namespace NoticeLedger

structure Reconciler where
  profile : Delivery.Profile
  observers : Option Observers := none
  maxBatchSize : Option Number := none

structure Readiness where
  store : Bool
  platform : Bool
  deriving DecidableEq, Repr

def Readiness.isReady (r : Readiness) : Bool :=
  r.store && r.platform

namespace Reconciler

def standard : Reconciler where
  profile := ⟨"payment-gateway", "notification-reconciler"⟩
  maxBatchSize := some 100

/-- Delivers one notice. There is no receipt if an observer fails without words. -/
def process (r : Reconciler) (n : Notice) : Action Receipt := do
  let (receipt, told) ← Delivery.deliver r.profile r.observers n
  ExceptT.mk (pure (told.map fun _ => receipt))

/-- Delivers the notices of a batch, in order, as long as there are receipts. -/
def processBatch (r : Reconciler) (notices : List Notice) : Action BatchReceipt := do
  let receipts ← notices.mapM r.process
  Delivery.closeBatch receipts

/-- Delivers the notices of a batch as it was posted. -/
def handleBatch (r : Reconciler) (body : Option Json) : Action BatchReceipt := do
  let notices ← ExceptT.mk (pure (Batch.parse r.maxBatchSize body))
  Desk.note .service .info s!"Received {notices.length} notification(s)"
  r.processBatch notices

/-- The refusal of a batch that cannot be read. -/
def unreadable (message : String) (violations : List String) : Failure :=
  .refused 400 (.object [
    ("message", .text message),
    ("violations", .array (violations.map .text))])

def redeliver : Failure :=
  .refused 503 (.object [
    ("message", .text "Notification batch could not be fully processed, please redeliver"),
    ("error", .text "Service Unavailable"),
    ("statusCode", .number 503)])

/-- The answer that the gateway takes as an acknowledgement. -/
def acknowledgement : String := "[accepted]"

/-- Takes a batch from the gateway: acknowledges it, or refuses it. -/
def receive (r : Reconciler) (body : Option Json) : Action String := do
  match ← resultOf (r.handleBatch body) with
  | .ok batch => if batch.signal.retryRequested then throw redeliver else pure acknowledgement
  | .error (.unreadable message violations) =>
    Desk.note .endpoint .warning s!"Rejected notification batch: {message}"
    throw (unreadable message violations)
  | .error f => throw f

def listJournal (query : Members) : Action (Page JournalEntry) := do
  let m ← ExceptT.mk (pure (Query.accept query))
  Desk.listJournal (Query.filter m) (Query.pagination m)

/-- Tells whether the store and the platform are well. Both are asked at once, and the platform's
complaint comes first unless it keeps silent for a while. -/
def readiness : Action Readiness := do
  if (← get).platform.keepsSilent then
    let store ← Desk.storeIsHealthy
    let platform ← Desk.platformIsHealthy
    pure ⟨store, platform⟩
  else
    let answer ← resultOf Desk.platformIsHealthy
    let store ← Desk.storeIsHealthy
    let platform ← ExceptT.mk (pure answer)
    pure ⟨store, platform⟩

def close : StateM Desk Unit :=
  modify fun d => { d with store := d.store.close }

end Reconciler

end NoticeLedger
