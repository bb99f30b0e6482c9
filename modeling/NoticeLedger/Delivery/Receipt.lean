import NoticeLedger.Delivery.Reconcile

/-!
# NoticeLedger.Delivery.Receipt

What is told about a delivery.

* `Receipt`, `BatchReceipt` — the signal, the fate and the outcome of one notice; those of a batch.
* `Observers` — who is told of failures and fates.
* `deliver` — delivers one notice and tells what became of it.
* `closeBatch` — what is told about a batch whose notices were delivered.

Observers are told the failure and the fate of a notice. One that fails is noted in the log and
changes nothing else, unless no sentence can hold its failure: that failure is not held back.
-/

namespace NoticeLedger

structure Receipt where
  signal : Signal
  fate : Fate
  classification : Classification
  result : Except Failure Outcome

structure BatchReceipt where
  signal : Signal
  receipts : List Receipt

/-- Observers of deliveries. Whether one fails, and how, may depend on all that was told so far; the
last of it is what it is told now. -/
structure Observers where
  onFate : List Observation → Option Failure := fun _ => none
  onFailure : List Observation → Option Failure := fun _ => none

namespace Delivery

def fateOfOutcome : Outcome → Fate
  | .journaledOnly => .unmatched
  | _ => .reconciled

def fateOfFailure (f : Failure) : Fate :=
  match f.disposition with
  | .fatal => .malformed
  | .benign => .unmatched
  | .retryable => .retryRequested

/-- A failure as it is told: a bare value becomes words. -/
def toldFailure : Failure → Failure
  | .value v => .plain v.display
  | f => f

def receiptOf (n : Notice) (result : Except Failure Outcome) : Receipt :=
  match result with
  | .ok outcome =>
    { signal := signalOf none
      fate := fateOfOutcome outcome
      classification := n.classification
      result := .ok outcome }
  | .error f =>
    let f := toldFailure f
    { signal := signalOf (some f)
      fate := fateOfFailure f
      classification := n.classification
      result := .error f }

def noteFailure (n : Notice) (f : Failure) : StateM Desk Unit :=
  match f.disposition with
  | .fatal =>
    Desk.note .processor .error s!"Dropping malformed notification {n.describe}: {f.message}"
  | .benign =>
    Desk.note .processor .info s!"Notification {n.describe} needs no action: {f.message}"
  | .retryable =>
    Desk.note .processor .warning s!"Notification {n.describe} will be redelivered: {f.message}"

/-- Notes that an observer failed, if it did; a failure without words cannot be noted. -/
def noteMisbehaviour (name : String) : Option Failure → Action Unit
  | none => pure ()
  | some f =>
    if f.isWordless then throw .wordless
    else Desk.note .processor .error s!"Lifecycle hook {name} failed: {f.message}"

def tell (name : String) (hook : List Observation → Option Failure) (o : Observation) :
    Action Unit := do
  Desk.observe o
  noteMisbehaviour name (hook (← get).observations)

def toldOperation (f : Failure) : Option String :=
  if f.isClassified then f.operation? else some "processNotification"

def failureObservation (n : Notice) (f : Failure) : Observation :=
  .failure f (toldOperation f) n.eventCode n.pspReference

/-- An entry of the ledger as it is told; one that is not known is left out. -/
def known (id : Given) : Given :=
  id.filter (· ≠ .null)

def fateObservation (n : Notice) (r : Receipt) : Observation :=
  let ids : LedgerIds := match r.result with
    | .ok outcome => outcome.ids
    | .error _ => {}
  let failure := match r.result with
    | .ok _ => none
    | .error f => some f
  .fate n.eventCode n.pspReference r.classification r.fate (known ids.accountId)
    (known ids.transactionId) failure

def announceFailure (observers : Option Observers) (n : Notice) (f : Failure) : Action Unit := do
  noteFailure n f
  match observers with
  | none => pure ()
  | some o => tell "onError" o.onFailure (failureObservation n f)

def announceFate (observers : Option Observers) (n : Notice) (r : Receipt) : Action Unit :=
  match observers with
  | none => pure ()
  | some o => tell "onNotificationFate" o.onFate (fateObservation n r)

/-- Tells what became of a notice: first its failure, if it has one, then its fate. -/
def announce (observers : Option Observers) (n : Notice) (r : Receipt) : Action Unit := do
  match r.result with
  | .ok _ => pure ()
  | .error f => announceFailure observers n f
  announceFate observers n r

/-- Delivers one notice: its receipt, and what came of telling it. -/
def deliver (p : Profile) (observers : Option Observers) (n : Notice) :
    StateM Desk (Receipt × Except Failure Unit) := do
  let result ← (reconcile p n n.classification).run
  let receipt := receiptOf n result
  let told ← (announce observers n receipt).run
  pure (receipt, told)

/-- What is told about a batch: one notice that asks for another delivery asks for all. -/
def batchReceiptOf (receipts : List Receipt) : BatchReceipt :=
  let retry := receipts.any (·.signal.retryRequested)
  ⟨⟨!retry, retry⟩, receipts⟩

/-- The receipt of a batch with the given receipts; another delivery of it is noted. -/
def closeBatch (receipts : List Receipt) : StateM Desk BatchReceipt := do
  let batch := batchReceiptOf receipts
  if batch.signal.retryRequested then
    let failed := (receipts.filter (·.signal.retryRequested)).length
    Desk.note .processor .warning
      s!"Requesting redelivery of a batch of {receipts.length} ({failed} failed)"
  pure batch

end Delivery

end NoticeLedger
