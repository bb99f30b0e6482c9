import NoticeLedger.Platform
import NoticeLedger.Store

/-!
# NoticeLedger.Delivery.Desk

What deliveries are worked on with.

* `Desk` — the store, the platform and the time, and what was written and told so far.
* `Action` — something done at a desk, which may fail and leaves the desk changed either way.
* `Desk.getResponse` and the like — the operations of the store and the platform as actions.
* `resultOf` — an action that goes on after a failure.
* `guarded` — an action whose failure gets a disposition.
-/

namespace NoticeLedger

inductive Fate where
  | reconciled
  | unmatched
  | malformed
  | retryRequested
  deriving DecidableEq, Repr

def Fate.name : Fate → String
  | reconciled => "reconciled"
  | unmatched => "unmatched"
  | malformed => "malformed"
  | retryRequested => "retry_requested"

inductive Observation where
  | fate (eventCode : String) (pspReference : Given) (classification : Classification)
      (fate : Fate) (accountId transactionId : Given) (failure : Option Failure)
  | failure (failure : Failure) (operation : Option String) (eventCode : String)
      (pspReference : Given)

/-- What is done when a purchase was recorded, before it is answered. -/
structure PurchaseHook where
  /-- The response to be stored, for the payment and the context of the call. -/
  save : Option (Payment → CallContext → StoredResponse.Draft) := none
  /-- The failure that follows. -/
  failure : Option Failure := none

structure Desk where
  store : Store
  platform : Platform
  now : Instant
  onPurchase : PurchaseHook := {}
  log : List Log.Line := []
  journaled : List JournalEntry := []
  observations : List Observation := []

abbrev Action := ExceptT Failure (StateM Desk)

namespace Desk

def note (source : Log.Source) (level : Log.Level) (message : String) : StateM Desk Unit :=
  modify fun d => { d with log := d.log ++ [⟨level, source, message⟩] }

def observe (o : Observation) : StateM Desk Unit :=
  modify fun d => { d with observations := d.observations ++ [o] }

/-- Asks the store, which stays as it is. -/
def ask {α : Type} (question : Store → Except Failure α) : Action α :=
  fun d => (question d.store, d)

def change {α : Type} (operation : Store → Instant → Except Failure (α × Store)) : Action α :=
  fun d =>
    match operation d.store d.now with
    | .ok (a, s) => (.ok a, { d with store := s })
    | .error f => (.error f, d)

def call {α : Type} (operation : Platform → α × Platform) : StateM Desk α :=
  fun d =>
    let (a, p) := operation d.platform
    (a, { d with platform := p.quiet, log := d.log ++ p.log })

def getResponse (ref : Given) : Action (Option StoredResponse) :=
  ask fun s => s.getResponse ref

def getPendingRequest (ref : Given) : Action (Option HostedRequest) :=
  ask fun s => s.getPendingRequest ref

def saveResponse (draft : StoredResponse.Draft) : Action StoredResponse :=
  change fun s now => s.saveResponse now draft

def savePendingRequest (draft : HostedRequest.Draft) : Action HostedRequest :=
  change fun s now => s.savePendingRequest now draft

def updateMetadata (transactionId : Given) (changes : List (String × Given)) (tenantId : Given) :
    Action Unit := do
  let missed ← change fun s now => s.updateMetadata now transactionId changes tenantId
  if missed then
    note .store .debug
      s!"No stored response for transaction {transactionId.display}, metadata not updated"

def appendJournal (entry : JournalEntry) : Action JournalEntry := do
  let entry ← change fun s _ => s.appendJournal entry
  modify fun d => { d with journaled := d.journaled ++ [entry] }
  pure entry

def listJournal (f : JournalFilter) (p : Pagination) : Action (Page JournalEntry) :=
  ask fun s => s.listJournal f p

def getStatistics : Action Statistics :=
  ask Store.getStatistics

def getAccount (id : Given) (context : CallContext) : Action Account :=
  ExceptT.mk (call fun p => p.getAccount id context)

def listPaymentMethods (accountId : Given) (context : CallContext) :
    Action (List PaymentMethod) :=
  ExceptT.mk (call fun p => p.listPaymentMethods accountId context)

def reportState (account : Account) (transactionId success : Given)
    (context : CallContext) : Action Payment :=
  ExceptT.mk (call fun p => p.reportState account transactionId success context)

def createChargeback (account : Account) (order : ChargebackOrder) (context : CallContext) :
    Action Payment :=
  ExceptT.mk (call fun p => p.createChargeback account order context)

/-- Does what is to be done after a purchase; only a ledger in memory has something done. -/
def afterPurchase (payment : Payment) (context : CallContext) : Action Unit := do
  let d ← get
  if d.platform.isBook then
    if let some draft := d.onPurchase.save then
      let _ ← saveResponse (draft payment context)
    if let some failure := d.onPurchase.failure then
      throw failure

/-- Records a purchase. It stays recorded even if what is done after it fails. -/
def createPurchase (account : Account) (order : PurchaseOrder) (context : CallContext) :
    Action Payment := do
  let payment ← ExceptT.mk (call fun p => p.createPurchase account order context)
  afterPurchase payment context
  pure payment

def storeIsHealthy : StateM Desk Bool := do
  match (← get).store.complaint with
  | .ok () => pure true
  | .error none => pure false
  | .error (some f) =>
    note .store .warning s!"Health probe failed: {f.message}"
    pure false

def platformIsHealthy : Action Bool :=
  ExceptT.mk (call Platform.isHealthy)

end Desk

/-- The result of an action, a failure included. -/
def resultOf {α : Type} (action : Action α) : Action (Except Failure α) :=
  ExceptT.lift action.run

/-- An action whose failure gets a disposition: that of one call to the outside. -/
def guarded {α : Type} (operation : String) (benignCodes : List String) (action : Action α) :
    Action α :=
  action.adapt (Failure.wrap operation benignCodes)

end NoticeLedger
