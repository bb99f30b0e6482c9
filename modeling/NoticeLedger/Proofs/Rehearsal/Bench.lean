import Mathlib
import NoticeLedger.Delivery.Receipt

/-!
# NoticeLedger.Proofs.Rehearsal.Bench

Desks whose records and whose ledger are in memory.

* `Action.bind_ok` and the like — what an action comes to at a desk, by what its first part does.
* `Bench` — what a delivery at such a desk reads and changes; the log and what observers were told
  are left out.
* `Bench.On d` — the desk `d` has the records, the ledger, the time and the hook of the bench.
* `Gives x w a w'` — at every desk with the bench `w`, `x` gives `a` and leaves the bench `w'`.
* `Sample.bench`, `Sample.authorisation` — a bench, and a notice to deliver there.

Actions are made of actions, and so is what they give: `Gives.bind`, `Gives.bind_ok`,
`Gives.bind_error`, `Gives.guarded`. The operations of the store and of the ledger give what the
memory store and the book answer.
-/

namespace NoticeLedger

/-! ## Actions -/

namespace Action

variable {α β : Type} {d d₁ : Desk} {e : Failure}

theorem bind_ok {x : Action α} {f : α → Action β} {a : α} (h : x d = (.ok a, d₁)) :
    (x >>= f : Action β) d = f a d₁ := by
  show (ExceptT.bindCont f (x d).1 : StateM Desk (Except Failure β)) (x d).2 = f a d₁
  rw [h]
  rfl

theorem bind_error {x : Action α} {f : α → Action β} (h : x d = (.error e, d₁)) :
    (x >>= f : Action β) d = (.error e, d₁) := by
  show (ExceptT.bindCont f (x d).1 : StateM Desk (Except Failure β)) (x d).2 = (.error e, d₁)
  rw [h]
  rfl

theorem mapM_cons_ok {f : α → Action β} {a : α} {b : β} (h : f a d = (.ok b, d₁))
    (rest : List α) :
    (a :: rest).mapM f d = ((rest.mapM f d₁).1.map (b :: ·), (rest.mapM f d₁).2) := by
  rw [List.mapM_cons, bind_ok h]
  cases hrest : rest.mapM f d₁ with
  | mk result d₂ =>
    cases result with
    | ok bs => exact bind_ok hrest
    | error e => exact bind_error hrest

theorem mapM_cons_error {f : α → Action β} {a : α} (h : f a d = (.error e, d₁))
    (rest : List α) : (a :: rest).mapM f d = (.error e, d₁) := by
  rw [List.mapM_cons]
  exact bind_error h

end Action

/-! ## Benches -/

/-- What a delivery reads and changes at a desk whose records and whose ledger are in memory. -/
structure Bench where
  store : MemoryStore
  book : Book
  now : Instant
  hook : PurchaseHook := {}

/-- A desk has the records, the ledger, the time and the hook of a bench. -/
structure Bench.On (w : Bench) (d : Desk) : Prop where
  store : d.store = .memory w.store
  platform : d.platform = .book w.book
  now : d.now = w.now
  hook : d.onPurchase = w.hook

/-- A desk with a bench, where nothing was written or told. -/
def Bench.desk (w : Bench) : Desk where
  store := .memory w.store
  platform := .book w.book
  now := w.now
  onPurchase := w.hook

theorem Bench.on_desk (w : Bench) : w.On w.desk := ⟨rfl, rfl, rfl, rfl⟩

/-- At every desk with the bench `w`, `x` gives `a` and leaves a desk with the bench `w'`. -/
def Gives {α : Type} (x : StateM Desk α) (w : Bench) (a : α) (w' : Bench) : Prop :=
  ∀ d, w.On d → ∃ d', x d = (a, d') ∧ w'.On d'

namespace Gives

variable {α β : Type} {w w₁ w₂ : Bench}

theorem pure (a : α) (w : Bench) : Gives (Pure.pure a) w a w :=
  fun d hd => ⟨d, rfl, hd⟩

theorem bind {x : StateM Desk α} {f : α → StateM Desk β} {a : α} {b : β}
    (hx : Gives x w a w₁) (hf : Gives (f a) w₁ b w₂) : Gives (x >>= f) w b w₂ := by
  intro d hd
  obtain ⟨d₁, h₁, hd₁⟩ := hx d hd
  obtain ⟨d₂, h₂, hd₂⟩ := hf d₁ hd₁
  refine ⟨d₂, ?_, hd₂⟩
  show f (x d).1 (x d).2 = (b, d₂)
  rw [h₁]
  exact h₂

/-- What is read from the desk is the same at every desk with the bench only in part. -/
theorem bind_get {f : Desk → StateM Desk β} {b : β}
    (hf : ∀ d, w.On d → Gives (f d) w b w₁) : Gives (get >>= f) w b w₁ :=
  fun d hd => hf d hd d hd

/-- The same for an action that may fail. -/
theorem bind_read {f : Desk → Action β} {b : Except Failure β}
    (hf : ∀ d, w.On d → Gives (f d) w b w₁) : Gives (get >>= f : Action β) w b w₁ :=
  fun d hd => hf d hd d hd

theorem bind_ok {x : Action α} {f : α → Action β} {a : α} {r : Except Failure β}
    (hx : Gives x w (.ok a) w₁) (hf : Gives (f a) w₁ r w₂) : Gives (x >>= f : Action β) w r w₂ :=
  bind (f := ExceptT.bindCont f) hx hf

theorem bind_error {x : Action α} {f : α → Action β} {e : Failure}
    (hx : Gives x w (.error e) w₁) : Gives (x >>= f : Action β) w (.error e) w₁ :=
  bind (f := ExceptT.bindCont f) hx (pure _ _)

/-- An action taken as what it comes to. Without this step a look at the two forms would open the
action. -/
theorem run {x : Action α} {r : Except Failure α} (hx : Gives x w r w₁) : Gives x.run w r w₁ :=
  hx

theorem guarded {x : Action α} {r : Except Failure α} (operation : String) (codes : List String)
    (hx : Gives x w r w₁) :
    Gives (NoticeLedger.guarded operation codes x) w
      (r.mapError (Failure.wrap operation codes)) w₁ := by
  intro d hd
  obtain ⟨d₁, h₁, hd₁⟩ := hx d hd
  refine ⟨d₁, ?_, hd₁⟩
  show ((x d).1.mapError (Failure.wrap operation codes), (x d).2) = _
  rw [h₁]

/-- An action that cannot fail, as one that could. -/
theorem lift {x : StateM Desk α} {a : α} (hx : Gives x w a w₁) :
    Gives (ExceptT.lift x : Action α) w (Except.ok a) w₁ := by
  intro d hd
  obtain ⟨d₁, h₁, hd₁⟩ := hx d hd
  refine ⟨d₁, ?_, hd₁⟩
  show (Except.ok (x d).1, (x d).2) = _
  rw [h₁]

theorem modified {f : Desk → Desk} (hf : ∀ d, w.On d → w₁.On (f d)) :
    Gives (modify f) w () w₁ :=
  fun d hd => ⟨f d, rfl, hf d hd⟩

theorem note (source : Log.Source) (level : Log.Level) (message : String) (w : Bench) :
    Gives (Desk.note source level message) w () w :=
  modified fun _ hd => ⟨hd.store, hd.platform, hd.now, hd.hook⟩

theorem observe (o : Observation) (w : Bench) : Gives (Desk.observe o) w () w :=
  modified fun _ hd => ⟨hd.store, hd.platform, hd.now, hd.hook⟩

/-! ## Operations of the store -/

theorem ask {question : Store → Except Failure α} {r : Except Failure α}
    (h : question (.memory w.store) = r) : Gives (Desk.ask question) w r w := by
  intro d hd
  refine ⟨d, ?_, hd⟩
  rw [Desk.ask, hd.store, h]

theorem change_ok {operation : Store → Instant → Except Failure (α × Store)} {a : α}
    {s : MemoryStore} (h : operation (.memory w.store) w.now = .ok (a, .memory s)) :
    Gives (Desk.change operation) w (.ok a) { w with store := s } := by
  intro d hd
  refine ⟨{ d with store := .memory s }, ?_, rfl, hd.platform, hd.now, hd.hook⟩
  rw [Desk.change, hd.store, hd.now, h]

theorem change_error {operation : Store → Instant → Except Failure (α × Store)} {f : Failure}
    (h : operation (.memory w.store) w.now = .error f) :
    Gives (Desk.change operation) w (.error f) w := by
  intro d hd
  refine ⟨d, ?_, hd⟩
  rw [Desk.change, hd.store, hd.now, h]

theorem getResponse (ref : Given) (w : Bench) :
    Gives (Desk.getResponse ref) w (w.store.getResponse ref) w :=
  ask rfl

theorem getPendingRequest (ref : Given) (w : Bench) :
    Gives (Desk.getPendingRequest ref) w (w.store.getPendingRequest ref) w :=
  ask rfl

theorem saveResponse_ok {draft : StoredResponse.Draft} {r : StoredResponse} {s : MemoryStore}
    (h : w.store.saveResponse w.now draft = .ok (r, s)) :
    Gives (Desk.saveResponse draft) w (.ok r) { w with store := s } :=
  change_ok (by rw [Store.saveResponse, h]; rfl)

theorem saveResponse_error {draft : StoredResponse.Draft} {f : Failure}
    (h : w.store.saveResponse w.now draft = .error f) :
    Gives (Desk.saveResponse draft) w (.error f) w :=
  change_error (by rw [Store.saveResponse, h]; rfl)

theorem updateMetadata_ok {id tenant : Given} {changes : List (String × Given)} {s : MemoryStore}
    (h : w.store.updateMetadata w.now id changes tenant = .ok s) :
    Gives (Desk.updateMetadata id changes tenant) w (.ok ()) { w with store := s } := by
  have hs : (Store.memory w.store).updateMetadata w.now id changes tenant =
      .ok (false, .memory s) := by
    rw [Store.updateMetadata, h]
    rfl
  exact bind_ok (change_ok hs) (pure (Except.ok ()) _)

theorem updateMetadata_error {id tenant : Given} {changes : List (String × Given)} {f : Failure}
    (h : w.store.updateMetadata w.now id changes tenant = .error f) :
    Gives (Desk.updateMetadata id changes tenant) w (.error f) w := by
  refine bind_error (change_error ?_)
  rw [Store.updateMetadata, h]
  rfl

theorem appendJournal_ok {e : JournalEntry} (h : w.store.enter .appendJournal = .ok ()) :
    Gives (Desk.appendJournal e) w (.ok e)
      { w with store := { w.store with journal := w.store.journal ++ [e] } } := by
  have hs : (Store.memory w.store).appendJournal e =
      .ok (e, .memory { w.store with journal := w.store.journal ++ [e] }) := by
    rw [Store.appendJournal, MemoryStore.appendJournal, h]
    rfl
  have kept (w : Bench) : Gives (modify fun d : Desk =>
      { d with journaled := d.journaled ++ [e] } : Action Unit) w (Except.ok ()) w :=
    fun _ hd => ⟨_, rfl, hd.store, hd.platform, hd.now, hd.hook⟩
  exact bind_ok (change_ok hs) (bind_ok (kept _) (pure (Except.ok e) _))

theorem appendJournal_error {e : JournalEntry} {f : Failure}
    (h : w.store.enter .appendJournal = .error f) :
    Gives (Desk.appendJournal e) w (.error f) w := by
  refine bind_error (change_error ?_)
  rw [Store.appendJournal, MemoryStore.appendJournal, h]
  rfl

/-! ## Operations of the ledger -/

theorem call {operation : Platform → Except Failure α × Platform} {r : Except Failure α}
    {b : Book} (h : operation (.book w.book) = (r, .book b)) :
    Gives (ExceptT.mk (Desk.call operation)) w r { w with book := b } := by
  intro d hd
  refine ⟨{ d with platform := .book b, log := d.log ++ [] }, ?_, hd.store, rfl, hd.now, hd.hook⟩
  rw [ExceptT.mk, Desk.call, hd.platform, h]
  rfl

theorem getAccount {id : Given} {r : Except Failure Account} {b : Book} (context : CallContext)
    (h : w.book.getAccount id = (r, b)) :
    Gives (Desk.getAccount id context) w r { w with book := b } :=
  call (by simp only [Platform.getAccount, h])

theorem listPaymentMethods {id : Given} {r : Except Failure (List PaymentMethod)} {b : Book}
    (context : CallContext) (h : w.book.listPaymentMethods id = (r, b)) :
    Gives (Desk.listPaymentMethods id context) w r { w with book := b } :=
  call (by simp only [Platform.listPaymentMethods, h])

theorem reportState {account : Account} {id success : Given} {context : CallContext}
    {r : Except Failure Payment} {b : Book}
    (h : w.book.reportState account id success context = (r, b)) :
    Gives (Desk.reportState account id success context) w r { w with book := b } :=
  call (by simp only [Platform.reportState, h])

theorem createChargeback {account : Account} {order : ChargebackOrder} {context : CallContext}
    {r : Except Failure Payment} {b : Book}
    (h : w.book.createChargeback account order context = (r, b)) :
    Gives (Desk.createChargeback account order context) w r { w with book := b } :=
  call (by simp only [Platform.createChargeback, h])

end Gives

/-! ## A bench to rehearse at -/

namespace Sample

/-- Whose payment methods are used. -/
def profile : Delivery.Profile := ⟨"gateway", "reconciler"⟩

/-- The response to an operation that waits for its outcome. -/
def response : StoredResponse where
  pspReference := .text "psp-1"
  accountId := .text "account-1"
  tenantId := .text "tenant-1"
  paymentId := .text "payment-1"
  transactionId := .text "transaction-1"
  transactionType := .text TransactionKind.authorize.name
  additionalData := .object []
  createdAt := ⟨0⟩
  updatedAt := ⟨0⟩

/-- The transaction of that operation. -/
def transaction : Transaction where
  id := .text "transaction-1"
  paymentId := .text "payment-1"
  kind := TransactionKind.authorize.given
  status := TransactionStatus.pending.given

/-- An account with a payment method and a payment; the payment has one transaction. -/
def book : Book where
  accounts := [⟨.text "account-1", .null, .null⟩]
  methods := [⟨.text "method-1", .text "account-1", .text "gateway", some (.bool true)⟩]
  payments := [⟨.text "payment-1", .text "account-1", .text "method-1", .null, [transaction]⟩]
  paymentCount := 1
  transactionCount := 1

/-- One response is stored, and nothing is made to fail. -/
def bench : Bench where
  store := { responses := [response] }
  book := book
  now := ⟨1⟩

/-- The outcome of that operation. -/
def authorisation : Notice where
  eventCode := "AUTHORISATION"
  pspReference := .text "psp-1"
  earlierReference := .null
  merchantReference := .text "order-1"
  amount := some [("value", .number 1000), ("currency", .text "EUR")]
  success := .bool true
  additionalData := none
  eventDate := .null
  merchantAccountCode := .null
  operations := none
  paymentMethod := .null
  reason := .null
  live := .bool false

end Sample

end NoticeLedger
