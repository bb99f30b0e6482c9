import NoticeLedger.Proofs.Rehearsal.Determined
import NoticeLedger.Proofs.Rehearsal.Records

/-!
# NoticeLedger.Proofs.Rehearsal.Alike

Benches at which a notice fares the same.

* `Book.Alike` — two books that differ at most in how they remember their calls.
* `MemoryStore.Alike` — two stores that differ at most in their journals and in when a response was
  last changed.
* `Bench.Alike` — both, at any two times, and without a hook.
* `Course.alike` — acting on the same finding at such benches comes to the same result, and leaves
  such benches.
-/

namespace NoticeLedger

/-! ## Books -/

/-- A book that differs from another at most in how it remembers its calls. -/
def Book.Alike (b b₂ : Book) : Prop :=
  ∃ calls purchases chargebacks stateChanges,
    b₂ = { b with
      calls := calls
      purchases := purchases
      chargebacks := chargebacks
      stateChanges := stateChanges }

namespace Book

variable {α : Type} {b b' b₂ : Book} {account : Account} {context context₂ : CallContext}
  {f : Failure}

theorem Alike.refl (b : Book) : b.Alike b := ⟨_, _, _, _, rfl⟩

/-- The answer of one book and that of a book like it. -/
def AnswersAlike (x x₂ : Except Failure α × Book) : Prop :=
  x.1 = x₂.1 ∧ x.2.Alike x₂.2

theorem AnswersAlike.of_eq {x x₂ : Except Failure α × Book} {r : Except Failure α}
    (h : AnswersAlike x x₂) (hx : x = (r, b')) : ∃ b₂', x₂ = (r, b₂') ∧ b'.Alike b₂' := by
  subst hx
  obtain ⟨hr, hb⟩ := h
  exact ⟨x₂.2, Prod.ext hr.symm rfl, hb⟩

theorem Alike.called (h : b.Alike b₂) (op : LedgerOperation) :
    (b.called op).Alike (b₂.called op) := by
  obtain ⟨_, _, _, _, rfl⟩ := h
  exact ⟨_, _, _, _, rfl⟩

theorem Alike.failures (h : b.Alike b₂) : b₂.failures = b.failures := by
  obtain ⟨_, _, _, _, rfl⟩ := h
  rfl

theorem Alike.accounts (h : b.Alike b₂) : b₂.accounts = b.accounts := by
  obtain ⟨_, _, _, _, rfl⟩ := h
  rfl

theorem Alike.payments (h : b.Alike b₂) : b₂.payments = b.payments := by
  obtain ⟨_, _, _, _, rfl⟩ := h
  rfl

/-- Calls are answered alike if they are where they are not made to fail. -/
theorem Alike.call (h : b.Alike b₂) {op : LedgerOperation}
    {answer answer₂ : Book → Except Failure α × Book}
    (ha : ∀ {b b₂ : Book}, b.Alike b₂ → AnswersAlike (answer b) (answer₂ b₂)) :
    AnswersAlike (b.call op answer) (b₂.call op answer₂) := by
  have hcalled := h.called op
  have hfails : (b₂.called op).failure? op = (b.called op).failure? op := by
    rw [failure?, failure?, hcalled.failures]
  rw [Book.call, Book.call, hfails]
  cases (b.called op).failure? op with
  | some f => exact ⟨rfl, hcalled⟩
  | none => exact ha hcalled

theorem Alike.getAccount (h : b.Alike b₂) (id : Given) :
    AnswersAlike (b.getAccount id) (b₂.getAccount id) := by
  refine h.call fun {b b₂} h => ?_
  have hfind : b₂.findAccount id = b.findAccount id := by
    rw [findAccount, findAccount, h.accounts]
  rw [hfind]
  cases b.findAccount id with
  | some account => exact ⟨rfl, h⟩
  | none => exact ⟨rfl, h⟩

theorem Alike.listPaymentMethods (h : b.Alike b₂) (id : Given) :
    AnswersAlike (b.listPaymentMethods id) (b₂.listPaymentMethods id) := by
  refine h.call fun {b b₂} h => ?_
  obtain ⟨_, _, _, _, rfl⟩ := h
  exact ⟨rfl, _, _, _, _, rfl⟩

theorem Alike.settle (h : b.Alike b₂) (id success : Given) :
    AnswersAlike (b.settle id success) (b₂.settle id success) := by
  have hfind : b₂.findTransaction id = b.findTransaction id := by
    rw [findTransaction, findTransaction, h.payments]
  rw [Book.settle, Book.settle, hfind]
  cases b.findTransaction id with
  | none => exact ⟨rfl, h⟩
  | some found =>
    dsimp only
    split
    · obtain ⟨_, _, _, _, rfl⟩ := h
      exact ⟨rfl, _, _, _, _, rfl⟩
    · exact ⟨rfl, h⟩

/-- A report is remembered with the time at which it is made, and answered without it. -/
theorem Alike.reportState (h : b.Alike b₂) (id success : Given) (context context₂ : CallContext) :
    AnswersAlike (b.reportState account id success context)
      (b₂.reportState account id success context₂) := by
  refine h.call fun {b b₂} h => Alike.settle ?_ id success
  obtain ⟨_, _, _, _, rfl⟩ := h
  exact ⟨_, _, _, _, rfl⟩

theorem Alike.createPurchase (h : b.Alike b₂) (order : PurchaseOrder)
    (context context₂ : CallContext) :
    AnswersAlike (b.createPurchase account order context)
      (b₂.createPurchase account order context₂) := by
  refine h.call fun {b b₂} h => ?_
  obtain ⟨_, _, _, _, rfl⟩ := h
  exact ⟨rfl, _, _, _, _, rfl⟩

theorem Alike.createChargeback (h : b.Alike b₂) (order : ChargebackOrder)
    (context context₂ : CallContext) :
    AnswersAlike (b.createChargeback account order context)
      (b₂.createChargeback account order context₂) := by
  refine h.call fun {b b₂} h => ?_
  have hfind (records : List ChargebackRecord) :
      Book.findPayment { b₂ with chargebacks := records } order.paymentId =
        b.findPayment order.paymentId := by
    rw [findPayment, findPayment, h.payments]
  have hsame (records : List ChargebackRecord) :
      Book.findPayment { b with chargebacks := records } order.paymentId =
        b.findPayment order.paymentId := rfl
  simp only [hfind, hsame]
  cases b.findPayment order.paymentId with
  | none =>
    obtain ⟨_, _, _, _, rfl⟩ := h
    exact ⟨rfl, _, _, _, _, rfl⟩
  | some p =>
    obtain ⟨_, _, _, _, rfl⟩ := h
    exact ⟨rfl, _, _, _, _, rfl⟩

theorem Alike.trans {b₁ b₂ b₃ : Book} (h : b₁.Alike b₂) (h' : b₂.Alike b₃) : b₁.Alike b₃ := by
  obtain ⟨_, _, _, _, rfl⟩ := h
  obtain ⟨_, _, _, _, rfl⟩ := h'
  exact ⟨_, _, _, _, rfl⟩

theorem getAccount_alike {id : Given} {answer : Except Failure Account}
    (h : b.getAccount id = (answer, b')) : b.Alike b' := by
  obtain ⟨rfl, -⟩ := getAccount_cases h
  exact ⟨_, _, _, _, rfl⟩

theorem listPaymentMethods_alike {id : Given} {answer : Except Failure (List PaymentMethod)}
    (h : b.listPaymentMethods id = (answer, b')) : b.Alike b' := by
  obtain ⟨rfl, -⟩ := listPaymentMethods_cases h
  exact ⟨_, _, _, _, rfl⟩

theorem reportState_error_alike {id success : Given}
    (h : b.reportState account id success context = (.error f, b')) : b.Alike b' := by
  obtain ⟨records, ⟨_, -, -, rfl⟩ | ⟨_, _, _, _, hr, -⟩⟩ := reportState_cases h
  · exact ⟨_, _, _, _, rfl⟩
  · exact nomatch hr

theorem createPurchase_error_alike {order : PurchaseOrder}
    (h : b.createPurchase account order context = (.error f, b')) : b.Alike b' := by
  obtain ⟨_, -, -, rfl⟩ | ⟨hr, -⟩ := createPurchase_cases h
  · exact ⟨_, _, _, _, rfl⟩
  · exact nomatch hr

theorem createChargeback_error_alike {order : ChargebackOrder}
    (h : b.createChargeback account order context = (.error f, b')) : b.Alike b' := by
  obtain ⟨records, ⟨_, -, -, rfl⟩ | ⟨_, _, hr, -⟩⟩ := createChargeback_cases h
  · exact ⟨_, _, _, _, rfl⟩
  · exact nomatch hr

end Book

/-! ## Stores -/

/-- A response that differs from another at most in when it was last changed. -/
def StoredResponse.Alike (r r₂ : StoredResponse) : Prop :=
  ∃ updatedAt, r₂ = { r with updatedAt := updatedAt }

/-- A store that differs from another at most in its journal and in when responses were last
changed. -/
structure MemoryStore.Alike (s s₂ : MemoryStore) : Prop where
  responses : List.Forall₂ StoredResponse.Alike s.responses s₂.responses
  pendingRequests : s₂.pendingRequests = s.pendingRequests
  failures : s₂.failures = s.failures

namespace MemoryStore

variable {s s' s₂ : MemoryStore} {now : Instant}

theorem Alike.refl (s : MemoryStore) : s.Alike s :=
  ⟨List.forall₂_same.mpr fun r _ => ⟨r.updatedAt, rfl⟩, rfl, rfl⟩

theorem Alike.enter (h : s.Alike s₂) (op : StoreOperation) : s₂.enter op = s.enter op := by
  rw [MemoryStore.enter, MemoryStore.enter, h.failures]

theorem edited_alike {r r₂ : StoredResponse} (h : r.Alike r₂) (now now₂ : Instant) (e : Edit) :
    (r.edited now e).Alike (r₂.edited now₂ e) := by
  obtain ⟨t, rfl⟩ := h
  by_cases hr : isFor e.transactionId e.tenantId r = true
  · have hr₂ : isFor e.transactionId e.tenantId { r with updatedAt := t } = true := hr
    rw [StoredResponse.edited, StoredResponse.edited, if_pos hr, if_pos hr₂]
    exact ⟨now₂, rfl⟩
  · have hr₂ : ¬ isFor e.transactionId e.tenantId { r with updatedAt := t } = true := hr
    rw [StoredResponse.edited, StoredResponse.edited, if_neg hr, if_neg hr₂]
    exact ⟨t, rfl⟩

/-- Data is changed alike, at whatever time. -/
theorem Alike.updateMetadata {e : Edit} (h : s.Alike s₂) (now₂ : Instant)
    (hs : s.updateMetadata now e.transactionId e.changes e.tenantId = .ok s') :
    ∃ s₂', s₂.updateMetadata now₂ e.transactionId e.changes e.tenantId = .ok s₂' ∧
      s'.Alike s₂' := by
  have henter : s.enter .updateMetadata = .ok () := by
    rw [MemoryStore.updateMetadata] at hs
    exact (enter_bind_ok hs).1
  rw [updateMetadata_edited hs]
  refine ⟨_, updateMetadata_of_enter ((h.enter _).trans henter) now₂ e, ?_,
    h.pendingRequests, h.failures⟩
  rw [List.forall₂_map_left_iff, List.forall₂_map_right_iff]
  exact h.responses.imp fun _ _ hr => edited_alike hr now now₂ e

end MemoryStore

/-! ## Benches -/

/-- A bench like another, at any time; neither has a hook. -/
structure Bench.Alike (u v : Bench) : Prop where
  store : u.store.Alike v.store
  book : u.book.Alike v.book
  hook : u.hook = {}
  otherHook : v.hook = {}

variable {p : Delivery.Profile} {n : Notice} {u v u' v' : Bench} {account : Account}
  {context context₂ : CallContext}

theorem Bench.Alike.atBook (h : u.Alike v) {b b₂ : Book} (hb : b.Alike b₂) :
    ({ u with book := b } : Bench).Alike { v with book := b₂ } :=
  ⟨h.store, hb, h.hook, h.otherHook⟩

theorem Bench.Alike.atStore (h : u.Alike v) {s s₂ : MemoryStore} (hs : s.Alike s₂) :
    ({ u with store := s } : Bench).Alike { v with store := s₂ } :=
  ⟨hs, h.book, h.hook, h.otherHook⟩

theorem ChargingBack.alike {earlier : StoredResponse} {r r₂ : Except Failure Payment}
    (h : ChargingBack n earlier account context u r u')
    (h₂ : ChargingBack n earlier account context₂ v r₂ v') (ha : u.Alike v) :
    r₂ = r ∧ u'.Alike v' := by
  cases hm : n.money LedgerOperation.createChargeback.name with
  | error f =>
    obtain ⟨rfl, rfl⟩ := h.of_no_money hm
    obtain ⟨rfl, rfl⟩ := h₂.of_no_money hm
    exact ⟨rfl, ha⟩
  | ok amount =>
    rcases hc : u.book.createChargeback account (n.chargebackOrder earlier amount) context with
      ⟨answer, b⟩
    obtain ⟨b₂, hc₂, hb⟩ := (ha.book.createChargeback _ context context₂).of_eq hc
    obtain ⟨rfl, rfl⟩ := h.of_answer hm hc
    obtain ⟨rfl, rfl⟩ := h₂.of_answer hm hc₂
    exact ⟨rfl, ha.atBook hb⟩

theorem Reporting.alike {c : Correlation} {r r₂ : Except Failure Bool}
    (h : Reporting n c account context u r u') (h₂ : Reporting n c account context₂ v r₂ v')
    (ha : u.Alike v) : r₂ = r ∧ u'.Alike v' := by
  rcases hs : u.book.reportState account c.transactionId (some n.reportedSuccess) context with
    ⟨answer, b⟩
  obtain ⟨b₂, hs₂, hb⟩ := (ha.book.reportState _ _ context context₂).of_eq hs
  obtain ⟨rfl, rfl⟩ := h.of_answer hs
  obtain ⟨rfl, rfl⟩ := h₂.of_answer hs₂
  exact ⟨rfl, ha.atBook hb⟩

theorem Updating.alike {c : Correlation} {r r₂ : Except Failure Bool}
    (h : Updating n c account context u r u') (h₂ : Updating n c account context₂ v r₂ v')
    (ha : u.Alike v) : r₂ = r ∧ u'.Alike v' := by
  cases hs : u.store.updateMetadata u.now c.transactionId (n.responseProperties c.isHosted)
      c.tenantId with
  | error f =>
    have henter : u.store.enter .updateMetadata = .error f := MemoryStore.enter_bind_error hs
    have hs₂ := MemoryStore.updateMetadata_of_error ((ha.store.enter _).trans henter) v.now
      (c.edit n)
    obtain ⟨rfl, rfl⟩ := h.of_error hs
    obtain ⟨rfl, rfl⟩ := h₂.of_error hs₂
    exact ⟨rfl, ha⟩
  | ok s =>
    have hs : u.store.updateMetadata u.now (c.edit n).transactionId (c.edit n).changes
      (c.edit n).tenantId = .ok s := hs
    obtain ⟨s₂, hs₂, hstore⟩ := ha.store.updateMetadata v.now hs
    exact (h.of_ok hs).alike (h₂.of_ok hs₂) (ha.atStore hstore)

theorem Ordering.alike {order : PurchaseOrder} {r r₂ : Except Failure Payment}
    (h : Ordering account order context u r u') (h₂ : Ordering account order context₂ v r₂ v')
    (ha : u.Alike v) : r₂ = r ∧ u'.Alike v' := by
  rcases hc : u.book.createPurchase account order context with ⟨answer, b⟩
  obtain ⟨b₂, hc₂, hb⟩ := (ha.book.createPurchase order context context₂).of_eq hc
  obtain ⟨rfl, rfl⟩ := h.of_answer ha.hook hc
  obtain ⟨rfl, rfl⟩ := h₂.of_answer ha.otherHook hc₂
  exact ⟨rfl, ha.atBook hb⟩

theorem Purchasing.alike {c : Correlation} {r r₂ : Except Failure Payment}
    (h : Purchasing p n c account context u r u')
    (h₂ : Purchasing p n c account context₂ v r₂ v') (ha : u.Alike v) :
    r₂ = r ∧ u'.Alike v' := by
  cases hm : n.money LedgerOperation.createPurchase.name with
  | error f =>
    obtain ⟨rfl, rfl⟩ := h.of_no_money hm
    obtain ⟨rfl, rfl⟩ := h₂.of_no_money hm
    exact ⟨rfl, ha⟩
  | ok amount =>
    rcases hl : u.book.listPaymentMethods account.id with ⟨answer, b⟩
    obtain ⟨b₂, hl₂, hb⟩ := (ha.book.listPaymentMethods account.id).of_eq hl
    cases answer with
    | error f =>
      obtain ⟨rfl, rfl⟩ := h.of_no_methods hm hl
      obtain ⟨rfl, rfl⟩ := h₂.of_no_methods hm hl₂
      exact ⟨rfl, ha.atBook hb⟩
    | ok methods =>
      cases hf : methods.find? (·.pluginName == .text p.pluginName) with
      | none =>
        obtain ⟨rfl, rfl⟩ := h.of_no_method hm hl hf
        obtain ⟨rfl, rfl⟩ := h₂.of_no_method hm hl₂ hf
        exact ⟨rfl, ha.atBook hb⟩
      | some method =>
        exact (h.of_method hm hl hf).alike (h₂.of_method hm hl₂ hf) (ha.atBook hb)

/-- Acting on the same finding at benches that are alike comes to the same. -/
theorem Course.alike {found : Finding} {r r₂ : Except Failure Outcome}
    (h : Course p n u found r u') (h₂ : Course p n v found r₂ v') (ha : u.Alike v) :
    r₂ = r ∧ u'.Alike v' := by
  have hlookup {id : Given} {answer : Except Failure Account} {b : Book}
      (hg : u.book.getAccount id = (answer, b)) :
      ∃ b₂, v.book.getAccount id = (answer, b₂) ∧
        ({ u with book := b } : Bench).Alike { v with book := b₂ } := by
    obtain ⟨b₂, hg₂, hb⟩ := (ha.book.getAccount id).of_eq hg
    exact ⟨b₂, hg₂, ha.atBook hb⟩
  cases h with
  | failed =>
    obtain ⟨rfl, rfl⟩ := h₂.of_failed
    exact ⟨rfl, ha⟩
  | nothing =>
    obtain ⟨rfl, rfl⟩ := h₂.of_nothing
    exact ⟨rfl, ha⟩
  | noAccount hid hg =>
    obtain ⟨b₂, hg₂, hb⟩ := hlookup hg
    obtain ⟨rfl, rfl⟩ := h₂.of_no_account hid hg₂
    exact ⟨rfl, hb⟩
  | disputed hg hc =>
    obtain ⟨b₂, hg₂, hb⟩ := hlookup hg
    obtain ⟨made, hc₂, rfl⟩ := h₂.of_disputed hg₂
    obtain ⟨rfl, hw⟩ := hc.alike hc₂ hb
    exact ⟨rfl, hw⟩
  | transaction hg hu =>
    obtain ⟨b₂, hg₂, hb⟩ := hlookup hg
    obtain ⟨made, hu₂, rfl⟩ := h₂.of_transaction hg₂
    obtain ⟨rfl, hw⟩ := hu.alike hu₂ hb
    exact ⟨rfl, hw⟩
  | account hg hp =>
    obtain ⟨b₂, hg₂, hb⟩ := hlookup hg
    obtain ⟨made, hp₂, rfl⟩ := h₂.of_account hg₂
    obtain ⟨rfl, hw⟩ := hp.alike hp₂ hb
    exact ⟨rfl, hw⟩

end NoticeLedger
