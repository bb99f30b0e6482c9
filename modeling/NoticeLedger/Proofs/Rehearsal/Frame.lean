import NoticeLedger.Proofs.Ledger.Calls
import NoticeLedger.Proofs.Rehearsal.Course

/-!
# NoticeLedger.Proofs.Rehearsal.Frame

What a delivery leaves as it is.

* `MemoryStore.enter_bind_ok` — an operation of a store that gives something was not made to fail.
* `MemoryStore.Keeps` — everything but the stored responses is as it was.
* `Bench.Keeps`, `Course.keeps` — so it is whatever becomes of a notice, until it is journaled; and
  the operations that are made to fail stay the same.
* `Delivered.of_ok`, `Delivered.of_error` — a delivery by whether the journal works.
* `Bench.Precedes`, `Delivered.precedes` — what the next delivery finds as this one found it.
-/

namespace NoticeLedger

/-! ## The store -/

/-- All records but the responses, and the operations made to fail, are as they were. -/
structure MemoryStore.Keeps (s s' : MemoryStore) : Prop where
  pendingRequests : s'.pendingRequests = s.pendingRequests
  journal : s'.journal = s.journal
  failures : s'.failures = s.failures

namespace MemoryStore

variable {s s' : MemoryStore} {now : Instant}

theorem Keeps.refl (s : MemoryStore) : s.Keeps s := ⟨rfl, rfl, rfl⟩

theorem Keeps.trans {s₁ s₂ : MemoryStore} (h : s.Keeps s₁) (h' : s₁.Keeps s₂) : s.Keeps s₂ where
  pendingRequests := h'.pendingRequests.trans h.pendingRequests
  journal := h'.journal.trans h.journal
  failures := h'.failures.trans h.failures

theorem Keeps.enter (h : s.Keeps s') (op : StoreOperation) : s'.enter op = s.enter op := by
  rw [MemoryStore.enter, MemoryStore.enter, h.failures]

/-- An operation that fails has a failure that it is made to have. -/
theorem enter_error {op : StoreOperation} {f : Failure} (h : s.enter op = .error f) :
    s.failures op = some f ∧ f.isRaised = true := by
  rw [MemoryStore.enter] at h
  cases hf : s.failures op with
  | none =>
    rw [hf] at h
    exact nomatch h
  | some g =>
    simp only [hf] at h
    split at h
    · rename_i hg
      cases h
      exact ⟨rfl, hg⟩
    · exact nomatch h

/-- An operation that gives something was not made to fail. -/
theorem enter_bind_ok {α : Type} {op : StoreOperation} {x : Except Failure α} {a : α}
    (h : (s.enter op >>= fun _ => x) = .ok a) : s.enter op = .ok () ∧ x = .ok a := by
  cases he : s.enter op with
  | error f =>
    rw [he] at h
    exact nomatch h
  | ok _ =>
    rw [he] at h
    exact ⟨rfl, h⟩

/-- An operation that always gives something fails only as it is made to fail. -/
theorem enter_bind_error {α : Type} {op : StoreOperation} {a : α} {f : Failure}
    (h : (s.enter op >>= fun _ => Except.ok a) = .error f) : s.enter op = .error f := by
  cases he : s.enter op with
  | error g =>
    rw [he] at h
    cases h
    rfl
  | ok _ =>
    rw [he] at h
    exact nomatch h

theorem getResponse_ok {ref : Given} {found : Option StoredResponse}
    (h : s.getResponse ref = .ok found) : s.findResponse ref = found := by
  rw [getResponse] at h
  exact Except.ok.inj (enter_bind_ok h).2

theorem getPendingRequest_ok {ref : Given} {found : Option HostedRequest}
    (h : s.getPendingRequest ref = .ok found) : s.findPendingRequest ref = found := by
  rw [getPendingRequest] at h
  exact Except.ok.inj (enter_bind_ok h).2

theorem saveResponse_ok {draft : StoredResponse.Draft} {r : StoredResponse}
    (h : s.saveResponse now draft = .ok (r, s')) :
    r = s.responseOf now draft ∧
      s' = { s with responses := Keyed.put StoredResponse.pspReference s.responses r } := by
  rw [saveResponse] at h
  cases (enter_bind_ok h).2
  exact ⟨rfl, rfl⟩

theorem updateMetadata_ok {id tenant : Given} {changes : List (String × Given)}
    (h : s.updateMetadata now id changes tenant = .ok s') :
    s' = { s with
      responses := s.responses.map fun r =>
        if isFor id tenant r then r.changed now changes else r } := by
  rw [updateMetadata] at h
  exact (Except.ok.inj (enter_bind_ok h).2).symm

theorem saveResponse_keeps {draft : StoredResponse.Draft} {r : StoredResponse}
    (h : s.saveResponse now draft = .ok (r, s')) : s.Keeps s' := by
  obtain ⟨-, rfl⟩ := saveResponse_ok h
  exact ⟨rfl, rfl, rfl⟩

theorem updateMetadata_keeps {id tenant : Given} {changes : List (String × Given)}
    (h : s.updateMetadata now id changes tenant = .ok s') : s.Keeps s' := by
  rw [updateMetadata_ok h]
  exact ⟨rfl, rfl, rfl⟩

end MemoryStore

/-! ## The bench -/

/-- The time, the hook, all records but the responses, and the operations made to fail are as they
were. -/
structure Bench.Keeps (w w' : Bench) : Prop where
  now : w'.now = w.now
  hook : w'.hook = w.hook
  store : w.store.Keeps w'.store
  failures : w'.book.failures = w.book.failures

variable {p : Delivery.Profile} {n : Notice} {w w' : Bench} {account : Account}
  {context : CallContext}

theorem Bench.Keeps.refl (w : Bench) : w.Keeps w := ⟨rfl, rfl, .refl _, rfl⟩

theorem Bench.Keeps.trans {w₁ w₂ : Bench} (h : w.Keeps w₁) (h' : w₁.Keeps w₂) : w.Keeps w₂ where
  now := h'.now.trans h.now
  hook := h'.hook.trans h.hook
  store := h.store.trans h'.store
  failures := h'.failures.trans h.failures

theorem Bench.Keeps.book {op : LedgerOperation} {b : Book} (h : w.book.Frame op b) :
    w.Keeps { w with book := b } :=
  ⟨rfl, rfl, .refl _, h.failures⟩

/-- A hook may store one response. It fails as it is made to fail, or as storing is. -/
theorem PurchaseHook.failure_of_error {hook : PurchaseHook} {f : Failure}
    (h : (match hook.failure with
      | some f => .error f
      | none => .ok () : Except Failure Unit) = .error f) : hook.failure = some f := by
  cases hf : hook.failure with
  | none =>
    rw [hf] at h
    cases h
  | some g =>
    rw [hf] at h
    cases h
    rfl

theorem Bench.afterPurchase_cases {payment : Payment} {s : MemoryStore} {fate : Except Failure Unit}
    (h : w.afterPurchase payment context = (fate, s)) :
    (s = w.store ∨ ∃ draft r, w.hook.save = some draft ∧
      w.store.saveResponse w.now (draft payment context) = .ok (r, s)) ∧
    ∀ f, fate = .error f →
      w.hook.failure = some f ∨ w.store.enter .saveResponse = .error f := by
  rw [afterPurchase] at h
  cases hs : w.hook.save with
  | none =>
    rw [hs] at h
    cases h
    exact ⟨.inl rfl, fun f hf => .inl (PurchaseHook.failure_of_error hf)⟩
  | some draft =>
    simp only [hs] at h
    cases hr : w.store.saveResponse w.now (draft payment context) with
    | error f =>
      rw [hr] at h
      cases h
      refine ⟨.inl rfl, ?_⟩
      rintro _ ⟨⟩
      exact .inr (MemoryStore.enter_bind_error hr)
    | ok saved =>
      rw [hr] at h
      cases h
      exact ⟨.inr ⟨draft, saved.1, rfl, hr⟩, fun f hf => .inl (PurchaseHook.failure_of_error hf)⟩

theorem Bench.afterPurchase_keeps {payment : Payment} {s : MemoryStore}
    {fate : Except Failure Unit} (h : w.afterPurchase payment context = (fate, s)) :
    w.store.Keeps s := by
  obtain ⟨rfl | ⟨draft, r, -, hs⟩, -⟩ := Bench.afterPurchase_cases h
  · exact .refl _
  · exact MemoryStore.saveResponse_keeps hs

theorem ChargingBack.keeps {earlier : StoredResponse} {result : Except Failure Payment}
    (h : ChargingBack n earlier account context w result w') : w.Keeps w' := by
  cases h with
  | noMoney _ => exact .refl w
  | refused _ hc => exact .book (Book.createChargeback_frame hc)
  | recorded _ hc => exact .book (Book.createChargeback_frame hc)

theorem Reporting.keeps {c : Correlation} {result : Except Failure Bool}
    (h : Reporting n c account context w result w') : w.Keeps w' := by
  cases h with
  | refused hs _ => exact .book (Book.reportState_frame hs)
  | notOpen hs _ => exact .book (Book.reportState_frame hs)
  | applied hs => exact .book (Book.reportState_frame hs)

theorem Updating.keeps {c : Correlation} {result : Except Failure Bool}
    (h : Updating n c account context w result w') : w.Keeps w' := by
  cases h with
  | notStored _ => exact .refl w
  | @stored s _ _ hs hr =>
    have hw : w.Keeps { w with store := s } := ⟨rfl, rfl, MemoryStore.updateMetadata_keeps hs, rfl⟩
    exact hw.trans hr.keeps

theorem Ordering.keeps {order : PurchaseOrder} {result : Except Failure Payment}
    (h : Ordering account order context w result w') : w.Keeps w' := by
  cases h with
  | refused hc => exact .book (Book.createPurchase_frame hc)
  | unfinished hc ha =>
    exact ⟨rfl, rfl, Bench.afterPurchase_keeps ha, (Book.createPurchase_frame hc).failures⟩
  | recorded hc ha =>
    exact ⟨rfl, rfl, Bench.afterPurchase_keeps ha, (Book.createPurchase_frame hc).failures⟩

theorem Purchasing.keeps {c : Correlation} {result : Except Failure Payment}
    (h : Purchasing p n c account context w result w') : w.Keeps w' := by
  cases h with
  | noMoney _ => exact .refl w
  | noMethods _ hl => exact .book (Book.listPaymentMethods_frame hl).1
  | noMethod _ hl _ => exact .book (Book.listPaymentMethods_frame hl).1
  | ordered _ hl _ ho =>
    exact (Bench.Keeps.book (Book.listPaymentMethods_frame hl).1).trans ho.keeps

/-- Acting on what was found changes nothing of this. -/
theorem Course.keeps {found : Finding} {result : Except Failure Outcome}
    (h : Course p n w found result w') : w.Keeps w' := by
  cases h with
  | failed => exact .refl w
  | nothing => exact .refl w
  | noAccount _ ha => exact .book (Book.getAccount_frame ha).1
  | disputed ha hc => exact (Bench.Keeps.book (Book.getAccount_frame ha).1).trans hc.keeps
  | transaction ha hu => exact (Bench.Keeps.book (Book.getAccount_frame ha).1).trans hu.keeps
  | account ha hp => exact (Bench.Keeps.book (Book.getAccount_frame ha).1).trans hp.keeps

/-! ## Deliveries -/

/-- With a working journal, whatever comes of a notice is journaled and told. -/
theorem Delivered.of_ok {r : Receipt} (h : Delivered p n w r w')
    (hj : w.store.enter .appendJournal = .ok ()) :
    ∃ result w₁, Course p n w (Finding.of w.store n) result w₁ ∧
      r = Delivery.receiptOf n result ∧
      w' = w₁.journaling (n.entry ((Finding.of w.store n).idsAfter result) w.now) := by
  cases h with
  | journaled hc _ => exact ⟨_, _, hc, rfl, rfl⟩
  | unrecorded hc hf =>
    rw [hc.keeps.store.enter, hj] at hf
    exact nomatch hf

/-- With one that fails, its failure is told instead. -/
theorem Delivered.of_error {r : Receipt} {f : Failure} (h : Delivered p n w r w')
    (hj : w.store.enter .appendJournal = .error f) :
    (∃ result, Course p n w (Finding.of w.store n) result w') ∧
      r = Delivery.receiptOf n (.error (n.unrecorded f)) := by
  cases h with
  | journaled hc hf =>
    rw [hc.keeps.store.enter, hj] at hf
    exact nomatch hf
  | unrecorded hc hf =>
    rw [hc.keeps.store.enter, hj] at hf
    cases hf
    exact ⟨⟨_, hc⟩, rfl⟩

/-- The time, the hook, the hosted requests and the operations made to fail are as they were; the
journal may have grown. -/
structure Bench.Precedes (w w' : Bench) : Prop where
  now : w'.now = w.now
  hook : w'.hook = w.hook
  pendingRequests : w'.store.pendingRequests = w.store.pendingRequests
  storeFailures : w'.store.failures = w.store.failures
  bookFailures : w'.book.failures = w.book.failures

theorem Bench.Precedes.enter (h : w.Precedes w') (op : StoreOperation) :
    w'.store.enter op = w.store.enter op := by
  rw [MemoryStore.enter, MemoryStore.enter, h.storeFailures]

theorem Delivered.precedes {r : Receipt} (h : Delivered p n w r w') : w.Precedes w' := by
  cases h with
  | journaled hc _ =>
    have hk := hc.keeps
    exact ⟨hk.now, hk.hook, hk.store.pendingRequests, hk.store.failures, hk.failures⟩
  | unrecorded hc _ =>
    have hk := hc.keeps
    exact ⟨hk.now, hk.hook, hk.store.pendingRequests, hk.store.failures, hk.failures⟩

end NoticeLedger
