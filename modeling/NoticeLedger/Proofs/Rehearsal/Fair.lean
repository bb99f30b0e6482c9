import NoticeLedger.Proofs.Rehearsal.Frame

/-!
# NoticeLedger.Proofs.Rehearsal.Fair

Benches whose records are tied to an account and a tenant, and where nothing that is made to fail
counts as benign.

* `Bench.Fair` — the invariant, with one part for the store, the book and the hook.
* `Finding.Fair` — what the records of such a bench say.
* `Course.fair`, `Delivered.fair` — deliveries keep a bench fair, and none fails benignly.
-/

namespace NoticeLedger

/-- The account and the tenant of a record are known. -/
structure Tied (accountId tenantId : Given) : Prop where
  account : accountId.isNothing = false
  tenant : tenantId.isNothing = false

/-- A failure that does ask for something. -/
def Failure.Serious (f : Failure) : Prop :=
  f.disposition ≠ .benign

/-- A result that is a serious failure, if it is a failure. -/
def NeverBenign {α : Type} (result : Except Failure α) : Prop :=
  ∀ f, result = .error f → f.Serious

/-- Every record is tied, and the failures are serious. -/
structure MemoryStore.Fair (s : MemoryStore) : Prop where
  responses : ∀ r ∈ s.responses, Tied r.accountId r.tenantId
  pendingRequests : ∀ r ∈ s.pendingRequests, Tied r.accountId r.tenantId
  failures : ∀ op f, s.failures op = some f → f.Serious

/-- The failures are serious. -/
def Book.Fair (b : Book) : Prop :=
  ∀ op f, b.failures op = some f → f.Serious

/-- A hook fails seriously, and ties what it stores if the payment and the context are tied. -/
structure PurchaseHook.Fair (h : PurchaseHook) : Prop where
  failure : ∀ f, h.failure = some f → f.Serious
  draft : ∀ draft, h.save = some draft → ∀ (payment : Payment) (context : CallContext),
    Tied payment.accountId context.tenantId →
      Tied (draft payment context).accountId (draft payment context).tenantId

/-- The invariant of a bench. -/
structure Bench.Fair (w : Bench) : Prop where
  store : w.store.Fair
  book : w.book.Fair
  hook : w.hook.Fair

/-- What was found is tied; a look-up that failed did so seriously. -/
inductive Finding.Fair : Finding → Prop where
  | failed {f : Failure} : f.Serious → Finding.Fair (.failed f)
  | nothing : Finding.Fair .nothing
  | disputed {earlier : StoredResponse} :
      Tied earlier.accountId earlier.tenantId → Finding.Fair (.disputed earlier)
  | transaction {c : Correlation} : Tied c.accountId c.tenantId → Finding.Fair (.transaction c)
  | account {c : Correlation} : Tied c.accountId c.tenantId → Finding.Fair (.account c)

/-! ## Failures -/

/-- Without codes that need no action, a failure gets no less serious. -/
theorem Failure.Serious.wrap {f : Failure} (h : f.Serious) (operation : String) :
    (Failure.wrap operation [] f).Serious := by
  unfold Failure.wrap
  split
  · exact h
  · split
    · exact Disposition.noConfusion
    · split <;> exact Disposition.noConfusion

theorem NeverBenign.ok {α : Type} (a : α) : NeverBenign (.ok a) := nofun

theorem NeverBenign.error {α : Type} {f : Failure} (h : f.Serious) :
    NeverBenign (.error f : Except Failure α) := by
  rintro _ ⟨⟩
  exact h

theorem NeverBenign.map {α β : Type} {result : Except Failure α} (h : NeverBenign result)
    (g : α → β) : NeverBenign (result.map g) := by
  cases result with
  | ok a => exact .ok _
  | error f => exact .error (h f rfl)

theorem Book.Fair.refuses {b : Book} {op : LedgerOperation} {f : Failure} (hb : b.Fair)
    (h : b.Refuses op f) : f.Serious := by
  obtain h | ⟨message, code, status, rfl⟩ := h
  · exact hb op f (Option.filter_eq_some_iff.mp h).1
  · exact Disposition.noConfusion

theorem Book.Fair.frame {b b' : Book} {op : LedgerOperation} (hb : b.Fair) (h : b.Frame op b') :
    b'.Fair := by
  rw [Book.Fair, h.failures]
  exact hb

/-- Money that a notice does not have is no benign failure. -/
theorem Notice.money_serious {n : Notice} {operation : String} :
    NeverBenign (n.money operation) := by
  rw [Notice.money]
  split
  · exact .error Disposition.noConfusion
  · split
    · exact .ok _
    · split
      · refine .error ?_
        rw [Failure.ofRefusal]
        split <;> exact Disposition.noConfusion
      · exact .error Disposition.noConfusion

/-! ## Records -/

namespace MemoryStore.Fair

variable {s s' : MemoryStore} {now : Instant}

theorem enter (hs : s.Fair) {op : StoreOperation} {f : Failure} (h : s.enter op = .error f) :
    f.Serious :=
  hs.failures op f (enter_error h).1

theorem findResponse (hs : s.Fair) {ref : Given} {r : StoredResponse}
    (h : s.findResponse ref = some r) : Tied r.accountId r.tenantId :=
  hs.responses r (Keyed.find?_eq_some StoredResponse.pspReference h).1

theorem findPendingRequest (hs : s.Fair) {ref : Given} {r : HostedRequest}
    (h : s.findPendingRequest ref = some r) : Tied r.accountId r.tenantId :=
  hs.pendingRequests r (Keyed.find?_eq_some HostedRequest.merchantReference h).1

theorem saveResponse (hs : s.Fair) {draft : StoredResponse.Draft} {r : StoredResponse}
    (hd : Tied draft.accountId draft.tenantId) (h : s.saveResponse now draft = .ok (r, s')) :
    s'.Fair := by
  obtain ⟨rfl, rfl⟩ := saveResponse_ok h
  refine ⟨fun r hr => ?_, hs.pendingRequests, hs.failures⟩
  obtain rfl | hr := Keyed.mem_put StoredResponse.pspReference hr
  · exact hd
  · exact hs.responses r hr

theorem updateMetadata (hs : s.Fair) {id tenant : Given} {changes : List (String × Given)}
    (h : s.updateMetadata now id changes tenant = .ok s') : s'.Fair := by
  rw [updateMetadata_ok h]
  refine ⟨fun r hr => ?_, hs.pendingRequests, hs.failures⟩
  obtain ⟨q, hq, rfl⟩ := List.mem_map.mp hr
  split
  · exact hs.responses q hq
  · exact hs.responses q hq

end MemoryStore.Fair

theorem Finding.ofCorrelation_fair {c : Correlation} (h : Tied c.accountId c.tenantId) :
    (Finding.ofCorrelation c).Fair := by
  rw [Finding.ofCorrelation]
  split
  · exact .account h
  · exact .transaction h

theorem Finding.ofEarlier_fair {s : MemoryStore} (hs : s.Fair) (n : Notice) :
    (Finding.ofEarlier s n).Fair := by
  rw [Finding.ofEarlier]
  split
  · exact .nothing
  · cases hr : s.getResponse (some n.earlierReference) with
    | error f => exact .failed ((hs.enter (MemoryStore.enter_bind_error hr)).wrap _)
    | ok found =>
      cases found with
      | none => exact .nothing
      | some r => exact .disputed (hs.findResponse (MemoryStore.getResponse_ok hr))

theorem Finding.ofRequest_fair {s : MemoryStore} (hs : s.Fair) (n : Notice) :
    (Finding.ofRequest s n).Fair := by
  rw [Finding.ofRequest]
  split
  · exact .nothing
  · cases hr : s.getPendingRequest (some n.merchantReference) with
    | error f => exact .failed ((hs.enter (MemoryStore.enter_bind_error hr)).wrap _)
    | ok found =>
      cases found with
      | none => exact .nothing
      | some r =>
        exact ofCorrelation_fair (hs.findPendingRequest (MemoryStore.getPendingRequest_ok hr))

theorem Finding.ofReference_fair {s : MemoryStore} (hs : s.Fair) (n : Notice) :
    (Finding.ofReference s n).Fair := by
  rw [Finding.ofReference]
  cases hr : s.getResponse n.pspReference with
  | error f => exact .failed ((hs.enter (MemoryStore.enter_bind_error hr)).wrap _)
  | ok found =>
    cases found with
    | none => exact ofRequest_fair hs n
    | some r => exact ofCorrelation_fair (hs.findResponse (MemoryStore.getResponse_ok hr))

/-- The records of a fair bench lead to an account and a tenant. -/
theorem Finding.of_fair {s : MemoryStore} (hs : s.Fair) (n : Notice) : (Finding.of s n).Fair := by
  by_cases hc : n.classification = some .chargeback
  · rw [Finding.of, if_pos hc]
    exact ofEarlier_fair hs n
  · by_cases hr : EventCode.isReport n.eventCode
    · rw [Finding.of, if_neg hc, if_pos hr]
      exact .nothing
    · rw [Finding.of, if_neg hc, if_neg hr]
      exact ofReference_fair hs n

/-! ## Deliveries -/

variable {p : Delivery.Profile} {n : Notice} {w w' : Bench} {account : Account}
  {context : CallContext}

theorem Bench.Fair.atBook {op : LedgerOperation} {b : Book} (hw : w.Fair)
    (h : w.book.Frame op b) : ({ w with book := b } : Bench).Fair :=
  ⟨hw.store, hw.book.frame h, hw.hook⟩

/-- What the hook stores is tied, and it fails seriously. -/
theorem Bench.Fair.afterPurchase {payment : Payment} {fate : Except Failure Unit}
    {s : MemoryStore} (hw : w.Fair) (ht : Tied payment.accountId context.tenantId)
    (h : w.afterPurchase payment context = (fate, s)) : s.Fair ∧ NeverBenign fate := by
  obtain ⟨hs, hf⟩ := Bench.afterPurchase_cases h
  constructor
  · rcases hs with rfl | ⟨draft, r, hsave, hr⟩
    · exact hw.store
    · exact hw.store.saveResponse (hw.hook.draft draft hsave payment context ht) hr
  · intro f he
    rcases hf f he with hf | hf
    · exact hw.hook.failure f hf
    · exact hw.store.enter hf

theorem ChargingBack.fair {earlier : StoredResponse} {result : Except Failure Payment}
    (h : ChargingBack n earlier account context w result w') (hw : w.Fair) :
    w'.Fair ∧ NeverBenign result := by
  cases h with
  | noMoney hm => exact ⟨hw, .error (Notice.money_serious _ hm)⟩
  | refused _ hc =>
    obtain ⟨_, ⟨f, ⟨⟩, hf, -⟩ | ⟨_, _, hr, -⟩⟩ := Book.createChargeback_cases hc
    · exact ⟨hw.atBook (Book.createChargeback_frame hc), .error ((hw.book.refuses hf).wrap _)⟩
    · exact nomatch hr
  | recorded _ hc => exact ⟨hw.atBook (Book.createChargeback_frame hc), .ok _⟩

theorem Reporting.fair {c : Correlation} {result : Except Failure Bool}
    (h : Reporting n c account context w result w') (hw : w.Fair) :
    w'.Fair ∧ NeverBenign result := by
  cases h with
  | refused hs hf => exact ⟨hw.atBook (Book.reportState_frame hs), .error hf⟩
  | notOpen hs _ => exact ⟨hw.atBook (Book.reportState_frame hs), .ok _⟩
  | applied hs => exact ⟨hw.atBook (Book.reportState_frame hs), .ok _⟩

theorem Updating.fair {c : Correlation} {result : Except Failure Bool}
    (h : Updating n c account context w result w') (hw : w.Fair) :
    w'.Fair ∧ NeverBenign result := by
  cases h with
  | notStored hf => exact ⟨hw, .error ((hw.store.enter (MemoryStore.enter_bind_error hf)).wrap _)⟩
  | stored hs hr => exact hr.fair ⟨hw.store.updateMetadata hs, hw.book, hw.hook⟩

theorem Ordering.fair {order : PurchaseOrder} {result : Except Failure Payment}
    (h : Ordering account order context w result w') (hw : w.Fair)
    (ht : Tied account.id context.tenantId) : w'.Fair ∧ NeverBenign result := by
  cases h with
  | refused hc =>
    obtain ⟨f, ⟨⟩, hf, -⟩ | ⟨hr, -⟩ := Book.createPurchase_cases hc
    · exact ⟨hw.atBook (Book.createPurchase_frame hc), .error ((hw.book.refuses (.inl hf)).wrap _)⟩
    · exact nomatch hr
  | @unfinished payment f _ _ hc ha =>
    obtain ⟨_, hr, -⟩ | ⟨⟨⟩, -⟩ := Book.createPurchase_cases hc
    · exact nomatch hr
    · obtain ⟨hs, hf⟩ := hw.afterPurchase ht ha
      exact ⟨⟨hs, hw.book.frame (Book.createPurchase_frame hc), hw.hook⟩,
        .error ((hf f rfl).wrap _)⟩
  | recorded hc ha =>
    obtain ⟨_, hr, -⟩ | ⟨⟨⟩, -⟩ := Book.createPurchase_cases hc
    · exact nomatch hr
    · obtain ⟨hs, -⟩ := hw.afterPurchase ht ha
      exact ⟨⟨hs, hw.book.frame (Book.createPurchase_frame hc), hw.hook⟩, .ok _⟩

theorem Purchasing.fair {c : Correlation} {result : Except Failure Payment}
    (h : Purchasing p n c account context w result w') (hw : w.Fair)
    (ht : Tied account.id context.tenantId) : w'.Fair ∧ NeverBenign result := by
  cases h with
  | noMoney hm => exact ⟨hw, .error (Notice.money_serious _ hm)⟩
  | noMethods _ hl =>
    obtain ⟨-, ⟨f, ⟨⟩, hf⟩ | hr⟩ := Book.listPaymentMethods_cases hl
    · exact ⟨hw.atBook (Book.listPaymentMethods_frame hl).1,
        .error ((hw.book.refuses (.inl hf)).wrap _)⟩
    · exact nomatch hr
  | noMethod _ hl _ =>
    exact ⟨hw.atBook (Book.listPaymentMethods_frame hl).1, .error Disposition.noConfusion⟩
  | ordered _ hl _ ho => exact ho.fair (hw.atBook (Book.listPaymentMethods_frame hl).1) ht

/-- Acting on what was found keeps a bench fair, and does not fail benignly. -/
theorem Course.fair {found : Finding} {result : Except Failure Outcome}
    (h : Course p n w found result w') (hw : w.Fair) (hf : found.Fair) :
    w'.Fair ∧ NeverBenign result := by
  cases h with
  | failed =>
    cases hf with
    | failed hf => exact ⟨hw, .error hf⟩
  | nothing => exact ⟨hw, .ok _⟩
  | noAccount _ ha =>
    obtain ⟨-, ⟨f, ⟨⟩, hr, -⟩ | ⟨_, _, hr⟩⟩ := Book.getAccount_cases ha
    · exact ⟨hw.atBook (Book.getAccount_frame ha).1, .error ((hw.book.refuses hr).wrap _)⟩
    · exact nomatch hr
  | disputed ha hc =>
    obtain ⟨hw', hr⟩ := hc.fair (hw.atBook (Book.getAccount_frame ha).1)
    exact ⟨hw', hr.map _⟩
  | transaction ha hu =>
    obtain ⟨hw', hr⟩ := hu.fair (hw.atBook (Book.getAccount_frame ha).1)
    exact ⟨hw', hr.map _⟩
  | account ha hp =>
    obtain ⟨-, ⟨_, hr, -⟩ | ⟨a, hfound, ⟨⟩⟩⟩ := Book.getAccount_cases ha
    · exact nomatch hr
    · cases hf with
      | account ht =>
        -- the account that the hook is told about is the one of the record
        have hid := (Keyed.find?_eq_some Account.id hfound).2
        obtain ⟨hw', hr⟩ := hp.fair (hw.atBook (Book.getAccount_frame ha).1) (hid ▸ ht)
        exact ⟨hw', hr.map _⟩

theorem Delivered.fair {r : Receipt} (h : Delivered p n w r w') (hw : w.Fair) : w'.Fair := by
  cases h with
  | journaled hc _ =>
    obtain ⟨hw', -⟩ := hc.fair hw (Finding.of_fair hw.store n)
    exact ⟨⟨hw'.store.responses, hw'.store.pendingRequests, hw'.store.failures⟩, hw'.book, hw'.hook⟩
  | unrecorded hc _ => exact (hc.fair hw (Finding.of_fair hw.store n)).1

end NoticeLedger
