import NoticeLedger.Proofs.Delivery.Isolation
import NoticeLedger.Proofs.Rehearsal.Run

/-!
# NoticeLedger.Proofs.Delivery.Settled

Once the response to an operation is stored for a transaction, no notice about it makes a payment.

* `MemoryStore.LeadsTo` — the response under a reference leads to given entries.
* `Move.Spares` — nothing but deliveries changes where the reference leads: what is arranged, and
  what a hook stores, is under another reference or for the same entries.
* `Bench.Stores.leadsTo`, `Desk.after_holds` — the reference leads to the same entries after what is
  acted on, and after every run.
* `Finding.of_leadsTo` — so a notice under the reference is about the transaction.
* `no_second_payment` — the same at a desk.
-/

namespace NoticeLedger

open Delivery

/-- The response under a reference leads to given entries. -/
def MemoryStore.LeadsTo (s : MemoryStore) (ref : Given) (c : Correlation) : Prop :=
  (s.findResponse ref).map Correlation.ofResponse = some c

def Correlation.ofDraft (d : StoredResponse.Draft) : Correlation where
  source := .response
  accountId := d.accountId
  tenantId := d.tenantId
  paymentId := d.paymentId
  transactionId := d.transactionId

/-- A response that is to be stored under another reference, or for the same entries. -/
def StoredResponse.Draft.Spares (ref : Given) (c : Correlation) (d : StoredResponse.Draft) : Prop :=
  d.pspReference = ref → Correlation.ofDraft d = c

def PurchaseHook.Spares (ref : Given) (c : Correlation) (h : PurchaseHook) : Prop :=
  ∀ draft, h.save = some draft → ∀ payment context, (draft payment context).Spares ref c

/-- What is arranged does not put other entries under a reference, nor has the hook do it. -/
def Arrangement.Spares (ref : Given) (c : Correlation) : Arrangement → Prop
  | saveResponse draft => draft.Spares ref c
  | setHook hook => hook.Spares ref c
  | _ => True

/-- A delivery of any notice is allowed. -/
def Move.Spares (ref : Given) (c : Correlation) : Move → Prop
  | deliver _ _ => True
  | arrange a => a.Spares ref c

/-- A bench where a reference leads to given entries, and the hook leaves it so. -/
structure Bench.Holds (w : Bench) (ref : Given) (c : Correlation) : Prop where
  store : w.store.LeadsTo ref c
  hook : w.hook.Spares ref c

variable {p : Profile} {n : Notice} {ref : Given} {c : Correlation} {s s' : MemoryStore}
  {w w' : Bench} {d : Desk} {now : Instant}

/-! ## What a reference leads to -/

theorem MemoryStore.LeadsTo.saved {draft : StoredResponse.Draft} (h : s.LeadsTo ref c)
    (hd : draft.Spares ref c)
    (hs : s'.responses =
      Keyed.put StoredResponse.pspReference s.responses (s.responseOf now draft)) :
    s'.LeadsTo ref c := by
  have hkey : (s.responseOf now draft).pspReference = draft.pspReference := rfl
  rw [MemoryStore.LeadsTo, MemoryStore.findResponse, hs, Keyed.find?_put, hkey]
  by_cases href : draft.pspReference = ref
  · rw [if_pos href]
    exact congrArg some (hd href)
  · rw [if_neg href]
    exact h

theorem MemoryStore.LeadsTo.edited {e : Edit} (h : s.LeadsTo ref c)
    (hs : s'.responses = s.responses.map (·.edited now e)) : s'.LeadsTo ref c := by
  have hleads : s.Leads { s with responses := s'.responses } := by
    refine ⟨?_, rfl, rfl⟩
    rw [hs, List.map_map]
    exact List.map_congr_left fun r _ => MemoryStore.edited_lead now e r
  exact (hleads.findResponse ref).trans h

theorem Bench.Stores.leadsTo {found : Finding} {responses : List StoredResponse}
    (h : w.Stores n found responses) (hw : w.Holds ref c) (hs : s.responses = responses) :
    s.LeadsTo ref c := by
  cases h with
  | kept =>
    rw [MemoryStore.LeadsTo, MemoryStore.findResponse, hs]
    exact hw.store
  | edited => exact hw.store.edited hs
  | hooked hsave => exact hw.store.saved (hw.hook _ hsave _ _) hs

theorem Delivered.holds {r : Receipt} (h : Delivered p n w r w') (hw : w.Holds ref c) :
    w'.Holds ref c where
  store := h.stores.1.leadsTo hw rfl
  hook := by
    rw [h.precedes.hook]
    exact hw.hook

theorem Arrangement.apply_holds {a : Arrangement} (hw : w.Holds ref c) (ha : a.Spares ref c) :
    (a.apply w).Holds ref c := by
  cases a with
  | saveResponse draft =>
    rw [apply]
    cases h : w.store.saveResponse w.now draft with
    | error f => exact hw
    | ok saved =>
      obtain ⟨hrecord, hstore⟩ := MemoryStore.saveResponse_ok h
      rw [hrecord] at hstore
      exact ⟨hw.store.saved ha (congrArg MemoryStore.responses hstore), hw.hook⟩
  | savePendingRequest draft =>
    rw [apply]
    cases h : w.store.savePendingRequest w.now draft with
    | error f => exact hw
    | ok saved =>
      rw [MemoryStore.savePendingRequest] at h
      cases (MemoryStore.enter_bind_ok h).2
      exact ⟨hw.store, hw.hook⟩
  | failStore op failure => exact ⟨hw.store, hw.hook⟩
  | restoreStore => exact ⟨hw.store, hw.hook⟩
  | addAccount account => exact ⟨hw.store, hw.hook⟩
  | addPaymentMethod method => exact ⟨hw.store, hw.hook⟩
  | addPayment payment => exact ⟨hw.store, hw.hook⟩
  | failLedger op failure => exact ⟨hw.store, hw.hook⟩
  | restoreLedger => exact ⟨hw.store, hw.hook⟩
  | setHook hook => exact ⟨hw.store, ha⟩
  | setTime now => exact ⟨hw.store, hw.hook⟩

theorem Desk.after_holds {moves : List Move} (hd : w.On d) (hw : w.Holds ref c)
    (hm : ∀ m ∈ moves, m.Spares ref c) :
    ∃ w' : Bench, w'.On (d.after p moves) ∧ w'.Holds ref c :=
  Desk.after_keeps hd hw (fun hr hw => hr.holds hw) fun a ha _ hw =>
    Arrangement.apply_holds hw (hm (.arrange a) ha)

/-! ## A notice under the reference -/

/-- A notice under the reference is about the transaction, if the look-up works. -/
theorem Finding.of_leadsTo (h : s.LeadsTo ref c) (ht : c.transactionId ≠ .null)
    (href : n.pspReference = ref) (hn : n.classification ≠ some .chargeback)
    (hr : EventCode.isReport n.eventCode ≠ true) :
    (∃ f, of s n = .failed f) ∨ of s n = .transaction c := by
  rw [of, if_neg hn, if_neg hr, ofReference_eq]
  cases s.enter .getResponse with
  | error f => exact .inl ⟨_, rfl⟩
  | ok _ =>
    right
    dsimp only
    rw [href, h]
    exact if_neg ht

/-- What it calls for is no purchase, and it comes to an update of the transaction or fails. -/
theorem Delivered.settled {r : Receipt} (h : Delivered p n w r w') (hw : w.Holds ref c)
    (ht : c.transactionId ≠ .null) (href : n.pspReference = ref)
    (hn : n.classification ≠ some .chargeback) :
    (∃ calls, w'.book.calls = w.book.calls ++ calls ∧ LedgerOperation.createPurchase ∉ calls) ∧
      (EventCode.isReport n.eventCode ≠ true → ∀ outcome, r.result = .ok outcome →
        ∃ open?, outcome = .updated c.ids open?) := by
  obtain ⟨result, w₁, hc, hbook, ho⟩ := h.result
  obtain ⟨calls, hcalls⟩ := hc.obeys
  rw [hbook]
  refine ⟨⟨calls.map LedgerCall.operation, hcalls.made.calls_eq, fun hmem => ?_⟩, ?_⟩
  · obtain ⟨call, hcall, hop⟩ := List.mem_map.mp hmem
    have hforeseen := hcalls.first.subset hcall
    by_cases hr : EventCode.isReport n.eventCode = true
    · rw [Finding.of_report hr] at hforeseen
      cases hforeseen
    · rcases Finding.of_leadsTo hw.store ht href hn hr with ⟨f, hf⟩ | hf
      · rw [hf] at hforeseen
        cases hforeseen
      · -- the account is looked up, then the state of the transaction is reported
        rw [hf, Finding.calls, Book.accountCalls] at hforeseen
        rcases List.mem_cons.mp hforeseen with rfl | hforeseen
        · cases hop
        · split at hforeseen
          · cases List.mem_singleton.mp hforeseen
            cases hop
          · cases hforeseen
  · intro hr outcome hresult
    have hfits := hc.fits (ho outcome hresult)
    rcases Finding.of_leadsTo hw.store ht href hn hr with ⟨f, hf⟩ | hf
    · rw [hf] at hfits
      cases hfits
    · rw [hf] at hfits
      cases hfits with
      | transaction => exact ⟨_, rfl⟩

/-! ## At a desk -/

/-- **No second payment.** Once a response is stored under a reference for a transaction, whatever
happens, no notice under that reference but a chargeback has a purchase recorded; if it does not
fail, and is no report, it comes to an update of that transaction. -/
theorem no_second_payment {r : Reconciler} (hr : r.Articulate) {w : Bench} {d : Desk} {ref : Given}
    {stored : StoredResponse} (hd : w.On d) (hs : w.store.findResponse ref = some stored)
    (ht : stored.transactionId ≠ .null) (hhook : w.hook.Spares ref (.ofResponse stored))
    (moves : List Move) (hm : ∀ m ∈ moves, m.Spares ref (.ofResponse stored)) (n : Notice)
    (href : n.pspReference = ref) (hn : n.classification ≠ some .chargeback) :
    ∃ (receipt : Receipt) (d₂ : Desk) (w₁ w₂ : Bench), w₁.On (d.after r.profile moves) ∧
      r.process n (d.after r.profile moves) = (.ok receipt, d₂) ∧ w₂.On d₂ ∧
      (∃ calls, w₂.book.calls = w₁.book.calls ++ calls ∧
        LedgerOperation.createPurchase ∉ calls) ∧
      (EventCode.isReport n.eventCode ≠ true →
        ∀ outcome, receipt.result = .ok outcome →
          ∃ open?, outcome = .updated
            ⟨stored.accountId, stored.tenantId, stored.paymentId, stored.transactionId⟩
            open?) := by
  have hw : w.Holds ref (.ofResponse stored) := by
    refine ⟨?_, hhook⟩
    rw [MemoryStore.LeadsTo, hs]
    rfl
  obtain ⟨w₁, hd₁, hw₁⟩ := Desk.after_holds (p := r.profile) hd hw hm
  obtain ⟨receipt, d₂, w₂, hrun, hd₂, hdelivered⟩ := Reconciler.process_delivered hr n hd₁
  obtain ⟨hcalls, houtcome⟩ := hdelivered.settled hw₁ ht href hn
  exact ⟨receipt, d₂, w₁, w₂, hd₁, hrun, hd₂, hcalls, houtcome⟩

namespace Sample

def savingHook : PurchaseHook where
  save := some fun payment context =>
    { pspReference := .text "psp-2"
      accountId := payment.accountId
      tenantId := context.tenantId
      paymentId := payment.id
      transactionId := some (Given.orNull (payment.transactions.head?.bind Transaction.id)) }

def orderPaid : Notice :=
  { authorisation with pspReference := .text "psp-2", merchantReference := .text "order-2" }

def order : HostedRequest.Draft where
  merchantReference := .text "order-2"
  accountId := .text "account-1"
  tenantId := .text "tenant-1"

end Sample

/-- An order is paid, and the hook stores the response; then the ledger fails and works again, and
the outcome of the first operation is reported without any purchase. -/
theorem no_second_payment_sample :
    let d := { Sample.bench with hook := Sample.savingHook }.desk.after Sample.profile
      [.arrange (.savePendingRequest Sample.order), .deliver none Sample.orderPaid,
        .arrange (.failLedger .getAccount none), .deliver none Sample.authorisation,
        .arrange .restoreLedger]
    ∃ (receipt : Receipt) (d₂ : Desk) (w₁ w₂ : Bench), w₁.On d ∧
      Sample.reconciler.process Sample.authorisation d = (.ok receipt, d₂) ∧ w₂.On d₂ ∧
      ∃ calls, w₂.book.calls = w₁.book.calls ++ calls ∧
        LedgerOperation.createPurchase ∉ calls := by
  intro d
  have hspares : Sample.savingHook.Spares (.text "psp-1") (.ofResponse Sample.response) := by
    rintro _ ⟨⟩ payment context href
    have hne : Given.text "psp-2" ≠ .text "psp-1" := by decide
    exact absurd href hne
  obtain ⟨receipt, d₂, w₁, w₂, hd₁, hrun, hd₂, hcalls, -⟩ :=
    no_second_payment Sample.articulate (w := { Sample.bench with hook := Sample.savingHook })
      (Bench.on_desk _) rfl (by decide) hspares
      [.arrange (.savePendingRequest Sample.order), .deliver none Sample.orderPaid,
        .arrange (.failLedger .getAccount none), .deliver none Sample.authorisation,
        .arrange .restoreLedger]
      (by simp [Move.Spares, Arrangement.Spares]) Sample.authorisation rfl (by decide)
  exact ⟨receipt, d₂, w₁, w₂, hd₁, hrun, hd₂, hcalls⟩

end NoticeLedger
