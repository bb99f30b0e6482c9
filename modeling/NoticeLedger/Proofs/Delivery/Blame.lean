import NoticeLedger.Proofs.Intake.Parse
import NoticeLedger.Proofs.Money.Decimal
import NoticeLedger.Proofs.Rehearsal.Frame
import NoticeLedger.Proofs.Rehearsal.Soundness

/-!
# NoticeLedger.Proofs.Delivery.Blame

Why a notice is to be delivered again.

* `Bench.Rejects p n w f` — an operation that the delivery of `n` at `w` invokes fails with `f`.
* `Bench.LacksMethod p n w` — the account of the notice has no payment method of the plugin.
* `Notice.WellFormed.money_fatal` — an amount that is no money makes a notice malformed.
* `Course.blame` — each way to a failure that asks for another delivery goes through one of these.
* `retry_has_cause` — so a notice that was posted never asks for another delivery on its own.
-/

namespace NoticeLedger

open Delivery

variable {p : Profile} {n : Notice} {w w' : Bench} {f : Failure}

/-! ## Amounts -/

theorem Notice.WellFormed.currency {sent amount : Members} (h : n.WellFormed sent)
    (ha : n.amount = some amount) :
    ∀ v, Members.get? amount "currency" = some v → v = .null ∨ ∃ s, v = .text s := by
  obtain hnone | ⟨value, currency, -, hsome⟩ | ⟨-, hempty⟩ := h.amount
  · exact nomatch hnone.symm.trans ha
  · cases hsome.symm.trans ha
    rintro _ ⟨⟩
    exact .inr ⟨currency, rfl⟩
  · cases hempty.symm.trans ha
    exact nofun

/-- A notice that was posted without money in it is malformed, and never to be delivered again. -/
theorem Notice.WellFormed.money_fatal {sent : Members} {operation : String}
    (h : n.WellFormed sent) (hm : n.money operation = .error f) : f.disposition = .fatal := by
  unfold Notice.money at hm
  split at hm
  · cases hm
    rfl
  · rename_i amount ha
    split at hm
    · cases hm
    · rename_i refusal hrefused
      split at hm
      · rename_i hnone
        exact absurd hnone (Money.of_reason (h.currency ha) hrefused)
      · cases hm
        rfl

/-! ## Operations that fail -/

/-- An operation that a delivery invokes fails: the look-ups that correlation makes, those that act
on what was found, each where those before it were answered, and the journal at the end. -/
inductive Bench.Rejects (p : Profile) (n : Notice) (w : Bench) : Failure → Prop where
  | earlier {f : Failure} :
      n.classification = some .chargeback → n.earlierReference ≠ .null →
      w.store.getResponse (some n.earlierReference) = .error f → Rejects p n w f
  | response {f : Failure} :
      n.classification ≠ some .chargeback → EventCode.isReport n.eventCode = false →
      w.store.getResponse n.pspReference = .error f → Rejects p n w f
  | pendingRequest {f : Failure} :
      n.classification ≠ some .chargeback → EventCode.isReport n.eventCode = false →
      w.store.getResponse n.pspReference = .ok none → n.merchantReference ≠ .null →
      w.store.getPendingRequest (some n.merchantReference) = .error f → Rejects p n w f
  | account {id : Given} {b : Book} {f : Failure} :
      (Finding.of w.store n).accountId? = some id →
      w.book.getAccount id = (.error f, b) → Rejects p n w f
  | chargeback {earlier : StoredResponse} {account : Account} {amount : Money} {b b' : Book}
      {f : Failure} :
      Finding.of w.store n = .disputed earlier →
      w.book.getAccount earlier.accountId = (.ok account, b) →
      n.money LedgerOperation.createChargeback.name = .ok amount →
      b.createChargeback account (n.chargebackOrder earlier amount)
        (contextOf earlier.tenantId p.userName w.now) = (.error f, b') →
      Rejects p n w f
  | metadata {c : Correlation} {account : Account} {b : Book} {f : Failure} :
      Finding.of w.store n = .transaction c →
      w.book.getAccount c.accountId = (.ok account, b) →
      w.store.updateMetadata w.now c.transactionId (n.responseProperties c.isHosted)
        c.tenantId = .error f →
      Rejects p n w f
  | state {c : Correlation} {account : Account} {b b' : Book} {s : MemoryStore} {f : Failure} :
      Finding.of w.store n = .transaction c →
      w.book.getAccount c.accountId = (.ok account, b) →
      w.store.updateMetadata w.now c.transactionId (n.responseProperties c.isHosted)
        c.tenantId = .ok s →
      b.reportState account c.transactionId (some n.reportedSuccess)
        (contextOf c.tenantId p.userName w.now) = (.error f, b') →
      Rejects p n w f
  | methods {c : Correlation} {account : Account} {b b' : Book} {f : Failure} :
      Finding.of w.store n = .account c →
      w.book.getAccount c.accountId = (.ok account, b) →
      b.listPaymentMethods account.id = (.error f, b') →
      Rejects p n w f
  | purchase {c : Correlation} {account : Account} {amount : Money} {method : PaymentMethod}
      {b b₁ b' : Book} {methods : List PaymentMethod} {f : Failure} :
      Finding.of w.store n = .account c →
      w.book.getAccount c.accountId = (.ok account, b) →
      n.money LedgerOperation.createPurchase.name = .ok amount →
      b.listPaymentMethods account.id = (.ok methods, b₁) →
      methods.find? (·.pluginName == .text p.pluginName) = some method →
      (b₁.createPurchase account (n.purchaseOrder c amount method)
          (contextOf c.tenantId p.userName w.now) = (.error f, b') ∨
        ∃ payment s, b₁.createPurchase account (n.purchaseOrder c amount method)
            (contextOf c.tenantId p.userName w.now) = (.ok payment, b') ∧
          ({ w with book := b₁ } : Bench).afterPurchase payment
            (contextOf c.tenantId p.userName w.now) = (.error f, s)) →
      Rejects p n w f
  | journal {f : Failure} : w.store.enter .appendJournal = .error f → Rejects p n w f

/-- The account that a purchase is to be recorded for has no payment method of the plugin. -/
def Bench.LacksMethod (p : Profile) (n : Notice) (w : Bench) : Prop :=
  ∃ c account b, Finding.of w.store n = .account c ∧
    w.book.getAccount c.accountId = (.ok account, b) ∧
    ∀ method ∈ w.book.methods, method.accountId = account.id →
      method.pluginName ≠ .text p.pluginName

/-- A look-up that failed is one of those that correlation makes. -/
theorem Finding.failed_blame (h : Finding.of w.store n = .failed f) : ∃ f', w.Rejects p n f' := by
  rw [Finding.of] at h
  split at h
  · rename_i hn
    rw [Finding.ofEarlier] at h
    split at h
    · cases h
    · rename_i href
      split at h
      · rename_i f' hf
        exact ⟨f', .earlier hn href hf⟩
      · cases h
      · cases h
  · rename_i hn
    split at h
    · cases h
    · rename_i hreport
      rw [Bool.not_eq_true] at hreport
      rw [Finding.ofReference] at h
      split at h
      · rename_i f' hf
        exact ⟨f', .response hn hreport hf⟩
      · rename_i hnone
        rw [Finding.ofRequest] at h
        split at h
        · cases h
        · rename_i href
          split at h
          · rename_i f' hf
            exact ⟨f', .pendingRequest hn hreport hnone href hf⟩
          · cases h
          · rw [Finding.ofCorrelation] at h
            split at h <;> cases h
      · rw [Finding.ofCorrelation] at h
        split at h <;> cases h

theorem Bench.lacksMethod_of_find? {c : Correlation} {account : Account} {b b' : Book}
    {methods : List PaymentMethod} (hfound : Finding.of w.store n = .account c)
    (ha : w.book.getAccount c.accountId = (.ok account, b))
    (hl : b.listPaymentMethods account.id = (.ok methods, b'))
    (hnone : methods.find? (·.pluginName == .text p.pluginName) = none) : w.LacksMethod p n := by
  refine ⟨c, account, b, hfound, ha, fun method hmem haccount hplugin => ?_⟩
  obtain ⟨-, ⟨_, hr, -⟩ | ⟨⟨⟩⟩⟩ := Book.listPaymentMethods_cases hl
  · exact nomatch hr
  · rw [List.find?_eq_none] at hnone
    refine hnone method (List.mem_filter.mpr ⟨?_, ?_⟩) ?_
    · rw [(Book.getAccount_frame ha).1.methods]
      exact hmem
    · exact beq_iff_eq.mpr haccount
    · exact beq_iff_eq.mpr hplugin

/-- Each way to a failure that asks for another delivery goes through an operation that fails, or
ends where there is no method to use. -/
theorem Course.blame {found : Finding} (h : Course p n w found (.error f) w')
    (hfound : Finding.of w.store n = found) (hretry : f.disposition ≠ .fatal)
    (hmoney : ∀ operation f, n.money operation = .error f → f.disposition = .fatal) :
    (∃ f', w.Rejects p n f') ∨ w.LacksMethod p n := by
  generalize hresult : (Except.error f : Except Failure Outcome) = result at h
  cases h with
  | failed => exact .inl (Finding.failed_blame hfound)
  | nothing => exact nomatch hresult
  | noAccount hid ha => exact .inl ⟨_, .account (hfound ▸ hid) ha⟩
  | @disputed _ _ _ made _ ha hc =>
    cases hc with
    | noMoney hm =>
      cases hresult
      exact absurd (hmoney _ _ hm) hretry
    | refused hm hc => exact .inl ⟨_, .chargeback hfound ha hm hc⟩
    | recorded _ _ => exact nomatch hresult
  | @transaction c _ _ made _ ha hu =>
    cases hu with
    | notStored hf => exact .inl ⟨_, .metadata hfound ha hf⟩
    | stored hs hr =>
      cases hr with
      | refused hr _ => exact .inl ⟨_, .state hfound ha hs hr⟩
      | notOpen _ _ => exact nomatch hresult
      | applied _ => exact nomatch hresult
  | @account c _ _ made _ ha hp =>
    cases hp with
    | noMoney hm =>
      cases hresult
      exact absurd (hmoney _ _ hm) hretry
    | noMethods _ hl => exact .inl ⟨_, .methods hfound ha hl⟩
    | noMethod _ hl hnone => exact .inr (Bench.lacksMethod_of_find? hfound ha hl hnone)
    | ordered hm hl hf ho =>
      cases ho with
      | refused hc => exact .inl ⟨_, .purchase hfound ha hm hl hf (.inl hc)⟩
      | unfinished hc hafter =>
        exact .inl ⟨_, .purchase hfound ha hm hl hf (.inr ⟨_, _, hc, hafter⟩)⟩
      | recorded _ _ => exact nomatch hresult

/-! ## Deliveries -/

theorem toldFailure_disposition (f : Failure) : (toldFailure f).disposition = f.disposition := by
  cases f <;> rfl

/-- Another delivery is asked for only where something failed that is not malformed. -/
theorem failure_of_retryRequested {result : Except Failure Outcome}
    (h : (receiptOf n result).signal.retryRequested = true) :
    ∃ f, result = .error f ∧ f.disposition ≠ .fatal := by
  cases result with
  | ok outcome => exact nomatch h
  | error f =>
    have hretry : (toldFailure f).disposition = .retryable := of_decide_eq_true h
    rw [toldFailure_disposition] at hretry
    exact ⟨f, rfl, by rw [hretry]; exact nofun⟩

theorem Delivered.blame {r : Receipt} (h : Delivered p n w r w')
    (hretry : r.signal.retryRequested = true)
    (hmoney : ∀ operation f, n.money operation = .error f → f.disposition = .fatal) :
    (∃ f, w.Rejects p n f) ∨ w.LacksMethod p n := by
  cases h with
  | journaled hc _ =>
    obtain ⟨f, rfl, hf⟩ := failure_of_retryRequested hretry
    exact hc.blame rfl hf hmoney
  | unrecorded hc hj => exact .inl ⟨_, .journal ((hc.keeps.store.enter _).symm.trans hj)⟩

theorem Batch.NoticesFor.wellFormed {items : List Json} {notices : List Notice}
    (h : Batch.NoticesFor items notices) : ∀ n ∈ notices, ∃ sent, n.WellFormed sent := by
  induction h with
  | nil => nofun
  | cons hi _ ih =>
    obtain ⟨sent, -, hn⟩ := hi
    exact List.forall_mem_cons.mpr ⟨⟨sent, hn⟩, ih⟩

theorem Batch.wellFormed_of_parse {max : Option Number} {body : Given} {notices : List Notice}
    (h : Batch.parse max body = .ok notices) : ∀ n ∈ notices, ∃ sent, n.WellFormed sent := by
  cases Batch.parse_answer max body with
  | slipped _ hp => exact nomatch h.symm.trans hp
  | refused _ hp => exact nomatch h.symm.trans hp
  | taken _ _ _ hp hfor =>
    cases h.symm.trans hp
    exact hfor.wellFormed

/-- **No notice is sent for ever on its own account.** If the delivery of a notice that was posted
asks for another one, then an operation of the store or of the ledger failed that it invoked, or the
account has no payment method of the plugin. An amount that is no money makes the notice malformed,
which asks for nothing. -/
theorem retry_has_cause {r : Reconciler} (hr : r.Articulate) {max : Option Number}
    {body : Given} {notices : List Notice} (hp : Batch.parse max body = .ok notices)
    (hn : n ∈ notices) {d : Desk} (hd : w.On d) :
    ∃ (receipt : Receipt) (d' : Desk), r.process n d = (.ok receipt, d') ∧
      (receipt.signal.retryRequested = true →
        (∃ f, w.Rejects r.profile n f) ∨ w.LacksMethod r.profile n) ∧
      ∀ operation f, n.money operation = .error f → f.disposition = .fatal := by
  obtain ⟨sent, hsent⟩ := Batch.wellFormed_of_parse hp n hn
  have hmoney (operation : String) (f : Failure) (hm : n.money operation = .error f) :
      f.disposition = .fatal := hsent.money_fatal hm
  obtain ⟨receipt, d', _, hrun, -, hdelivered⟩ := Reconciler.process_delivered hr n hd
  exact ⟨receipt, d', hrun, fun hretry => hdelivered.blame hretry hmoney, hmoney⟩

/-- The first notice of the sample batch, where its account is missing. -/
theorem retry_has_cause_posted :
    let w : Bench := { Sample.bench with book := {} }
    ∃ notices n receipt d', Batch.parse none (some (.object Batch.postedSample)) = .ok notices ∧
      n ∈ notices ∧ Sample.reconciler.process n w.desk = (.ok receipt, d') ∧
      receipt.signal.retryRequested = true ∧
      ((∃ f, w.Rejects Sample.profile n f) ∨ w.LacksMethod Sample.profile n) := by
  intro w
  obtain ⟨n, rest, hp, hretry⟩ : ∃ n rest,
      Batch.parse none (some (.object Batch.postedSample)) = .ok (n :: rest) ∧
        (Sample.reconciler.process n w.desk).1.map (·.signal.retryRequested) = .ok true :=
    ⟨_, _, rfl, rfl⟩
  obtain ⟨receipt, d', hrun, hcause, -⟩ :=
    retry_has_cause Sample.articulate hp List.mem_cons_self w.on_desk
  rw [hrun] at hretry
  exact ⟨n :: rest, n, receipt, d', hp, List.mem_cons_self, hrun, Except.ok.inj hretry,
    hcause (Except.ok.inj hretry)⟩

end NoticeLedger
