import NoticeLedger.Proofs.Rehearsal.Announced
import NoticeLedger.Proofs.Rehearsal.Course

/-!
# NoticeLedger.Proofs.Rehearsal.Soundness

Deliveries go in no other way than the courses say.

* `resolve_gives`, `earlierOf_gives` — the look-ups of a notice come to `Finding.of`.
* one statement for each kind of work: what the action gives is one of its ways.
* `attempt_gives`, `reconcile_gives` — the same for all that is done for a notice.
* `Reconciler.process_on` — a delivery at a desk goes in one of the ways, whatever the observers do.
* `Reconciler.process_delivered`, `processBatch_delivered` — and so it is told, and so is a batch,
  with observers that fail with words, if at all.
-/

namespace NoticeLedger

open Delivery

variable {p : Profile} {n : Notice} {w : Bench}

/-! ## Look-ups -/

/-- What a look-up of the entries of a notice comes to. -/
def Finding.ofFound : Except Failure (Option Correlation) → Finding
  | .error f => failed f
  | .ok none => nothing
  | .ok (some c) => ofCorrelation c

/-- What a look-up of a disputed operation comes to. -/
def Finding.ofDisputed : Except Failure (Option StoredResponse) → Finding
  | .error f => failed f
  | .ok none => nothing
  | .ok (some r) => disputed r

theorem findResponse_gives (ref : Given) (w : Bench) :
    Gives (findResponse ref) w
      ((w.store.getResponse ref).mapError (Failure.wrap StoreOperation.getResponse.name [])) w :=
  .guarded _ _ (.getResponse ref w)

theorem findPendingRequest_gives (ref : Given) (w : Bench) :
    Gives (findPendingRequest ref) w
      ((w.store.getPendingRequest ref).mapError
        (Failure.wrap StoreOperation.getPendingRequest.name [])) w :=
  .guarded _ _ (.getPendingRequest ref w)

theorem request_gives (n : Notice) (w : Bench) :
    ∃ r, Gives (if n.merchantReference = .null then pure none
        else do pure ((← findPendingRequest (some n.merchantReference)).map .ofRequest) :
          Action (Option Correlation)) w r w ∧
      Finding.ofRequest w.store n = .ofFound r := by
  have hp := findPendingRequest_gives (some n.merchantReference) w
  rw [Finding.ofRequest]
  by_cases hm : n.merchantReference = .null
  · rw [if_pos hm, if_pos hm]
    exact ⟨.ok none, .pure _ w, rfl⟩
  · rw [if_neg hm, if_neg hm]
    cases hq : w.store.getPendingRequest (some n.merchantReference) with
    | error f =>
      rw [hq] at hp
      exact ⟨_, .bind_error hp, rfl⟩
    | ok request =>
      rw [hq] at hp
      refine ⟨.ok (request.map .ofRequest), .bind_ok hp (.pure _ w), ?_⟩
      cases request <;> rfl

theorem resolve_gives (hn : n.classification ≠ some .chargeback) :
    ∃ r, Gives (resolve n) w r w ∧ Finding.of w.store n = .ofFound r := by
  have hr := findResponse_gives n.pspReference w
  rw [Finding.of, if_neg hn, resolve]
  by_cases hreport : EventCode.isReport n.eventCode
  · rw [if_pos hreport, if_pos hreport]
    exact ⟨.ok none, .pure _ w, rfl⟩
  · rw [if_neg hreport, if_neg hreport, Finding.ofReference]
    cases hs : w.store.getResponse n.pspReference with
    | error f =>
      rw [hs] at hr
      exact ⟨_, .bind_error hr, rfl⟩
    | ok found =>
      rw [hs] at hr
      cases found with
      | some response => exact ⟨.ok (some (.ofResponse response)), .bind_ok hr (.pure _ w), rfl⟩
      | none =>
        obtain ⟨r, hq, hf⟩ := request_gives n w
        exact ⟨r, .bind_ok hr hq, hf⟩

theorem earlierOf_gives (hn : n.classification = some .chargeback) :
    ∃ r, Gives (earlierOf n) w r w ∧ Finding.of w.store n = .ofDisputed r := by
  rw [Finding.of, if_pos hn, earlierOf, Finding.ofEarlier]
  by_cases he : n.earlierReference = .null
  · rw [if_pos he, if_pos he]
    exact ⟨.ok none, .pure _ w, rfl⟩
  · rw [if_neg he, if_neg he]
    refine ⟨_, findResponse_gives _ w, ?_⟩
    cases w.store.getResponse (some n.earlierReference) with
    | error f => rfl
    | ok found => cases found <;> rfl

/-! ## Work at the ledger -/

theorem findAccount_gives {id : Given} {r : Except Failure Account} {b : Book}
    (context : CallContext) (h : w.book.getAccount id = (r, b)) :
    Gives (findAccount id context) w
      (r.mapError (Failure.wrap LedgerOperation.getAccount.name [])) { w with book := b } :=
  .guarded _ _ (.getAccount context h)

theorem chargingBack_gives (n : Notice) (earlier : StoredResponse) (account : Account)
    (context : CallContext) (w : Bench) :
    ∃ r w', Gives (do
        let amount ← ExceptT.mk (pure (n.money LedgerOperation.createChargeback.name))
        guarded LedgerOperation.createChargeback.name []
          (Desk.createChargeback account ⟨earlier.paymentId, amount, some n.reason⟩ context) :
          Action Payment) w r w' ∧
      ChargingBack n earlier account context w r w' := by
  cases hm : n.money LedgerOperation.createChargeback.name with
  | error f => exact ⟨.error f, w, .bind_error (.pure (Except.error f) w), .noMoney hm⟩
  | ok amount =>
    rcases hc : w.book.createChargeback account (n.chargebackOrder earlier amount) context with
      ⟨answer, b⟩
    refine ⟨_, _, .bind_ok (.pure (Except.ok amount) w) (.guarded _ _ (.createChargeback hc)), ?_⟩
    cases answer with
    | error f => exact .refused hm hc
    | ok payment => exact .recorded hm hc

theorem reportState_gives (n : Notice) (c : Correlation) (account : Account)
    (context : CallContext) (w : Bench) :
    ∃ r w', Gives (reportState n account c.transactionId context) w r w' ∧
      Reporting n c account context w r w' := by
  rcases hs : w.book.reportState account c.transactionId (some n.reportedSuccess) context with
    ⟨answer, b⟩
  -- a benign failure is caught, so the cases are those of the failure after it was wrapped
  have hg := Gives.lift (Gives.guarded LedgerOperation.reportState.name
    [PlatformCode.notPending] (Gives.reportState hs))
  cases answer with
  | ok payment => exact ⟨.ok true, _, .bind_ok hg (.pure (Except.ok true) _), .applied hs⟩
  | error f =>
    cases hf : Failure.wrap LedgerOperation.reportState.name [PlatformCode.notPending] f with
    | benign m op code cause =>
      simp only [Except.mapError, hf] at hg
      refine ⟨.ok false, _,
        .bind_ok hg (.bind_ok (.lift (.note _ _ _ _)) (.pure (Except.ok false) _)),
        .notOpen hs ?_⟩
      rw [hf]
      rfl
    | _ =>
      simp only [Except.mapError, hf] at hg
      refine ⟨_, _, .bind_ok hg (.pure (Except.error _) _), ?_⟩
      rw [← hf]
      refine .refused hs ?_
      rw [hf]
      exact Disposition.noConfusion

theorem updateTransaction_gives (n : Notice) (c : Correlation) (account : Account)
    (context : CallContext) (w : Bench) :
    ∃ r w', Gives (updateTransaction n c account context) w
        (r.map fun open? => .updated c.ids open?) w' ∧
      Updating n c account context w r w' := by
  cases hs : w.store.updateMetadata w.now c.transactionId (n.responseProperties c.isHosted)
      c.tenantId with
  | error f =>
    exact ⟨.error _, w, .bind_error (.guarded _ _ (.updateMetadata_error hs)), .notStored hs⟩
  | ok s =>
    obtain ⟨r, w', hg, hr⟩ := reportState_gives n c account context { w with store := s }
    refine ⟨r, w', .bind_ok (.guarded _ _ (.updateMetadata_ok hs)) ?_, .stored hs hr⟩
    cases r with
    | error f => exact .bind_error hg
    | ok open? => exact .bind_ok hg (.pure _ _)

theorem afterPurchase_gives (payment : Payment) (context : CallContext) (w : Bench) :
    Gives (Desk.afterPurchase payment context) w (w.afterPurchase payment context).1
      { w with store := (w.afterPurchase payment context).2 } := by
  refine .bind_read fun d hd => ?_
  rw [hd.platform, hd.hook, Platform.isBook, if_pos rfl, Bench.afterPurchase]
  cases hs : w.hook.save with
  | none =>
    cases w.hook.failure with
    | none => exact .pure (Except.ok ()) w
    | some f => exact .pure (Except.error f) w
  | some draft =>
    dsimp only
    cases hr : w.store.saveResponse w.now (draft payment context) with
    | error f => exact .bind_error (.saveResponse_error hr)
    | ok saved =>
      refine .bind_ok (.saveResponse_ok hr) ?_
      cases w.hook.failure with
      | none => exact .pure (Except.ok ()) _
      | some f => exact .pure (Except.error f) _

theorem createPurchase_gives (account : Account) (order : PurchaseOrder) (context : CallContext)
    (w : Bench) :
    ∃ r w', Gives (guarded LedgerOperation.createPurchase.name []
        (Desk.createPurchase account order context)) w r w' ∧
      Ordering account order context w r w' := by
  rcases hc : w.book.createPurchase account order context with ⟨answer, b⟩
  have hg : Gives (ExceptT.mk (Desk.call fun p => p.createPurchase account order context)) w
      answer { w with book := b } :=
    .call (by simp only [Platform.createPurchase, hc])
  cases answer with
  | error f => exact ⟨_, _, .guarded _ _ (.bind_error hg), .refused hc⟩
  | ok payment =>
    have hh := afterPurchase_gives payment context { w with book := b }
    rcases ha : w.afterPurchase payment context with ⟨fate, s⟩
    rw [show ({ w with book := b } : Bench).afterPurchase payment context = (fate, s) from ha] at hh
    cases fate with
    | error f => exact ⟨_, _, .guarded _ _ (.bind_ok hg (.bind_error hh)), .unfinished hc ha⟩
    | ok _ =>
      exact ⟨_, _, .guarded _ _ (.bind_ok hg (.bind_ok hh (.pure (Except.ok payment) _))),
        .recorded hc ha⟩

theorem purchase_gives (p : Profile) (n : Notice) (c : Correlation) (account : Account)
    (context : CallContext) (w : Bench) :
    ∃ r w', Gives (purchase p n c account context) w r w' ∧
      Purchasing p n c account context w r w' := by
  cases hm : n.money LedgerOperation.createPurchase.name with
  | error f =>
    refine ⟨.error f, w, ?_, .noMoney hm⟩
    rw [purchase, hm]
    exact .bind_error (.pure (Except.error f) w)
  | ok amount =>
    rcases hl : w.book.listPaymentMethods account.id with ⟨answer, b⟩
    have hg := Gives.guarded LedgerOperation.listPaymentMethods.name []
      (Gives.listPaymentMethods context hl)
    rw [purchase, hm]
    cases answer with
    | error f =>
      exact ⟨_, _, .bind_ok (.pure (Except.ok amount) w) (.bind_error (.bind_error hg)),
        .noMethods hm hl⟩
    | ok methods =>
      cases hf : methods.find? (·.pluginName == .text p.pluginName) with
      | none =>
        refine ⟨_, _, .bind_ok (.pure (Except.ok amount) w) (.bind_error (.bind_ok hg ?_)),
          .noMethod hm hl hf⟩
        simp only [hf]
        exact .pure (Except.error _) _
      | some method =>
        obtain ⟨r, w', ho, hr⟩ := createPurchase_gives account (n.purchaseOrder c amount method)
          context { w with book := b }
        have hmethod : Gives (purchaseMethod p account context) w (.ok method)
            { w with book := b } := by
          refine .bind_ok hg ?_
          simp only [hf]
          exact .pure (Except.ok method) _
        refine ⟨r, w', .bind_ok (.pure (Except.ok amount) w) (.bind_ok hmethod ?_),
          .ordered hm hl hf hr⟩
        cases r with
        | error f => exact .bind_error ho
        | ok payment =>
          exact .bind_ok ho (.bind_ok (.lift (.note _ _ _ _)) (.pure (Except.ok payment) _))

/-! ## What is done for a notice -/

theorem createChargeback_gives (n : Notice) (earlier : StoredResponse) (w : Bench) :
    ∃ r w', Gives (createChargeback n earlier (contextOf earlier.tenantId p.userName w.now)) w
        r w' ∧
      Course p n w (.disputed earlier)
        (r.map fun payment => .chargedBack (chargedBackIds earlier payment)) w' := by
  rcases ha : w.book.getAccount earlier.accountId with ⟨answer, b⟩
  have hg := findAccount_gives (contextOf earlier.tenantId p.userName w.now) ha
  cases answer with
  | error f => exact ⟨.error _, _, .bind_error hg, .noAccount rfl ha⟩
  | ok account =>
    obtain ⟨r, w', hr, hc⟩ := chargingBack_gives n earlier account
      (contextOf earlier.tenantId p.userName w.now) { w with book := b }
    exact ⟨r, w', .bind_ok hg hr, .disputed ha hc⟩

theorem chargeBack_gives (hn : n.classification = some .chargeback) :
    ∃ result w', Gives (chargeBack p.userName n) w
        ⟨(Finding.of w.store n).idsAfter result, result⟩ w' ∧
      Course p n w (Finding.of w.store n) result w' := by
  obtain ⟨r, hr, hf⟩ := earlierOf_gives (w := w) hn
  rw [hf, chargeBack]
  cases r with
  | error f => exact ⟨.error f, w, .bind (.run hr) (.pure _ w), .failed⟩
  | ok found =>
    cases found with
    | none =>
      exact ⟨.ok .journaledOnly, w, .bind (.run hr) (.bind (.note _ _ _ w) (.pure _ w)), .nothing⟩
    | some earlier =>
      obtain ⟨result, w', hg, hc⟩ := createChargeback_gives (p := p) n earlier w
      refine ⟨_, w', .bind (.run hr) (.bind_get fun d hd => ?_), hc⟩
      rw [hd.now]
      refine .bind (.run hg) ?_
      cases result with
      | error f => exact .pure _ w'
      | ok payment =>
        simp only [Except.map, Finding.idsAfter, Outcome.ids, chargedBackIds]
        cases lastChargeback payment with
        | some t => exact .pure _ w'
        | none => exact .bind (.note _ _ _ w') (.pure _ w')

theorem ids_ofCorrelation (c : Correlation) : (Finding.ofCorrelation c).ids = c.ids := by
  rw [Finding.ofCorrelation]
  split
  · rename_i ht
    simp only [Finding.ids, Correlation.ids, ht]
  · rfl

theorem accountId?_ofCorrelation (c : Correlation) :
    (Finding.ofCorrelation c).accountId? = some c.accountId := by
  rw [Finding.ofCorrelation]
  split <;> rfl

theorem settle_gives (hn : n.classification ≠ some .chargeback) :
    ∃ result w', Gives (settle p n) w ⟨(Finding.of w.store n).idsAfter result, result⟩ w' ∧
      Course p n w (Finding.of w.store n) result w' := by
  obtain ⟨r, hr, hf⟩ := resolve_gives (w := w) hn
  rw [hf, settle]
  cases r with
  | error f => exact ⟨.error f, w, .bind (.run hr) (.pure _ w), .failed⟩
  | ok found =>
    cases found with
    | none =>
      exact ⟨.ok .journaledOnly, w, .bind (.run hr) (.bind (.note _ _ _ w) (.pure _ w)), .nothing⟩
    | some c =>
      rcases ha : w.book.getAccount c.accountId with ⟨answer, b⟩
      have hg := findAccount_gives (contextOf c.tenantId p.userName w.now) ha
      rw [Finding.ofFound]
      cases answer with
      | error f =>
        refine ⟨.error _, _, .bind (.run hr) (.bind_get fun d hd => ?_),
          .noAccount (accountId?_ofCorrelation c) ha⟩
        rw [hd.now, Finding.idsAfter, ids_ofCorrelation]
        exact .bind (.run hg) (.pure _ _)
      | ok account =>
        by_cases ht : c.transactionId = .null
        · obtain ⟨result, w', hp, hc⟩ := purchase_gives p n c account
            (contextOf c.tenantId p.userName w.now) { w with book := b }
          rw [Finding.ofCorrelation, if_pos ht]
          refine ⟨_, w', .bind (.run hr) (.bind_get fun d hd => ?_), .account ha hc⟩
          rw [hd.now]
          refine .bind (.run hg) ?_
          simp only [Except.mapError, ht, if_true]
          refine .bind (.run hp) ?_
          cases result with
          | ok payment => exact .pure _ w'
          | error f =>
            have hids : c.ids = (Finding.account c).ids := by
              simp only [Finding.ids, Correlation.ids, ht]
            rw [hids]
            exact .pure _ w'
        · obtain ⟨result, w', hu, hc⟩ := updateTransaction_gives n c account
            (contextOf c.tenantId p.userName w.now) { w with book := b }
          rw [Finding.ofCorrelation, if_neg ht]
          refine ⟨_, w', .bind (.run hr) (.bind_get fun d hd => ?_), .transaction ha hc⟩
          rw [hd.now]
          refine .bind (.run hg) ?_
          simp only [Except.mapError, ht, if_false]
          refine .bind (.run hu) ?_
          cases result <;> exact .pure _ w'

/-! ## Deliveries -/

theorem record_ok (ids : LedgerIds) (type : Json) (now : Instant)
    (h : w.store.enter .appendJournal = .ok ()) :
    ∃ e, Gives (record ids (some type) n now) w (.ok e) { w with store := { w.store with
      journal := w.store.journal ++ [⟨ids.filled, some type, n, now⟩] } } := by
  have ha := Gives.appendJournal_ok (e := ⟨ids.filled, some type, n, now⟩) h
  exact ⟨_, .bind_ok (.lift (.run ha)) (.bind_ok (.lift (.note _ _ _ _)) (.pure (Except.ok _) _))⟩

theorem record_error {ids : LedgerIds} {type : Given} {now : Instant} {f : Failure}
    (h : w.store.enter .appendJournal = .error f) :
    Gives (record ids type n now) w (.error (n.unrecorded f)) w :=
  .bind_ok (.lift (.run (.appendJournal_error h))) (.pure (Except.error _) w)

/-- What is done for a notice before it is journaled. -/
def attempt (p : Profile) (n : Notice) : StateM Desk Attempt :=
  if n.classification = some .chargeback then chargeBack p.userName n else settle p n

theorem attempt_gives (p : Profile) (n : Notice) (w : Bench) :
    ∃ result w', Gives (attempt p n) w ⟨(Finding.of w.store n).idsAfter result, result⟩ w' ∧
      Course p n w (Finding.of w.store n) result w' := by
  rw [attempt]
  split
  · rename_i hn
    exact chargeBack_gives hn
  · rename_i hn
    exact settle_gives hn

/-- A chargeback and any other notice are journaled alike: under the operation that the event code
stands for. -/
theorem reconcile_eq (p : Profile) (n : Notice) :
    reconcile p n n.classification =
      journaled (EventCode.journalIntent n.eventCode) n (attempt p n) := by
  rw [reconcile, attempt]
  split
  · rename_i hn
    have : EventCode.journalIntent n.eventCode = some .chargeback := by
      rw [EventCode.journalIntent, show EventCode.classify n.eventCode = some .chargeback from hn]
    rw [this, handleChargeback]
  · rfl

theorem reconcile_gives (p : Profile) (n : Notice) (w : Bench) :
    ∃ r w', Gives (reconcile p n n.classification) w r w' ∧
      Delivered p n w (receiptOf n r) w' := by
  obtain ⟨result, w₁, ha, hc⟩ := attempt_gives p n w
  rw [reconcile_eq]
  cases hj : w₁.store.enter .appendJournal with
  | ok _ =>
    obtain ⟨e, he⟩ := record_ok (n := n) ((Finding.of w.store n).idsAfter result)
      (Intent.value (EventCode.journalIntent n.eventCode)) w.now hj
    refine ⟨result, _, .bind_read fun d hd => ?_, .journaled hc hj⟩
    rw [hd.now]
    exact .bind_ok (.lift ha) (.bind_ok he (.pure _ _))
  | error f =>
    refine ⟨_, _, .bind_read fun d hd => ?_, .unrecorded hc hj⟩
    exact .bind_ok (.lift ha) (.bind_error (record_error hj))

/-! ### At a desk -/

/-- Whatever the observers do, a delivery goes in one of the ways. -/
theorem Reconciler.process_on (r : Reconciler) (n : Notice) {d : Desk} (hd : w.On d) :
    ∃ (receipt : Receipt) (answer : Except Failure Receipt) (d' : Desk) (w' : Bench),
      r.process n d = (answer, d') ∧ w'.On d' ∧ Delivered r.profile n w receipt w' ∧
        (r.Articulate → answer = .ok receipt) := by
  obtain ⟨result, w', hgives, hdelivered⟩ := reconcile_gives r.profile n w
  obtain ⟨d₁, hrun, hd₁⟩ := hgives d hd
  obtain ⟨d', htold, hmatches, -⟩ := announce_announces r.observers n (receiptOf n result) d₁
  have heq := r.process_eq n d
  rw [hrun] at heq
  dsimp only at heq
  rw [htold] at heq
  refine ⟨receiptOf n result, _, d', w', heq, hd₁.of_matches hmatches, hdelivered, fun hr => ?_⟩
  simp only [hr.not_cut_short]
  rfl

/-- With observers that fail with words, if at all, it has a receipt. -/
theorem Reconciler.process_delivered {r : Reconciler} (hr : r.Articulate) (n : Notice) {d : Desk}
    (hd : w.On d) :
    ∃ (receipt : Receipt) (d' : Desk) (w' : Bench), r.process n d = (.ok receipt, d') ∧ w'.On d' ∧
      Delivered r.profile n w receipt w' := by
  obtain ⟨receipt, _, d', w', hrun, hd', hdelivered, hanswer⟩ := r.process_on n hd
  rw [hanswer hr] at hrun
  exact ⟨receipt, d', w', hrun, hd', hdelivered⟩

theorem Reconciler.mapM_process_delivered {r : Reconciler} (hr : r.Articulate)
    (notices : List Notice) {d : Desk} (hd : w.On d) :
    ∃ (receipts : List Receipt) (d' : Desk) (w' : Bench),
      notices.mapM r.process d = (.ok receipts, d') ∧ w'.On d' ∧
        Deliveries r.profile notices w receipts w' := by
  induction notices generalizing w d with
  | nil => exact ⟨[], d, w, rfl, hd, .nil⟩
  | cons n notices ih =>
    obtain ⟨receipt, d₁, w₁, hrun, hd₁, hfirst⟩ := process_delivered hr n hd
    obtain ⟨receipts, d', w', hrest, hd', hothers⟩ := ih hd₁
    refine ⟨receipt :: receipts, d', w', ?_, hd', .cons hfirst hothers⟩
    rw [Action.mapM_cons_ok hrun, hrest]
    rfl

/-- So have the deliveries of a batch, one after another. -/
theorem Reconciler.processBatch_delivered {r : Reconciler} (hr : r.Articulate)
    (notices : List Notice) {d : Desk} (hd : w.On d) :
    ∃ (receipts : List Receipt) (d' : Desk) (w' : Bench),
      r.processBatch notices d = (.ok (batchReceiptOf receipts), d') ∧ w'.On d' ∧
        Deliveries r.profile notices w receipts w' := by
  obtain ⟨receipts, d₁, w', hrun, hd₁, hdeliveries⟩ := mapM_process_delivered hr notices hd
  obtain ⟨d', hclose, hmatches, -⟩ := processBatch_of_ok hrun
  exact ⟨receipts, d', w', hclose, hd₁.of_matches hmatches, hdeliveries⟩

end NoticeLedger
