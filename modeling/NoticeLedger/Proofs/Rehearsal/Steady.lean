import NoticeLedger.Proofs.Ledger.Status
import NoticeLedger.Proofs.Rehearsal.Alike

/-!
# NoticeLedger.Proofs.Rehearsal.Steady

What a delivery leaves as it is when it adds nothing to the ledger.

* `Bench.Steady` — the records lead to the same entries, the accounts and the transactions are
  there, and the same is made to fail; data and status may differ.
* `Bench.edit?` — the change that a notice makes to the data of responses; it is the same at steady
  benches.
* `Bench.verdict` — what comes of a notice that adds nothing, by the records and the ledger.
* `Delivered.way` — what is told about such a notice, and the two ways in which its delivery can go.
* `Delivered.steady` — such a delivery leaves a steady bench.
-/

namespace NoticeLedger

open Delivery

/-- A finding that adds nothing to the ledger. -/
inductive Finding.AddsNothing : Finding → Prop where
  | failed {f : Failure} : AddsNothing (.failed f)
  | nothing : AddsNothing .nothing
  | transaction {c : Correlation} : AddsNothing (.transaction c)

/-- A notice that is no chargeback, and about no account without a transaction. -/
structure Bench.OnlyUpdates (w : Bench) (n : Notice) : Prop where
  notChargeback : n.classification ≠ some .chargeback
  notAccount : ∀ c, Finding.of w.store n ≠ .account c

/-- A bench where the same entries are found, and the same is made to fail. -/
structure Bench.Steady (u v : Bench) : Prop where
  leads : u.store.Leads v.store
  failures : v.book.failures = u.book.failures
  accounts : v.book.accounts = u.book.accounts
  transactions : ∀ id, (v.book.statusOf? id).isSome = (u.book.statusOf? id).isSome

/-- The change that a notice makes to the data of responses. -/
def Bench.edit? (w : Bench) (n : Notice) : Option Edit :=
  match Finding.of w.store n with
  | .transaction c =>
    match (w.book.getAccount c.accountId).1, w.store.enter .updateMetadata with
    | .ok _, .ok _ => some (c.edit n)
    | _, _ => none
  | _ => none

/-- What comes of a notice that adds nothing, before it is journaled. -/
def Bench.verdict (w : Bench) (n : Notice) : Except Failure Outcome :=
  match Finding.of w.store n with
  | .failed f => .error f
  | .transaction c =>
    match (w.book.getAccount c.accountId).1, w.store.enter .updateMetadata with
    | .error f, _ => .error (Failure.wrap LedgerOperation.getAccount.name [] f)
    | .ok _, .error f => .error (Failure.wrap StoreOperation.updateMetadata.name [] f)
    | .ok _, .ok _ => (w.book.reportOf c.transactionId).map fun open? => .updated c.ids open?
  | _ => .ok .journaledOnly

/-- What comes of a notice before it is journaled, as far as it is told. -/
def Bench.fate (w : Bench) (n : Notice) : Except Failure Fate :=
  match Finding.of w.store n with
  | .failed f => .error f
  | .transaction c =>
    match (w.book.getAccount c.accountId).1, w.store.enter .updateMetadata with
    | .error f, _ => .error (Failure.wrap LedgerOperation.getAccount.name [] f)
    | .ok _, .error f => .error (Failure.wrap StoreOperation.updateMetadata.name [] f)
    | .ok _, .ok _ => (w.book.toldReport c.transactionId).map fun _ => .reconciled
  | _ => .ok .unmatched

/-- The signal and the fate that are told about a notice. -/
def Bench.told (w : Bench) (n : Notice) : Signal × Fate :=
  let fate :=
    match w.store.enter .appendJournal with
    | .ok _ => w.fate n
    | .error f => .error (n.unrecorded f)
  match fate with
  | .ok fate => (signalOf none, fate)
  | .error f => (signalOf (some (toldFailure f)), fateOfFailure (toldFailure f))

theorem Bench.verdict_fate (w : Bench) (n : Notice) :
    (w.verdict n).map fateOfOutcome = w.fate n := by
  rw [verdict, fate]
  cases Finding.of w.store n with
  | transaction c =>
    dsimp only
    rw [← Book.reportOf_told]
    cases (w.book.getAccount c.accountId).1 with
    | error f => rfl
    | ok account =>
      cases w.store.enter .updateMetadata with
      | error f => rfl
      | ok _ => cases w.book.reportOf c.transactionId <;> rfl
  | _ => rfl

namespace Bench.Steady

variable {u v w : Bench} {n : Notice}

theorem refl (w : Bench) : w.Steady w := ⟨.refl _, rfl, rfl, fun _ => rfl⟩

theorem trans (h : u.Steady v) (h' : v.Steady w) : u.Steady w where
  leads := h.leads.trans h'.leads
  failures := h'.failures.trans h.failures
  accounts := h'.accounts.trans h.accounts
  transactions id := (h'.transactions id).trans (h.transactions id)

theorem getAccount (h : u.Steady v) (id : Given) :
    (v.book.getAccount id).1 = (u.book.getAccount id).1 := by
  have hfails : (v.book.called .getAccount).failure? .getAccount =
      (u.book.called .getAccount).failure? .getAccount := by
    rw [Book.failure?, Book.failure?]
    exact congrArg (fun failures => (failures .getAccount).filter Failure.isRaised) h.failures
  have hfind : (v.book.called .getAccount).findAccount id =
      (u.book.called .getAccount).findAccount id := by
    rw [Book.findAccount, Book.findAccount]
    exact congrArg (fun accounts => Keyed.find? Account.id accounts id) h.accounts
  rw [Book.getAccount, Book.getAccount, Book.call, Book.call, hfails]
  cases (u.book.called .getAccount).failure? .getAccount with
  | some f => rfl
  | none =>
    dsimp only
    rw [hfind]
    cases (u.book.called .getAccount).findAccount id <;> rfl

theorem finding (h : u.Steady v) (hn : n.classification ≠ some .chargeback) :
    Finding.of v.store n = Finding.of u.store n :=
  Finding.of_leads h.leads hn

theorem onlyUpdates (h : u.Steady v) (hn : u.OnlyUpdates n) : v.OnlyUpdates n where
  notChargeback := hn.notChargeback
  notAccount c := by
    rw [h.finding hn.notChargeback]
    exact hn.notAccount c

theorem edit? (h : u.Steady v) (hn : u.OnlyUpdates n) : v.edit? n = u.edit? n := by
  rw [Bench.edit?, Bench.edit?, h.finding hn.notChargeback]
  cases Finding.of u.store n with
  | transaction c =>
    dsimp only
    rw [h.getAccount, h.leads.enter]
  | _ => rfl

/-- The same comes of a notice, if its transaction is as open as before. -/
theorem verdict (h : u.Steady v) (hn : u.OnlyUpdates n)
    (hs : ∀ c, Finding.of u.store n = .transaction c →
      v.book.statusOf? c.transactionId = u.book.statusOf? c.transactionId) :
    v.verdict n = u.verdict n := by
  rw [Bench.verdict, Bench.verdict, h.finding hn.notChargeback]
  cases hf : Finding.of u.store n with
  | transaction c =>
    dsimp only
    rw [h.getAccount, h.leads.enter, Book.reportOf_congr h.failures (hs c hf)]
  | _ => rfl

theorem told (h : u.Steady v) (hn : u.OnlyUpdates n) : v.told n = u.told n := by
  have hfate : v.fate n = u.fate n := by
    rw [fate, fate, h.finding hn.notChargeback]
    cases Finding.of u.store n with
    | transaction c =>
      dsimp only
      rw [h.getAccount, h.leads.enter,
        Book.toldReport_congr h.failures (h.transactions c.transactionId)]
    | _ => rfl
  rw [Bench.told, Bench.told, hfate, h.leads.enter]

end Bench.Steady

variable {p : Profile} {n : Notice} {u v w u' v' w' : Bench} {account : Account}
  {context : CallContext}

theorem Bench.OnlyUpdates.addsNothing (h : w.OnlyUpdates n) :
    (Finding.of w.store n).AddsNothing := by
  have hnot := h.notAccount
  have hdisputed := Finding.of_ne_disputed (s := w.store) h.notChargeback
  cases hf : Finding.of w.store n with
  | failed f => exact .failed
  | nothing => exact .nothing
  | transaction c => exact .transaction
  | account c => exact absurd hf (hnot c)
  | disputed earlier => exact absurd hf (hdisputed earlier)

/-! ## One delivery -/

/-- The report that a notice makes of a transaction, and the book that it leaves. -/
inductive Bench.Reports (w : Bench) (n : Notice) (c : Correlation) (b' : Book) : Prop where
  | intro {b : Book} {account : Account} {context : CallContext} {answer : Except Failure Payment}
      (hb : w.book.Alike b)
      (hs : b.reportState account c.transactionId (some n.reportedSuccess) context = (answer, b'))

/-- The ways in which a notice that adds nothing can go: it changes nothing, or it changes the data
stored for a transaction and reports the state of that one. -/
inductive Bench.Way (w : Bench) (n : Notice) (w' : Bench) : Prop where
  | idle (he : w.edit? n = none) (hs : w'.store.responses = w.store.responses)
      (hb : w.book.Alike w'.book)
  | reports {c : Correlation} (he : w.edit? n = some (c.edit n))
      (hs : w'.store.responses = w.store.responses.map (·.edited w.now (c.edit n)))
      (hr : w.Reports n c w'.book)

theorem Course.way {found : Finding} {result : Except Failure Outcome}
    (h : Course p n w found result w') (hfound : Finding.of w.store n = found)
    (hadds : found.AddsNothing) :
    result = w.verdict n ∧ w.Way n w' := by
  cases hadds with
  | failed =>
    obtain ⟨rfl, rfl⟩ := h.of_failed
    rw [Bench.verdict, hfound]
    refine ⟨rfl, .idle ?_ rfl (.refl _)⟩
    rw [Bench.edit?, hfound]
  | nothing =>
    obtain ⟨rfl, rfl⟩ := h.of_nothing
    rw [Bench.verdict, hfound]
    refine ⟨rfl, .idle ?_ rfl (.refl _)⟩
    rw [Bench.edit?, hfound]
  | @transaction c =>
    have hedit : w.edit? n =
        match (w.book.getAccount c.accountId).1, w.store.enter .updateMetadata with
        | .ok _, .ok _ => some (c.edit n)
        | _, _ => none := by
      rw [Bench.edit?, hfound]
    rw [Bench.verdict, hfound]
    dsimp only
    rcases ha : w.book.getAccount c.accountId with ⟨answer, b⟩
    have hb := Book.getAccount_alike ha
    rw [ha] at hedit
    cases answer with
    | error f =>
      obtain ⟨rfl, rfl⟩ := h.of_no_account rfl ha
      exact ⟨rfl, .idle hedit rfl hb⟩
    | ok account =>
      obtain ⟨made, hu, rfl⟩ := h.of_transaction ha
      cases he : w.store.enter .updateMetadata with
      | error f =>
        rw [he] at hedit
        obtain ⟨rfl, rfl⟩ := hu.of_error (MemoryStore.updateMetadata_of_error he _ (c.edit n))
        exact ⟨rfl, .idle hedit rfl hb⟩
      | ok _ =>
        rw [he] at hedit
        have hr := hu.of_ok (MemoryStore.updateMetadata_of_enter he w.now (c.edit n))
        rcases hs : b.reportState account c.transactionId (some n.reportedSuccess)
          (contextOf c.tenantId p.userName w.now) with ⟨answer, b'⟩
        obtain ⟨rfl, rfl⟩ := hr.of_answer hs
        refine ⟨?_, .reports hedit rfl ⟨hb, hs⟩⟩
        -- the look-up of the account makes no difference to what the report comes to
        have hreport : w.book.reportOf c.transactionId = b.reportOf c.transactionId :=
          Book.reportOf_congr hb.failures.symm (Book.statusOf?_congr hb.payments.symm _)
        dsimp only
        rw [hreport, Book.reportState_reported hs]

theorem receiptOf_told (n : Notice) (result : Except Failure Outcome) :
    ((receiptOf n result).signal, (receiptOf n result).fate) =
      match result.map fateOfOutcome with
      | .ok fate => (signalOf none, fate)
      | .error f => (signalOf (some (toldFailure f)), fateOfFailure (toldFailure f)) := by
  cases result <;> rfl

/-- What is told about a notice that adds nothing, and the way that it goes. -/
theorem Delivered.way {r : Receipt} (h : Delivered p n w r w') (ho : w.OnlyUpdates n) :
    (r.signal, r.fate) = w.told n ∧ w.Way n w' := by
  cases h with
  | journaled hc hj =>
    obtain ⟨hresult, hway⟩ := hc.way rfl ho.addsNothing
    rw [hc.keeps.store.enter] at hj
    refine ⟨?_, ?_⟩
    · rw [Bench.told, hj, ← Bench.verdict_fate, hresult, receiptOf_told]
    · cases hway with
      | idle he hs hb => exact .idle he hs hb
      | reports he hs hr => exact .reports he hs hr
  | unrecorded hc hj =>
    obtain ⟨-, hway⟩ := hc.way rfl ho.addsNothing
    rw [hc.keeps.store.enter] at hj
    refine ⟨?_, hway⟩
    rw [Bench.told, hj, receiptOf_told]
    rfl

/-! ## What stays -/

namespace Bench.Reports

variable {c : Correlation} {b' : Book}

theorem steady (h : w.Reports n c b') :
    b'.accounts = w.book.accounts ∧
      ∀ id, (b'.statusOf? id).isSome = (w.book.statusOf? id).isSome := by
  obtain ⟨hb, hs⟩ := h
  refine ⟨(Book.reportState_frame hs).accounts.trans hb.accounts, fun id => ?_⟩
  rw [Book.reportState_steady hs, Book.statusOf?_congr hb.payments]

/-- A report that was not made to fail leaves no pending transaction. -/
theorem closes (h : w.Reports n c b') (hf : w.book.failure? .reportState = none) :
    b'.statusOf? c.transactionId ≠ some TransactionStatus.pending.given := by
  obtain ⟨hb, hs⟩ := h
  refine Book.reportState_closes ?_ hs
  rw [Book.failure?, hb.failures]
  exact hf

/-- What is not pending before a report is not pending after it. -/
theorem keepsClosed {id : Given} (h : w.Reports n c b')
    (hc : w.book.statusOf? id ≠ some TransactionStatus.pending.given) :
    b'.statusOf? id ≠ some TransactionStatus.pending.given := by
  obtain @⟨b, _, _, answer, hb, hs⟩ := h
  rw [← Book.statusOf?_congr hb.payments] at hc
  cases answer with
  | error f =>
    rw [Book.statusOf?_congr (Book.reportState_error hs).payments]
    exact hc
  | ok payment =>
    rw [(Book.reportState_status hs).2 id]
    by_cases hid : c.transactionId = id
    · rw [if_pos hid]
      exact fun e => Book.stateOf_ne_pending _ (Option.some.inj e)
    · rw [if_neg hid]
      exact hc

/-- Only a pending transaction is changed. -/
theorem payments (h : w.Reports n c b')
    (hc : w.book.failure? .reportState = none →
      w.book.statusOf? c.transactionId ≠ some TransactionStatus.pending.given) :
    b'.payments = w.book.payments := by
  obtain ⟨hb, hs⟩ := h
  cases Book.reportState_way hs with
  | failed _ _ hkept => exact hkept.trans hb.payments
  | missing _ _ _ hkept => exact hkept.trans hb.payments
  | notOpen _ _ _ _ hkept => exact hkept.trans hb.payments
  | taken hf hpending _ =>
    rw [Book.failure?, hb.failures] at hf
    rw [Book.statusOf?_congr hb.payments] at hpending
    exact absurd hpending (hc hf)

end Bench.Reports

theorem Delivered.steady {r : Receipt} (h : Delivered p n w r w') (ho : w.OnlyUpdates n) :
    w.Steady w' := by
  have hp := h.precedes
  obtain ⟨-, hway⟩ := h.way ho
  cases hway with
  | idle _ hs hb =>
    refine ⟨⟨?_, hp.pendingRequests, hp.storeFailures⟩, hp.bookFailures, hb.accounts, ?_⟩
    · rw [hs]
    · intro id
      rw [Book.statusOf?_congr hb.payments]
  | reports _ hs hr =>
    obtain ⟨haccounts, hsome⟩ := hr.steady
    refine ⟨⟨?_, hp.pendingRequests, hp.storeFailures⟩, hp.bookFailures, haccounts, hsome⟩
    rw [hs, List.map_map]
    exact List.map_congr_left fun r _ => MemoryStore.edited_lead w.now _ r

end NoticeLedger
