import NoticeLedger.Proofs.Ledger.Orderly
import NoticeLedger.Proofs.Rehearsal.Determined

/-!
# NoticeLedger.Proofs.Ledger.Status

The state of a transaction, as reports change it.

* `Book.statusOf?` — the status of the transaction that is found under an identifier.
* `reportState_status` — a report that is taken changes the status under its identifier, and under
  no other.
* `reportState_closes` — after a report that was not made to fail, the transaction is not pending.
* `reportState_reported` — what a report comes to, by the failures and the status.
* `reportOf_told` — what is told about it depends on which transactions there are, and not on their
  status.
-/

namespace NoticeLedger

open Keyed

namespace Book

variable {b b' : Book} {account : Account} {context : CallContext} {id success : Given}
  {r : Except Failure Payment}

/-- The status of the transaction that is found under an identifier. -/
def statusOf? (b : Book) (id : Given) : Option Given :=
  (b.findTransaction id).map fun found => found.2.status

def noTransaction (id : Given) : Failure :=
  .platform s!"Transaction {id.display} does not exist" (some (.text PlatformCode.noTransaction))
    (some 404)

def notPending (id : Given) : Failure :=
  .platform s!"Transaction {id.display} is not pending" (some (.text PlatformCode.notPending))
    (some 409)

theorem statusOf?_eq (b : Book) (id : Given) :
    b.statusOf? id = b.payments.findSome? fun p => (transactionOf id p).map Transaction.status := by
  rw [statusOf?, findTransaction, List.map_findSome?]
  congr 1
  funext p
  rw [Function.comp_apply, Option.map_map]
  rfl

theorem statusOf?_congr {b₂ : Book} (h : b₂.payments = b.payments) (id : Given) :
    b₂.statusOf? id = b.statusOf? id := by
  rw [statusOf?_eq, statusOf?_eq, h]

theorem find?_changeFirst (change : Transaction → Transaction) (hid : ∀ t, (change t).id = t.id)
    (ts : List Transaction) (id other : Given) :
    find? Transaction.id (changeFirst id change ts) other =
      if id = other then (find? Transaction.id ts id).map change
      else find? Transaction.id ts other := by
  induction ts with
  | nil => simp [changeFirst, find?_nil]
  | cons t ts ih =>
    rw [changeFirst, find?_cons, find?_cons]
    by_cases ht : t.id = id
    · rw [if_pos ht, if_pos ht, find?_cons, hid]
      by_cases ho : id = other
      · rw [if_pos ho, if_pos (ht.trans ho)]
        rfl
      · rw [if_neg ho, if_neg (ht ▸ ho), if_neg (ht ▸ ho)]
    · rw [if_neg ht, if_neg ht, find?_cons, ih]
      by_cases ho : id = other
      · subst ho
        rw [if_neg ht, if_pos rfl, if_pos rfl]
      · rw [if_neg ho, if_neg ho]

theorem findTransaction_split {p : Payment} {t : Transaction}
    (h : b.findTransaction id = some (p, t)) :
    ∃ left right, b.payments = left ++ p :: right ∧ transactionOf id p = some t ∧
      ∀ q ∈ left, transactionOf id q = none := by
  obtain ⟨left, q, right, hb, hq, hleft⟩ := List.findSome?_eq_some_iff.mp h
  obtain ⟨u, hu, he⟩ := Option.map_eq_some_iff.mp hq
  cases he
  exact ⟨left, right, hb, hu, fun q hq => Option.map_eq_none_iff.mp (hleft q hq)⟩

def stateOf (success : Given) : Given :=
  (if success.isTruthy then TransactionStatus.success else .paymentFailure).given

theorem stateOf_ne_pending (success : Given) :
    stateOf success ≠ TransactionStatus.pending.given := by
  rw [stateOf]
  split <;> decide

theorem transactionOf_settled (p : Payment) (id other success : Given) :
    (transactionOf other
        { p with transactions := changeFirst id (settled · success) p.transactions }).map
          Transaction.status =
      if id = other then (transactionOf id p).map fun _ => stateOf success
      else (transactionOf other p).map Transaction.status := by
  rw [transactionOf, find?_changeFirst (settled · success) fun _ => rfl]
  by_cases ho : id = other
  · rw [if_pos ho, if_pos ho, Option.map_map]
    rfl
  · rw [if_neg ho, if_neg ho]
    rfl

/-- A report that is taken settles the transaction in the first payment that has it. -/
theorem reportState_taken {payment : Payment}
    (h : b.reportState account id success context = (.ok payment, b')) :
    ∃ left p right t, b.payments = left ++ p :: right ∧
      b'.payments = left ++
        { p with transactions := changeFirst id (settled · success) p.transactions } :: right ∧
      transactionOf id p = some t ∧ t.status = TransactionStatus.pending.given ∧
      ∀ q ∈ left, transactionOf id q = none := by
  obtain ⟨records, ⟨f, hr, -⟩ | ⟨p, t, hf, ht, -, hb'⟩⟩ := reportState_cases h
  · exact nomatch hr
  obtain ⟨left, right, hb, hpt, hleft⟩ := findTransaction_split hf
  have hfresh : p.id ∉ left.map Payment.id := by
    have hdistinct := b.distinct
    rw [hb, List.map_append, List.map_cons, List.nodup_middle, List.nodup_cons] at hdistinct
    exact fun hp => hdistinct.1 (List.mem_append_left _ hp)
  refine ⟨left, p, right, t, hb, ?_, hpt, ht, hleft⟩
  rw [hb']
  dsimp only
  rw [hb]
  exact put_append_cons Payment.id rfl hfresh

/-- A report that is taken changes the status under its identifier, and under no other. -/
theorem reportState_status {payment : Payment}
    (h : b.reportState account id success context = (.ok payment, b')) :
    b.statusOf? id = some TransactionStatus.pending.given ∧
      ∀ other, b'.statusOf? other =
        if id = other then some (stateOf success) else b.statusOf? other := by
  obtain ⟨left, p, right, t, hb, hpayments, hpt, ht, hleft⟩ := reportState_taken h
  have hnone : left.findSome? (fun q => (transactionOf id q).map Transaction.status) = none := by
    rw [List.findSome?_eq_none_iff]
    intro q hq
    rw [hleft q hq]
    rfl
  refine ⟨?_, fun other => ?_⟩
  · rw [statusOf?_eq, hb, List.findSome?_append, hnone, List.findSome?_cons, hpt]
    exact congrArg some ht
  · rw [statusOf?_eq, statusOf?_eq, hpayments, hb, List.findSome?_append, List.findSome?_append,
      List.findSome?_cons, List.findSome?_cons, transactionOf_settled]
    by_cases ho : id = other
    · subst ho
      rw [if_pos rfl, if_pos rfl, hpt, hnone]
      rfl
    · rw [if_neg ho, if_neg ho]

/-- The ways in which the report of a state can go. -/
inductive StateReport (b : Book) (id : Given) (r : Except Failure Payment) (b' : Book) : Prop where
  | failed {f : Failure} (hf : b.failure? .reportState = some f) (hr : r = .error f)
      (hb : b'.payments = b.payments)
  | missing (hf : b.failure? .reportState = none) (hs : b.statusOf? id = none)
      (hr : r = .error (noTransaction id)) (hb : b'.payments = b.payments)
  | notOpen {status : Given} (hf : b.failure? .reportState = none)
      (hs : b.statusOf? id = some status) (hne : status ≠ TransactionStatus.pending.given)
      (hr : reported r = .ok false) (hb : b'.payments = b.payments)
  | taken {payment : Payment} (hf : b.failure? .reportState = none)
      (hs : b.statusOf? id = some TransactionStatus.pending.given) (hr : r = .ok payment)

theorem reportState_way (h : b.reportState account id success context = (r, b')) :
    b.StateReport id r b' := by
  have hkept {f : Failure} (hr : r = .error f) : b'.payments = b.payments := by
    rw [hr] at h
    exact (reportState_error h).payments
  rcases call_cases h with ⟨f, hf, hr, -⟩ | ⟨hf, hanswer⟩
  · exact .failed hf hr (hkept hr)
  · dsimp only [settle] at hanswer
    rw [show findTransaction { b.called .reportState with stateChanges := _ } id =
      b.findTransaction id from rfl] at hanswer
    split at hanswer
    · rename_i hnone
      have hs : b.statusOf? id = none := by
        rw [statusOf?, hnone]
        rfl
      have hr : r = .error (noTransaction id) := (congrArg Prod.fst hanswer).symm
      exact .missing hf hs hr (hkept hr)
    · rename_i p t hsome
      have hs : b.statusOf? id = some t.status := by
        rw [statusOf?, hsome]
        rfl
      split at hanswer
      · rename_i ht
        exact .taken hf (ht ▸ hs) (congrArg Prod.fst hanswer).symm
      · rename_i ht
        have hr : r = .error (notPending id) := (congrArg Prod.fst hanswer).symm
        refine .notOpen hf hs ht ?_ (hkept hr)
        rw [hr]
        rfl

/-- After a report that was not made to fail, the transaction is not pending. -/
theorem reportState_closes (hf : b.failure? .reportState = none)
    (h : b.reportState account id success context = (r, b')) :
    b'.statusOf? id ≠ some TransactionStatus.pending.given := by
  cases reportState_way h with
  | failed hf' _ _ => exact nomatch hf.symm.trans hf'
  | missing _ hs _ hb =>
    rw [statusOf?_congr hb, hs]
    exact nofun
  | notOpen _ hs hne _ hb =>
    rw [statusOf?_congr hb, hs]
    exact fun e => hne (Option.some.inj e)
  | taken _ _ hr =>
    subst hr
    rw [(reportState_status h).2 id, if_pos rfl]
    exact fun e => stateOf_ne_pending success (Option.some.inj e)

/-- A report leaves the transactions that there are. -/
theorem reportState_steady (h : b.reportState account id success context = (r, b'))
    (other : Given) : (b'.statusOf? other).isSome = (b.statusOf? other).isSome := by
  cases r with
  | error f => exact congrArg _ (statusOf?_congr (reportState_error h).payments other)
  | ok payment =>
    obtain ⟨hs, hstatus⟩ := reportState_status h
    rw [hstatus other]
    by_cases ho : id = other
    · rw [if_pos ho, ← ho, hs]
      rfl
    · rw [if_neg ho]

/-- Whether a report finds the transaction pending, or how it fails. -/
def reportOf (b : Book) (id : Given) : Except Failure Bool :=
  match b.failure? .reportState with
  | some f => reported (.error f)
  | none =>
    match b.statusOf? id with
    | none => reported (.error (noTransaction id))
    | some status => .ok (decide (status = TransactionStatus.pending.given))

theorem reportState_reported (h : b.reportState account id success context = (r, b')) :
    reported r = b.reportOf id := by
  rw [reportOf]
  cases reportState_way h with
  | failed hf hr _ => rw [hf, hr]
  | missing hf hs hr _ => rw [hf, hs, hr]
  | notOpen hf hs hne hr _ =>
    rw [hf, hs, hr]
    dsimp only
    rw [decide_eq_false hne]
  | taken hf hs hr =>
    rw [hf, hs, hr]
    rfl

theorem reportOf_congr {b₂ : Book} (hf : b₂.failures = b.failures)
    (hs : b₂.statusOf? id = b.statusOf? id) : b₂.reportOf id = b.reportOf id := by
  rw [reportOf, reportOf, failure?, failure?, hf, hs]

def toldReport (b : Book) (id : Given) : Except Failure Unit :=
  match b.failure? .reportState with
  | some f => (reported (.error f)).map fun _ => ()
  | none =>
    if (b.statusOf? id).isSome then .ok ()
    else (reported (.error (noTransaction id))).map fun _ => ()

theorem reportOf_told (b : Book) (id : Given) :
    (b.reportOf id).map (fun _ => ()) = b.toldReport id := by
  rw [reportOf, toldReport]
  cases b.failure? .reportState with
  | some f => rfl
  | none => cases b.statusOf? id <;> rfl

theorem toldReport_congr {b₂ : Book} (hf : b₂.failures = b.failures)
    (hs : (b₂.statusOf? id).isSome = (b.statusOf? id).isSome) :
    b₂.toldReport id = b.toldReport id := by
  rw [toldReport, toldReport, failure?, failure?, hf, hs]

end Book

end NoticeLedger
