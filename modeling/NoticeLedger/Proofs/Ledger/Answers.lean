import NoticeLedger.Platform
import NoticeLedger.Proofs.Form.Faults
import NoticeLedger.Proofs.Ledger.Calls
import NoticeLedger.Proofs.Store.Typed

/-!
# NoticeLedger.Proofs.Ledger.Answers

Identifiers in the answers of a billing platform are texts.

* `Answer.membersOf_meets` — what is taken from a body meets the form that was asked for.
* `Answer.payment_typed` — so the identifiers of an answered payment are texts.
* `Platform.createPurchase_typed`, `Platform.createChargeback_last` — those of a recorded purchase
  are, and so is that of a recorded chargeback; a ledger in memory numbers both itself.
-/

namespace NoticeLedger

/-- A payment known by a text, and so is each of its transactions that is known at all. -/
structure Payment.Typed (p : Payment) : Prop where
  id : p.id.IsText
  transactions : ∀ t ∈ p.transactions, t.id.orNull.IsWord

namespace Form

theorem meets_of_faultyMembers {form : Form} {m : Members} (h : form.faultyMembers m = []) :
    form.Meets m := by
  rw [← violations_eq_nil_iff]
  cases hv : form.violations m with
  | nil => rfl
  | cons v rest =>
    have hmem : v ∈ form.violations m := hv ▸ List.mem_cons_self
    have hviolated := (mem_violations form m v).mp hmem
    obtain ⟨step, path, hpath⟩ := List.exists_cons_of_ne_nil hviolated.path_ne_nil
    rw [faultyMembers, hv, List.filterMap_cons_some (b := step) (by rw [hpath]; rfl)] at h
    simp [List.eraseDups_cons] at h

end Form

namespace Answer

theorem membersOf_meets {form : Form} {what : String} {body : Json} {m : Members}
    (h : membersOf form what body = .ok m) : form.Meets m := by
  unfold membersOf at h
  split at h
  · split at h
    · exact nomatch h
    · split at h
      · rename_i hfaulty
        cases h
        exact Form.meets_of_faultyMembers hfaulty
      · exact nomatch h
  · exact nomatch h

theorem needed_text {name : String} {value : Given} (h : (needed name).Met value) :
    value.IsText := by
  have hasks := h.asks (r := .text) List.mem_cons_self
  rcases hasks with ⟨hoptional, -⟩ | ⟨v, rfl, s, rfl⟩
  · exact nomatch hoptional
  · exact ⟨s, rfl⟩

theorem transaction_typed {item : Json} (h : Within transactionForm.Meets item) :
    (transaction item).id.orNull.IsWord := by
  cases h with
  | object hm => exact (needed_text hm.1).isWord.orNull
  | array _ => exact .inl rfl

/-- The identifiers of an answered payment are texts. -/
theorem payment_typed {body : Json} {p : Payment} (h : payment body = .ok p) : p.Typed := by
  unfold payment at h
  cases hm : membersOf paymentForm "payment" body with
  | error f =>
    rw [hm] at h
    exact nomatch h
  | ok m =>
    rw [hm] at h
    cases h
    obtain ⟨hid, -, -, -, hlist, hinside, -⟩ := membersOf_meets hm
    refine ⟨needed_text hid, fun t ht => ?_⟩
    obtain ⟨item, hitem, rfl⟩ := List.mem_map.mp ht
    have hasks := hlist.asks (r := .list) List.mem_cons_self
    rcases hasks with ⟨hoptional, -⟩ | ⟨v, hv, items, rfl⟩
    · exact nomatch hoptional
    · have hwithin : Within transactionForm.Meets (.array items) := by
        refine hinside ?_ _ hv
        rw [hv]
        rfl
      have hv : m.get? "transactions" = some (.array items) := hv
      rw [hv] at hitem
      exact transaction_typed (Form.within_array.mp hwithin item hitem)

end Answer

variable {account : Account} {context : CallContext} {payment : Payment}

theorem Remote.exchanged_typed {r : Remote} {call : LedgerCall}
    (h : (r.exchange call context).1.bind Answer.payment = .ok payment) : payment.Typed := by
  cases he : (r.exchange call context).1 with
  | error f =>
    rw [he] at h
    exact nomatch h
  | ok body =>
    rw [he] at h
    exact Answer.payment_typed h

namespace Platform

variable {p : Platform}

/-- A recorded purchase. -/
theorem createPurchase_typed {order : PurchaseOrder}
    (h : (p.createPurchase account order context).1 = .ok payment) : payment.Typed := by
  cases p with
  | book b =>
    have hb : (b.createPurchase account order context).1 = .ok payment := h
    rcases Book.createPurchase_cases (Prod.ext hb rfl) with ⟨f, hr, -⟩ | ⟨hr, -⟩
    · exact nomatch hr
    · cases hr
      refine ⟨⟨_, rfl⟩, fun t ht => ?_⟩
      rw [List.mem_singleton.mp ht]
      exact .inr ⟨_, rfl⟩
  | remote r => exact Remote.exchanged_typed h

/-- The last transaction of a payment on which a chargeback was recorded. -/
theorem createChargeback_last {order : ChargebackOrder} {t : Transaction}
    (h : (p.createChargeback account order context).1 = .ok payment)
    (ht : payment.transactions.getLast? = some t) : t.id.orNull.IsWord := by
  cases p with
  | book b =>
    have hb : (b.createChargeback account order context).1 = .ok payment := h
    obtain ⟨records, ⟨f, hr, -⟩ | ⟨q, -, hr, -⟩⟩ := Book.createChargeback_cases (Prod.ext hb rfl)
    · exact nomatch hr
    · cases hr
      rw [List.getLast?_concat] at ht
      cases ht
      exact .inr ⟨_, rfl⟩
  | remote r =>
    have hr : payment.Typed := Remote.exchanged_typed h
    exact hr.transactions t (List.mem_of_getLast? ht)

end Platform

end NoticeLedger
