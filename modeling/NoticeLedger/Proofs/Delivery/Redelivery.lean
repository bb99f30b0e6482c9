import NoticeLedger.Proofs.Rehearsal.Run
import NoticeLedger.Proofs.Rehearsal.Steady

/-!
# NoticeLedger.Proofs.Delivery.Redelivery

A batch that adds nothing to the ledger can be delivered twice.

* `Bench.Ready` — a bench where the notices of a batch add nothing.
* `Deliveries.told`, `Deliveries.steady` — what is told about such a batch depends on what it leaves
  as it is, so the second time the same is told.
* `Deliveries.closed`, `Deliveries.payments` — every transaction that is reported is not pending any
  more, so the second time no payment changes. The first report of a transaction counts.
* `Deliveries.responses`, `StoredResponse.editedBy_twice` — the data of a response is changed by the
  same changes in the same order, so the second time the same value is left under every name. The
  last change of a name counts.
* `redelivery_idempotent` — the same at a desk.
-/

namespace NoticeLedger

open Delivery

/-! ## The data of a response -/

/-- A response after some changes, one after another. -/
def StoredResponse.editedBy (now : Instant) (edits : List Edit) (r : StoredResponse) :
    StoredResponse :=
  edits.foldl (fun r e => r.edited now e) r

/-- The same value under every name. -/
def Json.SameData (a b : Json) : Prop :=
  b = a ∨ ∃ m m', a = .object m ∧ b = .object m' ∧
    ∀ name, Members.get? m' name = Members.get? m name

/-- A response that differs from another at most in the order of its data and in when it was last
changed. -/
def StoredResponse.Same (r r₂ : StoredResponse) : Prop :=
  ∃ data updatedAt, r.additionalData.SameData data ∧
    r₂ = { r with additionalData := data, updatedAt := updatedAt }

def Edit.isFor (e : Edit) (r : StoredResponse) : Bool :=
  MemoryStore.isFor e.transactionId e.tenantId r

namespace StoredResponse

def changesOf (r : StoredResponse) (edits : List Edit) : List (String × Given) :=
  (edits.filter (·.isFor r)).flatMap Edit.changes

theorem changed_changed (r : StoredResponse) (before now : Instant)
    (changes more : List (String × Given)) :
    (r.changed before changes).changed now more = r.changed now (changes ++ more) := by
  rw [changed, changed, changed, Json.spread, Members.update_append]

theorem edited_eq (now : Instant) (e : Edit) (r : StoredResponse) :
    r.edited now e = if e.isFor r then r.changed now e.changes else r := rfl

/-- Changes one after another are one change, unless none is for the response. -/
theorem editedBy_eq (now : Instant) (edits : List Edit) (r : StoredResponse) :
    r.editedBy now edits =
      if edits.any (·.isFor r) then r.changed now (r.changesOf edits) else r := by
  induction edits generalizing r with
  | nil => rfl
  | cons e edits ih =>
    have hcons : r.editedBy now (e :: edits) = (r.edited now e).editedBy now edits := rfl
    rw [hcons, ih, List.any_cons, edited_eq]
    by_cases he : e.isFor r = true
    · have hany : edits.any (·.isFor (r.changed now e.changes)) = edits.any (·.isFor r) := rfl
      have hof : (r.changed now e.changes).changesOf edits = r.changesOf edits := rfl
      have hchanges : r.changesOf (e :: edits) = e.changes ++ r.changesOf edits := by
        rw [changesOf, List.filter_cons, if_pos he, List.flatMap_cons, changesOf]
      -- a change keeps what a response is for, so the later ones are for it as well or as little
      rw [if_pos he, hany, hof, he, Bool.true_or, if_pos rfl, hchanges]
      by_cases ha : edits.any (·.isFor r) = true
      · rw [if_pos ha, changed_changed]
      · have hnone : r.changesOf edits = [] := by
          have hfilter : edits.filter (·.isFor r) = [] := by simpa using ha
          rw [changesOf, hfilter, List.flatMap_nil]
        rw [if_neg ha, hnone, List.append_nil]
    · have hchanges : r.changesOf (e :: edits) = r.changesOf edits := by
        rw [changesOf, List.filter_cons, if_neg he, changesOf]
      rw [if_neg he, hchanges, Bool.eq_false_iff.mpr he, Bool.false_or]

/-- The same changes, made again, leave the same value under every name. -/
theorem editedBy_twice (edits : List Edit) (r : StoredResponse) (now later : Instant) :
    (r.editedBy now edits).Same ((r.editedBy now edits).editedBy later edits) := by
  rw [editedBy_eq now edits r]
  by_cases ha : edits.any (·.isFor r) = true
  · have hagain := editedBy_eq later edits (r.changed now (r.changesOf edits))
    have hany : edits.any (·.isFor (r.changed now (r.changesOf edits))) = true := ha
    rw [if_pos hany] at hagain
    rw [if_pos ha, hagain]
    refine ⟨_, later, .inr ⟨_, _, rfl, rfl, fun name => ?_⟩, rfl⟩
    -- under each name the last change counts, whatever was there before
    change Members.get? ((r.additionalData.spread.update (r.changesOf edits)).update
      (r.changesOf edits)) name = _
    rw [Members.get?_update, Members.get?_update]
    cases (r.changesOf edits).reverse.lookup name <;> rfl
  · have hagain := editedBy_eq later edits r
    rw [if_neg ha] at hagain
    rw [if_neg ha, hagain]
    exact ⟨r.additionalData, r.updatedAt, .inl rfl, rfl⟩

end StoredResponse

/-! ## A batch -/

/-- A bench where notices add nothing. -/
def Bench.Ready (w : Bench) (notices : List Notice) : Prop :=
  ∀ n ∈ notices, w.OnlyUpdates n

variable {p : Profile} {n : Notice} {notices : List Notice} {u v w u' v' w' : Bench}
  {r : Receipt} {receipts receipts₂ : List Receipt}

theorem Bench.Steady.ready (hs : u.Steady v) (h : u.Ready notices) : v.Ready notices :=
  fun n hmem => hs.onlyUpdates (h n hmem)

/-- One notice leaves a bench where the others are as before. -/
theorem Bench.Ready.step (h : w.Ready (n :: notices)) (hd : Delivered p n w r w') :
    w.OnlyUpdates n ∧ w.Steady w' ∧ w.Ready notices ∧ w'.Ready notices := by
  obtain ⟨hn, hrest⟩ := List.forall_mem_cons.mp h
  have hs := hd.steady hn
  exact ⟨hn, hs, hrest, hs.ready hrest⟩

theorem Bench.Steady.edits (hs : u.Steady v) (h : u.Ready notices) :
    notices.filterMap v.edit? = notices.filterMap u.edit? :=
  List.filterMap_congr fun n hmem => hs.edit? (h n hmem)

theorem Bench.Steady.tellings (hs : u.Steady v) (h : u.Ready notices) :
    notices.map v.told = notices.map u.told :=
  List.map_congr_left fun n hmem => hs.told (h n hmem)

theorem Deliveries.steady (h : Deliveries p notices w receipts w') (hw : w.Ready notices) :
    w.Steady w' := by
  induction h with
  | nil => exact .refl _
  | cons hd _ ih =>
    obtain ⟨-, hs, -, hnext⟩ := hw.step hd
    exact hs.trans (ih hnext)

theorem Deliveries.told (h : Deliveries p notices w receipts w') (hw : w.Ready notices) :
    receipts.map (fun r => (r.signal, r.fate)) = notices.map w.told := by
  induction h with
  | nil => rfl
  | cons hd _ ih =>
    obtain ⟨hn, hs, hrest, hnext⟩ := hw.step hd
    rw [List.map_cons, List.map_cons, (hd.way hn).1, ih hnext, hs.tellings hrest]

/-- The changes of a batch, in its order, at the time that it is delivered. -/
theorem Deliveries.responses (h : Deliveries p notices w receipts w') (hw : w.Ready notices) :
    w'.store.responses =
      w.store.responses.map (·.editedBy w.now (notices.filterMap w.edit?)) := by
  induction h with
  | nil => exact (List.map_id _).symm
  | cons hd _ ih =>
    obtain ⟨hn, hs, hrest, hnext⟩ := hw.step hd
    rw [ih hnext, hs.edits hrest, hd.precedes.now]
    cases (hd.way hn).2 with
    | idle he hr _ => rw [hr, List.filterMap_cons_none he]
    | reports he hr _ =>
      rw [hr, List.filterMap_cons_some he, List.map_map]
      rfl

/-- A notice whose report reaches the ledger. -/
def Bench.Reaches (w : Bench) (n : Notice) (id : Given) : Prop :=
  w.book.failure? .reportState = none ∧ ∃ e, w.edit? n = some e ∧ e.transactionId = id

/-- A transaction that is not pending, or that there is not. -/
def Book.Closed (b : Book) (id : Given) : Prop :=
  b.statusOf? id ≠ some TransactionStatus.pending.given

theorem Bench.Steady.reaches {id : Given} (h : u.Steady v) (ho : u.OnlyUpdates n) :
    v.Reaches n id ↔ u.Reaches n id := by
  rw [Bench.Reaches, Bench.Reaches, h.edit? ho, Book.failure?, Book.failure?, h.failures]

theorem Delivered.closed {id : Given} (h : Delivered p n w r w') (ho : w.OnlyUpdates n)
    (hid : w.Reaches n id ∨ w.book.Closed id) :
    w'.book.Closed id := by
  cases (h.way ho).2 with
  | idle he _ hb =>
    rcases hid with ⟨-, e, he', -⟩ | hc
    · exact nomatch he.symm.trans he'
    · rw [Book.Closed, Book.statusOf?_congr hb.payments]
      exact hc
  | reports he _ hr =>
    rcases hid with ⟨hf, e, he', rfl⟩ | hc
    · cases he.symm.trans he'
      exact hr.closes hf
    · exact hr.keepsClosed hc

/-- Where the transaction that is reported is closed, nothing changes. -/
theorem Delivered.payments (h : Delivered p n w r w') (ho : w.OnlyUpdates n)
    (hc : ∀ id, w.Reaches n id → w.book.Closed id) : w'.book.payments = w.book.payments := by
  cases (h.way ho).2 with
  | idle _ _ hb => exact hb.payments
  | reports he _ hr => exact hr.payments fun hf => hc _ ⟨hf, _, he, rfl⟩

/-- The first report of a transaction closes it, and none opens it again. -/
theorem Deliveries.closed {id : Given} (h : Deliveries p notices w receipts w')
    (hw : w.Ready notices) (hid : (∃ n ∈ notices, w.Reaches n id) ∨ w.book.Closed id) :
    w'.book.Closed id := by
  induction h with
  | nil =>
    rcases hid with ⟨n, hmem, -⟩ | hc
    · exact nomatch hmem
    · exact hc
  | cons hd _ ih =>
    obtain ⟨hn, hs, hrest, hnext⟩ := hw.step hd
    refine ih hnext ?_
    -- what is closed by now stays closed; what a later notice reports, it still reports
    rcases hid with ⟨m, hmem, hm⟩ | hc
    · rcases List.mem_cons.mp hmem with rfl | hmem
      · exact .inr (hd.closed hn (.inl hm))
      · exact .inl ⟨m, hmem, (hs.reaches (hrest m hmem)).mpr hm⟩
    · exact .inr (hd.closed hn (.inr hc))

theorem Deliveries.payments (h : Deliveries p notices w receipts w') (hw : w.Ready notices)
    (hc : ∀ n ∈ notices, ∀ id, w.Reaches n id → w.book.Closed id) :
    w'.book.payments = w.book.payments := by
  induction h with
  | nil => rfl
  | cons hd _ ih =>
    obtain ⟨hn, hs, hrest, hnext⟩ := hw.step hd
    obtain ⟨hcn, hcrest⟩ := List.forall_mem_cons.mp hc
    have hpayments := hd.payments hn hcn
    rw [← hpayments]
    refine ih hnext ?_
    intro m hmem id hm
    rw [Book.Closed, Book.statusOf?_congr hpayments]
    exact hcrest m hmem id ((hs.reaches (hrest m hmem)).mp hm)

theorem Deliveries.pendingRequests (h : Deliveries p notices w receipts w') :
    w'.store.pendingRequests = w.store.pendingRequests := by
  induction h with
  | nil => rfl
  | cons hd _ ih => exact ih.trans hd.precedes.pendingRequests

/-- What a batch leaves the second time, and what is told then, where it adds nothing. -/
theorem Deliveries.twice (h : Deliveries p notices w receipts u) (hw : w.Ready notices)
    {later : Instant} (h₂ : Deliveries p notices { u with now := later } receipts₂ v) :
    v.book.payments = u.book.payments ∧
      v.store.pendingRequests = u.store.pendingRequests ∧
      List.Forall₂ StoredResponse.Same u.store.responses v.store.responses ∧
      receipts₂.map (fun r => (r.signal, r.fate)) = receipts.map (fun r => (r.signal, r.fate)) := by
  have hu := h.steady hw
  have hs : w.Steady { u with now := later } :=
    ⟨hu.leads, hu.failures, hu.accounts, hu.transactions⟩
  have hw₂ := hs.ready hw
  refine ⟨?_, h₂.pendingRequests, ?_, ?_⟩
  · refine h₂.payments hw₂ fun n hmem id hr => ?_
    exact h.closed hw (.inl ⟨n, hmem, (hs.reaches (hw n hmem)).mp hr⟩)
  · rw [h₂.responses hw₂, hs.edits hw]
    dsimp only
    rw [h.responses hw, List.map_map, List.forall₂_map_left_iff, List.forall₂_map_right_iff]
    exact List.forall₂_same.mpr fun r _ => StoredResponse.editedBy_twice _ r w.now later
  · rw [h₂.told hw₂, h.told hw, hs.tellings hw]

/-- **Redelivery.** A batch in which nothing is a chargeback, and nothing is about an account
without a transaction, leaves the second time what it left the first time, and tells the same. -/
theorem redelivery_idempotent {r : Reconciler} (hr : r.Articulate) (notices : List Notice)
    {w : Bench} {d : Desk} (hd : w.On d)
    (ho : ∀ n ∈ notices, n.classification ≠ some .chargeback ∧
      ∀ c, Finding.of w.store n ≠ .account c) (later : Instant) :
    ∃ (first second : BatchReceipt) (d₁ d₂ : Desk) (u v : Bench),
      r.processBatch notices d = (.ok first, d₁) ∧
      r.processBatch notices (d₁.arranged fun w => { w with now := later }) = (.ok second, d₂) ∧
      u.On d₁ ∧ v.On d₂ ∧
      v.book.payments = u.book.payments ∧
      v.store.pendingRequests = u.store.pendingRequests ∧
      List.Forall₂ StoredResponse.Same u.store.responses v.store.responses ∧
      second.receipts.map (fun r => (r.signal, r.fate)) =
        first.receipts.map (fun r => (r.signal, r.fate)) := by
  obtain ⟨_, d₁, u, hrun, hdu, hfirst⟩ := Reconciler.processBatch_delivered hr notices hd
  obtain ⟨_, d₂, v, hrun₂, hdv, hsecond⟩ := Reconciler.processBatch_delivered hr notices
    (hdu.arranged fun w => { w with now := later })
  have hw : w.Ready notices := fun n hmem => ⟨(ho n hmem).1, (ho n hmem).2⟩
  exact ⟨_, _, d₁, d₂, u, v, hrun, hrun₂, hdu, hdv, hfirst.twice hw hsecond⟩

/-- The sample succeeds, then it is said to have failed; the first report counts, both times. -/
theorem redelivery_idempotent_sample :
    let notices := [Sample.authorisation, { Sample.authorisation with success := .bool false }]
    ∃ (first second : BatchReceipt) (d₁ d₂ : Desk) (u v : Bench),
      Sample.reconciler.processBatch notices Sample.bench.desk = (.ok first, d₁) ∧
      Sample.reconciler.processBatch notices (d₁.arranged fun w => { w with now := ⟨2⟩ }) =
        (.ok second, d₂) ∧
      u.On d₁ ∧ v.On d₂ ∧
      v.book.payments = u.book.payments ∧
      v.store.pendingRequests = u.store.pendingRequests ∧
      List.Forall₂ StoredResponse.Same u.store.responses v.store.responses ∧
      second.receipts.map (fun r => (r.signal, r.fate)) =
        first.receipts.map (fun r => (r.signal, r.fate)) := by
  refine redelivery_idempotent Sample.articulate _ Sample.bench.on_desk ?_ ⟨2⟩
  intro n hmem
  rcases List.mem_cons.mp hmem with rfl | hmem
  · exact ⟨by decide, fun _ => Finding.noConfusion⟩
  · cases List.mem_singleton.mp hmem
    exact ⟨by decide, fun _ => Finding.noConfusion⟩

end NoticeLedger
