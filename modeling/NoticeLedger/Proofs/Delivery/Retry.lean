import NoticeLedger.Proofs.Rehearsal.Alike
import NoticeLedger.Proofs.Rehearsal.Run

/-!
# NoticeLedger.Proofs.Delivery.Retry

A notice that failed can be delivered again.

* `Course.failed_leaves` — what a notice that failed leaves behind: nothing that matters, or the
  changed data of the responses for the transaction that it is about.
* `StoredResponse.edited_twice` — making that change again makes no difference.
* `Course.absorbed` — so what comes of the notice is the same as without the delivery that failed.
* `retry_safe` — the same at a desk.
-/

namespace NoticeLedger

open Delivery

def Bench.restored (now : Instant) (w : Bench) : Bench where
  store := w.store.restore
  book := w.book.restore
  now := now
  hook := w.hook

variable {p : Profile} {n : Notice} {w w' u v u' v' : Bench} {b b' : Book} {account : Account}
  {context : CallContext} {f : Failure}

/-! ## What a failure leaves -/

namespace Book

theorem Alike.restore (h : b.Alike b') : b.restore.Alike b'.restore := by
  obtain ⟨_, _, _, _, rfl⟩ := h
  exact ⟨_, _, _, _, rfl⟩

theorem getAccount_restore {id : Given} (h : b.getAccount id = (.ok account, b')) :
    ∃ b₂, b.restore.getAccount id = (.ok account, b₂) := by
  obtain ⟨-, ⟨_, hr, -⟩ | ⟨a, ha, ⟨⟩⟩⟩ := getAccount_cases h
  · exact nomatch hr
  · rcases hg : b.restore.getAccount id with ⟨answer, b₂⟩
    have ha : b.restore.findAccount id = some account := ha
    obtain ⟨-, ⟨_, -, -, hnone⟩ | ⟨a, ha', rfl⟩⟩ := getAccount_cases hg
    · exact nomatch ha.symm.trans (hnone rfl)
    · cases ha.symm.trans ha'
      exact ⟨b₂, rfl⟩

end Book

theorem ChargingBack.failed_leaves {earlier : StoredResponse}
    (h : ChargingBack n earlier account context w (.error f) w') :
    w'.store = w.store ∧ w.book.Alike w'.book := by
  cases h with
  | noMoney _ => exact ⟨rfl, .refl _⟩
  | refused _ hc => exact ⟨rfl, Book.createChargeback_error_alike hc⟩

theorem Reporting.failed_leaves {c : Correlation}
    (h : Reporting n c account context w (.error f) w') :
    w'.store = w.store ∧ w.book.Alike w'.book := by
  cases h with
  | refused hs _ => exact ⟨rfl, Book.reportState_error_alike hs⟩

/-- The data is changed before the state is reported. -/
theorem Updating.failed_leaves {c : Correlation}
    (h : Updating n c account context w (.error f) w') :
    (w'.store = w.store ∨ w.store.updateMetadata w.now (c.edit n).transactionId (c.edit n).changes
      (c.edit n).tenantId = .ok w'.store) ∧ w.book.Alike w'.book := by
  cases h with
  | notStored _ => exact ⟨.inl rfl, .refl _⟩
  | stored hs hr =>
    obtain ⟨hstore, hbook⟩ := hr.failed_leaves
    refine ⟨.inr ?_, hbook⟩
    rw [hstore]
    exact hs

theorem Ordering.failed_leaves {order : PurchaseOrder}
    (h : Ordering account order context w (.error f) w') (hh : w.hook = {}) :
    w'.store = w.store ∧ w.book.Alike w'.book := by
  cases h with
  | refused hc => exact ⟨rfl, Book.createPurchase_error_alike hc⟩
  | unfinished _ ha =>
    rw [Bench.afterPurchase_of_no_hook hh] at ha
    exact nomatch ha

theorem Purchasing.failed_leaves {c : Correlation}
    (h : Purchasing p n c account context w (.error f) w') (hh : w.hook = {}) :
    w'.store = w.store ∧ w.book.Alike w'.book := by
  cases h with
  | noMoney _ => exact ⟨rfl, .refl _⟩
  | noMethods _ hl => exact ⟨rfl, Book.listPaymentMethods_alike hl⟩
  | noMethod _ hl _ => exact ⟨rfl, Book.listPaymentMethods_alike hl⟩
  | ordered _ hl _ ho =>
    obtain ⟨hstore, hbook⟩ := ho.failed_leaves hh
    exact ⟨hstore, (Book.listPaymentMethods_alike hl).trans hbook⟩

/-- A notice that failed leaves the records and the ledger as they were, or it got as far as to
change the data stored for the transaction that it is about. -/
theorem Course.failed_leaves {found : Finding} (h : Course p n w found (.error f) w')
    (hh : w.hook = {}) :
    w.book.Alike w'.book ∧
      (w'.store = w.store ∨ ∃ c, found = .transaction c ∧
        (∃ account b, w.book.getAccount c.accountId = (.ok account, b)) ∧
        w.store.updateMetadata w.now (c.edit n).transactionId (c.edit n).changes
          (c.edit n).tenantId = .ok w'.store) := by
  generalize hresult : (Except.error f : Except Failure Outcome) = result at h
  cases h with
  | failed => exact ⟨.refl _, .inl rfl⟩
  | nothing => exact ⟨.refl _, .inl rfl⟩
  | noAccount _ ha => exact ⟨Book.getAccount_alike ha, .inl rfl⟩
  | @disputed _ _ _ made _ ha hc =>
    cases made with
    | ok payment => exact nomatch hresult
    | error g =>
      obtain ⟨hstore, hbook⟩ := hc.failed_leaves
      exact ⟨(Book.getAccount_alike ha).trans hbook, .inl hstore⟩
  | @transaction c _ _ made _ ha hu =>
    cases made with
    | ok open? => exact nomatch hresult
    | error g =>
      obtain ⟨hstore, hbook⟩ := hu.failed_leaves
      refine ⟨(Book.getAccount_alike ha).trans hbook, hstore.imp_right fun hs => ?_⟩
      exact ⟨c, rfl, ⟨_, _, ha⟩, hs⟩
  | @account _ _ _ made _ ha hp =>
    cases made with
    | ok payment => exact nomatch hresult
    | error g =>
      obtain ⟨hstore, hbook⟩ := hp.failed_leaves hh
      exact ⟨(Book.getAccount_alike ha).trans hbook, .inl hstore⟩

/-! ## What a second attempt makes of it -/

theorem StoredResponse.edited_twice (c : Correlation) (n : Notice) (r : StoredResponse)
    (before now later : Instant) :
    (r.edited now (c.edit n)).Alike ((r.edited before (c.edit n)).edited later (c.edit n)) := by
  by_cases hr : MemoryStore.isFor c.transactionId c.tenantId r = true
  · have hedited (t : Instant) : r.edited t (c.edit n) = r.changed t (c.edit n).changes := if_pos hr
    have hagain : (r.changed before (c.edit n).changes).edited later (c.edit n) =
        (r.changed before (c.edit n).changes).changed later (c.edit n).changes := if_pos hr
    have hdata : (r.additionalData.spread.update (c.edit n).changes).update (c.edit n).changes =
        r.additionalData.spread.update (c.edit n).changes :=
      Members.update_of_get? (n.responseProperties_get? c.isHosted _)
    rw [hedited, hedited, hagain, StoredResponse.changed, StoredResponse.changed,
      StoredResponse.changed, Json.spread, hdata]
    exact ⟨later, rfl⟩
  · have hedited (t : Instant) : r.edited t (c.edit n) = r := if_neg hr
    rw [hedited, hedited, hedited]
    exact ⟨r.updatedAt, rfl⟩

/-- A store in which a change was made already. -/
structure MemoryStore.Ahead (e : Edit) (s s₂ : MemoryStore) : Prop where
  responses : ∃ before, s₂.responses = s.responses.map (·.edited before e)
  pendingRequests : s₂.pendingRequests = s.pendingRequests
  failures : s₂.failures = s.failures

theorem MemoryStore.Ahead.updateMetadata {c : Correlation} {s s₂ : MemoryStore}
    (h : s.Ahead (c.edit n) s₂) (he : s.enter .updateMetadata = .ok ()) (now later : Instant) :
    ∃ s' s₂', s.updateMetadata now (c.edit n).transactionId (c.edit n).changes
        (c.edit n).tenantId = .ok s' ∧
      s₂.updateMetadata later (c.edit n).transactionId (c.edit n).changes
        (c.edit n).tenantId = .ok s₂' ∧ s'.Alike s₂' := by
  have he₂ : s₂.enter .updateMetadata = .ok () := by
    rw [MemoryStore.enter, h.failures]
    exact he
  refine ⟨_, _, updateMetadata_of_enter he now (c.edit n), updateMetadata_of_enter he₂ later
    (c.edit n), ?_, h.pendingRequests, h.failures⟩
  obtain ⟨before, hresponses⟩ := h.responses
  rw [hresponses, List.map_map, List.forall₂_map_left_iff, List.forall₂_map_right_iff]
  exact List.forall₂_same.mpr fun r _ => StoredResponse.edited_twice c n r before now later

/-- What comes of a notice about a transaction is the same if its data was changed before. -/
theorem Course.absorbed {c : Correlation} {r r₂ : Except Failure Outcome}
    (h : Course p n u (.transaction c) r u') (h₂ : Course p n v (.transaction c) r₂ v')
    (hs : u.store.Ahead (c.edit n) v.store) (he : u.store.enter .updateMetadata = .ok ())
    (hb : u.book.Alike v.book) (ha : u.book.getAccount c.accountId = (.ok account, b))
    (hu : u.hook = {}) (hv : v.hook = {}) : r₂ = r ∧ u'.Alike v' := by
  obtain ⟨b₂, ha₂, hb₂⟩ := (hb.getAccount c.accountId).of_eq ha
  obtain ⟨made, hup, rfl⟩ := h.of_transaction ha
  obtain ⟨made₂, hup₂, rfl⟩ := h₂.of_transaction ha₂
  obtain ⟨s', s₂', hmeta, hmeta₂, halike⟩ := hs.updateMetadata he u.now v.now
  obtain ⟨rfl, hw⟩ := (hup.of_ok hmeta).alike (hup₂.of_ok hmeta₂) ⟨halike, hb₂, hu, hv⟩
  exact ⟨rfl, hw⟩

/-- Once nothing is made to fail, what comes of a notice that failed is what would have come of it
in the first place. -/
theorem Course.retried {e : JournalEntry} {now later : Instant} {r r₂ : Except Failure Outcome}
    (hc : Course p n w (Finding.of w.store n) (.error f) w') (hh : w.hook = {})
    (hu : Course p n (w.restored now) (Finding.of (w.restored now).store n) r u')
    (hv : Course p n ((w'.journaling e).restored later)
      (Finding.of ((w'.journaling e).restored later).store n) r₂ v') :
    Finding.of ((w'.journaling e).restored later).store n = Finding.of (w.restored now).store n ∧
      r₂ = r ∧ u'.Alike v' := by
  have hh' : w'.hook = {} := hc.keeps.hook.trans hh
  obtain ⟨hbook, hstore | ⟨c, hfound, ⟨account, b, ha⟩, hs⟩⟩ := hc.failed_leaves hh
  · -- the records are the same, so the same is found at benches that are alike
    have hsame : Finding.of ((w'.journaling e).restored later).store n =
        Finding.of (w.restored now).store n := by
      rw [Bench.restored, Bench.journaling, hstore]
      rfl
    have halike : (w.restored now).Alike ((w'.journaling e).restored later) := by
      refine ⟨⟨?_, ?_, rfl⟩, hbook.restore, hh, hh'⟩
      · rw [Bench.restored, Bench.restored, Bench.journaling, hstore]
        exact (MemoryStore.Alike.refl w.store).responses
      · rw [Bench.restored, Bench.restored, Bench.journaling, hstore]
        rfl
    rw [hsame] at hv
    exact ⟨hsame, hu.alike hv halike⟩
  · -- the data was changed already, which leads to the same entries and can be done again
    have hn := Finding.not_chargeback hfound
    have hedited := MemoryStore.updateMetadata_edited hs
    have hleads := MemoryStore.updateMetadata_leads hs
    have hto : Finding.of (w.restored now).store n = .transaction c := Finding.of_restore hfound
    have hsame : Finding.of ((w'.journaling e).restored later).store n =
        Finding.of (w.restored now).store n :=
      Finding.of_leads ⟨hleads.responses, hleads.pendingRequests, rfl⟩ hn
    have hahead : (w.restored now).store.Ahead (c.edit n)
        ((w'.journaling e).restored later).store :=
      ⟨⟨w.now, congrArg MemoryStore.responses hedited⟩, hleads.pendingRequests, rfl⟩
    obtain ⟨b₂, ha₂⟩ := Book.getAccount_restore ha
    refine ⟨hsame, ?_⟩
    rw [hsame, hto] at hv
    rw [hto] at hu
    exact hu.absorbed hv hahead rfl hbook.restore ha₂ hh hh'

theorem failed_of_retryRequested {result : Except Failure Outcome}
    (h : (receiptOf n result).signal.retryRequested = true) : ∃ f, result = .error f := by
  cases result with
  | ok outcome => exact nomatch h
  | error f => exact ⟨f, rfl⟩

/-- **Retry.** If a notice that failed is to be delivered again, then delivering it again with
nothing made to fail tells and leaves the same as delivering it once with nothing made to fail; only
the journal has one more entry, that of the delivery that failed. -/
theorem retry_safe {r : Reconciler} (hr : r.Articulate) (n : Notice) {w : Bench} {d d₁ : Desk}
    (hd : w.On d) (hh : w.hook = {}) (hj : w.store.enter .appendJournal = .ok ())
    {receipt : Receipt} (hrun : r.process n d = (.ok receipt, d₁))
    (hretry : receipt.signal.retryRequested = true) (now later : Instant) :
    ∃ (told : Receipt) (once again : Desk) (u v : Bench),
      r.process n (d.arranged (Bench.restored now)) = (.ok told, once) ∧
        r.process n (d₁.arranged (Bench.restored later)) = (.ok told, again) ∧
        u.On once ∧ v.On again ∧ u.book.Alike v.book ∧ u.store.Alike v.store ∧
        ∃ failed ids, u.store.journal = w.store.journal ++ [n.entry ids now] ∧
          v.store.journal = w.store.journal ++ [n.entry failed w.now, n.entry ids later] := by
  obtain ⟨_, _, w₁, hrun₁, hd₁, hdelivered⟩ := Reconciler.process_delivered hr n hd
  cases hrun.symm.trans hrun₁
  obtain ⟨result, w', hc, hreceipt, rfl⟩ := hdelivered.of_ok hj
  rw [hreceipt] at hretry
  obtain ⟨f, rfl⟩ := failed_of_retryRequested hretry
  obtain ⟨_, once, u₁, honce, hdu, hdelivered₁⟩ :=
    Reconciler.process_delivered hr n (hd.arranged (Bench.restored now))
  obtain ⟨r₁, u, hu, rfl, rfl⟩ := hdelivered₁.of_ok rfl
  obtain ⟨_, again, v₁, hagain, hdv, hdelivered₂⟩ :=
    Reconciler.process_delivered hr n (hd₁.arranged (Bench.restored later))
  obtain ⟨r₂, v, hv, rfl, rfl⟩ := hdelivered₂.of_ok rfl
  obtain ⟨hsame, rfl, halike⟩ := hc.retried hh hu hv
  refine ⟨_, once, again, _, _, honce, hagain, hdu, hdv, halike.book,
    ⟨halike.store.responses, halike.store.pendingRequests, halike.store.failures⟩,
    (Finding.of w.store n).idsAfter (.error f),
    (Finding.of (w.restored now).store n).idsAfter r₂, ?_, ?_⟩
  · rw [Bench.journaling, hu.keeps.store.journal]
    rfl
  · -- the entry of the delivery that failed comes first
    rw [Bench.journaling, hv.keeps.store.journal, hsame]
    change (w'.store.journal ++ [_]) ++ [_] = _
    rw [hc.keeps.store.journal, List.append_assoc]
    rfl

/-- The data of the sample is changed before its state cannot be reported; a second delivery makes
up for it. -/
theorem retry_safe_sample :
    let w := { Sample.bench with book := Sample.book.failOn .reportState none }
    let failed := Sample.reconciler.process Sample.authorisation w.desk
    failed.1.map (·.signal.retryRequested) = .ok true ∧
      ∃ (told : Receipt) (once again : Desk) (u v : Bench),
        Sample.reconciler.process Sample.authorisation (w.desk.arranged (Bench.restored ⟨2⟩)) =
            (.ok told, once) ∧
          Sample.reconciler.process Sample.authorisation
            (failed.2.arranged (Bench.restored ⟨3⟩)) = (.ok told, again) ∧
          u.On once ∧ v.On again ∧ u.book.Alike v.book ∧ u.store.Alike v.store ∧
          ∃ failed ids, u.store.journal = [Sample.authorisation.entry ids ⟨2⟩] ∧
            v.store.journal =
              [Sample.authorisation.entry failed ⟨1⟩, Sample.authorisation.entry ids ⟨3⟩] :=
  ⟨rfl, retry_safe Sample.articulate Sample.authorisation (Bench.on_desk _) rfl rfl rfl rfl ⟨2⟩
    ⟨3⟩⟩

end NoticeLedger
