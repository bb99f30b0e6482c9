import NoticeLedger.Proofs.Delivery.Isolation
import NoticeLedger.Proofs.Rehearsal.Grown

/-!
# NoticeLedger.Proofs.Delivery.Precedence

Hosted requests are looked up last, and for some notices never.

* `Bench.hosting` — a bench with other hosted requests, and with another failure of looking them up.
* `MemoryStore.Decides` — what a notice is about is known without its hosted request.
* `Finding.of_hosting`, `Delivered.hosting` — then hosted requests make no difference to what is
  found, and none to the delivery.
* `Delivered.of_report` — a report is journaled, and nothing else is looked at.
* `hosted_requests_last` — both at two desks.
-/

namespace NoticeLedger

open Delivery

/-- A store with other hosted requests, and with another failure of looking them up. -/
def MemoryStore.hosting (s : MemoryStore) (requests : List HostedRequest)
    (failure : Option Failure) : MemoryStore :=
  { s with
    pendingRequests := requests
    failures := fun op => if op = .getPendingRequest then failure else s.failures op }

def Bench.hosting (w : Bench) (requests : List HostedRequest) (failure : Option Failure) : Bench :=
  { w with store := w.store.hosting requests failure }

/-- What a notice is about is known without its hosted request: the response to its operation is
stored and can be looked up, or it names no hosted request, or it is a chargeback or a report. -/
inductive MemoryStore.Decides (s : MemoryStore) (n : Notice) : Prop where
  | answered {r : StoredResponse} : s.getResponse n.pspReference = .ok (some r) → Decides s n
  | unreferenced : n.merchantReference = .null → Decides s n
  | chargeback : n.classification = some .chargeback → Decides s n
  | report : EventCode.isReport n.eventCode = true → Decides s n

variable {p : Profile} {n : Notice} {s : MemoryStore} {u v w w' w₂ : Bench} {r r₂ : Receipt}
  {requests : List HostedRequest} {failure : Option Failure}

theorem MemoryStore.getResponse_hosting (ref : Given) :
    (s.hosting requests failure).getResponse ref = s.getResponse ref := rfl

theorem MemoryStore.hosting_beside (requests : List HostedRequest) (failure : Option Failure) :
    Beside fun s => s.hosting requests failure :=
  ⟨fun _ => rfl, fun _ => rfl, fun _ => rfl, fun _ _ => rfl⟩

namespace Finding

theorem ofReference_hosting
    (h : (∃ r, s.getResponse n.pspReference = .ok (some r)) ∨ n.merchantReference = .null) :
    ofReference (s.hosting requests failure) n = ofReference s n := by
  rw [ofReference, ofReference, MemoryStore.getResponse_hosting]
  rcases h with ⟨r, hr⟩ | hn
  · rw [hr]
  · rw [ofRequest, ofRequest, if_pos hn, if_pos hn]

theorem of_hosting (h : s.Decides n) : of (s.hosting requests failure) n = of s n := by
  have hearlier : ofEarlier (s.hosting requests failure) n = ofEarlier s n := rfl
  rw [of, of, hearlier]
  by_cases hc : n.classification = some .chargeback
  · rw [if_pos hc, if_pos hc]
  rw [if_neg hc, if_neg hc]
  by_cases hr : EventCode.isReport n.eventCode = true
  · rw [if_pos hr, if_pos hr]
  rw [if_neg hr, if_neg hr]
  cases h with
  | answered hresponse => exact ofReference_hosting (.inl ⟨_, hresponse⟩)
  | unreferenced hn => exact ofReference_hosting (.inr hn)
  | chargeback hc' => exact absurd hc' hc
  | report hr' => exact absurd hr' hr

end Finding

theorem Delivered.hosting (h : Delivered p n w r w')
    (h₂ : Delivered p n (w.hosting requests failure) r₂ w₂) (hn : w.store.Decides n) :
    r₂ = r ∧ w₂ = w'.hosting requests failure := by
  obtain ⟨result, w₁, hc, rfl, rfl⟩ := h.parts
  obtain ⟨result₂, v₁, hc₂, rfl, rfl⟩ := h₂.parts
  have hfinding : Finding.of (w.hosting requests failure).store n = Finding.of w.store n :=
    Finding.of_hosting hn
  -- the same is found, and acting on it sees no hosted request
  rw [hfinding] at hc₂
  obtain ⟨rfl, rfl⟩ := (hc.beside (MemoryStore.hosting_beside requests failure)).unique hc₂
  have hentries : (w.hosting requests failure).entries n result₂ = w.entries n result₂ := by
    rw [Bench.entries, Bench.entries, hfinding]
    rfl
  exact ⟨rfl, by rw [hentries]; rfl⟩

/-- A report is journaled, and nothing else is done or looked at. -/
theorem Delivered.of_report (h : Delivered p n w r w')
    (hr : EventCode.isReport n.eventCode = true) :
    r = w.receipt n (.ok .journaledOnly) ∧ w' = w.grown (w.entries n (.ok .journaledOnly)) := by
  obtain ⟨result, w₁, hc, rfl, rfl⟩ := h.parts
  rw [Finding.of_report hr] at hc
  obtain ⟨rfl, rfl⟩ := hc.of_nothing
  exact ⟨rfl, rfl⟩

/-- Two reports at benches that have the time in common, and whether a journal can be written. -/
theorem Delivered.reports (h : Delivered p n u r w') (h₂ : Delivered p n v r₂ w₂)
    (hr : EventCode.isReport n.eventCode = true) (hnow : v.now = u.now)
    (hj : v.store.enter .appendJournal = u.store.enter .appendJournal) :
    r₂ = r ∧ ∃ entries, w' = u.grown entries ∧ w₂ = v.grown entries := by
  obtain ⟨rfl, rfl⟩ := h.of_report hr
  obtain ⟨rfl, rfl⟩ := h₂.of_report hr
  have hentries : v.entries n (.ok .journaledOnly) = u.entries n (.ok .journaledOnly) := by
    rw [Bench.entries, Bench.entries, hj, hnow, Finding.of_report hr, Finding.of_report hr]
  exact ⟨by rw [Bench.receipt, Bench.receipt, hj], _, rfl, by rw [hentries]⟩

/-- **Hosted requests are looked up last.** Where it is known without them what a notice is about, a
delivery comes to the same with other hosted requests, and with a look-up of them that fails: the
same is told, and every record, the ledger and the journal are left as they are left without. A
report comes to the same whatever the records, the ledger and their failures are, as long as the
time is the same and the journal can be written as well or as badly: it adds the same to the journal
and leaves everything else as it was. -/
theorem hosted_requests_last {r : Reconciler} (hr : r.Articulate) (n : Notice) {d d' : Desk}
    (hu : u.On d) (hv : v.On d') :
    ∃ (first second : Receipt) (d₁ d₂ : Desk),
      r.process n d = (.ok first, d₁) ∧ r.process n d' = (.ok second, d₂) ∧
      (∀ requests failure, v = u.hosting requests failure → u.store.Decides n →
        second = first ∧
          ∃ u' : Bench, u'.On d₁ ∧ (u'.hosting requests failure).On d₂) ∧
      (EventCode.isReport n.eventCode = true → v.now = u.now →
        v.store.enter .appendJournal = u.store.enter .appendJournal →
        second = first ∧ ∃ entries, (u.grown entries).On d₁ ∧ (v.grown entries).On d₂) := by
  obtain ⟨first, d₁, u', hrun, hu', hfirst⟩ := Reconciler.process_delivered hr n hu
  obtain ⟨second, d₂, v', hrun', hv', hsecond⟩ := Reconciler.process_delivered hr n hv
  refine ⟨first, second, d₁, d₂, hrun, hrun', ?_, ?_⟩
  · rintro requests failure rfl hn
    obtain ⟨hr, rfl⟩ := hfirst.hosting hsecond hn
    exact ⟨hr, u', hu', hv'⟩
  · intro hreport hnow hj
    obtain ⟨hr, entries, rfl, rfl⟩ := hfirst.reports hsecond hreport hnow hj
    exact ⟨hr, entries, hu', hv'⟩

namespace Sample

def report : Notice :=
  { authorisation with eventCode := "REPORT_AVAILABLE" }

end Sample

/-- The response to the sample's operation is stored, so its hosted request, which cannot be looked
up, is not asked for; and a report comes to the same where nothing at all is stored. -/
theorem hosted_requests_last_sample :
    let hosting := Sample.bench.hosting [Sample.hostedRequest] (some (.plain "unavailable"))
    let first := Sample.reconciler.process Sample.authorisation Sample.bench.desk
    let second := Sample.reconciler.process Sample.authorisation hosting.desk
    let empty : Bench := { store := {}, book := {}, now := ⟨1⟩ }
    let report := Sample.reconciler.process Sample.report Sample.bench.desk
    let other := Sample.reconciler.process Sample.report empty.desk
    (second.1 = first.1 ∧ ∃ u' : Bench, u'.On first.2 ∧
      (u'.hosting [Sample.hostedRequest] (some (.plain "unavailable"))).On second.2) ∧
    (other.1 = report.1 ∧ ∃ entries,
      (Sample.bench.grown entries).On report.2 ∧ (empty.grown entries).On other.2) := by
  intro hosting first second empty report other
  constructor
  · obtain ⟨_, _, _, _, hfirst, hsecond, hhosting, -⟩ := hosted_requests_last Sample.articulate
      Sample.authorisation Sample.bench.on_desk hosting.on_desk
    obtain ⟨rfl, h⟩ := hhosting _ _ rfl (.answered rfl)
    rw [show first = _ from hfirst, show second = _ from hsecond]
    exact ⟨rfl, h⟩
  · obtain ⟨_, _, _, _, hreport, hother, -, hreports⟩ := hosted_requests_last Sample.articulate
      Sample.report Sample.bench.on_desk empty.on_desk
    obtain ⟨rfl, h⟩ := hreports (by decide) rfl rfl
    rw [show report = _ from hreport, show other = _ from hother]
    exact ⟨rfl, h⟩

end NoticeLedger
