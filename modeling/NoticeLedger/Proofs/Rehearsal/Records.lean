import NoticeLedger.Proofs.Rehearsal.Frame

/-!
# NoticeLedger.Proofs.Rehearsal.Records

Changes to the data of stored responses, and what they leave as it is.

* `Edit`, `StoredResponse.edited` — a change to the data of the responses for a transaction.
* `MemoryStore.Leads` — the references and what they lead to are the same, and so are the operations
  that are made to fail; the data of the responses and the journal are left out.
* `Finding.of_congr`, `Finding.of_leads` — such stores say the same about a notice that is no
  chargeback; only its own references matter.
* `Finding.of_restore` — what was found is found as well when nothing is made to fail.
-/

namespace NoticeLedger

/-- A change to the data of the responses that were stored for a transaction of a tenant. -/
structure Edit where
  transactionId : Given
  tenantId : Given
  changes : List (String × Given)

/-- The change that a notice makes when it is about a transaction. -/
def Correlation.edit (c : Correlation) (n : Notice) : Edit where
  transactionId := c.transactionId
  tenantId := c.tenantId
  changes := n.responseProperties c.isHosted

/-- A response after a change; one for another transaction stays as it is. -/
def StoredResponse.edited (now : Instant) (e : Edit) (r : StoredResponse) : StoredResponse :=
  if MemoryStore.isFor e.transactionId e.tenantId r then r.changed now e.changes else r

theorem Notice.responseProperties_get? (n : Notice) (hosted : Bool) (m : Members) :
    ∀ change ∈ n.responseProperties hosted,
      (m.update (n.responseProperties hosted)).get? change.1 = change.2 := by
  cases hosted with
  | false =>
    intro change hc
    have hchange : change = (PropertyKey.pspReference.name, n.pspReference) := by
      simpa [Notice.responseProperties] using hc
    rw [hchange, Members.get?_update]
    rfl
  | true =>
    intro change hc
    have hchange : change = (PropertyKey.pspReference.name, n.pspReference) ∨
        change = (PropertyKey.hostedStatus.name, .text n.hostedStatus) := by
      simpa [Notice.responseProperties] using hc
    rw [Members.get?_update]
    rcases hchange with rfl | rfl
    · rfl
    · rfl

/-- The reference of a response, and the entries that it leads to. -/
def StoredResponse.lead (r : StoredResponse) : Given × Correlation :=
  (r.pspReference, .ofResponse r)

/-- A store that leads from the same references to the same entries as another. -/
structure MemoryStore.Leads (s s' : MemoryStore) : Prop where
  responses : s'.responses.map StoredResponse.lead = s.responses.map StoredResponse.lead
  pendingRequests : s'.pendingRequests = s.pendingRequests
  failures : s'.failures = s.failures

namespace MemoryStore

variable {s s' : MemoryStore} {now : Instant}

theorem Leads.refl (s : MemoryStore) : s.Leads s := ⟨rfl, rfl, rfl⟩

theorem Leads.trans {s₁ s₂ : MemoryStore} (h : s.Leads s₁) (h' : s₁.Leads s₂) : s.Leads s₂ where
  responses := h'.responses.trans h.responses
  pendingRequests := h'.pendingRequests.trans h.pendingRequests
  failures := h'.failures.trans h.failures

theorem Leads.enter (h : s.Leads s') (op : StoreOperation) : s'.enter op = s.enter op := by
  rw [MemoryStore.enter, MemoryStore.enter, h.failures]

theorem Leads.findResponse (h : s.Leads s') (ref : Given) :
    (s'.findResponse ref).map Correlation.ofResponse =
      (s.findResponse ref).map Correlation.ofResponse := by
  have hfind (rs : List StoredResponse) :
      (Keyed.find? StoredResponse.pspReference rs ref).map Correlation.ofResponse =
        (Keyed.find? Prod.fst (rs.map StoredResponse.lead) ref).map Prod.snd := by
    rw [Keyed.find?, Keyed.find?, List.find?_map, Option.map_map]
    rfl
  rw [MemoryStore.findResponse, MemoryStore.findResponse, hfind, hfind, h.responses]

theorem edited_lead (now : Instant) (e : Edit) (r : StoredResponse) :
    (r.edited now e).lead = r.lead := by
  rw [StoredResponse.edited]
  split <;> rfl

theorem updateMetadata_edited {e : Edit}
    (h : s.updateMetadata now e.transactionId e.changes e.tenantId = .ok s') :
    s' = { s with responses := s.responses.map (·.edited now e) } :=
  updateMetadata_ok h

theorem updateMetadata_of_enter (h : s.enter .updateMetadata = .ok ()) (now : Instant) (e : Edit) :
    s.updateMetadata now e.transactionId e.changes e.tenantId =
      .ok { s with responses := s.responses.map (·.edited now e) } := by
  rw [updateMetadata, h]
  rfl

theorem updateMetadata_of_error {f : Failure} (h : s.enter .updateMetadata = .error f)
    (now : Instant) (e : Edit) :
    s.updateMetadata now e.transactionId e.changes e.tenantId = .error f := by
  rw [updateMetadata, h]
  rfl

theorem updateMetadata_leads {e : Edit}
    (h : s.updateMetadata now e.transactionId e.changes e.tenantId = .ok s') : s.Leads s' := by
  rw [updateMetadata_edited h]
  refine ⟨?_, rfl, rfl⟩
  rw [List.map_map]
  exact List.map_congr_left fun r _ => edited_lead now e r

end MemoryStore

namespace Finding

variable {s s' : MemoryStore} {n : Notice}

/-- A look-up of a response, by what it leads to. -/
theorem ofReference_eq (s : MemoryStore) (n : Notice) :
    ofReference s n =
      match s.enter .getResponse with
      | .error f => failed (Failure.wrap StoreOperation.getResponse.name [] f)
      | .ok _ =>
        match (s.findResponse n.pspReference).map Correlation.ofResponse with
        | none => ofRequest s n
        | some c => ofCorrelation c := by
  rw [ofReference, MemoryStore.getResponse]
  cases s.enter .getResponse with
  | error f => rfl
  | ok _ =>
    cases s.findResponse n.pspReference <;> rfl

theorem ofRequest_congr (hp : s'.pendingRequests = s.pendingRequests)
    (hf : s'.failures = s.failures) (n : Notice) : ofRequest s' n = ofRequest s n := by
  have hget : s'.getPendingRequest (some n.merchantReference) =
      s.getPendingRequest (some n.merchantReference) := by
    rw [MemoryStore.getPendingRequest, MemoryStore.getPendingRequest, MemoryStore.enter,
      MemoryStore.enter, MemoryStore.findPendingRequest, MemoryStore.findPendingRequest, hp, hf]
  rw [ofRequest, ofRequest, hget]

/-- Which entries a notice is about is told by where its own references lead. -/
theorem of_congr (hp : s'.pendingRequests = s.pendingRequests) (hf : s'.failures = s.failures)
    (hr : (s'.findResponse n.pspReference).map Correlation.ofResponse =
      (s.findResponse n.pspReference).map Correlation.ofResponse)
    (hn : n.classification ≠ some .chargeback) : of s' n = of s n := by
  rw [of, of, if_neg hn, if_neg hn, ofReference_eq, ofReference_eq, MemoryStore.enter,
    MemoryStore.enter, hr, hf, ofRequest_congr hp hf]

theorem of_leads (h : s.Leads s') (hn : n.classification ≠ some .chargeback) :
    of s' n = of s n :=
  of_congr h.pendingRequests h.failures (h.findResponse _) hn

theorem ofCorrelation_ne_disputed (c : Correlation) (earlier : StoredResponse) :
    ofCorrelation c ≠ disputed earlier := by
  rw [ofCorrelation]
  split <;> exact nofun

theorem ofRequest_ne_disputed (s : MemoryStore) (n : Notice) (earlier : StoredResponse) :
    ofRequest s n ≠ disputed earlier := by
  rw [ofRequest]
  split
  · exact nofun
  · split
    · exact nofun
    · exact nofun
    · exact ofCorrelation_ne_disputed _ earlier

/-- Only a chargeback disputes an operation. -/
theorem of_ne_disputed (hn : n.classification ≠ some .chargeback) (earlier : StoredResponse) :
    of s n ≠ disputed earlier := by
  rw [of, if_neg hn]
  split
  · intro h
    cases h
  · rw [ofReference]
    split
    · intro h
      cases h
    · exact ofRequest_ne_disputed s n earlier
    · exact ofCorrelation_ne_disputed _ earlier

theorem ofEarlier_ne_transaction (s : MemoryStore) (n : Notice) (c : Correlation) :
    ofEarlier s n ≠ transaction c := by
  rw [ofEarlier]
  split
  · exact nofun
  · split <;> exact nofun

/-- Only a notice that is no chargeback is about a transaction. -/
theorem not_chargeback {c : Correlation} (h : of s n = transaction c) :
    n.classification ≠ some .chargeback := by
  intro hn
  rw [of, if_pos hn] at h
  exact ofEarlier_ne_transaction s n c h

theorem ofRequest_restore {c : Correlation} (h : ofRequest s n = transaction c) :
    ofRequest s.restore n = transaction c := by
  rw [ofRequest] at h ⊢
  by_cases hm : n.merchantReference = .null
  · rw [if_pos hm] at h
    cases h
  · rw [if_neg hm] at h ⊢
    rw [MemoryStore.getPendingRequest] at h
    cases he : s.enter .getPendingRequest with
    | error f =>
      rw [he] at h
      cases h
    | ok _ =>
      rw [he] at h
      exact h

/-- A transaction that was found is found as well when nothing is made to fail. -/
theorem of_restore {c : Correlation} (h : of s n = transaction c) :
    of s.restore n = transaction c := by
  have hn := not_chargeback h
  rw [of, if_neg hn] at h ⊢
  by_cases hreport : EventCode.isReport n.eventCode = true
  · rw [if_pos hreport] at h
    cases h
  · rw [if_neg hreport, ofReference_eq] at h
    rw [if_neg hreport, ofReference_eq]
    have hfind : s.restore.findResponse n.pspReference = s.findResponse n.pspReference := rfl
    have henter : s.restore.enter .getResponse = .ok () := rfl
    rw [hfind, henter]
    cases he : s.enter .getResponse with
    | error f =>
      rw [he] at h
      cases h
    | ok _ =>
      rw [he] at h
      dsimp only at h ⊢
      cases hf : (s.findResponse n.pspReference).map Correlation.ofResponse with
      | none =>
        rw [hf] at h
        exact ofRequest_restore h
      | some c' =>
        rw [hf] at h
        exact h

end Finding

end NoticeLedger
