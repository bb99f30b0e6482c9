import NoticeLedger.Proofs.Rehearsal.Records
import NoticeLedger.Proofs.Store.Typed

/-!
# NoticeLedger.Proofs.Store.Mirror

Records in memory and rows of tables that stay the same.

* `MemoryStore.Mirrors` — the tables keep the records of a store in memory, apart from the times at
  which they were made and changed; nothing is made to fail, and all that is kept has its types.
* `Mirrors.getResponse`, `Mirrors.saveResponse` and the like — every operation with arguments of
  their types works on both, answers the same, and leaves stores that mirror each other.
* `mirrors_empty` — empty stores do, in whatever order rows are read.

A response that is saved again takes the place of the old one in memory. In the tables only what
differs is written, and a row that would not change is left alone.
-/

namespace NoticeLedger

/-- A response apart from when it was made and changed. -/
def StoredResponse.timeless (r : StoredResponse) : StoredResponse :=
  { r with createdAt := ⟨0⟩, updatedAt := ⟨0⟩ }

/-- A hosted request apart from when it was made. -/
def HostedRequest.timeless (r : HostedRequest) : HostedRequest :=
  { r with createdAt := ⟨0⟩ }

theorem StoredResponse.timeless_pspReference (r : StoredResponse) :
    r.timeless.pspReference = r.pspReference := rfl

theorem HostedRequest.timeless_merchantReference (r : HostedRequest) :
    r.timeless.merchantReference = r.merchantReference := rfl

theorem StoredResponse.typed_timeless {r : StoredResponse} : r.timeless.Typed ↔ r.Typed :=
  ⟨fun h => ⟨h.1, h.2, h.3, h.4, h.5, h.6, h.7⟩, fun h => ⟨h.1, h.2, h.3, h.4, h.5, h.6, h.7⟩⟩

theorem HostedRequest.typed_timeless {r : HostedRequest} : r.timeless.Typed ↔ r.Typed :=
  ⟨fun h => ⟨h.1, h.2, h.3, h.4, h.5, h.6⟩, fun h => ⟨h.1, h.2, h.3, h.4, h.5, h.6⟩⟩

/-- The response that a draft becomes, apart from the times. -/
def StoredResponse.Draft.record (d : StoredResponse.Draft) : StoredResponse :=
  ({} : MemoryStore).responseOf ⟨0⟩ d

/-- The hosted request that a draft becomes, apart from the time. -/
def HostedRequest.Draft.record (d : HostedRequest.Draft) : HostedRequest :=
  MemoryStore.requestOf ⟨0⟩ d

/-- A change to the data for a transaction of a tenant; what is put in are texts. -/
structure Edit.Typed (e : Edit) : Prop where
  transactionId : e.transactionId.IsText
  tenantId : e.tenantId.IsText
  changes : ∀ c ∈ e.changes, c.2.IsText

/-- The tables keep the records of a store in memory. -/
structure MemoryStore.Mirrors (s : MemoryStore) (t : Tables) : Prop where
  responses : t.responses.map StoredResponse.timeless = s.responses.map StoredResponse.timeless
  pendingRequests :
    t.pendingRequests.map HostedRequest.timeless = s.pendingRequests.map HostedRequest.timeless
  journal : t.journal = s.journal.map JournalRow.ofEntry
  failures : ∀ op, s.failures op = none
  isOpen : t.isOpen = true
  responses_typed : ∀ r ∈ s.responses, r.Typed
  pendingRequests_typed : ∀ r ∈ s.pendingRequests, r.Typed
  journal_typed : ∀ e ∈ s.journal, e.Typed

/-! ## Drafts -/

theorem Json.isTextObject_spread {g : Given}
    (h : g = none ∨ ∃ v, g = some v ∧ v.IsTextObject) :
    (Json.object g.spread).IsTextObject ∧ g.orElse (.object []) = .object g.spread := by
  rcases h with rfl | ⟨v, rfl, m, rfl, hm⟩
  · exact ⟨⟨[], rfl, nofun⟩, rfl⟩
  · exact ⟨⟨m, rfl, hm⟩, rfl⟩

namespace StoredResponse.Draft.Typed

variable {d : StoredResponse.Draft}

theorem record (h : d.Typed) : d.record.Typed where
  pspReference := h.pspReference
  accountId := h.accountId
  tenantId := h.tenantId
  paymentId := h.paymentId
  transactionId := h.transactionId
  transactionType := ⟨_, rfl, h.transactionType⟩
  additionalData := (Json.isTextObject_spread h.additionalData).1

/-- A row that is set to a draft keeps nothing of what it was before but its times. -/
theorem setResponse (h : d.Typed) (row : StoredResponse) (now : Instant) :
    (Tables.setResponse row (Tables.givenResponse now d)).timeless = d.record := by
  simp only [Tables.setResponse, Tables.givenResponse, Column.set_word h.pspReference.isWord,
    Column.set_word h.accountId.isWord, Column.set_word h.tenantId.isWord,
    Column.set_word h.paymentId.isWord, Column.set_word h.transactionId,
    Column.set_word ⟨_, rfl, h.transactionType⟩, (Json.isTextObject_spread h.additionalData).2]
  rfl

theorem bind_responseTexts (h : d.Typed) (now : Instant) :
    Column.bind (Tables.responseTexts (Tables.givenResponse now d)) = .ok () := by
  refine Column.bind_scalars fun g hg => .inl ?_
  simp only [Tables.responseTexts, Tables.givenResponse, List.mem_cons, List.not_mem_nil,
    or_false] at hg
  rcases hg with rfl | rfl | rfl | rfl | rfl | rfl
  · exact h.pspReference.isWord.orNull
  · exact h.accountId.isWord.orNull
  · exact h.tenantId.isWord.orNull
  · exact h.paymentId.isWord.orNull
  · exact h.transactionId.orNull
  · exact h.transactionType

/-- A row that a draft would not change is what the draft becomes. -/
theorem unchanged (h : d.Typed) {row : StoredResponse} (hrow : row.Typed) {now : Instant}
    (hsame : Tables.changesResponse row (Tables.givenResponse now d) = false) :
    row.timeless = d.record := by
  have same {value column : Given} (hv : value.IsWord) (hd : Tables.differs value column = false) :
      column = value := by
    obtain ⟨v, rfl, -⟩ := hv
    rw [Tables.differs, Option.isSome_some, Bool.true_and, bne_eq_false_iff_eq] at hd
    exact hd.symm
  obtain ⟨m, hm, htexts⟩ := hrow.additionalData
  obtain ⟨⟨m', hm', htexts'⟩, hspread⟩ := Json.isTextObject_spread h.additionalData
  simp only [Tables.changesResponse, Tables.responseTexts, Tables.givenResponse, List.zip_cons_cons,
    List.zip_nil_right, List.any_cons, List.any_nil, Bool.or_false, Bool.or_eq_false_iff,
    bne_eq_false_iff_eq, hspread, hm, hm'] at hsame
  obtain ⟨⟨hpsp, haccount, htenant, hpayment, htransaction, htype⟩, hrender⟩ := hsame
  have hdata : m' = m := Json.render_textMembers_inj htexts' htexts hrender
  rw [StoredResponse.timeless, Draft.record, MemoryStore.responseOf,
    same h.pspReference.isWord hpsp,
    same h.accountId.isWord haccount, same h.tenantId.isWord htenant,
    same h.paymentId.isWord hpayment, same h.transactionId htransaction,
    same ⟨_, rfl, h.transactionType⟩ htype, hm, hm', hdata]
  rfl

end StoredResponse.Draft.Typed

namespace HostedRequest.Draft.Typed

variable {d : HostedRequest.Draft}

theorem record (h : d.Typed) : d.record.Typed where
  merchantReference := h.merchantReference
  accountId := h.accountId
  tenantId := h.tenantId
  paymentId := ⟨_, rfl, h.paymentId⟩
  transactionId := ⟨_, rfl, h.transactionId⟩
  additionalData := (Json.isTextObject_spread h.additionalData).1

theorem setRequest (h : d.Typed) (row : HostedRequest) (now : Instant) :
    (Tables.setRequest row (Tables.givenRequest now d)).timeless = d.record := by
  simp only [Tables.setRequest, Tables.givenRequest, Column.set_word h.merchantReference.isWord,
    Column.set_word h.accountId.isWord, Column.set_word h.tenantId.isWord,
    Column.set_word ⟨_, rfl, h.paymentId⟩, Column.set_word ⟨_, rfl, h.transactionId⟩,
    (Json.isTextObject_spread h.additionalData).2]
  rfl

theorem bind_requestTexts (h : d.Typed) (now : Instant) :
    Column.bind (Tables.requestTexts (Tables.givenRequest now d)) = .ok () := by
  refine Column.bind_scalars fun g hg => .inl ?_
  simp only [Tables.requestTexts, Tables.givenRequest, List.mem_cons, List.not_mem_nil,
    or_false] at hg
  rcases hg with rfl | rfl | rfl | rfl | rfl
  · exact h.merchantReference.isWord.orNull
  · exact h.accountId.isWord.orNull
  · exact h.tenantId.isWord.orNull
  · exact h.paymentId
  · exact h.transactionId

end HostedRequest.Draft.Typed

/-! ## Rows -/

theorem Given.IsText.not_isNothing {g : Given} (h : g.IsText) : g.isNothing = false := by
  obtain ⟨s, rfl⟩ := h
  rfl

theorem Column.bind_text {g : Given} (h : g.IsText) : bind [g] = .ok () := by
  refine bind_scalars fun g' hg' => ?_
  rw [List.mem_singleton.mp hg']
  exact .inl h.isWord.orNull

theorem Column.admits_text {asked : Given} (h : asked.IsText) (column : Given) :
    admits asked column = true ↔ column = asked := by
  obtain ⟨s, rfl⟩ := h
  exact beq_iff_eq

namespace Tables

variable {α : Type} {key : α → Given} {ref : Given}

theorem enter_of_isOpen {t : Tables} (h : t.isOpen = true) : t.enter = .ok () :=
  if_pos h

theorem lookUp_text (h : ref.IsText) (records : List α) :
    lookUp key records ref = Keyed.find? key records ref := by
  rw [lookUp, Keyed.find?]
  congr 1
  funext r
  show Column.admits ref (key r) = decide (key r = ref)
  rw [Bool.eq_iff_iff, Column.admits_text h, decide_eq_true_iff]

theorem changedBy_text (h : ref.IsText) (records : List α) :
    changedBy key records ref = Keyed.find? key records ref := by
  obtain ⟨s, rfl⟩ := h
  rfl

theorem claim_text {table column : String} (h : ref.IsText) {records : List α}
    (hfree : Keyed.find? key records ref = none) : claim table column key records ref = .ok () := by
  obtain ⟨s, rfl⟩ := h
  rw [claim]
  have hcolumn : some (Column.text (Given.orNull (Given.text s))) = Given.text s := rfl
  rw [hcolumn, hfree]

theorem requireResponse_typed {r : StoredResponse} (h : r.Typed) : requireResponse r = .ok () := by
  rw [requireResponse, Column.require]
  simp [h.pspReference.not_isNothing, h.accountId.not_isNothing, h.tenantId.not_isNothing,
    h.paymentId.not_isNothing]

theorem requireRequest_typed {r : HostedRequest} (h : r.Typed) : requireRequest r = .ok () := by
  rw [requireRequest, Column.require]
  simp [h.merchantReference.not_isNothing, h.accountId.not_isNothing, h.tenantId.not_isNothing]

variable {t : Tables}

/-- A saved response takes the place of the one under its reference, or comes at the end. -/
theorem saveResponse_typed (hopen : t.isOpen = true) (hrows : ∀ r ∈ t.responses, r.Typed)
    {d : StoredResponse.Draft} (hd : d.Typed) (now : Instant) :
    ∃ r rows, t.saveResponse now d = .ok (r, { t with responses := rows }) ∧
      rows.map StoredResponse.timeless = Keyed.put StoredResponse.pspReference
        (t.responses.map StoredResponse.timeless) d.record := by
  have hrow (row : StoredResponse) := hd.setResponse row now
  have hanswer : { givenResponse now d with
      transactionId := some (givenResponse now d).transactionId.orNull } = givenResponse now d := by
    obtain ⟨v, hv, -⟩ := hd.transactionId
    rw [givenResponse, hv]
    rfl
  have hput := Keyed.map_put StoredResponse.pspReference StoredResponse.timeless_pspReference
    t.responses
  have hrequire (row : StoredResponse) :
      requireResponse (setResponse row (givenResponse now d)) = .ok () := by
    refine requireResponse_typed (StoredResponse.typed_timeless.mp ?_)
    rw [hrow]
    exact hd.record
  have hkey (row : StoredResponse) :
      (setResponse row (givenResponse now d)).pspReference = d.pspReference :=
    congrArg StoredResponse.pspReference (hrow row)
  unfold saveResponse
  simp only [enter_of_isOpen hopen, Column.bind_text hd.pspReference,
    changedBy_text hd.pspReference, hanswer, bind, Except.bind]
  cases hold : Keyed.find? StoredResponse.pspReference t.responses d.pspReference with
  | none =>
    simp only [hd.bind_responseTexts now, hrequire, claim_text hd.pspReference hold]
    refine ⟨_, _, rfl, ?_⟩
    have hfree : (setResponse (givenResponse now d) (givenResponse now d)).pspReference ∉
        t.responses.map StoredResponse.pspReference := by
      rw [hkey]
      exact Keyed.not_mem_of_find?_eq_none _ hold
    rw [← Keyed.put_eq_append _ hfree, hput, hrow]
  | some old =>
    by_cases hchanges : changesResponse old (givenResponse now d) = true
    · simp only [hchanges, hd.bind_responseTexts now, hrequire, if_true]
      refine ⟨_, _, rfl, ?_⟩
      rw [hput, hrow]
    · -- the row stays, and would have been written as it is
      obtain ⟨hmem, hfound⟩ := Keyed.find?_eq_some StoredResponse.pspReference hold
      have hsame := hd.unchanged (hrows old hmem) (Bool.eq_false_iff.mpr hchanges)
      simp only [hchanges]
      refine ⟨_, t.responses, rfl, ?_⟩
      rw [← hsame, Keyed.put_self]
      rw [StoredResponse.timeless_pspReference, hfound,
        Keyed.find?_map _ StoredResponse.timeless_pspReference, hold]
      rfl

/-- So does a saved hosted request. -/
theorem savePendingRequest_typed (hopen : t.isOpen = true) {d : HostedRequest.Draft} (hd : d.Typed)
    (now : Instant) :
    ∃ r rows, t.savePendingRequest now d = .ok (r, { t with pendingRequests := rows }) ∧
      rows.map HostedRequest.timeless = Keyed.put HostedRequest.merchantReference
        (t.pendingRequests.map HostedRequest.timeless) d.record := by
  have hrow (row : HostedRequest) := hd.setRequest row now
  have hput := Keyed.map_put HostedRequest.merchantReference
    HostedRequest.timeless_merchantReference t.pendingRequests
  have hrequire (row : HostedRequest) :
      requireRequest (setRequest row (givenRequest now d)) = .ok () := by
    refine requireRequest_typed (HostedRequest.typed_timeless.mp ?_)
    rw [hrow]
    exact hd.record
  have hkey (row : HostedRequest) :
      (setRequest row (givenRequest now d)).merchantReference = d.merchantReference :=
    congrArg HostedRequest.merchantReference (hrow row)
  unfold savePendingRequest
  simp only [enter_of_isOpen hopen, Column.bind_text hd.merchantReference,
    changedBy_text hd.merchantReference, hd.bind_requestTexts now, bind, Except.bind]
  cases hold :
      Keyed.find? HostedRequest.merchantReference t.pendingRequests d.merchantReference with
  | none =>
    simp only [hrequire, claim_text hd.merchantReference hold]
    refine ⟨_, _, rfl, ?_⟩
    have hfree : (setRequest (givenRequest now d) (givenRequest now d)).merchantReference ∉
        t.pendingRequests.map HostedRequest.merchantReference := by
      rw [hkey]
      exact Keyed.not_mem_of_find?_eq_none _ hold
    rw [← Keyed.put_eq_append _ hfree, hput, hrow]
  | some old =>
    simp only [hrequire]
    refine ⟨_, _, rfl, ?_⟩
    rw [hput, hrow]

theorem isFor_text {transactionId tenantId : Given} (h : transactionId.IsText)
    (h' : tenantId.IsText) (r : StoredResponse) :
    isFor transactionId tenantId r = MemoryStore.isFor transactionId tenantId r := by
  rw [Bool.eq_iff_iff, isFor, MemoryStore.isFor, Bool.and_eq_true, Bool.and_eq_true,
    Column.admits_text h, Column.admits_text h', beq_iff_eq, beq_iff_eq]

theorem updateMetadata_typed (hopen : t.isOpen = true) {e : Edit} (he : e.Typed) (now : Instant) :
    t.updateMetadata now e.transactionId e.changes e.tenantId =
      .ok (t.responses.any (MemoryStore.isFor e.transactionId e.tenantId),
        { t with responses := t.responses.map (·.edited now e) }) := by
  have hbind : Column.bind [e.transactionId, e.tenantId] = .ok () := by
    refine Column.bind_scalars ?_
    simp only [List.forall_mem_cons]
    exact ⟨.inl he.transactionId.isWord.orNull, .inl he.tenantId.isWord.orNull,
      List.forall_mem_nil _⟩
  have hrow : isFor e.transactionId e.tenantId = MemoryStore.isFor e.transactionId e.tenantId :=
    funext fun r => isFor_text he.transactionId he.tenantId r
  unfold updateMetadata
  simp only [enter_of_isOpen hopen, hbind, hrow, bind, Except.bind]
  rfl

theorem bind_entryValues {e : JournalEntry} (h : e.PartsTyped) :
    Column.bind (entryValues e) = .ok () := by
  have hamount (name : String) (hname : name = "value" ∨ name = "currency") :
      Column.IsScalar (JournalRow.part e.notice.amount name) := by
    cases hm : e.notice.amount with
    | none => exact .inl (.inl rfl)
    | some m =>
      obtain ⟨x, c, hvalue, -, hcurrency⟩ := h.notice.amount m hm
      rcases hname with rfl | rfl
      · rw [JournalRow.part, Option.bind_some, hvalue]
        exact .inr ⟨x, rfl⟩
      · rw [JournalRow.part, Option.bind_some, hcurrency]
        exact .inl (.inr ⟨c, rfl⟩)
  refine Column.bind_scalars ?_
  simp only [entryValues, List.forall_mem_cons]
  exact ⟨.inl h.ids.accountId.orNull, .inl h.ids.tenantId.orNull, .inl h.ids.paymentId.orNull,
    .inl h.ids.transactionId.orNull, .inl h.transactionType.orNull,
    .inl h.notice.pspReference.isWord.orNull, .inl h.notice.earlierReference,
    .inl h.notice.merchantReference, hamount _ (.inl rfl), hamount _ (.inr rfl),
    .inl h.notice.eventDate, .inl h.notice.merchantAccountCode, .inl h.notice.paymentMethod,
    .inl h.notice.reason, List.forall_mem_nil _⟩

/-- An entry becomes a row, at whatever time. -/
theorem appendJournal_partsTyped (hopen : t.isOpen = true) {e : JournalEntry} (h : e.PartsTyped) :
    t.appendJournal e =
      .ok (answeredEntry e, { t with journal := t.journal ++ [JournalRow.ofEntry e] }) := by
  have hrequire : Column.require "notification_journal"
      [("psp_reference", some (JournalRow.ofEntry e).pspReference)] = .ok () := by
    obtain ⟨s, hs⟩ := h.notice.pspReference
    rw [JournalRow.ofEntry, hs]
    rfl
  rw [appendJournal, enter_of_isOpen hopen]
  show (do
    Column.bind (entryValues e)
    Column.require "notification_journal"
      [("psp_reference", some (JournalRow.ofEntry e).pspReference)]
    pure (answeredEntry e, { t with journal := t.journal ++ [JournalRow.ofEntry e] })) = _
  rw [bind_entryValues h, hrequire]
  rfl

theorem appendJournal_typed (hopen : t.isOpen = true) {e : JournalEntry} (h : e.Typed) :
    t.appendJournal e =
      .ok (answeredEntry e, { t with journal := t.journal ++ [JournalRow.ofEntry e] }) :=
  appendJournal_partsTyped hopen h.parts

end Tables

/-! ## Both -/

theorem Json.TextMembers.put {m : Members} (h : TextMembers m) (name s : String) :
    TextMembers (m.put name (.text s)) := by
  induction m with
  | nil =>
    intro e he
    rw [List.mem_singleton.mp he]
    exact ⟨s, rfl⟩
  | cons first rest ih =>
    obtain ⟨n, v⟩ := first
    obtain ⟨hfirst, hrest⟩ := List.forall_mem_cons.mp h
    rw [Members.put]
    split
    · exact List.forall_mem_cons.mpr ⟨⟨s, rfl⟩, hrest⟩
    · exact List.forall_mem_cons.mpr ⟨hfirst, ih hrest⟩

theorem Json.TextMembers.update {m : Members} {changes : List (String × Given)}
    (h : TextMembers m) (hc : ∀ c ∈ changes, c.2.IsText) : TextMembers (m.update changes) := by
  induction changes generalizing m with
  | nil => exact h
  | cons c changes ih =>
    obtain ⟨⟨s, hs⟩, hrest⟩ := List.forall_mem_cons.mp hc
    have hcons : m.update (c :: changes) = (m.change c.1 c.2).update changes := rfl
    rw [hcons, hs]
    exact ih (h.put c.1 s) hrest

theorem StoredResponse.Typed.edited {r : StoredResponse} (h : r.Typed) {e : Edit} (he : e.Typed)
    (now : Instant) : (r.edited now e).Typed := by
  rw [StoredResponse.edited]
  split
  · obtain ⟨m, hm, htexts⟩ := h.additionalData
    refine { h with additionalData := ⟨_, rfl, ?_⟩ }
    rw [hm]
    exact htexts.update he.changes
  · exact h

theorem StoredResponse.timeless_edited (now : Instant) (e : Edit) (r : StoredResponse) :
    (r.edited now e).timeless = (r.timeless.edited now e).timeless := by
  have hfor : MemoryStore.isFor e.transactionId e.tenantId r.timeless =
      MemoryStore.isFor e.transactionId e.tenantId r := rfl
  rw [StoredResponse.edited, StoredResponse.edited, hfor]
  split
  · rfl
  · rfl

theorem JournalRow.accountId_ofEntry {e : JournalEntry} (h : e.Typed) :
    ((JournalRow.ofEntry e).accountId == .null) = !e.isCorrelated := by
  obtain ⟨v, hv, hword⟩ := h.ids.accountId
  rw [JournalRow.ofEntry, JournalEntry.isCorrelated, hv]
  show (Column.text v == .null) = !(some v != Given.null)
  rw [Column.text_word hword]
  rcases hword with rfl | ⟨s, rfl⟩
  · rfl
  · rfl

namespace MemoryStore

variable {s : MemoryStore} {t : Tables}

theorem mirrors_empty (scan : Scan) : ({} : MemoryStore).Mirrors { scan := scan } :=
  ⟨rfl, rfl, rfl, fun _ => rfl, rfl, List.forall_mem_nil _, List.forall_mem_nil _,
    List.forall_mem_nil _⟩

namespace Mirrors

theorem enter (h : s.Mirrors t) (op : StoreOperation) : s.enter op = .ok () := by
  rw [MemoryStore.enter, h.failures]

theorem rows_typed (h : s.Mirrors t) : ∀ r ∈ t.responses, r.Typed := by
  intro r hr
  have hmem : r.timeless ∈ s.responses.map StoredResponse.timeless := by
    rw [← h.responses]
    exact List.mem_map_of_mem hr
  obtain ⟨r', hr', htimeless⟩ := List.mem_map.mp hmem
  rw [← StoredResponse.typed_timeless, ← htimeless, StoredResponse.typed_timeless]
  exact h.responses_typed r' hr'

/-- A look-up of a response finds the same, apart from the times. -/
theorem getResponse (h : s.Mirrors t) {ref : Given} (href : ref.IsText) :
    ∃ r r', s.getResponse ref = .ok r ∧ t.getResponse ref = .ok r' ∧
      r'.map StoredResponse.timeless = r.map StoredResponse.timeless ∧
      ∀ x, r = some x → x.Typed := by
  refine ⟨s.findResponse ref, Keyed.find? StoredResponse.pspReference t.responses ref,
    ?_, ?_, ?_, ?_⟩
  · rw [MemoryStore.getResponse, h.enter]
    rfl
  · rw [Tables.getResponse, Tables.enter_of_isOpen h.isOpen, Column.bind_text href,
      Tables.lookUp_text href]
    rfl
  · have hkey := StoredResponse.timeless_pspReference
    rw [MemoryStore.findResponse, ← Keyed.find?_map _ hkey, ← Keyed.find?_map _ hkey, h.responses]
  · intro x hx
    exact h.responses_typed x (Keyed.find?_eq_some _ hx).1

/-- A look-up of a hosted request finds the same, apart from the time. -/
theorem getPendingRequest (h : s.Mirrors t) {ref : Given} (href : ref.IsText) :
    ∃ r r', s.getPendingRequest ref = .ok r ∧ t.getPendingRequest ref = .ok r' ∧
      r'.map HostedRequest.timeless = r.map HostedRequest.timeless ∧ ∀ x, r = some x → x.Typed := by
  refine ⟨s.findPendingRequest ref,
    Keyed.find? HostedRequest.merchantReference t.pendingRequests ref, ?_, ?_, ?_, ?_⟩
  · rw [MemoryStore.getPendingRequest, h.enter]
    rfl
  · rw [Tables.getPendingRequest, Tables.enter_of_isOpen h.isOpen, Column.bind_text href,
      Tables.lookUp_text href]
    rfl
  · have hkey := HostedRequest.timeless_merchantReference
    rw [MemoryStore.findPendingRequest, ← Keyed.find?_map _ hkey, ← Keyed.find?_map _ hkey,
      h.pendingRequests]
  · intro x hx
    exact h.pendingRequests_typed x (Keyed.find?_eq_some _ hx).1

/-- A response is saved in both. -/
theorem saveResponse (h : s.Mirrors t) {d : StoredResponse.Draft} (hd : d.Typed) (now : Instant) :
    ∃ r s' r' t', s.saveResponse now d = .ok (r, s') ∧ t.saveResponse now d = .ok (r', t') ∧
      s'.Mirrors t' ∧ s'.journal = s.journal := by
  obtain ⟨r', rows, ht, hrows⟩ := Tables.saveResponse_typed h.isOpen h.rows_typed hd now
  have hs : s.saveResponse now d = .ok (s.responseOf now d,
      { s with responses :=
          Keyed.put StoredResponse.pspReference s.responses (s.responseOf now d) }) := by
    rw [MemoryStore.saveResponse, h.enter]
    rfl
  refine ⟨_, _, r', _, hs, ht, { h with responses := ?_, responses_typed := ?_ }, rfl⟩
  · rw [hrows, h.responses, Keyed.map_put _ StoredResponse.timeless_pspReference]
    rfl
  · intro r hr
    rcases Keyed.mem_put _ hr with rfl | hr
    · exact StoredResponse.typed_timeless.mp hd.record
    · exact h.responses_typed r hr

theorem savePendingRequest (h : s.Mirrors t) {d : HostedRequest.Draft} (hd : d.Typed)
    (now : Instant) :
    ∃ r s' r' t', s.savePendingRequest now d = .ok (r, s') ∧
      t.savePendingRequest now d = .ok (r', t') ∧ s'.Mirrors t' ∧ s'.journal = s.journal := by
  obtain ⟨r', rows, ht, hrows⟩ := Tables.savePendingRequest_typed h.isOpen hd now
  have hs : s.savePendingRequest now d = .ok (requestOf now d,
      { s with pendingRequests :=
          Keyed.put HostedRequest.merchantReference s.pendingRequests (requestOf now d) }) := by
    rw [MemoryStore.savePendingRequest, h.enter]
    rfl
  refine ⟨_, _, r', _, hs, ht, { h with pendingRequests := ?_, pendingRequests_typed := ?_ }, rfl⟩
  · rw [hrows, h.pendingRequests, Keyed.map_put _ HostedRequest.timeless_merchantReference]
    rfl
  · intro r hr
    rcases Keyed.mem_put _ hr with rfl | hr
    · exact HostedRequest.typed_timeless.mp hd.record
    · exact h.pendingRequests_typed r hr

/-- The data of responses is changed in both. -/
theorem updateMetadata (h : s.Mirrors t) {e : Edit} (he : e.Typed) (now : Instant) :
    ∃ s' hit t', s.updateMetadata now e.transactionId e.changes e.tenantId = .ok s' ∧
      t.updateMetadata now e.transactionId e.changes e.tenantId = .ok (hit, t') ∧
      s'.Mirrors t' ∧ s'.journal = s.journal := by
  refine ⟨_, _, _, MemoryStore.updateMetadata_of_enter (h.enter _) now e,
    Tables.updateMetadata_typed h.isOpen he now,
    { h with responses := ?_, responses_typed := ?_ }, rfl⟩
  · -- what a response becomes, apart from the times, is a matter of what it was apart from them
    have hedited : StoredResponse.timeless ∘ StoredResponse.edited now e =
        (StoredResponse.timeless ∘ StoredResponse.edited now e) ∘ StoredResponse.timeless := by
      funext r
      exact StoredResponse.timeless_edited now e r
    calc (t.responses.map (StoredResponse.edited now e)).map StoredResponse.timeless
        = (t.responses.map StoredResponse.timeless).map
            (StoredResponse.timeless ∘ StoredResponse.edited now e) := by
          rw [List.map_map, List.map_map, ← hedited]
      _ = (s.responses.map StoredResponse.timeless).map
            (StoredResponse.timeless ∘ StoredResponse.edited now e) := by rw [h.responses]
      _ = (s.responses.map (StoredResponse.edited now e)).map StoredResponse.timeless := by
          rw [List.map_map, List.map_map, ← hedited]
  · intro r hr
    obtain ⟨r', hr', rfl⟩ := List.mem_map.mp hr
    exact (h.responses_typed r' hr').edited he now

/-- An entry is journaled in both. -/
theorem appendJournal (h : s.Mirrors t) {e : JournalEntry} (he : e.Typed) :
    ∃ e' t', s.appendJournal e = .ok (e, { s with journal := s.journal ++ [e] }) ∧
      t.appendJournal e = .ok (e', t') ∧ { s with journal := s.journal ++ [e] }.Mirrors t' := by
  refine ⟨_, _, ?_, Tables.appendJournal_typed h.isOpen he,
    { h with journal := ?_, journal_typed := ?_ }⟩
  · rw [MemoryStore.appendJournal, h.enter]
    rfl
  · rw [h.journal, List.map_append, List.map_singleton]
  · intro x hx
    rcases List.mem_append.mp hx with hx | hx
    · exact h.journal_typed x hx
    · rw [List.mem_singleton.mp hx]
      exact he

/-- As many records are counted. -/
theorem getStatistics (h : s.Mirrors t) :
    ∃ statistics, s.getStatistics = .ok statistics ∧ t.getStatistics = .ok statistics := by
  have hresponses : t.responses.length = s.responses.length := by
    simpa using congrArg List.length h.responses
  have hrequests : t.pendingRequests.length = s.pendingRequests.length := by
    simpa using congrArg List.length h.pendingRequests
  have huncorrelated : (t.journal.filter (·.accountId == .null)).length =
      (s.journal.filter (!·.isCorrelated)).length := by
    rw [h.journal, List.filter_map, List.length_map]
    congr 1
    refine List.filter_congr fun e he => ?_
    exact JournalRow.accountId_ofEntry (h.journal_typed e he)
  refine ⟨_, by rw [MemoryStore.getStatistics, h.enter]; rfl, ?_⟩
  rw [Tables.getStatistics, Tables.enter_of_isOpen h.isOpen, ← hresponses, ← hrequests,
    ← huncorrelated, h.journal, List.length_map]
  rfl

end Mirrors

end MemoryStore

end NoticeLedger
