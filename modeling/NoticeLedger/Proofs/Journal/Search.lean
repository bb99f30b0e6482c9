import NoticeLedger.Proofs.Notice.Canonical
import NoticeLedger.Proofs.Rehearsal.Frame
import NoticeLedger.Proofs.Store.Partition

/-!
# NoticeLedger.Proofs.Journal.Search

Entries that are looked for by their codes.

* `Store.journal` — the entries that a store of either kind gives back; one that is appended comes
  last (`Store.journal_appendJournal`).
* `Store.Changes` — one change of the records. It adds entries or leaves them as they are
  (`Changes.journal`), and so does any number of changes (`journal_of_changes`).
* `Store.listJournal_coded` — what is listed for a code, if there is room for all of it.
* `Store.listJournal_as_sent` — an entry is listed for the code as it was sent, unless blanks around
  that were cut off.
-/

namespace NoticeLedger

namespace JournalFilter

def coded (code : String) : JournalFilter where
  eventCode := .text code

theorem coded_selects_iff {code : String} {e : JournalEntry} :
    (coded code).selects e = true ↔ code = "" ∨ e.notice.eventCode = Text.upper code := by
  have hselects : (coded code).selects e =
      (code == "" || e.notice.eventCode == Text.upper code) := by
    simp [selects, coded, admits, admitsCode, Given.text, Given.isTruthy, TimeBound.isBefore,
      TimeBound.isAfter]
  rw [hselects, Bool.or_eq_true, beq_iff_eq, beq_iff_eq]

end JournalFilter

namespace Tables

variable {t t' : Tables} {now : Instant}

theorem saveResponse_journal {d : StoredResponse.Draft} {r : StoredResponse}
    (h : t.saveResponse now d = .ok (r, t')) : t'.journal = t.journal := by
  rw [saveResponse] at h
  obtain ⟨-, -, h⟩ := bind_eq_ok h
  obtain ⟨-, -, h⟩ := bind_eq_ok h
  dsimp only at h
  split at h
  · obtain ⟨-, -, h⟩ := bind_eq_ok h
    obtain ⟨-, -, h⟩ := bind_eq_ok h
    obtain ⟨-, -, h⟩ := bind_eq_ok h
    cases h
    rfl
  · split at h
    · obtain ⟨-, -, h⟩ := bind_eq_ok h
      obtain ⟨-, -, h⟩ := bind_eq_ok h
      cases h
      rfl
    · cases h
      rfl

theorem savePendingRequest_journal {d : HostedRequest.Draft} {r : HostedRequest}
    (h : t.savePendingRequest now d = .ok (r, t')) : t'.journal = t.journal := by
  rw [savePendingRequest] at h
  obtain ⟨-, -, h⟩ := bind_eq_ok h
  obtain ⟨-, -, h⟩ := bind_eq_ok h
  obtain ⟨-, -, h⟩ := bind_eq_ok h
  dsimp only at h
  split at h
  · obtain ⟨-, -, h⟩ := bind_eq_ok h
    obtain ⟨-, -, h⟩ := bind_eq_ok h
    cases h
    rfl
  · obtain ⟨-, -, h⟩ := bind_eq_ok h
    cases h
    rfl

theorem updateMetadata_journal {transactionId tenantId : Given} {changes : List (String × Given)}
    {hit : Bool} (h : t.updateMetadata now transactionId changes tenantId = .ok (hit, t')) :
    t'.journal = t.journal := by
  rw [updateMetadata] at h
  obtain ⟨-, -, h⟩ := bind_eq_ok h
  obtain ⟨-, -, h⟩ := bind_eq_ok h
  cases h
  rfl

end Tables

namespace Store

variable {s s' : Store} {e answer : JournalEntry}

/-- An entry as a store of this kind gives it back. -/
def givenBack (s : Store) (e : JournalEntry) : JournalEntry :=
  match s with
  | memory _ => e
  | relational _ => (JournalRow.ofEntry e).toEntry

/-- The entries that a store gives back, in the order in which they came. -/
def journal (s : Store) : List JournalEntry :=
  match s with
  | memory m => m.journal
  | relational t => t.journal.map JournalRow.toEntry

/-- The journal of a store can be listed. -/
def CanList (s : Store) : Prop :=
  match s with
  | memory m => m.enter .listJournal = .ok ()
  | relational t => t.isOpen = true

theorem givenBack_eventCode (s : Store) (e : JournalEntry) :
    (s.givenBack e).notice.eventCode = e.notice.eventCode := by
  cases s with
  | memory m => rfl
  | relational t => rfl

/-! ## Changes -/

/-- The records of a store are changed. -/
inductive Changes (s : Store) : Store → Prop where
  | response {now : Instant} {d : StoredResponse.Draft} {r : StoredResponse} {s' : Store} :
    s.saveResponse now d = .ok (r, s') → Changes s s'
  | request {now : Instant} {d : HostedRequest.Draft} {r : HostedRequest} {s' : Store} :
    s.savePendingRequest now d = .ok (r, s') → Changes s s'
  | metadata {now : Instant} {transactionId tenantId : Given} {changes : List (String × Given)}
    {hit : Bool} {s' : Store} :
    s.updateMetadata now transactionId changes tenantId = .ok (hit, s') → Changes s s'
  | entry {e answer : JournalEntry} {s' : Store} :
    s.appendJournal e = .ok (answer, s') → Changes s s'

theorem journal_appendJournal (h : s.appendJournal e = .ok (answer, s')) :
    s'.journal = s.journal ++ [s.givenBack e] := by
  cases s with
  | memory m =>
    obtain ⟨⟨e', m'⟩, hm, heq⟩ := map_eq_ok h
    cases heq
    cases (MemoryStore.enter_bind_ok hm).2
    rfl
  | relational t =>
    obtain ⟨⟨e', t'⟩, ht, heq⟩ := map_eq_ok h
    cases heq
    rw [Tables.appendJournal] at ht
    obtain ⟨-, -, ht⟩ := bind_eq_ok ht
    obtain ⟨-, -, ht⟩ := bind_eq_ok ht
    obtain ⟨-, -, ht⟩ := bind_eq_ok ht
    cases ht
    show (t.journal ++ [JournalRow.ofEntry e]).map JournalRow.toEntry = _
    rw [List.map_append]
    rfl

theorem saveResponse_journal {now : Instant} {d : StoredResponse.Draft} {r : StoredResponse}
    (h : s.saveResponse now d = .ok (r, s')) : s'.journal = s.journal := by
  cases s with
  | memory m =>
    obtain ⟨⟨_, m'⟩, hm, heq⟩ := map_eq_ok h
    cases heq
    exact (MemoryStore.saveResponse_keeps hm).journal
  | relational t =>
    obtain ⟨⟨_, t'⟩, ht, heq⟩ := map_eq_ok h
    cases heq
    exact congrArg (List.map JournalRow.toEntry) (Tables.saveResponse_journal ht)

theorem savePendingRequest_journal {now : Instant} {d : HostedRequest.Draft} {r : HostedRequest}
    (h : s.savePendingRequest now d = .ok (r, s')) : s'.journal = s.journal := by
  cases s with
  | memory m =>
    obtain ⟨⟨_, m'⟩, hm, heq⟩ := map_eq_ok h
    cases heq
    cases (MemoryStore.enter_bind_ok hm).2
    rfl
  | relational t =>
    obtain ⟨⟨_, t'⟩, ht, heq⟩ := map_eq_ok h
    cases heq
    exact congrArg (List.map JournalRow.toEntry) (Tables.savePendingRequest_journal ht)

theorem updateMetadata_journal {now : Instant} {transactionId tenantId : Given}
    {changes : List (String × Given)} {hit : Bool}
    (h : s.updateMetadata now transactionId changes tenantId = .ok (hit, s')) :
    s'.journal = s.journal := by
  cases s with
  | memory m =>
    obtain ⟨m', hm, heq⟩ := map_eq_ok h
    cases heq
    exact (MemoryStore.updateMetadata_keeps hm).journal
  | relational t =>
    obtain ⟨⟨_, t'⟩, ht, heq⟩ := map_eq_ok h
    cases heq
    exact congrArg (List.map JournalRow.toEntry) (Tables.updateMetadata_journal ht)

/-- A change adds to the journal, or leaves it as it is. -/
theorem Changes.journal (h : s.Changes s') : s.journal <+: s'.journal := by
  cases h with
  | response h => rw [saveResponse_journal h]
  | request h => rw [savePendingRequest_journal h]
  | metadata h => rw [updateMetadata_journal h]
  | entry h =>
    rw [journal_appendJournal h]
    exact List.prefix_append _ _

theorem journal_of_changes (h : Relation.ReflTransGen Changes s s') : s.journal <+: s'.journal := by
  induction h with
  | refl => exact List.prefix_rfl
  | tail _ hstep ih => exact ih.trans hstep.journal

/-! ## Searches -/

variable {limit : Number} {l : Nat}

/-- What is listed for a code, if there is room for the whole journal. -/
theorem listJournal_coded (hs : s.CanList) (hl : limit.Limits l) (hroom : s.journal.length ≤ l)
    (hshort : s.journal.length < Number.maxSafe) (code : String) :
    ∃ page, s.listJournal (.coded code) (.part 0 limit) = .ok page ∧
      page.items.Perm (s.journal.filter (JournalFilter.coded code).selects) := by
  have hcheck : (JournalFilter.coded code).check = .ok () := rfl
  cases s with
  | memory m =>
    have hlength := MemoryStore.length_listing_le m.journal (.coded code)
    have hpart := MemoryStore.listJournal_part hs hcheck hl hshort (k := 0) (by omega)
    rw [first_part (hlength.trans hroom)] at hpart
    exact ⟨_, hpart, MemoryStore.listing_perm _ _⟩
  | relational t =>
    rw [journal, List.length_map] at hroom hshort
    have hlength := t.length_listing_le (.coded code)
    have hpart := Tables.listJournal_part hs hcheck rfl hl hshort (k := 0) (by omega)
    rw [first_part (hlength.trans hroom)] at hpart
    exact ⟨_, hpart, t.listing_perm _⟩

/-- **An entry is found by its code as it was sent, but for blanks around that.** Whatever notice is
made and journaled in a store of either kind, and whatever else becomes of the records from then on:
a listing for the code that was sent, with room for the whole journal, has its entry exactly if no
blanks were cut off the code, and a listing for the code without them has it always. A list holds
fewer entries than the greatest amount. -/
theorem listJournal_as_sent {before after : Store} {d : Notice.Draft} {code : String}
    (hcode : d.eventCode = .text code) (hmade : Notice.create d = .ok e.notice)
    (happend : before.appendJournal e = .ok (answer, after))
    (hlater : Relation.ReflTransGen Changes after s) (hs : s.CanList) (hl : limit.Limits l)
    (hroom : s.journal.length ≤ l) (hshort : s.journal.length < Number.maxSafe) :
    ∃ sent trimmed, s.listJournal (.coded code) (.part 0 limit) = .ok sent ∧
      s.listJournal (.coded (Text.trim code)) (.part 0 limit) = .ok trimmed ∧
      (before.givenBack e ∈ sent.items ↔ Text.trim code = code) ∧
      before.givenBack e ∈ trimmed.items := by
  have hmem : before.givenBack e ∈ s.journal := by
    refine (journal_of_changes hlater).mem ?_
    rw [journal_appendJournal happend]
    exact List.mem_append_right _ (List.mem_singleton_self _)
  have hnotice : e.notice.eventCode = Text.canonical code := by
    obtain ⟨code', _, hcode', -, hnotice⟩ := Notice.create_eq_ok hmade
    rw [hcode] at hcode'
    cases hcode'
    rw [hnotice]
    rfl
  have hselects (asked : String) : before.givenBack e ∈
      s.journal.filter (JournalFilter.coded asked).selects ↔
        asked = "" ∨ Text.canonical code = Text.upper asked := by
    rw [List.mem_filter, JournalFilter.coded_selects_iff, givenBack_eventCode, hnotice]
    exact and_iff_right hmem
  obtain ⟨sent, hsent, hitems⟩ := listJournal_coded hs hl hroom hshort code
  obtain ⟨trimmed, htrimmed, hitems'⟩ := listJournal_coded hs hl hroom hshort (Text.trim code)
  refine ⟨sent, trimmed, hsent, htrimmed, ?_, ?_⟩
  · rw [hitems.mem_iff, hselects, eq_comm (a := Text.canonical code), Text.upper_eq_canonical_iff]
    refine or_iff_right_of_imp ?_
    rintro rfl
    rfl
  · rw [hitems'.mem_iff, hselects]
    exact .inr rfl

end Store

namespace Sample

/-- Properties whose code has blanks around it. -/
def spaced : Notice.Draft where
  eventCode := .text " capture "
  pspReference := .text "psp-1"

def spacedEntry : JournalEntry :=
  (Notice.made spaced " capture " none).entry {} ⟨0⟩

def emptyStores : List Store :=
  [.memory {}, .relational {}]

theorem spacedEntry_appended : ∀ s ∈ emptyStores, ∃ answer after,
    s.appendJournal spacedEntry = .ok (answer, after) ∧ after.CanList ∧
      after.journal = [s.givenBack spacedEntry] := by
  simp only [emptyStores, List.forall_mem_cons]
  exact ⟨⟨_, _, rfl, rfl, rfl⟩, ⟨_, _, rfl, rfl, rfl⟩, List.forall_mem_nil _⟩

end Sample

namespace Store

/-- An entry with blanks around its code, in tables in which it is journaled again. -/
theorem listJournal_as_sent_spaced : ∃ answer after answer' s,
    (Store.relational {}).appendJournal Sample.spacedEntry = .ok (answer, after) ∧
      after.appendJournal Sample.spacedEntry = .ok (answer', s) ∧
      ∃ sent trimmed, s.listJournal (.coded " capture ") (.part 0 (.ofInt 50)) = .ok sent ∧
        s.listJournal (.coded (Text.trim " capture ")) (.part 0 (.ofInt 50)) = .ok trimmed ∧
        ((Store.relational {}).givenBack Sample.spacedEntry ∈ sent.items ↔
          Text.trim " capture " = " capture ") ∧
        (Store.relational {}).givenBack Sample.spacedEntry ∈ trimmed.items :=
  ⟨_, _, _, _, rfl, rfl,
    listJournal_as_sent (d := Sample.spaced) (l := 50) rfl rfl rfl
      (.single (.entry (e := Sample.spacedEntry) rfl)) rfl
      ⟨by decide +kernel, by decide, by omega⟩ (by decide) (by decide)⟩

/-- Neither kind of store finds an entry by its code as it was sent with blanks around it, though
nothing else is journaled and there is room for fifty entries. -/
theorem not_every_code_as_sent :
    Notice.create Sample.spaced = .ok Sample.spacedEntry.notice ∧
      ∀ s ∈ Sample.emptyStores, ∃ answer after page,
        s.appendJournal Sample.spacedEntry = .ok (answer, after) ∧
        after.listJournal (.coded " capture ") (.part 0 (.ofInt 50)) = .ok page ∧
        page.items = [] := by
  refine ⟨rfl, fun s hs => ?_⟩
  obtain ⟨answer, after, happend, hlist, hjournal⟩ := Sample.spacedEntry_appended s hs
  have hone : after.journal.length = 1 := by rw [hjournal]; rfl
  obtain ⟨page, hpage, hitems⟩ := listJournal_coded hlist
    (⟨by decide +kernel, by decide, by omega⟩ : (Number.ofInt 50).Limits 50) (by omega)
    (by rw [hone]; decide) " capture "
  refine ⟨answer, after, page, happend, hpage, ?_⟩
  have hnone :
      (JournalFilter.coded " capture ").selects (s.givenBack Sample.spacedEntry) ≠ true := by
    rw [ne_eq, JournalFilter.coded_selects_iff, givenBack_eventCode]
    decide +kernel
  rw [hjournal, List.filter_cons_of_neg hnone, List.filter_nil] at hitems
  exact hitems.eq_nil

end Store

end NoticeLedger
