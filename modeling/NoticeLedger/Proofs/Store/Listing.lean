import NoticeLedger.Proofs.Store.Mirror
import NoticeLedger.Proofs.Store.Paging

/-!
# NoticeLedger.Proofs.Store.Listing

Listings of the journal, part after part.

* `Store.Lists` — what the parts of a listing say, and what they hold one after another.
* `MemoryStore.listJournal_part`, `Tables.listJournal_part` — a part of what either store lists, and
  the whole of it (`lists`).
* `Mirrors.memory_lists`, `Mirrors.tables_list` — the parts of a store in memory say the same as
  those of tables that mirror it.
* `MemoryStore.listing_perm`, `Mirrors.listing_perm` — they hold the entries that are asked for, in
  tables as rows keep them.
* `MemoryStore.newestFirst_listing`, `Tables.newestFirst_listing` — the newest ones come first.
-/

namespace NoticeLedger

/-- The parts of a listing, as many as are asked for. -/
def Store.listParts (s : Store) (f : JournalFilter) (limit : Number) (count : Nat) :
    Except Failure (List (Page JournalEntry)) :=
  (List.range count).mapM fun k => s.listJournal f (Pagination.part k limit)

/-- Every part tells how many entries and how many parts there are, and the parts hold the entries
one after another. Where there are no entries the first part is asked for all the same. -/
def Store.Lists (s : Store) (f : JournalFilter) (limit : Number) (total count : Nat)
    (entries : List JournalEntry) : Prop :=
  ∃ pages, s.listParts f limit (max count 1) = .ok pages ∧
    (∀ page ∈ pages, page.total = Number.ofInt total ∧ page.totalPages = Number.ofInt count) ∧
    pages.flatMap Page.items = entries

/-! ## Parts of one list -/

theorem mapM_eq_ok {α β : Type} {f : α → Except Failure β} {g : α → β} {xs : List α}
    (h : ∀ x ∈ xs, f x = .ok (g x)) : xs.mapM f = .ok (xs.map g) := by
  induction xs with
  | nil => rfl
  | cons x xs ih =>
    obtain ⟨hx, hxs⟩ := List.forall_mem_cons.mp h
    rw [List.mapM_cons, hx, ih hxs]
    rfl

/-- A store lists entries if each part is one of them. -/
theorem Store.lists_of_parts {s : Store} {f : JournalFilter} {limit : Number} {l : Nat}
    {entries : List JournalEntry} (hl : limit.Limits l) (ht : entries.length < 2 ^ 53)
    (h : ∀ k, k * l ≤ entries.length → s.listJournal f (Pagination.part k limit) =
      .ok (Page.of ((entries.drop (k * l)).take l) entries.length (Pagination.part k limit))) :
    s.Lists f limit entries.length (partCount entries.length l) entries := by
  refine ⟨_, mapM_eq_ok fun k hk => h k (mul_le_of_lt_partCount (List.mem_range.mp hk)), ?_, ?_⟩
  · intro page hpage
    obtain ⟨k, -, rfl⟩ := List.mem_map.mp hpage
    exact ⟨rfl, Pagination.pageCount_part hl.counts ht⟩
  · rw [List.flatMap_map]
    exact flatMap_parts entries hl.pos

/-! ## Filters -/

namespace JournalFilter

theorem admits_column {asked : Given} (h : asked.orNull.IsWord) (value : Given) :
    admits ((asked.filter Json.isTruthy).map Column.text) value = admits asked value := by
  cases asked with
  | none => rfl
  | some v =>
    rcases h with h | ⟨s, h⟩
    · cases h
      rfl
    · cases h
      by_cases hs : s = ""
      · subst hs
        rfl
      · have htruthy : Json.isTruthy (.text s) = true := by simpa [Json.isTruthy] using hs
        rw [Option.filter_some, if_pos htruthy]
        rfl

theorem bound_typed {b : TimeBound} (h : b.Typed) (unknown : Instant) :
    Column.bound unknown b = b := by
  rcases h with rfl | ⟨t, rfl, ht⟩
  · rfl
  · rw [Column.bound, ht]

variable {f : JournalFilter}

/-- Rows are asked for as entries are. -/
theorem Typed.selects_kept (h : f.Typed) (e : JournalEntry) :
    (Tables.columnFilter f).selects e.kept = f.selects e := by
  simp only [selects, Tables.columnFilter, bound_typed h.fromDate, bound_typed h.toDate,
    admits_column h.pspReference, admits_column h.accountId]
  rfl

/-- A code that is a text, or none at all, is looked for. -/
theorem check_of_isWord (hcode : f.eventCode.orNull.IsWord) : f.check = .ok () := by
  rw [JournalFilter.check]
  cases hc : f.eventCode with
  | none => rfl
  | some v =>
    rw [hc] at hcode
    rcases hcode with hv | ⟨s, hv⟩
    · cases hv
      rfl
    · cases hv
      rfl

theorem Typed.check (h : f.Typed) : f.check = .ok () :=
  check_of_isWord h.eventCode

theorem Typed.bind_filterValues (h : f.Typed) : Column.bind (Tables.filterValues f) = .ok () := by
  refine Column.bind_scalars fun g hg => .inl ?_
  have hg := (List.mem_filter.mp hg).1
  simp only [List.mem_cons, List.not_mem_nil, or_false] at hg
  rcases hg with rfl | rfl
  · exact h.pspReference
  · exact h.accountId

end JournalFilter

/-! ## Listings -/

def JournalEntry.NewestFirst (entries : List JournalEntry) : Prop :=
  entries.Pairwise fun a b => b.recordedAt ≤ a.recordedAt

theorem Instant.le_trans {a b c : Instant} (hab : a ≤ b) (hbc : b ≤ c) : a ≤ c :=
  Int.le_trans hab hbc

theorem Instant.le_total (a b : Instant) : a ≤ b ∨ b ≤ a :=
  Int.le_total a.millis b.millis

theorem Instant.newest_trans {α : Type} (time : α → Instant) (a b c : α)
    (hab : decide (time b ≤ time a) = true) (hbc : decide (time c ≤ time b) = true) :
    decide (time c ≤ time a) = true :=
  decide_eq_true (le_trans (of_decide_eq_true hbc) (of_decide_eq_true hab))

theorem Instant.newest_total {α : Type} (time : α → Instant) (a b : α) :
    (decide (time b ≤ time a) || decide (time a ≤ time b)) = true := by
  rw [Bool.or_eq_true, decide_eq_true_iff, decide_eq_true_iff]
  exact le_total _ _

theorem JournalEntry.newestFirst_mergeSort (entries : List JournalEntry) :
    NewestFirst (entries.mergeSort fun a b => b.recordedAt ≤ a.recordedAt) :=
  (List.pairwise_mergeSort (Instant.newest_trans recordedAt) (Instant.newest_total recordedAt)
    entries).imp fun h => of_decide_eq_true h

namespace MemoryStore

theorem listing_perm (journal : List JournalEntry) (f : JournalFilter) :
    (listing journal f).Perm (journal.filter f.selects) :=
  (List.mergeSort_perm _ _).trans ((List.reverse_perm journal).filter _)

theorem newestFirst_listing (journal : List JournalEntry) (f : JournalFilter) :
    JournalEntry.NewestFirst (listing journal f) :=
  JournalEntry.newestFirst_mergeSort _

theorem length_listing_le (journal : List JournalEntry) (f : JournalFilter) :
    (listing journal f).length ≤ journal.length := by
  rw [(listing_perm journal f).length_eq]
  exact List.length_filter_le _ _

end MemoryStore

variable {s : MemoryStore} {t : Tables} {f : JournalFilter} {limit : Number} {l : Nat}

namespace MemoryStore

theorem listJournal_part (henter : s.enter .listJournal = .ok ()) (hf : f.check = .ok ())
    (hl : limit.Limits l) (hs : s.journal.length < Number.maxSafe) {k : Nat}
    (hk : k * l ≤ (listing s.journal f).length) :
    s.listJournal f (Pagination.part k limit) =
      .ok (Page.of (((listing s.journal f).drop (k * l)).take l) (listing s.journal f).length
        (Pagination.part k limit)) := by
  have hlength := length_listing_le s.journal f
  rw [Number.maxSafe, Nat.pow_eq] at hs
  rw [listJournal, henter, hf]
  show Except.ok (Page.ofListing (listing s.journal f) (Pagination.part k limit)) = _
  rw [Page.ofListing, Page.slice_part hl.counts (by omega) hk]

/-- A store in memory that works lists its journal. -/
theorem lists (henter : s.enter .listJournal = .ok ()) (hf : f.check = .ok ())
    (hl : limit.Limits l) (hs : s.journal.length < Number.maxSafe) :
    (Store.memory s).Lists f limit (listing s.journal f).length
      (partCount (listing s.journal f).length l) (listing s.journal f) := by
  have hlength := length_listing_le s.journal f
  have hshort := hs
  rw [Number.maxSafe, Nat.pow_eq] at hshort
  exact Store.lists_of_parts hl (by omega) fun k hk => listJournal_part henter hf hl hs hk

end MemoryStore

namespace Tables

theorem newestFirst_listing (t : Tables) (f : JournalFilter) :
    JournalEntry.NewestFirst (t.listing f) :=
  JournalEntry.newestFirst_mergeSort _

/-- Rows are read, looked through and sorted. -/
theorem listing_perm (t : Tables) (f : JournalFilter) :
    (t.listing f).Perm
      ((t.journal.map JournalRow.toEntry).filter (columnFilter f).selects) :=
  (List.mergeSort_perm _ _).trans (((t.scan.read_perm f t.journal).map _).filter _)

theorem length_listing_le (t : Tables) (f : JournalFilter) :
    (t.listing f).length ≤ t.journal.length := by
  rw [(t.listing_perm f).length_eq, ← List.length_map JournalRow.toEntry]
  exact List.length_filter_le _ _

theorem listJournal_part (hopen : t.isOpen = true) (hf : f.check = .ok ())
    (hbind : Column.bind (filterValues f) = .ok ()) (hl : limit.Limits l)
    (ht : t.journal.length < Number.maxSafe) {k : Nat} (hk : k * l ≤ (t.listing f).length) :
    t.listJournal f (Pagination.part k limit) =
      .ok (Page.of (((t.listing f).drop (k * l)).take l) (t.listing f).length
        (Pagination.part k limit)) := by
  have hlength := t.length_listing_le f
  rw [Number.maxSafe, Nat.pow_eq] at ht
  have hstart : (Pagination.part k limit).start ≠ .nan := by
    rw [Pagination.start_part hl.counts (by omega)]
    exact nofun
  rw [listJournal, hf]
  show (do
    if (Pagination.part k limit).start = Number.nan then
      throw (Failure.refusedStatement .startNotNumber)
    t.enter
    Column.bind (filterValues f)
    pure (Page.of (← cut (t.listing f) (Pagination.part k limit)) (t.listing f).length
      (Pagination.part k limit))) = _
  rw [if_neg hstart, enter_of_isOpen hopen, hbind]
  show (do
    pure (Page.of (← cut (t.listing f) (Pagination.part k limit)) (t.listing f).length
      (Pagination.part k limit))) = _
  rw [cut_part hl (by omega) hk]
  rfl

theorem lists (hopen : t.isOpen = true) (hf : f.check = .ok ())
    (hbind : Column.bind (filterValues f) = .ok ()) (hl : limit.Limits l)
    (ht : t.journal.length < Number.maxSafe) :
    (Store.relational t).Lists f limit (t.listing f).length (partCount (t.listing f).length l)
      (t.listing f) := by
  have hlength := t.length_listing_le f
  have hshort := ht
  rw [Number.maxSafe, Nat.pow_eq] at hshort
  exact Store.lists_of_parts hl (by omega) fun k hk => listJournal_part hopen hf hbind hl ht hk

end Tables

namespace MemoryStore

/-- Rows are found for the entries that are found, whatever the order in which they are read. -/
theorem Mirrors.listing_perm (h : s.Mirrors t) (hf : f.Typed) :
    (t.listing f).Perm ((MemoryStore.listing s.journal f).map JournalEntry.kept) := by
  have hentries : t.journal.map JournalRow.toEntry = s.journal.map JournalEntry.kept := by
    rw [h.journal, List.map_map]
    exact List.map_congr_left fun e he => (h.journal_typed e he).toEntry_ofEntry
  have hselects : (Tables.columnFilter f).selects ∘ JournalEntry.kept = f.selects :=
    funext hf.selects_kept
  have hrows := t.listing_perm f
  rw [hentries, List.filter_map, hselects] at hrows
  exact hrows.trans ((MemoryStore.listing_perm s.journal f).map _).symm

/-- What a store in memory lists. -/
theorem Mirrors.memory_lists (h : s.Mirrors t) (hf : f.Typed) (hl : limit.Limits l)
    (hs : s.journal.length < Number.maxSafe) :
    (Store.memory s).Lists f limit (MemoryStore.listing s.journal f).length
      (partCount (MemoryStore.listing s.journal f).length l) (MemoryStore.listing s.journal f) :=
  MemoryStore.lists (h.enter _) hf.check hl hs

theorem Mirrors.tables_list (h : s.Mirrors t) (hf : f.Typed) (hl : limit.Limits l)
    (hs : s.journal.length < Number.maxSafe) :
    (Store.relational t).Lists f limit (MemoryStore.listing s.journal f).length
      (partCount (MemoryStore.listing s.journal f).length l) (t.listing f) := by
  have hrows : (t.listing f).length = (MemoryStore.listing s.journal f).length := by
    rw [(h.listing_perm hf).length_eq, List.length_map]
  have hcount : t.journal.length = s.journal.length := by
    rw [h.journal, List.length_map]
  rw [← hrows]
  exact Tables.lists h.isOpen hf.check hf.bind_filterValues hl (hcount ▸ hs)

end MemoryStore

end NoticeLedger
