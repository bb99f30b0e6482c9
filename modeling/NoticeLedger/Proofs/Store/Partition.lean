import NoticeLedger.Proofs.Rehearsal.Course
import NoticeLedger.Proofs.Store.Listing

/-!
# NoticeLedger.Proofs.Store.Partition

Listings of a journal in memory, entry by entry and page by page.

* `JournalFilter.Matches f e` — the entry has what the filter asks for (`selects_iff`).
* `JournalFilter.Orders f entries places` — the places of those entries, the newest first, and of
  entries of one time the one that was added last.
* `pairwise_mergeSort_stable` — sorting keeps the order of what it does not tell apart.
* `MemoryStore.listJournal_numbered` — what a page of a listing says and holds.
* `MemoryStore.Paginates` — what all of them do (`MemoryStore.paginates`).
* `MemoryStore.appendAll` — entries are added one after another (`appendAll_eq`).
* `MemoryStore.listJournal_partition` — the pages of the journal part the entries asked for.
-/

namespace NoticeLedger

/-! ## What is asked for -/

/-- A filter by texts, and by times of any kind. -/
structure JournalFilter.ByTexts (f : JournalFilter) : Prop where
  pspReference : f.pspReference.orNull.IsWord
  accountId : f.accountId.orNull.IsWord
  eventCode : f.eventCode.orNull.IsWord

/-- What a filter asks for. A text that is empty asks for nothing, and a time that is none admits
no entry. -/
structure JournalFilter.Matches (f : JournalFilter) (e : JournalEntry) : Prop where
  pspReference : ∀ s, f.pspReference = .text s → s ≠ "" → e.notice.pspReference = .text s
  accountId : ∀ s, f.accountId = .text s → s ≠ "" → e.ids.accountId = .text s
  eventCode : ∀ s, f.eventCode = .text s → s ≠ "" → e.notice.eventCode = Text.upper s
  fromDate : f.fromDate = .unlimited ∨ ∃ t, f.fromDate = .instant t ∧ t ≤ e.recordedAt
  toDate : f.toDate = .unlimited ∨ ∃ t, f.toDate = .instant t ∧ e.recordedAt ≤ t

namespace JournalFilter

theorem admits_iff {asked value : Given} (h : asked.orNull.IsWord) :
    admits asked value = true ↔ ∀ s, asked = .text s → s ≠ "" → value = .text s := by
  cases asked with
  | none => exact ⟨fun _ => nofun, fun _ => rfl⟩
  | some v =>
    obtain h | ⟨s, h⟩ := h
    · cases h
      exact ⟨fun _ => nofun, fun _ => rfl⟩
    · cases h
      simp [admits, Given.isTruthy, Given.text, Json.isTruthy, or_iff_not_imp_left]

theorem admitsCode_iff {asked : Given} {code : String} :
    admitsCode asked code = true ↔ ∀ s, asked = .text s → s ≠ "" → code = Text.upper s := by
  unfold admitsCode
  split
  · rename_i s
    simp [Given.text, or_iff_not_imp_left]
  · rename_i hne
    exact ⟨fun _ s hs => absurd hs (hne s), fun _ => rfl⟩

theorem isBefore_iff {b : TimeBound} {t : Instant} :
    b.isBefore t = true ↔ b = .unlimited ∨ ∃ start, b = .instant start ∧ start ≤ t := by
  cases b <;> simp [TimeBound.isBefore]

theorem isAfter_iff {b : TimeBound} {t : Instant} :
    b.isAfter t = true ↔ b = .unlimited ∨ ∃ stop, b = .instant stop ∧ t ≤ stop := by
  cases b <;> simp [TimeBound.isAfter]

theorem selects_iff {f : JournalFilter} (h : f.ByTexts) (e : JournalEntry) :
    f.selects e = true ↔ f.Matches e := by
  rw [selects, Bool.and_eq_true, Bool.and_eq_true, Bool.and_eq_true, Bool.and_eq_true,
    admits_iff h.pspReference, admits_iff h.accountId, admitsCode_iff, isBefore_iff, isAfter_iff]
  constructor
  · rintro ⟨⟨⟨⟨href, haccount⟩, hcode⟩, hfrom⟩, hto⟩
    exact ⟨href, haccount, hcode, hfrom, hto⟩
  · rintro ⟨href, haccount, hcode, hfrom, hto⟩
    exact ⟨⟨⟨⟨href, haccount⟩, hcode⟩, hfrom⟩, hto⟩

/-- The places of the entries that a filter asks for, in the order in which they are listed. -/
structure Orders (f : JournalFilter) (entries : List JournalEntry)
    (places : List (Fin entries.length)) : Prop where
  nodup : places.Nodup
  mem_iff : ∀ i, i ∈ places ↔ f.Matches entries[i]
  newestFirst : places.Pairwise fun i j => entries[j].recordedAt ≤ entries[i].recordedAt ∧
    (entries[i].recordedAt = entries[j].recordedAt → j < i)

end JournalFilter

/-! ## Sorting -/

/-- Sorting keeps the order of what it does not tell apart. -/
theorem pairwise_mergeSort_stable {α : Type} {le : α → α → Bool} {R : α → α → Prop} {l : List α}
    (htrans : ∀ a b c, le a b = true → le b c = true → le a c = true)
    (htotal : ∀ a b, (le a b || le b a) = true) (h : l.Pairwise R) :
    (l.mergeSort le).Pairwise fun a b => le a b = true ∧ (le b a = true → R a b) := by
  -- every item is sorted with its place behind it
  have hsorted := List.pairwise_mergeSort (List.zipIdxLE_trans htrans)
    (List.zipIdxLE_total htotal) l.zipIdx
  have hperm := List.mergeSort_perm l.zipIdx (List.zipIdxLE le)
  have hplaces : (l.zipIdx.mergeSort (List.zipIdxLE le)).Pairwise fun a b => a.2 ≠ b.2 := by
    rw [← List.pairwise_map (f := Prod.snd) (R := (· ≠ ·))]
    exact (hperm.map Prod.snd).nodup_iff.mpr (List.nodup_zipIdx_map_snd l)
  rw [← List.mergeSort_zipIdx, List.pairwise_map]
  refine (hsorted.and hplaces).imp_of_mem fun {a b} ha hb hab => ?_
  obtain ⟨hle, hne⟩ := hab
  rw [hperm.mem_iff, List.mem_zipIdx_iff_getElem?, List.getElem?_eq_some_iff] at ha hb
  obtain ⟨ha, ha'⟩ := ha
  obtain ⟨hb, hb'⟩ := hb
  rw [List.zipIdxLE] at hle
  split at hle
  · rename_i hle'
    refine ⟨hle', fun hback => ?_⟩
    rw [if_pos hback, decide_eq_true_iff] at hle
    have := List.pairwise_iff_getElem.mp h a.2 b.2 ha hb (by omega)
    rwa [ha', hb'] at this
  · exact nomatch hle

namespace MemoryStore

variable {s : MemoryStore} {f : JournalFilter} {limit : Number} {l : Nat}

/-- A listing has the entries asked for, in their order. -/
theorem listing_orders (entries : List JournalEntry) (hf : f.ByTexts) :
    ∃ places, f.Orders entries places ∧ listing entries f = places.map fun i => entries[i] := by
  let time (i : Fin entries.length) : Instant := entries[i].recordedAt
  let newer (i j : Fin entries.length) : Bool := time j ≤ time i
  let asked := (List.finRange entries.length).reverse.filter fun i => f.selects entries[i]
  have hperm : (asked.mergeSort newer).Perm asked := List.mergeSort_perm _ _
  have hlast : asked.Pairwise fun i j => j < i := by
    refine List.Pairwise.filter _ ?_
    rw [List.pairwise_reverse]
    exact List.pairwise_lt_finRange _
  refine ⟨asked.mergeSort newer, ⟨?_, fun i => ?_, ?_⟩, ?_⟩
  · exact hperm.nodup_iff.mpr (hlast.imp fun h => h.ne')
  · rw [hperm.mem_iff, List.mem_filter, List.mem_reverse, JournalFilter.selects_iff hf]
    exact and_iff_right (List.mem_finRange i)
  · refine (pairwise_mergeSort_stable (Instant.newest_trans time) (Instant.newest_total time)
      hlast).imp fun ⟨hle, hstable⟩ => ?_
    refine ⟨of_decide_eq_true hle, fun heq => hstable (decide_eq_true ?_)⟩
    exact Int.le_of_eq (congrArg Instant.millis heq)
  · have hasked : entries.reverse.filter f.selects = asked.map fun i => entries[i] := by
      conv_lhs => rw [← List.map_getElem_finRange entries]
      rw [← List.map_reverse, List.filter_map]
      rfl
    rw [listing, hasked]
    exact (List.map_mergeSort (f := fun i : Fin entries.length => entries[i])
      fun _ _ _ _ => rfl).symm

/-! ## Pages -/

/-- The pages of a listing. Every page that is asked for by a whole number from one on tells how
many entries and how many pages there are, whether there is such a page or not; `items` has the
entries of each page by its place, counted from zero. -/
structure Paginates (s : MemoryStore) (f : JournalFilter) (limit : Number) (l : Nat)
    (listed : List JournalEntry) (count : Nat) (items : Nat → List JournalEntry) : Prop where
  answered : ∀ x k, x.toInt? = some ((k + 1 : Nat) : Int) →
    ∃ page, s.listJournal f (.numbered x limit) = .ok page ∧ page.items = items k ∧
      page.total.toInt? = some (listed.length : Int) ∧ page.totalPages.toInt? = some (count : Int)
  joined : (List.range count).flatMap items = listed
  full : ∀ k, k + 1 < count → (items k).length = l
  last : ∀ k, k + 1 = count → 1 ≤ (items k).length ∧ (items k).length ≤ l
  beyond : ∀ k, count ≤ k → items k = []
  none : count = 0 ↔ listed = []

/-- A page of what a store in memory lists, whichever page it is. -/
theorem listJournal_numbered (hs : s.enter .listJournal = .ok ()) (hf : f.ByTexts)
    (hl : limit.Counts l) (hshort : s.journal.length < Number.maxSafe) {x : Number} {k : Nat}
    (hx : x.toInt? = some ((k + 1 : Nat) : Int)) :
    ∃ page, s.listJournal f (.numbered x limit) = .ok page ∧
      page.items = ((listing s.journal f).drop (k * l)).take l ∧
      page.total.toInt? = some ((listing s.journal f).length : Int) ∧
      page.page = some (.number x) ∧ page.limit = some (.number limit) ∧
      page.totalPages.toInt? = some (partCount (listing s.journal f).length l : Int) := by
  have hlength := length_listing_le s.journal f
  rw [Number.maxSafe, Nat.pow_eq] at hshort
  generalize hlisted : listing s.journal f = listed at hlength
  have hcount : partCount listed.length l ≤ listed.length := partCount_le hl.pos
  refine ⟨Page.ofListing listed (.numbered x limit), ?_, ?_, ?_, rfl, rfl, ?_⟩
  · rw [listJournal, hs, JournalFilter.check_of_isWord hf.eventCode, ← hlisted]
    rfl
  · exact Page.slice_numbered hl (by omega) hx
  · exact Number.toInt?_ofInt (by omega)
  · show ((Pagination.part k limit).pageCount (Number.ofInt listed.length)).toInt? = _
    rw [Pagination.pageCount_part hl (by omega), Number.toInt?_ofInt (by omega)]

theorem paginates (hs : s.enter .listJournal = .ok ()) (hf : f.ByTexts) (hl : limit.Counts l)
    (hshort : s.journal.length < Number.maxSafe) :
    s.Paginates f limit l (listing s.journal f) (partCount (listing s.journal f).length l)
      fun k => ((listing s.journal f).drop (k * l)).take l := by
  refine ⟨fun x k hx => ?_, ?_, fun k => length_part hl.pos, fun k => length_last_part hl.pos,
    fun k => part_beyond hl.pos, ?_⟩
  · obtain ⟨page, hpage, hitems, htotal, -, -, hpages⟩ :=
      listJournal_numbered hs hf hl hshort hx
    exact ⟨page, hpage, hitems, htotal, hpages⟩
  · rw [flatMap_range_parts, List.take_of_length_le (le_partCount_mul hl.pos)]
  · rw [partCount_eq_zero_iff hl.pos, List.length_eq_zero_iff]

/-! ## Journals -/

/-- Entries are added one after another. -/
def appendAll (s : MemoryStore) : List JournalEntry → Except Failure MemoryStore
  | [] => .ok s
  | e :: entries => do
    let (_, s) ← s.appendJournal e
    s.appendAll entries

theorem appendJournal_eq (hs : s.enter .appendJournal = .ok ()) (e : JournalEntry) :
    s.appendJournal e = .ok (e, { s with journal := s.journal ++ [e] }) := by
  rw [appendJournal, hs]
  rfl

theorem appendAll_eq {entries : List JournalEntry} (hs : s.enter .appendJournal = .ok ()) :
    s.appendAll entries = .ok { s with journal := s.journal ++ entries } := by
  induction entries generalizing s with
  | nil => rw [appendAll, List.append_nil]
  | cons e entries ih =>
    rw [appendAll, appendJournal_eq hs]
    have hrest := ih (s := { s with journal := s.journal ++ [e] }) hs
    rw [List.append_assoc] at hrest
    exact hrest

/-- **The pages of a journal part the entries that are asked for.** The entries that a filter asks
for are listed once each, the newest first, and of entries of one time the one that was added last.
Whatever number of entries a page is to have, the pages hold them in this order, all but the last
are full, and the last holds an entry at least. A list holds fewer entries than the greatest
amount. -/
theorem listJournal_partition {entries : List JournalEntry}
    (hentries : entries.length < Number.maxSafe) (hf : f.ByTexts) (hl : limit.Counts l) :
    ∃ s places count items, appendAll {} entries = .ok s ∧ f.Orders entries places ∧
      s.Paginates f limit l (places.map fun i => entries[i]) count items := by
  have hadded : appendAll {} entries = .ok { journal := entries } := appendAll_eq rfl
  obtain ⟨places, hplaces, hlisting⟩ := listing_orders entries hf
  have hpages :
      ({ journal := entries } : MemoryStore).Paginates f limit l (listing entries f) _ _ :=
    paginates rfl hf hl hentries
  rw [hlisting] at hpages
  exact ⟨_, places, _, _, hadded, hplaces, hpages⟩

end MemoryStore

namespace Sample

def recorded : List JournalEntry :=
  [authorisation.entry {} ⟨1⟩, authorisation.entry {} ⟨0⟩, authorisation.entry {} ⟨1⟩]

end Sample

/-- Three entries in pages of two, asked for in lower case. -/
theorem MemoryStore.listJournal_partition_recorded :
    ∃ s places count items, appendAll {} Sample.recorded = .ok s ∧
      ({ eventCode := .text "authorisation" } : JournalFilter).Orders Sample.recorded places ∧
      s.Paginates { eventCode := .text "authorisation" } (.ofInt 2) 2
        (places.map fun i => Sample.recorded[i]) count items :=
  listJournal_partition (by decide) ⟨.inl rfl, .inl rfl, .inr ⟨_, rfl⟩⟩
    ⟨by decide +kernel, by decide, by omega⟩

end NoticeLedger
