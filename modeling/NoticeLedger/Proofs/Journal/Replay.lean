import NoticeLedger.Proofs.Delivery.Interchange
import NoticeLedger.Proofs.Notice.Canonical

/-!
# NoticeLedger.Proofs.Journal.Replay

The journal keeps notices.

* `JournalEntry.Replays e n` — the properties of the entry are those of the notice, and make it
  again.
* `Store.Keeps` — an entry is appended, and from then on the listing has one more entry, which
  replays the notice that was journaled.
* `MemoryStore.keeps`, `Tables.keeps` — so it is in either store; tables give back an amount as far
  as their column does.
* `journal_replays` — both, for every notice that was made.
-/

namespace NoticeLedger

open scoped List

variable {n : Notice} {e : JournalEntry}

/-! ## Amounts -/

/-- An amount of a finite value in a currency, and nothing besides. -/
def Notice.AmountPlain (m : Members) : Prop :=
  ∃ x c, x.isFinite = true ∧ (m = [("value", .number x), ("currency", .text c)] ∨
    m = [("currency", .text c), ("value", .number x)])

theorem Notice.AmountPlain.kept {m : Members} (h : AmountPlain m)
    (hcolumn : ∀ x, m.get? "value" = some (.number x) → Column.written x = x) :
    (keptAmount m).Perm m := by
  obtain ⟨x, c, -, rfl | rfl⟩ := h
  · have hx := hcolumn x rfl
    have hkept : keptAmount [("value", .number x), ("currency", .text c)] =
        [("value", .number (Column.written x)), ("currency", .text c)] := rfl
    rw [hkept, hx]
  · have hx := hcolumn x rfl
    have hkept : keptAmount [("currency", .text c), ("value", .number x)] =
        [("value", .number (Column.written x)), ("currency", .text c)] := rfl
    rw [hkept, hx]
    exact .swap _ _ _

/-! ## Replays -/

/-- The entry has the properties of the notice. Made from them, the notice is the same again, and so
are what it is classified as, what it is journaled under and what it is correlated by. -/
structure JournalEntry.Replays (e : JournalEntry) (n : Notice) : Prop where
  properties : e.notice.toDraft.SameAs n.toDraft
  replayed : ∃ n', Notice.create e.notice.toDraft = .ok n' ∧ n'.SameAs n ∧
    n'.classification = n.classification ∧
    EventCode.journalIntent n'.eventCode = EventCode.journalIntent n.eventCode ∧
    n'.pspReference = n.pspReference ∧ n'.merchantReference = n.merchantReference ∧
    n'.earlierReference = n.earlierReference

theorem JournalEntry.replays (h : n.Canonical) (hsame : e.notice.SameAs n) : e.Replays n := by
  refine ⟨hsame.toDraft, e.notice, (h.of_sameAs hsame).create_toDraft, hsame, ?_⟩
  rw [hsame.2]
  exact ⟨rfl, rfl, rfl, rfl, rfl⟩

/-- What a row gives back replays the notice that was written. -/
theorem JournalEntry.replays_kept (h : e.notice.Canonical)
    (hplain : ∀ m, e.notice.amount = some m → Notice.AmountPlain m)
    (hcolumn : ∀ m x, e.notice.amount = some m → m.get? "value" = some (.number x) →
      Column.written x = x) (time : Instant) :
    ({ e.kept with recordedAt := time } : JournalEntry).Replays e.notice := by
  refine replays h ⟨?_, rfl⟩
  show Option.Rel List.Perm (e.notice.amount.map Notice.keptAmount) e.notice.amount
  cases hm : e.notice.amount with
  | none => exact .none
  | some m => exact .some ((hplain m hm).kept fun x => hcolumn m x hm)

/-! ## Stores -/

/-- An entry is appended. The listing has one more entry from then on, and that replays the notice;
all the others are listed as before. -/
def Store.Keeps (s : Store) (e : JournalEntry) : Prop :=
  ∃ answer after before listed kept, s.appendJournal e = .ok (answer, after) ∧
    (∀ limit l, limit.Limits l →
      s.Lists {} limit before.length (partCount before.length l) before ∧
      after.Lists {} limit listed.length (partCount listed.length l) listed) ∧
    listed.Perm (kept :: before) ∧ kept.Replays e.notice

theorem JournalFilter.selects_all (e : JournalEntry) : ({} : JournalFilter).selects e = true :=
  rfl

namespace MemoryStore

variable {s : MemoryStore}

theorem listing_all_perm (journal : List JournalEntry) : (listing journal {}).Perm journal := by
  have h := listing_perm journal {}
  rwa [List.filter_eq_self.mpr fun e _ => JournalFilter.selects_all e] at h

theorem keeps (happend : s.enter .appendJournal = .ok ()) (hlist : s.enter .listJournal = .ok ())
    (hroom : s.journal.length + 1 < Number.maxSafe) (h : e.notice.Canonical) :
    (Store.memory s).Keeps e := by
  have hmore : (s.journal ++ [e]).length < Number.maxSafe := by
    rw [List.length_append]
    exact hroom
  refine ⟨e, .memory { s with journal := s.journal ++ [e] }, listing s.journal {},
    listing (s.journal ++ [e]) {}, e, ?_, fun limit l hl => ?_, ?_,
    JournalEntry.replays h (.refl _)⟩
  · rw [Store.appendJournal, appendJournal, happend]
    rfl
  · exact ⟨lists hlist rfl hl (by omega), lists hlist rfl hl hmore⟩
  · calc listing (s.journal ++ [e]) {}
      _ ~ s.journal ++ [e] := listing_all_perm _
      _ ~ e :: s.journal := List.perm_append_singleton _ _
      _ ~ e :: listing s.journal {} := (listing_all_perm _).symm.cons e

end MemoryStore

namespace Tables

variable {t : Tables}

theorem listing_all_perm (t : Tables) :
    (t.listing {}).Perm (t.journal.map JournalRow.toEntry) := by
  have h := t.listing_perm {}
  have hall (e : JournalEntry) : (columnFilter {}).selects e = true := rfl
  rwa [List.filter_eq_self.mpr fun e _ => hall e] at h

theorem keeps (hopen : t.isOpen = true) (hroom : t.journal.length + 1 < Number.maxSafe)
    (h : e.notice.Canonical) (he : e.PartsTyped)
    (hplain : ∀ m, e.notice.amount = some m → Notice.AmountPlain m)
    (hcolumn : ∀ m x, e.notice.amount = some m → m.get? "value" = some (.number x) →
      Column.written x = x) :
    (Store.relational t).Keeps e := by
  let after : Tables := { t with journal := t.journal ++ [JournalRow.ofEntry e] }
  have hmore : after.journal.length < Number.maxSafe := by
    rw [List.length_append]
    exact hroom
  refine ⟨answeredEntry e, .relational after, t.listing {}, after.listing {},
    (JournalRow.ofEntry e).toEntry, ?_, fun limit l hl => ?_, ?_, ?_⟩
  · rw [Store.appendJournal, appendJournal_partsTyped hopen he]
    rfl
  · exact ⟨lists hopen rfl rfl hl (by omega), lists hopen rfl rfl hl hmore⟩
  · have hafter := after.listing_all_perm
    rw [List.map_append, List.map_singleton] at hafter
    calc after.listing {}
      _ ~ t.journal.map JournalRow.toEntry ++ [(JournalRow.ofEntry e).toEntry] := hafter
      _ ~ (JournalRow.ofEntry e).toEntry :: t.journal.map JournalRow.toEntry :=
        List.perm_append_singleton _ _
      _ ~ (JournalRow.ofEntry e).toEntry :: t.listing {} := t.listing_all_perm.symm.cons _
  · rw [JournalRow.toEntry_ofEntry he]
    exact JournalEntry.replays_kept h hplain hcolumn _

end Tables

/-- **The journal keeps notices.** Whatever notice was made, and whatever it was tied to and when,
its entry is listed again from a store that works, and the notice is made again from the properties
of that entry. Of tables it is assumed that their column of whole numbers gives back the value of
the amount. -/
theorem journal_replays {d : Notice.Draft} (hmade : Notice.create d = .ok e.notice)
    (he : e.PartsTyped) (hplain : ∀ m, e.notice.amount = some m → Notice.AmountPlain m) :
    (∀ s : MemoryStore, s.enter .appendJournal = .ok () → s.enter .listJournal = .ok () →
      s.journal.length + 1 < Number.maxSafe → (Store.memory s).Keeps e) ∧
    (∀ t : Tables, t.isOpen = true → t.journal.length + 1 < Number.maxSafe →
      (∀ m x, e.notice.amount = some m → m.get? "value" = some (.number x) →
        Column.written x = x) → (Store.relational t).Keeps e) := by
  have hcanonical := Notice.canonical_of_create hmade
  refine ⟨fun s happend hlist hroom => ?_, fun t hopen hroom hcolumn => ?_⟩
  · exact MemoryStore.keeps happend hlist hroom hcanonical
  · exact Tables.keeps hopen hroom hcanonical he hplain hcolumn

namespace Sample

/-- An entry about nothing, of a year with more than four digits. -/
def lateEntry : JournalEntry :=
  authorisation.entry {} ⟨300000000000000⟩

end Sample

/-- A notice that is about nothing, in empty stores. -/
theorem journal_replays_late :
    (Store.memory {}).Keeps Sample.lateEntry ∧ (Store.relational {}).Keeps Sample.lateEntry := by
  have hmade : Notice.create Sample.lateEntry.notice.toDraft = .ok Sample.lateEntry.notice := rfl
  have htyped : Sample.lateEntry.PartsTyped :=
    ⟨LedgerIds.empty_typed, ⟨_, rfl, .inr ⟨_, rfl⟩⟩, Sample.authorisation_typed⟩
  have hplain : ∀ m, Sample.lateEntry.notice.amount = some m → Notice.AmountPlain m := by
    rintro _ ⟨⟩
    exact ⟨1000, "EUR", rfl, .inl rfl⟩
  obtain ⟨hmemory, htables⟩ := journal_replays hmade htyped hplain
  refine ⟨hmemory {} rfl rfl (by decide), htables {} rfl (by decide) ?_⟩
  rintro _ x ⟨⟩ hx
  cases hx
  decide +kernel

end NoticeLedger
