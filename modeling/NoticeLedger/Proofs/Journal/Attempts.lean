import NoticeLedger.Proofs.Rehearsal.Frame
import NoticeLedger.Proofs.Rehearsal.Soundness

/-!
# NoticeLedger.Proofs.Journal.Attempts

Each attempt to deliver a notice is journaled once.

* `Delivered.journal_ok`, `Delivered.journal_error` — what one delivery adds to the journal, and
  what is told where nothing can be added.
* `Deliveries.journal_ok`, `Deliveries.journal_error` — the same for deliveries one after another.
* `processBatch_journal` — the same for a batch.
-/

namespace NoticeLedger

open Delivery

/-- What is told about a notice that cannot be journaled: it is to be delivered again, whatever
became of it before. -/
def Notice.refusedReceipt (n : Notice) (f : Failure) : Receipt where
  signal := ⟨false, true⟩
  fate := .retryRequested
  classification := n.classification
  result := .error (n.unrecorded f)

variable {p : Profile} {n : Notice} {notices : List Notice} {w w' : Bench} {r : Receipt}
  {receipts : List Receipt} {f : Failure}

theorem Delivered.journal_ok (h : Delivered p n w r w')
    (hj : w.store.enter .appendJournal = .ok ()) :
    ∃ ids, w'.store.journal = w.store.journal ++ [n.entry ids w.now] := by
  obtain ⟨result, w₁, hc, -, rfl⟩ := h.of_ok hj
  refine ⟨(Finding.of w.store n).idsAfter result, ?_⟩
  rw [Bench.journaling, hc.keeps.store.journal]

theorem Delivered.journal_error (h : Delivered p n w r w')
    (hj : w.store.enter .appendJournal = .error f) :
    w'.store.journal = w.store.journal ∧ r = n.refusedReceipt f := by
  obtain ⟨⟨result, hc⟩, rfl⟩ := h.of_error hj
  exact ⟨hc.keeps.store.journal, rfl⟩

/-- A working journal gets one entry for each notice, in their order. -/
theorem Deliveries.journal_ok (h : Deliveries p notices w receipts w')
    (hj : w.store.enter .appendJournal = .ok ()) :
    ∃ entries, w'.store.journal = w.store.journal ++ entries ∧
      entries.map JournalEntry.notice = notices ∧ ∀ e ∈ entries, e.recordedAt = w.now := by
  induction h with
  | nil => exact ⟨[], (List.append_nil _).symm, rfl, fun _ he => absurd he List.not_mem_nil⟩
  | @cons n notices r receipts w w₁ w' hd _ ih =>
    -- the journal works for the next delivery as well, and the clock stands still
    have hp := hd.precedes
    obtain ⟨ids, h₁⟩ := hd.journal_ok hj
    obtain ⟨entries, h', hn, ht⟩ := ih ((hp.enter _).trans hj)
    refine ⟨n.entry ids w.now :: entries, ?_, ?_, ?_⟩
    · rw [h', h₁, List.append_assoc, List.singleton_append]
    · rw [List.map_cons, hn]
      rfl
    · intro e he
      rcases List.mem_cons.mp he with rfl | he
      · rfl
      · rw [ht e he, hp.now]

/-- A journal that fails stays as it is, and every notice is to be delivered again. -/
theorem Deliveries.journal_error (h : Deliveries p notices w receipts w')
    (hj : w.store.enter .appendJournal = .error f) :
    w'.store.journal = w.store.journal ∧ receipts = notices.map (·.refusedReceipt f) := by
  induction h with
  | nil => exact ⟨rfl, rfl⟩
  | cons hd _ ih =>
    obtain ⟨h₁, rfl⟩ := hd.journal_error hj
    obtain ⟨h', hr⟩ := ih ((hd.precedes.enter _).trans hj)
    exact ⟨h'.trans h₁, by rw [hr, List.map_cons]⟩

/-- **One entry for each attempt.** A working journal gets exactly one entry for each notice of a
batch, whatever becomes of the notices; one that fails gets none, and then every notice is told to
be one that cannot be journaled. -/
theorem processBatch_journal {r : Reconciler} (hr : r.Articulate) (notices : List Notice)
    {w : Bench} {d : Desk} (hd : w.On d) :
    ∃ (batch : BatchReceipt) (d' : Desk) (w' : Bench),
      r.processBatch notices d = (.ok batch, d') ∧ w'.On d' ∧
      (w.store.enter .appendJournal = .ok () →
        ∃ entries, w'.store.journal = w.store.journal ++ entries ∧
          entries.map JournalEntry.notice = notices ∧ ∀ e ∈ entries, e.recordedAt = w.now) ∧
      ∀ f, w.store.enter .appendJournal = .error f →
        w'.store.journal = w.store.journal ∧
          batch.receipts = notices.map (·.refusedReceipt f) := by
  obtain ⟨_, d', w', hrun, hd', hdeliveries⟩ := Reconciler.processBatch_delivered hr notices hd
  exact ⟨_, d', w', hrun, hd', hdeliveries.journal_ok, fun _ hj => hdeliveries.journal_error hj⟩

/-- The sample twice in a batch is journaled twice. -/
theorem processBatch_journal_sample :
    ∃ (batch : BatchReceipt) (d' : Desk) (w' : Bench) (entries : List JournalEntry),
      Sample.reconciler.processBatch [Sample.authorisation, Sample.authorisation]
        Sample.bench.desk = (.ok batch, d') ∧ w'.On d' ∧
      w'.store.journal = entries ∧
      entries.map JournalEntry.notice = [Sample.authorisation, Sample.authorisation] ∧
      ∀ e ∈ entries, e.recordedAt = Sample.bench.now := by
  obtain ⟨batch, d', w', hrun, hd, hok, -⟩ := processBatch_journal Sample.articulate
    [Sample.authorisation, Sample.authorisation] Sample.bench.on_desk
  obtain ⟨entries, hj, hn, ht⟩ := hok rfl
  exact ⟨batch, d', w', entries, hrun, hd, hj, hn, ht⟩

end NoticeLedger
