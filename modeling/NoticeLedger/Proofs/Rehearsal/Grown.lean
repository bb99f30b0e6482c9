import NoticeLedger.Proofs.Rehearsal.Beside

/-!
# NoticeLedger.Proofs.Rehearsal.Grown

The journal is written and never read.

* `Bench.grown` — a bench with more entries in its journal.
* `Course.grown` — acting on what was found goes there as it goes without them.
* `Bench.receipt`, `Bench.entries` — what is told about a notice, and what is added to the journal,
  by what came of it.
* `Delivered.parts` — a delivery acts on what was found, and then it adds to the journal.
-/

namespace NoticeLedger

open Delivery

def MemoryStore.grown (s : MemoryStore) (entries : List JournalEntry) : MemoryStore :=
  { s with journal := s.journal ++ entries }

def Bench.grown (w : Bench) (entries : List JournalEntry) : Bench :=
  { w with store := w.store.grown entries }

variable {p : Profile} {n : Notice} {w w' : Bench}

@[simp] theorem Bench.grown_book (w : Bench) (entries : List JournalEntry) :
    (w.grown entries).book = w.book := rfl

@[simp] theorem Bench.grown_responses (w : Bench) (entries : List JournalEntry) :
    (w.grown entries).store.responses = w.store.responses := rfl

@[simp] theorem Bench.grown_pendingRequests (w : Bench) (entries : List JournalEntry) :
    (w.grown entries).store.pendingRequests = w.store.pendingRequests := rfl

@[simp] theorem Bench.grown_journal (w : Bench) (entries : List JournalEntry) :
    (w.grown entries).store.journal = w.store.journal ++ entries := rfl

theorem Bench.grown_nil (w : Bench) : w.grown [] = w := by
  rw [grown, MemoryStore.grown, List.append_nil]

theorem Bench.grown_grown (w : Bench) (entries more : List JournalEntry) :
    (w.grown entries).grown more = w.grown (entries ++ more) := by
  rw [grown, grown, grown, MemoryStore.grown, MemoryStore.grown, MemoryStore.grown,
    List.append_assoc]

theorem Finding.of_grown (s : MemoryStore) (n : Notice) (entries : List JournalEntry) :
    of (s.grown entries) n = of s n := rfl

theorem MemoryStore.grown_beside (entries : List JournalEntry) :
    Beside fun s => s.grown entries :=
  ⟨fun _ => rfl, fun _ => rfl, fun _ => rfl, fun _ _ => rfl⟩

/-- More entries in the journal make no difference to what is done. -/
theorem Course.grown {found : Finding} {result : Except Failure Outcome}
    (h : Course p n w found result w') (entries : List JournalEntry) :
    Course p n (w.grown entries) found result (w'.grown entries) :=
  h.beside (MemoryStore.grown_beside entries)

/-! ## Deliveries -/

/-- What is told about a notice, by what came of it before it is journaled. -/
def Bench.receipt (w : Bench) (n : Notice) (result : Except Failure Outcome) : Receipt :=
  match w.store.enter .appendJournal with
  | .ok _ => receiptOf n result
  | .error f => receiptOf n (.error (n.unrecorded f))

/-- What is added to the journal about a notice, by what came of it. -/
def Bench.entries (w : Bench) (n : Notice) (result : Except Failure Outcome) : List JournalEntry :=
  match w.store.enter .appendJournal with
  | .ok _ => [n.entry ((Finding.of w.store n).idsAfter result) w.now]
  | .error _ => []

/-- A delivery acts on what was found, and then it adds to the journal. -/
theorem Delivered.parts {r : Receipt} (h : Delivered p n w r w') :
    ∃ result w₁, Course p n w (Finding.of w.store n) result w₁ ∧ r = w.receipt n result ∧
      w' = w₁.grown (w.entries n result) := by
  cases h with
  | @journaled result w₁ hc hj =>
    rw [hc.keeps.store.enter] at hj
    refine ⟨result, w₁, hc, ?_, ?_⟩
    · rw [Bench.receipt, hj]
    · rw [Bench.entries, hj]
      rfl
  | @unrecorded result _ f hc hj =>
    rw [hc.keeps.store.enter] at hj
    refine ⟨result, w', hc, ?_, ?_⟩
    · rw [Bench.receipt, hj]
    · rw [Bench.entries, hj, Bench.grown_nil]

/-- What is told is the same where the journal works as it did. -/
theorem Bench.Precedes.receipt (h : w.Precedes w') (n : Notice) (result : Except Failure Outcome) :
    w'.receipt n result = w.receipt n result := by
  rw [Bench.receipt, Bench.receipt, h.enter]

theorem Bench.Precedes.entries (h : w.Precedes w')
    (hf : Finding.of w'.store n = Finding.of w.store n) (result : Except Failure Outcome) :
    w'.entries n result = w.entries n result := by
  rw [Bench.entries, Bench.entries, h.enter, hf, h.now]

end NoticeLedger
