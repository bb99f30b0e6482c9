import NoticeLedger.Proofs.Delivery.Told
import NoticeLedger.Proofs.Intake.Parse
import NoticeLedger.Proofs.Journal.Attempts

/-!
# NoticeLedger.Proofs.Intake.Receive

What the gateway is answered, and what was done by then.

* `parse_admits` — a batch that is read has no more items than are allowed.
* `Reconciler.mapM_process_inTurn` — the notices of a batch are delivered one after another, also
  behind one that asks for another delivery.
* `Reconciler.Refused`, `Reconciler.Taken` — the two ways a batch goes.
* `Reconciler.receive_answers` — the answer is an acknowledgement exactly if no delivery asks for
  another one.

An acknowledged batch is journaled: the gateway does not send it again, and nothing else keeps it.
-/

namespace NoticeLedger

open Delivery

/-! ## Batches that are read -/

namespace Batch

theorem length_of_mapM {α β : Type} {f : α → Except Failure β} {items : List α} {results : List β}
    (h : items.mapM f = .ok results) : results.length = items.length := by
  induction items generalizing results with
  | nil =>
    cases h
    rfl
  | cons item items ih =>
    rw [List.mapM_cons] at h
    cases hf : f item with
    | error e =>
      rw [hf] at h
      cases h
    | ok b =>
      rw [hf] at h
      cases hrest : items.mapM f with
      | error e =>
        rw [hrest] at h
        cases h
      | ok bs =>
        rw [hrest] at h
        cases h
        rw [List.length_cons, List.length_cons, ih hrest]

theorem noticesOf_admits {max : Option Number} {m : Members} {notices : List Notice}
    (h : noticesOf max m = .ok notices) : Admits max notices.length := by
  rintro limit rfl
  unfold noticesOf at h
  dsimp only at h
  split at h
  · cases h
  · rename_i hlimit
    rw [length_of_mapM h]
    exact hlimit

theorem parse_admits {max : Option Number} {body : Given} {notices : List Notice}
    (h : parse max body = .ok notices) : Admits max notices.length := by
  by_cases hb : ∃ m, body = some (.object m)
  swap
  · rw [parse.eq_2 max body fun m h => hb ⟨m, h⟩] at h
    cases h
  obtain ⟨m, rfl⟩ := hb
  cases hr : form.readMembers m with
  | error f =>
    rw [parse, hr] at h
    cases h
  | ok read =>
    rw [parse_eq max hr] at h
    split at h
    · exact noticesOf_admits h
    · cases h

end Batch

namespace Reconciler

variable {r : Reconciler}

/-! ## Deliveries in turn -/

/-- The notices are delivered in turn, whatever becomes of each. -/
theorem mapM_process_inTurn (h : r.Articulate) (notices : List Notice) (d : Desk) :
    ∃ receipts last, notices.mapM r.process d = (.ok receipts, last) ∧
      r.InTurn notices d receipts last := by
  induction notices generalizing d with
  | nil => exact ⟨[], d, rfl, .nil d⟩
  | cons n notices ih =>
    obtain ⟨d₁, hfirst, -⟩ := h.process_ok n d
    obtain ⟨receipts, last, hrest, hturn⟩ := ih d₁
    refine ⟨_ :: receipts, last, ?_, .cons hfirst hturn⟩
    rw [Action.mapM_cons_ok hfirst, hrest]
    rfl

/-- The desk where the arrival of a batch was noted. -/
def arrived (notices : List Notice) (d : Desk) : Desk :=
  { d with log := d.log ++ [⟨.info, .service, s!"Received {notices.length} notification(s)"⟩] }

theorem matches_arrived (notices : List Notice) (d : Desk) : d.Matches (arrived notices d) :=
  ⟨rfl, rfl, rfl, rfl, rfl⟩

theorem handleBatch_of_ok {body : Given} {notices : List Notice}
    (h : Batch.parse r.maxBatchSize body = .ok notices) (d : Desk) :
    r.handleBatch body d = r.processBatch notices (arrived notices d) := by
  rw [handleBatch, h]
  rfl

theorem handleBatch_of_error {body : Given} {f : Failure}
    (h : Batch.parse r.maxBatchSize body = .error f) (d : Desk) :
    r.handleBatch body d = (.error f, d) := by
  rw [handleBatch, h]
  rfl

theorem receive_of_unreadable {body : Given} {message : String} {violations : List String}
    {d d' : Desk} (h : r.handleBatch body d = (.error (.unreadable message violations), d')) :
    r.receive body d = (.error (unreadable message violations),
      { d' with log := d'.log ++
        [⟨.warning, .endpoint, s!"Rejected notification batch: {message}"⟩] }) := by
  have hresult : resultOf (r.handleBatch body) d =
      (.ok (.error (.unreadable message violations)), d') := by
    show (Except.ok (r.handleBatch body d).1, (r.handleBatch body d).2) = _
    rw [h]
  rw [receive, Action.bind_ok hresult]
  rfl

theorem receive_of_batch {body : Given} {batch : BatchReceipt} {d d' : Desk}
    (h : r.handleBatch body d = (.ok batch, d')) :
    r.receive body d =
      (if batch.signal.retryRequested then .error redeliver else .ok acknowledgement, d') := by
  have hresult : resultOf (r.handleBatch body) d = (.ok (.ok batch), d') := by
    show (Except.ok (r.handleBatch body d).1, (r.handleBatch body d).2) = _
    rw [h]
  rw [receive, Action.bind_ok hresult]
  dsimp only
  split <;> rfl

/-! ## Answers -/

/-- A batch that cannot be read is refused as a whole. The answer says why, and nothing is done but
a line of the log. -/
structure Refused (message : String) (violations : List String) (d : Desk)
    (after : Except Failure String × Desk) : Prop where
  answer : after.1 = .error (unreadable message violations)
  untouched : d.Matches after.2
  untold : after.2.observations = d.observations

/-- The notices of a batch are delivered, each of them. The answer is an acknowledgement or asks for
another delivery, and an acknowledged batch is in the journal. -/
structure Taken (r : Reconciler) (notices : List Notice) (d : Desk) (receipts : List Receipt)
    (after : Except Failure String × Desk) : Prop where
  admitted : Batch.Admits r.maxBatchSize notices.length
  inTurn : ∃ start last, d.Matches start ∧ r.InTurn notices start receipts last ∧
    last.Matches after.2
  accepted : after.1 = .ok acknowledgement ↔
    ∀ receipt ∈ receipts, receipt.signal.retryRequested = false
  again : after.1 = .error redeliver ↔ ∃ receipt ∈ receipts, receipt.signal.retryRequested = true
  journaled : after.1 = .ok acknowledgement → ∀ w : Bench, w.On d →
    ∃ (w' : Bench) (entries : List JournalEntry), w'.On after.2 ∧
      w'.store.journal = w.store.journal ++ entries ∧ entries.map JournalEntry.notice = notices

/-- Where nothing asks for another delivery, everything was journaled. -/
theorem journaled_of_accepted {p : Profile} {notices : List Notice} {w w' : Bench}
    {receipts : List Receipt} (h : Deliveries p notices w receipts w')
    (haccepted : ∀ receipt ∈ receipts, receipt.signal.retryRequested = false) :
    ∃ entries, w'.store.journal = w.store.journal ++ entries ∧
      entries.map JournalEntry.notice = notices := by
  cases hj : w.store.enter .appendJournal with
  | ok _ =>
    obtain ⟨entries, hentries, hnotices, -⟩ := h.journal_ok hj
    exact ⟨entries, hentries, hnotices⟩
  | error f =>
    obtain ⟨hjournal, rfl⟩ := h.journal_error hj
    cases notices with
    | nil => exact ⟨[], by rw [hjournal, List.append_nil], rfl⟩
    | cons n notices => exact absurd (haccepted (n.refusedReceipt f) List.mem_cons_self) nofun

theorem receive_taken (hr : r.Articulate) {body : Given} {notices : List Notice}
    (hp : Batch.parse r.maxBatchSize body = .ok notices) (d : Desk) :
    ∃ receipts, r.Taken notices d receipts (r.receive body d) := by
  obtain ⟨receipts, last, hmapM, hturn⟩ := mapM_process_inTurn hr notices (arrived notices d)
  obtain ⟨d', hbatch, hlast, -⟩ := processBatch_of_ok hmapM
  have hreceive := receive_of_batch ((handleBatch_of_ok hp d).trans hbatch)
  have hretry := batchReceiptOf_retry receipts
  have hall : (batchReceiptOf receipts).signal.retryRequested = false ↔
      ∀ receipt ∈ receipts, receipt.signal.retryRequested = false := by
    rw [← Bool.not_eq_true, hretry]
    simp only [not_exists, not_and, Bool.not_eq_true]
  refine ⟨receipts, Batch.parse_admits hp, ⟨_, _, matches_arrived notices d, hturn, ?_⟩, ?_, ?_, ?_⟩
  · rw [hreceive]
    exact hlast
  · rw [hreceive, ← hall]
    cases (batchReceiptOf receipts).signal.retryRequested <;> simp
  · rw [hreceive, ← hretry]
    cases (batchReceiptOf receipts).signal.retryRequested <;> simp
  · intro haccepted w hw
    obtain ⟨receipts', last', w', hrun, hw', hdeliveries⟩ :=
      mapM_process_delivered hr notices (hw.of_matches (matches_arrived notices d))
    cases hmapM.symm.trans hrun
    have hnone : ∀ receipt ∈ receipts, receipt.signal.retryRequested = false := by
      rw [← hall]
      rw [hreceive] at haccepted
      cases hb : (batchReceiptOf receipts).signal.retryRequested with
      | false => rfl
      | true =>
        rw [hb] at haccepted
        cases haccepted
    obtain ⟨entries, hentries, hnotices⟩ := journaled_of_accepted hdeliveries hnone
    refine ⟨w', entries, ?_, hentries, hnotices⟩
    rw [hreceive]
    exact hw'.of_matches hlast

theorem receive_refused {body : Given} {message : String} {violations : List String}
    (hp : Batch.parse r.maxBatchSize body = .error (.unreadable message violations)) (d : Desk) :
    Refused message violations d (r.receive body d) := by
  rw [receive_of_unreadable (handleBatch_of_error hp d)]
  exact ⟨rfl, ⟨rfl, rfl, rfl, rfl, rfl⟩, rfl⟩

/-- **The answer matches what was done.** A batch that cannot be read is refused with the reasons,
and nothing is touched. Of any other one all notices are delivered, in order, and it is
acknowledged exactly if none asks for another delivery; an acknowledged batch is in the journal,
notice by notice. -/
theorem receive_answers (hr : r.Articulate) (body : Given) (d : Desk) :
    (∀ message violations,
      Batch.parse r.maxBatchSize body = .error (.unreadable message violations) →
        Refused message violations d (r.receive body d)) ∧
      ∀ notices, Batch.parse r.maxBatchSize body = .ok notices →
        ∃ receipts, r.Taken notices d receipts (r.receive body d) :=
  ⟨fun _ _ hp => receive_refused hp d, fun _ hp => receive_taken hr hp d⟩

/-- The sample batch of two is read, and nothing at all is not. -/
theorem receive_answers_posted :
    let r : Reconciler := { profile := Sample.profile, maxBatchSize := some 100 }
    r.Articulate ∧
      (∃ notices receipts,
        Batch.parse r.maxBatchSize (some (.object Batch.postedSample)) = .ok notices ∧
          notices.length = 2 ∧
          r.Taken notices Sample.bench.desk receipts
            (r.receive (some (.object Batch.postedSample)) Sample.bench.desk)) ∧
      Refused "Notification batch must be a JSON object" [] Sample.bench.desk
        (r.receive none Sample.bench.desk) := by
  intro r
  have hr : r.Articulate := articulate_of_unobserved rfl
  obtain ⟨-, htaken⟩ := receive_answers hr (some (.object Batch.postedSample)) Sample.bench.desk
  obtain ⟨hrefused, -⟩ := receive_answers hr none Sample.bench.desk
  obtain ⟨receipts, h⟩ := htaken _ rfl
  exact ⟨hr, ⟨_, receipts, rfl, rfl, h⟩, hrefused _ _ rfl⟩

end Reconciler

end NoticeLedger
