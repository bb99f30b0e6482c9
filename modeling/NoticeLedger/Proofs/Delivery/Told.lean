import NoticeLedger.Proofs.Delivery.Discreet
import NoticeLedger.Service

/-!
# NoticeLedger.Proofs.Delivery.Told

What observers are told, and that nothing else depends on them.

* `Receipt.Consistent` — how the signal, the fate and the result of a receipt hang together.
* `Delivery.toldInTurn`, `Delivery.cutAt?` — what observers are told of a batch, and where telling
  it stops.
* `Reconciler.observers_change_nothing` — deliveries with observers and without.

The one failure that is not held back is that of an observer, when no sentence can hold it.
-/

namespace NoticeLedger

open Delivery

/-! ## Receipts -/

/-- How the parts of the receipt of a notice hang together. -/
structure Receipt.Consistent (n : Notice) (r : Receipt) : Prop where
  classification : r.classification = n.classification
  accepted : r.signal.accepted = !r.signal.retryRequested
  retry : r.signal.retryRequested = true ↔ r.fate = .retryRequested
  unmatched : r.result = .ok .journaledOnly → r.fate = .unmatched
  reconciled : ∀ outcome, r.result = .ok outcome → outcome ≠ .journaledOnly → r.fate = .reconciled
  malformed : ∀ f, r.result = .error f → f.disposition = .fatal → r.fate = .malformed
  benign : ∀ f, r.result = .error f → f.disposition = .benign → r.fate = .unmatched
  retryable : ∀ f, r.result = .error f → f.disposition = .retryable → r.fate = .retryRequested

theorem signalOf_error (f : Failure) :
    signalOf (some f) = ⟨!decide (f.disposition = .retryable), f.disposition = .retryable⟩ := rfl

theorem receiptOf_ok_consistent (n : Notice) (outcome : Outcome) :
    (receiptOf n (.ok outcome)).Consistent n where
  classification := by simp only [receiptOf]
  accepted := rfl
  retry := by
    show false = true ↔ fateOfOutcome outcome = .retryRequested
    cases outcome <;> simp [fateOfOutcome]
  unmatched h := by
    obtain rfl : outcome = .journaledOnly := Except.ok.inj h
    rfl
  reconciled other h hother := by
    obtain rfl : outcome = other := Except.ok.inj h
    show fateOfOutcome outcome = .reconciled
    cases outcome with
    | journaledOnly => exact absurd rfl hother
    | _ => rfl
  malformed _ h := nomatch h
  benign _ h := nomatch h
  retryable _ h := nomatch h

theorem receiptOf_error_consistent (n : Notice) (f : Failure) :
    (receiptOf n (.error f)).Consistent n := by
  have hfate : (receiptOf n (.error f)).fate = fateOfFailure (toldFailure f) := rfl
  have hsignal : (receiptOf n (.error f)).signal = signalOf (some (toldFailure f)) := rfl
  have hresult {f' : Failure} (h : (receiptOf n (.error f)).result = .error f') :
      toldFailure f = f' := Except.error.inj h
  refine ⟨by simp only [receiptOf], ?_, ?_, nofun, nofun, ?_, ?_, ?_⟩
  · rw [hsignal, signalOf_error]
  · rw [hsignal, hfate, signalOf_error, fateOfFailure]
    cases (toldFailure f).disposition <;> simp
  all_goals
    intro f' h hd
    rw [hfate, hresult h, fateOfFailure, hd]

theorem receiptOf_consistent (n : Notice) (result : Except Failure Outcome) :
    (receiptOf n result).Consistent n := by
  cases result with
  | ok outcome => exact receiptOf_ok_consistent n outcome
  | error f => exact receiptOf_error_consistent n f

theorem batchReceiptOf_retry (receipts : List Receipt) :
    (batchReceiptOf receipts).signal.retryRequested = true ↔
      ∃ receipt ∈ receipts, receipt.signal.retryRequested = true := by
  simp [batchReceiptOf]

/-! ## Telling of receipts in turn -/

namespace Delivery

/-- What observers that were told `past` are told of the receipts of notices. -/
def toldInTurn (observers : Option Observers) (past : List Observation) :
    List (Notice × Receipt) → List Observation
  | [] => []
  | (n, receipt) :: rest =>
    told observers past n receipt ++
      toldInTurn observers (past ++ told observers past n receipt) rest

/-- The place of the first receipt that cannot be told to the end, if there is one. -/
def cutAt? (observers : Option Observers) (past : List Observation) :
    List (Notice × Receipt) → Option Nat
  | [] => none
  | (n, receipt) :: rest =>
    bif isCutShort observers past n receipt then some 0
    else (cutAt? observers (past ++ told observers past n receipt) rest).map (· + 1)

end Delivery

/-! ## Deliveries, told or not -/

namespace Reconciler

def unobserved (r : Reconciler) : Reconciler := { r with observers := none }

/-- What the delivery of a notice at a desk comes to, beside what it comes to without observers: a
receipt and a desk. -/
structure Undisturbed (r : Reconciler) (n : Notice) (d : Desk) (receipt : Receipt) (bare : Desk) :
    Prop where
  unobserved : r.unobserved.process n d = (.ok receipt, bare)
  consistent : receipt.Consistent n
  untold : bare.observations = d.observations
  answer : (r.process n d).1 =
    bif isCutShort r.observers d.observations n receipt then .error .wordless else .ok receipt
  desk : bare.Matches (r.process n d).2
  told : (r.process n d).2.observations =
    d.observations ++ told r.observers d.observations n receipt

theorem process_undisturbed (r : Reconciler) (n : Notice) (d : Desk) :
    ∃ receipt bare, r.Undisturbed n d receipt bare := by
  obtain ⟨-, -, hquiet⟩ := reconcile_discreet r.profile n d d (.refl d)
  have heq := r.process_eq n d
  have hbare := r.unobserved.process_eq n d
  rw [show r.unobserved.profile = r.profile from rfl] at hbare
  generalize reconcile r.profile n n.classification d = attempt at heq hbare hquiet
  obtain ⟨d', hrun, hd, ho⟩ := announce_announces r.observers n (receiptOf n attempt.1) attempt.2
  obtain ⟨bare, hrun₀, hd₀, ho₀⟩ := announce_announces none n (receiptOf n attempt.1) attempt.2
  dsimp only at heq hbare
  rw [hrun] at heq
  rw [show r.unobserved.observers = none from rfl, hrun₀] at hbare
  rw [hquiet] at heq ho ho₀
  dsimp only at heq
  refine ⟨receiptOf n attempt.1, bare, hbare, receiptOf_consistent n attempt.1,
    ho₀.trans (List.append_nil _), ?_, ?_, ?_⟩
  · rw [heq]
    dsimp only
    cases isCutShort r.observers d.observations n (receiptOf n attempt.1) <;> rfl
  · rw [heq]
    exact hd₀.symm.trans hd
  · rw [heq]
    exact ho

/-! ### Batches -/

/-- The notices were delivered in turn, each at the desk that the one before it left. -/
inductive InTurn (r : Reconciler) : List Notice → Desk → List Receipt → Desk → Prop where
  | nil (d : Desk) : InTurn r [] d [] d
  | cons {n : Notice} {notices : List Notice} {receipt : Receipt} {receipts : List Receipt}
      {d d₁ d₂ : Desk} : r.process n d = (.ok receipt, d₁) → InTurn r notices d₁ receipts d₂ →
      InTurn r (n :: notices) d (receipt :: receipts) d₂

/-- The deliveries of notices stopped at the desk `last`, with the one at the place `k`. Up to it
they went as they go without observers. -/
structure StoppedShort (r : Reconciler) (notices : List Notice) (d : Desk)
    (receipts : List Receipt) (past : List Observation) (k : Nat) (last : Desk) : Prop where
  inTurn : ∃ stop, r.unobserved.InTurn (notices.take (k + 1)) d (receipts.take (k + 1)) stop ∧
    stop.Matches last
  told : last.observations =
    past ++ toldInTurn r.observers past ((notices.zip receipts).take (k + 1))

/-- What the deliveries of notices come to at the desk `d'`, beside what they come to without
observers at the desk `d`: receipts and the desk `bare`. -/
structure UndisturbedRun (r : Reconciler) (notices : List Notice) (d d' : Desk)
    (receipts : List Receipt) (bare : Desk) (answer : Except Failure (List Receipt))
    (last : Desk) : Prop where
  inTurn : r.unobserved.InTurn notices d receipts bare
  consistent : List.Forall₂ Receipt.Consistent notices receipts
  untold : bare.observations = d.observations
  told : cutAt? r.observers d'.observations (notices.zip receipts) = none →
    answer = .ok receipts ∧ bare.Matches last ∧
      last.observations =
        d'.observations ++ toldInTurn r.observers d'.observations (notices.zip receipts)
  cutShort : ∀ k, cutAt? r.observers d'.observations (notices.zip receipts) = some k →
    answer = .error .wordless ∧ r.StoppedShort notices d receipts d'.observations k last

theorem announce_discreet (n : Notice) (receipt : Receipt) :
    Discreet (announce none n receipt) := by
  unfold announce
  cases receipt.result with
  | ok _ => exact .done ()
  | error f =>
    have hnote : Discreet (noteFailure n f) := by
      rw [noteFailure]
      split <;> exact .note _ _ _
    exact .andThen (.andThen (.lift hnote) fun _ => .done ()) fun _ => .done ()

/-- Without observers, a delivery does not depend on what was told before it. -/
theorem process_discreet (r : Reconciler) (n : Notice) : Discreet (r.unobserved.process n) := by
  intro d d' h
  obtain ⟨hr, hd, ho⟩ := reconcile_discreet r.profile n d d' h
  have heq := process_eq r.unobserved n d
  have heq' := process_eq r.unobserved n d'
  rw [show r.unobserved.profile = r.profile from rfl] at heq heq'
  generalize reconcile r.profile n n.classification d = attempt at heq hr hd ho
  generalize reconcile r.profile n n.classification d' = attempt' at heq' hr hd
  obtain ⟨hr', hd', ho'⟩ := announce_discreet n (receiptOf n attempt.1) attempt.2 attempt'.2 hd
  rw [heq, heq', hr]
  exact ⟨congrArg (Except.map fun _ => _) hr', hd', ho'.trans ho⟩

namespace UndisturbedRun

variable {r : Reconciler} {n : Notice} {notices : List Notice} {d d' bare after last last' : Desk}
  {receipt : Receipt} {receipts : List Receipt} {answer : Except Failure (List Receipt)}

/-- Telling of the first notice is cut short, and none of the others is delivered. -/
theorem cut (hrun : r.unobserved.process n d = (.ok receipt, bare))
    (hconsistent : receipt.Consistent n) (hsilent : bare.observations = d.observations)
    (hcut : isCutShort r.observers d'.observations n receipt = true) (hmatch : bare.Matches after)
    (htold : after.observations =
      d'.observations ++ Delivery.told r.observers d'.observations n receipt)
    (hrest : r.UndisturbedRun notices bare bare receipts last answer last') :
    r.UndisturbedRun (n :: notices) d d' (receipt :: receipts) last (.error .wordless) after := by
  have hfirst : r.unobserved.InTurn [n] d [receipt] bare := .cons hrun (.nil bare)
  have hplace : cutAt? r.observers d'.observations ((n :: notices).zip (receipt :: receipts)) =
      some 0 := by
    rw [List.zip_cons_cons, cutAt?, hcut, cond_true]
  refine ⟨.cons hrun hrest.inTurn, .cons hconsistent hrest.consistent,
    hrest.untold.trans hsilent, fun hnone => ?_, fun k hk => ?_⟩
  · cases hplace.symm.trans hnone
  · cases hplace.symm.trans hk
    refine ⟨rfl, ⟨bare, hfirst, hmatch⟩, ?_⟩
    rw [htold]
    exact congrArg _ (List.append_nil _).symm

theorem cons (hrun : r.unobserved.process n d = (.ok receipt, bare))
    (hconsistent : receipt.Consistent n) (hsilent : bare.observations = d.observations)
    (hcut : isCutShort r.observers d'.observations n receipt = false)
    (htold : after.observations =
      d'.observations ++ Delivery.told r.observers d'.observations n receipt)
    (hrest : r.UndisturbedRun notices bare after receipts last answer last') :
    r.UndisturbedRun (n :: notices) d d' (receipt :: receipts) last
      (answer.map (receipt :: ·)) last' := by
  have hplace : cutAt? r.observers d'.observations ((n :: notices).zip (receipt :: receipts)) =
      (cutAt? r.observers after.observations (notices.zip receipts)).map (· + 1) := by
    rw [List.zip_cons_cons, cutAt?, hcut, cond_false, htold]
  refine ⟨.cons hrun hrest.inTurn, .cons hconsistent hrest.consistent,
    hrest.untold.trans hsilent, fun hnone => ?_, fun k hk => ?_⟩
  · rw [hplace, Option.map_eq_none_iff] at hnone
    obtain ⟨rfl, hlast, hobs⟩ := hrest.told hnone
    refine ⟨rfl, hlast, ?_⟩
    rw [hobs, htold, List.append_assoc, List.zip_cons_cons, toldInTurn]
  · rw [hplace, Option.map_eq_some_iff] at hk
    obtain ⟨j, hj, rfl⟩ := hk
    obtain ⟨rfl, ⟨stop, hturn, hmatch⟩, hobs⟩ := hrest.cutShort j hj
    refine ⟨rfl, ⟨stop, .cons hrun hturn, hmatch⟩, ?_⟩
    rw [hobs, htold, List.append_assoc, List.zip_cons_cons, List.take_succ_cons, toldInTurn]

end UndisturbedRun

theorem mapM_process_undisturbed (r : Reconciler) (notices : List Notice) {d d' : Desk}
    (h : d.Matches d') :
    ∃ receipts bare, notices.mapM r.unobserved.process d = (.ok receipts, bare) ∧
      r.UndisturbedRun notices d d' receipts bare (notices.mapM r.process d').1
        (notices.mapM r.process d').2 := by
  induction notices generalizing d d' with
  | nil =>
    exact ⟨[], d, rfl, .nil d, .nil, rfl, fun _ => ⟨rfl, h, (List.append_nil _).symm⟩, nofun⟩
  | cons n notices ih =>
    obtain ⟨receipt, bare', hbare', hconsistent, -, hanswer, hdesk, htold⟩ :=
      process_undisturbed r n d'
    obtain ⟨hresult, hmatch, hsilent⟩ := process_discreet r n d d' h
    rw [hbare'] at hresult hmatch
    obtain ⟨bare, hrun⟩ : ∃ bare, r.unobserved.process n d = (.ok receipt, bare) :=
      ⟨_, Prod.fst_eq_iff.mp hresult.symm⟩
    rw [hrun] at hmatch hsilent
    cases hgo : r.process n d' with
    | mk result after =>
      rw [hgo] at hanswer hdesk htold
      cases hcut : isCutShort r.observers d'.observations n receipt with
      | true =>
        rw [hcut] at hanswer
        obtain rfl : result = .error .wordless := hanswer
        obtain ⟨receipts, last, hm, hrest⟩ := ih (.refl bare)
        refine ⟨receipt :: receipts, last, by rw [Action.mapM_cons_ok hrun, hm]; rfl, ?_⟩
        rw [Action.mapM_cons_error hgo]
        exact .cut hrun hconsistent hsilent hcut (hmatch.trans hdesk) htold hrest
      | false =>
        rw [hcut] at hanswer
        obtain rfl : result = .ok receipt := hanswer
        obtain ⟨receipts, last, hm, hrest⟩ := ih (hmatch.trans hdesk)
        refine ⟨receipt :: receipts, last, by rw [Action.mapM_cons_ok hrun, hm]; rfl, ?_⟩
        rw [Action.mapM_cons_ok hgo]
        exact .cons hrun hconsistent hsilent hcut htold hrest

/-- What the delivery of a batch at a desk comes to, beside what it comes to without observers: the
receipt of the batch and a desk. -/
structure UndisturbedBatch (r : Reconciler) (notices : List Notice) (d : Desk)
    (batch : BatchReceipt) (bare : Desk) : Prop where
  unobserved : r.unobserved.processBatch notices d = (.ok batch, bare)
  inTurn : ∃ last, r.unobserved.InTurn notices d batch.receipts last ∧ last.Matches bare
  consistent : List.Forall₂ Receipt.Consistent notices batch.receipts
  accepted : batch.signal.accepted = !batch.signal.retryRequested
  retry : batch.signal.retryRequested = true ↔
    ∃ receipt ∈ batch.receipts, receipt.signal.retryRequested = true
  untold : bare.observations = d.observations
  told : cutAt? r.observers d.observations (notices.zip batch.receipts) = none →
    (r.processBatch notices d).1 = .ok batch ∧ bare.Matches (r.processBatch notices d).2 ∧
      (r.processBatch notices d).2.observations =
        d.observations ++ toldInTurn r.observers d.observations (notices.zip batch.receipts)
  cutShort : ∀ k, cutAt? r.observers d.observations (notices.zip batch.receipts) = some k →
    (r.processBatch notices d).1 = .error .wordless ∧
      r.StoppedShort notices d batch.receipts d.observations k (r.processBatch notices d).2

theorem processBatch_undisturbed (r : Reconciler) (notices : List Notice) (d : Desk) :
    ∃ batch bare, r.UndisturbedBatch notices d batch bare := by
  obtain ⟨receipts, last, hm, hrun⟩ := mapM_process_undisturbed r notices (.refl d)
  obtain ⟨bare, hbatch, hmatch, hquiet⟩ := processBatch_of_ok hm
  cases hgo : notices.mapM r.process d with
  | mk answer last' =>
    rw [hgo] at hrun
    refine ⟨batchReceiptOf receipts, bare, hbatch, ⟨last, hrun.inTurn, hmatch⟩, hrun.consistent,
      rfl, batchReceiptOf_retry receipts, hquiet.trans hrun.untold, fun hnone => ?_,
      fun k hk => ?_⟩
    · obtain ⟨rfl, hlast, hobs⟩ := hrun.told hnone
      obtain ⟨d', hbatch', hmatch', hquiet'⟩ := processBatch_of_ok hgo
      rw [hbatch']
      exact ⟨rfl, (hmatch.symm.trans hlast).trans hmatch', hquiet'.trans hobs⟩
    · obtain ⟨rfl, hshort⟩ := hrun.cutShort k hk
      have hstop : r.processBatch notices d = (.error .wordless, last') := Action.bind_error hgo
      rw [hstop]
      exact ⟨rfl, hshort⟩

/-- **Observers change nothing, unless one fails without words.** A delivery has the same receipt
and leaves the same desk with observers and without; so has a batch, with one receipt for each
notice, in order. The failure of an observer is noted and held back, but for one that no sentence
can hold: that one comes out instead of the receipt, though everything was done. -/
theorem observers_change_nothing (r : Reconciler) (n : Notice) (notices : List Notice) (d : Desk) :
    (∃ receipt bare, r.Undisturbed n d receipt bare) ∧
      ∃ batch bare, r.UndisturbedBatch notices d batch bare :=
  ⟨process_undisturbed r n d, processBatch_undisturbed r notices d⟩

/-- With an observer of fates that never fails but without words, no delivery has a receipt. -/
theorem process_speechless {r : Reconciler} {o : Observers} (ho : r.observers = some o)
    (hfate : ∀ heard, isSpeechless o.onFate heard = true) (n : Notice) (d : Desk) :
    (r.process n d).1 = .error .wordless := by
  obtain ⟨receipt, bare, h⟩ := process_undisturbed r n d
  have hcut : isCutShort r.observers d.observations n receipt = true := by
    rw [ho]
    unfold isCutShort
    cases receipt.result with
    | ok _ => exact hfate _
    | error f => exact (congrArg (_ || ·) (hfate _)).trans (Bool.or_true _)
  rw [h.answer, hcut, cond_true]

/-- The failure of an observer of fates, a value with a `toString` of its own, comes out of the
delivery. -/
theorem not_every_observer_held_back :
    ¬ ∀ (r : Reconciler) (n : Notice) (d : Desk), ∃ receipt, (r.process n d).1 = .ok receipt := by
  intro hall
  obtain ⟨receipt, h⟩ := hall
    { standard with
      observers := some { onFate := fun _ => some (.value (.object [("toString", .null)])) } }
    { Sample.authorisation with eventCode := "REPORT_AVAILABLE" }
    { Sample.bench.desk with store := .memory {} }
  rw [process_speechless rfl fun _ => rfl] at h
  cases h

end Reconciler

end NoticeLedger
