import NoticeLedger.Proofs.Rehearsal.Bench
import NoticeLedger.Service

/-!
# NoticeLedger.Proofs.Rehearsal.Announced

What observers are told about a delivery, and what telling them leaves.

* `Desk.Matches d d'` — the desks are the same apart from the log and what was told.
* `Delivery.told`, `Delivery.isCutShort` — what observers are told of a receipt after all that they
  were told before, and whether one of them fails without words.
* `Announces` — an action that only tells: what is heard, and whether it is cut short.
* `Reconciler.process_eq` — a delivery is what is done for the notice, followed by what is told.
* `Reconciler.Articulate` — observers that fail with words, if at all; with them every delivery has
  its receipt.
-/

namespace NoticeLedger

open Delivery

/-- Two desks that are the same apart from the log and what was told. -/
structure Desk.Matches (d d' : Desk) : Prop where
  store : d'.store = d.store
  platform : d'.platform = d.platform
  now : d'.now = d.now
  hook : d'.onPurchase = d.onPurchase
  journaled : d'.journaled = d.journaled

theorem Desk.Matches.refl (d : Desk) : d.Matches d := ⟨rfl, rfl, rfl, rfl, rfl⟩

theorem Desk.Matches.symm {d d' : Desk} (h : d.Matches d') : d'.Matches d :=
  ⟨h.store.symm, h.platform.symm, h.now.symm, h.hook.symm, h.journaled.symm⟩

theorem Desk.Matches.trans {d₁ d₂ d₃ : Desk} (h : d₁.Matches d₂) (h' : d₂.Matches d₃) :
    d₁.Matches d₃ :=
  ⟨h'.store.trans h.store, h'.platform.trans h.platform, h'.now.trans h.now,
    h'.hook.trans h.hook, h'.journaled.trans h.journaled⟩

theorem Bench.On.of_matches {w : Bench} {d d' : Desk} (hd : w.On d) (h : d.Matches d') : w.On d' :=
  ⟨h.store.trans hd.store, h.platform.trans hd.platform, h.now.trans hd.now, h.hook.trans hd.hook⟩

/-! ## Telling -/

namespace Delivery

/-- Whether an observer that was told `heard` fails so that it cannot be noted. -/
def isSpeechless (hook : List Observation → Option Failure) (heard : List Observation) : Bool :=
  (hook heard).any Failure.isWordless

/-- What observers that were told `past` are told of a receipt, in turn. -/
def told (observers : Option Observers) (past : List Observation) (n : Notice) (r : Receipt) :
    List Observation :=
  match observers, r.result with
  | none, _ => []
  | some _, .ok _ => [fateObservation n r]
  | some o, .error f =>
    bif isSpeechless o.onFailure (past ++ [failureObservation n f]) then [failureObservation n f]
    else [failureObservation n f, fateObservation n r]

/-- Whether one of those who are told of a receipt fails so that it cannot be noted. -/
def isCutShort (observers : Option Observers) (past : List Observation) (n : Notice)
    (r : Receipt) : Bool :=
  match observers, r.result with
  | none, _ => false
  | some o, .ok _ => isSpeechless o.onFate (past ++ [fateObservation n r])
  | some o, .error f =>
    isSpeechless o.onFailure (past ++ [failureObservation n f]) ||
      isSpeechless o.onFate (past ++ [failureObservation n f, fateObservation n r])

end Delivery

/-- An action that only tells. After `past` was told, it leaves a matching desk where `heard past`
was told besides, and fails only if it is cut short. -/
def Announces (x : Action Unit) (heard : List Observation → List Observation)
    (cut : List Observation → Bool) : Prop :=
  ∀ d, ∃ d', x d = (bif cut d.observations then .error .wordless else .ok (), d') ∧
    d.Matches d' ∧ d'.observations = d.observations ++ heard d.observations

namespace Announces

theorem nothing : Announces (pure ()) (fun _ => []) fun _ => false :=
  fun d => ⟨d, rfl, .refl d, (List.append_nil _).symm⟩

/-- Those who would be told next are not told after one who cuts it short. -/
theorem andThen {x y : Action Unit} {heard heard' : List Observation → List Observation}
    {cut cut' : List Observation → Bool} (hx : Announces x heard cut)
    (hy : Announces y heard' cut') :
    Announces (x >>= fun _ => y)
      (fun past => heard past ++ bif cut past then [] else heard' (past ++ heard past))
      (fun past => cut past || cut' (past ++ heard past)) := by
  intro d
  obtain ⟨d₁, hrun, hd, ho⟩ := hx d
  dsimp only
  cases hcut : cut d.observations with
  | true =>
    rw [hcut] at hrun
    exact ⟨d₁, Action.bind_error hrun, hd, ho.trans (congrArg _ (List.append_nil _).symm)⟩
  | false =>
    rw [hcut] at hrun
    obtain ⟨d₂, hrun', hd', ho'⟩ := hy d₁
    rw [ho] at hrun' ho'
    rw [Action.bind_ok hrun]
    exact ⟨d₂, hrun', hd.trans hd', ho'.trans (List.append_assoc _ _ _)⟩

theorem note (source : Log.Source) (level : Log.Level) (message : String) :
    Announces (ExceptT.lift (Desk.note source level message)) (fun _ => []) fun _ => false :=
  fun _ => ⟨_, rfl, ⟨rfl, rfl, rfl, rfl, rfl⟩, (List.append_nil _).symm⟩

end Announces

theorem tell_announces (name : String) (hook : List Observation → Option Failure)
    (o : Observation) :
    Announces (Delivery.tell name hook o) (fun _ => [o])
      fun past => isSpeechless hook (past ++ [o]) := by
  intro d
  have hrun : Delivery.tell name hook o d =
      noteMisbehaviour name (hook (d.observations ++ [o]))
        { d with observations := d.observations ++ [o] } := rfl
  dsimp only [isSpeechless]
  cases hfailure : hook (d.observations ++ [o]) with
  | none =>
    rw [hfailure] at hrun
    exact ⟨_, hrun, ⟨rfl, rfl, rfl, rfl, rfl⟩, rfl⟩
  | some f =>
    rw [hfailure, noteMisbehaviour] at hrun
    rw [Option.any_some]
    cases hf : f.isWordless with
    | true =>
      rw [if_pos hf] at hrun
      exact ⟨_, hrun, ⟨rfl, rfl, rfl, rfl, rfl⟩, rfl⟩
    | false =>
      rw [if_neg (Bool.not_eq_true _ ▸ hf)] at hrun
      exact ⟨_, hrun, ⟨rfl, rfl, rfl, rfl, rfl⟩, rfl⟩

theorem noteFailure_announces (n : Notice) (f : Failure) :
    Announces (ExceptT.lift (noteFailure n f)) (fun _ => []) fun _ => false := by
  rw [noteFailure]
  split <;> exact .note _ _ _

theorem announceFailure_announces (o : Observers) (n : Notice) (f : Failure) :
    Announces (announceFailure (some o) n f) (fun _ => [failureObservation n f])
      fun past => isSpeechless o.onFailure (past ++ [failureObservation n f]) := by
  have h := (noteFailure_announces n f).andThen
    (tell_announces "onError" o.onFailure (failureObservation n f))
  simp only [List.append_nil] at h
  exact h

/-- Observers are told of the failure, if there is one, and then of the fate. -/
theorem announce_announces (observers : Option Observers) (n : Notice) (r : Receipt) :
    Announces (announce observers n r) (told observers · n r) (isCutShort observers · n r) := by
  unfold announce told isCutShort
  cases observers with
  | none =>
    cases r.result with
    | ok _ => exact .nothing
    | error f => exact ((noteFailure_announces n f).andThen .nothing).andThen .nothing
  | some o =>
    have hfate : Announces (announceFate (some o) n r) (fun _ => [fateObservation n r])
        fun past => isSpeechless o.onFate (past ++ [fateObservation n r]) :=
      tell_announces "onNotificationFate" o.onFate (fateObservation n r)
    cases r.result with
    | ok _ => exact hfate
    | error f =>
      intro d
      obtain ⟨d', hrun, hd, ho⟩ := (announceFailure_announces o n f).andThen hfate d
      simp only [List.append_assoc, List.singleton_append] at hrun
      refine ⟨d', hrun, hd, ho.trans (congrArg _ ?_)⟩
      dsimp only
      cases isSpeechless o.onFailure (d.observations ++ [failureObservation n f]) <;> rfl

/-! ## Deliveries -/

theorem deliver_eq (p : Profile) (observers : Option Observers) (n : Notice) (d : Desk) :
    let attempt := reconcile p n n.classification d
    let receipt := receiptOf n attempt.1
    let announced := announce observers n receipt attempt.2
    deliver p observers n d = ((receipt, announced.1), announced.2) := by
  unfold deliver
  -- otherwise the look at the two forms would open the whole delivery
  generalize reconcile p n n.classification = x
  generalize announce observers n = a
  generalize receiptOf n = toReceipt
  rfl

namespace Reconciler

variable {r : Reconciler}

/-- A delivery does what the notice asks for, and then tells of it. -/
theorem process_eq (r : Reconciler) (n : Notice) (d : Desk) :
    let attempt := reconcile r.profile n n.classification d
    let receipt := receiptOf n attempt.1
    let announced := announce r.observers n receipt attempt.2
    r.process n d = (announced.1.map fun _ => receipt, announced.2) := by
  have hdeliver := deliver_eq r.profile r.observers n d
  unfold Reconciler.process
  generalize deliver r.profile r.observers n = x at hdeliver
  show ((x d).1.2.map fun _ => (x d).1.1, (x d).2) = _
  rw [hdeliver]

theorem closeBatch_quiet (receipts : List Receipt) (d : Desk) :
    ∃ d', closeBatch receipts d = (batchReceiptOf receipts, d') ∧ d.Matches d' ∧
      d'.observations = d.observations := by
  unfold closeBatch
  dsimp only
  split
  · exact ⟨_, rfl, ⟨rfl, rfl, rfl, rfl, rfl⟩, rfl⟩
  · exact ⟨d, rfl, .refl d, rfl⟩

theorem processBatch_of_ok {notices : List Notice} {d last : Desk}
    {receipts : List Receipt} (h : notices.mapM r.process d = (.ok receipts, last)) :
    ∃ d', r.processBatch notices d = (.ok (batchReceiptOf receipts), d') ∧ last.Matches d' ∧
      d'.observations = last.observations := by
  obtain ⟨d', hclose, hmatch, hquiet⟩ := closeBatch_quiet receipts last
  refine ⟨d', ?_, hmatch, hquiet⟩
  rw [Reconciler.processBatch, Action.bind_ok h]
  show (Except.ok (closeBatch receipts last).1, (closeBatch receipts last).2) = _
  rw [hclose]

/-- Whatever the observers were told, each of their failures can be noted. -/
def Articulate (r : Reconciler) : Prop :=
  ∀ o, r.observers = some o → ∀ heard,
    isSpeechless o.onFailure heard = false ∧ isSpeechless o.onFate heard = false

theorem articulate_of_unobserved (h : r.observers = none) : r.Articulate := by
  intro o ho
  cases h.symm.trans ho

namespace Articulate

theorem not_cut_short (h : r.Articulate) (past : List Observation) (n : Notice)
    (receipt : Receipt) : isCutShort r.observers past n receipt = false := by
  unfold isCutShort
  cases ho : r.observers with
  | none => rfl
  | some o =>
    cases receipt.result with
    | ok _ => exact (h o ho _).2
    | error f => simp only [(h o ho _).1, (h o ho _).2, Bool.or_self]

/-- A delivery has its receipt, and telling it touches neither the records nor the ledger. -/
theorem process_ok (h : r.Articulate) (n : Notice) (d : Desk) :
    ∃ d', r.process n d = (.ok (receiptOf n (reconcile r.profile n n.classification d).1), d') ∧
      (reconcile r.profile n n.classification d).2.Matches d' := by
  have heq := r.process_eq n d
  generalize reconcile r.profile n n.classification d = attempt at heq
  obtain ⟨d', htold, hmatches, -⟩ :=
    announce_announces r.observers n (receiptOf n attempt.1) attempt.2
  simp only [h.not_cut_short] at htold
  dsimp only at heq
  rw [htold] at heq
  exact ⟨d', heq, hmatches⟩

end Articulate

end Reconciler

namespace Sample

/-- A reconciler that nobody observes. -/
def reconciler : Reconciler where
  profile := profile

theorem articulate : reconciler.Articulate :=
  Reconciler.articulate_of_unobserved rfl

end Sample

end NoticeLedger
