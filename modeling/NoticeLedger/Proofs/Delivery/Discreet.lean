import NoticeLedger.Proofs.Rehearsal.Soundness

/-!
# NoticeLedger.Proofs.Delivery.Discreet

What is done for a notice, whatever was written to the log and told before.

* `Discreet x` — at matching desks `x` gives the same, and tells nothing.
* `reconcile_discreet` — what is done for a notice is discreet, at any store and platform.

The store and the platform fail with anything here.
-/

namespace NoticeLedger

open Delivery

/-- At matching desks `x` gives the same result and leaves matching desks, and nothing is told. -/
def Discreet {α : Type} (x : StateM Desk α) : Prop :=
  ∀ d d', d.Matches d' →
    (x d').1 = (x d).1 ∧ (x d).2.Matches (x d').2 ∧ (x d).2.observations = d.observations

namespace Discreet

variable {α β : Type}

theorem pure (a : α) : Discreet (Pure.pure a : StateM Desk α) :=
  fun _ _ h => ⟨rfl, h, rfl⟩

theorem bind {x : StateM Desk α} {f : α → StateM Desk β} (hx : Discreet x)
    (hf : ∀ a, Discreet (f a)) : Discreet (x >>= f) := by
  intro d d' h
  obtain ⟨hr, hd, ho⟩ := hx d d' h
  obtain ⟨hr', hd', ho'⟩ := hf (x d).1 (x d).2 (x d').2 hd
  rw [← hr] at hr'
  refine ⟨?_, ?_, ho'.trans ho⟩
  · show (f (x d').1 (x d').2).1 = (f (x d).1 (x d).2).1
    rw [hr', hr]
  · show (f (x d).1 (x d).2).2.Matches (f (x d').1 (x d').2).2
    rw [hr]
    exact hd'

/-- What is read from the desk has to be read alike at matching desks. -/
theorem read {f : Desk → StateM Desk β} (hf : ∀ d, Discreet (f d))
    (hsame : ∀ d d', d.Matches d' → f d' = f d) : Discreet (get >>= f) := by
  intro d d' h
  show (f d' d').1 = (f d d).1 ∧ (f d d).2.Matches (f d' d').2 ∧ _
  rw [hsame d d' h]
  exact hf d d d' h

theorem andThen {x : Action α} {f : α → Action β} (hx : Discreet x) (hf : ∀ a, Discreet (f a)) :
    Discreet (x >>= f : Action β) := by
  refine bind (f := ExceptT.bindCont f) hx fun r => ?_
  cases r with
  | ok a => exact hf a
  | error f => exact pure (Except.error f)

theorem readThen {f : Desk → Action β} (hf : ∀ d, Discreet (f d))
    (hsame : ∀ d d', d.Matches d' → f d' = f d) : Discreet (get >>= f : Action β) := by
  intro d d' h
  show (f d' d').1 = (f d d).1 ∧ (f d d).2.Matches (f d' d').2 ∧ _
  rw [hsame d d' h]
  exact hf d d d' h

theorem lift {x : StateM Desk α} (hx : Discreet x) : Discreet (ExceptT.lift x : Action α) := by
  intro d d' h
  obtain ⟨hr, hd, ho⟩ := hx d d' h
  exact ⟨congrArg Except.ok hr, hd, ho⟩

theorem run {x : Action α} (hx : Discreet x) : Discreet x.run := hx

theorem done (a : α) : Discreet (Pure.pure a : Action α) :=
  pure (Except.ok a)

theorem failed (f : Failure) : Discreet (throw f : Action α) :=
  pure (Except.error f)

theorem given (r : Except Failure α) : Discreet (ExceptT.mk (Pure.pure r) : Action α) :=
  pure r

theorem guarded {x : Action α} (operation : String) (codes : List String) (hx : Discreet x) :
    Discreet (NoticeLedger.guarded operation codes x) := by
  intro d d' h
  obtain ⟨hr, hd, ho⟩ := hx d d' h
  exact ⟨congrArg (Except.mapError (Failure.wrap operation codes)) hr, hd, ho⟩

theorem resultOf {x : Action α} (hx : Discreet x) : Discreet (NoticeLedger.resultOf x) :=
  lift hx

theorem note (source : Log.Source) (level : Log.Level) (message : String) :
    Discreet (Desk.note source level message) :=
  fun _ _ h => ⟨rfl, ⟨h.store, h.platform, h.now, h.hook, h.journaled⟩, rfl⟩

theorem ask (question : Store → Except Failure α) : Discreet (Desk.ask question) := by
  intro d d' h
  refine ⟨?_, h, rfl⟩
  show question d'.store = question d.store
  rw [h.store]

theorem change (operation : Store → Instant → Except Failure (α × Store)) :
    Discreet (Desk.change operation) := by
  intro d d' h
  rw [Desk.change, Desk.change, h.store, h.now]
  cases operation d.store d.now with
  | ok a => exact ⟨rfl, ⟨rfl, h.platform, rfl, h.hook, h.journaled⟩, rfl⟩
  | error f => exact ⟨rfl, h, rfl⟩

theorem call (operation : Platform → Except Failure α × Platform) :
    Discreet (ExceptT.mk (Desk.call operation)) := by
  intro d d' h
  refine ⟨?_, ⟨h.store, ?_, h.now, h.hook, h.journaled⟩, rfl⟩
  · show (operation d'.platform).1 = (operation d.platform).1
    rw [h.platform]
  · show (operation d'.platform).2.quiet = (operation d.platform).2.quiet
    rw [h.platform]

theorem updateMetadata (transactionId : Given) (changes : List (String × Given))
    (tenantId : Given) : Discreet (Desk.updateMetadata transactionId changes tenantId) := by
  refine andThen (change _) fun missed => ?_
  cases missed with
  | false => exact done ()
  | true => exact lift (note _ _ _)

theorem appendJournal (e : JournalEntry) : Discreet (Desk.appendJournal e) := by
  refine andThen (change _) fun e => andThen ?_ fun _ => done e
  intro d d' h
  refine ⟨rfl, ⟨h.store, h.platform, h.now, h.hook, ?_⟩, rfl⟩
  show d'.journaled ++ [e] = d.journaled ++ [e]
  rw [h.journaled]

theorem afterPurchase (payment : Payment) (context : CallContext) :
    Discreet (Desk.afterPurchase payment context) := by
  refine readThen (fun d => ?_) fun d d' h => by rw [h.platform, h.hook]
  split
  · cases d.onPurchase.save with
    | none =>
      cases d.onPurchase.failure with
      | none => exact done ()
      | some f => exact failed f
    | some draft =>
      refine andThen (change _) fun _ => ?_
      cases d.onPurchase.failure with
      | none => exact done ()
      | some f => exact failed f
  · exact done ()

theorem createPurchase (account : Account) (order : PurchaseOrder) (context : CallContext) :
    Discreet (Desk.createPurchase account order context) :=
  andThen (call _) fun payment => andThen (afterPurchase payment context) fun _ => done payment

end Discreet

/-! ## What is done for a notice -/

theorem findResponse_discreet (ref : Given) : Discreet (findResponse ref) :=
  .guarded _ _ (.ask _)

theorem resolve_discreet (n : Notice) : Discreet (resolve n) := by
  rw [resolve]
  split
  · exact .done none
  · refine .andThen (findResponse_discreet _) fun found => ?_
    cases found with
    | some response => exact .done _
    | none =>
      dsimp only
      split
      · exact .done none
      · exact .andThen (.guarded _ _ (.ask _)) fun _ => .done _

theorem earlierOf_discreet (n : Notice) : Discreet (earlierOf n) := by
  rw [earlierOf]
  split
  · exact .done none
  · exact findResponse_discreet _

theorem findAccount_discreet (id : Given) (context : CallContext) :
    Discreet (findAccount id context) :=
  .guarded _ _ (.call fun p => p.getAccount id context)

theorem createChargeback_discreet (n : Notice) (earlier : StoredResponse) (context : CallContext) :
    Discreet (createChargeback n earlier context) :=
  .andThen (findAccount_discreet _ _) fun account => .andThen (.given _) fun amount =>
    .guarded _ _ (.call fun p =>
      p.createChargeback account ⟨earlier.paymentId, amount, some n.reason⟩ context)

theorem chargeBack_discreet (userName : String) (n : Notice) :
    Discreet (chargeBack userName n) := by
  refine .bind (.run (earlierOf_discreet n)) fun found => ?_
  match found with
  | .error f => exact .pure _
  | .ok none => exact .bind (.note _ _ _) fun _ => .pure _
  | .ok (some earlier) =>
    refine .read (fun d => .bind (.run (createChargeback_discreet n earlier _)) fun r => ?_)
      fun d d' h => by rw [h.now]
    match r with
    | .error f => exact .pure _
    | .ok payment =>
      dsimp only
      split
      · exact .pure _
      · exact .bind (.note _ _ _) fun _ => .pure _

theorem reportState_discreet (n : Notice) (account : Account) (transactionId : Given)
    (context : CallContext) : Discreet (Delivery.reportState n account transactionId context) := by
  refine .andThen (.resultOf (.guarded _ _ (.call fun p =>
    p.reportState account transactionId (some n.reportedSuccess) context))) fun r => ?_
  match r with
  | .ok _ => exact .done true
  | .error f =>
    split
    · contradiction
    · exact .andThen (.lift (.note _ _ _)) fun _ => .done false
    · exact .failed _

theorem updateTransaction_discreet (n : Notice) (c : Correlation) (account : Account)
    (context : CallContext) : Discreet (updateTransaction n c account context) :=
  .andThen (.guarded _ _ (.updateMetadata _ _ _)) fun _ =>
    .andThen (reportState_discreet _ _ _ _) fun _ => .done _

theorem purchaseMethod_discreet (p : Profile) (account : Account) (context : CallContext) :
    Discreet (purchaseMethod p account context) := by
  refine .andThen (.guarded _ _ (.call fun p => p.listPaymentMethods account.id context))
    fun methods => ?_
  split
  · exact .done _
  · exact .failed _

theorem purchase_discreet (p : Profile) (n : Notice) (c : Correlation) (account : Account)
    (context : CallContext) : Discreet (purchase p n c account context) :=
  .andThen (.given _) fun _ => .andThen (purchaseMethod_discreet p account context) fun _ =>
    .andThen (.guarded _ _ (.createPurchase _ _ _)) fun _ =>
      .andThen (.lift (.note _ _ _)) fun _ => .done _

theorem settle_discreet (p : Profile) (n : Notice) : Discreet (settle p n) := by
  refine .bind (.run (resolve_discreet n)) fun found => ?_
  match found with
  | .error f => exact .pure _
  | .ok none => exact .bind (.note _ _ _) fun _ => .pure _
  | .ok (some c) =>
    refine .read (fun d => .bind (.run (findAccount_discreet _ _)) fun r => ?_)
      fun d d' h => by rw [h.now]
    match r with
    | .error f => exact .pure _
    | .ok account =>
      dsimp only
      split
      · refine .bind (.run (purchase_discreet p n c account _)) fun r => ?_
        match r with
        | .error f => exact .pure _
        | .ok payment => exact .pure _
      · exact .bind (.run (updateTransaction_discreet n c account _)) fun _ => .pure _

theorem record_discreet (ids : LedgerIds) (type : Given) (n : Notice) (now : Instant) :
    Discreet (record ids type n now) := by
  refine .andThen (.resultOf (.appendJournal _)) fun r => ?_
  match r with
  | .ok _ => exact .andThen (.lift (.note _ _ _)) fun _ => .done _
  | .error _ => exact .failed _

/-- What is done for a notice does not depend on the log or on what was told, and tells nothing. -/
theorem reconcile_discreet (p : Profile) (n : Notice) :
    Discreet (reconcile p n n.classification) := by
  rw [reconcile_eq]
  refine .readThen (fun d => .andThen (.lift ?_) fun a => .andThen (record_discreet _ _ _ _)
    fun _ => .given _) fun d d' h => by rw [h.now]
  rw [attempt]
  split
  · exact chargeBack_discreet _ _
  · exact settle_discreet _ _

end NoticeLedger
