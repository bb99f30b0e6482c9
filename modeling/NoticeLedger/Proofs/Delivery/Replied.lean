import NoticeLedger.Proofs.Delivery.Reporting
import NoticeLedger.Proofs.Rehearsal.Announced

/-!
# NoticeLedger.Proofs.Delivery.Replied

What a delivery makes of the replies of a platform that is reached by requests.

* `Remote.Took` — a platform after some calls; `Remote.Refuses` — it refuses one of them that is no
  report of a state.
* `Heeds P x` — `x` sends some calls; if one is refused in this way, what `x` gives has `P`.
* `reconcile_heeds` — a refusal is heeded by everything that is done for a notice, whatever the
  store does.
* `process_replied` — a delivery by its replies: the report of a state has an outcome of its own
  for each kind of reply, and a refusal of any other call asks for another delivery.
-/

namespace NoticeLedger

open Delivery

/-! ## Calls that are refused -/

namespace Remote

/-- The request that a call sends. -/
def requestOf (r : Remote) (call : LedgerCall × CallContext) : Request :=
  r.endpoint.request call.1.method call.1.path (some call.2) call.1.payload

/-- A platform after some calls: their requests were sent, and a reply was used up for each. -/
structure Took (r : Remote) (calls : List (LedgerCall × CallContext)) (r' : Remote) : Prop where
  endpoint : r'.endpoint = r.endpoint
  requests : r'.requests = r.requests ++ calls.map r.requestOf
  replies : r'.replies = r.replies.drop calls.length

/-- Of some calls, one that is no report of a state is answered with a status outside the 200s. -/
def Refuses (r : Remote) (calls : List (LedgerCall × CallContext)) : Prop :=
  ∃ (i : Nat) (call : LedgerCall) (context : CallContext) (status : Nat),
    calls[i]? = some (call, context) ∧ call.operation ≠ .reportState ∧
      r.replies[i]?.bind Reply.status? = some status ∧ isOk status = false

theorem Took.nothing (r : Remote) : r.Took [] r :=
  ⟨rfl, (List.append_nil _).symm, rfl⟩

theorem Took.append {r r₁ r₂ : Remote} {calls calls' : List (LedgerCall × CallContext)}
    (h : r.Took calls r₁) (h' : r₁.Took calls' r₂) : r.Took (calls ++ calls') r₂ := by
  refine ⟨h'.endpoint.trans h.endpoint, ?_, ?_⟩
  · have hsame : r₁.requestOf = r.requestOf := by
      funext call
      rw [requestOf, requestOf, h.endpoint]
    rw [h'.requests, h.requests, hsame, List.map_append, List.append_assoc]
  · rw [h'.replies, h.replies, List.drop_drop, List.length_append]

theorem not_refuses_nil (r : Remote) : ¬ r.Refuses [] := by
  rintro ⟨_, _, _, _, h, -⟩
  exact nomatch h

theorem refuses_append {r r₁ : Remote} {calls calls' : List (LedgerCall × CallContext)}
    (h : r.Took calls r₁) (hr : r.Refuses (calls ++ calls')) :
    r.Refuses calls ∨ r₁.Refuses calls' := by
  obtain ⟨i, call, context, status, hi, hop, hreply, hok⟩ := hr
  rw [List.getElem?_append] at hi
  split at hi
  · exact .inl ⟨i, call, context, status, hi, hop, hreply, hok⟩
  · refine .inr ⟨i - calls.length, call, context, status, hi, hop, ?_, hok⟩
    rw [h.replies, List.getElem?_drop, Nat.add_sub_cancel' (by omega)]
    exact hreply

/-- A status outside the 200s may pass with another delivery, also where the body breaks off. -/
theorem exchange_of_not_ok {r : Remote} {status : Nat} (call : LedgerCall) (context : CallContext)
    (h : r.replies.head?.bind Reply.status? = some status) (hok : isOk status = false) :
    ∃ f, (r.exchange call context).1 = .error f ∧ f.disposition = .retryable := by
  obtain ⟨reply, hreply, hstatus⟩ := Option.bind_eq_some_iff.mp h
  cases reply with
  | answered _ text =>
    cases hstatus
    have hreply : replyOf r.replies.head? = .ok (status, .ok text) := by rw [hreply, replyOf]
    rcases exchange_of_refusal call context hreply hok with ⟨-, _, he⟩ | ⟨-, _, _, -, he⟩
    · exact ⟨_, he, rfl⟩
    · exact ⟨_, he, rfl⟩
  | broken _ message =>
    cases hstatus
    have hreply : replyOf r.replies.head? = .ok (status, .error (.unforeseen message)) := by
      rw [hreply, replyOf]
    exact ⟨_, exchange_of_broken call context hreply, rfl⟩
  | failed _ => exact nomatch hstatus
  | silent => exact nomatch hstatus

end Remote

/-- At a platform that is reached by requests, `x` sends some calls; if it refuses one of them that
is no report of a state, what `x` gives has `P`. -/
def Heeds {α : Type} (P : α → Prop) (x : StateM Desk α) : Prop :=
  ∀ d r, d.platform = .remote r → ∃ calls r', (x d).2.platform = .remote r' ∧
    r.Took calls r' ∧ (r.Refuses calls → P (x d).1)

/-- A failure that another delivery may get past. -/
def Retries {α : Type} (r : Except Failure α) : Prop :=
  ∃ f, r = .error f ∧ f.disposition = .retryable

namespace Heeds

variable {α β : Type}

theorem idle {x : StateM Desk α} (h : ∀ d, (x d).2.platform = d.platform) (P : α → Prop) :
    Heeds P x :=
  fun d r hd => ⟨[], r, (h d).trans hd, .nothing r, fun hr => absurd hr r.not_refuses_nil⟩

/-- What was given up stays given up in what follows. -/
theorem bind {x : StateM Desk α} {f : α → StateM Desk β} {P : α → Prop} {Q : β → Prop}
    (hx : Heeds P x) (hf : ∀ a, Heeds Q (f a)) (hpq : ∀ a d, P a → Q (f a d).1) :
    Heeds Q (x >>= f) := by
  intro d r hd
  obtain ⟨calls, r₁, hd₁, htook, hp⟩ := hx d r hd
  obtain ⟨calls', r₂, hd₂, htook', hq⟩ := hf (x d).1 (x d).2 r₁ hd₁
  refine ⟨calls ++ calls', r₂, hd₂, htook.append htook', fun hr => ?_⟩
  -- the refused call was made by the one or by the other
  rcases Remote.refuses_append htook hr with hr | hr
  · exact hpq _ _ (hp hr)
  · exact hq hr

theorem andThen {x : Action α} {f : α → Action β} (hx : Heeds Retries x)
    (hf : ∀ a, Heeds Retries (f a)) : Heeds Retries (x >>= f : Action β) := by
  refine bind (f := ExceptT.bindCont f) hx (fun r => ?_) fun r d hr => ?_
  · cases r with
    | ok a => exact hf a
    | error f => exact idle (fun _ => rfl) _
  · obtain ⟨f, rfl, hf⟩ := hr
    exact ⟨f, rfl, hf⟩

theorem mono {x : StateM Desk α} {P Q : α → Prop} (hx : Heeds P x) (h : ∀ a, P a → Q a) :
    Heeds Q x := by
  intro d r hd
  obtain ⟨calls, r', hd', htook, hp⟩ := hx d r hd
  exact ⟨calls, r', hd', htook, fun hr => h _ (hp hr)⟩

theorem mapped {x : StateM Desk α} (g : α → β) {P : α → Prop} {Q : β → Prop} (hx : Heeds P x)
    (h : ∀ a, P a → Q (g a)) {y : StateM Desk β} (hy : ∀ d, y d = (g (x d).1, (x d).2)) :
    Heeds Q y := by
  intro d r hd
  obtain ⟨calls, r', hd', htook, hp⟩ := hx d r hd
  rw [hy]
  exact ⟨calls, r', hd', htook, fun hr => h _ (hp hr)⟩

theorem exchanged {operation : Platform → Except Failure α × Platform} (call : LedgerCall)
    (context : CallContext) (read : Json → Except Failure α) {P : Except Failure α → Prop}
    (h : ∀ r, operation (.remote r) =
      ((r.exchange call context).1.bind read, .remote (r.exchange call context).2))
    (hp : call.operation ≠ .reportState → ∀ f : Failure, f.disposition = .retryable →
      P (.error f)) :
    Heeds P (ExceptT.mk (Desk.call operation)) := by
  intro d r hd
  obtain ⟨hrequests, hreplies, hendpoint⟩ := r.exchange_sends call context
  have hrun : ExceptT.mk (Desk.call operation) d = ((operation d.platform).1,
    { d with
      platform := (operation d.platform).2.quiet, log := d.log ++ (operation d.platform).2.log }) :=
    rfl
  rw [hrun, hd, h]
  refine ⟨[(call, context)], _, rfl, ⟨hendpoint, hrequests, hreplies⟩, ?_⟩
  rintro ⟨i, _, _, status, hi, hop, hreply, hok⟩
  cases i with
  | succ i => exact nomatch hi
  | zero =>
    cases hi
    rw [← List.head?_eq_getElem?] at hreply
    obtain ⟨f, he, hf⟩ := Remote.exchange_of_not_ok call context hreply hok
    rw [he]
    exact hp hop f hf

theorem called {operation : Platform → Except Failure α × Platform} (call : LedgerCall)
    (context : CallContext) (read : Json → Except Failure α)
    (h : ∀ r, operation (.remote r) =
      ((r.exchange call context).1.bind read, .remote (r.exchange call context).2)) :
    Heeds Retries (ExceptT.mk (Desk.call operation)) :=
  exchanged call context read h fun _ f hf => ⟨f, rfl, hf⟩

/-- Without codes that need no action, a call is made again. -/
theorem retries_wrap {operation : String} {r : Except Failure α} (h : Retries r) :
    Retries (r.mapError (Failure.wrap operation [])) := by
  obtain ⟨f, rfl, hf⟩ := h
  refine ⟨_, rfl, ?_⟩
  unfold Failure.wrap
  split
  · exact hf
  · split
    · rfl
    · split
      · rfl
      · rfl

theorem guarded {x : Action α} (operation : String) (hx : Heeds Retries x) :
    Heeds Retries (NoticeLedger.guarded operation [] x) :=
  mapped (Except.mapError _) hx (fun _ h => retries_wrap h) fun _ => rfl

theorem note (source : Log.Source) (level : Log.Level) (message : String) (P : Unit → Prop) :
    Heeds P (Desk.note source level message) :=
  idle (fun _ => rfl) P

theorem lift {x : StateM Desk α} (hx : Heeds (fun _ => False) x) :
    Heeds Retries (ExceptT.lift x : Action α) :=
  mapped Except.ok hx (fun _ h => h.elim) fun _ => rfl

theorem given (r : Except Failure α) (P : Except Failure α → Prop) :
    Heeds P (ExceptT.mk (Pure.pure r) : Action α) :=
  idle (fun _ => rfl) P

theorem ask (question : Store → Except Failure α) (P : Except Failure α → Prop) :
    Heeds P (Desk.ask question) :=
  idle (fun _ => rfl) P

theorem change (operation : Store → Instant → Except Failure (α × Store))
    (P : Except Failure α → Prop) : Heeds P (Desk.change operation) := by
  refine idle (fun d => ?_) P
  rw [Desk.change]
  split
  · rfl
  · rfl

theorem updateMetadata (transactionId : Given) (changes : List (String × Given))
    (tenantId : Given) : Heeds Retries (Desk.updateMetadata transactionId changes tenantId) := by
  refine andThen (change _ _) fun missed => ?_
  cases missed with
  | false => exact given _ _
  | true => exact lift (note _ _ _ _)

theorem afterPurchase (payment : Payment) (context : CallContext) :
    Heeds Retries (Desk.afterPurchase payment context) := by
  intro d r hd
  -- only a ledger in memory has something done after a purchase
  have hrun : Desk.afterPurchase payment context d = (.ok (), d) := by
    show (if d.platform.isBook then _ else pure () : Action Unit) d = _
    rw [hd]
    rfl
  rw [hrun]
  exact ⟨[], r, hd, .nothing r, fun hr => absurd hr r.not_refuses_nil⟩

theorem createPurchase (account : Account) (order : PurchaseOrder) (context : CallContext) :
    Heeds Retries (Desk.createPurchase account order context) :=
  andThen (called (.createPurchase account order) context Answer.payment fun _ => rfl)
    fun payment => andThen (afterPurchase payment context) fun _ => given _ _

end Heeds

/-! ## What is done for a notice -/

theorem findResponse_heeds (ref : Given) : Heeds Retries (findResponse ref) :=
  .guarded _ (.ask _ _)

theorem resolve_heeds (n : Notice) : Heeds Retries (resolve n) := by
  refine .idle (fun d => ?_) _
  rw [resolve_desk]

theorem earlierOf_heeds (n : Notice) : Heeds Retries (earlierOf n) := by
  rw [earlierOf]
  split
  · exact .given _ _
  · exact findResponse_heeds _

theorem findAccount_heeds (id : Given) (context : CallContext) :
    Heeds Retries (findAccount id context) :=
  .guarded _ (.called (.getAccount id) context Answer.account fun _ => rfl)

theorem createChargeback_heeds (n : Notice) (earlier : StoredResponse) (context : CallContext) :
    Heeds Retries (createChargeback n earlier context) :=
  .andThen (findAccount_heeds _ _) fun account => .andThen (.given _ _) fun amount =>
    .guarded _ (.called
      (.createChargeback account ⟨earlier.paymentId, amount, some n.reason⟩) context
      Answer.payment fun _ => rfl)

/-- An attempt that another delivery may get past. -/
def Attempt.Retries (a : Attempt) : Prop :=
  NoticeLedger.Retries a.result

/-- An attempt goes on after an action: its failure is that of the attempt. -/
theorem Heeds.runThen {α : Type} {x : Action α} {f : Except Failure α → StateM Desk Attempt}
    (hx : Heeds Retries x) (hf : ∀ r, Heeds Attempt.Retries (f r))
    (hfail : ∀ e, ∃ ids, f (.error e) = Pure.pure { ids := ids, result := .error e }) :
    Heeds Attempt.Retries (x.run >>= f) := by
  refine .bind hx hf fun r d hr => ?_
  obtain ⟨e, rfl, he⟩ := hr
  obtain ⟨ids, hids⟩ := hfail e
  rw [hids]
  exact ⟨e, rfl, he⟩

theorem Heeds.closing (a : Attempt) : Heeds Attempt.Retries (Pure.pure a) :=
  .idle (fun _ => rfl) _

theorem Heeds.read {α : Type} {f : Desk → StateM Desk α} {P : α → Prop}
    (hf : ∀ d, Heeds P (f d)) : Heeds P (get >>= f) :=
  fun d r hd => hf d d r hd

theorem chargeBack_heeds (userName : String) (n : Notice) :
    Heeds Attempt.Retries (chargeBack userName n) := by
  refine .runThen (earlierOf_heeds n) (fun found => ?_) fun e => ⟨_, rfl⟩
  match found with
  | .error f => exact .closing _
  | .ok none => exact .bind (.note _ _ _ (fun _ => False)) (fun _ => .closing _) fun _ _ h => h.elim
  | .ok (some earlier) =>
    refine .read fun d => .runThen (createChargeback_heeds n earlier _) (fun r => ?_)
      fun e => ⟨_, rfl⟩
    match r with
    | .error f => exact .closing _
    | .ok payment =>
      dsimp only
      split
      · exact .closing _
      · exact .bind (.note _ _ _ (fun _ => False)) (fun _ => .closing _) fun _ _ h => h.elim

/-- The report of a state is the one call whose refusal may need no action. -/
theorem reportState_heeds (n : Notice) (account : Account) (transactionId : Given)
    (context : CallContext) :
    Heeds Retries (Delivery.reportState n account transactionId context) := by
  -- that call is the exception of `Refuses`, so nothing is claimed of what it gives
  have hreport : Heeds (fun _ => False)
      (Desk.reportState account transactionId (some n.reportedSuccess) context) :=
    .exchanged (.reportState account transactionId (some n.reportedSuccess)) context
      Answer.payment (fun _ => rfl) fun hop => absurd rfl hop
  have hresult : Heeds (fun _ => False)
      (resultOf (guarded LedgerOperation.reportState.name [PlatformCode.notPending]
        (Desk.reportState account transactionId (some n.reportedSuccess) context))) :=
    .mapped (fun r => .ok (r.mapError
      (Failure.wrap LedgerOperation.reportState.name [PlatformCode.notPending]))) hreport
      (fun _ h => h) fun _ => rfl
  refine .andThen (hresult.mono fun _ h => h.elim) fun r => ?_
  match r with
  | .ok _ => exact .given (.ok true) _
  | .error f =>
    split
    · contradiction
    · exact .andThen (.lift (.note _ _ _ _)) fun _ => .given (.ok false) _
    · exact .given (.error _) _

theorem updateTransaction_heeds (n : Notice) (c : Correlation) (account : Account)
    (context : CallContext) : Heeds Retries (updateTransaction n c account context) :=
  .andThen (.guarded _ (.updateMetadata _ _ _)) fun _ =>
    .andThen (reportState_heeds _ _ _ _) fun _ => .given _ _

theorem purchaseMethod_heeds (p : Profile) (account : Account) (context : CallContext) :
    Heeds Retries (purchaseMethod p account context) := by
  refine .andThen (.guarded _ (.called (.listPaymentMethods account.id) context Answer.methods
    fun _ => rfl)) fun methods => ?_
  split
  · exact .given _ _
  · exact .given _ _

theorem purchase_heeds (p : Profile) (n : Notice) (c : Correlation) (account : Account)
    (context : CallContext) : Heeds Retries (purchase p n c account context) :=
  .andThen (.given _ _) fun _ => .andThen (purchaseMethod_heeds p account context) fun _ =>
    .andThen (.guarded _ (.createPurchase _ _ _)) fun _ =>
      .andThen (.lift (.note _ _ _ _)) fun _ => .given _ _

theorem settle_heeds (p : Profile) (n : Notice) : Heeds Attempt.Retries (settle p n) := by
  refine .runThen (resolve_heeds n) (fun found => ?_) fun e => ⟨_, rfl⟩
  match found with
  | .error f => exact .closing _
  | .ok none => exact .bind (.note _ _ _ (fun _ => False)) (fun _ => .closing _) fun _ _ h => h.elim
  | .ok (some c) =>
    refine .read fun d => .runThen (findAccount_heeds _ _) (fun r => ?_) fun e => ⟨_, rfl⟩
    match r with
    | .error f => exact .closing _
    | .ok account =>
      dsimp only
      split
      · refine .runThen (purchase_heeds p n c account _) (fun r => ?_) fun e => ⟨_, rfl⟩
        match r with
        | .error f => exact .closing _
        | .ok payment => exact .closing _
      · exact .runThen (updateTransaction_heeds n c account _) (fun r => .closing _)
          fun e => ⟨_, rfl⟩

/-! ## The journal and the receipt -/

/-- The journal is written without a call; if it is not, the notice is to be delivered again. -/
theorem record_cases (ids : LedgerIds) (type : Given) (n : Notice) (now : Instant) (d : Desk) :
    ((∃ e, (record ids type n now d).1 = .ok e) ∨ Retries (record ids type n now d).1) ∧
      (record ids type n now d).2.platform = d.platform := by
  cases h : d.store.appendJournal ⟨ids.filled, some type.orNull, n, now⟩ with
  | ok written =>
    obtain ⟨d₁, hrecord, hplatform⟩ := record_run (e := written.1) (s := written.2) h
    rw [hrecord]
    exact ⟨.inl ⟨_, rfl⟩, hplatform⟩
  | error f =>
    rw [record_failed h]
    exact ⟨.inr ⟨_, rfl, rfl⟩, rfl⟩

theorem Heeds.readThen {β : Type} {f : Desk → Action β} {P : Except Failure β → Prop}
    (hf : ∀ d, Heeds P (f d)) : Heeds P (get >>= f : Action β) :=
  fun d r hd => hf d d r hd

theorem Heeds.liftThen {α β : Type} {x : StateM Desk α} {f : α → Action β} {P : α → Prop}
    (hx : Heeds P x) (hf : ∀ a, Heeds Retries (f a)) (hpq : ∀ a d, P a → Retries (f a d).1) :
    Heeds Retries (ExceptT.lift x >>= f : Action β) :=
  fun d r hd => Heeds.bind hx hf hpq d r hd

/-- An attempt stays to be made again whether its notice can be journaled or not. -/
theorem Heeds.journaled {x : StateM Desk Attempt} (hx : Heeds Attempt.Retries x)
    (intent : Option Intent) (n : Notice) : Heeds Retries (journaled intent n x) := by
  refine .readThen fun d => .liftThen hx (fun a => ?_) fun a d' ha => ?_
  · exact .andThen (.idle (fun d' => (record_cases _ _ _ _ d').2) _) fun _ => .given _ _
  · obtain ⟨hrecord, -⟩ := record_cases a.ids (some (Intent.value intent)) n d.now d'
    rcases h : record a.ids (some (Intent.value intent)) n d.now d' with ⟨r, d₁⟩
    rw [h] at hrecord
    rcases hrecord with ⟨e, he⟩ | ⟨f, he, hf⟩
    · subst he
      rw [Action.bind_ok h]
      exact ha
    · subst he
      rw [Action.bind_error h]
      exact ⟨f, rfl, hf⟩

theorem reconcile_heeds (p : Profile) (n : Notice) :
    Heeds Retries (reconcile p n n.classification) := by
  rw [reconcile_eq]
  refine .journaled ?_ _ _
  rw [attempt]
  split
  · exact chargeBack_heeds _ _
  · exact settle_heeds _ _

theorem Retries.signal {r : Except Failure Outcome} (h : Retries r) (n : Notice) :
    (receiptOf n r).signal = ⟨false, true⟩ := by
  obtain ⟨f, rfl, hf⟩ := h
  cases f with
  | benign => exact nomatch hf
  | malformed => exact nomatch hf
  | _ => rfl

/-- What was done for a notice about a transaction whose account is found, at a store that takes
what is written, tells what became of the report of its state. -/
theorem reconcile_tells {p : Profile} {n : Notice} {c : Correlation} {account : Account} {d : Desk}
    {r : Remote} {context : CallContext} (hd : d.platform = .remote r)
    (hn : n.classification ≠ some .chargeback)
    (hx : contextOf c.tenantId p.userName d.now = context)
    (hc : (resolve n d).1 = .ok (some c)) (ht : c.transactionId ≠ .null)
    (ha : (r.getAccount c.accountId context).1 = .ok account) (hs : d.store.Takes d.now n c) :
    (receiptOf n (reconcile p n n.classification d).1).TellsReport c.ids
      (r.replies.drop 1).head?
      ((r.getAccount c.accountId context).2.reportState account c.transactionId
        (some n.reportedSuccess) context).1 := by
  obtain ⟨-, hreplies, -⟩ := r.exchange_sends (.getAccount c.accountId) context
  have hreported := (r.getAccount c.accountId context).2.reportState_reported account
    c.transactionId (some n.reportedSuccess) context
  rw [show (r.getAccount c.accountId context).2.replies = r.replies.drop 1 from hreplies]
    at hreported
  rw [reconcile_run hd hn hx hc ht ha hs]
  exact hreported.receipt n c.ids

/-- What a delivery makes of the replies of a platform that is reached by requests, at any store.
If a notice is about a transaction whose account is found, and the store takes what is written, the
receipt tells what became of the report of its state. And whatever the notice and the store are, a
status outside the 200s for any other call asks for another delivery. -/
theorem process_replied {rc : Reconciler} (hrc : rc.Articulate) (n : Notice) (d : Desk)
    (r : Remote) (hd : d.platform = .remote r) :
    ∃ receipt d', rc.process n d = (.ok receipt, d') ∧
      (∀ c context account, n.classification ≠ some .chargeback →
        (resolve n d).1 = .ok (some c) → c.transactionId ≠ .null →
        contextOf c.tenantId rc.profile.userName d.now = context →
        (r.getAccount c.accountId context).1 = .ok account → d.store.Takes d.now n c →
        receipt.TellsReport c.ids (r.replies.drop 1).head?
          ((r.getAccount c.accountId context).2.reportState account c.transactionId
            (some n.reportedSuccess) context).1) ∧
      ∃ calls r', d'.platform = .remote r' ∧ r.Took calls r' ∧
        (r.Refuses calls → receipt.signal = ⟨false, true⟩) := by
  obtain ⟨d', hrun, hmatches⟩ := hrc.process_ok n d
  obtain ⟨calls, r', hplatform, htook, hretries⟩ := reconcile_heeds rc.profile n d r hd
  exact ⟨_, d', hrun, fun _ _ _ hn hc ht hx ha hs => reconcile_tells hd hn hx hc ht ha hs,
    calls, r', hmatches.platform.trans hplatform, htook, fun hr => (hretries hr).signal n⟩

/-- The requests that a platform was sent. -/
def Platform.sent : Platform → List Request
  | .remote r => r.requests
  | .book _ => []

namespace Sample

/-- The account of the sample book, as a platform writes it. -/
def accountText : String :=
  "\x7b\"accountId\":\"account-1\"\x7d"

/-- The refusal to change the state of a transaction that is not pending. -/
def refusalText : String :=
  "\x7b\"code\":\"PAYMENT_NO_SUCH_SUCCESS_PAYMENT\"\x7d"

/-- The same with an object that cannot be read. -/
def garbledText : String :=
  "\x7b\"code\":\"PAYMENT_NO_SUCH_SUCCESS_PAYMENT\",\"details\":\x7b\"constructor\":\"x\"\x7d\x7d"

/-- A platform that is going to give some replies. -/
def remote (replies : List Reply) : Remote where
  endpoint := { baseUrl := "http://billing.test", apiKey := "key", apiSecret := "secret" }
  replies := replies

/-- The records of the sample bench, at such a platform. -/
def remoteDesk (replies : List Reply) : Desk where
  store := .memory bench.store
  platform := .remote (remote replies)
  now := bench.now

theorem remoteDesk_takes (replies : List Reply) :
    (remoteDesk replies).store.Takes (remoteDesk replies).now authorisation
      (.ofResponse response) :=
  ⟨_, _, _, _, rfl, rfl⟩

theorem getAccount_remote (replies : List Reply) (id : Given) (context : CallContext) :
    ((remote (.answered 200 accountText :: replies)).getAccount id context).1 =
      .ok ⟨.text "account-1", .null, .null⟩ := by
  have hbody : Answer.body accountText = .object [("accountId", .text "account-1")] := by
    decide +kernel
  have hreply : Remote.replyOf (remote (.answered 200 accountText :: replies)).replies.head? =
      .ok (200, .ok accountText) := rfl
  have hcall (r : Remote) : (r.getAccount id context).1 =
      (r.exchange (.getAccount id) context).1.bind Answer.account := rfl
  rw [hcall, Remote.exchange_of_isOk _ context hreply rfl, hbody]
  rfl

end Sample

/-- A refusal that a transaction is not pending is heeded; one to find the account asks for another
delivery. -/
theorem process_replied_sample :
    Sample.reconciler.Articulate ∧
    (∃ receipt d', Sample.reconciler.process Sample.authorisation (Sample.remoteDesk
          [.answered 200 Sample.accountText, .answered 409 Sample.refusalText]) =
        (.ok receipt, d') ∧
      receipt.result = .ok (.updated (Correlation.ofResponse Sample.response).ids false)) ∧
    ∃ receipt d', Sample.reconciler.process Sample.authorisation (Sample.remoteDesk
          [.answered 404 Sample.refusalText]) = (.ok receipt, d') ∧
      receipt.signal = ⟨false, true⟩ := by
  refine ⟨Sample.articulate, ?_, ?_⟩
  · have hbody : Answer.body Sample.refusalText =
        .object [("code", .text PlatformCode.notPending)] := by
      decide +kernel
    obtain ⟨receipt, d', hrun, htells, -⟩ := process_replied Sample.articulate Sample.authorisation
      (Sample.remoteDesk [.answered 200 Sample.accountText, .answered 409 Sample.refusalText])
      (Sample.remote [.answered 200 Sample.accountText, .answered 409 Sample.refusalText]) rfl
    have htells := htells (.ofResponse Sample.response) _ _ (by decide) rfl (by decide) rfl
      (Sample.getAccount_remote _ _ _) (Sample.remoteDesk_takes _)
    refine ⟨receipt, d', hrun,
      htells.notOpen.mpr ⟨⟨409, Sample.refusalText, _, rfl, rfl, hbody, rfl⟩, ?_⟩⟩
    rintro ⟨_, _, ⟨⟩, htrips⟩
    rw [hbody] at htrips
    obtain ⟨_, hfails⟩ := (Form.read_fails _ _).fails htrips
    exact nomatch hfails
  · obtain ⟨receipt, d', hrun, -, calls, r', hplatform, htook, hretries⟩ :=
      process_replied Sample.articulate Sample.authorisation
        (Sample.remoteDesk [.answered 404 Sample.refusalText])
        (Sample.remote [.answered 404 Sample.refusalText]) rfl
    have hsent : (reconcile Sample.profile Sample.authorisation Sample.authorisation.classification
        (Sample.remoteDesk [.answered 404 Sample.refusalText])).2.platform.sent.map
          Request.method = [.get] := by
      decide +kernel
    -- one request was sent, and it is none that changes anything
    obtain ⟨_, hrun', hmatches⟩ := Sample.articulate.process_ok Sample.authorisation
      (Sample.remoteDesk [.answered 404 Sample.refusalText])
    obtain ⟨-, hdesk⟩ := Prod.mk.inj (hrun.symm.trans hrun')
    rw [show Sample.reconciler.profile = Sample.profile from rfl, ← hdesk] at hmatches
    rw [← hmatches.platform, hplatform, Platform.sent, htook.requests] at hsent
    cases calls with
    | nil => exact nomatch hsent
    | cons call calls =>
      obtain ⟨call, context⟩ := call
      have hget : call.method = .get := (List.cons.inj hsent).1
      refine ⟨_, d', hrun, hretries ⟨0, call, context, 404, rfl, fun hop => ?_, rfl, rfl⟩⟩
      cases call with
      | reportState => exact nomatch hget
      | _ => exact nomatch hop

/-- A refusal that a transaction is not pending is not heeded if something else in it cannot be
read. -/
theorem not_every_refusal_heeded :
    ¬ ∀ (rc : Reconciler) (n : Notice) (d d' : Desk) (r : Remote) (receipt : Receipt)
        (c : Correlation) (account : Account) (context : CallContext),
      rc.process n d = (.ok receipt, d') →
      d.platform = .remote r → n.classification ≠ some .chargeback →
      contextOf c.tenantId rc.profile.userName d.now = context →
      (resolve n d).1 = .ok (some c) →
      c.transactionId ≠ .null → (r.getAccount c.accountId context).1 = .ok account →
      d.store.Takes d.now n c →
      (receipt.result = .ok (.updated c.ids false) ↔
        Remote.NotPending (r.replies.drop 1).head?) := by
  intro h
  have hbody : Answer.body Sample.garbledText = .object
      [("code", .text PlatformCode.notPending),
        ("details", .object [("constructor", .text "x")])] := by
    decide +kernel
  have hd : (Sample.remoteDesk
      [.answered 200 Sample.accountText, .answered 409 Sample.garbledText]).platform =
    .remote (Sample.remote
      [.answered 200 Sample.accountText, .answered 409 Sample.garbledText]) := rfl
  have hc : (resolve Sample.authorisation (Sample.remoteDesk
      [.answered 200 Sample.accountText, .answered 409 Sample.garbledText])).1 =
    .ok (some (.ofResponse Sample.response)) := rfl
  have hn : Sample.authorisation.classification ≠ some .chargeback := by decide
  have ht : (Correlation.ofResponse Sample.response).transactionId ≠ .null := by decide
  obtain ⟨d', hrun, -⟩ := Sample.articulate.process_ok Sample.authorisation
    (Sample.remoteDesk [.answered 200 Sample.accountText, .answered 409 Sample.garbledText])
  have hheeded := (h Sample.reconciler _ _ _ _ _ _ _ _ hrun hd hn rfl hc ht
    (Sample.getAccount_remote _ _ _) (Sample.remoteDesk_takes _)).mpr
    ⟨409, Sample.garbledText, _, rfl, rfl, hbody, rfl⟩
  have htells := reconcile_tells (p := Sample.profile) hd hn rfl hc ht
    (Sample.getAccount_remote _ _ _) (Sample.remoteDesk_takes _)
  refine (htells.notOpen.mp hheeded).2 ⟨409, Sample.garbledText, rfl, ?_⟩
  rw [hbody]
  exact .loose (List.mem_cons_of_mem _ List.mem_cons_self) (by decide) rfl nofun (.here rfl)

end NoticeLedger
