import NoticeLedger.Proofs.Ledger.Answers
import NoticeLedger.Proofs.Rehearsal.Soundness
import NoticeLedger.Proofs.Store.Mirror

/-!
# NoticeLedger.Proofs.Delivery.Twins

Deliveries at two desks, one with its records in memory and one with them in tables.

* `Desk.Twins k d d'` — the desks have stores that mirror each other, with `k` journal entries at
  most, and the same platform, time and hook.
* `Agree k x y k' R` — at twin desks `x` and `y` give results in the relation `R`, and leave twin
  desks.
* `Tally R` — results that are values in a relation, or the same failure.
* `resolve_agree`, `settle_agree`, `chargeBack_agree`, `record_agree` — the parts of a delivery.
* `Reconciler.process_agree`, `processBatch_agree` — deliveries of notices of their types are told
  alike.

The desks may write other lines to their logs. What the records tell is the same apart from times,
which no delivery reads.
-/

namespace NoticeLedger

open Delivery

/-- A correlation of the types that records have. -/
structure Correlation.Typed (c : Correlation) : Prop where
  accountId : c.accountId.IsText
  tenantId : c.tenantId.IsText
  paymentId : c.paymentId.IsWord
  transactionId : c.transactionId.IsWord

/-- A hook that saves responses whose parts have their types, for payments and tenants that have
theirs. -/
def PurchaseHook.Typed (h : PurchaseHook) : Prop :=
  ∀ save, h.save = some save → ∀ (payment : Payment) (context : CallContext), payment.Typed →
    context.tenantId.IsText → (save payment context).Typed

/-- Two desks with the same platform, time and hook, where the same was told. The first has its
records in memory, the second in tables that mirror them. -/
structure Desk.Twins (k : Nat) (d d' : Desk) : Prop where
  stores : ∃ s t, d.store = .memory s ∧ d'.store = .relational t ∧ s.Mirrors t ∧
    s.journal.length ≤ k
  platform : d'.platform = d.platform
  now : d'.now = d.now
  hook : d'.onPurchase = d.onPurchase
  observations : d'.observations = d.observations
  now_typed : d.now.inFourDigits = d.now
  hook_typed : d.onPurchase.Typed

theorem Desk.Twins.le {k k' : Nat} {d d' : Desk} (h : d.Twins k d') (hk : k ≤ k') :
    d.Twins k' d' := by
  obtain ⟨s, t, hs, ht, hm, hlength⟩ := h.stores
  exact { h with stores := ⟨s, t, hs, ht, hm, hlength.trans hk⟩ }

/-- At twin desks, `x` and `y` give results in the relation `R` and leave twin desks. -/
def Agree {α β : Type} (k : Nat) (x : StateM Desk α) (y : StateM Desk β) (k' : Nat)
    (R : α → β → Prop) : Prop :=
  ∀ d d', d.Twins k d' → R (x d).1 (y d').1 ∧ (x d).2.Twins k' (y d').2

/-- Values in a relation, or the same failure. -/
inductive Tally {α β : Type} (R : α → β → Prop) : Except Failure α → Except Failure β → Prop where
  | ok {a : α} {b : β} : R a b → Tally R (.ok a) (.ok b)
  | error (f : Failure) : Tally R (.error f) (.error f)

/-- The same value, with a property. -/
def Same {α : Type} (P : α → Prop) (a b : α) : Prop :=
  a = b ∧ P a

/-- Two values in a relation, and no failure. -/
def Done {α β : Type} (R : α → β → Prop) (r : Except Failure α) (r' : Except Failure β) : Prop :=
  ∃ a b, r = .ok a ∧ r' = .ok b ∧ R a b

theorem Done.tally {α β : Type} {R : α → β → Prop} {r : Except Failure α} {r' : Except Failure β}
    (h : Done R r r') : Tally R r r' := by
  obtain ⟨a, b, rfl, rfl, hr⟩ := h
  exact .ok hr

theorem Tally.of_eq {α : Type} {P : α → Prop} {r : Except Failure α}
    (h : ∀ a, r = .ok a → P a) : Tally (Same P) r r := by
  cases r with
  | ok a => exact .ok ⟨rfl, h a rfl⟩
  | error f => exact .error f

theorem Tally.refl {α : Type} (r : Except Failure α) : Tally Eq r r := by
  cases r with
  | ok a => exact .ok rfl
  | error f => exact .error f

theorem Tally.eq {α : Type} {r r' : Except Failure α} (h : Tally Eq r r') : r = r' := by
  cases h with
  | ok h => rw [h]
  | error f => rfl

theorem Tally.imp {α β : Type} {R S : α → β → Prop} {r : Except Failure α} {r' : Except Failure β}
    (h : Tally R r r') (hs : ∀ a b, R a b → S a b) : Tally S r r' := by
  cases h with
  | ok h => exact .ok (hs _ _ h)
  | error f => exact .error f

namespace Agree

variable {α β α' β' : Type} {k k₁ k₂ : Nat} {R : α → β → Prop} {S : α' → β' → Prop}

theorem pure {a : α} {b : β} (h : R a b) : Agree k (Pure.pure a) (Pure.pure b) k R :=
  fun _ _ hd => ⟨h, hd⟩

theorem bind {x : StateM Desk α} {y : StateM Desk β} {f : α → StateM Desk α'}
    {g : β → StateM Desk β'} (hx : Agree k x y k₁ R)
    (hf : ∀ a b, R a b → Agree k₁ (f a) (g b) k₂ S) : Agree k (x >>= f) (y >>= g) k₂ S := by
  intro d d' hd
  obtain ⟨hr, hd₁⟩ := hx d d' hd
  exact hf _ _ hr _ _ hd₁

theorem mono {x : StateM Desk α} {y : StateM Desk β} {R' : α → β → Prop} (hx : Agree k x y k₁ R)
    (h : ∀ a b, R a b → R' a b) : Agree k x y k₁ R' := by
  intro d d' hd
  obtain ⟨hr, hd₁⟩ := hx d d' hd
  exact ⟨h _ _ hr, hd₁⟩

theorem get : Agree k get get k (Desk.Twins k) :=
  fun _ _ hd => ⟨hd, hd⟩

/-- The same for an action that may fail. -/
theorem read {f : Desk → Action α'} {g : Desk → Action β'}
    {S : Except Failure α' → Except Failure β' → Prop}
    (hf : ∀ d d', d.Twins k d' → Agree k (f d) (g d') k₁ S) :
    Agree k (MonadState.get >>= f : Action α') (MonadState.get >>= g : Action β') k₁ S :=
  fun d d' hd => hf d d' hd d d' hd

/-- An action that fails leaves the rest out on both sides. -/
theorem bind_tally_le {x : Action α} {y : Action β} {f : α → Action α'} {g : β → Action β'}
    (hx : Agree k x y k₁ (Tally R)) (hk : k₁ ≤ k₂)
    (hf : ∀ a b, R a b → Agree k₁ (f a) (g b) k₂ (Tally S)) :
    Agree k (x >>= f : Action α') (y >>= g : Action β') k₂ (Tally S) := by
  refine bind (f := ExceptT.bindCont f) (g := ExceptT.bindCont g) hx fun r r' hr => ?_
  cases hr with
  | ok h => exact hf _ _ h
  | error f => exact fun d d' hd => ⟨Tally.error f, hd.le hk⟩

theorem bind_tally {x : Action α} {y : Action β} {f : α → Action α'} {g : β → Action β'}
    (hx : Agree k x y k₁ (Tally R)) (hf : ∀ a b, R a b → Agree k₁ (f a) (g b) k₁ (Tally S)) :
    Agree k (x >>= f : Action α') (y >>= g : Action β') k₁ (Tally S) :=
  bind_tally_le hx (Nat.le_refl k₁) hf

/-- One that never fails leaves nothing out. -/
theorem bind_done {x : Action α} {y : Action β} {f : α → Action α'} {g : β → Action β'}
    {S : Except Failure α' → Except Failure β' → Prop} (hx : Agree k x y k₁ (Done R))
    (hf : ∀ a b, R a b → Agree k₁ (f a) (g b) k₂ S) :
    Agree k (x >>= f : Action α') (y >>= g : Action β') k₂ S := by
  refine bind (f := ExceptT.bindCont f) (g := ExceptT.bindCont g) hx fun r r' hr => ?_
  obtain ⟨a, b, rfl, rfl, h⟩ := hr
  exact hf a b h

theorem guarded {x : Action α} {y : Action β} (operation : String) (codes : List String)
    (hx : Agree k x y k₁ (Tally R)) :
    Agree k (NoticeLedger.guarded operation codes x) (NoticeLedger.guarded operation codes y) k₁
      (Tally R) := by
  intro d d' hd
  obtain ⟨hr, hd₁⟩ := hx d d' hd
  refine ⟨?_, hd₁⟩
  show Tally R ((x d).1.mapError _) ((y d').1.mapError _)
  generalize (x d).1 = r, (y d').1 = r' at hr
  cases hr with
  | ok h => exact .ok h
  | error f => exact .error _

/-- An action that cannot fail, as one that could. -/
theorem lift {x : StateM Desk α} {y : StateM Desk β} (hx : Agree k x y k₁ R) :
    Agree k (ExceptT.lift x : Action α) (ExceptT.lift y : Action β) k₁ (Done R) := by
  intro d d' hd
  obtain ⟨hr, hd₁⟩ := hx d d' hd
  exact ⟨⟨_, _, rfl, rfl, hr⟩, hd₁⟩

/-- A failure that is kept as a result. -/
theorem resultOf {x y : Action α} (hx : Agree k x y k₁ (Tally Eq)) :
    Agree k (NoticeLedger.resultOf x) (NoticeLedger.resultOf y) k₁ (Done Eq) :=
  lift (hx.mono fun _ _ h => h.eq)

/-- An action taken as what it comes to. Without this step a look at the two forms would open the
action. -/
theorem run {x : Action α} {y : Action β} {R : Except Failure α → Except Failure β → Prop}
    (hx : Agree k x y k₁ R) : Agree k x.run y.run k₁ R :=
  hx

theorem modified {f g : Desk → Desk} (h : ∀ d d', d.Twins k d' → (f d).Twins k₁ (g d')) :
    Agree k (modify f) (modify g) k₁ fun _ _ => True :=
  fun d d' hd => ⟨trivial, h d d' hd⟩

/-- Lines of the log may differ. -/
theorem note (source : Log.Source) (level : Log.Level) (message message' : String) :
    Agree k (Desk.note source level message) (Desk.note source level message') k fun _ _ => True :=
  modified fun _ _ hd => { hd with }

theorem observe (o : Observation) :
    Agree k (Desk.observe o) (Desk.observe o) k fun _ _ => True :=
  modified fun _ _ hd => { hd with observations := congrArg (· ++ [o]) hd.observations }

/-! ## The store -/

theorem ask {question : Store → Except Failure α}
    {R : α → α → Prop} (h : ∀ s t, s.Mirrors t → ∃ a b, question (.memory s) = .ok a ∧
      question (.relational t) = .ok b ∧ R a b) :
    Agree k (Desk.ask question) (Desk.ask question) k (Done R) := by
  intro d d' hd
  obtain ⟨s, t, hs, ht, hm, -⟩ := hd.stores
  obtain ⟨a, b, ha, hb, hr⟩ := h s t hm
  refine ⟨⟨a, b, ?_, ?_, hr⟩, hd⟩
  · show question d.store = .ok a
    rw [hs, ha]
  · show question d'.store = .ok b
    rw [ht, hb]

theorem change {operation : Store → Instant → Except Failure (α × Store)} {R : α → α → Prop}
    (h : ∀ s t now, s.Mirrors t → now.inFourDigits = now → ∃ a s' b t',
      operation (.memory s) now = .ok (a, .memory s') ∧
      operation (.relational t) now = .ok (b, .relational t') ∧ R a b ∧ s'.Mirrors t' ∧
      s'.journal.length + k ≤ s.journal.length + k₁) :
    Agree k (Desk.change operation) (Desk.change operation) k₁ (Done R) := by
  intro d d' hd
  obtain ⟨s, t, hs, ht, hm, hk⟩ := hd.stores
  obtain ⟨a, s', b, t', ha, hb, hr, hm', hk'⟩ := h s t d.now hm hd.now_typed
  have ha' : operation d.store d.now = .ok (a, .memory s') := hs ▸ ha
  have hb' : operation d'.store d'.now = .ok (b, .relational t') := by
    rw [ht, hd.now]
    exact hb
  rw [Desk.change, Desk.change, ha', hb']
  exact ⟨⟨a, b, rfl, rfl, hr⟩, { hd with stores := ⟨s', t', rfl, rfl, hm', by omega⟩ }⟩

theorem getResponse {ref : Given} (href : ref.IsText) :
    Agree k (Desk.getResponse ref) (Desk.getResponse ref) k
      (Done fun r r' => r'.map StoredResponse.timeless = r.map StoredResponse.timeless ∧
        ∀ x, r = some x → x.Typed) := by
  refine ask fun s t h => ?_
  obtain ⟨r, r', hs, ht, hr⟩ := h.getResponse href
  exact ⟨r, r', hs, ht, hr⟩

theorem getPendingRequest {ref : Given} (href : ref.IsText) :
    Agree k (Desk.getPendingRequest ref) (Desk.getPendingRequest ref) k
      (Done fun r r' => r'.map HostedRequest.timeless = r.map HostedRequest.timeless ∧
        ∀ x, r = some x → x.Typed) := by
  refine ask fun s t h => ?_
  obtain ⟨r, r', hs, ht, hr⟩ := h.getPendingRequest href
  exact ⟨r, r', hs, ht, hr⟩

theorem saveResponse {draft : StoredResponse.Draft} (hd : draft.Typed) :
    Agree k (Desk.saveResponse draft) (Desk.saveResponse draft) k (Done fun _ _ => True) := by
  refine change fun s t now h _ => ?_
  obtain ⟨r, s', r', t', hs, ht, hm, hj⟩ := h.saveResponse hd now
  refine ⟨r, s', r', t', ?_, ?_, trivial, hm, Nat.le_of_eq (by rw [hj])⟩
  · rw [Store.saveResponse, hs]
    rfl
  · rw [Store.saveResponse, ht]
    rfl

theorem savePendingRequest {draft : HostedRequest.Draft} (hd : draft.Typed) :
    Agree k (Desk.savePendingRequest draft) (Desk.savePendingRequest draft) k
      (Done fun _ _ => True) := by
  refine change fun s t now h _ => ?_
  obtain ⟨r, s', r', t', hs, ht, hm, hj⟩ := h.savePendingRequest hd now
  refine ⟨r, s', r', t', ?_, ?_, trivial, hm, Nat.le_of_eq (by rw [hj])⟩
  · rw [Store.savePendingRequest, hs]
    rfl
  · rw [Store.savePendingRequest, ht]
    rfl

/-- Only the tables tell of a miss. -/
theorem updateMetadata {e : Edit} (he : e.Typed) :
    Agree k (Desk.updateMetadata e.transactionId e.changes e.tenantId)
      (Desk.updateMetadata e.transactionId e.changes e.tenantId) k (Done fun _ _ => True) := by
  have hchange : Agree k
      (Desk.change fun s now => s.updateMetadata now e.transactionId e.changes e.tenantId)
      (Desk.change fun s now => s.updateMetadata now e.transactionId e.changes e.tenantId) k
      (Done fun missed _ => missed = false) := by
    refine change fun s t now h _ => ?_
    obtain ⟨s', hit, t', hs, ht, hm, hj⟩ := h.updateMetadata he now
    refine ⟨false, s', !hit, t', ?_, ?_, rfl, hm, Nat.le_of_eq (by rw [hj])⟩
    · rw [Store.updateMetadata, hs]
      rfl
    · rw [Store.updateMetadata, ht]
      rfl
  refine bind_done hchange fun missed missed' hmissed => ?_
  subst hmissed
  intro d d' hd
  cases missed' with
  | false => exact ⟨⟨(), (), rfl, rfl, trivial⟩, hd⟩
  | true =>
    exact ⟨⟨(), (), rfl, rfl, trivial⟩, { hd with }⟩

theorem appendJournal {e : JournalEntry} (he : e.Typed) :
    Agree k (Desk.appendJournal e) (Desk.appendJournal e) (k + 1) (Done fun _ _ => True) := by
  have hchange : Agree k (Desk.change fun s _ => s.appendJournal e)
      (Desk.change fun s _ => s.appendJournal e) (k + 1) (Done fun _ _ => True) := by
    refine change fun s t now h _ => ?_
    obtain ⟨e', t', hs, ht, hm⟩ := h.appendJournal he
    refine ⟨e, _, e', t', ?_, ?_, trivial, hm, ?_⟩
    · rw [Store.appendJournal, hs]
      rfl
    · rw [Store.appendJournal, ht]
      rfl
    · rw [List.length_append, List.length_singleton]
      omega
  refine bind_done hchange fun e₁ e₂ _ => ?_
  intro d d' hd
  exact ⟨⟨_, _, rfl, rfl, trivial⟩, { hd with }⟩

/-! ## The platform -/

/-- The platforms are the same, and so are their answers. -/
theorem call (operation : Platform → Except Failure α × Platform) :
    Agree k (ExceptT.mk (Desk.call operation)) (ExceptT.mk (Desk.call operation)) k
      (Tally (Same fun a => ∃ p, (operation p).1 = .ok a)) := by
  intro d d' hd
  refine ⟨?_, { hd with platform := ?_ }⟩
  · show Tally _ (operation d.platform).1 (operation d'.platform).1
    rw [hd.platform]
    exact Tally.of_eq fun a ha => ⟨_, ha⟩
  · show (operation d'.platform).2.quiet = (operation d.platform).2.quiet
    rw [hd.platform]

end Agree

variable {k : Nat} {n : Notice} {p : Profile}

/-! ## What a notice is about -/

theorem findResponse_agree {ref : Given} (href : ref.IsText) :
    Agree k (findResponse ref) (findResponse ref) k
      (Tally fun r r' => r'.map StoredResponse.timeless = r.map StoredResponse.timeless ∧
        ∀ x, r = some x → x.Typed) :=
  .guarded _ _ ((Agree.getResponse href).mono fun _ _ => Done.tally)

theorem findPendingRequest_agree {ref : Given} (href : ref.IsText) :
    Agree k (findPendingRequest ref) (findPendingRequest ref) k
      (Tally fun r r' => r'.map HostedRequest.timeless = r.map HostedRequest.timeless ∧
        ∀ x, r = some x → x.Typed) :=
  .guarded _ _ ((Agree.getPendingRequest href).mono fun _ _ => Done.tally)

theorem Correlation.ofResponse_typed {r : StoredResponse} (h : r.Typed) :
    (Correlation.ofResponse r).Typed :=
  ⟨h.accountId, h.tenantId, h.paymentId.isWord, h.transactionId⟩

theorem Correlation.ofRequest_typed {r : HostedRequest} (h : r.Typed) :
    (Correlation.ofRequest r).Typed :=
  ⟨h.accountId, h.tenantId, h.paymentId, h.transactionId⟩

/-- What a record leads to is no matter of times. -/
theorem Correlation.ofResponse_of_timeless {r r' : StoredResponse} (h : r'.timeless = r.timeless) :
    Correlation.ofResponse r' = Correlation.ofResponse r := by
  have heq := congrArg Correlation.ofResponse h
  exact heq

theorem Correlation.ofRequest_of_timeless {r r' : HostedRequest} (h : r'.timeless = r.timeless) :
    Correlation.ofRequest r' = Correlation.ofRequest r := by
  have heq := congrArg Correlation.ofRequest h
  exact heq

/-- A word that is not `null` is a text. -/
theorem Json.IsWord.isText {v : Json} (h : v.IsWord) (hv : v ≠ .null) :
    Given.IsText (some v) := by
  rcases h with rfl | ⟨s, rfl⟩
  · exact absurd rfl hv
  · exact ⟨s, rfl⟩

/-- A notice is about the same at twin desks. -/
theorem resolve_agree (hn : n.Typed) :
    Agree k (resolve n) (resolve n) k (Tally (Same fun o => ∀ c, o = some c → c.Typed)) := by
  rw [resolve]
  by_cases hreport : EventCode.isReport n.eventCode
  · rw [if_pos hreport]
    exact .pure (.ok ⟨rfl, by simp⟩)
  · rw [if_neg hreport]
    refine .bind_tally (findResponse_agree hn.pspReference) fun r r' hr => ?_
    obtain ⟨hsame, htyped⟩ := hr
    cases r with
    | some x =>
      obtain ⟨x', rfl, hx⟩ := Option.map_eq_some_iff.mp hsame
      refine .pure (.ok ⟨?_, ?_⟩)
      · rw [Correlation.ofResponse_of_timeless hx]
      · rintro _ ⟨⟩
        exact Correlation.ofResponse_typed (htyped x rfl)
    | none =>
      rw [Option.map_eq_none_iff.mp hsame]
      dsimp only
      by_cases hm : n.merchantReference = .null
      · rw [if_pos hm]
        exact .pure (.ok ⟨rfl, by simp⟩)
      · rw [if_neg hm]
        refine .bind_tally (findPendingRequest_agree (hn.merchantReference.isText hm))
          fun q q' hq => ?_
        obtain ⟨hsame, htyped⟩ := hq
        cases q with
        | none =>
          rw [Option.map_eq_none_iff.mp hsame]
          exact .pure (.ok ⟨rfl, by simp⟩)
        | some x =>
          obtain ⟨x', rfl, hx⟩ := Option.map_eq_some_iff.mp hsame
          refine .pure (.ok ⟨?_, ?_⟩)
          · rw [Option.map_some, Option.map_some, Correlation.ofRequest_of_timeless hx]
          · rintro _ ⟨⟩
            exact Correlation.ofRequest_typed (htyped x rfl)

theorem earlierOf_agree (hn : n.Typed) :
    Agree k (earlierOf n) (earlierOf n) k
      (Tally fun r r' => r'.map StoredResponse.timeless = r.map StoredResponse.timeless ∧
        ∀ x, r = some x → x.Typed) := by
  rw [earlierOf]
  split
  · exact .pure (.ok ⟨rfl, by simp⟩)
  · rename_i he
    exact findResponse_agree (hn.earlierReference.isText he)

/-! ## Work at the ledger -/

theorem findAccount_agree (id : Given) (context : CallContext) :
    Agree k (findAccount id context) (findAccount id context) k (Tally (Same fun _ => True)) :=
  .guarded _ _ ((Agree.call _).mono fun _ _ h => h.imp fun _ _ h => ⟨h.1, trivial⟩)

theorem createChargeback_agree (n : Notice) (earlier : StoredResponse) (context : CallContext) :
    Agree k (createChargeback n earlier context) (createChargeback n earlier context) k
      (Tally (Same fun payment => ∀ t, lastChargeback payment = some t → t.id.orNull.IsWord)) := by
  refine .bind_tally (findAccount_agree _ _) fun account account' haccount => ?_
  obtain ⟨rfl, -⟩ := haccount
  refine .bind_tally (.pure (Tally.refl _)) fun amount _ hamount => ?_
  subst hamount
  refine .guarded _ _ ((Agree.call _).mono fun _ _ h => h.imp fun payment _ h => ?_)
  obtain ⟨rfl, platform, hcall⟩ := h
  refine ⟨rfl, fun t ht => ?_⟩
  obtain ⟨hlast, -⟩ := Option.filter_eq_some_iff.mp ht
  exact Platform.createChargeback_last hcall hlast

theorem LedgerIds.filled_typed {ids : LedgerIds} (haccount : ids.accountId.orNull.IsWord)
    (htenant : ids.tenantId.orNull.IsWord) (hpayment : ids.paymentId.orNull.IsWord)
    (htransaction : ids.transactionId.orNull.IsWord) : ids.filled.Typed :=
  ⟨⟨_, rfl, haccount⟩, ⟨_, rfl, htenant⟩, ⟨_, rfl, hpayment⟩, ⟨_, rfl, htransaction⟩⟩

theorem LedgerIds.empty_typed : ({} : LedgerIds).filled.Typed :=
  LedgerIds.filled_typed (.inl rfl) (.inl rfl) (.inl rfl) (.inl rfl)

theorem chargeBack_agree (userName : String) (hn : n.Typed) :
    Agree k (chargeBack userName n) (chargeBack userName n) k
      (Same fun a => a.ids.filled.Typed) := by
  rw [chargeBack]
  refine .bind (.run (earlierOf_agree hn)) fun r r' hr => ?_
  cases hr with
  | error f => exact .pure ⟨rfl, LedgerIds.empty_typed⟩
  | ok h =>
    rename_i found found'
    obtain ⟨hsame, htyped⟩ := h
    cases found with
    | none =>
      rw [Option.map_eq_none_iff.mp hsame]
      exact .bind (.note _ _ _ _) fun _ _ _ => .pure ⟨rfl, LedgerIds.empty_typed⟩
    | some earlier =>
      obtain ⟨earlier', rfl, hearlier⟩ := Option.map_eq_some_iff.mp hsame
      have htyped := htyped earlier rfl
      obtain ⟨-, haccount, htenant, hpayment, -⟩ :=
        Correlation.mk.inj (Correlation.ofResponse_of_timeless hearlier)
      refine .bind .get fun d d' hd => ?_
      have hcreate (context : CallContext) :
          createChargeback n earlier' context = createChargeback n earlier context := by
        rw [createChargeback, createChargeback, haccount, hpayment]
      simp only [hcreate, haccount, htenant, hpayment, hd.now]
      refine .bind (.run (createChargeback_agree n earlier _)) fun r r' hr => ?_
      have hids : LedgerIds.Typed (LedgerIds.filled
          { accountId := earlier.accountId
            tenantId := earlier.tenantId
            paymentId := earlier.paymentId }) :=
        LedgerIds.filled_typed htyped.accountId.isWord.orNull htyped.tenantId.isWord.orNull
          htyped.paymentId.isWord.orNull (.inl rfl)
      cases hr with
      | error f => exact .pure ⟨rfl, hids⟩
      | ok h =>
        obtain ⟨rfl, hlast⟩ := h
        dsimp only
        cases hl : lastChargeback _ with
        | some t =>
          exact .pure ⟨rfl, LedgerIds.filled_typed htyped.accountId.isWord.orNull
            htyped.tenantId.isWord.orNull htyped.paymentId.isWord.orNull (hlast t hl)⟩
        | none => exact .bind (.note _ _ _ _) fun _ _ _ => .pure ⟨rfl, hids⟩

theorem reportState_agree (n : Notice) (account : Account) (transactionId : Given)
    (context : CallContext) :
    Agree k (reportState n account transactionId context)
      (reportState n account transactionId context) k (Tally (Same fun _ => True)) := by
  have hreport : Agree k (guarded LedgerOperation.reportState.name [PlatformCode.notPending]
        (Desk.reportState account transactionId (some n.reportedSuccess) context))
      (guarded LedgerOperation.reportState.name [PlatformCode.notPending]
        (Desk.reportState account transactionId (some n.reportedSuccess) context)) k
      (Tally (Same fun _ => True)) :=
    .guarded _ _ ((Agree.call _).mono fun _ _ h => h.imp fun _ _ h => ⟨h.1, trivial⟩)
  rw [reportState]
  refine .bind_done (.lift hreport) fun r r' hr => ?_
  cases hr with
  | ok _ => exact .pure (.ok ⟨rfl, trivial⟩)
  | error f =>
    cases f with
    | benign m op code cause =>
      exact .bind_done (.lift (.note _ _ _ _)) fun _ _ _ => .pure (.ok ⟨rfl, trivial⟩)
    | _ => exact .pure (.error _)

theorem Correlation.Typed.edit {c : Correlation} (hc : c.Typed) (hn : n.Typed)
    (ht : c.transactionId ≠ .null) : (c.edit n).Typed := by
  obtain ⟨v, hv, hword⟩ := hc.transactionId
  refine ⟨?_, hc.tenantId, fun change hchange => ?_⟩
  · have hne : v ≠ .null := by
      rintro rfl
      exact ht hv
    rw [Correlation.edit, hv]
    exact hword.isText hne
  · rw [Correlation.edit, Notice.responseProperties] at hchange
    rcases List.mem_cons.mp hchange with rfl | hchange
    · exact hn.pspReference
    · split at hchange
      · rw [List.mem_singleton.mp hchange]
        exact ⟨_, rfl⟩
      · cases hchange

theorem updateTransaction_agree {c : Correlation} (hc : c.Typed) (hn : n.Typed)
    (ht : c.transactionId ≠ .null) (account : Account) (context : CallContext) :
    Agree k (updateTransaction n c account context) (updateTransaction n c account context) k
      (Tally Eq) := by
  have hedit := Agree.guarded (k := k) StoreOperation.updateMetadata.name []
    ((Agree.updateMetadata (hc.edit hn ht)).mono fun _ _ => Done.tally)
  refine .bind_tally hedit fun _ _ _ =>
    .bind_tally (reportState_agree n account _ context) fun a b h => ?_
  obtain ⟨rfl, -⟩ := h
  exact .pure (.ok rfl)

theorem afterPurchase_agree {payment : Payment} {context : CallContext} (hp : payment.Typed)
    (hc : context.tenantId.IsText) :
    Agree k (Desk.afterPurchase payment context) (Desk.afterPurchase payment context) k
      (Tally fun _ _ => True) := by
  refine .read fun d d' hd => ?_
  rw [hd.platform, hd.hook]
  split
  · cases hs : d.onPurchase.save with
    | none =>
      cases d.onPurchase.failure with
      | none => exact .pure (.ok trivial)
      | some f => exact .pure (.error f)
    | some draft =>
      have hdraft := hd.hook_typed draft hs payment context hp hc
      refine .bind_done (.saveResponse hdraft) fun _ _ _ => ?_
      cases d.onPurchase.failure with
      | none => exact .pure (.ok trivial)
      | some f => exact .pure (.error f)
  · exact .pure (.ok trivial)

theorem createPurchase_agree (account : Account) (order : PurchaseOrder) {context : CallContext}
    (hc : context.tenantId.IsText) :
    Agree k (Desk.createPurchase account order context)
      (Desk.createPurchase account order context) k (Tally (Same Payment.Typed)) := by
  refine .bind_tally (Agree.call _) fun payment payment' h => ?_
  obtain ⟨rfl, platform, hcall⟩ := h
  have hp := Platform.createPurchase_typed hcall
  exact .bind_tally (afterPurchase_agree hp hc) fun _ _ _ => .pure (.ok ⟨rfl, hp⟩)

theorem purchaseMethod_agree (p : Profile) (account : Account) (context : CallContext) :
    Agree k (purchaseMethod p account context) (purchaseMethod p account context) k
      (Tally (Same fun _ => True)) := by
  have hmethods : Agree k (guarded LedgerOperation.listPaymentMethods.name []
        (Desk.listPaymentMethods account.id context))
      (guarded LedgerOperation.listPaymentMethods.name []
        (Desk.listPaymentMethods account.id context)) k (Tally (Same fun _ => True)) :=
    .guarded _ _ ((Agree.call _).mono fun _ _ h => h.imp fun _ _ h => ⟨h.1, trivial⟩)
  refine .bind_tally hmethods fun methods methods' h => ?_
  obtain ⟨rfl, -⟩ := h
  cases methods.find? (·.pluginName == .text p.pluginName) with
  | some method => exact .pure (.ok ⟨rfl, trivial⟩)
  | none => exact .pure (.error _)

theorem purchase_agree (p : Profile) (n : Notice) (c : Correlation) (account : Account)
    {context : CallContext} (hc : context.tenantId.IsText) :
    Agree k (purchase p n c account context) (purchase p n c account context) k
      (Tally (Same Payment.Typed)) := by
  refine .bind_tally (.pure (Tally.refl _)) fun amount _ hamount => ?_
  subst hamount
  refine .bind_tally (purchaseMethod_agree p account context) fun method _ h => ?_
  obtain ⟨rfl, -⟩ := h
  refine .bind_tally (.guarded _ _ (createPurchase_agree account _ hc)) fun payment _ h => ?_
  obtain ⟨rfl, hp⟩ := h
  exact .bind_done (.lift (.note _ _ _ _)) fun _ _ _ => .pure (.ok ⟨rfl, hp⟩)

/-! ## What is done for a notice -/

theorem Correlation.Typed.ids {c : Correlation} (hc : c.Typed) : c.ids.filled.Typed :=
  LedgerIds.filled_typed hc.accountId.isWord.orNull hc.tenantId.isWord.orNull hc.paymentId.orNull
    hc.transactionId.orNull

theorem paidIds_typed {c : Correlation} (hc : c.Typed) {payment : Payment} (hp : payment.Typed) :
    (paidIds c payment).filled.Typed := by
  refine LedgerIds.filled_typed hc.accountId.isWord.orNull hc.tenantId.isWord.orNull
    hp.id.isWord.orNull ?_
  show (Given.orNull (payment.transactions.head?.bind Transaction.id)).IsWord
  cases ht : payment.transactions.head? with
  | none => exact .inl rfl
  | some t => exact hp.transactions t (List.mem_of_head? ht)

theorem settle_agree (p : Profile) (hn : n.Typed) :
    Agree k (settle p n) (settle p n) k (Same fun a => a.ids.filled.Typed) := by
  rw [settle]
  refine .bind (.run (resolve_agree hn)) fun r r' hr => ?_
  cases hr with
  | error f => exact .pure ⟨rfl, LedgerIds.empty_typed⟩
  | ok h =>
    rename_i found found'
    obtain ⟨rfl, htyped⟩ := h
    cases found with
    | none => exact .bind (.note _ _ _ _) fun _ _ _ => .pure ⟨rfl, LedgerIds.empty_typed⟩
    | some c =>
      have hc := htyped c rfl
      refine .bind .get fun d d' hd => ?_
      simp only [hd.now]
      refine .bind (.run (findAccount_agree _ _)) fun r r' hr => ?_
      cases hr with
      | error f => exact .pure ⟨rfl, hc.ids⟩
      | ok h =>
        obtain ⟨rfl, -⟩ := h
        by_cases ht : c.transactionId = .null
        · simp only [ht, if_true]
          refine .bind (.run (purchase_agree p n c _ hc.tenantId)) fun r r' hr => ?_
          cases hr with
          | error f => exact .pure ⟨rfl, hc.ids⟩
          | ok h =>
            obtain ⟨rfl, hp⟩ := h
            exact .pure ⟨rfl, paidIds_typed hc hp⟩
        · simp only [ht, if_false]
          refine .bind (.run (updateTransaction_agree hc hn ht _ _)) fun r r' hr => ?_
          cases hr with
          | error f => exact .pure ⟨rfl, hc.ids⟩
          | ok h =>
            obtain rfl := h
            exact .pure ⟨rfl, hc.ids⟩

theorem attempt_agree (p : Profile) (hn : n.Typed) :
    Agree k (attempt p n) (attempt p n) k (Same fun a => a.ids.filled.Typed) := by
  rw [attempt]
  split
  · exact chargeBack_agree p.userName hn
  · exact settle_agree p hn

/-! ## Deliveries -/

/-- A notice is journaled at both desks. -/
theorem record_agree {ids : LedgerIds} {type : Json} {now : Instant} (hids : ids.filled.Typed)
    (htype : type.IsWord) (hn : n.Typed) (hnow : now.inFourDigits = now) :
    Agree k (record ids (some type) n now) (record ids (some type) n now) (k + 1)
      (Done fun _ _ => True) := by
  have hentry : JournalEntry.Typed ⟨ids.filled, some type, n, now⟩ :=
    ⟨hids, ⟨type, rfl, htype⟩, hn, hnow⟩
  refine .bind_done (.lift (.run (Agree.appendJournal hentry))) fun r r' hr => ?_
  obtain ⟨e, e', rfl, rfl, -⟩ := hr
  exact .bind_done (.lift (.note _ _ _ _)) fun _ _ _ => .pure ⟨e, e', rfl, rfl, trivial⟩

theorem Intent.value_word (intent : Option Intent) : (Intent.value intent).IsWord := by
  cases intent with
  | none => exact .inl rfl
  | some intent => exact .inr ⟨_, rfl⟩

theorem journaled_agree (intent : Option Intent) (hn : n.Typed) {attempt : StateM Desk Attempt}
    (ha : Agree k attempt attempt k (Same fun a => a.ids.filled.Typed)) :
    Agree k (journaled intent n attempt) (journaled intent n attempt) (k + 1) (Tally Eq) := by
  refine .read fun d d' hd => ?_
  rw [hd.now]
  refine .bind_done (.lift ha) fun a _ h => ?_
  obtain ⟨rfl, hids⟩ := h
  exact .bind_done (record_agree hids (Intent.value_word intent) hn hd.now_typed) fun _ _ _ =>
    .pure (Tally.refl a.result)

theorem tell_agree (name : String) (hook : List Observation → Option Failure) (o : Observation) :
    Agree k (Delivery.tell name hook o) (Delivery.tell name hook o) k (Tally Eq) := by
  unfold Delivery.tell
  refine .bind_done (.lift (.observe o)) fun _ _ _ => .read fun d d' hd => ?_
  rw [hd.observations]
  cases hook d.observations with
  | none => exact .pure (Tally.refl _)
  | some f =>
    rw [noteMisbehaviour]
    split
    · exact .pure (.error _)
    · exact (Agree.lift (.note _ _ _ _)).mono fun _ _ h => h.tally.imp fun _ _ _ => rfl

theorem announceFailure_agree (observers : Option Observers) (n : Notice) (f : Failure) :
    Agree k (announceFailure observers n f) (announceFailure observers n f) k (Tally Eq) := by
  have hnote : Agree k (noteFailure n f) (noteFailure n f) k fun _ _ => True := by
    rw [noteFailure]
    split <;> exact .note _ _ _ _
  refine .bind_done (.lift hnote) fun _ _ _ => ?_
  cases observers with
  | none => exact .pure (Tally.refl _)
  | some o => exact tell_agree _ _ _

theorem announceFate_agree (observers : Option Observers) (n : Notice) (r : Receipt) :
    Agree k (announceFate observers n r) (announceFate observers n r) k (Tally Eq) := by
  cases observers with
  | none => exact .pure (Tally.refl _)
  | some o => exact tell_agree _ _ _

/-- What is told is noted and observed at both desks. -/
theorem announce_agree (observers : Option Observers) (n : Notice) (r : Receipt) :
    Agree k (announce observers n r) (announce observers n r) k (Tally Eq) := by
  unfold announce
  cases r.result with
  | ok _ => exact announceFate_agree observers n r
  | error f =>
    exact .bind_tally (announceFailure_agree observers n f) fun _ _ _ =>
      announceFate_agree observers n r

theorem deliver_agree (p : Profile) (observers : Option Observers) (hn : n.Typed) :
    Agree k (deliver p observers n) (deliver p observers n) (k + 1) Eq := by
  have hreconcile : Agree k (reconcile p n n.classification) (reconcile p n n.classification)
      (k + 1) (Tally Eq) := by
    rw [reconcile_eq]
    exact journaled_agree _ hn (attempt_agree p hn)
  refine .bind (.run hreconcile) fun r _ hr => ?_
  obtain rfl := hr.eq
  refine .bind (.run (announce_agree observers n _)) fun told _ htold => ?_
  obtain rfl := htold.eq
  exact .pure rfl

namespace Reconciler

variable (r : Reconciler)

/-- A delivery is told alike at twin desks, whatever the observers do. -/
theorem process_agree (hn : n.Typed) : Agree k (r.process n) (r.process n) (k + 1) (Tally Eq) := by
  refine .bind_done (.lift (deliver_agree r.profile r.observers hn)) fun a _ ha => ?_
  obtain rfl := ha
  exact .pure (Tally.refl _)

/-- An observer that fails without words ends the deliveries at both desks at the same notice. -/
theorem mapM_process_agree {notices : List Notice} (hn : ∀ n ∈ notices, n.Typed) :
    Agree k (notices.mapM r.process : Action (List Receipt))
      (notices.mapM r.process : Action (List Receipt)) (k + notices.length) (Tally Eq) := by
  induction notices generalizing k with
  | nil => exact .pure (Tally.refl _)
  | cons n notices ih =>
    obtain ⟨hfirst, hrest⟩ := List.forall_mem_cons.mp hn
    rw [List.mapM_cons, List.length_cons, Nat.add_comm notices.length, ← Nat.add_assoc]
    refine .bind_tally_le (r.process_agree hfirst) (Nat.le_add_right _ _) fun receipt _ hr => ?_
    subst hr
    refine .bind_tally (ih hrest) fun receipts _ hreceipts => ?_
    subst hreceipts
    exact .pure (Tally.refl _)

/-- So are the deliveries of a batch. -/
theorem processBatch_agree {notices : List Notice} (hn : ∀ n ∈ notices, n.Typed) :
    Agree k (r.processBatch notices) (r.processBatch notices) (k + notices.length)
      (Tally Eq) := by
  refine .bind_tally (r.mapM_process_agree hn) fun receipts _ hreceipts => ?_
  subst hreceipts
  refine (Agree.lift ?_).mono fun _ _ h => h.tally
  rw [closeBatch]
  dsimp only
  split
  · exact .bind (.note _ _ _ _) fun _ _ _ => .pure rfl
  · exact .pure rfl

end Reconciler

end NoticeLedger
