import NoticeLedger.Proofs.Rehearsal.Fair
import NoticeLedger.Proofs.Rehearsal.Soundness

/-!
# NoticeLedger.Proofs.Rehearsal.Run

Runs of deliveries, where anything may be arranged in between.

* `Arrangement` — what is arranged: records and entries that are added, operations that are made to
  fail or to work again, another hook, another time.
* `Move`, `Desk.after` — a delivery or an arrangement, and the desk after a list of them.
* `Desk.after_keeps` — what deliveries keep, and what is arranged keeps, holds after every run.
* `Desk.after_fair` — fair moves keep a desk with a fair bench at one.
-/

namespace NoticeLedger

/-- What is arranged between deliveries. -/
inductive Arrangement where
  | saveResponse (draft : StoredResponse.Draft)
  | savePendingRequest (draft : HostedRequest.Draft)
  | failStore (op : StoreOperation) (failure : Option Failure)
  | restoreStore
  | addAccount (account : Account)
  | addPaymentMethod (method : PaymentMethod)
  | addPayment (payment : Payment)
  | failLedger (op : LedgerOperation) (failure : Option Failure)
  | restoreLedger
  | setHook (hook : PurchaseHook)
  | setTime (now : Instant)

/-- A bench after something was arranged. A record that cannot be stored is left out. -/
def Arrangement.apply (a : Arrangement) (w : Bench) : Bench :=
  match a with
  | saveResponse draft =>
    match w.store.saveResponse w.now draft with
    | .ok (_, s) => { w with store := s }
    | .error _ => w
  | savePendingRequest draft =>
    match w.store.savePendingRequest w.now draft with
    | .ok (_, s) => { w with store := s }
    | .error _ => w
  | failStore op failure => { w with store := w.store.failOn op failure }
  | restoreStore => { w with store := w.store.restore }
  | addAccount account => { w with book := w.book.addAccount account }
  | addPaymentMethod method => { w with book := w.book.addPaymentMethod method }
  | addPayment payment => { w with book := w.book.addPayment payment }
  | failLedger op failure => { w with book := w.book.failOn op failure }
  | restoreLedger => { w with book := w.book.restore }
  | setHook hook => { w with hook := hook }
  | setTime now => { w with now := now }

/-- A desk whose bench is changed; one whose records or whose ledger is not in memory has none. -/
def Desk.arranged (change : Bench → Bench) (d : Desk) : Desk :=
  match d.store, d.platform with
  | .memory s, .book b =>
    let w := change ⟨s, b, d.now, d.onPurchase⟩
    { d with
      store := .memory w.store
      platform := .book w.book
      now := w.now
      onPurchase := w.hook }
  | _, _ => d

/-- What happens at a desk. -/
inductive Move where
  | deliver (observers : Option Observers) (n : Notice)
  | arrange (a : Arrangement)

def Move.play (p : Delivery.Profile) : Move → Desk → Desk
  | deliver observers n, d => (Reconciler.process ⟨p, observers, none⟩ n d).2
  | arrange a, d => d.arranged a.apply

def Desk.after (p : Delivery.Profile) (moves : List Move) (d : Desk) : Desk :=
  moves.foldl (fun d m => m.play p d) d

/-- Records that are tied are stored, and what is made to fail does so seriously. -/
def Arrangement.Fair : Arrangement → Prop
  | saveResponse draft => Tied draft.accountId draft.tenantId
  | savePendingRequest draft => Tied draft.accountId draft.tenantId
  | failStore _ failure => ∀ f, failure = some f → f.Serious
  | failLedger _ failure => ∀ f, failure = some f → f.Serious
  | setHook hook => hook.Fair
  | _ => True

/-- A delivery of any notice is fair. -/
def Move.Fair : Move → Prop
  | deliver _ _ => True
  | arrange a => a.Fair

variable {p : Delivery.Profile} {w : Bench} {d : Desk}

theorem MemoryStore.Fair.savePendingRequest {s s' : MemoryStore} {now : Instant}
    {draft : HostedRequest.Draft} {r : HostedRequest} (hs : s.Fair)
    (hd : Tied draft.accountId draft.tenantId) (h : s.savePendingRequest now draft = .ok (r, s')) :
    s'.Fair := by
  rw [MemoryStore.savePendingRequest] at h
  cases (MemoryStore.enter_bind_ok h).2
  refine ⟨hs.responses, fun q hq => ?_, hs.failures⟩
  obtain rfl | hq := Keyed.mem_put HostedRequest.merchantReference hq
  · exact hd
  · exact hs.pendingRequests q hq

/-- The failure that an operation has if none is given is serious. -/
theorem Failure.serious_getD {failure : Option Failure} {standard f : Failure}
    (h : ∀ f, failure = some f → f.Serious) (hs : standard.Serious)
    (hf : some (failure.getD standard) = some f) : f.Serious := by
  cases failure with
  | none =>
    cases hf
    exact hs
  | some g =>
    cases hf
    exact h g rfl

theorem MemoryStore.Fair.failOn {s : MemoryStore} {op : StoreOperation} {failure : Option Failure}
    (hs : s.Fair) (h : ∀ f, failure = some f → f.Serious) : (s.failOn op failure).Fair := by
  refine ⟨hs.responses, hs.pendingRequests, fun o f hf => ?_⟩
  rw [MemoryStore.failOn] at hf
  dsimp only at hf
  split at hf
  · refine Failure.serious_getD h ?_ hf
    exact Disposition.noConfusion
  · exact hs.failures o f hf

theorem Book.Fair.failOn {b : Book} {op : LedgerOperation} {failure : Option Failure}
    (hb : b.Fair) (h : ∀ f, failure = some f → f.Serious) : (b.failOn op failure).Fair := by
  intro o f hf
  rw [Book.failOn] at hf
  dsimp only at hf
  split at hf
  · refine Failure.serious_getD h ?_ hf
    exact Disposition.noConfusion
  · exact hb o f hf

/-- A fair arrangement keeps a bench fair. -/
theorem Arrangement.apply_fair {a : Arrangement} (hw : w.Fair) (ha : a.Fair) :
    (a.apply w).Fair := by
  cases a with
  | saveResponse draft =>
    rw [apply]
    cases h : w.store.saveResponse w.now draft with
    | error f => exact hw
    | ok saved => exact ⟨hw.store.saveResponse ha h, hw.book, hw.hook⟩
  | savePendingRequest draft =>
    rw [apply]
    cases h : w.store.savePendingRequest w.now draft with
    | error f => exact hw
    | ok saved => exact ⟨hw.store.savePendingRequest ha h, hw.book, hw.hook⟩
  | failStore op failure => exact ⟨hw.store.failOn ha, hw.book, hw.hook⟩
  | restoreStore => exact ⟨⟨hw.store.responses, hw.store.pendingRequests, nofun⟩, hw.book, hw.hook⟩
  | addAccount account => exact ⟨hw.store, hw.book, hw.hook⟩
  | addPaymentMethod method => exact ⟨hw.store, hw.book, hw.hook⟩
  | addPayment payment => exact ⟨hw.store, hw.book, hw.hook⟩
  | failLedger op failure => exact ⟨hw.store, hw.book.failOn ha, hw.hook⟩
  | restoreLedger => exact ⟨hw.store, nofun, hw.hook⟩
  | setHook hook => exact ⟨hw.store, hw.book, ha⟩
  | setTime now => exact ⟨hw.store, hw.book, hw.hook⟩

theorem Bench.On.arranged (hd : w.On d) (change : Bench → Bench) :
    (change w).On (d.arranged change) := by
  rw [Desk.arranged, hd.store, hd.platform, hd.now, hd.hook]
  exact ⟨rfl, rfl, rfl, rfl⟩

/-- One move keeps a property that a delivery keeps, and that the arrangement keeps if it is one. -/
theorem Move.play_keeps {P : Bench → Prop} {m : Move} (hd : w.On d) (hw : P w)
    (hdeliver : ∀ {n r w w'}, Delivered p n w r w' → P w → P w')
    (harrange : ∀ a, m = .arrange a → ∀ {w}, P w → P (a.apply w)) :
    ∃ w' : Bench, w'.On (m.play p d) ∧ P w' := by
  cases m with
  | deliver observers n =>
    obtain ⟨_, _, _, w', hrun, hd', hr, -⟩ := Reconciler.process_on ⟨p, observers, none⟩ n hd
    rw [play, hrun]
    exact ⟨w', hd', hdeliver hr hw⟩
  | arrange a => exact ⟨a.apply w, hd.arranged a.apply, harrange a rfl hw⟩

theorem Desk.after_keeps {P : Bench → Prop} {moves : List Move} (hd : w.On d) (hw : P w)
    (hdeliver : ∀ {n r w w'}, Delivered p n w r w' → P w → P w')
    (harrange : ∀ a, .arrange a ∈ moves → ∀ {w}, P w → P (a.apply w)) :
    ∃ w' : Bench, w'.On (d.after p moves) ∧ P w' := by
  induction moves generalizing w d with
  | nil => exact ⟨w, hd, hw⟩
  | cons m moves ih =>
    obtain ⟨w₁, hd₁, hw₁⟩ := Move.play_keeps (m := m) hd hw hdeliver fun a ha =>
      harrange a (ha ▸ List.mem_cons_self)
    exact ih hd₁ hw₁ fun a ha => harrange a (List.mem_cons_of_mem m ha)

theorem Desk.after_fair {moves : List Move} (hd : w.On d) (hw : w.Fair)
    (hm : ∀ m ∈ moves, m.Fair) : ∃ w' : Bench, w'.On (d.after p moves) ∧ w'.Fair :=
  Desk.after_keeps hd hw (fun hr hw => hr.fair hw) fun a ha _ hw =>
    Arrangement.apply_fair hw (hm (.arrange a) ha)

end NoticeLedger
