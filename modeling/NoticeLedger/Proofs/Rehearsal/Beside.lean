import NoticeLedger.Proofs.Rehearsal.Determined

/-!
# NoticeLedger.Proofs.Rehearsal.Beside

What lies beside the responses of a store makes no difference to how a notice is acted on.

* `MemoryStore.Beside t` — the change `t` leaves alone what acting on a notice reads and writes of a
  store: the responses, and whether they can be written.
* `Bench.mapStore` — a bench with its store changed.
* `Course.beside` — acting on what was found goes at the changed bench as it goes without the
  change, and the change is still there afterwards.
-/

namespace NoticeLedger

open Delivery

/-- A change that no writing of responses sees, and that sees no writing of responses. -/
structure MemoryStore.Beside (t : MemoryStore → MemoryStore) : Prop where
  responses : ∀ s, (t s).responses = s.responses
  saves : ∀ s, (t s).enter .saveResponse = s.enter .saveResponse
  updates : ∀ s, (t s).enter .updateMetadata = s.enter .updateMetadata
  written : ∀ s responses,
    t { s with responses := responses } = { t s with responses := responses }

/-- A bench with its store changed. -/
def Bench.mapStore (w : Bench) (t : MemoryStore → MemoryStore) : Bench :=
  { w with store := t w.store }

variable {p : Profile} {n : Notice} {w w' : Bench} {account : Account} {context : CallContext}
  {t : MemoryStore → MemoryStore}

namespace MemoryStore

theorem Beside.updateMetadata (ht : Beside t) (s : MemoryStore) (now : Instant)
    (id tenant : Given) (changes : List (String × Given)) :
    (t s).updateMetadata now id changes tenant =
      (s.updateMetadata now id changes tenant).map t := by
  rw [MemoryStore.updateMetadata, MemoryStore.updateMetadata, ht.updates]
  cases s.enter .updateMetadata with
  | error f => rfl
  | ok _ =>
    refine congrArg Except.ok (Eq.trans ?_ (ht.written s _).symm)
    rw [ht.responses]

theorem Beside.saveResponse (ht : Beside t) (s : MemoryStore) (now : Instant)
    (draft : StoredResponse.Draft) :
    (t s).saveResponse now draft =
      (s.saveResponse now draft).map fun saved => (saved.1, t saved.2) := by
  have hrecord : (t s).responseOf now draft = s.responseOf now draft := by
    rw [responseOf, responseOf, findResponse, findResponse, ht.responses]
  rw [MemoryStore.saveResponse, MemoryStore.saveResponse, ht.saves]
  cases s.enter .saveResponse with
  | error f => rfl
  | ok _ =>
    refine congrArg Except.ok (Prod.ext hrecord (Eq.trans ?_ (ht.written s _).symm))
    rw [hrecord, ht.responses]

end MemoryStore

/-! ## Acting on what was found -/

theorem ChargingBack.beside {earlier : StoredResponse} {result : Except Failure Payment}
    (h : ChargingBack n earlier account context w result w') :
    ChargingBack n earlier account context (w.mapStore t) result (w'.mapStore t) := by
  cases h with
  | noMoney hm => exact .noMoney hm
  | refused hm hc => exact .refused hm hc
  | recorded hm hc => exact .recorded hm hc

theorem Reporting.beside {c : Correlation} {result : Except Failure Bool}
    (h : Reporting n c account context w result w') :
    Reporting n c account context (w.mapStore t) result (w'.mapStore t) := by
  cases h with
  | refused hs hf => exact .refused hs hf
  | notOpen hs hf => exact .notOpen hs hf
  | applied hs => exact .applied hs

theorem Updating.beside {c : Correlation} {result : Except Failure Bool}
    (h : Updating n c account context w result w') (ht : MemoryStore.Beside t) :
    Updating n c account context (w.mapStore t) result (w'.mapStore t) := by
  have hchanged := ht.updateMetadata w.store w.now c.transactionId c.tenantId
    (n.responseProperties c.isHosted)
  cases h with
  | notStored hs =>
    rw [hs] at hchanged
    exact .notStored hchanged
  | stored hs hr =>
    rw [hs] at hchanged
    exact .stored hchanged hr.beside

/-- A hook stores a response beside the change. -/
theorem Bench.afterPurchase_beside {payment : Payment} {fate : Except Failure Unit}
    {s : MemoryStore} (h : w.afterPurchase payment context = (fate, s))
    (ht : MemoryStore.Beside t) :
    (w.mapStore t).afterPurchase payment context = (fate, t s) := by
  have hhook : (w.mapStore t).hook = w.hook := rfl
  rw [afterPurchase] at h ⊢
  rw [hhook]
  cases hs : w.hook.save with
  | none =>
    rw [hs] at h
    cases h
    rfl
  | some draft =>
    have hchanged : (w.mapStore t).store.saveResponse (w.mapStore t).now (draft payment context) =
        (w.store.saveResponse w.now (draft payment context)).map
          fun saved => (saved.1, t saved.2) :=
      ht.saveResponse w.store w.now (draft payment context)
    rw [hs] at h
    dsimp only at h ⊢
    rw [hchanged]
    cases hr : w.store.saveResponse w.now (draft payment context) with
    | error f =>
      rw [hr] at h
      cases h
      rfl
    | ok saved =>
      rw [hr] at h
      cases h
      rfl

theorem Ordering.beside {order : PurchaseOrder} {result : Except Failure Payment}
    (h : Ordering account order context w result w') (ht : MemoryStore.Beside t) :
    Ordering account order context (w.mapStore t) result (w'.mapStore t) := by
  cases h with
  | refused hc => exact .refused hc
  | unfinished hc ha => exact .unfinished hc (Bench.afterPurchase_beside ha ht)
  | recorded hc ha => exact .recorded hc (Bench.afterPurchase_beside ha ht)

theorem Purchasing.beside {c : Correlation} {result : Except Failure Payment}
    (h : Purchasing p n c account context w result w') (ht : MemoryStore.Beside t) :
    Purchasing p n c account context (w.mapStore t) result (w'.mapStore t) := by
  cases h with
  | noMoney hm => exact .noMoney hm
  | noMethods hm hl => exact .noMethods hm hl
  | noMethod hm hl hf => exact .noMethod hm hl hf
  | ordered hm hl hf ho => exact .ordered hm hl hf (ho.beside ht)

/-- The change makes no difference to what is done, once it is known what the notice is about. -/
theorem Course.beside {found : Finding} {result : Except Failure Outcome}
    (h : Course p n w found result w') (ht : MemoryStore.Beside t) :
    Course p n (w.mapStore t) found result (w'.mapStore t) := by
  cases h with
  | failed => exact .failed
  | nothing => exact .nothing
  | noAccount hid ha => exact .noAccount hid ha
  | disputed ha hc => exact .disputed ha hc.beside
  | transaction ha hu => exact .transaction ha (hu.beside ht)
  | account ha hp => exact .account ha (hp.beside ht)

end NoticeLedger
