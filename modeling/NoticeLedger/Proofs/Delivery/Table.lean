import NoticeLedger.Proofs.Rehearsal.Frame
import NoticeLedger.Proofs.Rehearsal.Soundness

/-!
# NoticeLedger.Proofs.Delivery.Table

Deliveries as the decision table has them.

* `LedgerCall.answer`, `Made` — calls made at a book one after another, where only the last one may
  have failed.
* `Finding.calls` — the calls that the table has for what was found.
* `Obeys` — the calls made are those of the table, or the first ones of them.
* `Course.obeys` — acting on what was found obeys the table.
* `process_obeys` — so does every delivery.
-/

namespace NoticeLedger

open Delivery

/-! ## Calls -/

/-- Whether a call is answered, whatever the answer is. -/
def noted {α : Type} (x : Except Failure α × Book) : Except Failure Unit × Book :=
  (x.1.map fun _ => (), x.2)

/-- A call at a book: whether it is answered, and the book after it. -/
def LedgerCall.answer (context : CallContext) (b : Book) :
    LedgerCall → Except Failure Unit × Book
  | getAccount id => noted (b.getAccount id)
  | listPaymentMethods id => noted (b.listPaymentMethods id)
  | reportState account id success => noted (b.reportState account id success context)
  | createPurchase account order => noted (b.createPurchase account order context)
  | createChargeback account order => noted (b.createChargeback account order context)

/-- Calls made at a book, one after another; none is made after one that failed. -/
inductive Made (context : CallContext) : Book → List LedgerCall → Book → Prop where
  | nil {b : Book} : Made context b [] b
  | failed {b b' : Book} {c : LedgerCall} {f : Failure} :
      c.answer context b = (.error f, b') → Made context b [c] b'
  | answered {b b₁ b' : Book} {c : LedgerCall} {calls : List LedgerCall} :
      c.answer context b = (.ok (), b₁) → Made context b₁ calls b' →
      Made context b (c :: calls) b'

theorem noted_eq {α : Type} {x : Except Failure α × Book} {r : Except Failure α} {b' : Book}
    (h : x = (r, b')) : noted x = (r.map fun _ => (), b') := by
  rw [noted, h]

theorem LedgerCall.answer_frame {context : CallContext} {b b' : Book} {c : LedgerCall}
    {r : Except Failure Unit} (h : c.answer context b = (r, b')) : b.Frame c.operation b' := by
  cases c with
  | getAccount id =>
    cases h
    exact (Book.getAccount_frame rfl).1
  | listPaymentMethods id =>
    cases h
    exact (Book.listPaymentMethods_frame rfl).1
  | reportState account id success =>
    cases h
    exact Book.reportState_frame rfl
  | createPurchase account order =>
    cases h
    exact Book.createPurchase_frame rfl
  | createChargeback account order =>
    cases h
    exact Book.createChargeback_frame rfl

theorem Made.calls_eq {context : CallContext} {b b' : Book} {calls : List LedgerCall}
    (h : Made context b calls b') : b'.calls = b.calls ++ calls.map LedgerCall.operation := by
  induction h with
  | nil => exact (List.append_nil _).symm
  | failed hc => exact (LedgerCall.answer_frame hc).calls
  | answered hc _ ih =>
    rw [ih, (LedgerCall.answer_frame hc).calls, List.append_assoc]
    rfl

/-! ## The table -/

/-- The look-up of an account, and the calls for the account that there is. -/
def Book.accountCalls (b : Book) (id : Given) (calls : Account → List LedgerCall) :
    List LedgerCall :=
  .getAccount id ::
    match b.findAccount id with
    | some account => calls account
    | none => []

/-- A chargeback on the payment of the disputed operation, if the notice says how much. -/
def Notice.chargebackCalls (n : Notice) (earlier : StoredResponse) (account : Account) :
    List LedgerCall :=
  match n.money LedgerOperation.createChargeback.name with
  | .ok amount => [.createChargeback account (n.chargebackOrder earlier amount)]
  | .error _ => []

/-- The state that the notice reports for the transaction. -/
def Notice.reportCalls (n : Notice) (c : Correlation) (account : Account) : List LedgerCall :=
  [.reportState account c.transactionId (some n.reportedSuccess)]

/-- A purchase on the first payment method of the account that the plugin runs, if the notice says
how much. -/
def Notice.purchaseCalls (p : Profile) (n : Notice) (c : Correlation)
    (methods : List PaymentMethod) (account : Account) : List LedgerCall :=
  match n.money LedgerOperation.createPurchase.name with
  | .ok amount =>
    .listPaymentMethods account.id ::
      match (methods.filter (·.accountId == account.id)).find?
        (·.pluginName == .text p.pluginName) with
      | some method => [.createPurchase account (n.purchaseOrder c amount method)]
      | none => []
  | .error _ => []

/-- The calls that the table has for what was found. -/
def Finding.calls (p : Profile) (n : Notice) (b : Book) : Finding → List LedgerCall
  | failed _ => []
  | nothing => []
  | disputed earlier => b.accountCalls earlier.accountId (n.chargebackCalls earlier)
  | transaction c => b.accountCalls c.accountId (n.reportCalls c)
  | account c => b.accountCalls c.accountId (n.purchaseCalls p c b.methods)

/-- No call of the ledger is made to fail, nor is the change of stored data. -/
structure Bench.Undisturbed (w : Bench) : Prop where
  store : w.store.enter .updateMetadata = .ok ()
  book : ∀ op, w.book.failure? op = none

/-- The calls made are the first ones of those foreseen, and all of them where `whole` holds. -/
structure Obeys (context : CallContext) (b b' : Book) (foreseen calls : List LedgerCall)
    (whole : Prop) : Prop where
  made : Made context b calls b'
  first : calls <+: foreseen
  all : whole → calls = foreseen

namespace Obeys

variable {context : CallContext} {b b₁ b' : Book} {foreseen calls : List LedgerCall}
  {whole whole' : Prop} {c : LedgerCall} {f : Failure}

theorem of_made (h : Made context b calls b') : Obeys context b b' calls calls whole :=
  ⟨h, List.prefix_refl calls, fun _ => rfl⟩

theorem none_made (h : whole → foreseen = []) : Obeys context b b foreseen [] whole :=
  ⟨.nil, List.nil_prefix, fun hw => (h hw).symm⟩

theorem failed (hc : c.answer context b = (.error f, b')) (h : whole → foreseen = []) :
    Obeys context b b' (c :: foreseen) [c] whole :=
  ⟨.failed hc, List.prefix_cons_inj c |>.mpr List.nil_prefix, fun hw => by rw [h hw]⟩

theorem answered (hc : c.answer context b = (.ok (), b₁))
    (h : Obeys context b₁ b' foreseen calls whole) :
    Obeys context b b' (c :: foreseen) (c :: calls) whole :=
  ⟨.answered hc h.made, (List.prefix_cons_inj c).mpr h.first, fun hw => by rw [h.all hw]⟩

theorem imp (h : Obeys context b b' foreseen calls whole) (hw : whole' → whole) :
    Obeys context b b' foreseen calls whole' :=
  ⟨h.made, h.first, fun hw' => h.all (hw hw')⟩

end Obeys

/-! ## Deliveries -/

variable {p : Profile} {n : Notice} {w w' : Bench} {account : Account} {context : CallContext}

/-- A result for which the whole row of the table is to be worked off. -/
def Bench.Whole {α : Type} (w : Bench) (result : Except Failure α) : Prop :=
  w.Undisturbed ∨ ∃ a, result = .ok a

theorem Bench.Whole.undisturbed {α : Type} {f : Failure}
    (h : w.Whole (.error f : Except Failure α)) : w.Undisturbed := by
  rcases h with h | ⟨_, h⟩
  · exact h
  · exact nomatch h

theorem Bench.Whole.of_map {α β : Type} {result : Except Failure α} {g : α → β} {w₁ : Bench}
    (hw : w.Undisturbed → w₁.Undisturbed) (h : w.Whole (result.map g)) : w₁.Whole result := by
  rcases h with h | ⟨_, h⟩
  · exact .inl (hw h)
  · cases result with
    | error f => exact nomatch h
    | ok a => exact .inr ⟨a, rfl⟩

theorem Bench.Undisturbed.atBook {op : LedgerOperation} {b : Book} (hw : w.Undisturbed)
    (h : w.book.Frame op b) : ({ w with book := b } : Bench).Undisturbed := by
  refine ⟨hw.store, fun o => ?_⟩
  rw [Book.failure?, h.failures]
  exact hw.book o

theorem ChargingBack.obeys {earlier : StoredResponse} {result : Except Failure Payment}
    {whole : Prop} (h : ChargingBack n earlier account context w result w') :
    ∃ calls, Obeys context w.book w'.book (n.chargebackCalls earlier account) calls whole := by
  rw [Notice.chargebackCalls]
  cases h with
  | noMoney hm =>
    rw [hm]
    exact ⟨_, .none_made fun _ => rfl⟩
  | refused hm hc =>
    rw [hm]
    exact ⟨_, .of_made (.failed (noted_eq hc))⟩
  | recorded hm hc =>
    rw [hm]
    exact ⟨_, .of_made (.answered (noted_eq hc) .nil)⟩

theorem Reporting.obeys {c : Correlation} {result : Except Failure Bool} {whole : Prop}
    (h : Reporting n c account context w result w') :
    ∃ calls, Obeys context w.book w'.book (n.reportCalls c account) calls whole := by
  cases h with
  | refused hs _ => exact ⟨_, .of_made (.failed (noted_eq hs))⟩
  | notOpen hs _ => exact ⟨_, .of_made (.failed (noted_eq hs))⟩
  | applied hs => exact ⟨_, .of_made (.answered (noted_eq hs) .nil)⟩

theorem Updating.obeys {c : Correlation} {result : Except Failure Bool}
    (h : Updating n c account context w result w') :
    ∃ calls, Obeys context w.book w'.book (n.reportCalls c account) calls (w.Whole result) := by
  cases h with
  | notStored hf =>
    -- no call is made; so the change of stored data is one that is made to fail
    refine ⟨[], .none_made fun hw => ?_⟩
    rw [MemoryStore.updateMetadata, hw.undisturbed.store] at hf
    cases hf
  | stored _ hr => exact hr.obeys

theorem Ordering.obeys {order : PurchaseOrder} {result : Except Failure Payment} {whole : Prop}
    (h : Ordering account order context w result w') :
    ∃ calls, Obeys context w.book w'.book [.createPurchase account order] calls whole := by
  cases h with
  | refused hc => exact ⟨_, .of_made (.failed (noted_eq hc))⟩
  | unfinished hc _ => exact ⟨_, .of_made (.answered (noted_eq hc) .nil)⟩
  | recorded hc _ => exact ⟨_, .of_made (.answered (noted_eq hc) .nil)⟩

theorem Purchasing.obeys {c : Correlation} {result : Except Failure Payment}
    (h : Purchasing p n c account context w result w') :
    ∃ calls, Obeys context w.book w'.book (n.purchaseCalls p c w.book.methods account) calls
      (w.Whole result) := by
  rw [Notice.purchaseCalls]
  cases h with
  | noMoney hm =>
    rw [hm]
    exact ⟨_, .none_made fun _ => rfl⟩
  | noMethods hm hl =>
    rw [hm]
    obtain ⟨-, ⟨f, -, hf⟩ | hr⟩ := Book.listPaymentMethods_cases hl
    · refine ⟨_, .failed (noted_eq hl) fun hw => ?_⟩
      rw [hw.undisturbed.book] at hf
      exact nomatch hf
    · exact nomatch hr
  | noMethod hm hl hf =>
    obtain ⟨-, ⟨_, hr, -⟩ | ⟨⟨⟩⟩⟩ := Book.listPaymentMethods_cases hl
    · exact nomatch hr
    · simp only [hm, hf]
      exact ⟨_, .of_made (.answered (noted_eq hl) .nil)⟩
  | ordered hm hl hf ho =>
    obtain ⟨-, ⟨_, hr, -⟩ | ⟨⟨⟩⟩⟩ := Book.listPaymentMethods_cases hl
    · exact nomatch hr
    · obtain ⟨calls, h⟩ := ho.obeys
      simp only [hm, hf]
      exact ⟨_, .answered (noted_eq hl) h⟩

theorem Book.accountCalls_obeys {b b₁ b' : Book} {id : Given} {calls : Account → List LedgerCall}
    {made : List LedgerCall} {whole : Prop} (ha : b.getAccount id = (.ok account, b₁))
    (h : Obeys context b₁ b' (calls account) made whole) :
    Obeys context b b' (b.accountCalls id calls) (.getAccount id :: made) whole := by
  obtain ⟨-, ⟨_, hr, -⟩ | ⟨_, hf, ⟨⟩⟩⟩ := Book.getAccount_cases ha
  · exact nomatch hr
  · rw [accountCalls, hf]
    exact h.answered (noted_eq ha)

theorem Book.accountCalls_refused {b b' : Book} {id : Given} {f : Failure}
    {calls : Account → List LedgerCall} {whole : Prop} (ha : b.getAccount id = (.error f, b'))
    (h : whole → b.failure? .getAccount = none) :
    Obeys context b b' (b.accountCalls id calls) [.getAccount id] whole := by
  obtain ⟨-, ⟨_, -, -, hn⟩ | ⟨_, _, hr⟩⟩ := Book.getAccount_cases ha
  · refine .failed (noted_eq ha) fun hw => ?_
    rw [hn (h hw)]
  · exact nomatch hr

/-- Acting on what was found obeys its row of the table. -/
theorem Course.obeys {found : Finding} {result : Except Failure Outcome}
    (h : Course p n w found result w') :
    ∃ calls, Obeys (contextOf found.ids.tenantId p.userName w.now) w.book w'.book
      (found.calls p n w.book) calls (w.Whole result) := by
  cases h with
  | failed => exact ⟨_, .none_made fun _ => rfl⟩
  | nothing => exact ⟨_, .none_made fun _ => rfl⟩
  | noAccount hid ha =>
    have hquiet (e : Failure) (hw : w.Whole (.error e : Except Failure Outcome)) :
        w.book.failure? .getAccount = none := hw.undisturbed.book .getAccount
    cases found with
    | failed _ => exact nomatch hid
    | nothing => exact nomatch hid
    | disputed earlier =>
      cases hid
      exact ⟨_, Book.accountCalls_refused ha (hquiet _)⟩
    | transaction c =>
      cases hid
      exact ⟨_, Book.accountCalls_refused ha (hquiet _)⟩
    | account c =>
      cases hid
      exact ⟨_, Book.accountCalls_refused ha (hquiet _)⟩
  | disputed ha hc =>
    obtain ⟨calls, ho⟩ := hc.obeys
    exact ⟨_, Book.accountCalls_obeys ha ho⟩
  | transaction ha hu =>
    obtain ⟨calls, ho⟩ := hu.obeys
    exact ⟨_, Book.accountCalls_obeys ha
      (ho.imp (.of_map fun hw => hw.atBook (Book.getAccount_frame ha).1))⟩
  | account ha hp =>
    obtain ⟨calls, ho⟩ := hp.obeys
    -- the methods are listed after the look-up of the account, which leaves them as they are
    have hf := (Book.getAccount_frame ha).1
    rw [hf.methods] at ho
    exact ⟨_, Book.accountCalls_obeys ha (ho.imp (.of_map fun hw => hw.atBook hf))⟩

theorem Delivered.result {r : Receipt} (h : Delivered p n w r w') :
    ∃ result w₁, Course p n w (Finding.of w.store n) result w₁ ∧ w'.book = w₁.book ∧
      ∀ outcome, r.result = .ok outcome → result = .ok outcome := by
  cases h with
  | @journaled result w₁ hc _ =>
    refine ⟨result, w₁, hc, rfl, fun outcome ho => ?_⟩
    cases result with
    | error f => exact nomatch ho
    | ok _ => exact ho
  | @unrecorded result _ _ hc _ => exact ⟨result, _, hc, rfl, nofun⟩

theorem Delivered.report {r : Receipt} (h : Delivered p n w r w')
    (hr : EventCode.isReport n.eventCode = true)
    (hj : w.store.enter .appendJournal = .ok ()) : r.result = .ok .journaledOnly := by
  obtain ⟨result, w₁, hc, rfl, -⟩ := h.of_ok hj
  rw [Finding.of_report hr] at hc
  rw [hc.of_nothing.1]
  rfl

/-- **The decision table.** A delivery makes the calls that the table has for what the records say
about the notice, one after another until one fails, and comes to an outcome of that row. -/
theorem process_obeys {r : Reconciler} (hr : r.Articulate) (n : Notice) {w : Bench}
    {d : Desk} (hd : w.On d) :
    ∃ (receipt : Receipt) (d' : Desk) (w' : Bench) (calls : List LedgerCall),
      r.process n d = (.ok receipt, d') ∧ w'.On d' ∧
      w'.book.calls = w.book.calls ++ calls.map LedgerCall.operation ∧
      Obeys (contextOf (Finding.of w.store n).ids.tenantId r.profile.userName w.now) w.book w'.book
        ((Finding.of w.store n).calls r.profile n w.book) calls (w.Whole receipt.result) ∧
      (∀ outcome, receipt.result = .ok outcome → (Finding.of w.store n).Fits outcome) ∧
      (EventCode.isReport n.eventCode = true →
        calls = [] ∧ (w.store.enter .appendJournal = .ok () →
          receipt.result = .ok .journaledOnly)) := by
  obtain ⟨receipt, d', w', hrun, hd', hdelivered⟩ := Reconciler.process_delivered hr n hd
  obtain ⟨result, w₁, hc, hb, ho⟩ := hdelivered.result
  obtain ⟨calls, hcalls⟩ := hc.obeys
  have hwhole : w.Whole receipt.result → w.Whole result := by
    rintro (h | ⟨outcome, h⟩)
    · exact .inl h
    · exact .inr ⟨outcome, ho outcome h⟩
  refine ⟨receipt, d', w', calls, hrun, hd', ?_, ?_, fun outcome h => hc.fits (ho outcome h),
    fun hreport => ?_⟩
  · rw [hb]
    exact hcalls.made.calls_eq
  · rw [hb]
    exact hcalls.imp hwhole
  · have hfirst := hcalls.first
    rw [Finding.of_report hreport] at hfirst
    exact ⟨List.prefix_nil.mp hfirst, hdelivered.report hreport⟩

/-- The sample is about a transaction: the account is looked up, and the state is reported. -/
theorem process_obeys_sample :
    ∃ (receipt : Receipt) (d' : Desk) (w' : Bench),
      Sample.reconciler.process Sample.authorisation Sample.bench.desk = (.ok receipt, d') ∧
        w'.On d' ∧ w'.book.calls = [.getAccount, .reportState] := by
  obtain ⟨receipt, d', w', calls, hrun, hd, hcalls, ho, -⟩ :=
    process_obeys Sample.articulate Sample.authorisation Sample.bench.on_desk
  have hquiet : Sample.bench.Undisturbed := ⟨rfl, fun _ => rfl⟩
  refine ⟨receipt, d', w', hrun, hd, ?_⟩
  rw [hcalls, ho.all (.inl hquiet)]
  rfl

end NoticeLedger
