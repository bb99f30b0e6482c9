import NoticeLedger.Proofs.Ledger.Replies
import NoticeLedger.Proofs.Rehearsal.Determined

/-!
# NoticeLedger.Proofs.Delivery.Reporting

What a delivery makes of the reply to the report of a state.

* `Remote.NotPending` — the reply by which a transaction is known not to be pending.
* `Remote.Reported` — the three ways the report of a state can go, one for each kind of reply
  (`Remote.reportState_reported`).
* `reconcile_run` — what is done for a notice about a transaction, at any store that takes what is
  written; `Reported.receipt` reads its receipt off the reply.
-/

namespace NoticeLedger

open Delivery Form

/-! ## The report of a state -/

/-- A failure that asks for the report to be made again. -/
def Failure.RetriesReport (f : Failure) : Prop :=
  f.disposition = .retryable ∧ f.operation? = some LedgerOperation.reportState.name

theorem reported_unforeseen (message : String) :
    ∃ f, reported (.error (.unforeseen message)) = .error f ∧ f.RetriesReport :=
  ⟨_, rfl, rfl, rfl⟩

/-- Only one code of the platform says that the transaction was not pending. -/
theorem reported_platform (message : String) (code : Json) (status : Option Number) :
    (code = .text PlatformCode.notPending ∧
        reported (.error (.platform message (some code) status)) = .ok false) ∨
      code ≠ .text PlatformCode.notPending ∧
        ∃ f, reported (.error (.platform message (some code) status)) = .error f ∧
          f.RetriesReport := by
  by_cases hcode : code = .text PlatformCode.notPending
  · subst hcode
    exact .inl ⟨rfl, rfl⟩
  · refine .inr ⟨hcode, ?_⟩
    cases code with
    | text s =>
      have hs : [PlatformCode.notPending].contains s = false := by
        simpa using fun h => hcode (congrArg Json.text h)
      simp only [reported, Failure.wrap, Failure.isClassified, hs, Bool.false_eq_true, if_false]
      exact ⟨_, rfl, rfl, rfl⟩
    | _ => exact ⟨_, rfl, rfl, rfl⟩

namespace Remote

/-- A reply outside the 200s whose body is an object with the code of a transaction that is not
pending. -/
def NotPending (reply : Option Reply) : Prop :=
  ∃ status text m, reply = some (.answered status text) ∧ isOk status = false ∧
    Answer.body text = .object m ∧
    Members.get? m "code" = some (.text PlatformCode.notPending)

/-- A reply whose body cannot be read as that of a refusal. -/
def Garbled (reply : Option Reply) : Prop :=
  ∃ status text, reply = some (.answered status text) ∧
    Trips Answer.refusalForm (Answer.body text)

/-- How the report of a state can go, and what is made of it. -/
inductive Reported (reply : Option Reply) :
    Except Failure Payment → Except Failure Bool → Prop where
  | applied {payment : Payment} : ¬ NotPending reply → Reported reply (.ok payment) (.ok true)
  | notOpen {f : Failure} : NotPending reply → ¬ Garbled reply →
      Reported reply (.error f) (.ok false)
  | failed {f g : Failure} : (NotPending reply → Garbled reply) → g.RetriesReport →
      Reported reply (.error f) (.error g)

theorem not_notPending_of_error {reply : Option Reply} {f : Failure}
    (h : replyOf reply = .error f) : ¬ NotPending reply := by
  rintro ⟨status, text, m, rfl, -⟩
  exact nomatch h

theorem not_notPending_of_isOk {status : Nat} (text : String) (hok : isOk status = true) :
    ¬ NotPending (some (.answered status text)) := by
  rintro ⟨_, _, _, ⟨⟩, hnot, -⟩
  rw [hok] at hnot
  exact nomatch hnot

/-- A body of which no payment is made fails without a code of its own. -/
theorem payment_error {body : Json} {f : Failure} (h : Answer.payment body = .error f) :
    (∃ message, f = .unforeseen message) ∨
      ∃ message status, f = .platform message (some (.text PlatformCode.unknown)) status := by
  have htaken := Answer.membersOf_taken Answer.paymentForm "payment" body
  rw [Answer.payment] at h
  generalize Answer.membersOf Answer.paymentForm "payment" body = x at h htaken
  cases htaken with
  | unreadable _ _ =>
    cases h
    exact .inl ⟨_, rfl⟩
  | refused _ _ =>
    cases h
    exact .inr ⟨_, _, rfl⟩
  | read _ _ _ => cases h

theorem Reported.of_unforeseen {reply : Option Reply} {message : String}
    (h : NotPending reply → Garbled reply) :
    Reported reply (.error (.unforeseen message))
      (reported (.error (.unforeseen message))) := by
  obtain ⟨f, hf, hretries⟩ := reported_unforeseen message
  rw [hf]
  exact .failed h hretries

theorem Reported.of_unknown {reply : Option Reply} {message : String} {status : Option Number}
    (h : ¬ NotPending reply) :
    Reported reply (.error (.platform message (some (.text PlatformCode.unknown)) status))
      (reported (.error (.platform message (some (.text PlatformCode.unknown)) status))) := by
  rcases reported_platform message (.text PlatformCode.unknown) status with
    ⟨hcode, -⟩ | ⟨-, f, hf, hretries⟩
  · exact absurd (Json.text.inj hcode) (by decide)
  · rw [hf]
    exact .failed (fun hn => absurd hn h) hretries

/-- A refusal that can be read goes by its code. -/
theorem Reported.of_refusal {status : Nat} {text : String} {read : Json} (hok : isOk status = false)
    (htrips : ¬ Trips Answer.refusalForm (Answer.body text))
    (hread : Answer.refusalForm.read (Answer.body text) = .ok read) (message : String)
    (shown : Option Number) :
    Reported (some (.answered status text))
      (.error (.platform message (some (Answer.codeOf read)) shown))
      (reported (.error (.platform message (some (Answer.codeOf read)) shown))) := by
  have hcode : Answer.codeOf read = .text PlatformCode.notPending ↔ _ :=
    Answer.codeOf_eq_iff hread (by decide) (by decide)
  have hgarbled : ¬ Garbled (some (.answered status text)) := by
    rintro ⟨_, _, ⟨⟩, h⟩
    exact htrips h
  rcases reported_platform message (Answer.codeOf read) shown with
    ⟨hc, hf⟩ | ⟨hc, f, hf, hretries⟩
  · rw [hf]
    obtain ⟨m, hm, hmc⟩ := hcode.mp hc
    exact .notOpen ⟨status, text, m, rfl, hok, hm, hmc⟩ hgarbled
  · rw [hf]
    refine .failed (fun hn => ?_) hretries
    obtain ⟨_, _, m, ⟨⟩, -, hm, hmc⟩ := hn
    exact absurd (hcode.mpr ⟨m, hm, hmc⟩) hc

/-- The report of a state goes as its reply says. -/
theorem reportState_reported (r : Remote) (account : Account) (id success : Given)
    (context : CallContext) :
    Reported r.replies.head? (r.reportState account id success context).1
      (reported (r.reportState account id success context).1) := by
  rw [reportState_eq]
  generalize LedgerCall.reportState account id success = call
  rcases hreply : replyOf r.replies.head? with f | ⟨status, f | text⟩
  · have hnot := not_notPending_of_error hreply
    rcases exchange_of_error call context hreply with ⟨-, he⟩ | ⟨-, message, he⟩
    · rw [he]
      exact .of_unforeseen fun hn => absurd hn hnot
    · rw [he]
      exact .of_unknown hnot
  · obtain ⟨message, rfl, hbroken⟩ := replyOf_broken hreply
    rw [exchange_of_broken call context hreply, hbroken]
    exact .of_unforeseen fun ⟨_, _, _, h, _⟩ => nomatch h
  · rw [replyOf_ok hreply]
    cases hok : isOk status with
    | true =>
      -- whatever code a body in the 200s has, it does not say that the transaction is closed
      have hnot := not_notPending_of_isOk text hok
      rw [exchange_of_isOk call context hreply hok]
      show Reported _ (Answer.payment _) (reported (Answer.payment _))
      cases hp : Answer.payment (Answer.body text) with
      | ok payment => exact .applied hnot
      | error f =>
        rcases payment_error hp with ⟨_, rfl⟩ | ⟨_, _, rfl⟩
        · exact .of_unforeseen fun hn => absurd hn hnot
        · exact .of_unknown hnot
    | false =>
      rcases exchange_of_refusal call context hreply hok with
        ⟨ht, _, he⟩ | ⟨ht, read, message, hread, he⟩
      · rw [he]
        exact .of_unforeseen fun _ => ⟨status, text, rfl, ht⟩
      · rw [he]
        exact .of_refusal hok ht hread message _

/-- What is answered does not depend on the lines written before. -/
theorem exchange_quiet (r : Remote) (call : LedgerCall) (context : CallContext) :
    (exchange { r with log := [] } call context).1 = (r.exchange call context).1 := by
  simp only [exchange, send]
  rcases replyOf r.replies.head? with f | ⟨status, f | text⟩
  · rfl
  · rfl
  · dsimp only
    split
    · rfl
    · split
      · rfl
      · rfl

end Remote

theorem Platform.reportState_quiet (r : Remote) (account : Account) (id success : Given)
    (context : CallContext) :
    ((Platform.remote { r with log := [] }).reportState account id success context).1 =
      (r.reportState account id success context).1 :=
  congrArg (Except.bind · Answer.payment)
    (r.exchange_quiet (.reportState account id success) context)

/-! ## What actions come to at a desk -/

section Steps

variable {α β : Type} {d d₁ : Desk}

theorem resultOf_run (x : Action α) (d : Desk) : resultOf x d = (.ok (x d).1, (x d).2) := rfl

theorem guarded_run (operation : String) (codes : List String) (x : Action α) (d : Desk) :
    guarded operation codes x d = ((x d).1.mapError (Failure.wrap operation codes), (x d).2) := rfl

theorem lift_run (x : StateM Desk α) (d : Desk) :
    (ExceptT.lift x : Action α) d = (.ok (x d).1, (x d).2) := rfl

theorem run_bind {x : Action α} {f : Except Failure α → StateM Desk β} {r : Except Failure α}
    (h : x d = (r, d₁)) : (x.run >>= f) d = f r d₁ := by
  show f (x d).1 (x d).2 = f r d₁
  rw [h]

/-- An action leaves the desk as it is if each of its steps does. -/
theorem Action.bind_desk {x : Action α} {f : α → Action β} (hx : (x d).2 = d)
    (hf : ∀ a, (f a d).2 = d) : ((x >>= f : Action β) d).2 = d := by
  rcases h : x d with ⟨r, d₁⟩
  rw [h] at hx
  subst hx
  cases r with
  | ok a => rw [Action.bind_ok h, hf]
  | error e => rw [Action.bind_error h]

variable {operation : Store → Instant → Except Failure (α × Store)} {a : α} {f : Failure}
  {e : JournalEntry} {s : Store}

theorem Desk.change_ok (h : operation d.store d.now = .ok (a, s)) :
    Desk.change operation d = (.ok a, { d with store := s }) := by
  rw [Desk.change, h]

theorem Desk.change_error (h : operation d.store d.now = .error f) :
    Desk.change operation d = (.error f, d) := by
  rw [Desk.change, h]

theorem Desk.appendJournal_ok {written : JournalEntry}
    (h : d.store.appendJournal e = .ok (written, s)) :
    Desk.appendJournal e d =
      (.ok written, { d with store := s, journaled := d.journaled ++ [written] }) := by
  rw [Desk.appendJournal, Action.bind_ok (Desk.change_ok h)]
  rfl

theorem Desk.appendJournal_error (h : d.store.appendJournal e = .error f) :
    Desk.appendJournal e d = (.error f, d) := by
  rw [Desk.appendJournal, Action.bind_error (Desk.change_error h)]

end Steps

/-! ## A delivery that reports a state -/

/-- A store that takes the update a notice asks for, and then the entry of the notice. -/
def Store.Takes (s : Store) (now : Instant) (n : Notice) (c : Correlation) : Prop :=
  ∃ missed s₁ e s₂,
    s.updateMetadata now c.transactionId (n.responseProperties c.isHosted) c.tenantId =
      .ok (missed, s₁) ∧
    s₁.appendJournal (n.entry c.ids now) = .ok (e, s₂)

theorem resolve_desk (n : Notice) (d : Desk) : (resolve n d).2 = d := by
  rw [resolve]
  split
  · rfl
  · refine Action.bind_desk rfl fun found => ?_
    cases found with
    | some response => rfl
    | none =>
      dsimp only
      split
      · rfl
      · exact Action.bind_desk rfl fun _ => rfl

theorem resolve_run {n : Notice} {d : Desk} {r : Except Failure (Option Correlation)}
    (h : (resolve n d).1 = r) : resolve n d = (r, d) := by
  have hdesk := resolve_desk n d
  generalize resolve n d = x at h hdesk
  subst h hdesk
  rfl

section Run

variable {p : Profile} {n : Notice} {c : Correlation} {account : Account} {d : Desk}

theorem reportState_run (n : Notice) (account : Account) (id : Given) (context : CallContext)
    (d : Desk) :
    (Delivery.reportState n account id context d).1 =
        reported (d.platform.reportState account id (some n.reportedSuccess) context).1 ∧
      (Delivery.reportState n account id context d).2.store = d.store := by
  have hrun := resultOf_run (guarded LedgerOperation.reportState.name [PlatformCode.notPending]
    (Desk.reportState account id (some n.reportedSuccess) context)) d
  have hanswer : (Desk.reportState account id (some n.reportedSuccess) context d).1 =
    (d.platform.reportState account id (some n.reportedSuccess) context).1 := rfl
  rw [guarded_run, hanswer] at hrun
  rw [Delivery.reportState, Action.bind_ok hrun]
  unfold reported
  cases (d.platform.reportState account id (some n.reportedSuccess) context).1 with
  | ok payment => exact ⟨rfl, rfl⟩
  | error f =>
    simp only [Except.mapError]
    cases Failure.wrap LedgerOperation.reportState.name [PlatformCode.notPending] f with
    | _ => exact ⟨rfl, rfl⟩

theorem updateMetadata_run (operation : String) {id tenantId : Given}
    {changes : List (String × Given)} {missed : Bool} {s : Store}
    (h : d.store.updateMetadata d.now id changes tenantId = .ok (missed, s)) :
    ∃ d₁, guarded operation [] (Desk.updateMetadata id changes tenantId) d = (.ok (), d₁) ∧
      d₁.store = s ∧ d₁.platform = d.platform := by
  rw [guarded_run, Desk.updateMetadata, Action.bind_ok (Desk.change_ok h)]
  cases missed with
  | false => exact ⟨_, rfl, rfl, rfl⟩
  | true => exact ⟨_, rfl, rfl, rfl⟩

theorem updateTransaction_run (account : Account) (context : CallContext) {missed : Bool}
    {s : Store}
    (h : d.store.updateMetadata d.now c.transactionId (n.responseProperties c.isHosted)
      c.tenantId = .ok (missed, s)) :
    (updateTransaction n c account context d).1 =
        (reported (d.platform.reportState account c.transactionId (some n.reportedSuccess)
          context).1).map (Outcome.updated c.ids) ∧
      (updateTransaction n c account context d).2.store = s := by
  obtain ⟨d₁, hrun, hstore, hplatform⟩ := updateMetadata_run StoreOperation.updateMetadata.name h
  obtain ⟨hr, hs⟩ := reportState_run n account c.transactionId context d₁
  rw [updateTransaction, Action.bind_ok hrun, ← hstore, ← hplatform, ← hr, ← hs]
  rcases hreport : Delivery.reportState n account c.transactionId context d₁ with ⟨r, d₂⟩
  cases r with
  | ok applied =>
    rw [Action.bind_ok hreport]
    exact ⟨rfl, rfl⟩
  | error f =>
    rw [Action.bind_error hreport]
    exact ⟨rfl, rfl⟩

theorem findAccount_run {r : Remote} {id : Given} {context : CallContext}
    (hd : d.platform = .remote r) (h : (r.getAccount id context).1 = .ok account) :
    ∃ d₁, findAccount id context d = (.ok account, d₁) ∧ d₁.store = d.store ∧ d₁.now = d.now ∧
      d₁.platform = .remote { (r.getAccount id context).2 with log := [] } := by
  have hcall : (d.platform.getAccount id context).1 = .ok account ∧
      (d.platform.getAccount id context).2 = .remote (r.getAccount id context).2 := by
    rw [hd]
    exact ⟨h, rfl⟩
  have hrun : findAccount id context d =
    ((d.platform.getAccount id context).1.mapError
        (Failure.wrap LedgerOperation.getAccount.name []),
      { d with
        platform := (d.platform.getAccount id context).2.quiet
        log := d.log ++ (d.platform.getAccount id context).2.log }) := rfl
  rw [hrun, hcall.1, hcall.2]
  exact ⟨_, rfl, rfl, rfl, rfl⟩

theorem settle_run {r : Remote} {context : CallContext} {missed : Bool} {s : Store}
    (hd : d.platform = .remote r) (hx : contextOf c.tenantId p.userName d.now = context)
    (hc : (resolve n d).1 = .ok (some c)) (ht : c.transactionId ≠ .null)
    (ha : (r.getAccount c.accountId context).1 = .ok account)
    (hs : d.store.updateMetadata d.now c.transactionId (n.responseProperties c.isHosted)
      c.tenantId = .ok (missed, s)) :
    (settle p n d).1 =
        { ids := c.ids
          result := (reported ((r.getAccount c.accountId context).2.reportState account
            c.transactionId (some n.reportedSuccess) context).1).map (Outcome.updated c.ids) } ∧
      (settle p n d).2.store = s := by
  have hresolve := resolve_run hc
  obtain ⟨d₁, hfind, hstore, hnow₁, hplatform⟩ := findAccount_run hd ha
  rw [← hstore, ← hnow₁] at hs
  obtain ⟨hr, hs⟩ := updateTransaction_run account context hs
  have hread {β : Type} (f : Desk → StateM Desk β) : (get >>= f) d = f d d := rfl
  rw [settle, run_bind hresolve]
  simp only [hread, hx]
  rw [run_bind hfind]
  simp only [if_neg ht]
  rcases hupdate : updateTransaction n c account context d₁ with ⟨result, d₂⟩
  rw [hupdate, hplatform, Platform.reportState_quiet] at hr
  rw [hupdate] at hs
  rw [run_bind hupdate]
  exact ⟨congrArg (Attempt.mk c.ids) hr, hs⟩

theorem record_run {ids : LedgerIds} {type : Given} {now : Instant} {e : JournalEntry} {s : Store}
    (h : d.store.appendJournal ⟨ids.filled, some type.orNull, n, now⟩ = .ok (e, s)) :
    ∃ d₁, record ids type n now d = (.ok e, d₁) ∧ d₁.platform = d.platform := by
  have hresult := resultOf_run (Desk.appendJournal ⟨ids.filled, some type.orNull, n, now⟩) d
  rw [Desk.appendJournal_ok h] at hresult
  rw [record, Action.bind_ok hresult]
  exact ⟨_, rfl, rfl⟩

theorem record_failed {ids : LedgerIds} {type : Given} {now : Instant} {f : Failure}
    (h : d.store.appendJournal ⟨ids.filled, some type.orNull, n, now⟩ = .error f) :
    record ids type n now d = (.error (n.unrecorded f), d) := by
  have hresult := resultOf_run (Desk.appendJournal ⟨ids.filled, some type.orNull, n, now⟩) d
  rw [Desk.appendJournal_error h] at hresult
  rw [record, Action.bind_ok hresult]
  rfl

theorem journaled_run {intent : Option Intent} {x : StateM Desk Attempt} {a : Attempt} {d₁ : Desk}
    {e : JournalEntry} {s : Store} (hx : x d = (a, d₁))
    (h : d₁.store.appendJournal ⟨a.ids.filled, some (Intent.value intent), n, d.now⟩ =
      .ok (e, s)) :
    (journaled intent n x d).1 = a.result := by
  obtain ⟨d₂, hrecord, -⟩ : ∃ d₂,
      record a.ids (some (Intent.value intent)) n d.now d₁ = (.ok e, d₂) ∧ _ := record_run h
  have hattempt := lift_run x d
  rw [hx] at hattempt
  have hread (f : Desk → Action Outcome) : (get >>= f : Action Outcome) d = f d d := rfl
  have hrest : (record a.ids (some (Intent.value intent)) n d.now >>= fun _ =>
      ExceptT.mk (Pure.pure a.result) : Action Outcome) d₁ = (a.result, d₂) :=
    Action.bind_ok hrecord
  rw [journaled, hread]
  exact (congrArg Prod.fst (Action.bind_ok hattempt)).trans (congrArg Prod.fst hrest)

/-- What is done for a notice about a transaction, by the answer to the report of its state. -/
theorem reconcile_run {r : Remote} {context : CallContext}
    (hd : d.platform = .remote r) (hn : n.classification ≠ some .chargeback)
    (hx : contextOf c.tenantId p.userName d.now = context)
    (hc : (resolve n d).1 = .ok (some c)) (ht : c.transactionId ≠ .null)
    (ha : (r.getAccount c.accountId context).1 = .ok account) (hs : d.store.Takes d.now n c) :
    (reconcile p n n.classification d).1 = (reported
      ((r.getAccount c.accountId context).2.reportState account c.transactionId
        (some n.reportedSuccess) context).1).map (Outcome.updated c.ids) := by
  obtain ⟨missed, s₁, e, s₂, hupdate, hjournal⟩ := hs
  obtain ⟨hresult, hstore⟩ := settle_run hd hx hc ht ha hupdate
  rcases hsettle : settle p n d with ⟨a, d₁⟩
  rw [hsettle] at hresult hstore
  simp only at hresult hstore
  rw [← hstore] at hjournal
  subst hresult
  rw [reconcile_eq, attempt, if_neg hn]
  exact journaled_run hsettle hjournal

end Run

/-- A receipt that asks for another delivery, for a failure of an operation. -/
def Receipt.AsksAgain (r : Receipt) (operation : String) : Prop :=
  r.signal = ⟨false, true⟩ ∧ ∃ f, r.result = .error f ∧ f.operation? = some operation

theorem Failure.RetriesReport.asksAgain {f : Failure} (h : f.RetriesReport) (n : Notice) :
    (receiptOf n (.error f)).AsksAgain LedgerOperation.reportState.name := by
  obtain ⟨hretry, hoperation⟩ := h
  cases f with
  | retryable message operation cause => exact ⟨rfl, _, rfl, hoperation⟩
  | benign message operation code cause => exact nomatch hretry
  | malformed message operation cause => exact nomatch hretry
  | _ => exact nomatch hoperation

/-- A receipt says what became of the report of a state: the transaction was not open any more
exactly if a reply says so that can be read, it was applied exactly if the report has an answer, and
otherwise the report is to be made again. -/
structure Receipt.TellsReport (receipt : Receipt) (ids : LedgerIds) (reply : Option Reply)
    (answer : Except Failure Payment) : Prop where
  notOpen : receipt.result = .ok (.updated ids false) ↔
    Remote.NotPending reply ∧ ¬ Remote.Garbled reply
  applied : receipt.result = .ok (.updated ids true) ↔ ∃ payment, answer = .ok payment
  otherwise : (Remote.NotPending reply → Remote.Garbled reply) →
    (∀ payment, answer ≠ .ok payment) → receipt.AsksAgain LedgerOperation.reportState.name

theorem Remote.Reported.receipt {reply : Option Reply} {answer : Except Failure Payment}
    {result : Except Failure Bool} (h : Reported reply answer result) (n : Notice)
    (ids : LedgerIds) :
    (receiptOf n (result.map (Outcome.updated ids))).TellsReport ids reply answer := by
  cases h with
  | @applied payment hnot =>
    refine ⟨⟨fun h => ?_, fun h => absurd h.1 hnot⟩, ⟨fun _ => ⟨payment, rfl⟩, fun _ => rfl⟩,
      fun _ hno => absurd rfl (hno payment)⟩
    exact nomatch h
  | notOpen hnot hgarbled =>
    refine ⟨⟨fun _ => ⟨hnot, hgarbled⟩, fun _ => rfl⟩, ⟨fun h => ?_, ?_⟩,
      fun hno _ => absurd (hno hnot) hgarbled⟩
    · exact nomatch h
    · rintro ⟨_, h⟩
      exact nomatch h
  | failed hnot hretries =>
    refine ⟨⟨fun h => ?_, fun h => absurd (hnot h.1) h.2⟩, ⟨fun h => ?_, ?_⟩,
      fun _ _ => hretries.asksAgain n⟩
    · exact nomatch h
    · exact nomatch h
    · rintro ⟨_, h⟩
      exact nomatch h

end NoticeLedger
