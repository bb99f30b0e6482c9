import NoticeLedger.Ledger.Remote
import NoticeLedger.Proofs.Form.Reading
import NoticeLedger.Proofs.Ledger.Answers

/-!
# NoticeLedger.Proofs.Ledger.Replies

What becomes of a reply, whatever it is.

* `Account.WellFormed`, `PaymentMethod.WellFormed`, `Payment.WellFormed` — values whose needed parts
  are texts, and the kinds and the statuses of whose transactions are known ones.
* `Answered good` — a value that is good, or a failure of the platform; nothing else is promised to
  a caller.
* `Answer.account_answered`, `methods_answered`, `payment_answered` — a body is answered so unless
  it slips: an object in it cannot be read (`Answer.Unreadable`), or a list stands in the place of
  a transaction (`Answer.HidesList`).
* `Remote.answers` — each call sends one request, and is answered so unless its reply slips.

A list in the place of a transaction passes because only its own items are looked at.
-/

namespace NoticeLedger

open Form

/-! ## Values in good order -/

def Account.WellFormed (a : Account) : Prop :=
  a.id.IsText

structure PaymentMethod.WellFormed (m : PaymentMethod) : Prop where
  id : m.id.IsText
  accountId : m.accountId.IsText
  pluginName : m.pluginName.IsText

/-- A transaction whose references are texts, of a known kind and in a known status. -/
structure Transaction.WellFormed (t : Transaction) : Prop where
  id : t.id.IsText
  paymentId : t.paymentId.IsText
  kind : ∃ k : TransactionKind, t.kind = k.given
  status : ∃ s : TransactionStatus, t.status = s.given

/-- A payment whose references are texts, with transactions in good order. -/
structure Payment.WellFormed (p : Payment) : Prop where
  id : p.id.IsText
  accountId : p.accountId.IsText
  paymentMethodId : p.paymentMethodId.IsText
  transactions : ∀ t ∈ p.transactions, t.WellFormed

/-- A good value, or a failure of the platform. -/
inductive Answered {α : Type} (good : α → Prop) : Except Failure α → Prop where
  | value {a : α} : good a → Answered good (.ok a)
  | refused (message : String) (code : Given) (status : Option Number) :
      Answered good (.error (.platform message code status))

namespace Answer

/-! ## Bodies of objects -/

/-- An object that cannot be read by a form. -/
def Unreadable (form : Form) (body : Json) : Prop :=
  ∃ m, body = .object m ∧ Trips form body

/-- The members that are taken from a body, if they are. -/
inductive Taken (form : Form) (body : Json) : Except Failure Members → Prop where
  | unreadable (message : String) : Unreadable form body →
      Taken form body (.error (.unforeseen message))
  | refused (message : String) :
      (∀ m, body = .object m → ∃ read, form.readMembers m = .ok read ∧ ¬ form.Meets read) →
      Taken form body (.error (.platform message (some (.text PlatformCode.unknown)) none))
  | read {sent read : Members} : body = .object sent → form.readMembers sent = .ok read →
      form.Meets read → Taken form body (.ok read)

theorem membersOf_taken (form : Form) (what : String) (body : Json) :
    Taken form body (membersOf form what body) := by
  by_cases hobject : ∃ m, body = .object m
  swap
  · have hrefused : membersOf form what body = .error (unexpected what []) :=
      membersOf.eq_2 form what body fun m h => hobject ⟨m, h⟩
    rw [hrefused]
    exact .refused _ fun m h => absurd ⟨m, h⟩ hobject
  obtain ⟨m, rfl⟩ := hobject
  have hfails := readMembers_fails form m
  rw [membersOf]
  by_cases ht : Trips form (.object m)
  · obtain ⟨message, hread⟩ := hfails.fails ht
    rw [hread]
    exact .unreadable message ⟨m, rfl, ht⟩
  · obtain ⟨read, hr⟩ := hfails.works ht
    rw [hr]
    dsimp only
    split
    · rename_i hfaulty
      exact .read rfl hr (meets_of_faultyMembers hfaulty)
    · rename_i hfaulty
      refine .refused _ ?_
      rintro _ ⟨⟩
      refine ⟨read, hr, fun hm => hfaulty ?_⟩
      rw [faultyMembers, (violations_eq_nil_iff form read).mpr hm]
      rfl

theorem not_unreadable {form : Form} {sent read : Members}
    (h : form.readMembers sent = .ok read) : ¬ Unreadable form (.object sent) := by
  rintro ⟨_, _, ht⟩
  obtain ⟨_, hfails⟩ := (readMembers_fails form sent).fails ht
  rw [hfails] at h
  exact nomatch h

theorem answered_of_members {α : Type} {form : Form} {what : String} {body : Json}
    {good : α → Prop} {make : Members → α} (hgood : ∀ m, form.Meets m → good (make m)) :
    Answered good ((membersOf form what body).bind fun m => .ok (make m)) ↔
      ¬ Unreadable form body := by
  have htaken := membersOf_taken form what body
  generalize membersOf form what body = x at htaken
  cases htaken with
  | unreadable _ h => exact ⟨nofun, fun hn => absurd h hn⟩
  | refused _ h =>
    refine ⟨fun _ => ?_, fun _ => .refused _ _ _⟩
    rintro ⟨m, rfl, ht⟩
    obtain ⟨read, hr, -⟩ := h m rfl
    exact not_unreadable hr ⟨m, rfl, ht⟩
  | read hb hr hm =>
    refine ⟨fun _ => ?_, fun _ => .value (hgood _ hm)⟩
    rw [hb]
    exact not_unreadable hr

theorem account_answered (body : Json) :
    Answered Account.WellFormed (account body) ↔ ¬ Unreadable accountForm body :=
  answered_of_members fun _ hm => needed_text hm.1

theorem method_wellFormed {item : Json} {m : PaymentMethod} (h : method item = .ok m) :
    m.WellFormed := by
  obtain ⟨members, hm, h⟩ := bind_eq_ok h
  cases h
  obtain ⟨hid, haccount, hplugin, -⟩ := membersOf_meets hm
  exact ⟨needed_text hid, needed_text haccount, needed_text hplugin⟩

theorem method_answered (item : Json) :
    Answered PaymentMethod.WellFormed (method item) ↔ ¬ Unreadable methodForm item :=
  answered_of_members fun _ hm =>
    ⟨needed_text hm.1, needed_text hm.2.1, needed_text hm.2.2.1⟩

/-! ## Bodies of lists -/

/-- A list in which the first item that is not taken cannot be read. -/
def FirstUnreadable (items : List Json) : Prop :=
  ∃ before item after, items = before ++ item :: after ∧
    (∀ i ∈ before, ∃ m, method i = .ok m) ∧ Unreadable methodForm item

theorem firstUnreadable_cons {item : Json} {rest : List Json} :
    FirstUnreadable (item :: rest) ↔
      Unreadable methodForm item ∨ (∃ m, method item = .ok m) ∧ FirstUnreadable rest := by
  constructor
  · rintro ⟨before, i, after, heq, hbefore, hi⟩
    cases before with
    | nil =>
      cases heq
      exact .inl hi
    | cons first before =>
      cases heq
      obtain ⟨hfirst, hothers⟩ := List.forall_mem_cons.mp hbefore
      exact .inr ⟨hfirst, before, i, after, rfl, hothers, hi⟩
  · rintro (hi | ⟨hfirst, before, i, after, rfl, hbefore, hi⟩)
    · exact ⟨[], item, rest, rfl, nofun, hi⟩
    · exact ⟨item :: before, i, after, rfl, List.forall_mem_cons.mpr ⟨hfirst, hbefore⟩, hi⟩

theorem mapM_method_answered (items : List Json) :
    Answered (fun l => ∀ m ∈ l, PaymentMethod.WellFormed m) (items.mapM method) ↔
      ¬ FirstUnreadable items := by
  induction items with
  | nil =>
    refine ⟨fun _ => ?_, fun _ => .value nofun⟩
    rintro ⟨before, item, after, heq, -⟩
    exact absurd heq.symm (by simp)
  | cons item rest ih =>
    have hitem := method_answered item
    rw [List.mapM_cons, firstUnreadable_cons, not_or, ← hitem]
    cases hm : method item with
    | error f =>
      have hcut : ¬ ((∃ m, (Except.error f : Except Failure PaymentMethod) = .ok m) ∧
        FirstUnreadable rest) := fun ⟨⟨_, h⟩, _⟩ => nomatch h
      constructor
      · rintro ⟨⟩
        exact ⟨.refused _ _ _, hcut⟩
      · rintro ⟨⟨⟩, -⟩
        exact .refused _ _ _
    | ok m =>
      have hgood := method_wellFormed hm
      have hfirst : (∃ m', (Except.ok m : Except Failure PaymentMethod) = .ok m') ∧
        FirstUnreadable rest ↔ FirstUnreadable rest := and_iff_right ⟨m, rfl⟩
      rw [hfirst, ← ih, and_iff_right (.value hgood)]
      cases rest.mapM method with
      | error f =>
        constructor
        · rintro ⟨⟩
          exact .refused _ _ _
        · rintro ⟨⟩
          exact .refused _ _ _
      | ok l =>
        constructor
        · rintro ⟨hall⟩
          exact .value (List.forall_mem_cons.mp hall).2
        · rintro ⟨hall⟩
          exact .value (List.forall_mem_cons.mpr ⟨hgood, hall⟩)

/-- A list of payment methods whose first item that is not taken cannot be read. -/
def UnreadableMethod (body : Json) : Prop :=
  ∃ items, body = .array items ∧ FirstUnreadable items

theorem methods_answered (body : Json) :
    Answered (fun l => ∀ m ∈ l, PaymentMethod.WellFormed m) (methods body) ↔
      ¬ UnreadableMethod body := by
  by_cases hlist : ∃ items, body = .array items
  · obtain ⟨items, rfl⟩ := hlist
    refine (mapM_method_answered items).trans (not_congr ?_)
    constructor
    · exact fun h => ⟨items, rfl, h⟩
    · rintro ⟨_, ⟨⟩, h⟩
      exact h
  · have hrefused : methods body = .error (unexpected "payment method list" []) :=
      methods.eq_2 body fun items h => hlist ⟨items, h⟩
    rw [hrefused]
    exact ⟨fun _ ⟨items, h, _⟩ => hlist ⟨items, h⟩, fun _ => .refused _ _ _⟩

/-! ## Bodies of payments -/

/-- The items that stand in the place of the transactions of a payment. -/
def transactionItems (sent : Members) : List Json :=
  ((sent.get? "transactions").bind Json.items?).getD []

/-- A payment in good order but for a list that stands in the place of a transaction. -/
def HidesList (body : Json) : Prop :=
  ∃ sent read, body = .object sent ∧ paymentForm.readMembers sent = .ok read ∧
    paymentForm.Meets read ∧ ∃ inner, .array inner ∈ transactionItems sent

theorem transaction_wellFormed {item : Json} (h : Within transactionForm.Meets item)
    (hobject : ∃ m, item = .object m) : (transaction item).WellFormed := by
  obtain ⟨m, rfl⟩ := hobject
  obtain ⟨hid, hpayment, -, hkind, hstatus, -⟩ := within_object.mp h
  refine ⟨needed_text hid, needed_text hpayment, ?_, ?_⟩
  · rcases hkind.asks List.mem_cons_self with ⟨ho, -⟩ | ⟨_, hv, s, hs, rfl⟩
    · exact nomatch ho
    · obtain ⟨k, -, rfl⟩ := List.mem_map.mp hs
      exact ⟨k, hv⟩
  · rcases hstatus.asks List.mem_cons_self with ⟨ho, -⟩ | ⟨_, hv, s, hs, rfl⟩
    · exact nomatch ho
    · obtain ⟨k, -, rfl⟩ := List.mem_map.mp hs
      exact ⟨k, hv⟩

theorem transaction_array (inner : List Json) : ¬ (transaction (.array inner)).WellFormed :=
  fun h => nomatch h.id

/-- Items that are read and met describe transactions in good order unless one of them is a
list. -/
theorem transactions_wellFormed {items items' : List Json}
    (hread : List.Forall₂ (fun item item' => transactionForm.read item = .ok item') items items')
    (hm : ∀ item ∈ items', Within transactionForm.Meets item) :
    (∀ t ∈ items'.map transaction, t.WellFormed) ↔ ¬ ∃ inner, .array inner ∈ items := by
  induction hread with
  | nil =>
    refine ⟨fun _ => ?_, fun _ => nofun⟩
    rintro ⟨_, h⟩
    exact nomatch h
  | @cons item item' items items' hitem _ ih =>
    obtain ⟨hfirst, hrest⟩ := List.forall_mem_cons.mp hm
    rw [List.map_cons, List.forall_mem_cons, ih hrest]
    cases read_ok hitem with
    | object hr =>
      rw [and_iff_right (transaction_wellFormed hfirst ⟨_, rfl⟩)]
      simp
    | array hr =>
      refine iff_of_false (fun h => transaction_array _ h.1) ?_
      exact not_not.mpr ⟨_, List.mem_cons_self⟩
    | plain hmembers hitems =>
      cases hfirst with
      | object _ => exact nomatch hmembers
      | array _ => exact nomatch hitems

/-- A body of which no payment in good order is made, though it is not refused. -/
def SlipsPayment (body : Json) : Prop :=
  Unreadable paymentForm body ∨ HidesList body

theorem payment_answered (body : Json) :
    Answered Payment.WellFormed (payment body) ↔ ¬ SlipsPayment body := by
  have htaken := membersOf_taken paymentForm "payment" body
  rw [payment]
  generalize membersOf paymentForm "payment" body = x at htaken
  cases htaken with
  | unreadable _ h => exact ⟨nofun, fun hn => absurd (.inl h) hn⟩
  | refused _ h =>
    refine ⟨fun _ => ?_, fun _ => .refused _ _ _⟩
    rintro (⟨m, rfl, ht⟩ | ⟨m, read, rfl, hr, hm, -⟩)
    · obtain ⟨read, hr, -⟩ := h m rfl
      exact not_unreadable hr ⟨m, rfl, ht⟩
    · obtain ⟨read', hr', hn⟩ := h m rfl
      rw [hr] at hr'
      cases hr'
      exact hn hm
  | @read sent read hb hr hm =>
    subst hb
    obtain ⟨hid, haccount, hmethod, -, hlist, hinside, -⟩ := id hm
    obtain ⟨items, items', hsent, hget, hitems, hwithin⟩ :=
      list_read hr (by decide) rfl rfl List.mem_cons_self hlist hinside
    have hsent : transactionItems sent = items := by
      rw [transactionItems, show sent.get? "transactions" = _ from hsent]
      rfl
    have hget : ((read.get? "transactions").bind Json.items?).getD [] = items' := by
      rw [show read.get? "transactions" = _ from hget]
      rfl
    have hall := transactions_wellFormed hitems hwithin
    have hslips : SlipsPayment (.object sent) ↔ ∃ inner, .array inner ∈ items := by
      rw [SlipsPayment, or_iff_right (not_unreadable hr), ← hsent]
      constructor
      · rintro ⟨_, _, ⟨⟩, -, -, h⟩
        exact h
      · exact fun h => ⟨sent, read, rfl, hr, hm, h⟩
    rw [hslips, ← hall, ← hget]
    constructor
    · rintro ⟨h⟩
      exact h.transactions
    · exact fun h =>
        .value ⟨needed_text hid, needed_text haccount, needed_text hmethod, h⟩

/-! ## Codes of refusals -/

/-- The code that the body of a refusal is taken to have. -/
def codeOf (read : Json) : Json :=
  (said read "code").getD (.text PlatformCode.unknown)

theorem readMember_code {v : Json} {code : String} :
    refusalForm.readMember "code" v = .ok (.text code) ↔ v = .text code := by
  constructor
  · exact looseValue_text
  · rintro rfl
    rfl

/-- A refusal has a known code exactly if it is an object with that code. -/
theorem codeOf_eq_iff {body read : Json} {code : String} (hread : refusalForm.read body = .ok read)
    (hempty : code ≠ "") (hknown : code ≠ PlatformCode.unknown) :
    codeOf read = .text code ↔
      ∃ m, body = .object m ∧ Members.get? m "code" = some (.text code) := by
  have hunknown : Json.text PlatformCode.unknown ≠ .text code :=
    fun h => hknown (Json.text.inj h).symm
  rw [codeOf]
  cases read_ok hread with
  | array _ => exact ⟨fun h => absurd h hunknown, fun ⟨_, h, _⟩ => nomatch h⟩
  | plain hm _ =>
    rw [said, hm]
    refine ⟨fun h => absurd h hunknown, ?_⟩
    rintro ⟨_, rfl, _⟩
    exact nomatch hm
  | @object m m' hm =>
    have hget := readMembers_get? hm "code" (by decide)
    have hsent : (∃ m₂, Json.object m = .object m₂ ∧ Members.get? m₂ "code" = some (.text code)) ↔
        m.get? "code" = some (.text code) := by
      constructor
      · rintro ⟨_, ⟨⟩, h⟩
        exact h
      · exact fun h => ⟨m, rfl, h⟩
    rw [hsent, said, Json.members?, Option.bind_some]
    generalize m.get? "code" = v at hget
    generalize Members.get? m' "code" = v' at hget
    cases hget with
    | none => exact ⟨fun h => absurd h hunknown, nofun⟩
    | @some v v' hv =>
      have hkept : v = .text code ↔ v' = .text code := by
        rw [← readMember_code, hv, Except.ok.injEq]
      rw [Option.some_inj, hkept, Option.filter_some]
      by_cases ht : v'.isTruthy = true
      · rw [if_pos ht, Option.getD_some]
      · rw [if_neg ht]
        refine ⟨fun h => absurd h hunknown, ?_⟩
        rintro rfl
        exact absurd (bne_iff_ne.mpr hempty) ht

end Answer

/-! ## Calls -/

namespace Remote

variable {α : Type} {r : Remote} {status : Nat} {text : String}

/-- A reply to a call slips: the request failed with a failure that no sentence can hold, or the
body of the answer breaks off, or a refusal cannot be read, or what is taken as an answer slips. -/
def Slips (r : Remote) (slips : Json → Prop) : Prop :=
  match replyOf r.replies.head? with
  | .error f => f.isWordless = true
  | .ok (_, .error _) => True
  | .ok (status, .ok text) =>
    if isOk status then slips (Answer.body text)
    else Trips Answer.refusalForm (Answer.body text)

/-- A call sends one request, uses up one reply, and gives a good value or a failure of the
platform, unless the reply slips. -/
structure Answers (r : Remote) (call : LedgerCall) (context : CallContext) (good : α → Prop)
    (slips : Json → Prop) (answer : Except Failure α × Remote) : Prop where
  requests : answer.2.requests =
    r.requests ++ [r.endpoint.request call.method call.path (some context) call.payload]
  replies : answer.2.replies = r.replies.drop 1
  result : Answered good answer.1 ↔ ¬ r.Slips slips

theorem replyOf_ok {reply : Option Reply} (h : replyOf reply = .ok (status, .ok text)) :
    reply = some (.answered status text) := by
  unfold replyOf at h
  split at h
  · cases h
    rfl
  all_goals exact nomatch h

theorem replyOf_broken {reply : Option Reply} {f : Failure}
    (h : replyOf reply = .ok (status, .error f)) :
    ∃ message, f = .unforeseen message ∧ reply = some (.broken status message) := by
  unfold replyOf at h
  split at h
  case h_2 =>
    cases h
    exact ⟨_, rfl, rfl⟩
  all_goals exact nomatch h

theorem refusal_cases {otherwise : String} {status : Nat} {body : Json}
    {f : Except Failure Failure} (h : Answer.refusal otherwise status body = f) :
    (Trips Answer.refusalForm body ∧ ∃ message, f = .error (.unforeseen message)) ∨
      ¬ Trips Answer.refusalForm body ∧ ∃ read message,
        Answer.refusalForm.read body = .ok read ∧
        f = .ok (.platform message (some (Answer.codeOf read))
          (some (Number.ofInt status))) := by
  have hfails := read_fails Answer.refusalForm body
  rw [Answer.refusal] at h
  by_cases ht : Trips Answer.refusalForm body
  · obtain ⟨message, hread⟩ := hfails.fails ht
    rw [hread] at h
    exact .inl ⟨ht, message, h.symm⟩
  · obtain ⟨read, hr⟩ := hfails.works ht
    rw [hr] at h
    exact .inr ⟨ht, read, _, hr, h.symm⟩

/-- Every call sends its request and uses up one reply, at the same endpoint. -/
theorem exchange_sends (r : Remote) (call : LedgerCall) (context : CallContext) :
    (r.exchange call context).2.requests =
        r.requests ++ [r.endpoint.request call.method call.path (some context) call.payload] ∧
      (r.exchange call context).2.replies = r.replies.drop 1 ∧
      (r.exchange call context).2.endpoint = r.endpoint := by
  simp only [exchange, send]
  rcases replyOf r.replies.head? with f | ⟨status, f | text⟩
  · exact ⟨rfl, rfl, rfl⟩
  · exact ⟨rfl, rfl, rfl⟩
  · dsimp only
    split
    · exact ⟨rfl, rfl, rfl⟩
    · split
      · exact ⟨rfl, rfl, rfl⟩
      · exact ⟨rfl, rfl, rfl⟩

theorem exchange_of_broken (call : LedgerCall) (context : CallContext) {f : Failure}
    (h : replyOf r.replies.head? = .ok (status, .error f)) :
    (r.exchange call context).1 = .error f := by
  simp only [exchange, send, h]

theorem exchange_of_isOk (call : LedgerCall) (context : CallContext)
    (h : replyOf r.replies.head? = .ok (status, .ok text)) (hok : isOk status = true) :
    (r.exchange call context).1 = .ok (Answer.body text) := by
  simp only [exchange, send, h, if_pos hok]

theorem exchange_of_refusal (call : LedgerCall) (context : CallContext)
    (h : replyOf r.replies.head? = .ok (status, .ok text)) (hok : isOk status = false) :
    (Trips Answer.refusalForm (Answer.body text) ∧
        ∃ message, (r.exchange call context).1 = .error (.unforeseen message)) ∨
      ¬ Trips Answer.refusalForm (Answer.body text) ∧ ∃ read message,
        Answer.refusalForm.read (Answer.body text) = .ok read ∧
        (r.exchange call context).1 =
          .error (.platform message (some (Answer.codeOf read)) (some (Number.ofInt status))) := by
  simp only [exchange, send, h, hok, Bool.false_eq_true, if_false]
  split
  · rename_i hr
    rcases refusal_cases hr with ⟨ht, message, ⟨⟩⟩ | ⟨-, _, _, -, h⟩
    · exact .inl ⟨ht, message, rfl⟩
    · exact nomatch h
  · rename_i hr
    rcases refusal_cases hr with ⟨-, _, h⟩ | ⟨ht, read, message, hread, ⟨⟩⟩
    · exact nomatch h
    · exact .inr ⟨ht, read, message, hread, rfl⟩

theorem exchange_of_error (call : LedgerCall) (context : CallContext) {f : Failure}
    (h : replyOf r.replies.head? = .error f) :
    (f.isWordless = true ∧ (r.exchange call context).1 = .error .wordless) ∨
      f.isWordless = false ∧ ∃ message, (r.exchange call context).1 =
        .error (.platform message (some (.text PlatformCode.unknown)) none) := by
  simp only [exchange, send, h]
  cases hw : f.isWordless with
  | true => exact .inl ⟨rfl, rfl⟩
  | false => exact .inr ⟨rfl, _, rfl⟩

theorem exchange_answers {good : α → Prop} {slips : Json → Prop}
    {read : Json → Except Failure α} (hread : ∀ body, Answered good (read body) ↔ ¬ slips body)
    (r : Remote) (call : LedgerCall) (context : CallContext) :
    r.Answers call context good slips
      ((r.exchange call context).1.bind read, (r.exchange call context).2) := by
  obtain ⟨hrequests, hreplies, -⟩ := r.exchange_sends call context
  refine ⟨hrequests, hreplies, ?_⟩
  rw [Slips]
  rcases h : replyOf r.replies.head? with f | ⟨status, f | text⟩
  · rcases exchange_of_error call context h with ⟨hw, he⟩ | ⟨hw, message, he⟩
    · rw [he]
      exact ⟨nofun, fun hn => absurd hw hn⟩
    · rw [he]
      exact ⟨fun _ => ne_true_of_eq_false hw, fun _ => .refused _ _ _⟩
  · rw [exchange_of_broken call context h]
    obtain ⟨message, rfl, -⟩ := replyOf_broken h
    exact ⟨nofun, fun hn => absurd trivial hn⟩
  · dsimp only
    cases hok : isOk status with
    | true =>
      rw [exchange_of_isOk call context h hok, if_pos rfl]
      exact hread (Answer.body text)
    | false =>
      rw [if_neg Bool.false_ne_true]
      rcases exchange_of_refusal call context h hok with ⟨ht, _, he⟩ | ⟨ht, _, _, -, he⟩
      · rw [he]
        exact ⟨nofun, fun hn => absurd ht hn⟩
      · rw [he]
        exact ⟨fun _ => ht, fun _ => .refused _ _ _⟩

theorem isHealthy_ok (r : Remote) :
    (∃ well, r.isHealthy.1 = .ok well) ↔
      ¬ ∃ f, replyOf r.replies.head? = .error f ∧ f.isWordless = true := by
  simp only [isHealthy, send]
  cases replyOf r.replies.head? with
  | ok reply =>
    refine ⟨?_, fun _ => ⟨_, rfl⟩⟩
    rintro - ⟨_, h, _⟩
    exact nomatch h
  | error f =>
    by_cases hw : f.isWordless = true
    · simp only [if_pos hw]
      refine ⟨?_, fun hn => absurd ⟨f, rfl, hw⟩ hn⟩
      rintro ⟨_, h⟩
      exact nomatch h
    · simp only [if_neg hw]
      refine ⟨?_, fun _ => ⟨false, rfl⟩⟩
      rintro - ⟨_, ⟨⟩, h⟩
      exact hw h

/-- Whatever comes back to a call, it has sent one request, and it gives a value in good order or a
failure of the platform, unless the reply slips; whether the platform is well is told unless the
failure of the request cannot be put into words. -/
theorem answers (r : Remote) (context : CallContext) :
    (∀ id, r.Answers (.getAccount id) context Account.WellFormed
      (Answer.Unreadable Answer.accountForm) (r.getAccount id context)) ∧
    (∀ id, r.Answers (.listPaymentMethods id) context
      (fun l => ∀ m ∈ l, PaymentMethod.WellFormed m) Answer.UnreadableMethod
      (r.listPaymentMethods id context)) ∧
    (∀ account id success, r.Answers (.reportState account id success) context Payment.WellFormed
      Answer.SlipsPayment (r.reportState account id success context)) ∧
    (∀ account order, r.Answers (.createPurchase account order) context Payment.WellFormed
      Answer.SlipsPayment (r.createPurchase account order context)) ∧
    (∀ account order, r.Answers (.createChargeback account order) context Payment.WellFormed
      Answer.SlipsPayment (r.createChargeback account order context)) ∧
    ((∃ well, r.isHealthy.1 = .ok well) ↔
      ¬ ∃ f, replyOf r.replies.head? = .error f ∧ f.isWordless = true) := by
  refine ⟨fun id => exchange_answers Answer.account_answered r _ context,
    fun id => exchange_answers Answer.methods_answered r _ context,
    fun account id success => exchange_answers Answer.payment_answered r _ context,
    fun account order => exchange_answers Answer.payment_answered r _ context,
    fun account order => exchange_answers Answer.payment_answered r _ context,
    r.isHealthy_ok⟩

theorem reportState_eq (r : Remote) (account : Account) (id success : Given)
    (context : CallContext) :
    (r.reportState account id success context).1 =
      (r.exchange (.reportState account id success) context).1.bind Answer.payment := rfl

def nestedText : String :=
  "\x7b\"paymentId\":\"p1\",\"accountId\":\"a1\",\"paymentMethodId\":\"pm1\"," ++
    "\"transactions\":[[]]\x7d"

def nested : Remote where
  endpoint := { baseUrl := "http://billing.test", apiKey := "key", apiSecret := "secret" }
  replies := [.answered 200 nestedText]

/-- The payment of a reply is not always in good order: a transaction may have no references, kind
or status. -/
theorem not_every_payment_wellFormed :
    ¬ ∀ (r : Remote) (account : Account) (id success : Given) (context : CallContext),
      Answered Payment.WellFormed (r.reportState account id success context).1 := by
  intro h
  have hbody : Answer.body nestedText = .object
      [("paymentId", .text "p1"), ("accountId", .text "a1"), ("paymentMethodId", .text "pm1"),
        ("transactions", .array [.array []])] := by
    decide +kernel
  have hanswer := h nested { id := .text "a1" } (.text "t1") (some (.bool true))
    { tenantId := .text "tenant-1", userName := .text "tester", createdAt := ⟨0⟩ }
  have hreply : replyOf nested.replies.head? = .ok (200, .ok nestedText) := rfl
  rw [reportState_eq, exchange_of_isOk _ _ hreply rfl, hbody] at hanswer
  cases hanswer with
  | value hgood => exact Answer.transaction_array [] (hgood.transactions _ List.mem_cons_self)

end Remote

end NoticeLedger
