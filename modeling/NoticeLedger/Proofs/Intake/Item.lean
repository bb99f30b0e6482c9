import NoticeLedger.Intake.Batch
import NoticeLedger.Proofs.Form.Accepting
import NoticeLedger.Proofs.Form.Reading
import NoticeLedger.Proofs.Notice.Canonical

/-!
# NoticeLedger.Proofs.Intake.Item

The notice of one item of a batch.

* `Notice.WellFormed sent n` — the parts of a notice `n` have the kinds that the rest relies on, and
  its code and its reference are those that were sent.
* `wrapped?` — the members of the notice that an item wraps; reading an item keeps whether there
  are any (`wrapped?_read`).
* `noticeOf_ok` — members that meet the form of a notice make a well-formed one.

Two parts can be less than they should: a code of blanks is empty, and an amount that was sent as a
list has neither a value nor a currency.
-/

namespace NoticeLedger

open Form

/-- Nothing, or a text with something in it. -/
def Json.Says (v : Json) : Prop :=
  v = .null ∨ ∃ s, v = .text s ∧ s ≠ ""

/-- A notice whose parts have the kinds that the rest relies on, and what was sent for it. -/
structure Notice.WellFormed (sent : Members) (n : Notice) : Prop where
  eventCode : ∃ code, sent.get? "eventCode" = some (.text code) ∧
    n.eventCode = Text.canonical code ∧
    (n.eventCode = "" ↔ ∀ c ∈ code.toList, Text.isBlank c = true)
  pspReference : ∃ ref, sent.get? "pspReference" = some (.text ref) ∧ ref ≠ "" ∧
    n.pspReference = .text ref
  amount : n.amount = none ∨
    (∃ value currency, value.isFinite = true ∧
      n.amount = some [("value", .number value), ("currency", .text currency)]) ∨
    ((∃ items, sent.get? "amount" = some (.array items)) ∧ n.amount = some [])
  success : n.success = .null ∨ ∃ b, n.success = .bool b
  operations : ∀ items, n.operations = some items → ∀ item ∈ items, ∃ s, item = .text s
  additionalData : ∀ data, n.additionalData = some data → ∀ entry ∈ data, ∃ s, entry.2 = .text s
  earlierReference : n.earlierReference.Says
  merchantReference : n.merchantReference.Says
  eventDate : n.eventDate.Says
  merchantAccountCode : n.merchantAccountCode.Says
  paymentMethod : n.paymentMethod.Says
  reason : n.reason.Says
  live : ∃ b, n.live = .bool b

/-! ## Single members -/

section Members

variable {f : Field} {value : Given}

theorem Given.meaning_text {s : String} (hs : s ≠ "") :
    Given.meaning (some (.text s)) = .text s := by
  unfold Given.meaning
  split
  · rename_i h
    cases h
    exact absurd rfl hs
  · rfl

theorem Field.Met.says (h : f.Met value) (hr : .text ∈ f.requirements) :
    value.meaning.Says := by
  rcases h.asks hr with ⟨-, hn⟩ | ⟨_, rfl, s, rfl⟩
  · rcases Given.isNothing_cases hn with rfl | rfl
    · exact .inl rfl
    · exact .inl rfl
  · by_cases hs : s = ""
    · subst hs
      exact .inl rfl
    · exact .inr ⟨s, Given.meaning_text hs, hs⟩

theorem Field.Met.code (h : f.Met value) (hf : f.optional = false)
    (ht : .text ∈ f.requirements) (he : .notEmpty ∈ f.requirements) :
    ∃ s, value = some (.text s) ∧ s ≠ "" := by
  rcases h.asks ht with ⟨ho, -⟩ | ⟨_, rfl, s, rfl⟩
  · rw [hf] at ho
    exact nomatch ho
  · rcases h.asks he with ⟨ho, -⟩ | ⟨_, hv, -, hs⟩
    · rw [hf] at ho
      exact nomatch ho
    · cases hv
      refine ⟨s, rfl, ?_⟩
      rintro rfl
      exact hs rfl

theorem Field.Met.flag (h : f.Met value) (hr : .flag ∈ f.requirements) :
    value.orNull = .null ∨ ∃ b, value.orNull = .bool b := by
  rcases h.asks hr with ⟨-, hn⟩ | ⟨_, rfl, b, rfl⟩
  · exact .inl ((Given.isNothing_iff value).mp hn)
  · exact .inr ⟨b, rfl⟩

theorem Field.Met.operations (h : f.Met value) (hl : .list ∈ f.requirements)
    (ht : .texts ∈ f.requirements) :
    ∃ operations, Notice.itemsOf value = .ok operations ∧
      ∀ items, operations = some items → ∀ item ∈ items, ∃ s, item = .text s := by
  rcases h.asks hl with ⟨-, hn⟩ | ⟨_, rfl, items, rfl⟩
  · refine ⟨none, ?_, nofun⟩
    rcases Given.isNothing_cases hn with rfl | rfl
    · rfl
    · rfl
  · refine ⟨some items, rfl, ?_⟩
    rintro _ ⟨⟩
    rcases h.asks ht with ⟨-, hn⟩ | ⟨_, hv, ht⟩
    · exact nomatch hn
    · cases hv
      rcases ht with ⟨s, hs⟩ | ⟨_, hi, ht⟩
      · exact nomatch hs
      · cases hi
        exact ht

theorem Batch.texts_text (m : Members) : ∀ entry ∈ Batch.texts m, ∃ s, entry.2 = .text s := by
  intro entry he
  obtain ⟨⟨name, v⟩, -, hv⟩ := List.mem_filterMap.mp he
  obtain ⟨s, -, rfl⟩ := Option.map_eq_some_iff.mp hv
  exact ⟨s, rfl⟩

theorem Field.Met.data (h : f.Met value) (hr : .members ∈ f.requirements) :
    ∀ data, Notice.membersOf (Batch.dataOf value) = some data →
      ∀ entry ∈ data, ∃ s, entry.2 = .text s := by
  intro data hd
  rcases h.asks hr with ⟨-, hn⟩ | ⟨_, rfl, m, rfl⟩
  · rcases Given.isNothing_cases hn with rfl | rfl
    · exact nomatch hd
    · exact nomatch hd
  · cases hd
    exact Batch.texts_text m

end Members

namespace Batch

/-! ## What an item wraps -/

/-- The members of the notice that an item wraps. -/
def wrapped? (item : Json) : Option Members :=
  (item.members?.bind fun m => Members.get? m "NotificationRequestItem").bind Json.members?

theorem noticeOfItem_of_some {live : Bool} {item : Json} {m : Members}
    (h : wrapped? item = some m) : noticeOfItem live item = noticeOf live m := by
  obtain ⟨v, hv, hm⟩ := Option.bind_eq_some_iff.mp h
  rw [noticeOfItem, hv]
  cases v with
  | object m' =>
    cases hm
    rfl
  | _ => exact nomatch hm

/-- An item that wraps nothing has no notice, and that is not told as a fault of the batch. -/
theorem noticeOfItem_of_none {live : Bool} {item : Json} (h : wrapped? item = none) :
    ∃ message, noticeOfItem live item = .error (.unforeseen message) := by
  rw [noticeOfItem]
  rw [wrapped?] at h
  cases hv : item.members?.bind fun m => Members.get? m "NotificationRequestItem" with
  | none => exact ⟨_, rfl⟩
  | some v =>
    rw [hv] at h
    cases v with
    | object m => exact nomatch h
    | _ => exact ⟨_, rfl⟩

theorem readMember_item (v : Json) :
    itemForm.readMember "NotificationRequestItem" v = noticeForm.read v := rfl

/-- Reading an item keeps whether it wraps a notice. -/
theorem wrapped?_read {item item' : Json} (h : itemForm.read item = .ok item') :
    Option.Rel (fun sent read => noticeForm.readMembers sent = .ok read)
      (wrapped? item) (wrapped? item') := by
  rw [wrapped?, wrapped?]
  cases read_ok h with
  | array _ => exact .none
  | plain hm _ =>
    rw [hm]
    exact .none
  | object hr =>
    have hget := readMembers_get? hr "NotificationRequestItem" (by decide)
    simp only [readMember_item] at hget
    simp only [Json.members?, Option.bind_some]
    generalize Members.get? _ "NotificationRequestItem" = v at hget
    generalize Members.get? _ "NotificationRequestItem" = v' at hget
    cases hget with
    | none => exact .none
    | some hv =>
      cases read_ok hv with
      | object hm => exact .some hm
      | array _ => exact .none
      | plain hm _ =>
        simp only [Option.bind_some, hm]
        exact .none

/-- A notice that an item wraps is looked at. -/
theorem meets_of_wrapped? {item : Json} {m : Members} (h : Within itemForm.Meets item)
    (hm : wrapped? item = some m) : noticeForm.Meets m := by
  obtain ⟨v, hv, hm⟩ := Option.bind_eq_some_iff.mp hm
  obtain ⟨members, hi, hv⟩ := Option.bind_eq_some_iff.mp hv
  cases v with
  | object m' =>
    cases hm
    cases item with
    | object members' =>
      cases hi
      have hv : Members.get? members "NotificationRequestItem" = some (.object m) := hv
      obtain ⟨-, hinside, -⟩ := within_object.mp h
      exact within_object.mp (hinside (by simp [Field.isSkipped, hv]) _ hv)
    | _ => cases hi
  | _ => cases hm

/-! ## The notice of an item -/

theorem sent_text {form : Form} {sent read : Members} {s : String}
    (h : form.readMembers sent = .ok read) (name : String) (hn : name ∉ reservedNames)
    (hi : form.inner? name = none) (hr : form.reading name = .plain)
    (hs : read.get? name = some (.text s)) : sent.get? name = some (.text s) := by
  have hget := readMembers_get? h name hn
  rw [hs] at hget
  cases hget' : sent.get? name with
  | none =>
    rw [hget'] at hget
    exact nomatch hget
  | some v =>
    rw [hget'] at hget
    cases hget with
    | some hv =>
      rw [readMember, hi, hr] at hv
      rw [looseValue_text hv]

/-- The value and the currency of an amount that meets its form; a list has none of them. -/
theorem amountOf_cases {sent read : Members} (h : noticeForm.readMembers sent = .ok read)
    {f : Field} (hf : f.isSkipped (read.get? "amount") = false →
      ∀ v, read.get? "amount" = some v → Within amountForm.Meets v) :
    Notice.membersOf (amountOf (read.get? "amount")) = none ∨
      (∃ value currency, value.isFinite = true ∧
        Notice.membersOf (amountOf (read.get? "amount")) =
          some [("value", .number value), ("currency", .text currency)]) ∨
      ((∃ items, sent.get? "amount" = some (.array items)) ∧
        Notice.membersOf (amountOf (read.get? "amount")) = some []) := by
  have hget := readMembers_get? h "amount" (by decide)
  generalize read.get? "amount" = v' at hf hget
  cases v' with
  | none => exact .inl rfl
  | some v =>
    cases v with
    | object m =>
      obtain ⟨hvalue, hcurrency, -⟩ := within_object.mp (hf rfl _ rfl)
      rcases hvalue.asks (r := .number) (by simp) with ⟨ho, -⟩ | ⟨_, hv, x, rfl, hx⟩
      · exact nomatch ho
      · rcases hcurrency.asks (r := .text) (by simp) with ⟨ho, -⟩ | ⟨_, hc, s, rfl⟩
        · exact nomatch ho
        · refine .inr (.inl ⟨x, s, hx, ?_⟩)
          simp only [amountOf, List.filterMap_cons, List.filterMap_nil, hv, hc, Option.map_some]
          rfl
    | array items =>
      refine .inr (.inr ⟨?_, rfl⟩)
      -- a list is read from a list
      cases hs : sent.get? "amount" with
      | none =>
        rw [hs] at hget
        exact nomatch hget
      | some v =>
        rw [hs] at hget
        cases hget with
        | some hv =>
          have hv : amountForm.read _ = .ok _ := hv
          cases read_ok hv with
          | array _ => exact ⟨_, rfl⟩
          | plain _ hi => exact nomatch hi
    | _ => exact .inl rfl

/-- Members that meet the form of a notice make a well-formed one. -/
theorem noticeOf_ok {sent read : Members} (h : noticeForm.readMembers sent = .ok read)
    (hm : noticeForm.Meets read) (live : Bool) :
    ∃ n, noticeOf live read = .ok n ∧ n.WellFormed sent := by
  obtain ⟨hcode, hpsp, hearlier, hmerchant, -, hamount, hsuccess, hdata, hdate, haccount,
    hoperations, hmethod, hreason, -⟩ := hm
  obtain ⟨code, hcode, hne⟩ := hcode.code rfl (by simp) (by simp)
  obtain ⟨ref, hpsp, href⟩ := hpsp.code rfl (by simp) (by simp)
  obtain ⟨operations, hops, htexts⟩ := hoperations.operations (by simp) (by simp)
  have hsentCode := sent_text h "eventCode" (by decide) rfl rfl hcode
  have hsentRef := sent_text h "pspReference" (by decide) rfl rfl hpsp
  refine ⟨_, Notice.create_eq (congrArg Notice.codeOf hcode) hops, ?_⟩
  exact {
    eventCode := ⟨code, hsentCode, rfl, Text.canonical_eq_empty_iff code⟩
    pspReference := ⟨ref, hsentRef, href, hpsp⟩
    amount := amountOf_cases h hamount
    success := hsuccess.flag (by simp)
    operations := htexts
    additionalData := hdata.data (by simp)
    earlierReference := hearlier.says (by simp)
    merchantReference := hmerchant.says (by simp)
    eventDate := hdate.says (by simp)
    merchantAccountCode := haccount.says (by simp)
    paymentMethod := hmethod.says (by simp)
    reason := hreason.says (by simp)
    live := ⟨live, rfl⟩ }

end Batch

end NoticeLedger
