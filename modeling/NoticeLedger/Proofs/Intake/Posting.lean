import NoticeLedger.Proofs.Form.Carrying
import NoticeLedger.Proofs.Intake.Parse
import NoticeLedger.Proofs.Store.Typed

/-!
# NoticeLedger.Proofs.Intake.Posting

Samples that are posted as a batch come back as the notices that they are.

* `Sample.Options.Proper` — options of the types that a sample is written for.
* `Notice.Draft.Sendable` — properties that an item can carry; `Sample.itemOf_eq`, `Sendable.reads`,
  `Sendable.meets`, `Sendable.notice` follow such an item from writing it to its notice.
* `parse_posted` — every batch of proper samples, with as many items as the batch may have.

What is left out, what is `null` and what is the empty text are one on the way, and come back as
`null`; success goes as a word. The members of an amount come back in the order of its form.
-/

namespace NoticeLedger

open Form

/-! ## Proper samples -/

/-- The value that was given, unless it is blank. -/
def Given.said (g : Given) : Given :=
  g.filter Json.isTruthy

/-- Nothing, or an amount of a finite value in a currency, and no more than these two. -/
def Given.IsAmount (g : Given) : Prop :=
  g.isNothing = true ∨ ∃ m x c, g = some (.object m) ∧ x.isFinite = true ∧
    m.Perm [("value", .number x), ("currency", .text c)]

/-- Nothing, or texts under names that members are read under. -/
def Given.IsData (g : Given) : Prop :=
  g.isNothing = true ∨ ∃ m, g = some (.object m) ∧ Json.TextMembers m ∧
    ∀ e ∈ m, e.1 ∉ reservedNames

/-- Nothing, or a list of texts. -/
def Given.IsTexts (g : Given) : Prop :=
  g.isNothing = true ∨ ∃ items, g = some (.array items) ∧ ∀ item ∈ items, ∃ s, item = .text s

/-- Nothing, or a truth value. -/
def Given.IsFlag (g : Given) : Prop :=
  g.isNothing = true ∨ ∃ b, g = some (.bool b)

/-- Options of the types that a sample is written for, with a reference of its own. -/
structure Sample.Options.Proper (o : Options) : Prop where
  pspReference : ∃ ref, ref ≠ "" ∧ o.pspReference = .text ref
  earlierReference : o.earlierReference.orNull.IsWord
  merchantReference : o.merchantReference.orNull.IsWord
  amount : o.amount.IsAmount
  success : o.success.IsFlag
  additionalData : o.additionalData.IsData
  eventDate : o.eventDate.orNull.IsWord
  merchantAccountCode : o.merchantAccountCode.orNull.IsWord
  operations : o.operations.IsTexts
  paymentMethod : o.paymentMethod.orNull.IsWord
  reason : o.reason.orNull.IsWord

namespace Notice.Draft

/-- Properties that an item can carry. -/
structure Sendable (d : Draft) : Prop where
  eventCode : ∃ code, code ≠ "" ∧ d.eventCode = .text code
  pspReference : ∃ ref, ref ≠ "" ∧ d.pspReference = .text ref
  earlierReference : d.earlierReference.orNull.IsWord
  merchantReference : d.merchantReference.orNull.IsWord
  amount : d.amount.IsAmount
  success : d.success.IsFlag
  additionalData : d.additionalData.IsData
  eventDate : d.eventDate.orNull.IsWord
  merchantAccountCode : d.merchantAccountCode.orNull.IsWord
  operations : d.operations.IsTexts
  paymentMethod : d.paymentMethod.orNull.IsWord
  reason : d.reason.orNull.IsWord

/-- What an item has of properties, with a word for their success. -/
def entries (d : Draft) (success : Given) (operations : Option (List Json)) :
    List (String × Given) :=
  [ ("eventCode", d.eventCode),
    ("pspReference", d.pspReference),
    ("originalReference", d.earlierReference.said),
    ("merchantReference", d.merchantReference.said),
    ("amount", (membersOf d.amount).map Json.object),
    ("success", success),
    ("additionalData", (membersOf d.additionalData).map Json.object),
    ("eventDate", d.eventDate.said),
    ("merchantAccountCode", d.merchantAccountCode.said),
    ("operations", operations.map Json.array),
    ("paymentMethod", d.paymentMethod.said),
    ("reason", d.reason.said) ]

end Notice.Draft

/-! ## From a sample to its item -/

theorem Given.toList_said (name : String) (g : Given) :
    (g.said.map fun v => (name, v)).toList =
      if g.isTruthy then (g.map fun v => (name, v)).toList else [] := by
  cases g with
  | none => rfl
  | some v =>
    rw [said, isTruthy, Option.any_some, Option.filter_some]
    cases v.isTruthy <;> rfl

/-- The word that success is posted as. -/
def Given.spoken (g : Given) : Given :=
  if g.isNothing then none else .text g.display

theorem Sample.itemOf_eq {d : Notice.Draft} {operations : Option (List Json)}
    (h : Notice.itemsOf d.operations = .ok operations) :
    itemOf d = .ok (Members.ofGiven (d.entries d.success.spoken operations)) := by
  rw [itemOf, h]
  simp only [Notice.Draft.entries, Members.ofGiven_cons, Members.ofGiven_nil, Given.toList_said,
    List.append_assoc, List.append_nil]
  rfl

/-! ## From the item to what is read -/

/-- The value that was given, unless it is `null`. -/
def Given.present (g : Given) : Given :=
  g.filter fun v => v != .null

section Reading

variable {form : Form} {name : String} {g : Given}

theorem Given.said_cases (h : g.orNull.IsWord) :
    (g.said = none ∧ g.meaning = .null) ∨
      ∃ s, s ≠ "" ∧ g.said = some (.text s) ∧ g.meaning = .text s := by
  cases g with
  | none => exact .inl ⟨rfl, rfl⟩
  | some v =>
    rcases h with hv | ⟨s, hs⟩
    · cases (show v = .null from hv)
      exact .inl ⟨rfl, rfl⟩
    · cases (show v = .text s from hs)
      by_cases he : s = ""
      · subst he
        exact .inl ⟨rfl, rfl⟩
      · have hsaid : Given.said (some (.text s)) = some (.text s) :=
          Option.filter_eq_some_iff.mpr ⟨rfl, bne_iff_ne.mpr he⟩
        exact .inr ⟨s, he, hsaid, Given.meaning_text he⟩

theorem Given.reads_said (h : g.orNull.IsWord)
    (hr : ∀ s, form.readMember name (.text s) = .ok (.text s)) :
    Option.Rel (fun v v' => form.readMember name v = .ok v') g.said g.said := by
  rcases said_cases h with ⟨hs, -⟩ | ⟨s, -, hs, -⟩
  · rw [hs]
    exact .none
  · rw [hs]
    exact .some (hr s)

end Reading

theorem Given.membersOf_of_isNothing {g : Given} (h : g.isNothing = true) :
    Notice.membersOf g = none := by
  rcases isNothing_cases h with rfl | rfl
  · rfl
  · rfl

theorem Given.membersOf_object (m : Members) :
    Notice.membersOf (some (.object m)) = some m := rfl

theorem Given.present_of_isNothing {g : Given} (h : g.isNothing = true) : g.present = none := by
  rcases isNothing_cases h with rfl | rfl
  · rfl
  · rfl

theorem Given.itemsOf_of_isNothing {g : Given} (h : g.isNothing = true) :
    Notice.itemsOf g = .ok none := by
  rcases isNothing_cases h with rfl | rfl
  · rfl
  · rfl

namespace Batch

theorem readMember_amount {m : Members} {x : Number} {c : String}
    (hm : m.Perm [("value", .number x), ("currency", .text c)]) :
    noticeForm.readMember "amount" (.object m) = .ok (.object m) := by
  have hread : amountForm.readMembers m = .ok m := by
    rcases List.perm_pair.mp hm with rfl | rfl
    · rfl
    · rfl
  have hform : noticeForm.readMember "amount" (.object m) = amountForm.read (.object m) := rfl
  rw [hform, Form.read, hread]
  rfl

theorem readMember_spoken {g : Given} (h : g.IsFlag) :
    Option.Rel (fun v v' => noticeForm.readMember "success" v = .ok v') g.spoken g.present := by
  rcases h with hn | ⟨b, rfl⟩
  · rcases Given.isNothing_cases hn with rfl | rfl
    · exact .none
    · exact .none
  · cases b with
    | false => exact .some rfl
    | true => exact .some rfl

end Batch

namespace Notice.Draft.Sendable

variable {d : Notice.Draft} {operations : Option (List Json)}

theorem itemsOf_ok (h : d.Sendable) :
    ∃ operations, Notice.itemsOf d.operations = .ok operations ∧
      ∀ items, operations = some items → ∀ item ∈ items, ∃ s, item = .text s := by
  rcases h.operations with hn | ⟨items, hi, ht⟩
  · exact ⟨none, Given.itemsOf_of_isNothing hn, nofun⟩
  · refine ⟨some items, hi ▸ rfl, ?_⟩
    rintro _ ⟨⟩
    exact ht

/-- The item is read as it was written, but for the success, which is a truth value again. -/
theorem reads (h : d.Sendable)
    (ht : ∀ items, operations = some items → ∀ item ∈ items, ∃ s, item = .text s) :
    Batch.noticeForm.readMembers (Members.ofGiven (d.entries d.success.spoken operations)) =
      .ok (Members.ofGiven (d.entries d.success.present operations)) := by
  have hword {name : String} (hn : name ∈ ["originalReference", "merchantReference", "eventDate",
      "merchantAccountCode", "paymentMethod", "reason"]) (s : String) :
      Batch.noticeForm.readMember name (.text s) = .ok (.text s) := by
    fin_cases hn <;> rfl
  obtain ⟨code, -, hcode⟩ := h.eventCode
  obtain ⟨ref, -, href⟩ := h.pspReference
  have hamount : Option.Rel (fun v v' => Batch.noticeForm.readMember "amount" v = .ok v')
      ((membersOf d.amount).map Json.object) ((membersOf d.amount).map Json.object) := by
    rcases h.amount with hn | ⟨m, x, c, ha, -, hm⟩
    · rw [Given.membersOf_of_isNothing hn]
      exact .none
    · rw [ha]
      exact .some (Batch.readMember_amount hm)
  have hdata : Option.Rel (fun v v' => Batch.noticeForm.readMember "additionalData" v = .ok v')
      ((membersOf d.additionalData).map Json.object)
      ((membersOf d.additionalData).map Json.object) := by
    rcases h.additionalData with hn | ⟨m, hd, htexts, hnames⟩
    · rw [Given.membersOf_of_isNothing hn]
      exact .none
    · rw [hd]
      exact .some (looseValue_texts htexts hnames)
  have hoperations : Option.Rel (fun v v' => Batch.noticeForm.readMember "operations" v = .ok v')
      (operations.map Json.array) (operations.map Json.array) := by
    cases operations with
    | none => exact .none
    | some items =>
      have hloose : looseValue (.array items) = .ok (.array items) := by
        rw [looseValue, looseItems_texts (ht items rfl)]
        rfl
      exact .some hloose
  -- entry by entry, in the order of an item
  refine readMembers_ofGiven ?_
  rw [entries, entries, hcode, href]
  exact
    .cons (.entry (by decide) (.some rfl)) <|
    .cons (.entry (by decide) (.some rfl)) <|
    .cons (.entry (by decide) (Given.reads_said h.earlierReference (hword (by simp)))) <|
    .cons (.entry (by decide) (Given.reads_said h.merchantReference (hword (by simp)))) <|
    .cons (.entry (by decide) hamount) <|
    .cons (.entry (by decide) (Batch.readMember_spoken h.success)) <|
    .cons (.entry (by decide) hdata) <|
    .cons (.entry (by decide) (Given.reads_said h.eventDate (hword (by simp)))) <|
    .cons (.entry (by decide) (Given.reads_said h.merchantAccountCode (hword (by simp)))) <|
    .cons (.entry (by decide) hoperations) <|
    .cons (.entry (by decide) (Given.reads_said h.paymentMethod (hword (by simp)))) <|
    .cons (.entry (by decide) (Given.reads_said h.reason (hword (by simp)))) .nil

end Notice.Draft.Sendable

/-! ## From what is read to the notice -/

theorem Batch.texts_of_textMembers {m : Members} (h : Json.TextMembers m) : texts m = m := by
  induction m with
  | nil => rfl
  | cons e rest ih =>
    obtain ⟨name, v⟩ := e
    obtain ⟨⟨s, hs⟩, hrest⟩ := List.forall_mem_cons.mp h
    simp only at hs
    subst hs
    exact congrArg ((name, .text s) :: ·) (ih hrest)

/-- Members that have what an item has of properties, after it was read. -/
structure Notice.Draft.CarriedBy (d : Notice.Draft) (operations : Option (List Json))
    (read : Members) : Prop where
  eventCode : read.get? "eventCode" = d.eventCode
  pspReference : read.get? "pspReference" = d.pspReference
  earlierReference : read.get? "originalReference" = d.earlierReference.said
  merchantReference : read.get? "merchantReference" = d.merchantReference.said
  amount : read.get? "amount" = (membersOf d.amount).map Json.object
  success : read.get? "success" = d.success.present
  additionalData : read.get? "additionalData" = (membersOf d.additionalData).map Json.object
  eventDate : read.get? "eventDate" = d.eventDate.said
  merchantAccountCode : read.get? "merchantAccountCode" = d.merchantAccountCode.said
  operations : read.get? "operations" = operations.map Json.array
  paymentMethod : read.get? "paymentMethod" = d.paymentMethod.said
  reason : read.get? "reason" = d.reason.said

theorem Notice.Draft.carriedBy_entries (d : Notice.Draft) (operations : Option (List Json)) :
    d.CarriedBy operations (Members.ofGiven (d.entries d.success.present operations)) := by
  have hget (name : String) :
      (Members.ofGiven (d.entries d.success.present operations)).get? name =
        ((d.entries d.success.present operations).lookup name).join := by
    refine Members.get?_ofGiven ?_ name
    have hnames : (d.entries d.success.present operations).map Prod.fst =
      ["eventCode", "pspReference", "originalReference", "merchantReference", "amount", "success",
        "additionalData", "eventDate", "merchantAccountCode", "operations", "paymentMethod",
        "reason"] := rfl
    rw [hnames]
    decide
  exact ⟨hget _, hget _, hget _, hget _, hget _, hget _, hget _, hget _, hget _, hget _, hget _,
    hget _⟩

section Met

variable {f : Field} {g : Given}

theorem Field.met_of_isNothing (hf : f.optional = true) (h : g.isNothing = true) : f.Met g :=
  .inl (Field.isSkipped_iff.mpr ⟨hf, h⟩)

theorem Field.met_of_asks {v : Json} (h : ∀ r ∈ f.requirements, r.Asks v) : f.Met (some v) :=
  .inr fun r hr => Requirement.holds_iff.mpr ⟨v, rfl, h r hr⟩

theorem Field.met_code {s : String} (hs : s ≠ "") (hr : f.requirements = [.notEmpty, .text]) :
    f.Met (.text s) := by
  refine met_of_asks fun r hmem => ?_
  rw [hr] at hmem
  rcases List.mem_pair.mp hmem with rfl | rfl
  · exact ⟨nofun, fun h => hs (Json.text.inj h)⟩
  · exact ⟨s, rfl⟩

theorem Field.met_said (h : g.orNull.IsWord) (hf : f.optional = true)
    (hr : f.requirements = [.text]) : f.Met g.said := by
  rcases Given.said_cases h with ⟨hs, -⟩ | ⟨s, -, hs, -⟩
  · rw [hs]
    exact met_of_isNothing hf rfl
  · rw [hs]
    refine met_of_asks fun r hmem => ?_
    rw [hr] at hmem
    cases List.mem_singleton.mp hmem
    exact ⟨s, rfl⟩

end Met

theorem Given.IsAmount.within {g : Given} (h : g.IsAmount) {v : Json}
    (hv : (Notice.membersOf g).map Json.object = some v) : Within Batch.amountForm.Meets v := by
  rcases h with hn | ⟨m, x, c, rfl, hx, hm⟩
  · rw [membersOf_of_isNothing hn] at hv
    exact nomatch hv
  · rw [membersOf_object, Option.map_some] at hv
    cases hv
    have hvalue : Members.get? m "value" = some (.number x) ∧
        Members.get? m "currency" = some (.text c) := by
      rcases List.perm_pair.mp hm with rfl | rfl
      · exact ⟨rfl, rfl⟩
      · exact ⟨rfl, rfl⟩
    refine within_object.mpr ⟨?_, ?_, trivial⟩
    · rw [hvalue.1]
      exact Field.met_of_asks (by simpa [Requirement.Asks] using hx)
    · rw [hvalue.2]
      exact Field.met_of_asks (by simp [Requirement.Asks])

namespace Notice.Draft.Sendable

variable {d : Notice.Draft} {operations : Option (List Json)} {read : Members}

theorem meets (h : d.Sendable) (hr : d.CarriedBy operations read)
    (ht : ∀ items, operations = some items → ∀ item ∈ items, ∃ s, item = .text s) :
    Batch.noticeForm.Meets read := by
  obtain ⟨code, hcode, hc⟩ := h.eventCode
  obtain ⟨ref, href, hp⟩ := h.pspReference
  refine ⟨?_, ?_, ?_, ?_, .inr nofun, fun _ v hv => ?_, ?_, ?_, ?_, ?_, ?_, ?_, ?_, trivial⟩
  · rw [hr.eventCode, hc]
    exact Field.met_code hcode rfl
  · rw [hr.pspReference, hp]
    exact Field.met_code href rfl
  · rw [hr.earlierReference]
    exact Field.met_said h.earlierReference rfl rfl
  · rw [hr.merchantReference]
    exact Field.met_said h.merchantReference rfl rfl
  · exact h.amount.within (hr.amount.symm.trans hv)
  · rw [hr.success]
    rcases h.success with hn | ⟨b, hb⟩
    · rw [Given.present_of_isNothing hn]
      exact Field.met_of_isNothing rfl rfl
    · rw [hb]
      exact Field.met_of_asks (by simp [Requirement.Asks])
  · rw [hr.additionalData]
    rcases h.additionalData with hn | ⟨m, hm, -⟩
    · rw [Given.membersOf_of_isNothing hn]
      exact Field.met_of_isNothing rfl rfl
    · rw [hm]
      exact Field.met_of_asks (by simp [Requirement.Asks])
  · rw [hr.eventDate]
    exact Field.met_said h.eventDate rfl rfl
  · rw [hr.merchantAccountCode]
    exact Field.met_said h.merchantAccountCode rfl rfl
  · rw [hr.operations]
    cases operations with
    | none => exact Field.met_of_isNothing rfl rfl
    | some items => exact Field.met_of_asks (by simpa [Requirement.Asks] using ht items rfl)
  · rw [hr.paymentMethod]
    exact Field.met_said h.paymentMethod rfl rfl
  · rw [hr.reason]
    exact Field.met_said h.reason rfl rfl

end Notice.Draft.Sendable

/-! ## The same notice -/

namespace Given

variable {g : Given}

theorem meaning_said (h : g.orNull.IsWord) : g.said.meaning = g.meaning := by
  rcases said_cases h with ⟨hs, hm⟩ | ⟨s, hne, hs, hm⟩
  · rw [hs, hm]
    rfl
  · rw [hs, hm, meaning_text hne]

theorem orNull_present (g : Given) : g.present.orNull = g.orNull := by
  cases g with
  | none => rfl
  | some v => cases v <;> rfl

theorem itemsOf_array (operations : Option (List Json)) :
    Notice.itemsOf (operations.map Json.array) = .ok operations := by
  cases operations with
  | none => rfl
  | some items => rfl

theorem IsData.membersOf_dataOf (h : g.IsData) :
    Notice.membersOf (Batch.dataOf ((Notice.membersOf g).map Json.object)) =
      Notice.membersOf g := by
  rcases h with hn | ⟨m, rfl, hm, -⟩
  · rw [membersOf_of_isNothing hn]
    rfl
  · have hdata : Batch.dataOf (some (.object m)) = some (.object (Batch.texts m)) := rfl
    rw [membersOf_object, Option.map_some, hdata, Batch.texts_of_textMembers hm,
      membersOf_object]

/-- An amount comes back with its value before its currency. -/
theorem IsAmount.membersOf_amountOf (h : g.IsAmount) :
    Option.Rel List.Perm
      (Notice.membersOf (Batch.amountOf ((Notice.membersOf g).map Json.object)))
      (Notice.membersOf g) := by
  rcases h with hn | ⟨m, x, c, rfl, -, hm⟩
  · rw [membersOf_of_isNothing hn]
    exact .none
  · have hback : Notice.membersOf (Batch.amountOf (some (.object m))) =
        some [("value", .number x), ("currency", .text c)] := by
      rcases List.perm_pair.mp hm with rfl | rfl
      · rfl
      · rfl
    rw [membersOf_object, Option.map_some, hback]
    exact .some hm.symm

end Given

/-- What is read makes the notice of the properties. -/
theorem Notice.Draft.Sendable.notice {d : Draft} {operations : Option (List Json)}
    {read : Members} (h : d.Sendable) (hr : d.CarriedBy operations read)
    (ho : itemsOf d.operations = .ok operations) (live : Bool) :
    ∃ n built, Batch.noticeOf live read = .ok n ∧
      create { d with live := some (.bool live) } = .ok built ∧ n.SameAs built := by
  obtain ⟨code, -, hc⟩ := h.eventCode
  have hcode : read.get? "eventCode" = some (.text code) := hr.eventCode.trans hc
  have hops : itemsOf (read.get? "operations") = .ok operations := by
    rw [hr.operations, Given.itemsOf_array]
  refine ⟨_, _, Notice.create_eq (congrArg Notice.codeOf hcode) hops,
    Notice.create_eq (congrArg Notice.codeOf hc) ho, ?_, ?_⟩
  · simp only [hr.amount]
    exact h.amount.membersOf_amountOf
  · simp only [made, Draft.ofMembers, hr.pspReference, hr.earlierReference, hr.merchantReference,
      hr.success, hr.additionalData, hr.eventDate, hr.merchantAccountCode, hr.paymentMethod,
      hr.reason, Given.meaning_said h.earlierReference, Given.meaning_said h.merchantReference,
      Given.meaning_said h.eventDate, Given.meaning_said h.merchantAccountCode,
      Given.meaning_said h.paymentMethod, Given.meaning_said h.reason, Given.orNull_present,
      h.additionalData.membersOf_dataOf]

/-! ## The batch -/

namespace Batch

/-- What was sent is read, met by the form of a notice, and makes the notice. -/
def Carries (live : Bool) (sent : Members) (n : Notice) : Prop :=
  ∃ read, noticeForm.readMembers sent = .ok read ∧ noticeForm.Meets read ∧
    noticeOf live read = .ok n

/-- The item that wraps a notice. -/
def wrap (m : Members) : Json :=
  .object [("NotificationRequestItem", .object m)]

theorem read_wrap {sent read : Members} (h : noticeForm.readMembers sent = .ok read) :
    itemForm.read (wrap sent) = .ok (wrap read) := by
  rw [wrap, Form.read, readMembers_cons, if_neg (by decide), readMember_item, Form.read, h]
  rfl

theorem meets_wrap {read : Members} (h : noticeForm.Meets read) :
    Within itemForm.Meets (wrap read) := by
  refine within_object.mpr ⟨.inr nofun, ?_, trivial⟩
  rintro - _ ⟨⟩
  exact within_object.mpr h

/-- Items that carry notices are read, met by their form, and make the notices. -/
theorem items_carried {live : Bool} {items : List Members} {notices : List Notice}
    (h : List.Forall₂ (Carries live) items notices) :
    ∃ items', itemForm.readItems (items.map wrap) = .ok items' ∧
      (∀ item ∈ items', Within itemForm.Meets item) ∧ items'.length = items.length ∧
      items'.mapM (noticeOfItem live) = .ok notices := by
  induction h with
  | nil => exact ⟨[], rfl, nofun, rfl, rfl⟩
  | @cons item n items notices hitem _ ih =>
    obtain ⟨read, hread, hmeets, hnotice⟩ := hitem
    obtain ⟨items', hitems, hwithin, hlength, hnotices⟩ := ih
    have hfirst : noticeOfItem live (wrap read) = .ok n := (noticeOfItem_of_some rfl).trans hnotice
    refine ⟨wrap read :: items', ?_, List.forall_mem_cons.mpr ⟨meets_wrap hmeets, hwithin⟩,
      congrArg (· + 1) hlength, ?_⟩
    · rw [List.map_cons, readItems, read_wrap hread, hitems]
      rfl
    · rw [List.mapM_cons, hfirst, hnotices]
      rfl

theorem parse_carried {max : Option Number} {live : Bool} {items : List Members}
    {notices : List Notice} (h : List.Forall₂ (Carries live) items notices)
    (hmax : Admits max items.length) :
    parse max (some (.object (Sample.batch items (some (.bool live))))) = .ok notices := by
  obtain ⟨items', hitems, hwithin, hlength, hnotices⟩ := items_carried h
  have hlive : form.readMember "live" (.text (Given.display (some (.bool live)))) =
      .ok (.bool live) := by
    cases live with
    | false => rfl
    | true => rfl
  have hread : form.readMembers (Sample.batch items (some (.bool live))) =
      .ok [("live", .bool live), ("notificationItems", .array items')] := by
    have hbatch : Sample.batch items (some (.bool live)) =
      [("live", .text (Given.display (some (.bool live)))),
        ("notificationItems", .array (items.map wrap))] := rfl
    rw [hbatch, readMembers_cons, if_neg (by decide), hlive, readMembers_cons,
      if_neg (by decide), readMember_items, Form.read, hitems]
    rfl
  have hmeets : form.Meets [("live", .bool live), ("notificationItems", .array items')] := by
    refine ⟨Field.met_of_asks (by simp [Requirement.Asks]),
      Field.met_of_asks (by simp [Requirement.Asks]), ?_, trivial⟩
    rintro - _ ⟨⟩
    exact within_array.mpr hwithin
  rw [parse_eq max hread, if_pos ((violations_eq_nil_iff form _).mpr hmeets), ← hnotices]
  rw [← hlength] at hmax
  unfold noticesOf
  cases max with
  | none => rfl
  | some limit => exact if_neg (hmax limit rfl)

end Batch

/-! ## Batches of proper samples -/

section Filling

variable {g : Given}

/-- What holds of a value and of what stands for one that was left out. -/
theorem Given.filled (P : Given → Prop) {other : Given} (hg : P g) (ho : P other) :
    P (g <|> other) := by
  cases g with
  | none => exact ho
  | some v => exact hg

theorem Given.isNothing_some_orNull (g : Given) :
    Given.isNothing (some g.orNull) = g.isNothing := by
  cases g with
  | none => rfl
  | some v => rfl

theorem Given.orElse_isWord (h : g.orNull.IsWord) (s : String) :
    (g.orElse (.text s)).IsWord := by
  by_cases hn : g.isNothing = true
  · rcases isNothing_cases hn with rfl | rfl
    · exact .inr ⟨s, rfl⟩
    · exact .inr ⟨s, rfl⟩
  · have hg : g.orElse (.text s) = g.orNull := by
      unfold orElse orNull
      split <;> simp_all [isNothing]
    rw [hg]
    exact h

theorem Given.IsData.some_orNull (h : g.IsData) : Given.IsData (some g.orNull) := by
  rcases h with hn | ⟨m, rfl, hm⟩
  · exact .inl ((isNothing_some_orNull g).trans hn)
  · exact .inr ⟨m, rfl, hm⟩

theorem Given.IsTexts.some_orNull (h : g.IsTexts) : Given.IsTexts (some g.orNull) := by
  rcases h with hn | ⟨items, rfl, ht⟩
  · exact .inl ((isNothing_some_orNull g).trans hn)
  · exact .inr ⟨items, rfl, ht⟩

end Filling

namespace Sample

variable {o : Options} {code : String}

/-- A sample of proper options can be sent, and its reference is its own. -/
theorem Options.Proper.sendable (h : o.Proper) (hcode : code ≠ "") (given : Nat) :
    (properties (.text code) o given).1.Sendable ∧
      (properties (.text code) o given).2 = given := by
  obtain ⟨ref, hne, href⟩ := h.pspReference
  have hnumbered : o.pspReference.isNothing = false := by
    rw [href]
    rfl
  have hpsp : (properties (.text code) o given).1.pspReference = .text ref := by
    simp only [properties, hnumbered, Bool.false_eq_true, if_false]
    exact href
  refine ⟨?_, ?_⟩
  · exact {
      eventCode := ⟨code, hcode, rfl⟩
      pspReference := ⟨ref, hne, hpsp⟩
      earlierReference := h.earlierReference
      merchantReference :=
        Given.filled (fun g => g.orNull.IsWord) h.merchantReference (.inr ⟨_, rfl⟩)
      amount :=
        Given.filled Given.IsAmount h.amount (.inr ⟨_, 1000, "EUR", rfl, rfl, .refl _⟩)
      success := Given.filled Given.IsFlag h.success (.inr ⟨true, rfl⟩)
      additionalData := h.additionalData.some_orNull
      eventDate := Given.orElse_isWord h.eventDate _
      merchantAccountCode := Given.orElse_isWord h.merchantAccountCode _
      operations := h.operations.some_orNull
      paymentMethod := Given.orElse_isWord h.paymentMethod _
      reason := h.reason }
  · simp only [properties, hnumbered, Bool.false_eq_true, if_false]

/-- The item of a proper sample carries the notice that the sample is. -/
theorem Options.Proper.item_carries (h : o.Proper) (hcode : code ≠ "") (live : Bool)
    (given : Nat) :
    ∃ sent n built, item (.text code) o given = .ok (sent, given) ∧
      Batch.Carries live sent n ∧
      notice (.text code) { o with live := some (.bool live) } given = .ok (built, given) ∧
      n.SameAs built := by
  obtain ⟨hsend, hgiven⟩ := h.sendable hcode given
  have hlive : properties (.text code) { o with live := some (.bool live) } given =
    ({ (properties (.text code) o given).1 with live := some (.bool live) },
      (properties (.text code) o given).2) := rfl
  have hnotice : notice (.text code) { o with live := some (.bool live) } given =
      (Notice.create
        { (properties (.text code) o given).1 with live := some (.bool live) }).bind fun built =>
          .ok (built, (properties (.text code) o given).2) := by
    rw [notice, hlive]
    rfl
  have hitem : item (.text code) o given =
    (itemOf (properties (.text code) o given).1).bind fun sent =>
      .ok (sent, (properties (.text code) o given).2) := rfl
  rw [hgiven] at hnotice hitem
  generalize (properties (.text code) o given).1 = d at hsend hnotice hitem
  obtain ⟨operations, ho, htexts⟩ := hsend.itemsOf_ok
  have hcarried := d.carriedBy_entries operations
  obtain ⟨n, built, hn, hbuilt, hsame⟩ := hsend.notice hcarried ho live
  rw [itemOf_eq ho] at hitem
  rw [hbuilt] at hnotice
  exact ⟨_, n, built, hitem, ⟨_, hsend.reads htexts, hsend.meets hcarried htexts, hn⟩, hnotice,
    hsame⟩

theorem items_carry {samples : List (String × Options)}
    (h : ∀ e ∈ samples, e.1 ≠ "" ∧ e.2.Proper) (live : Bool) (given : Nat) :
    ∃ sent notices, items (samples.map fun e => (.text e.1, e.2)) given = .ok (sent, given) ∧
      sent.length = samples.length ∧ List.Forall₂ (Batch.Carries live) sent notices ∧
      List.Forall₂ (fun e n => ∃ built,
        notice (.text e.1) { e.2 with live := some (.bool live) } given = .ok (built, given) ∧
          n.SameAs built) samples notices := by
  induction samples with
  | nil => exact ⟨[], [], rfl, rfl, .nil, .nil⟩
  | cons e rest ih =>
    obtain ⟨⟨hcode, hproper⟩, hrest⟩ := List.forall_mem_cons.mp h
    obtain ⟨first, n, built, hitem, hfirst, hnotice, hsame⟩ :=
      hproper.item_carries hcode live given
    obtain ⟨sent, notices, hitems, hlength, hothers, hsames⟩ := ih hrest
    refine ⟨first :: sent, n :: notices, ?_, congrArg (· + 1) hlength, .cons hfirst hothers,
      .cons ⟨built, hnotice, hsame⟩ hsames⟩
    rw [List.map_cons, items, hitem]
    simp only [bind, Except.bind, hitems, pure, Except.pure]

end Sample

namespace Batch

/-- A batch of proper samples, not more than may come, is parsed to the notices that the samples
are, field by field and in order. -/
theorem parse_posted (max : Option Number) (samples : List (String × Sample.Options)) (live : Bool)
    (given : Nat) (hproper : ∀ e ∈ samples, e.1 ≠ "" ∧ e.2.Proper)
    (hmax : Admits max samples.length) :
    ∃ items notices,
      Sample.items (samples.map fun e => (.text e.1, e.2)) given = .ok (items, given) ∧
      parse max (some (.object (Sample.batch items (some (.bool live))))) = .ok notices ∧
      List.Forall₂ (fun e n => ∃ built,
        Sample.notice (.text e.1) { e.2 with live := some (.bool live) } given =
            .ok (built, given) ∧
          n.SameAs built) samples notices := by
  obtain ⟨items, notices, hitems, hlength, hcarry, hsame⟩ :=
    Sample.items_carry hproper live given
  exact ⟨items, notices, hitems, parse_carried hcarry (hlength.symm ▸ hmax), hsame⟩

/-- A payment with an amount and data of its own, and a refund of which it is not said whether it
went well. -/
def postedPair : List (String × Sample.Options) :=
  [("AUTHORISATION",
      { pspReference := .text "psp-1", success := some (.bool false)
        amount := some (.object [("currency", .text "JPY"), ("value", .number 500)])
        additionalData := some (.object [("issuer", .text "7"), ("note", .text "")])
        operations := some (.array [.text "CAPTURE", .text "REFUND"]) }),
    ("refund",
      { pspReference := .text "psp-2", earlierReference := .text "psp-1", amount := .null
        merchantReference := .text "", success := .null, reason := .null })]

theorem postedPair_proper : ∀ e ∈ postedPair, e.1 ≠ "" ∧ e.2.Proper := by
  refine List.forall_mem_cons.mpr ⟨⟨by decide, ?_⟩, List.forall_mem_singleton.mpr ⟨by decide, ?_⟩⟩
  · exact {
      pspReference := ⟨_, by decide, rfl⟩
      earlierReference := .inl rfl
      merchantReference := .inl rfl
      amount := .inr ⟨_, 500, "JPY", rfl, rfl, .swap _ _ _⟩
      success := .inr ⟨false, rfl⟩
      additionalData := .inr ⟨_, rfl, by simp [Json.TextMembers], by decide⟩
      eventDate := .inl rfl
      merchantAccountCode := .inl rfl
      operations := .inr ⟨_, rfl, by simp⟩
      paymentMethod := .inl rfl
      reason := .inl rfl }
  · exact {
      pspReference := ⟨_, by decide, rfl⟩
      earlierReference := .inr ⟨_, rfl⟩
      merchantReference := .inr ⟨_, rfl⟩
      amount := .inl rfl
      success := .inl rfl
      additionalData := .inl rfl
      eventDate := .inl rfl
      merchantAccountCode := .inl rfl
      operations := .inl rfl
      paymentMethod := .inl rfl
      reason := .inl rfl }

theorem parse_posted_pair :
    (∀ e ∈ postedPair, e.1 ≠ "" ∧ e.2.Proper) ∧ Admits (some 2) postedPair.length ∧
      ∃ items notices,
        Sample.items (postedPair.map fun e => (.text e.1, e.2)) 0 = .ok (items, 0) ∧
        parse (some 2) (some (.object (Sample.batch items (some (.bool true))))) = .ok notices ∧
        List.Forall₂ (fun e n => ∃ built,
          Sample.notice (.text e.1) { e.2 with live := some (.bool true) } 0 = .ok (built, 0) ∧
            n.SameAs built) postedPair notices := by
  have hmax : Admits (some 2) postedPair.length := by
    rintro _ ⟨⟩
    decide
  exact ⟨postedPair_proper, hmax, parse_posted (some 2) postedPair true 0 postedPair_proper hmax⟩

end Batch

end NoticeLedger
