import NoticeLedger.Proofs.Json.Printing
import NoticeLedger.Store.Relational

/-!
# NoticeLedger.Proofs.Store.Typed

Records of the types that the reconciler is written for.

* `Given.IsText`, `Json.IsWord`, `Given.IsWord` — a text; a text, or `null`.
* `Notice.Typed`, `StoredResponse.Draft.Typed`, `HostedRequest.Draft.Typed`, `JournalEntry.Typed`,
  `JournalFilter.Typed` — the arguments of the store; `JournalEntry.PartsTyped` — those at any time.
* `Column.text_word`, `Column.bind_scalars` — columns keep words as they are, and take them.
* `JournalEntry.kept` — an entry as a row gives it back (`JournalRow.toEntry_ofEntry`), the same if
  its amount is whole (`JournalEntry.kept_same`).
-/

namespace NoticeLedger

def Given.IsText (g : Given) : Prop :=
  ∃ s, g = .text s

/-- A text, or `null` in the place of one. -/
def Json.IsWord (v : Json) : Prop :=
  v = .null ∨ ∃ s, v = .text s

def Given.IsWord (g : Given) : Prop :=
  ∃ v, g = some v ∧ v.IsWord

theorem Given.IsText.isWord {g : Given} (h : g.IsText) : g.IsWord := by
  obtain ⟨s, rfl⟩ := h
  exact ⟨.text s, rfl, .inr ⟨s, rfl⟩⟩

theorem Given.IsWord.orNull {g : Given} (h : g.IsWord) : g.orNull.IsWord := by
  obtain ⟨v, rfl, hv⟩ := h
  exact hv

/-- An amount of a finite value in a currency. -/
def Notice.AmountTyped (m : Members) : Prop :=
  ∃ x c, m.get? "value" = some (.number x) ∧ x.isFinite = true ∧
    m.get? "currency" = some (.text c)

structure Notice.Typed (n : Notice) : Prop where
  pspReference : n.pspReference.IsText
  earlierReference : n.earlierReference.IsWord
  merchantReference : n.merchantReference.IsWord
  amount : ∀ m, n.amount = some m → AmountTyped m
  success : n.success = .null ∨ ∃ b, n.success = .bool b
  additionalData : ∀ m, n.additionalData = some m → Json.TextMembers m
  eventDate : n.eventDate.IsWord
  merchantAccountCode : n.merchantAccountCode.IsWord
  operations : ∀ items, n.operations = some items → ∀ item ∈ items, ∃ s, item = .text s
  paymentMethod : n.paymentMethod.IsWord
  reason : n.reason.IsWord
  live : ∃ b, n.live = .bool b

def Json.IsTextObject (v : Json) : Prop :=
  ∃ m, v = .object m ∧ TextMembers m

structure StoredResponse.Typed (r : StoredResponse) : Prop where
  pspReference : r.pspReference.IsText
  accountId : r.accountId.IsText
  tenantId : r.tenantId.IsText
  paymentId : r.paymentId.IsText
  transactionId : r.transactionId.IsWord
  transactionType : r.transactionType.IsWord
  additionalData : r.additionalData.IsTextObject

/-- The type of a transaction and the data may be left out. -/
structure StoredResponse.Draft.Typed (d : StoredResponse.Draft) : Prop where
  pspReference : d.pspReference.IsText
  accountId : d.accountId.IsText
  tenantId : d.tenantId.IsText
  paymentId : d.paymentId.IsText
  transactionId : d.transactionId.IsWord
  transactionType : d.transactionType.orNull.IsWord
  additionalData : d.additionalData = none ∨ ∃ v, d.additionalData = some v ∧ v.IsTextObject

structure HostedRequest.Typed (r : HostedRequest) : Prop where
  merchantReference : r.merchantReference.IsText
  accountId : r.accountId.IsText
  tenantId : r.tenantId.IsText
  paymentId : r.paymentId.IsWord
  transactionId : r.transactionId.IsWord
  additionalData : r.additionalData.IsTextObject

/-- A payment, a transaction and the data may be left out. -/
structure HostedRequest.Draft.Typed (d : HostedRequest.Draft) : Prop where
  merchantReference : d.merchantReference.IsText
  accountId : d.accountId.IsText
  tenantId : d.tenantId.IsText
  paymentId : d.paymentId.orNull.IsWord
  transactionId : d.transactionId.orNull.IsWord
  additionalData : d.additionalData = none ∨ ∃ v, d.additionalData = some v ∧ v.IsTextObject

structure LedgerIds.Typed (ids : LedgerIds) : Prop where
  accountId : ids.accountId.IsWord
  tenantId : ids.tenantId.IsWord
  paymentId : ids.paymentId.IsWord
  transactionId : ids.transactionId.IsWord

structure JournalEntry.Typed (e : JournalEntry) : Prop where
  ids : e.ids.Typed
  transactionType : e.transactionType.IsWord
  notice : e.notice.Typed
  recordedAt : e.recordedAt.inFourDigits = e.recordedAt

/-- An entry whose parts have their types, in any year. -/
structure JournalEntry.PartsTyped (e : JournalEntry) : Prop where
  ids : e.ids.Typed
  transactionType : e.transactionType.IsWord
  notice : e.notice.Typed

theorem JournalEntry.Typed.parts {e : JournalEntry} (h : e.Typed) : e.PartsTyped where
  ids := h.ids
  transactionType := h.transactionType
  notice := h.notice

def TimeBound.Typed (b : TimeBound) : Prop :=
  b = .unlimited ∨ ∃ t : Instant, b = .instant t ∧ t.inFourDigits = t

structure JournalFilter.Typed (f : JournalFilter) : Prop where
  pspReference : f.pspReference.orNull.IsWord
  accountId : f.accountId.orNull.IsWord
  eventCode : f.eventCode.orNull.IsWord
  fromDate : f.fromDate.Typed
  toDate : f.toDate.Typed

/-! ## Columns -/

namespace Column

theorem text_word {v : Json} (h : v.IsWord) : text v = v := by
  rcases h with rfl | ⟨s, rfl⟩
  · rfl
  · rfl

theorem set_word {old value : Given} (h : value.IsWord) : set old value = value := by
  obtain ⟨v, rfl, hv⟩ := h
  rw [set, text_word hv]

/-- A value that takes one place of a statement. -/
def IsScalar (v : Json) : Prop :=
  v.IsWord ∨ ∃ x, v = .number x

theorem fill_scalar {places : Nat} {f : Filled} {v : Json} (h : IsScalar v) :
    fill places f v = fillPlace places f := by
  rcases h with (rfl | ⟨s, rfl⟩) | ⟨x, rfl⟩
  · rfl
  · rfl
  · rfl

theorem foldlM_fill {places : Nat} {f : Filled} {values : List Json}
    (h : ∀ v ∈ values, IsScalar v) (hplaces : f.count + values.length ≤ places) :
    values.foldlM (fill places) f = .ok { f with count := f.count + values.length } := by
  induction values generalizing f with
  | nil => rfl
  | cons v values ih =>
    obtain ⟨hv, hvalues⟩ := List.forall_mem_cons.mp h
    rw [List.length_cons] at hplaces ⊢
    have hplace : fillPlace places f = .ok { f with count := f.count + 1 } :=
      if_pos (by omega)
    rw [List.foldlM_cons, fill_scalar hv, hplace]
    show values.foldlM (fill places) { f with count := f.count + 1 } = _
    rw [ih hvalues (by simp only; omega)]
    simp only [Nat.add_assoc, Nat.add_comm 1]

/-- Values that take one place each fill a statement. -/
theorem bind_scalars {values : List Given} (h : ∀ g ∈ values, IsScalar g.orNull) :
    bind values = .ok () := by
  have hscalar : ∀ v ∈ values.map Given.orNull, IsScalar v := by
    intro v hv
    obtain ⟨g, hg, rfl⟩ := List.mem_map.mp hv
    exact h g hg
  have hfill : (values.map Given.orNull).foldlM (fill values.length) {} =
      .ok { count := 0 + (values.map Given.orNull).length } :=
    foldlM_fill hscalar (by simp)
  rw [bind, hfill]
  exact if_neg (by simp)

end Column

/-! ## Entries as rows keep them -/

/-- An amount as a row gives it back: its value and its currency, and of the value what a column of
whole numbers keeps. -/
def Notice.keptAmount (m : Members) : Members :=
  [ ("value", Column.whole (Given.orNull (m.get? "value"))),
    ("currency", Given.orNull (m.get? "currency")) ]

/-- An entry as a row gives it back. -/
def JournalEntry.kept (e : JournalEntry) : JournalEntry :=
  { e with notice := { e.notice with amount := e.notice.amount.map Notice.keptAmount } }

/-- The value of the amount, if there is one, is whole and shorter than 64 bits. -/
def JournalEntry.IsWhole (e : JournalEntry) : Prop :=
  ∀ m x, e.notice.amount = some m → m.get? "value" = some (.number x) → Column.isShort x = true

/-- The same value in the same currency. -/
def Notice.SameAmount (m m' : Members) : Prop :=
  m'.get? "value" = m.get? "value" ∧ m'.get? "currency" = m.get? "currency"

/-- The same entry; the members of its amount may stand in another order. -/
structure JournalEntry.Same (e e' : JournalEntry) : Prop where
  but_amount : e' = { e with notice := { e.notice with amount := e'.notice.amount } }
  amount : Option.Rel Notice.SameAmount e.notice.amount e'.notice.amount

theorem Column.written_of_isShort {x : Number} (h : isShort x = true) : written x = x :=
  if_pos h

theorem Notice.sameAmount_keptAmount {m : Members} (h : AmountTyped m)
    (hwhole : ∀ x, m.get? "value" = some (.number x) → Column.isShort x = true) :
    SameAmount m (keptAmount m) := by
  obtain ⟨x, c, hvalue, -, hcurrency⟩ := h
  have hx : Column.whole (.number x) = .number x := by
    rw [Column.whole, Column.written_of_isShort (hwhole x hvalue)]
  rw [SameAmount, keptAmount, hvalue, hcurrency]
  exact ⟨congrArg some hx, rfl⟩

/-- A row keeps an entry with a whole amount. -/
theorem JournalEntry.kept_same {e : JournalEntry} (h : e.Typed) (hwhole : e.IsWhole) :
    e.Same e.kept where
  but_amount := rfl
  amount := by
    rw [kept]
    cases hm : e.notice.amount with
    | none => exact .none
    | some m =>
      exact .some (Notice.sameAmount_keptAmount (h.notice.amount m hm) fun x => hwhole m x hm)

theorem JournalRow.amountOf_typed {m : Members} (h : Notice.AmountTyped m) :
    amountOf (Column.whole (part (some m) "value")) (Column.text (part (some m) "currency")) =
      some (Notice.keptAmount m) := by
  obtain ⟨x, c, hvalue, -, hcurrency⟩ := h
  have hv : part (some m) "value" = .number x := by
    rw [part, Option.bind_some, hvalue]
    rfl
  have hc : part (some m) "currency" = .text c := by
    rw [part, Option.bind_some, hcurrency]
    rfl
  rw [Notice.keptAmount, hv, hc, hvalue, hcurrency]
  exact if_neg (by simp [Column.whole, Column.text])

theorem Column.flag_of_flag {v : Json} (h : v = .null ∨ ∃ b, v = .bool b) : flag v = v := by
  rcases h with rfl | ⟨b, rfl⟩
  · rfl
  · cases b <;> rfl

theorem Given.IsWord.column {g : Given} (h : g.IsWord) : some (Column.text g.orNull) = g := by
  obtain ⟨v, rfl, hv⟩ := h
  exact congrArg some (Column.text_word hv)

/-- A row gives back what was written; of a year, its last four digits. -/
theorem JournalRow.toEntry_ofEntry {e : JournalEntry} (h : e.PartsTyped) :
    (ofEntry e).toEntry = { e.kept with recordedAt := e.recordedAt.inFourDigits } := by
  obtain ⟨ids, transactionType, n, recordedAt⟩ := e
  obtain ⟨hids, htype, hn⟩ := h
  have hamount : amountOf (Column.whole (part n.amount "value"))
      (Column.text (part n.amount "currency")) = n.amount.map Notice.keptAmount := by
    cases hm : n.amount with
    | none => rfl
    | some m => exact amountOf_typed (hn.amount m hm)
  simp only [JournalRow.toEntry, JournalRow.ofEntry, JournalEntry.kept, hamount,
    hids.accountId.column, hids.tenantId.column, hids.paymentId.column, hids.transactionId.column,
    htype.column, hn.pspReference.isWord.column, Column.text_word hn.earlierReference,
    Column.text_word hn.merchantReference, Column.flag_of_flag hn.success,
    Column.text_word hn.eventDate, Column.text_word hn.merchantAccountCode,
    Column.text_word hn.paymentMethod, Column.text_word hn.reason,
    Column.flag_of_flag (.inr hn.live)]

theorem JournalEntry.Typed.toEntry_ofEntry {e : JournalEntry} (h : e.Typed) :
    (JournalRow.ofEntry e).toEntry = e.kept := by
  rw [JournalRow.toEntry_ofEntry h.parts, h.recordedAt]
  rfl

end NoticeLedger
