import NoticeLedger.Notice.Properties
import NoticeLedger.Proofs.Money.Rendering

/-!
# NoticeLedger.Proofs.Notice.Bag

What the bag of a purchase keeps of a notice.

* `PropertyKey.all` — the keys in their order.
* `Notice.Bag n properties` — keys in their order, none twice, and no value `null`.
* `Notice.fill` — the entries of the keys that have a value; `fill_inj` — which keys have none is
  known from the entries.
* `Notice.propertyValues_inj` — the values of the keys tell the money and all that a notice says,
  but for its own amount and where it comes from.
* `Notice.purchaseProperties_lossless` — every bag is in order, and two are the same only if they
  were made of the same money for notices that say the same.
-/

namespace NoticeLedger

namespace PropertyKey

def all : List PropertyKey :=
  [hosted, hostedStatus, merchantReference, pspReference, amount, currency, additionalData,
    eventCode, eventDate, merchantAccountCode, operations, earlierReference, paymentMethod, reason,
    success]

theorem nodup_names : (all.map name).Nodup := by
  decide

end PropertyKey

namespace Notice

/-! ## Keys with and without a value -/

/-- The entries of the keys that have a value. -/
def fill (values : List (PropertyKey × Option Given)) : List Property :=
  values.filterMap fun (key, value) => value.map fun value => ⟨key.name, value⟩

theorem fill_keys (values : List (PropertyKey × Option Given)) :
    ((fill values).map Property.key).Sublist ((values.map Prod.fst).map PropertyKey.name) := by
  induction values with
  | nil => exact .slnil
  | cons e values ih =>
    obtain ⟨key, value⟩ := e
    cases value with
    | none => exact ih.cons _
    | some value => exact ih.cons_cons _

theorem value_of_mem_fill {values : List (PropertyKey × Option Given)} {p : Property}
    (hp : p ∈ fill values) : ∃ key, (key, some p.value) ∈ values := by
  obtain ⟨⟨key, value⟩, hmem, hvalue⟩ := List.mem_filterMap.mp hp
  obtain ⟨value, rfl, rfl⟩ := Option.map_eq_some_iff.mp hvalue
  exact ⟨key, hmem⟩

/-- Where names stand once, the entries tell which keys have a value and which have none. -/
theorem fill_inj {values values' : List (PropertyKey × Option Given)}
    (hkeys : values.map Prod.fst = values'.map Prod.fst)
    (hnodup : ((values.map Prod.fst).map PropertyKey.name).Nodup) (h : fill values = fill values') :
    values = values' := by
  induction values generalizing values' with
  | nil => exact (List.map_eq_nil_iff.mp hkeys.symm).symm
  | cons e values ih =>
    cases values' with
    | nil => exact nomatch hkeys
    | cons e' values' =>
      obtain ⟨key, value⟩ := e
      obtain ⟨key', value'⟩ := e'
      obtain ⟨rfl, hrest⟩ := List.cons.inj hkeys
      obtain ⟨hnew, hnames⟩ := List.nodup_cons.mp hnodup
      have habsent {others : List (PropertyKey × Option Given)} {v : Given}
          (ho : others.map Prod.fst = values.map Prod.fst) : ⟨key.name, v⟩ ∉ fill others :=
        fun hmem => hnew (ho ▸ (fill_keys others).subset (List.mem_map_of_mem hmem))
      cases value with
      | none =>
        cases value' with
        | none => rw [ih hrest hnames h]
        | some v' =>
          have hmem : ⟨key.name, v'⟩ ∈ fill values := h ▸ List.mem_cons_self
          exact absurd hmem (habsent rfl)
      | some v =>
        cases value' with
        | none =>
          have hmem : ⟨key.name, v⟩ ∈ fill values' := h ▸ List.mem_cons_self
          exact absurd hmem (habsent hrest.symm)
        | some v' =>
          obtain ⟨hhead, htail⟩ := List.cons.inj h
          cases hhead
          rw [ih hrest hnames htail]

/-! ## Values of a notice -/

section Values

variable {α β : Type} [DecidableEq α] {f : α → β} {blank v v' : α}

/-- A part that is left out where it is blank is known from what is put in. -/
theorem unless_blank_inj (hf : f.Injective)
    (h : (if v = blank then none else some (f v)) = if v' = blank then none else some (f v')) :
    v = v' := by
  by_cases hv : v = blank
  · by_cases hv' : v' = blank
    · exact hv.trans hv'.symm
    · rw [if_pos hv, if_neg hv'] at h
      exact nomatch h
  · by_cases hv' : v' = blank
    · rw [if_neg hv, if_pos hv'] at h
      exact nomatch h
    · rw [if_neg hv, if_neg hv'] at h
      exact hf (Option.some.inj h)

theorem of_unless_blank {b : β} (h : (if v = blank then none else some (f v)) = some b) :
    v ≠ blank ∧ b = f v := by
  by_cases hv : v = blank
  · rw [if_pos hv] at h
    exact nomatch h
  · rw [if_neg hv] at h
    exact ⟨hv, (Option.some.inj h).symm⟩

end Values

variable {n n' : Notice} {m m' : Money} {hosted hosted' : Bool}

/-- The values of the keys tell the money and all that a notice says. -/
theorem propertyValues_inj
    (h : n.propertyValues m hosted = n'.propertyValues m' hosted') :
    hosted = hosted' ∧ m = m' ∧ n' = { n with amount := n'.amount, live := n'.live } := by
  simp only [propertyValues, List.cons.injEq, Prod.mk.injEq, true_and, and_true, Option.some.injEq,
    Json.bool.injEq, Given.text, Json.text.injEq] at h
  obtain ⟨hhosted, -, hmerchant, hpsp, hdecimal, hcode, hdata, hevent, hdate, haccount, hoperations,
    hearlier, hmethod, hreason, hsuccess⟩ := h
  have hsome : (some : Json → Given).Injective := Option.some_injective _
  have hobject : (fun m => some (Json.object m) : Members → Given).Injective :=
    fun _ _ h => Json.object.inj (Option.some.inj h)
  have harray : (fun xs => some (Json.array xs) : List Json → Given).Injective :=
    fun _ _ h => Json.array.inj (Option.some.inj h)
  refine ⟨hhosted, Money.decimal_inj (Currency.eq_of_code hcode) hdecimal, ?_⟩
  cases n'
  rw [Notice.mk.injEq]
  exact ⟨hevent.symm, (unless_blank_inj Function.injective_id hpsp).symm,
    (unless_blank_inj hsome hearlier).symm, (unless_blank_inj hsome hmerchant).symm, rfl,
    (unless_blank_inj hsome hsuccess).symm, (Option.map_injective hobject hdata).symm,
    (unless_blank_inj hsome hdate).symm, (unless_blank_inj hsome haccount).symm,
    (Option.map_injective harray hoperations).symm, (unless_blank_inj hsome hmethod).symm,
    (unless_blank_inj hsome hreason).symm, rfl⟩

/-- The value of a key is not `null`, and it is left out only with the gateway's reference. -/
theorem propertyValues_spoken {key : PropertyKey} {value : Given}
    (h : (key, some value) ∈ n.propertyValues m hosted) :
    value ≠ .null ∧ (value = none → n.pspReference = none) := by
  -- all keys but the one of the gateway's reference have a value that is there
  have hthere {v : Json} (he : value = some v) (hv : v ≠ .null) :
      value ≠ .null ∧ (value = none → n.pspReference = none) :=
    ⟨fun h => hv (Option.some.inj (he.symm.trans h)), fun h => nomatch he.symm.trans h⟩
  have hsaid {v : Json} (he : some value = if v = .null then none else some (some v)) :
      value ≠ .null ∧ (value = none → n.pspReference = none) :=
    hthere (of_unless_blank he.symm).2 (of_unless_blank he.symm).1
  cases key <;> simp only [propertyValues, List.mem_cons, Prod.mk.injEq, List.not_mem_nil,
    reduceCtorEq, false_and, true_and, or_false, false_or] at h
  case hosted | amount | currency | eventCode => exact hthere (Option.some.inj h) nofun
  case merchantReference | eventDate | merchantAccountCode | earlierReference | paymentMethod
    | reason | success => exact hsaid h
  case hostedStatus =>
    split at h
    · exact hthere (Option.some.inj h) nofun
    · exact nomatch h
  case additionalData | operations =>
    obtain ⟨_, -, hv⟩ := Option.map_eq_some_iff.mp h.symm
    exact hthere hv.symm nofun
  case pspReference =>
    obtain ⟨hne, rfl⟩ := of_unless_blank (f := id) h.symm
    exact ⟨hne, id⟩

/-- A bag of a notice that is in order. -/
structure Bag (n : Notice) (properties : List Property) : Prop where
  ordered : (properties.map Property.key).Sublist (PropertyKey.all.map PropertyKey.name)
  nodup : (properties.map Property.key).Nodup
  spoken : ∀ p ∈ properties, p.value ≠ .null
  /-- An entry has no value only where the notice has no reference of the gateway. -/
  missing : ∀ p ∈ properties, p.value = none → n.pspReference = none

theorem purchaseProperties_bag (n : Notice) (m : Money) (hosted : Bool) :
    n.Bag (n.purchaseProperties m hosted) where
  ordered := fill_keys (n.propertyValues m hosted)
  nodup := (fill_keys (n.propertyValues m hosted)).nodup PropertyKey.nodup_names
  spoken _ hp :=
    have ⟨_, hmem⟩ := value_of_mem_fill hp
    (propertyValues_spoken hmem).1
  missing _ hp :=
    have ⟨_, hmem⟩ := value_of_mem_fill hp
    (propertyValues_spoken hmem).2

/-- **Bags.** A bag is in order, and nothing is lost in it but the amount that the notice itself has
and where it comes from. -/
theorem purchaseProperties_lossless :
    (∀ n m hosted, Notice.Bag n (n.purchaseProperties m hosted)) ∧
      ∀ (n n' : Notice) m m' hosted hosted',
        n.purchaseProperties m hosted = n'.purchaseProperties m' hosted' ↔
          hosted = hosted' ∧ m = m' ∧ n' = { n with amount := n'.amount, live := n'.live } := by
  refine ⟨purchaseProperties_bag, fun n n' m m' hosted hosted' => ⟨fun h => ?_, ?_⟩⟩
  · exact propertyValues_inj (fill_inj rfl PropertyKey.nodup_names h)
  · rintro ⟨rfl, rfl, hn⟩
    rw [hn]
    rfl

end Notice

end NoticeLedger
