import Mathlib
import NoticeLedger.Form.Report
import NoticeLedger.Json.Given

/-!
# NoticeLedger.Proofs.Form.Accepting

What it takes for an object to have no violation of a form.

* `Field.Met` — the value of a member meets its requirements, or need not be looked at.
* `Within P` — an object with `P`, or a list of such values, at any depth.
* `Form.Meets` — every member of a form is met, and what has a form of its own meets that one.
* `violations_eq_nil_iff` — nothing is reported exactly of such an object.
-/

namespace NoticeLedger

/-- The value of a member need not be looked at, or it meets every requirement. -/
def Field.Met (f : Field) (value : Given) : Prop :=
  f.isSkipped value = true ∨ ∀ r ∈ f.requirements, r.holds value = true

/-- An object whose members have a property, or a list of such values, at any depth. -/
inductive Within (P : Members → Prop) : Json → Prop where
  | object {m : Members} : P m → Within P (.object m)
  | array {items : List Json} : (∀ item ∈ items, Within P item) → Within P (.array items)

namespace Form

/-- Every member of the form is met; a value that has a form of its own is within that one. -/
def Meets : Form → Members → Prop
  | empty, _ => True
  | field f rest, m => f.Met (m.get? f.name) ∧ rest.Meets m
  | nested f inner rest, m =>
    f.Met (m.get? f.name) ∧
      (f.isSkipped (m.get? f.name) = false → ∀ v, m.get? f.name = some v → Within inner.Meets v) ∧
      rest.Meets m

theorem unmet_eq_nil_iff (f : Field) (value : Given) :
    (if f.isSkipped value then [] else f.unmet value) = [] ↔ f.Met value := by
  rw [Field.Met]
  by_cases hs : f.isSkipped value = true
  · simp [hs]
  · simp [hs, Field.unmet]

theorem within_array {P : Members → Prop} {items : List Json} :
    Within P (.array items) ↔ ∀ item ∈ items, Within P item := by
  constructor
  · rintro ⟨⟩
    assumption
  · exact .array

theorem within_object {P : Members → Prop} {m : Members} : Within P (.object m) ↔ P m := by
  constructor
  · rintro ⟨⟩
    assumption
  · exact .object

section Nested

variable {inner : Members → List Violation} {P : Members → Prop}

mutual

theorem nestedViolations_eq_nil_iff (h : ∀ m, inner m = [] ↔ P m) :
    (v : Json) → (nestedViolations inner v = [] ↔ Within P v)
  | .object m => by rw [nestedViolations, h, within_object]
  | .array items => by
    rw [nestedViolations, itemViolations_eq_nil_iff h 0 items, within_array]
  | .null => ⟨nofun, nofun⟩
  | .bool _ => ⟨nofun, nofun⟩
  | .number _ => ⟨nofun, nofun⟩
  | .text _ => ⟨nofun, nofun⟩

theorem itemViolations_eq_nil_iff (h : ∀ m, inner m = [] ↔ P m) (i : Nat) :
    (items : List Json) → (itemViolations inner i items = [] ↔ ∀ item ∈ items, Within P item)
  | [] => by simp [itemViolations]
  | item :: rest => by
    rw [itemViolations, List.append_eq_nil_iff, List.map_eq_nil_iff,
      nestedViolations_eq_nil_iff h item, itemViolations_eq_nil_iff h (i + 1) rest,
      List.forall_mem_cons]

end

end Nested

/-- Nothing is reported exactly of the objects that meet the form. -/
theorem violations_eq_nil_iff (form : Form) (m : Members) :
    form.violations m = [] ↔ form.Meets m := by
  induction form generalizing m with
  | empty => simp [violations, Meets]
  | field f rest ih =>
    rw [violations, List.append_eq_nil_iff, unmet_eq_nil_iff, ih, Meets]
  | nested f inner rest ihi ih =>
    have hinner := nestedViolations_eq_nil_iff ihi
    rw [violations, List.append_eq_nil_iff, ih, Meets, ← and_assoc, Field.Met]
    refine and_congr_left fun _ => ?_
    by_cases hs : f.isSkipped (m.get? f.name) = true
    · simp [hs]
    · cases hv : m.get? f.name with
      | none => simp [hv ▸ hs, Field.unmet]
      | some v => simp [hv ▸ hs, Field.unmet, hinner]

end Form

/-! ## Single requirements -/

namespace Requirement

/-- What a requirement asks of a value that is there. -/
def Asks : Requirement → Json → Prop
  | text, v => ∃ s, v = .text s
  | texts, v => (∃ s, v = .text s) ∨
      ∃ items, v = .array items ∧ ∀ item ∈ items, ∃ s, item = .text s
  | notEmpty, v => v ≠ .null ∧ v ≠ .text ""
  | number, v => ∃ x, v = .number x ∧ x.isFinite = true
  | flag, v => ∃ b, v = .bool b
  | members, v => ∃ m, v = .object m
  | list, v => ∃ items, v = .array items
  | oneOf values, v => ∃ s ∈ values, v = .text s
  | whole, v => ∃ x, v = .number x ∧ x.toInt?.isSome = true
  | atLeast least, v => ∃ x, v = .number x ∧ Number.ofInt least ≤ x
  | atMost greatest, v => ∃ x, v = .number x ∧ x ≤ Number.ofInt greatest

theorem isText_iff {v : Json} : isText v = true ↔ ∃ s, v = .text s := by
  cases v <;> simp [isText]

theorem holds_iff {r : Requirement} {value : Given} :
    r.holds value = true ↔ ∃ v, value = some v ∧ r.Asks v := by
  cases value with
  | none => cases r <;> simp [holds]
  | some v => cases r <;> cases v <;> simp [holds, Asks, isText_iff]

end Requirement

theorem Given.isNothing_cases {value : Given} (h : value.isNothing = true) :
    value = none ∨ value = some .null := by
  cases value with
  | none => exact .inl rfl
  | some v =>
    cases v with
    | null => exact .inr rfl
    | _ => exact nomatch h

theorem Field.isSkipped_iff {f : Field} {value : Given} :
    f.isSkipped value = true ↔ f.optional = true ∧ value.isNothing = true := by
  cases value with
  | none => simp [Field.isSkipped, Given.isNothing]
  | some v => cases v <;> simp [Field.isSkipped, Given.isNothing]

/-- A member that is met says nothing, or it has what each of its requirements asks. -/
theorem Field.Met.asks {f : Field} {value : Given} {r : Requirement} (h : f.Met value)
    (hr : r ∈ f.requirements) :
    (f.optional = true ∧ value.isNothing = true) ∨ ∃ v, value = some v ∧ r.Asks v := by
  rcases h with h | h
  · exact .inl (Field.isSkipped_iff.mp h)
  · exact .inr (Requirement.holds_iff.mp (h r hr))

end NoticeLedger
