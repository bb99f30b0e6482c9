import NoticeLedger.Form.Basic

/-!
# NoticeLedger.Form.Report

What is wrong with an object that was read by a form.

* `Fault` — an unmet requirement, or a value that is not of the form its member has.
* `Violation` — a fault and the path to its place; `Violation.text`.
* `Form.violations` — every violation: members in the order of the form, the faults of a member
  before those inside it.
-/

namespace NoticeLedger

inductive Fault where
  | unmet (r : Requirement)
  | formless
  deriving DecidableEq, Repr

namespace Fault

def name : Fault → String
  | unmet .text => "isString"
  | unmet .texts => "isString"
  | unmet .notEmpty => "isNotEmpty"
  | unmet .number => "isNumber"
  | unmet .flag => "isBoolean"
  | unmet .members => "isObject"
  | unmet .list => "isArray"
  | unmet (.oneOf _) => "isEnum"
  | unmet .whole => "isInt"
  | unmet (.atLeast _) => "min"
  | unmet (.atMost _) => "max"
  | formless => "nestedValidation"

end Fault

/-- A fault, and the names and places that lead to it. -/
structure Violation where
  path : List String
  fault : Fault
  deriving DecidableEq, Repr

namespace Violation

def under (step : String) (v : Violation) : Violation :=
  { v with path := step :: v.path }

def text (v : Violation) : String :=
  ".".intercalate v.path ++ ": " ++ v.fault.name

end Violation

namespace Field

/-- Whether a member need not be looked at: an optional one that says nothing. -/
def isSkipped (f : Field) (value : Option Json) : Bool :=
  match value with
  | none => f.optional
  | some .null => f.optional
  | some _ => false

def unmet (f : Field) (value : Option Json) : List Violation :=
  (f.requirements.filter fun r => !r.holds value).map fun r => ⟨[f.name], .unmet r⟩

end Field

namespace Form

mutual

/-- The violations of a value that has a form of its own, by what is wrong with the members of an
object of that form. The items of a list are each of the form. -/
def nestedViolations (inner : Members → List Violation) : Json → List Violation
  | .object m => inner m
  | .array items => itemViolations inner 0 items
  | _ => [⟨[], .formless⟩]

def itemViolations (inner : Members → List Violation) : Nat → List Json → List Violation
  | _, [] => []
  | i, item :: rest =>
    (nestedViolations inner item).map (Violation.under (toString i)) ++
      itemViolations inner (i + 1) rest

end

/-- What is wrong with the members of an object of a form. A nested member that is left out has no
form to violate. -/
def violations : Form → Members → List Violation
  | empty, _ => []
  | field f rest, m =>
    let value := m.get? f.name
    (if f.isSkipped value then [] else f.unmet value) ++ rest.violations m
  | nested f inner rest, m =>
    let value := m.get? f.name
    let inside := value.toList.flatMap (nestedViolations inner.violations)
    let here :=
      if f.isSkipped value then [] else f.unmet value ++ inside.map (Violation.under f.name)
    here ++ rest.violations m

def faultyMembers (form : Form) (m : Members) : List String :=
  ((form.violations m).filterMap fun v => v.path.head?).eraseDups

end Form

end NoticeLedger
