import NoticeLedger.Json.Basic

/-!
# NoticeLedger.Form.Basic

Forms: which members an object has, how their values are read, and what they must be.

* `Requirement` — one requirement on a value, with `Requirement.holds`.
* `Reading` — how the value of a member is read.
* `Field` — a member of a form; `Form` — members in order, some of them with a form of their own.
-/

namespace NoticeLedger

inductive Requirement where
  | text
  | texts
  | notEmpty
  | number
  | flag
  | members
  | list
  | oneOf (values : List String)
  | whole
  | atLeast (least : Nat)
  | atMost (greatest : Nat)
  deriving DecidableEq, Repr

namespace Requirement

def isText : Json → Bool
  | .text _ => true
  | _ => false

/-- Whether a value, possibly left out, meets a requirement. -/
def holds (r : Requirement) (value : Option Json) : Bool :=
  match r, value with
  | text, some (.text _) => true
  | texts, some (.text _) => true
  | texts, some (.array items) => items.all isText
  | notEmpty, none => false
  | notEmpty, some .null => false
  | notEmpty, some (.text s) => s != ""
  | notEmpty, some _ => true
  | number, some (.number x) => x.isFinite
  | flag, some (.bool _) => true
  | members, some (.object _) => true
  | list, some (.array _) => true
  | oneOf values, some (.text s) => values.contains s
  | whole, some (.number x) => x.toInt?.isSome
  | atLeast least, some (.number x) => Number.ofInt least ≤ x
  | atMost greatest, some (.number x) => x ≤ Number.ofInt greatest
  | _, _ => false

end Requirement

/-- How the value of a member is read: as it is, the words `true` and `false` as truth values, or as
a number. -/
inductive Reading where
  | plain
  | flag
  | number
  deriving DecidableEq, Repr

/-- A member of a form. The requirements stand in the order in which they are reported. -/
structure Field where
  name : String
  optional : Bool := true
  reading : Reading := .plain
  requirements : List Requirement := []

/-- The members of an object, in order; a nested one has a form of its own. -/
inductive Form where
  | empty
  | field (f : Field) (rest : Form)
  | nested (f : Field) (inner rest : Form)

namespace Form

def fields (fs : List Field) (rest : Form) : Form :=
  fs.foldr field rest

def inner? (name : String) : Form → Option Form
  | empty => none
  | field _ rest => rest.inner? name
  | nested f inner rest => if f.name = name then some inner else rest.inner? name

def reading (name : String) : Form → Reading
  | empty => .plain
  | field f rest => if f.name = name then f.reading else rest.reading name
  | nested _ _ rest => rest.reading name

end Form

end NoticeLedger
