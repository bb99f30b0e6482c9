import NoticeLedger.Failure
import NoticeLedger.Form.Basic
import NoticeLedger.Number.Reader

/-!
# NoticeLedger.Form.Reader

Objects read by a form.

* `looseValue` — a value outside every form: members with reserved names are left out.
* `Form.read` — a value read by a form; a list is read item by item.
* `Form.readMembers` — the members of an object read by a form; members that the form does not know
  are kept.

An object outside every form that names a constructor of its own cannot be read, and a value that
cannot stand inside a sentence cannot be read as a number.
-/

namespace NoticeLedger

namespace Form

/-- The names that no member is read under. -/
def reservedNames : List String := [
  "__proto__", "constructor", "toString", "toLocaleString", "valueOf", "hasOwnProperty",
  "isPrototypeOf", "propertyIsEnumerable", "__defineGetter__", "__defineSetter__",
  "__lookupGetter__", "__lookupSetter__"]

def namesConstructor (m : Members) : Bool :=
  (m.get? "constructor").any Json.isTruthy

/-- The failure of reading an object that names a constructor. -/
def unreadableObject : Failure :=
  .unforeseen "Cannot read properties of undefined (reading 'constructor')"

mutual

def looseValue : Json → Except Failure Json
  | .array items => do
    let items ← looseItems items
    pure (.array items)
  | .object m =>
    if namesConstructor m then .error unreadableObject
    else do
      let m ← looseMembers m
      pure (.object m)
  | v => .ok v

def looseItems : List Json → Except Failure (List Json)
  | [] => .ok []
  | item :: rest => do
    let item ← looseValue item
    let rest ← looseItems rest
    pure (item :: rest)

def looseMembers : List (String × Json) → Except Failure (List (String × Json))
  | [] => .ok []
  | (name, value) :: rest =>
    if reservedNames.contains name then looseMembers rest
    else do
      let value ← looseValue value
      let rest ← looseMembers rest
      pure ((name, value) :: rest)

end

mutual

/-- A value as a number; the items of a list as numbers. -/
def numberOf : Json → Json
  | .null => .null
  | .bool b => .number (if b then 1 else 0)
  | .number x => .number x
  | .text s => .number (Number.read s)
  | .array items => .array (numbersOf items)
  | .object _ => .number .nan

def numbersOf : List Json → List Json
  | [] => []
  | item :: rest => numberOf item :: numbersOf rest

end

/-- The words `true` and `false` as truth values; anything else as it is. -/
def flagOf : Json → Json
  | .text "true" => .bool true
  | .text "false" => .bool false
  | v => v

/-- A value of a member that has no form of its own. -/
def readPlain (reading : Reading) (value : Json) : Except Failure Json :=
  match reading with
  | .plain => looseValue value
  | .flag => (looseValue value).map flagOf
  | .number => if value.isWordless then .error .wordless else .ok (numberOf value)

mutual

def read (form : Form) : Json → Except Failure Json
  | .object m => do
    let m ← readMembers form m
    pure (.object m)
  | .array items => do
    let items ← readItems form items
    pure (.array items)
  | v => .ok v

def readItems (form : Form) : List Json → Except Failure (List Json)
  | [] => .ok []
  | item :: rest => do
    let item ← read form item
    let rest ← readItems form rest
    pure (item :: rest)

def readMembers (form : Form) : List (String × Json) → Except Failure (List (String × Json))
  | [] => .ok []
  | (name, value) :: rest =>
    if reservedNames.contains name then readMembers form rest
    else
      match form.inner? name with
      | some inner => do
        let value ← read inner value
        let rest ← readMembers form rest
        pure ((name, value) :: rest)
      | none => do
        let value ← readPlain (form.reading name) value
        let rest ← readMembers form rest
        pure ((name, value) :: rest)

end

end Form

end NoticeLedger
