import NoticeLedger.Failure
import NoticeLedger.Instant
import NoticeLedger.Number.Rounded

/-!
# NoticeLedger.Store.Column

Values as the columns of a table keep them.

* `Column.text`, `whole`, `flag`, `data` — what a column of texts, of whole numbers, of truth values
  or of data gives back of a value; an empty column is `null`.
* `Column.bound` — an end of a span of times, as a column is compared with it.
* `Column.set` — a column after a change that may leave it alone.
* `Column.bind` — fails for values that no statement has a place for.
* `Column.require` — fails if a column that has to be filled is not.
-/

namespace NoticeLedger.Column

/-- What the values of a statement have filled so far. -/
structure Filled where
  count : Nat := 0
  hasObject : Bool := false

def fillPlace (places : Nat) (f : Filled) : Except TableFault Filled :=
  if f.count < places then .ok { f with count := f.count + 1 } else .error .tooManyValues

def fillItem (places : Nat) (f : Filled) : Json → Except TableFault Filled
  | .null => fillPlace places f
  | .text _ => fillPlace places f
  | .number _ => fillPlace places f
  | _ => .error .oddItem

/-- Fills places with a value: a list gives its items, an object gives none. -/
def fill (places : Nat) (f : Filled) : Json → Except TableFault Filled
  | .array items => items.foldlM (fillItem places) f
  | .object _ => if f.hasObject then .error .secondObject else .ok { f with hasObject := true }
  | _ => fillPlace places f

def bind (values : List Given) : Except Failure Unit :=
  match (values.map Given.orNull).foldlM (fill values.length) {} with
  | .ok f =>
    if f.count < values.length then .error (.refusedStatement .tooFewValues) else .ok ()
  | .error fault => .error (.refusedStatement fault)

def isShort (x : Number) : Bool :=
  x.toInt?.any fun i => i.natAbs < Nat.pow 2 63

/-- The number that the text of a number in a statement is read as; whole numbers of less than 64
bits stay as they are. -/
def written (x : Number) : Number :=
  if isShort x then x else (Extended.read? x.text).getD x

/-- What a column of texts keeps of a number in a statement: the digits of a whole number of less
than 64 bits, or else those that are left of it in fifteen. -/
def numberText (x : Number) : String :=
  if isShort x then x.text else (written x).roundedText

/-- What a column of texts keeps: texts, and numbers and truth values in digits. A truth value and
the item of a list are not kept as whole numbers. -/
def text (v : Json) : Json :=
  match v with
  | .null => .null
  | .text s => .text s
  | .number x => .text (numberText x)
  | .bool b => .text (Number.roundedText (if b then 1 else 0))
  | .array [.null] => .null
  | .array [.text s] => .text s
  | .array [.number x] => .text x.roundedText
  | v => .text v.display

def textNumber (s : String) : Number :=
  (Extended.read? s).getD (Number.read s)

def whole (v : Json) : Json :=
  match v with
  | .null => .null
  | .number x => .number (written x)
  | .bool b => .number (if b then 1 else 0)
  | .text s => .number (textNumber s)
  | .array [.null] => .null
  | .array [.text s] => .number (textNumber s)
  | .array [.number x] => .number x
  | _ => .number .nan

def flag (v : Json) : Json :=
  if v = .null then .null else .bool (v = .bool true)

def data (v : Json) : Json :=
  match v with
  | .object m => .object m
  | .array items => .array items
  | _ => .object []

/-- The end of a span of times, as a column of times is compared with it: an unknown time stands
before every year from the thousandth on, and after the others. -/
def bound (unknown : Instant) : TimeBound → TimeBound
  | .unlimited => .unlimited
  | .instant t => .instant t.inFourDigits
  | .unknown => .instant unknown

def thousandthYear : Instant := ⟨-30610224000000⟩

def set (old value : Given) : Given :=
  match value with
  | some v => some (text v)
  | none => old

def admits (asked column : Given) : Bool :=
  asked.isNothing || column == some (text asked.orNull)

/-- Fails at the first column of a table that has to be filled and is given nothing. -/
def require (table : String) (columns : List (String × Given)) : Except Failure Unit :=
  match columns.find? fun (_, value) => value.isNothing with
  | some (column, _) => .error (.refusedStatement (.emptyColumn table column))
  | none => .ok ()

end NoticeLedger.Column
