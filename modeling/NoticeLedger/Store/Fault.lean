/-!
# NoticeLedger.Store.Fault

Why tables refuse a statement.

* `TableFault` — one reason.
* `TableFault.message`, `TableFault.code` — the reason in words, and its code if it has one.
-/

namespace NoticeLedger

inductive TableFault where
  | emptyColumn (table column : String)
  | takenKey (table column : String)
  -- of a part of a listing, its ends or its start
  | notWhole
  | startNotNumber
  | noColumn (name : String)
  -- of the values that a statement is given for its places
  | tooFewValues
  | tooManyValues
  | secondObject
  | oddItem
  deriving DecidableEq, Repr

namespace TableFault

def message : TableFault → String
  | emptyColumn table column => s!"SqliteError: NOT NULL constraint failed: {table}.{column}"
  | takenKey table column => s!"SqliteError: UNIQUE constraint failed: {table}.{column}"
  | notWhole => "SqliteError: datatype mismatch"
  | startNotNumber =>
    "Provided \"skip\" value is not a number. Please provide a numeric value."
  | noColumn name => s!"no such column: {name}"
  | tooFewValues => "RangeError: Too few parameter values were provided"
  | tooManyValues => "RangeError: Too many parameter values were provided"
  | secondObject => "TypeError: You cannot specify named parameters in two different objects"
  | oddItem => "TypeError: SQLite3 can only bind numbers, strings, bigints, buffers, and null"

def code : TableFault → Option String
  | emptyColumn .. => some "SQLITE_CONSTRAINT_NOTNULL"
  | takenKey .. => some "SQLITE_CONSTRAINT_PRIMARYKEY"
  | notWhole => some "SQLITE_MISMATCH"
  | noColumn _ => some "SQLITE_ERROR"
  | startNotNumber => none
  | tooFewValues => none
  | tooManyValues => none
  | secondObject => none
  | oddItem => none

end TableFault

end NoticeLedger
