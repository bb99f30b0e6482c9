import NoticeLedger.Number.Basic
import NoticeLedger.Text.Blank

/-!
# NoticeLedger.Number.Reader

Numbers read from text.

* `Number.ofScientific` — the nearest number to a decimal with an exponent.
* `Number.readWhole` — the whole number at the front of a text, as settings write it.
* `Number.read` — the number that a whole text denotes: blank ends are ignored, nothing is zero,
  and bases two, eight and sixteen have their marks.
-/

namespace NoticeLedger.Number

def digit? (c : Char) : Option Nat :=
  if c.isDigit then some (c.toNat - '0'.toNat) else none

/-- The value of an ASCII digit of a base up to sixteen. -/
def digitIn? (base : Nat) (c : Char) : Option Nat :=
  let n :=
    if c.isDigit then some (c.toNat - '0'.toNat)
    else if 'a' ≤ c ∧ c ≤ 'f' then some (c.toNat - 'a'.toNat + 10)
    else if 'A' ≤ c ∧ c ≤ 'F' then some (c.toNat - 'A'.toNat + 10)
    else none
  n.filter (· < base)

/-- The whole number that digits of a base denote. -/
def ofDigits (base : Nat) (ds : List Nat) : Nat :=
  ds.foldl (fun n d => base * n + d) 0

def spanDigits (cs : List Char) : List Char × List Char :=
  cs.span Char.isDigit

def decimal (cs : List Char) : Nat :=
  ofDigits 10 (cs.filterMap digit?)

/-- The nearest number to `digits * 10 ^ exponent`. Far outside the range of numbers the answer is
given without the power. -/
def ofScientific (negative : Bool) (digits : Nat) (exponent : Int) : Number :=
  let size := (Nat.toDigits 10 digits).length + exponent
  if digits = 0 ∨ size < -400 then finite 0
  else if 400 < size then infinite negative
  else
    let n : Int := if negative then -digits else digits
    round ((n * Nat.pow 10 exponent.toNat : Int) / (Nat.pow 10 (-exponent).toNat : Int))

/-- The exponent at the front of a text, from its `e` on, and what follows it. -/
def readExponent? : List Char → Option (Int × List Char)
  | c :: rest =>
    if c = 'e' ∨ c = 'E' then
      let (negative, rest) := match rest with
        | '-' :: r => (true, r)
        | '+' :: r => (false, r)
        | r => (false, r)
      match spanDigits rest with
      | ([], _) => none
      | (ds, rest) => some (if negative then -(decimal ds) else decimal ds, rest)
    else none
  | [] => none

def readSign : List Char → Bool × List Char
  | '-' :: rest => (true, rest)
  | '+' :: rest => (false, rest)
  | rest => (false, rest)

/-- The whole number at the front of a text: blanks, a sign, then digits. What follows is ignored,
and without a digit there is no number. -/
def readWhole (s : String) : Number :=
  let (negative, rest) := readSign (Text.dropBlank s.toList)
  match spanDigits rest with
  | ([], _) => nan
  | (ds, _) => ofScientific negative (decimal ds) 0

/-- A decimal without sign: digits with a point before, between or after them, and an exponent. -/
def readDecimal (negative : Bool) (cs : List Char) : Number :=
  let (whole, rest) := spanDigits cs
  let (fraction, rest) := match rest with
    | '.' :: r => spanDigits r
    | r => ([], r)
  if whole.isEmpty && fraction.isEmpty then nan
  else
    let digits := decimal (whole ++ fraction)
    match rest with
    | [] => ofScientific negative digits (-fraction.length)
    | rest =>
      match readExponent? rest with
      | some (e, []) => ofScientific negative digits (e - fraction.length)
      | _ => nan

/-- A whole number in a base other than ten. -/
def readBase (base : Nat) (cs : List Char) : Number :=
  match cs.mapM (digitIn? base) with
  | some (d :: ds) => ofInt (ofDigits base (d :: ds))
  | _ => nan

/-- The number that the characters of a text denote, when its ends are not blank. -/
def readChars (cs : List Char) : Number :=
  match cs with
  | [] => 0
  | '0' :: 'x' :: rest => readBase 16 rest
  | '0' :: 'X' :: rest => readBase 16 rest
  | '0' :: 'o' :: rest => readBase 8 rest
  | '0' :: 'O' :: rest => readBase 8 rest
  | '0' :: 'b' :: rest => readBase 2 rest
  | '0' :: 'B' :: rest => readBase 2 rest
  | cs =>
    let (negative, rest) := readSign cs
    if rest = "Infinity".toList then infinite negative else readDecimal negative rest

def read (s : String) : Number :=
  readChars (Text.trimChars s.toList)

end NoticeLedger.Number
