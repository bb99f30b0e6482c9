import NoticeLedger.Json.Given
import NoticeLedger.Money.Currency

/-!
# NoticeLedger.Money.Basic

Amounts of money in the smallest unit of a currency.

* `Money` — a whole number of units that no rounding has touched, and its currency.
* `Money.Refusal` — why values are no money, with `Money.Refusal.message`.
* `Money.of` — money from the two values of an amount as it was sent.
* `Money.equals` — when two amounts are the same.
* `Money.decimal` — the amount in major units, exact; `Money.text` — with the code in front.
-/

namespace NoticeLedger

structure Money where
  amount : Nat
  currency : Currency
  amount_le : amount ≤ Number.maxSafe
  deriving DecidableEq

namespace Money

inductive Refusal where
  | notWhole
  | negative
  | unknownCurrency (shown : String)
  | currencyNotText
  | notDecimal (value : String)
  | tooManyPlaces (currency : Currency) (value : String)
  deriving DecidableEq

/-- The reason in words. A currency of a wrong kind has none: nothing foresees it. -/
def Refusal.message : Refusal → Option String
  | notWhole => some "Amount must be an integer (smallest currency unit)"
  | negative => some "Amount cannot be negative"
  | unknownCurrency shown => some s!"Currency must be an ISO 4217 code, got '{shown}'"
  | currencyNotText => none
  | notDecimal value => some s!"Not a decimal amount: '{value}'"
  | tooManyPlaces currency value =>
    some s!"{currency.code} allows {currency.exponent} decimal places, got '{value}'"

/-- The currency that a sent value names; no value names the same as an empty text. -/
def currencyOf (currency : Given) : Except Refusal Currency :=
  let name : Except Refusal String :=
    match currency with
    | none => .ok ""
    | some .null => .ok ""
    | some (.text s) => .ok s
    | some _ => .error .currencyNotText
  match name with
  | .error refusal => .error refusal
  | .ok name =>
    match Currency.named? name with
    | some c => .ok c
    | none => .error (.unknownCurrency currency.display)

/-- The units that a sent value gives. -/
def unitsOf (amount : Given) : Except Refusal { n : Nat // n ≤ Number.maxSafe } :=
  match amount with
  | some (.number x) =>
    match x.toInt? with
    | some (.ofNat n) => if h : n ≤ Number.maxSafe then .ok ⟨n, h⟩ else .error .notWhole
    | some (.negSucc n) =>
      if n + 1 ≤ Number.maxSafe then .error .negative else .error .notWhole
    | none => .error .notWhole
  | _ => .error .notWhole

/-- Money of units that were looked at. -/
def ofUnits (units : { n : Nat // n ≤ Number.maxSafe }) (c : Currency) : Money :=
  ⟨units, c, units.property⟩

/-- Money from the two values of an amount. The units are looked at first. -/
def of (amount currency : Given) : Except Refusal Money :=
  match unitsOf amount with
  | .error refusal => .error refusal
  | .ok units =>
    match currencyOf currency with
    | .error refusal => .error refusal
    | .ok c => .ok (ofUnits units c)

def equals (m other : Money) : Bool :=
  m.amount == other.amount && m.currency.code == other.currency.code

def isZero (m : Money) : Bool :=
  m.amount == 0

/-- The amount in major units: the places of the currency after a point, and at least one digit in
front of it. -/
def decimalChars (m : Money) : List Char :=
  let places := m.currency.exponent
  let digits := Nat.toDigits 10 m.amount
  if places = 0 then digits
  else
    let digits := List.replicate (places + 1 - digits.length) '0' ++ digits
    let split := digits.length - places
    digits.take split ++ '.' :: digits.drop split

def decimal (m : Money) : String :=
  String.ofList m.decimalChars

def text (m : Money) : String :=
  m.currency.code ++ " " ++ m.decimal

end Money

end NoticeLedger
