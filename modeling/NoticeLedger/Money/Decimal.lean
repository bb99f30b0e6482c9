import NoticeLedger.Money.Basic
import NoticeLedger.Number.Reader

/-!
# NoticeLedger.Money.Decimal

Money read from a decimal in major units.

* `Money.splitDecimal?` — the digits before and after the point.
* `Money.parse` — the money that a decimal and a currency name.
-/

namespace NoticeLedger.Money

/-- The digits before and after the point of a decimal; without a point, none after. -/
def splitDecimal? (cs : List Char) : Option (List Char × List Char) :=
  match Number.spanDigits cs with
  | ([], _) => none
  | (whole, []) => some (whole, [])
  | (whole, '.' :: rest) =>
    match Number.spanDigits rest with
    | (d :: ds, []) => some (whole, d :: ds)
    | _ => none
  | _ => none

/-- The money that a decimal in major units names. The currency is looked at first; the units are
those of the digits with the fraction filled up to the places of the currency, read as a number. -/
def parse (value : String) (currency : Given) : Except Refusal Money :=
  match currencyOf currency with
  | .error refusal => .error refusal
  | .ok c =>
    match splitDecimal? (Text.trimChars value.toList) with
    | none => .error (.notDecimal value)
    | some (whole, fraction) =>
      if c.exponent < fraction.length then .error (.tooManyPlaces c value)
      else
        let digits := whole ++ fraction ++ List.replicate (c.exponent - fraction.length) '0'
        match unitsOf (some (.number (.ofInt (Number.decimal digits)))) with
        | .error refusal => .error refusal
        | .ok units => .ok (ofUnits units c)

end NoticeLedger.Money
