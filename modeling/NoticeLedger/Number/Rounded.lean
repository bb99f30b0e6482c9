import NoticeLedger.Number.Extended
import NoticeLedger.Number.Shortest

/-!
# NoticeLedger.Number.Rounded

The decimal text of a number in fifteen digits.

* `Number.roundedDigits` — the first fifteen digits of a number, and the place of the point.
* `Number.roundedText` — positional from `1e-4` to below `1e15`, with an exponent outside; a digit
  stands behind the point in any case.
-/

namespace NoticeLedger.Number

/-- The fifteen digits nearest to the leading ones of a value, without the zeros at their end; a
half goes up. -/
def roundedDigits (x : Extended) : Digits :=
  let (v, e) := x.leading
  let unit := Nat.pow 10 ((Nat.toDigits 10 v).length - 15)
  let s := (2 * v + unit) / (2 * unit)
  { digits := significant s
    point := e + ((Nat.toDigits 10 (s * unit)).length : Int) }

def fractionText (digits : List Char) : List Char :=
  '.' :: (if digits.isEmpty then ['0'] else digits)

/-- Digits with a point where it belongs, or with an exponent of two digits when the point is far
away. -/
def Digits.realText (d : Digits) : List Char :=
  if 0 < d.point ∧ d.point ≤ 15 then
    let whole := d.digits.take d.point.toNat
    whole ++ List.replicate (d.point.toNat - whole.length) '0' ++
      fractionText (d.digits.drop d.point.toNat)
  else if -4 < d.point ∧ d.point ≤ 0 then
    '0' :: fractionText (List.replicate (-d.point).toNat '0' ++ d.digits)
  else
    let e := d.point - 1
    let mark := if e < 0 then '-' else '+'
    let exponent := Nat.toDigits 10 e.natAbs
    d.digits.take 1 ++ fractionText (d.digits.drop 1) ++
      'e' :: mark :: (List.replicate (2 - exponent.length) '0' ++ exponent)

def roundedText : Number → String
  | finite (.ofOdd n k _) =>
    let digits := (roundedDigits ⟨n.natAbs, -k⟩).realText
    String.ofList (if n < 0 then '-' :: digits else digits)
  | finite .zero => "0.0"
  | x => x.text

end NoticeLedger.Number
