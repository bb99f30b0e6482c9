import NoticeLedger.Number.Basic

/-!
# NoticeLedger.Number.Shortest

The decimal text of a number: the fewest digits that read back as it.

* `Number.digitsOf` — the digits and the place of the point.
* `Number.text` — positional from `1e-6` to below `1e21`, with an exponent outside.
-/

namespace NoticeLedger.Number

/-- The value `0.d₁d₂… · 10 ^ point` for the digits `d₁d₂…`. -/
structure Digits where
  digits : List Char
  point : Int

/-- What rounds to one number: the values from `low` to `high` in units of `1 / den`, with the two
ends when `closed`; the number itself is `mid / den`. -/
structure RoundingRange where
  low : Nat
  mid : Nat
  high : Nat
  den : Nat
  closed : Bool

namespace RoundingRange

/-- The range of the number `n * 2 ^ (-k)`, for a positive odd `n`. -/
def ofOdd (n : Nat) (k : Int) : RoundingRange :=
  let place := lastPlace ((n.log2 : Int) - k)
  let m := n * Nat.pow 2 (-k - place).toNat
  let below := if m = Nat.pow 2 52 ∧ -1074 < place then 1 else 2
  let scale := Nat.pow 2 (place - 2).toNat
  { low := (4 * m - below) * scale
    mid := 4 * m * scale
    high := (4 * m + 2) * scale
    den := Nat.pow 2 (2 - place).toNat
    closed := m % 2 = 0 }

/-- Whether the number `value / scale`, counted in units of `1 / den`, is in the range. -/
def contains (r : RoundingRange) (value scale : Nat) : Bool :=
  if r.closed then r.low * scale ≤ value && value ≤ r.high * scale
  else r.low * scale < value && value < r.high * scale

/-- The exponent `n` with `10 ^ (n - 1) ≤ mid / den < 10 ^ n`. -/
def decade (r : RoundingRange) : Int :=
  if r.den ≤ r.mid then (Nat.toDigits 10 (r.mid / r.den)).length
  else
    let d := (Nat.toDigits 10 (r.den / r.mid)).length
    if r.den ≤ r.mid * Nat.pow 10 (d - 1) then 2 - d else 1 - d

/-- The `count`-digit decimal next to the number that reads back as it; of two equally near ones,
the even one. -/
def nearest? (r : RoundingRange) (count : Nat) : Option Nat :=
  let place := r.decade - count
  let scale := Nat.pow 10 (-place).toNat
  let unit := r.den * Nat.pow 10 place.toNat
  let s := r.mid * scale / unit
  let under := r.contains (s * unit) scale
  let above := r.contains ((s + 1) * unit) scale
  match under, above with
  | false, false => none
  | true, false => some s
  | false, true => some (s + 1)
  | true, true =>
    let toUnder := r.mid * scale - s * unit
    let toOver := (s + 1) * unit - r.mid * scale
    if toUnder < toOver then some s
    else if toOver < toUnder then some (s + 1)
    else some (s + s % 2)

end RoundingRange

def significant (s : Nat) : List Char :=
  ((Nat.toDigits 10 s).reverse.dropWhile (· == '0')).reverse

/-- The fewest digits that read back as a number, and of those the nearest. -/
def digitsOf (r : RoundingRange) : Digits :=
  let found := (List.range 17).findSome? fun i => (r.nearest? (i + 1)).map fun s => (i + 1, s)
  match found with
  | some (count, s) =>
    { digits := significant s
      point := r.decade - count + (Nat.toDigits 10 s).length }
  | none => { digits := ['0'], point := 1 }

/-- Digits with a point where it belongs, or with an exponent when the point is far away. -/
def Digits.text (d : Digits) : List Char :=
  let count : Int := d.digits.length
  if count ≤ d.point ∧ d.point ≤ 21 then
    d.digits ++ List.replicate (d.point - count).toNat '0'
  else if 0 < d.point ∧ d.point ≤ 21 then
    d.digits.take d.point.toNat ++ '.' :: d.digits.drop d.point.toNat
  else if -6 < d.point ∧ d.point ≤ 0 then
    '0' :: '.' :: (List.replicate (-d.point).toNat '0' ++ d.digits)
  else
    let e := d.point - 1
    let mark := if e < 0 then '-' else '+'
    let fraction := d.digits.drop 1
    d.digits.take 1 ++ (if fraction.isEmpty then [] else '.' :: fraction) ++
      'e' :: mark :: Nat.toDigits 10 e.natAbs

def text : Number → String
  | nan => "NaN"
  | infinite true => "-Infinity"
  | infinite false => "Infinity"
  | finite .zero => "0"
  | finite (.ofOdd n k _) =>
    let digits := (digitsOf (.ofOdd n.natAbs k)).text
    String.ofList (if n < 0 then '-' :: digits else digits)

end NoticeLedger.Number
