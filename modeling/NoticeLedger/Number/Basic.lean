/-!
# NoticeLedger.Number.Basic

Binary floating-point numbers with 53 significant bits, as exact values.

* `Number` — not a number, an infinity, or an exact dyadic value.
* `Number.round` — the nearest representable number to a rational, ties to the even one.
* `Number.toInt?` — the whole numbers among them; up to `Number.maxSafe` no rounding touches one.
* the order, and `+`, `-`, `*`, `/`, `ceil`, each the exact result rounded once.

A zero has no sign here: no answer depends on it.
-/

namespace NoticeLedger

inductive Number where
  | nan
  | infinite (negative : Bool)
  | finite (value : Dyadic)
  deriving DecidableEq

namespace Number

/-- The nearest whole number to `num / den`; of two, the even one. -/
def roundHalfEven (num den : Nat) : Nat :=
  let q := num / den
  let r := num % den
  if 2 * r < den then q
  else if den < 2 * r then q + 1
  else q + q % 2

/-- The exponent of two that `num / den` lies at or above, and below the next one. -/
def binaryOrder (num den : Nat) : Int :=
  let e : Int := num.log2 - den.log2
  if num * Nat.pow 2 (-e).toNat < den * Nat.pow 2 e.toNat then e - 1 else e

/-- The exponent of two of the last place that a value of the given order has. -/
def lastPlace (order : Int) : Int :=
  max (order - 52) (-1074)

/-- The nearest representable number to a rational; of two, the one with an even last place. -/
def round (q : Rat) : Number :=
  if q.num = 0 then finite 0
  else
    let num := q.num.natAbs
    let place := lastPlace (binaryOrder num q.den)
    let m := roundHalfEven (num * Nat.pow 2 (-place).toNat) (q.den * Nat.pow 2 place.toNat)
    if 971 < place ∨ (place = 971 ∧ Nat.pow 2 53 ≤ m) then infinite (q.num < 0)
    else finite (Dyadic.ofIntWithPrec (q.num.sign * m) (-place))

def ofInt (i : Int) : Number :=
  round i

instance (n : Nat) : OfNat Number n := ⟨ofInt n⟩

def toInt? : Number → Option Int
  | finite .zero => some 0
  | finite (.ofOdd n k _) => if k ≤ 0 then some (n * Nat.pow 2 (-k).toNat) else none
  | _ => none

/-- The greatest magnitude up to which every whole number is representable. -/
def maxSafe : Nat := Nat.pow 2 53 - 1

def isFinite : Number → Bool
  | finite _ => true
  | _ => false

/-- The order of numbers; `nan` is below and above nothing. -/
def lt : Number → Number → Bool
  | nan, _ => false
  | _, nan => false
  | infinite a, infinite b => a && !b
  | infinite a, finite _ => a
  | finite _, infinite b => !b
  | finite x, finite y => x.toRat < y.toRat

def le (x y : Number) : Bool :=
  lt x y || (x == y && x != nan)

instance : LT Number := ⟨fun x y => lt x y = true⟩
instance : LE Number := ⟨fun x y => le x y = true⟩
instance (x y : Number) : Decidable (x < y) := inferInstanceAs (Decidable (_ = true))
instance (x y : Number) : Decidable (x ≤ y) := inferInstanceAs (Decidable (_ = true))

def neg : Number → Number
  | nan => nan
  | infinite a => infinite !a
  | finite x => finite (-x)

instance : Neg Number := ⟨neg⟩

def add : Number → Number → Number
  | nan, _ => nan
  | _, nan => nan
  | infinite a, infinite b => if a = b then infinite a else nan
  | infinite a, finite _ => infinite a
  | finite _, infinite b => infinite b
  | finite x, finite y => round (x.toRat + y.toRat)

instance : Add Number := ⟨add⟩
instance : Sub Number := ⟨fun x y => x + -y⟩

def isNegative (x : Number) : Bool :=
  x < 0

/-- The rounded product; nothing times an infinity is not a number. -/
def mul : Number → Number → Number
  | nan, _ => nan
  | _, nan => nan
  | finite x, finite y => round (x.toRat * y.toRat)
  | x, y => if x = 0 ∨ y = 0 then nan else infinite (x.isNegative != y.isNegative)

instance : Mul Number := ⟨mul⟩

def div : Number → Number → Number
  | nan, _ => nan
  | _, nan => nan
  | infinite _, infinite _ => nan
  | infinite a, finite y => infinite (a != (finite y).isNegative)
  | finite _, infinite _ => finite 0
  | finite x, finite y =>
    if y = 0 then (if x = 0 then nan else infinite (finite x).isNegative)
    else round (x.toRat / y.toRat)

instance : Div Number := ⟨div⟩

/-- The least whole number that is not below. -/
def ceil : Number → Number
  | finite x => ofInt x.toRat.ceil
  | x => x

end Number

end NoticeLedger
