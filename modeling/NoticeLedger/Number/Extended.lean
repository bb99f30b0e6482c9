import NoticeLedger.Number.Basic

/-!
# NoticeLedger.Number.Extended

Decimals read and written with a significand of 64 bits.

* `Extended` — a value with such a significand; `Extended.mul` — the product, rounded once.
* `Extended.ofDecimal` — the number that a whole number times a power of ten is read as. It is
  scaled by steps of a hundred, ten and one decades, and each step is rounded, so the last of the
  53 bits may be another than the nearest.
* `Extended.read?` — the same from a text.
* `Extended.leading` — the first digits of a number, scaled by the same steps.
-/

namespace NoticeLedger

/-- The value `significand * 2 ^ exponent`. -/
structure Extended where
  significand : Nat
  exponent : Int

namespace Extended

/-- The nearest value with 64 bits to `num / den`; of two, the even one. -/
def nearest (num den : Nat) : Extended :=
  let place := Number.binaryOrder num den - 63
  { significand :=
      Number.roundHalfEven (num * Nat.pow 2 (-place).toNat) (den * Nat.pow 2 place.toNat)
    exponent := place }

def mul (x y : Extended) : Extended :=
  let p := nearest (x.significand * y.significand) 1
  { p with exponent := p.exponent + x.exponent + y.exponent }

def powerOfTen (e : Int) : Extended :=
  nearest (Nat.pow 10 e.toNat) (Nat.pow 10 (-e).toNat)

def toRat (x : Extended) : Rat :=
  mkRat (x.significand * Nat.pow 2 x.exponent.toNat : Nat) (Nat.pow 2 (-x.exponent).toNat)

def times (factor : Extended) : Nat → Extended → Extended
  | 0, x => x
  | n + 1, x => times factor n (x.mul factor)

/-- A value times a power of ten: first by hundreds of decades, then by tens, then by ones. -/
def scale (x : Extended) (e : Int) : Extended :=
  let step (decades : Nat) : Extended := powerOfTen (if e < 0 then -decades else decades)
  let n := e.natAbs
  times (step 1) (n % 10) (times (step 10) (n % 100 / 10) (times (step 100) (n / 100) x))

def greatest : Rat := ((Nat.pow 2 53 - 1) * Nat.pow 2 971 : Nat)

def toNumber (x : Extended) : Number :=
  let q := x.toRat
  if greatest < q then .infinite false else Number.round q

def maxSignificand : Nat := Nat.pow 2 64 - 1

/-- Decades taken into a whole number as long as it stays short, and those that are left. `narrow`
takes them out as long as it ends with a zero. -/
def widen : Nat → Nat → Nat × Nat
  | s, 0 => (s, 0)
  | s, e + 1 => if s < maxSignificand / 10 then widen (10 * s) e else (s, e + 1)

def narrow : Nat → Nat → Nat × Nat
  | s, 0 => (s, 0)
  | s, e + 1 => if s % 10 = 0 then narrow (s / 10) e else (s, e + 1)

def ofDecimal (s : Nat) (e : Int) : Number :=
  if s = 0 then 0
  else
    let (s, e) : Nat × Int :=
      if e < 0 then let (s, n) := narrow s e.natAbs; (s, -n)
      else let (s, n) := widen s e.natAbs; (s, n)
    if e = 0 then Number.ofInt s else ((nearest s 1).scale e).toNumber

def digitValue (c : Char) : Nat := c.toNat - '0'.toNat

/-- A whole number can take one more digit while it is below this. -/
def digitLimit : Nat := (maxSignificand - 9) / 10

/-- A whole number from digits as far as they fit, and the number of those left out. -/
def wholeDigits : List Char → Nat → Nat × Nat
  | [], s => (s, 0)
  | c :: cs, s =>
    let s := 10 * s + digitValue c
    if digitLimit ≤ s then (s, cs.length) else wholeDigits cs s

def fractionDigits : List Char → Nat → Nat × Nat
  | [], s => (s, 0)
  | c :: cs, s =>
    if s < digitLimit then
      let (s, n) := fractionDigits cs (10 * s + digitValue c)
      (s, n + 1)
    else (s, 0)

def readSign : List Char → Bool × List Char
  | '-' :: cs => (true, cs)
  | '+' :: cs => (false, cs)
  | cs => (false, cs)

def readDecades? (cs : List Char) : Option (Int × List Char) :=
  match cs with
  | [] => some (0, [])
  | c :: rest =>
    if c = 'e' ∨ c = 'E' then
      let (negative, rest) := readSign rest
      let (ds, rest) := rest.span Char.isDigit
      let n : Int := min 10000 (ds.foldl (fun n d => 10 * n + digitValue d) 0)
      if ds.isEmpty then none else some (if negative then -n else n, rest)
    else some (0, cs)

def isSpace (c : Char) : Bool :=
  c = ' ' || (9 ≤ c.toNat && c.toNat ≤ 13)

def read? (text : String) : Option Number :=
  let (negative, cs) := readSign (text.toList.dropWhile isSpace)
  let (whole, cs) := cs.span Char.isDigit
  let (fraction, cs) := match cs with
    | '.' :: cs => cs.span Char.isDigit
    | cs => ([], cs)
  match readDecades? cs with
  | some (decades, rest) =>
    if (whole ++ fraction).isEmpty || !rest.all isSpace then none
    else
      let (s, left) := wholeDigits whole 0
      let (s, places) := fractionDigits fraction s
      let x := ofDecimal s (decades + left - places)
      some (if negative then -x else x)
  | none => none

/-- A value multiplied as long as a condition holds, but not more often than a limit; how often it
was. -/
def timesWhile (again : Rat → Bool) (factor : Extended) : Nat → Extended → Extended × Nat
  | 0, x => (x, 0)
  | limit + 1, x =>
    if again x.toRat then
      let (x, n) := timesWhile again factor limit (x.mul factor)
      (x, n + 1)
    else (x, 0)

/-- The scaling of a value by hundreds, tens and ones of decades, each as long as a condition on the
power of ten to be reached holds; the decades it was scaled by. The limit is above what any number
needs. -/
def approach (again : Rat → Rat → Bool) (sign : Int) (steps : List (Nat × Int)) (x : Extended) :
    Extended × Int :=
  steps.foldl
    (fun (x, e) (decades, bound) =>
      let factor := powerOfTen (sign * decades)
      let (x, n) := timesWhile (again (powerOfTen bound).toRat) factor 20 x
      (x, e + sign * decades * n))
    (x, 0)

/-- The first eighteen or nineteen digits of a value as a whole number `v`, and the `e` for which
the value is about `v * 10 ^ e`. -/
def leading (x : Extended) : Nat × Int :=
  let (y, e) :=
    if (powerOfTen 19).toRat ≤ x.toRat then
      approach (fun b q => b ≤ q) (-1) [(100, 119), (10, 29), (1, 19)] x
    else approach (fun b q => q < b) 1 [(100, -97), (10, 7), (1, 17)] x
  (y.toRat.floor.toNat, -e)

end Extended

end NoticeLedger
