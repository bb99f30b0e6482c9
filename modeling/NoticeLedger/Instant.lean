/-!
# NoticeLedger.Instant

Points in time, in milliseconds.

* `Instant` — milliseconds since the start of 1970 in universal time.
* `Instant.text` — `YYYY-MM-DDThh:mm:ss.mmmZ`.
* `Instant.inFourDigits` — the instant that is left of one when its year is cut to four digits.
* `Instant.parse?` — the same form, with the month, the day, the time of day, the fraction of a
  second and the offset optional.
* `TimeBound` — one end of a span of time, which may be left open.

Dates are those of the proleptic Gregorian calendar.
-/

namespace NoticeLedger

structure Instant where
  millis : Int
  deriving DecidableEq, Inhabited

namespace Instant

instance : LE Instant := ⟨fun a b => a.millis ≤ b.millis⟩
instance (a b : Instant) : Decidable (a ≤ b) := inferInstanceAs (Decidable (a.millis ≤ b.millis))

/-- The days from the start of 1970 to a date. Years count from March, so that a leap day is the
last day of its year. -/
def daysOfDate (year : Int) (month day : Nat) : Int :=
  let y := if month ≤ 2 then year - 1 else year
  let era := y.fdiv 400
  let yearOfEra := y - era * 400
  let dayOfYear := (153 * ((month + 9) % 12) + 2) / 5 + (day - 1)
  let dayOfEra := yearOfEra * 365 + yearOfEra.fdiv 4 - yearOfEra.fdiv 100 + dayOfYear
  era * 146097 + dayOfEra - 719468

def dateOfDays (days : Int) : Int × Nat × Nat :=
  let z := days + 719468
  let era := z.fdiv 146097
  let dayOfEra := (z - era * 146097).toNat
  let yearOfEra := (dayOfEra - dayOfEra / 1460 + dayOfEra / 36524 - dayOfEra / 146096) / 365
  let dayOfYear := dayOfEra - (365 * yearOfEra + yearOfEra / 4 - yearOfEra / 100)
  let m := (5 * dayOfYear + 2) / 153
  let day := dayOfYear - (153 * m + 2) / 5 + 1
  let month := if m < 10 then m + 3 else m - 9
  let year := yearOfEra + era * 400 + (if month ≤ 2 then 1 else 0)
  (year, month, day)

def dayLength : Int := 86400000

def padded (width n : Nat) : String :=
  let digits := Nat.toDigits 10 n
  String.ofList (List.replicate (width - digits.length) '0' ++ digits)

/-- A year of four digits, or signed with six outside those. -/
def yearText (year : Int) : String :=
  if 0 ≤ year ∧ year ≤ 9999 then padded 4 year.toNat
  else (if year < 0 then "-" else "+") ++ padded 6 year.natAbs

def text (t : Instant) : String :=
  let days := t.millis.fdiv dayLength
  let rest := (t.millis - days * dayLength).toNat
  let (year, month, day) := dateOfDays days
  let date := yearText year ++ "-" ++ padded 2 month ++ "-" ++ padded 2 day
  let time := padded 2 (rest / 3600000) ++ ":" ++ padded 2 (rest / 60000 % 60) ++ ":" ++
    padded 2 (rest / 1000 % 60) ++ "." ++ padded 3 (rest % 1000)
  date ++ "T" ++ time ++ "Z"

/-- The instant in the year that the last four digits of its own year name. -/
def inFourDigits (t : Instant) : Instant :=
  let days := t.millis.fdiv dayLength
  let (year, month, day) := dateOfDays days
  if 0 ≤ year ∧ year ≤ 9999 then t
  else ⟨daysOfDate (year.natAbs % 10000) month day * dayLength + (t.millis - days * dayLength)⟩

/-- The milliseconds around the start of 1970 up to which instants reach, a hundred million days. -/
def maxMillis : Int := 100000000 * dayLength

def readDigits? : Nat → List Char → Option (Nat × List Char)
  | count, cs =>
    let ds := cs.take count
    if ds.length = count ∧ ds.all Char.isDigit then
      some (ds.foldl (fun n d => 10 * n + (d.toNat - '0'.toNat)) 0, cs.drop count)
    else none

/-- A year of four digits, or of six with a sign; no year is `-000000`. -/
def readYear? : List Char → Option (Int × List Char)
  | '+' :: rest => (readDigits? 6 rest).map fun (y, rest) => (y, rest)
  | '-' :: rest => do
    let (y, rest) ← readDigits? 6 rest
    guard (y ≠ 0)
    pure (-y, rest)
  | cs => (readDigits? 4 cs).map fun (y, rest) => (y, rest)

def readPart? (last : Nat) (cs : List Char) : Option (Nat × List Char) := do
  let (n, rest) ← readDigits? 2 cs
  guard (1 ≤ n ∧ n ≤ last)
  pure (n, rest)

/-- A date as year, month and day, and what follows; the first ones stand for parts left out. -/
def readDate? (cs : List Char) : Option (Int × Nat × Nat × List Char) := do
  let (year, rest) ← readYear? cs
  match rest with
  | '-' :: rest =>
    let (month, rest) ← readPart? 12 rest
    match rest with
    | '-' :: rest =>
      let (day, rest) ← readPart? 31 rest
      pure (year, month, day, rest)
    | rest => pure (year, month, 1, rest)
  | rest => pure (year, 1, 1, rest)

/-- The fraction of a second in milliseconds, whether it is nothing, and what follows; digits after
the third do not count. -/
def readFraction? : List Char → Option (Nat × Bool × List Char)
  | '.' :: rest =>
    match rest.span Char.isDigit with
    | ([], _) => none
    | (ds, rest) =>
      let millis := (ds ++ ['0', '0']).take 3
      let n := millis.foldl (fun n d => 10 * n + (d.toNat - '0'.toNat)) 0
      some (n, ds.all (· == '0'), rest)
  | rest => some (0, true, rest)

def readSeconds? : List Char → Option (Nat × List Char)
  | ':' :: rest => readDigits? 2 rest
  | rest => some (0, rest)

/-- The offset from universal time in minutes, at the end of a text. -/
def readOffset? : List Char → Option Int
  | [] => some 0
  | ['Z'] => some 0
  | ['z'] => some 0
  | c :: rest => do
    let sign : Int ← if c = '+' then some 1 else if c = '-' then some (-1) else none
    let (hours, rest) ← readDigits? 2 rest
    let rest := if rest.head? = some ':' then rest.drop 1 else rest
    let (minutes, rest) ← readDigits? 2 rest
    guard (rest.isEmpty ∧ hours < 24 ∧ minutes < 60)
    pure (sign * (hours * 60 + minutes))

/-- The time of day after its mark, in milliseconds of universal time. The day may end with
`24:00`. -/
def readClock? (cs : List Char) : Option Int := do
  let (hours, rest) ← readDigits? 2 cs
  let ':' :: rest := rest | none
  let (minutes, rest) ← readDigits? 2 rest
  let (seconds, rest) ← readSeconds? rest
  let (millis, isWhole, rest) ← readFraction? rest
  guard (minutes < 60 ∧ seconds < 60)
  guard (hours < 24 ∨ (hours = 24 ∧ minutes = 0 ∧ seconds = 0 ∧ isWhole))
  let offset ← readOffset? rest
  pure (hours * 3600000 + minutes * 60000 + seconds * 1000 + millis - offset * 60000)

def readTime? : List Char → Option Int
  | [] => some 0
  | 'T' :: rest => readClock? rest
  | 't' :: rest => readClock? rest
  | _ => none

/-- The instant that a text names. A day after the last one of its month is one of the next. -/
def parse? (s : String) : Option Instant := do
  let (year, month, day, rest) ← readDate? s.toList
  let time ← readTime? rest
  let millis := daysOfDate year month day * dayLength + time
  guard (-maxMillis ≤ millis ∧ millis ≤ maxMillis)
  pure ⟨millis⟩

end Instant

inductive TimeBound where
  | unlimited
  /-- The span ends at an instant, which belongs to it. -/
  | instant (t : Instant)
  /-- The end was given, and names no instant. -/
  | unknown
  deriving DecidableEq, Inhabited

namespace TimeBound

def named (s : String) : TimeBound :=
  match Instant.parse? s with
  | some t => .instant t
  | none => .unknown

/-- Whether an instant comes after the start of a span; nothing comes after an unknown one. -/
def isBefore (start : TimeBound) (t : Instant) : Bool :=
  match start with
  | .unlimited => true
  | .instant start => start ≤ t
  | .unknown => false

/-- Whether an instant comes before the end of a span; nothing comes before an unknown one. -/
def isAfter (stop : TimeBound) (t : Instant) : Bool :=
  match stop with
  | .unlimited => true
  | .instant stop => t ≤ stop
  | .unknown => false

end TimeBound

end NoticeLedger
