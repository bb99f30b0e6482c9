import NoticeLedger.Json.Basic
import NoticeLedger.Number.Reader

/-!
# NoticeLedger.Json.Reader

Values read from text, by the strict grammar of the format.

* `Json.parse?` — the value that a whole text is, with space around it allowed.

Each step takes at least one character, so a reader that is given as much fuel as there are
characters always has enough.
-/

namespace NoticeLedger.Json

/-- The characters that may stand between the parts of a value. -/
def isSpace (c : Char) : Bool :=
  c == ' ' || c == '\t' || c == '\n' || c == '\r'

def skipSpace (cs : List Char) : List Char :=
  cs.dropWhile isSpace

/-- The four hexadecimal digits of an escape, and what follows. -/
def readUnit? : List Char → Option (Nat × List Char)
  | a :: b :: c :: d :: rest => do
    let ds ← [a, b, c, d].mapM (Number.digitIn? 16)
    pure (Number.ofDigits 16 ds, rest)
  | _ => none

/-- The character of one or two code units: a high and a low one make a character together. -/
def readEscape? (cs : List Char) : Option (Char × List Char) := do
  let (unit, rest) ← readUnit? cs
  if 0xD800 ≤ unit ∧ unit < 0xDC00 then
    match rest with
    | '\\' :: 'u' :: more =>
      match readUnit? more with
      | some (low, more) =>
        if 0xDC00 ≤ low ∧ low < 0xE000 then
          pure (Char.ofNat (0x10000 + (unit - 0xD800) * 0x400 + (low - 0xDC00)), more)
        else pure ('\uFFFD', rest)
      | none => none
    | _ => pure ('\uFFFD', rest)
  else if 0xDC00 ≤ unit ∧ unit < 0xE000 then pure ('\uFFFD', rest)
  else pure (Char.ofNat unit, rest)

/-- The characters up to the closing quote, after those read so far, and what follows it. -/
def readText? : Nat → List Char → List Char → Option (String × List Char)
  | 0, _, _ => none
  | fuel + 1, seen, cs =>
    match cs with
    | [] => none
    | '"' :: rest => some (String.ofList seen.reverse, rest)
    | '\\' :: e :: rest =>
      match e with
      | '"' => readText? fuel ('"' :: seen) rest
      | '\\' => readText? fuel ('\\' :: seen) rest
      | '/' => readText? fuel ('/' :: seen) rest
      | 'b' => readText? fuel ('\x08' :: seen) rest
      | 'f' => readText? fuel ('\x0c' :: seen) rest
      | 'n' => readText? fuel ('\n' :: seen) rest
      | 'r' => readText? fuel ('\r' :: seen) rest
      | 't' => readText? fuel ('\t' :: seen) rest
      | 'u' =>
        match readEscape? rest with
        | some (c, rest) => readText? fuel (c :: seen) rest
        | none => none
      | _ => none
    | c :: rest => if c.toNat < 0x20 then none else readText? fuel (c :: seen) rest

/-- The number at the front of a text: no leading zero, and a digit on each side of a point. -/
def readNumber? (cs : List Char) : Option (Number × List Char) := do
  let (negative, rest) := match cs with
    | '-' :: r => (true, r)
    | r => (false, r)
  let (whole, rest) := Number.spanDigits rest
  guard (whole = ['0'] ∨ whole.head?.any (· ≠ '0'))
  let (fraction, rest) ← match rest with
    | '.' :: r =>
      match Number.spanDigits r with
      | ([], _) => none
      | (ds, r) => some (ds, r)
    | r => some ([], r)
  let (exponent, rest) ← match rest with
    | c :: r => if c = 'e' ∨ c = 'E' then Number.readExponent? rest else some (0, c :: r)
    | [] => some (0, [])
  pure (.ofScientific negative (Number.decimal (whole ++ fraction)) (exponent - fraction.length),
    rest)

mutual

def readValue? : Nat → List Char → Option (Json × List Char)
  | 0, _ => none
  | fuel + 1, cs =>
    match skipSpace cs with
    | 'n' :: 'u' :: 'l' :: 'l' :: rest => some (.null, rest)
    | 't' :: 'r' :: 'u' :: 'e' :: rest => some (.bool true, rest)
    | 'f' :: 'a' :: 'l' :: 's' :: 'e' :: rest => some (.bool false, rest)
    | '"' :: rest => (readText? (rest.length + 1) [] rest).map fun (s, rest) => (.text s, rest)
    | '[' :: rest =>
      match skipSpace rest with
      | ']' :: rest => some (.array [], rest)
      | rest => (readItems? fuel rest).map fun (items, rest) => (.array items, rest)
    | '\x7b' :: rest =>
      match skipSpace rest with
      | '\x7d' :: rest => some (.object [], rest)
      | rest =>
        (readMembers? fuel rest).map fun (pairs, rest) => (.object (Members.ordered pairs), rest)
    | rest => (readNumber? rest).map fun (x, rest) => (.number x, rest)

def readItems? : Nat → List Char → Option (List Json × List Char)
  | 0, _ => none
  | fuel + 1, cs => do
    let (item, rest) ← readValue? fuel cs
    match skipSpace rest with
    | ',' :: rest =>
      let (items, rest) ← readItems? fuel rest
      pure (item :: items, rest)
    | ']' :: rest => pure ([item], rest)
    | _ => none

def readMembers? : Nat → List Char → Option (List (String × Json) × List Char)
  | 0, _ => none
  | fuel + 1, cs => do
    let '"' :: rest := skipSpace cs | none
    let (name, rest) ← readText? (rest.length + 1) [] rest
    let ':' :: rest := skipSpace rest | none
    let (value, rest) ← readValue? fuel rest
    match skipSpace rest with
    | ',' :: rest =>
      let (pairs, rest) ← readMembers? fuel rest
      pure ((name, value) :: pairs, rest)
    | '\x7d' :: rest => pure ([(name, value)], rest)
    | _ => none

end

def parse? (s : String) : Option Json :=
  let cs := s.toList
  match readValue? (2 * cs.length + 2) cs with
  | some (value, rest) => if (skipSpace rest).isEmpty then some value else none
  | none => none

end NoticeLedger.Json
