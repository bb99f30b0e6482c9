/-!
# NoticeLedger.Text.Percent

Percent-encoding of one segment of a path.

* `isUnreserved` — the characters that stand for themselves.
* `encodeSegment` — every other character as the octets of its UTF-8 form, `%XX` each.
-/

namespace NoticeLedger.Text

/-- The characters that need no encoding: ASCII letters and digits, and `-_.!~*'()`. -/
def isUnreserved (c : Char) : Bool :=
  c.isAlphanum || c == '-' || c == '_' || c == '.' || c == '!' || c == '~' || c == '*' ||
    c == '\'' || c == '(' || c == ')'

def hexDigit (n : Nat) : Char :=
  if n < 10 then Char.ofNat ('0'.toNat + n) else Char.ofNat ('A'.toNat + (n - 10))

/-- The UTF-8 form of a code point. -/
def utf8 (n : Nat) : List Nat :=
  if n < 0x80 then [n]
  else if n < 0x800 then [0xC0 + n / 0x40, 0x80 + n % 0x40]
  else if n < 0x10000 then [0xE0 + n / 0x1000, 0x80 + n / 0x40 % 0x40, 0x80 + n % 0x40]
  else
    [0xF0 + n / 0x40000, 0x80 + n / 0x1000 % 0x40, 0x80 + n / 0x40 % 0x40, 0x80 + n % 0x40]

def encodeOctet (n : Nat) : List Char :=
  ['%', hexDigit (n / 16), hexDigit (n % 16)]

def encodeChar (c : Char) : List Char :=
  if isUnreserved c then [c] else (utf8 c.toNat).flatMap encodeOctet

/-- A text as one segment of a path. -/
def encodeSegment (s : String) : String :=
  String.ofList (s.toList.flatMap encodeChar)

end NoticeLedger.Text
