import NoticeLedger.Json.Basic

/-!
# NoticeLedger.Json.Printer

The compact text of a value: no space, members in order, and in texts only the quote, the backslash
and the control characters below the space are escaped.

* `Json.render` — the text of a value; a number that is not finite is written `null`.
-/

namespace NoticeLedger.Json

def escapeChar (c : Char) : List Char :=
  match c with
  | '"' => ['\\', '"']
  | '\\' => ['\\', '\\']
  | '\x08' => ['\\', 'b']
  | '\t' => ['\\', 't']
  | '\n' => ['\\', 'n']
  | '\x0c' => ['\\', 'f']
  | '\r' => ['\\', 'r']
  | c =>
    if c.toNat < 0x20 then
      ['\\', 'u', '0', '0', Nat.digitChar (c.toNat / 16), Nat.digitChar (c.toNat % 16)]
    else [c]

def quote (s : String) : String :=
  "\"" ++ String.ofList (s.toList.flatMap escapeChar) ++ "\""

/-- A number as a value. -/
def renderNumber (x : Number) : String :=
  if x.isFinite then x.text else "null"

mutual

def render : Json → String
  | null => "null"
  | bool true => "true"
  | bool false => "false"
  | number x => renderNumber x
  | text s => quote s
  | array items => "[" ++ ",".intercalate (renderItems items) ++ "]"
  | object members => "\x7b" ++ ",".intercalate (renderMembers members) ++ "\x7d"

def renderItems : List Json → List String
  | [] => []
  | item :: rest => render item :: renderItems rest

def renderMembers : List (String × Json) → List String
  | [] => []
  | (name, value) :: rest => (quote name ++ ":" ++ render value) :: renderMembers rest

end

end NoticeLedger.Json
