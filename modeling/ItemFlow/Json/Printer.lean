import ItemFlow.Json.Basic

/-!
# JSON text

`Json.render` writes a value without blanks: strings raw except for quotes, backslashes and control
characters, binary numbers in their shortest form.
-/

namespace ItemFlow.Json

/-- Magnitudes from `10 ^ -5` up to below `10 ^ 16` are positional; an exponent has its sign. -/
def floatLayout : Decimal.Layout where
  positionalFrom := -5
  scientificFrom := some 16
  mark := "e"
  plus := "+"

/-- The text of a number. -/
def Number.render : Number → String
  | .int n _ => toString n
  | .float x => x.render floatLayout

/-- A hexadecimal digit, in lower case. -/
def hexChar (n : Nat) : Char := Nat.digitChar n

/-- How a character is written inside a string. -/
def escapeChar (c : Char) : List Char :=
  if c == '"' then ['\\', '"']
  else if c == '\\' then ['\\', '\\']
  else if c.toNat < 0x20 then
    if c == '\x08' then ['\\', 'b']
    else if c == '\t' then ['\\', 't']
    else if c == '\n' then ['\\', 'n']
    else if c == '\x0c' then ['\\', 'f']
    else if c == '\r' then ['\\', 'r']
    else ['\\', 'u', '0', '0', hexChar (c.toNat / 16), hexChar (c.toNat % 16)]
  else [c]

/-- A string in quotes. -/
def quote (s : String) : String :=
  String.ofList ('"' :: (s.toList.flatMap escapeChar ++ ['"']))

mutual

/-- The text of a value, without blanks. -/
def render : Json → String
  | .null => "null"
  | .bool true => "true"
  | .bool false => "false"
  | .num n => n.render
  | .str s => quote s
  | .arr l => "[" ++ ",".intercalate (renderElements l) ++ "]"
  | .obj fields => "\x7b" ++ ",".intercalate (renderFields fields) ++ "\x7d"

/-- The texts of the elements of a list. -/
def renderElements : List Json → List String
  | [] => []
  | a :: rest => a.render :: renderElements rest

/-- The texts of fields, each a key and a value. -/
def renderFields : List (String × Json) → List String
  | [] => []
  | (k, v) :: rest => (quote k ++ ":" ++ v.render) :: renderFields rest

end

end ItemFlow.Json
