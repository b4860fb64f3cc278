import ItemFlow.Unicode.Latest

/-!
# Quoted text

The form in which names and other texts stand inside descriptions: between double quotes, with
quotes and backslashes escaped, and with every character that has no visible shape of its own
spelled by its code point.
-/

namespace ItemFlow.Text

/-- The hexadecimal digits of a number, lower case and without padding. -/
def hex (n : Nat) : String := String.ofList (Nat.toDigits 16 n)

/-- The characters without a visible shape of their own: blanks but the common one, controls and
formats, code points that stand for no character or a private one, characters that continue the one
before them, and those that may be left out when a text is shown. The two half-width sound marks
continue a character but have a shape. -/
def shapeless : CharSet :=
  let soundMarks := CharSet.ofTable "ff9e-ff9f"
  let invisible := (Category.ofMany ["Cc", "Cf", "Co", "Zl", "Zp", "Zs"]).diff (.singleton ' ')
  ((invisible.union Latest.unassigned).union (Latest.graphemeExtend.diff soundMarks)).union
    (Property.ofName "Default_Ignorable_Code_Point")

/-- How a character is written between quotes. -/
def quoteChar (c : Char) : String :=
  if c == '\x00' then "\\0"
  else if c == '\t' then "\\t"
  else if c == '\r' then "\\r"
  else if c == '\n' then "\\n"
  else if c == '\\' then "\\\\"
  else if c == '"' then "\\\""
  else if 0x20 ≤ c.toNat ∧ c.toNat < 0x7f then String.singleton c
  else if shapeless.contains c then "\\u\x7b" ++ hex c.toNat ++ "\x7d"
  else String.singleton c

/-- A text in quotes. -/
def quote (s : String) : String :=
  "\"" ++ String.join (s.toList.map quoteChar) ++ "\""

/-- A text that may be absent. -/
def quoteOption : Option String → String
  | none => "None"
  | some s => "Some(" ++ quote s ++ ")"

/-- A list of descriptions between brackets. -/
def bracket (l : List String) : String := "[" ++ ", ".intercalate l ++ "]"

/-- A description of a structure: its name and its fields in order. -/
def describe (name : String) (fields : List (String × String)) : String :=
  name ++ " \x7b " ++ ", ".intercalate (fields.map fun f => f.1 ++ ": " ++ f.2) ++ " \x7d"

end ItemFlow.Text
