import ItemFlow.Error
import ItemFlow.Text.Blank

/-!
# Words, numbers and flags

Any value can be read as a word or as a flag, and some as a number. A `Coercion` names one of the
ways in which a parameter is brought into the form that its user declares.
-/

namespace ItemFlow

namespace Json

/-- The value as a word: null is empty, a text is itself, anything else its JSON text. -/
def toWord : Json → String
  | .null => ""
  | .str s => s
  | v => v.render

/-- Whether the value counts as set: null, false, zero and empty compounds do not, nor do texts that
are blank, `0` or `false`. -/
def isTruthy : Json → Bool
  | .null => false
  | .bool b => b
  | .num n => !n.isZero
  | .str s =>
    let bare := String.ofList (Text.trim s.toList)
    !(bare == "" || bare == "0" || bare == "false")
  | .arr l => !l.isEmpty
  | .obj fields => !fields.isEmpty

/-! ## Numbers in texts -/

/-- Splits a sign off a text: whether it is negative, and what follows. -/
def splitSign : List Char → Bool × List Char
  | '+' :: rest => (false, rest)
  | '-' :: rest => (true, rest)
  | l => (false, l)

/-- The value of a text that is nothing but digits. -/
def digitsValue? (l : List Char) : Option Nat :=
  if !l.isEmpty && l.all Char.isDigit then
    some (l.foldl (fun n c => 10 * n + (c.toNat - '0'.toNat)) 0)
  else none

/-- The integer of a signed 64-bit word that a text spells. -/
def readInteger? (l : List Char) : Option Number :=
  let (negative, digits) := splitSign l
  match digitsValue? digits with
  | none => none
  | some n =>
    let v : Int := if negative then -(n : Int) else n
    if v < 0x8000000000000000 then Number.ofInt? v else none

/-- The exponent that a text spells: digits with or without a sign. -/
def readExponent? (l : List Char) : Option Int :=
  let (negative, digits) := splitSign l
  (digitsValue? digits).map fun n => if negative then -(n : Int) else n

/-- The finite number that a text spells in decimal: digits with or without a point, at least one
digit, and perhaps an exponent. It is rounded to nearest. -/
def readDecimal? (l : List Char) : Option Number :=
  let (negative, rest) := splitSign l
  let whole := rest.takeWhile Char.isDigit
  let afterWhole := rest.dropWhile Char.isDigit
  let (part, afterPart) := match afterWhole with
    | '.' :: r => (r.takeWhile Char.isDigit, r.dropWhile Char.isDigit)
    | r => ([], r)
  let exponent : Option Int := match afterPart with
    | [] => some 0
    | c :: r => if c = 'e' ∨ c = 'E' then readExponent? r else none
  match digitsValue? (whole ++ part), exponent with
  | some digits, some e =>
    (Binary64.ofDecimal? negative digits (e - part.length)).map Number.float
  | _, _ => none

/-- The value as a number: numbers are themselves, truth values are zero and one, and a text may
spell an integer or a finite decimal between blanks. -/
def toNumber? : Json → Option Json
  | .num n => some (.num n)
  | .bool b => some (if b then one else zero)
  | .str s =>
    let bare := Text.trim s.toList
    match readInteger? bare with
    | some n => some (.num n)
    | none => (readDecimal? bare).map .num
  | _ => none

end Json

/-- A form into which a value can be brought. -/
inductive Coercion where
  /-- A word. -/
  | word
  /-- A number. -/
  | number
  /-- The value as it is. -/
  | keep
  /-- Null, whatever the value. -/
  | discard
deriving DecidableEq, Repr, Inhabited

namespace Coercion

/-- The name of a coercion in declarations. -/
def tag : Coercion → String
  | .word => "word"
  | .number => "num"
  | .keep => "pass"
  | .discard => "none"

/-- All coercions. -/
def all : List Coercion := [.word, .number, .keep, .discard]

/-- The coercion with a name. -/
def ofTag? (tag : String) : Option Coercion := all.find? fun c => c.tag == tag

/-- The coercion that a tag names. -/
def parse (tag : String) : Except Error Coercion :=
  match ofTag? tag with
  | some c => .ok c
  | none => .error (.conf (.coercion tag))

/-- The coercion that a literal's declared type asks for; a type that is unknown or absent asks for
none. -/
def ofTypeName (name : Option String) : Coercion :=
  match name with
  | some n =>
    if ["text", "url", "location", "datetime", "word"].contains n then .word
    else if ["number", "int", "integer", "float", "num"].contains n then .number
    else .keep
  | none => .keep

/-- The value in this form, if it has one. Only a number can be refused. -/
def coerce? (c : Coercion) (v : Json) : Option Json :=
  match c with
  | .word => some (.str v.toWord)
  | .number => v.toNumber?
  | .keep => some v
  | .discard => some .null

end Coercion

end ItemFlow
