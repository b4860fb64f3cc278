import ItemFlow.Json.Parser
import ItemFlow.Json.Printer
import ItemFlow.Text.Quoted

/-!
# Values of the wrong shape

A text can be JSON and still not be what its reader wants. A `Mismatch` says in which way, and a
`Json.Fault` is either such a mismatch or a text that is no JSON at all.
-/

namespace ItemFlow.Json

/-- What is seen of a value when its shape is wrong: a scalar whole, of a compound only its kind. -/
inductive Shape where
  /-- The null value. -/
  | null
  /-- A truth value. -/
  | bool (value : Bool)
  /-- A number. -/
  | num (value : Number)
  /-- A text. -/
  | str (value : String)
  /-- A list. -/
  | sequence
  /-- An object. -/
  | map
deriving DecidableEq, Repr

/-- The shape of a value. -/
def shape : Json → Shape
  | .null => .null
  | .bool b => .bool b
  | .num n => .num n
  | .str s => .str s
  | .arr _ => .sequence
  | .obj _ => .map

/-- How a shape is named in a message. -/
def Shape.describe : Shape → String
  | .null => "null"
  | .bool b => "boolean \x60" ++ toString b ++ "\x60"
  | .num (.int n h) => "integer \x60" ++ (Number.int n h).render ++ "\x60"
  | .num (.float x) => "floating point \x60" ++ (Number.float x).render ++ "\x60"
  | .str s => "string " ++ Text.quote s
  | .sequence => "sequence"
  | .map => "map"

/-- In which way a value is not what its reader wants. -/
inductive Mismatch where
  /-- Its shape is wrong; what was expected is named. -/
  | shape (found : Shape) (expected : String)
  /-- A field that must be there is missing. -/
  | missingField (name : String)
  /-- A list has a wrong length; what was expected is named. -/
  | length (found : Nat) (expected : String)
deriving DecidableEq, Repr

/-- The message of a mismatch. -/
def Mismatch.message : Mismatch → String
  | .shape found expected => "invalid type: " ++ found.describe ++ ", expected " ++ expected
  | .missingField name => "missing field \x60" ++ name ++ "\x60"
  | .length found expected => "invalid length " ++ toString found ++ ", expected " ++ expected

/-- Why a text does not give what its reader wants. -/
inductive Fault where
  /-- The text is no JSON value. -/
  | malformed (cause : Malformed)
  /-- The value is not of the wanted shape. -/
  | mismatch (cause : Mismatch)
deriving DecidableEq, Repr

/-- The message of a fault. -/
def Fault.message : Fault → String
  | .malformed .eof => "the text ends inside a value"
  | .malformed .syntaxError => "the text is no JSON value"
  | .mismatch m => m.message

/-- The value that a text spells. -/
def read (s : String) : Except Fault Json :=
  match parse s with
  | .ok v => .ok v
  | .error e => .error (.malformed e)

/-- The fields of the object that a text spells. A value of another shape is refused when its kind
is known, which for a list is its opening bracket and for a scalar its end. -/
def readObject (s : String) : Except Fault (List (String × Json)) :=
  let refuse (found : Shape) : Except Fault (List (String × Json)) :=
    .error (.mismatch (.shape found "a map"))
  match (Parser.next? s.toList).map (·.1) with
  | some '[' => refuse .sequence
  | some '\x7b' =>
    match parse s with
    | .ok (.obj fields) => .ok fields
    | .ok v => refuse v.shape
    | .error e => .error (.malformed e)
  | _ =>
    match Parser.value Parser.nestingLimit s.toList with
    | .ok (v, _) => refuse v.shape
    | .error e => .error (.malformed e)

end ItemFlow.Json
