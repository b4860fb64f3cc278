import ItemFlow.Error
import ItemFlow.Json.Mismatch

/-!
# Definitions of stages

A stage is defined by an object with the fields `module`, `conf`, `pass_if` and `on_error`, or by an
array with the same in this order. Only the module must be there. Fields of other names do not
count.
-/

namespace ItemFlow.Stage

/-- The definition of a stage. -/
structure Definition where
  /-- The kind of stage. -/
  module : String
  /-- The declaration of its parameters. -/
  conf : Json := .null
  /-- The path of a field; items in which it is set bypass the stage. -/
  passIf : Option String := none
  /-- The name of the error policy. -/
  onError : Option String := none
deriving Repr

namespace Definition

/-- What a definition is, in messages. -/
def description : String := "struct StageDef"

/-- The text that a value is. -/
def readText : Json → Except Json.Mismatch String
  | .str s => .ok s
  | v => .error (.shape v.shape "a string")

/-- The text that a value is, unless it is null. -/
def readOptional : Json → Except Json.Mismatch (Option String)
  | .null => .ok none
  | v => (readText v).map some

/-- The fields of a definition that have been read. -/
structure Partial where
  /-- The module, if it has been read. -/
  module : Option String := none
  /-- The declaration. -/
  conf : Json := .null
  /-- The path of the field for a bypass. -/
  passIf : Option String := none
  /-- The name of the error policy. -/
  onError : Option String := none

/-- Reads one field. -/
def readField (p : Partial) (key : String) (v : Json) : Except Json.Mismatch Partial :=
  if key == "module" then (readText v).map fun s => { p with module := some s }
  else if key == "conf" then .ok { p with conf := v }
  else if key == "pass_if" then (readOptional v).map fun s => { p with passIf := s }
  else if key == "on_error" then (readOptional v).map fun s => { p with onError := s }
  else .ok p

/-- Reads fields in order. -/
def readFields (p : Partial) : List (String × Json) → Except Json.Mismatch Partial
  | [] => .ok p
  | (key, v) :: rest => do readFields (← readField p key v) rest

/-- The names of the fields, in the order of the elements of an array. -/
def order : List String := ["module", "conf", "pass_if", "on_error"]

/-- The definition that a value gives. An array that is empty or too long is refused, the latter
only after its elements have been read. -/
def read : Json → Except Json.Mismatch Definition
  | .obj fields => do
    let p ← readFields {} fields
    match p.module with
    | some module => return ⟨module, p.conf, p.passIf, p.onError⟩
    | none => throw (.missingField "module")
  | .arr elements => do
    let p ← readFields {} (order.zip elements)
    match p.module with
    | none => throw (.length 0 (description ++ " with " ++ toString order.length ++ " elements"))
    | some module =>
      if order.length < elements.length then
        throw (.length elements.length "fewer elements in array")
      return ⟨module, p.conf, p.passIf, p.onError⟩
  | v => .error (.shape v.shape description)

/-- The definitions that a value gives, which must be an array of them. -/
def readAll : Json → Except Error (List Definition)
  | .arr elements =>
    match elements.mapM read with
    | .ok l => .ok l
    | .error m => .error (.json (.mismatch m))
  | v => .error (.json (.mismatch (.shape v.shape "a sequence")))

end Definition

end ItemFlow.Stage
