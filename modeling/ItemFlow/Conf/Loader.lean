import ItemFlow.Conf

/-!
# Reading parameters

The written form of a parameter is JSON. An object with a `terminal` embeds the pipe of that name,
else one with a `subkey` is a reference, else one with a `value` is a literal, and any other object
is a record. An array is a list, and a scalar is a literal that stays as it is.
-/

namespace ItemFlow.Conf

/-- The reduction that a name asks for; without a name it is the first item that counts. -/
def loadReduction : Option String → Except Error Reduction
  | none => .ok .first
  | some name =>
    if name == "first" then .ok .first
    else if name == "all" then .ok .all
    else .error (.conf (.reduction name))

/-- The text of a field, if there is one. -/
def textField? (key : String) (fields : List (String × Json)) : Option String :=
  (Fields.get? key fields).bind Json.text?

/-- An embedded pipe, by its name and the other fields of its object. -/
def loadTerminal (registry : Registry) (fields : List (String × Json)) (name : Json) :
    Except Error SubPipe :=
  match name with
  | .str name =>
    match registry.get? name with
    | none => .error (.resolution "conf" name (.noSuchPipe name))
    | some pipe => do
      let s ← SubPipe.ofPipe pipe
      let reduction ← loadReduction (textField? "reduce" fields)
      return { s with path := textField? "path" fields, reduction := reduction }
  | v => .error (.conf (.terminal v.render))

/-- A reference, by its path and the other fields of its object. -/
def loadReference (fields : List (String × Json)) (path : Json) : Except Error Conf :=
  match path with
  | .str path => .ok (.reference path ((Fields.get? "default" fields).getD SubPipe.missing))
  | v => .error (.conf (.subkey v.render))

mutual

/-- The parameter that a value declares. -/
def ofJson (registry : Registry) : Json → Except Error Conf
  | .obj fields =>
    match Fields.get? "terminal" fields with
    | some name => (loadTerminal registry fields name).map .sub
    | none =>
      match Fields.get? "subkey" fields with
      | some path => loadReference fields path
      | none =>
        match Fields.get? "value" fields with
        | some v => .ok (.literal v (.ofTypeName (textField? "type" fields)))
        | none => do return .record (← ofFields registry fields)
  | .arr elements => do return .list (← ofElements registry elements)
  | v => .ok (.value v)

/-- The parameters that the fields of an object declare. -/
def ofFields (registry : Registry) :
    List (String × Json) → Except Error (List (String × Conf))
  | [] => .ok []
  | (key, v) :: rest => do
    let c ← ofJson registry v
    let cs ← ofFields registry rest
    return (key, c) :: cs

/-- The parameters that the elements of an array declare. -/
def ofElements (registry : Registry) : List Json → Except Error (List Conf)
  | [] => .ok []
  | v :: rest => do
    let c ← ofJson registry v
    let cs ← ofElements registry rest
    return c :: cs

end

end ItemFlow.Conf
