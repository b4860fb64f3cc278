import ItemFlow.Coercion
import ItemFlow.Pipe

/-!
# Parameters

A `Conf` declares a parameter of a stage: a literal, a reference into the current item, an embedded
pipe that runs on the item, or records and lists of these. `Conf.subPipes` lists the embedded pipes
from left to right, and `Conf.resolveWith` makes a value of the parameter for one item, taking the
outputs of the embedded pipes in that order.
-/

namespace ItemFlow

/-! ## Embedded pipes -/

/-- How the output of an embedded pipe becomes one value. -/
inductive Reduction where
  /-- The first item counts. -/
  | first
  /-- All items count. -/
  | all
deriving DecidableEq, Repr, Inhabited

/-- How the reduction is described. -/
def Reduction.describe : Reduction → String
  | .first => "First"
  | .all => "All"

/-- A pipe embedded in a parameter. It runs once for each item, so it must be loopable. -/
structure SubPipe where
  /-- The pipe. -/
  pipe : Pipe
  /-- The pipe may run once for each item. -/
  loopable : pipe.loopable = true
  /-- The path that leads from an item of the output to its value; without one the item is it. -/
  path : Option String := none
  /-- How the output becomes one value. -/
  reduction : Reduction := .first

namespace SubPipe

/-- Embeds a pipe, if it is loopable. -/
def ofPipe (pipe : Pipe) : Except Error SubPipe :=
  if h : pipe.loopable = true then .ok { pipe := pipe, loopable := h }
  else .error (.notLoopable pipe.name)

/-- The empty text, which stands for a value that is missing. -/
def missing : Json := .str ""

/-- The value of one item of the output. -/
def project (s : SubPipe) (item : Item) : Json :=
  match s.path with
  | some path => item.getD path missing
  | none => item.toJson

/-- The value of an output. -/
def reduce (s : SubPipe) (output : List Item) : Json :=
  match s.reduction with
  | .first => (output.head?.map s.project).getD missing
  | .all => .arr (output.map s.project)

/-- A description with name, path and reduction. -/
def describe (s : SubPipe) : String :=
  Text.describe "SubPipe" [("pipe", Text.quote s.pipe.name), ("path", Text.quoteOption s.path),
    ("reduce", s.reduction.describe)]

end SubPipe

/-! ## Parameters -/

/-- The declaration of a parameter. -/
inductive Conf where
  /-- A fixed value, brought into a form. -/
  | literal (value : Json) (coercion : Coercion)
  /-- The value at a path of the current item, or a default. -/
  | reference (path : String) (default : Json)
  /-- The reduced output of an embedded pipe on the current item. -/
  | sub (pipe : SubPipe)
  /-- Named parameters; a name may repeat. -/
  | record (fields : List (String × Conf))
  /-- Parameters in a row. -/
  | list (elements : List Conf)
deriving Inhabited

namespace Conf

/-- A literal that stays as it is. -/
def value (v : Json) : Conf := .literal v .keep

/-- A literal text. -/
def text (s : String) : Conf := .literal (.str s) .word

/-- The first field of a record with a name. -/
def field? (key : String) : Conf → Option Conf
  | .record fields => fields.lookup key
  | _ => none

/-- The elements of a list; anything else is the one element of its list. -/
def listize : Conf → List Conf
  | .list elements => elements
  | c => [c]

/-- The value of a literal, before it is brought into its form. -/
def literal? : Conf → Option Json
  | .literal v _ => some v
  | _ => none

mutual

/-- Whether there are only literals, so that every item gives the same value. -/
def isStatic : Conf → Bool
  | .literal .. => true
  | .reference .. | .sub _ => false
  | .record fields => fieldsStatic fields
  | .list elements => elementsStatic elements

/-- Whether the fields of a record are all static. -/
def fieldsStatic : List (String × Conf) → Bool
  | [] => true
  | (_, c) :: rest => c.isStatic && fieldsStatic rest

/-- Whether the elements of a list are all static. -/
def elementsStatic : List Conf → Bool
  | [] => true
  | c :: rest => c.isStatic && elementsStatic rest

end

mutual

/-- The embedded pipes, from left to right. -/
def subPipes : Conf → List SubPipe
  | .literal .. | .reference .. => []
  | .sub s => [s]
  | .record fields => fieldsSubPipes fields
  | .list elements => elementsSubPipes elements

/-- The embedded pipes of the fields of a record. -/
def fieldsSubPipes : List (String × Conf) → List SubPipe
  | [] => []
  | (_, c) :: rest => c.subPipes ++ fieldsSubPipes rest

/-- The embedded pipes of the elements of a list. -/
def elementsSubPipes : List Conf → List SubPipe
  | [] => []
  | c :: rest => c.subPipes ++ elementsSubPipes rest

end

/-! ## Values -/

/-- A computation that takes outputs of embedded pipes from a supply, and may fail. What it took
before it failed stays taken. -/
abbrev Resolve := ExceptT Error (StateM (List (List Item)))

/-- Takes the next output from the supply. -/
def takeOutput : Resolve (Option (List Item)) := do
  match ← get with
  | [] => return none
  | output :: rest =>
    set rest
    return some output

/-- The location of an element of a list. -/
def indexLocation (location : String) (i : Nat) : String :=
  location ++ "[" ++ toString i ++ "]"

/-- The location of a field of a record. -/
def keyLocation (location key : String) : String :=
  if location.isEmpty then key else location ++ "." ++ key

mutual

/-- The value of a parameter for an item. The location names the parameter in errors. -/
def resolveWith (item : Item) (module location : String) : Conf → Resolve Json
  | .literal v coercion =>
    match coercion.coerce? v with
    | some w => pure w
    | none => throw (.coercion module location coercion.tag v.render)
  | .reference path default => pure (item.getD path default)
  | .sub s => do
    match ← takeOutput with
    | some output => pure (s.reduce output)
    | none => throw (.resolution module location (.notEvaluated s.pipe.name))
  | .record fields => do
    let values ← resolveFields item module location fields
    return .obj (Fields.insertAll [] values)
  | .list elements => do
    let values ← resolveElements item module location 0 elements
    return .arr values

/-- The values of the fields of a record. -/
def resolveFields (item : Item) (module location : String) :
    List (String × Conf) → Resolve (List (String × Json))
  | [] => pure []
  | (key, c) :: rest => do
    let v ← c.resolveWith item module (keyLocation location key)
    let vs ← resolveFields item module location rest
    return (key, v) :: vs

/-- The values of the elements of a list, the first of which has index `i`. -/
def resolveElements (item : Item) (module location : String) (i : Nat) :
    List Conf → Resolve (List Json)
  | [] => pure []
  | c :: rest => do
    let v ← c.resolveWith item module (indexLocation location i)
    let vs ← resolveElements item module location (i + 1) rest
    return v :: vs

end

/-- Runs the embedded pipes of a parameter on an item, one after another. -/
def runSubPipes (ctx : Context) (item : Item) (subs : List SubPipe) : Run (List (List Item)) :=
  subs.mapM fun s => s.pipe.run ctx [item]

/-- The value of a parameter for an item, after its embedded pipes have run. -/
def resolve (ctx : Context) (item : Item) (module : String) (c : Conf) : Run Json := do
  let outputs ← runSubPipes ctx item c.subPipes
  ((c.resolveWith item module "").run outputs).1

end Conf

end ItemFlow
