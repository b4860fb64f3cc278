import ItemFlow.Flow
import ItemFlow.Text.Quoted

/-!
# Pipes

A pipe turns a batch of items into another batch, at once or with suspensions. Pipes are kept in a
registry under their names, and all of them are given the same context.
-/

namespace ItemFlow

/-- A computation that may fail. -/
abbrev Run := ExceptT Error Traced

/-- A computation that may suspend and may fail. -/
abbrev DeferredRun := ExceptT Error Deferred

/-- What every pipe is given beside its items. -/
structure Context where
  /-- Whether pipes should tell more than they have to. -/
  verbose : Bool := false
  /-- The user's inputs by name. -/
  inputs : List (String × Json) := []
deriving Inhabited, Repr

namespace Context

/-- The context with an input more; one of the same name is replaced. -/
def withInput (ctx : Context) (name : String) (value : Json) : Context :=
  { ctx with inputs := Fields.insert name value ctx.inputs }

/-- The input with a name. -/
def input? (ctx : Context) (name : String) : Option Json := Fields.get? name ctx.inputs

end Context

/-- A pipe. -/
structure Pipe where
  /-- Its name. -/
  name : String
  /-- Whether it may run once for each item of another pipe. -/
  loopable : Bool
  /-- What it makes of a batch of items. -/
  run : Context → List Item → Run (List Item)
  /-- The same with suspensions. -/
  runDeferred : Context → List Item → DeferredRun (List Item)

instance : Inhabited Pipe := ⟨⟨"", true, fun _ items => pure items, fun _ items => pure items⟩⟩

namespace Pipe

/-- The pipe that a function of context and items gives. Each call of it is an event. -/
def ofFunction (name : String) (f : Context → List Item → Except Error (List Item)) : Pipe where
  name := name
  loopable := true
  run ctx items := (⟨[.call name items], f ctx items⟩ : Traced (Except Error (List Item)))
  runDeferred ctx items := Deferred.event (.call name items) (.done (f ctx items))

end Pipe

/-- Pipes by name. -/
structure Registry where
  /-- The pipes under their names, each name once. -/
  pipes : List (String × Pipe) := []
deriving Inhabited

namespace Registry

/-- The registry with a pipe under its name; one of the same name is replaced. -/
def register (r : Registry) (pipe : Pipe) : Registry := ⟨Fields.insert pipe.name pipe r.pipes⟩

/-- The pipe with a name. -/
def get? (r : Registry) (name : String) : Option Pipe := Fields.get? name r.pipes

/-- The number of pipes. -/
def size (r : Registry) : Nat := r.pipes.length

/-- A description with the names in order. -/
def describe (r : Registry) : String :=
  let names := (r.pipes.map (·.1)).mergeSort fun a b => a ≤ b
  Text.describe "PipeRegistry" [("pipes", Text.bracket (names.map Text.quote))]

end Registry

end ItemFlow
