import ItemFlow.JsonLines
import ItemFlow.Pipeline

/-!
# Scripts

A script is a pipeline written as JSON. It runs on a text of items, one JSON value per line, and
gives such a text.
-/

namespace ItemFlow.Script

/-- What running a script gives. -/
structure Outcome where
  /-- The text of the items that came out. -/
  text : String
  /-- The number of items that went in. -/
  itemsIn : Nat
  /-- The number of items that came out. -/
  itemsOut : Nat
deriving DecidableEq, Repr

/-- The pipeline that a text defines. -/
def load (registry : Registry) (source : String) : Except Error Pipeline :=
  match Json.read source with
  | .ok v => Pipeline.ofJson "main" registry v
  | .error f => .error (.json f)

/-- What a script needs before it runs: its pipeline, and the items of its input. The pipeline is
read first. -/
def prepare (registry : Registry) (source input : String) :
    Except Error (Pipeline × List Item) := do
  let pipeline ← load registry source
  let items ← JsonLines.read input
  return (pipeline, items)

/-- The outcome of items that came out. -/
def outcome (itemsIn : Nat) (items : List Item) : Outcome :=
  ⟨JsonLines.render items, itemsIn, items.length⟩

/-- Runs a script on a text of items. -/
def run (registry : Registry) (ctx : Context) (source input : String) : Run Outcome := do
  let (pipeline, items) ← prepare registry source input
  let out ← pipeline.run ctx items
  return outcome items.length out

/-- Runs a script on a text of items, with suspensions. -/
def runDeferred (registry : Registry) (ctx : Context) (source input : String) :
    DeferredRun Outcome := do
  let (pipeline, items) ← prepare registry source input
  let out ← pipeline.runDeferred ctx items
  return outcome items.length out

end ItemFlow.Script
