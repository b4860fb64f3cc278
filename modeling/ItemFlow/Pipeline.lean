import ItemFlow.Stage

/-!
# Pipelines

A pipeline is a row of stages. Each result that is asked of its flow is asked of the last stage,
which asks the one before it, and so on to the source: items pass through all stages one at a time.
-/

namespace ItemFlow

/-- A row of stages with a name. -/
structure Pipeline where
  /-- The name. -/
  name : String
  /-- The stages, the first one next to the source. -/
  stages : List Stage
deriving Inhabited

namespace Pipeline

/-- The pipeline that a value defines. All definitions are read before the first stage is built. -/
def ofJson (name : String) (registry : Registry) (v : Json) : Except Error Pipeline := do
  let definitions ← Stage.Definition.readAll v
  return ⟨name, ← definitions.mapM (Stage.ofDefinition registry)⟩

/-- The number of stages. -/
def size (p : Pipeline) : Nat := p.stages.length

/-- Whether every stage may run once for each item of another pipe. -/
def loopable (p : Pipeline) : Bool := p.stages.all (·.info.loopable)

/-- Leads a flow through stages, all of which are started first, in order. -/
def executeStages (ctx : Context) : List Stage → Flow → Except Error Flow
  | [], flow => .ok flow
  | stage :: rest, flow => do
    let running ← stage.start ctx
    executeStages ctx rest (running.through flow)

/-- Leads a flow through the pipeline. -/
def execute (p : Pipeline) (ctx : Context) (flow : Flow) : Except Error Flow :=
  executeStages ctx p.stages flow

/-- Leads a flow that may suspend through stages, all of which are started first, in order. -/
def executeStagesDeferred (ctx : Context) :
    List Stage → DeferredFlow → Except Error DeferredFlow
  | [], flow => .ok flow
  | stage :: rest, flow => do
    let running ← stage.start ctx
    executeStagesDeferred ctx rest (running.throughDeferred flow)

/-- Leads a flow that may suspend through the pipeline. -/
def executeDeferred (p : Pipeline) (ctx : Context) (flow : DeferredFlow) :
    Except Error DeferredFlow :=
  executeStagesDeferred ctx p.stages flow

/-- All that becomes of items that are at hand, or the first error. -/
def run (p : Pipeline) (ctx : Context) (items : List Item) : Run (List Item) :=
  match p.execute ctx (.ofList items) with
  | .ok flow => flow.collect
  | .error e => throw e

/-- The same with suspensions. -/
def runDeferred (p : Pipeline) (ctx : Context) (items : List Item) : DeferredRun (List Item) :=
  match p.executeDeferred ctx (.ofList items) with
  | .ok flow => flow.collect
  | .error e => throw e

/-- The pipeline as a pipe. -/
def toPipe (p : Pipeline) : Pipe := ⟨p.name, p.loopable, p.run, p.runDeferred⟩

/-- A description with the name and the modules of the stages. -/
def describe (p : Pipeline) : String :=
  Text.describe "Pipeline" [("name", Text.quote p.name),
    ("stages", Text.bracket (p.stages.map fun s => Text.quote s.info.name))]

end Pipeline

end ItemFlow
