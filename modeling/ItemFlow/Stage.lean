import ItemFlow.Conf.Loader
import ItemFlow.Resolution
import ItemFlow.Rule
import ItemFlow.Stage.Definition

/-!
# Stages

A stage changes fields of the items that flow through it by the rules that its parameters declare.
Rules that are the same for all items are compiled when the stage starts, so that a bad one is found
before the first item. The rules of an item are resolved when the item comes; if that fails, the
policy says whether the item is dropped or the error ends the flow. An error that comes with the
flow is handed on as it is.
-/

namespace ItemFlow

/-- What is known of a stage without running it. -/
structure Stage.Info where
  /-- The name of its module. -/
  name : String
  /-- The form of the datum that it works on. -/
  coercion : Coercion
  /-- Whether its parameter is a list of rules. -/
  listize : Bool
  /-- Whether it may run once for each item of another pipe. -/
  loopable : Bool
deriving DecidableEq, Repr

/-- A stage that changes fields by rules. -/
structure Stage where
  /-- Its parameters. -/
  conf : Conf
  /-- Which items bypass it. -/
  bypass : Option (Item → Bool) := none
  /-- What becomes of an item whose rules cannot be had. -/
  policy : Policy := .abort
deriving Inhabited

namespace Stage

/-- The name of the module. -/
def moduleName : String := "regex"

/-- What is known of the stage without running it. -/
def info (_ : Stage) : Info := ⟨moduleName, .keep, true, false⟩

/-- A description of what the stage does beside its rules. -/
def describe (s : Stage) : String :=
  Text.describe "RegexOptions" [("pass_if", toString s.bypass.isSome),
    ("on_error", s.policy.describe)]

/-- The stage that a definition gives. -/
def ofDefinition (registry : Registry) (d : Definition) : Except Error Stage := do
  if d.module != moduleName then throw (.unknownModule d.module)
  let conf ← Conf.ofJson registry d.conf
  let policy ← match d.onError with
    | some text => Policy.parse text
    | none => pure .abort
  let bypass := d.passIf.map fun path (item : Item) => (item.lookup path).any Json.isTruthy
  return ⟨conf, bypass, policy⟩

/-- The template of the stage's rules. -/
def template (s : Stage) : Template :=
  .ofConf (s.conf.field? Rule.parameter)
    { module := moduleName, location := Rule.parameter, pairing := .item, bypass := s.bypass }

/-- A stage at work. -/
structure Running where
  /-- The template of its rules. -/
  template : Template
  /-- What embedded pipes are given. -/
  context : Context
  /-- What becomes of an item whose rules cannot be had. -/
  policy : Policy
  /-- The patterns that are kept. -/
  cache : PatternCache := .empty
  /-- Whether an error has ended the flow. -/
  ended : Bool := false
deriving Inhabited

/-- Starts the stage: compiles the rules that are the same for all items. -/
def start (s : Stage) (ctx : Context) : Except Error Running :=
  match (Rule.prime moduleName 0 s.template.rules).run .empty with
  | (.ok (), cache) =>
    .ok { template := s.template, context := ctx, policy := s.policy, cache := cache }
  | (.error e, _) => .error e

/-- What is to be done with an item. -/
inductive Prepared where
  /-- It goes on as it is. -/
  | bypass (item : Item)
  /-- Rules are applied to it. -/
  | substitute (rules : List Rule) (item : Item)

/-- The item after what is to be done with it. -/
def Prepared.finish : Prepared → Item
  | .bypass item => item
  | .substitute rules item => Rule.apply rules item

/-- The same with suspensions. -/
def Prepared.finishDeferred : Prepared → Deferred Item
  | .bypass item => .done item
  | .substitute rules item => Rule.applyDeferred rules item

namespace Running

/-- How a stage takes bindings. -/
def intake : Intake PatternCache (List Rule) where
  module := moduleName
  convert := Rule.convert moduleName
  coercion := .keep

/-- What is to be done with the item of a binding. -/
def prepareWith (binding : Except Error Binding) : Rule.Compile Prepared := do
  let b ← binding
  if b.bypass then return .bypass (.ofJson b.datum)
  let d ← intake.take b
  return .substitute d.pieces (.ofJson d.datum)

/-- The same for a stage at work, with the stage after it. -/
def prepare (s : Running) (binding : Except Error Binding) : Except Error Prepared × Running :=
  let (prepared, cache) := (prepareWith binding).run s.cache
  (prepared, { s with cache := cache })

/-- What an error of an item comes to: the error if it is handed on, with the stage after it. -/
def settle (s : Running) (e : Error) : Option Error × Running :=
  if e.isFatal || s.policy == .abort then (some e, { s with ended := true }) else (none, s)

/-- What a flow becomes on its way through a stage. -/
def through (s : Running) : Flow → Flow
  | .ended log => .ended (if s.ended then [] else log)
  | .next log result rest =>
    if s.ended then .ended []
    else match result with
    | .error e => .next log (.error e) (s.through rest)
    | .ok item =>
      let bound : Traced (Except Error Binding) := s.template.bindNow s.context item
      let (prepared, s) := s.prepare bound.value
      match prepared with
      | .ok p => .next (log ++ bound.log) (.ok p.finish) (s.through rest)
      | .error e =>
        match s.settle e with
        | (some e, s) => .next (log ++ bound.log) (.error e) (s.through rest)
        | (none, s) => (s.through rest).after (log ++ bound.log)

/-- What a flow that may suspend becomes on its way through a stage. -/
def throughDeferred (s : Running) : DeferredFlow → DeferredFlow
  | .ended => .ended
  | .event e rest => if s.ended then .ended else .event e (s.throughDeferred rest)
  | .suspend rest => if s.ended then .ended else .suspend (s.throughDeferred rest)
  | .next result rest =>
    if s.ended then .ended
    else match result with
    | .error e => .next (.error e) (s.throughDeferred rest)
    | .ok item =>
      let bound : Deferred (Except Error Binding) := s.template.bindDeferred s.context item
      bound.toFlow fun binding =>
        let (prepared, s) := s.prepare binding
        match prepared with
        | .ok p => p.finishDeferred.toFlow fun item => .next (.ok item) (s.throughDeferred rest)
        | .error e =>
          match s.settle e with
          | (some e, s) => .next (.error e) (s.throughDeferred rest)
          | (none, s) => s.throughDeferred rest

end Running

end Stage

end ItemFlow
