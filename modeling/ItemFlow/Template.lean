import ItemFlow.Conf

/-!
# Templates

A stage declares its parameter once, and every item gives it a value. A `Template` holds the
declaration in the form in which the stage uses it, as a list of rules or as one record, and pairs
the value for an item with a datum of the item. An item can also bypass the stage; then the
declaration is not looked at.
-/

namespace ItemFlow

/-- The value of a declaration for one item. -/
inductive Pieces where
  /-- A value for each rule. -/
  | list (values : List Json)
  /-- One value. -/
  | single (value : Json)
deriving Repr, Inhabited

namespace Pieces

/-- The values as a list. -/
def toList : Pieces → List Json
  | .list values => values
  | .single value => [value]

/-- The number of values. -/
def size : Pieces → Nat
  | .list values => values.length
  | .single _ => 1

end Pieces

/-- What is paired with the value of a declaration. -/
inductive Pairing where
  /-- The value at a path of the item, or the item if there is no path. -/
  | value
  /-- The item. -/
  | item
  /-- Nothing. -/
  | nothing
deriving DecidableEq, Repr, Inhabited

/-- How the pairing is described. -/
def Pairing.describe : Pairing → String
  | .value => "With"
  | .item => "Pass"
  | .nothing => "None"

/-- What a stage gets for one item. -/
structure Binding where
  /-- The value of the declaration. -/
  pieces : Pieces
  /-- What is paired with it. -/
  datum : Json
  /-- Whether the item bypasses the stage. -/
  bypass : Bool
deriving Repr, Inhabited

/-- How a stage uses its declaration. -/
structure Template.Options where
  /-- The name of the stage in errors. -/
  module : String := "pipe"
  /-- The name of the parameter in errors. -/
  location : String := "conf"
  /-- Whether the declaration is a list of rules. -/
  listize : Bool := true
  /-- The name under which each rule's value is put into a record of its own. -/
  wrapKey : Option String := none
  /-- What is paired with the value. -/
  pairing : Pairing := .value
  /-- The path of `Pairing.value`. -/
  datumPath : Option String := none
  /-- Which items bypass the stage. -/
  bypass : Option (Item → Bool) := none
deriving Inhabited

/-- The declarations of a template. -/
inductive Template.Definitions where
  /-- A declaration for each rule. -/
  | list (rules : List Conf)
  /-- One declaration. -/
  | single (conf : Conf)
deriving Inhabited

/-- A declaration in the form in which a stage uses it. -/
structure Template where
  /-- The declarations. -/
  definitions : Template.Definitions
  /-- How the stage uses them. -/
  options : Template.Options
deriving Inhabited

namespace Template

/-- The template of a declaration. Without one there are no rules, or an empty record. -/
def ofConf (conf : Option Conf) (options : Options) : Template :=
  if options.listize then
    let rules := (conf.map Conf.listize).getD []
    let rules := match options.wrapKey with
      | some key => rules.map fun rule => .record [(key, rule)]
      | none => rules
    ⟨.list rules, options⟩
  else ⟨.single (conf.getD (.record [])), options⟩

/-- The declarations as a list. -/
def rules (t : Template) : List Conf :=
  match t.definitions with
  | .list rules => rules
  | .single conf => [conf]

/-- The embedded pipes that run for an item, in order. -/
def subPipes (t : Template) : List SubPipe := t.rules.flatMap Conf.subPipes

/-- The value of the declarations for an item. -/
def resolvePieces (t : Template) (item : Item) : Conf.Resolve Pieces :=
  match t.definitions with
  | .list rules => do
    let values ← Conf.resolveElements item t.options.module t.options.location 0 rules
    return .list values
  | .single conf => do
    let value ← conf.resolveWith item t.options.module t.options.location
    return .single value

/-- What an item that bypasses the stage has for a value: no rules, or an empty record. -/
def emptyPieces (t : Template) : Pieces :=
  match t.definitions with
  | .list _ => .list []
  | .single _ => .single (.obj [])

/-- What is paired with the value for an item. -/
def datum (t : Template) (item : Item) : Json :=
  match t.options.pairing, t.options.datumPath with
  | .value, some path => item.getD path SubPipe.missing
  | .value, none | .item, _ => item.toJson
  | .nothing, _ => .null

/-- Whether an item bypasses the stage. -/
def bypasses (t : Template) (item : Item) : Bool := t.options.bypass.any (· item)

/-- A description of the options. -/
def Options.describe (o : Options) : String :=
  Text.describe "BroadcastOptions" [("module", Text.quote o.module),
    ("location", Text.quote o.location), ("listize", toString o.listize),
    ("d_index", Text.quoteOption o.wrapKey), ("ftype", o.pairing.describe),
    ("with", Text.quoteOption o.datumPath), ("pass_if", toString o.bypass.isSome)]

/-- A description of the template. -/
def describe (t : Template) : String :=
  Text.describe "Broadcast" [("defs", toString t.rules.length),
    ("sub_pipes", Text.bracket (t.subPipes.map SubPipe.describe)),
    ("options", t.options.describe)]

end Template

end ItemFlow
