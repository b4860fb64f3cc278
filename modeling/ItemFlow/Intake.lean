import ItemFlow.Template

/-!
# Intake

A stage turns a binding into what it works with in three parts: the pieces are converted, the datum
is brought into a form, and the bypass flag is mapped. The datum comes first, so its error wins over
those of the pieces.
-/

namespace ItemFlow

/-- A binding in the form in which a stage works with it. -/
structure Taken (α : Type) where
  /-- The converted pieces. -/
  pieces : α
  /-- The datum in its form. -/
  datum : Json
  /-- The mapped bypass flag. -/
  bypass : Bool
deriving Repr, Inhabited

/-- How a stage takes bindings; converting may use and change a state. -/
structure Intake (σ α : Type) where
  /-- The name of the stage in errors. -/
  module : String
  /-- How pieces are converted. -/
  convert : Pieces → ExceptT Error (StateM σ) α
  /-- The form of the datum. -/
  coercion : Coercion
  /-- How the bypass flag is mapped. -/
  mapBypass : Bool → Bool := id

namespace Intake

variable {σ α : Type}

/-- The datum in its form. -/
def coerceDatum (k : Intake σ α) (datum : Json) : Except Error Json :=
  match k.coercion.coerce? datum with
  | some v => .ok v
  | none => .error (.coercion k.module "with" k.coercion.tag datum.render)

/-- Takes a binding. -/
def take (k : Intake σ α) (b : Binding) : ExceptT Error (StateM σ) (Taken α) := do
  let datum ← k.coerceDatum b.datum
  let pieces ← k.convert b.pieces
  return ⟨pieces, datum, k.mapBypass b.bypass⟩

/-- An intake that leaves the pieces as they are. -/
def keep (module : String) (coercion : Coercion) : Intake Unit Pieces where
  module := module
  convert pieces := pure pieces
  coercion := coercion

end Intake

end ItemFlow
