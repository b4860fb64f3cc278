import ItemFlow.Template

/-!
# Resolving a template step by step

A `Resolution` names the embedded pipe to run next and is fed its output; when none is left it
finishes with the binding. It runs nothing itself. `bindNow` drives it at once, and `bindDeferred`
with suspensions.
-/

namespace ItemFlow

/-- The state of resolving a template for one item. -/
structure Resolution where
  /-- The template. -/
  template : Template
  /-- The item. -/
  item : Item
  /-- Whether the item bypasses the stage. -/
  bypass : Bool
  /-- The outputs fed so far, in order. -/
  outputs : List (List Item)
deriving Inhabited

/-- What is to be done next. -/
inductive Resolution.Step where
  /-- Run an embedded pipe on the item and feed its output. -/
  | evaluate (sub : SubPipe)
  /-- Finish. -/
  | finish

namespace Resolution

/-- The start for an item. Whether it bypasses the stage is decided here. -/
def start (t : Template) (item : Item) : Resolution := ⟨t, item, t.bypasses item, []⟩

/-- What is to be done next. For an item that bypasses the stage, nothing runs. -/
def step (r : Resolution) : Step :=
  if r.bypass then .finish
  else match r.template.subPipes[r.outputs.length]? with
    | some sub => .evaluate sub
    | none => .finish

/-- Takes the output of an embedded pipe. -/
def feed (r : Resolution) (output : List Item) : Resolution :=
  { r with outputs := r.outputs ++ [output] }

/-- The binding. For an item that bypasses the stage the template is not resolved. -/
def finish (r : Resolution) : Except Error Binding := do
  let pieces ←
    if r.bypass then pure r.template.emptyPieces
    else ((r.template.resolvePieces r.item).run r.outputs).1
  return ⟨pieces, r.template.datum r.item, r.bypass⟩

/-- The number of embedded pipes that are still to run. -/
def pending (r : Resolution) : Nat := r.template.subPipes.length - r.outputs.length

theorem pending_feed {r : Resolution} {sub : SubPipe} (h : r.step = .evaluate sub)
    (output : List Item) : (r.feed output).pending < r.pending := by
  unfold step at h
  split at h
  · cases h
  · split at h
    · rename_i hs
      have := (List.getElem?_eq_some_iff.1 hs).1
      simp only [pending, feed, List.length_append, List.length_singleton]
      omega
    · cases h

/-- Drives a resolution, running each embedded pipe at once. The first error ends it. -/
def driveNow (ctx : Context) (r : Resolution) : Run Binding :=
  match _h : r.step with
  | .finish => r.finish
  | .evaluate sub => do
    let output ← sub.pipe.run ctx [r.item]
    driveNow ctx (r.feed output)
termination_by r.pending
decreasing_by exact pending_feed _h output

/-- Drives a resolution, waiting for each embedded pipe. The first error ends it. -/
def driveDeferred (ctx : Context) (r : Resolution) : DeferredRun Binding :=
  match _h : r.step with
  | .finish => r.finish
  | .evaluate sub => do
    let output ← sub.pipe.runDeferred ctx [r.item]
    driveDeferred ctx (r.feed output)
termination_by r.pending
decreasing_by exact pending_feed _h output

end Resolution

namespace Template

/-- The binding of an item, with the embedded pipes run at once. -/
def bindNow (t : Template) (ctx : Context) (item : Item) : Run Binding :=
  (Resolution.start t item).driveNow ctx

/-- The binding of an item, with the embedded pipes waited for. -/
def bindDeferred (t : Template) (ctx : Context) (item : Item) : DeferredRun Binding :=
  (Resolution.start t item).driveDeferred ctx

end Template

end ItemFlow
