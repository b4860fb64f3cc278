import ItemFlow.Proofs.Drive
import ItemFlow.Resolution

/-!
# What a binding comes to

The binding of an item takes three parts: whether the item bypasses the stage is decided, then the
embedded pipes run in order, then the template is resolved with their outputs. `Template.bindBy`
says so for any way to call a pipe, and both drivers of a resolution come to it, each with its own
way (`bindNow_eq`, `driveRun_bindDeferred`).
-/

namespace ItemFlow

/-- A way to call an embedded pipe on an item. -/
abbrev Call := SubPipe → Item → Run (List Item)

namespace Call

/-- The call of a pipe at once. -/
def now (ctx : Context) : Call := fun s item => s.pipe.run ctx [item]

/-- The call of a pipe that is waited for, driven. -/
def waited (ctx : Context) : Call := fun s item => Deferred.driveRun (s.pipe.runDeferred ctx [item])

end Call

namespace Template

/-- The binding of an item with outputs of the embedded pipes. -/
def bindWith (t : Template) (item : Item) (outputs : List (List Item)) : Except Error Binding := do
  let pieces ← ((t.resolvePieces item).run outputs).1
  return ⟨pieces, t.datum item, false⟩

/-- The binding of an item, with the embedded pipes called one after another. -/
def bindBy (t : Template) (call : Call) (item : Item) : Run Binding :=
  if t.bypasses item then pure ⟨t.emptyPieces, t.datum item, true⟩
  else do
    let outputs ← t.subPipes.mapM fun s => call s item
    t.bindWith item outputs

end Template

/-! ## Drivers -/

namespace Resolution

variable {r : Resolution}

theorem step_of_bypass (h : r.bypass = true) : r.step = .finish := by
  rw [step, if_pos h]

theorem step_of_drop_nil (h : r.template.subPipes.drop r.outputs.length = []) :
    r.step = .finish := by
  rw [step]
  split
  · rfl
  · rw [List.getElem?_eq_none (List.drop_eq_nil_iff.1 h)]

theorem step_of_drop_cons {s : SubPipe} {rest : List SubPipe} (hb : r.bypass = false)
    (h : r.template.subPipes.drop r.outputs.length = s :: rest) : r.step = .evaluate s := by
  have hs : r.template.subPipes[r.outputs.length]? = some s := by
    rw [← List.head?_drop, h]; rfl
  rw [step, hb, hs]; rfl

theorem finish_of_bypass (h : r.bypass = true) :
    r.finish = .ok ⟨r.template.emptyPieces, r.template.datum r.item, true⟩ := by
  rw [finish, h]; rfl

theorem finish_of_not_bypass (h : r.bypass = false) :
    r.finish = r.template.bindWith r.item r.outputs := by
  rw [finish, h]; rfl

/-- A driver of resolutions: it finishes when told to, and else calls the pipe that is named and
feeds what the call gives. -/
structure Driver (call : Call) (drive : Resolution → Run Binding) : Prop where
  finish : ∀ r, r.step = .finish → drive r = liftM r.finish
  evaluate : ∀ r s, r.step = .evaluate s → drive r = call s r.item >>= fun output => drive (r.feed output)

/-- A driver calls the embedded pipes that are left, and then finishes. -/
theorem Driver.rest {call : Call} {drive : Resolution → Run Binding} (d : Driver call drive)
    (subs : List SubPipe) (hb : r.bypass = false)
    (h : r.template.subPipes.drop r.outputs.length = subs) :
    drive r = (subs.mapM fun s => call s r.item) >>= fun more =>
      liftM (r.template.bindWith r.item (r.outputs ++ more)) := by
  -- Feeding an output moves one pipe from those that are left to those that have run.
  induction subs generalizing r with
  | nil =>
    rw [d.finish r (step_of_drop_nil h), finish_of_not_bypass hb, List.mapM_nil, pure_bind,
      List.append_nil]
  | cons s subs ih =>
    rw [d.evaluate r s (step_of_drop_cons hb h), List.mapM_cons, bind_assoc]
    congr 1
    funext output
    have hrest : (r.feed output).template.subPipes.drop (r.feed output).outputs.length = subs := by
      show r.template.subPipes.drop (r.outputs ++ [output]).length = subs
      rw [List.length_append, List.length_singleton, ← List.drop_drop, h]; rfl
    rw [ih (r := r.feed output) hb hrest, bind_assoc]
    simp only [pure_bind, feed, List.append_assoc, List.singleton_append]

/-- Whatever drives the resolution of an item, its binding comes of calling the embedded pipes in
order and resolving the template with the outputs. -/
theorem Driver.start_eq {call : Call} {drive : Resolution → Run Binding} (d : Driver call drive)
    (t : Template) (item : Item) : drive (start t item) = t.bindBy call item := by
  cases hb : t.bypasses item with
  | true =>
    have h : (start t item).bypass = true := hb
    rw [d.finish _ (step_of_bypass h), finish_of_bypass h, Template.bindBy, if_pos hb]; rfl
  | false =>
    rw [d.rest t.subPipes hb rfl, Template.bindBy, hb]; rfl

theorem driver_now (ctx : Context) : Driver (.now ctx) (driveNow ctx) where
  finish r h := by rw [driveNow]; split <;> simp_all
  evaluate r s h := by
    rw [driveNow]
    split
    · rename_i h'; rw [h] at h'; cases h'
    · rename_i s' h'; rw [h] at h'; cases h'; rfl

theorem driver_waited (ctx : Context) :
    Driver (.waited ctx) fun r => Deferred.driveRun (driveDeferred ctx r) where
  finish r h := by
    rw [driveDeferred]
    split
    · exact Deferred.driveRun_lift _
    · rename_i s' h'; rw [h] at h'; cases h'
  evaluate r s h := by
    rw [driveDeferred]
    split
    · rename_i h'; rw [h] at h'; cases h'
    · rename_i s' h'; rw [h] at h'; cases h'; exact Deferred.driveRun_bind _ _

end Resolution

namespace Template

theorem bindNow_eq (t : Template) (ctx : Context) (item : Item) :
    t.bindNow ctx item = t.bindBy (.now ctx) item :=
  (Resolution.driver_now ctx).start_eq t item

theorem driveRun_bindDeferred (t : Template) (ctx : Context) (item : Item) :
    Deferred.driveRun (t.bindDeferred ctx item) = t.bindBy (.waited ctx) item :=
  (Resolution.driver_waited ctx).start_eq t item

end Template

end ItemFlow
