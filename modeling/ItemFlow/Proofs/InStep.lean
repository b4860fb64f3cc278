import ItemFlow.Proofs.Stage.Walk

/-!
# Runs that keep in step

Two runs keep in step if they have the same value, and the same events in the same order but for
what the pipes of a registry leave behind while they work: there both call the same pipe on the same
items, one at once and one waiting for it. If the pipes of the registry leave the same events behind
both ways, such runs are equal (`Traced.InStep.eq_of_steady`). Sequencing keeps runs in step, and so
do the walk of a stage along a flow and both ways to consume one.
-/

namespace ItemFlow

/-! ## Two ways to call a pipe -/

namespace Pipe

/-- Waiting for the pipe gives what calling it at once gives. -/
def Consistent (ctx : Context) (pipe : Pipe) : Prop :=
  ∀ items, (Deferred.driveRun (pipe.runDeferred ctx items)).run.value = (pipe.run ctx items).run.value

/-- Waiting for the pipe gives what calling it at once gives, and leaves the same events behind. -/
def Steady (ctx : Context) (pipe : Pipe) : Prop :=
  ∀ items, Deferred.driveRun (pipe.runDeferred ctx items) = pipe.run ctx items

theorem Steady.consistent {ctx : Context} {pipe : Pipe} (h : pipe.Steady ctx) :
    pipe.Consistent ctx := by
  intro items
  rw [h items]

theorem steady_ofFunction (name : String) (f : Context → List Item → Except Error (List Item))
    (ctx : Context) : (ofFunction name f).Steady ctx := fun _ => rfl

end Pipe

namespace Registry

/-- The registry has the pipe under some name. -/
def Offers (r : Registry) (pipe : Pipe) : Prop := ∃ name, r.get? name = some pipe

theorem Offers.mem {r : Registry} {pipe : Pipe} (h : r.Offers pipe) : ∃ name, (name, pipe) ∈ r.pipes := by
  obtain ⟨name, h⟩ := h
  obtain ⟨before, after, hp, -⟩ := List.lookup_eq_some_iff.1 h
  exact ⟨name, by rw [hp]; simp⟩

/-- Every pipe of the registry gives the same at once and waited for. -/
def Consistent (r : Registry) (ctx : Context) : Prop := ∀ pipe, r.Offers pipe → pipe.Consistent ctx

/-- Every pipe of the registry gives the same and leaves the same events behind, at once and waited
for. -/
def Steady (r : Registry) (ctx : Context) : Prop := ∀ pipe, r.Offers pipe → pipe.Steady ctx

theorem Steady.consistent {r : Registry} {ctx : Context} (h : r.Steady ctx) : r.Consistent ctx :=
  fun pipe hp => (h pipe hp).consistent

end Registry

/-! ## Logs -/

/-- Events that keep in step: the same ones, but for those of calls of the same pipe on the same
items, at once on the left and waited for on the right. -/
inductive Log.InStep (ctx : Context) (r : Registry) : List Event → List Event → Prop where
  | nil : InStep ctx r [] []
  | event (e : Event) {a b : List Event} (rest : InStep ctx r a b) : InStep ctx r (e :: a) (e :: b)
  | call (pipe : Pipe) (items : List Item) {a b : List Event} (offered : r.Offers pipe)
      (rest : InStep ctx r a b) :
      InStep ctx r ((pipe.run ctx items).run.log ++ a)
        ((Deferred.driveRun (pipe.runDeferred ctx items)).run.log ++ b)

namespace Log.InStep

variable {ctx : Context} {r : Registry} {a b c d : List Event}

theorem refl (log : List Event) : Log.InStep ctx r log log := by
  induction log with
  | nil => exact .nil
  | cons e log ih => exact .event e ih

theorem append (h : Log.InStep ctx r a b) (h' : Log.InStep ctx r c d) :
    Log.InStep ctx r (a ++ c) (b ++ d) := by
  induction h with
  | nil => exact h'
  | event e _ ih => exact .event e ih
  | call pipe items offered _ ih =>
    rw [List.append_assoc, List.append_assoc]
    exact .call pipe items offered ih

theorem eq_of_steady (hr : r.Steady ctx) (h : Log.InStep ctx r a b) : a = b := by
  induction h with
  | nil => rfl
  | event e _ ih => rw [ih]
  | call pipe items offered _ ih => rw [hr pipe offered items, ih]

end Log.InStep

/-! ## Runs -/

/-- Runs that keep in step and come to the same value. -/
structure Traced.InStep (ctx : Context) (r : Registry) {α : Type} (x y : Traced α) : Prop where
  /-- The values are the same. -/
  value : x.value = y.value
  /-- The events keep in step. -/
  log : Log.InStep ctx r x.log y.log

namespace Traced.InStep

variable {ctx : Context} {r : Registry} {α β : Type}

theorem refl (x : Traced α) : x.InStep ctx r x := ⟨rfl, Log.InStep.refl x.log⟩

/-- Runs that keep in step are equal if the pipes are steady. -/
theorem eq_of_steady (hr : r.Steady ctx) {x y : Traced α} (h : x.InStep ctx r y) : x = y :=
  Traced.ext (h.log.eq_of_steady hr) h.value

theorem bind {x y : Traced α} {f g : α → Traced β} (h : x.InStep ctx r y)
    (hf : ∀ a, (f a).InStep ctx r (g a)) : (x >>= f).InStep ctx r (y >>= g) := by
  constructor
  · rw [value_bind, value_bind, h.value]
    exact (hf y.value).value
  · rw [log_bind, log_bind, h.value]
    exact h.log.append (hf y.value).log

end Traced.InStep

/-- Runs that may fail and keep in step. -/
def Run.InStep (ctx : Context) (r : Registry) {α : Type} (x y : Run α) : Prop :=
  Traced.InStep ctx r x.run y.run

namespace Run.InStep

variable {ctx : Context} {r : Registry} {α β : Type}

theorem refl (x : Run α) : x.InStep ctx r x := Traced.InStep.refl x.run

theorem bind {x y : Run α} {f g : α → Run β} (h : x.InStep ctx r y)
    (hf : ∀ a, (f a).InStep ctx r (g a)) : (x >>= f).InStep ctx r (y >>= g) := by
  refine Traced.InStep.bind h fun result => ?_
  cases result with
  | ok a => exact hf a
  | error e => exact Traced.InStep.refl _

theorem mapM {f g : α → Run β} (l : List α) (h : ∀ a ∈ l, (f a).InStep ctx r (g a)) :
    (l.mapM f).InStep ctx r (l.mapM g) := by
  induction l with
  | nil => exact refl _
  | cons a l ih =>
    rw [List.mapM_cons, List.mapM_cons]
    refine bind (h a List.mem_cons_self) fun b => ?_
    refine bind (ih fun a' ha' => h a' (List.mem_cons_of_mem a ha')) fun bs => ?_
    exact refl _

/-- A pipe that is called at once and one that is waited for keep in step. -/
theorem call {pipe : Pipe} (hp : r.Offers pipe) (hr : r.Consistent ctx) (items : List Item) :
    (pipe.run ctx items).InStep ctx r (Deferred.driveRun (pipe.runDeferred ctx items)) := by
  refine ⟨(hr pipe hp items).symm, ?_⟩
  have h : Log.InStep ctx r _ _ := .call pipe items hp .nil
  rwa [List.append_nil, List.append_nil] at h

end Run.InStep

/-! ## Flows -/

/-- Flows that keep in step: they have the same results, and what happens when one is asked for
keeps in step. -/
inductive Flow.InStep (ctx : Context) (r : Registry) : Flow → Flow → Prop where
  | ended {a b : List Event} (log : Log.InStep ctx r a b) : InStep ctx r (.ended a) (.ended b)
  | next {a b : List Event} {f g : Flow} (result : Result) (log : Log.InStep ctx r a b)
      (rest : InStep ctx r f g) : InStep ctx r (.next a result f) (.next b result g)

namespace Flow.InStep

variable {ctx : Context} {r : Registry} {f g : Flow}

theorem refl (f : Flow) : f.InStep ctx r f := by
  induction f with
  | ended log => exact .ended (.refl log)
  | next log result _ ih => exact .next result (.refl log) ih

theorem after {a b : List Event} (h : f.InStep ctx r g) (hl : Log.InStep ctx r a b) :
    (f.after a).InStep ctx r (g.after b) := by
  cases h with
  | ended log => exact .ended (hl.append log)
  | next result log rest => exact .next result (hl.append log) rest

/-- Stages that treat every item in step keep flows in step. -/
theorem walk {policy : Policy} {treat treat' : Item → Run Item} (h : f.InStep ctx r g)
    (ht : ∀ item, (treat item).InStep ctx r (treat' item)) :
    (f.walk policy treat).InStep ctx r (g.walk policy treat') := by
  induction h with
  | ended log => exact .ended log
  | @next a b f g result log rest ih =>
    cases result with
    | error e => exact .next _ log ih
    | ok item =>
      -- Both walks branch on what the treatment comes to, and that is the same for both.
      have hlog := log.append (ht item).log
      rw [Flow.walk, Flow.walk, ← (ht item).value]
      cases (treat item).run.value with
      | ok out => exact .next _ hlog ih
      | error e =>
        dsimp only
        split
        · exact .next _ hlog (refl _)
        · exact ih.after hlog

theorem take (h : f.InStep ctx r g) (n : Nat) (limit : Option Nat) :
    (f.take n limit).InStep ctx r (g.take n limit) := by
  induction h generalizing n limit with
  | ended log =>
    refine ⟨rfl, ?_⟩
    rw [Flow.take, Flow.take]
    split
    · exact .nil
    · exact log
  | next result log rest ih =>
    rw [Flow.take, Flow.take]
    split
    · exact .refl _
    · have hrest := ih (n + 1) (limit.map (· - 1))
      exact ⟨congrArg (result :: ·) hrest.value, log.append (.event _ hrest.log)⟩

theorem collect (h : f.InStep ctx r g) : f.collect.InStep ctx r g.collect := by
  induction h with
  | ended log => exact ⟨rfl, log⟩
  | next result log rest ih =>
    cases result with
    | error e => exact ⟨rfl, log⟩
    | ok item => exact ⟨congrArg (Except.map (item :: ·)) ih.value, log.append ih.log⟩

end Flow.InStep

end ItemFlow
