import ItemFlow.Proofs.Sequencing

/-!
# Driving computations that suspend

`Deferred.drive` takes a computation up as often as it stops. Driving goes through the operations
from which deferred computations and flows are built: sequencing with and without failure, going on
with a flow, and consuming one. So what a deferred computation does when it is driven can be told
from its parts.
-/

namespace ItemFlow

/-! ## Deferred computations -/

namespace Deferred

variable {α β : Type}

theorem drive_bind_done (t : Deferred α) (f : α → β) :
    (t.bind fun a => done (f a)).drive = ⟨t.drive.log, f t.drive.value⟩ := by
  show (t >>= fun a => pure (f a)).drive = _
  simp only [drive_bind, drive_pure]
  refine Traced.ext ?_ ?_
  · rw [Traced.log_bind, Traced.log_pure, List.append_nil]
  · rw [Traced.value_bind, Traced.value_pure]

/-- A computation that may fail, driven. -/
def driveRun (x : DeferredRun α) : Run α := ExceptT.mk x.run.drive

theorem driveRun_lift (r : Except Error α) : driveRun (liftM r : DeferredRun α) = liftM r := by
  cases r <;> rfl

theorem driveRun_bind (x : DeferredRun α) (f : α → DeferredRun β) :
    driveRun (x >>= f) = driveRun x >>= fun a => driveRun (f a) := by
  show (x.run >>= ExceptT.bindCont f).drive = x.run.drive >>= ExceptT.bindCont fun a => driveRun (f a)
  rw [drive_bind]
  congr 1
  funext r
  cases r <;> rfl

end Deferred

/-! ## Flows -/

namespace Flow

@[simp] theorem after_nil (f : Flow) : f.after [] = f := by
  cases f <;> rfl

@[simp] theorem after_after (a b : List Event) (f : Flow) : (f.after b).after a = f.after (a ++ b) := by
  cases f <;> simp [after]

@[simp] theorem results_after (log : List Event) (f : Flow) : (f.after log).results = f.results := by
  cases f <;> rfl

/-- Nothing happens if nothing is asked for. -/
@[simp] theorem take_zero (n : Nat) (f : Flow) : f.take n (some 0) = ⟨[], []⟩ := by
  cases f <;> simp [take]

/-- Events before a flow happen with the first request, if there is one. -/
theorem take_after (log : List Event) (n : Nat) (limit : Option Nat) (f : Flow) :
    (f.after log).take n limit =
      if limit = some 0 then ⟨[], []⟩
      else ⟨log ++ (f.take n limit).log, (f.take n limit).value⟩ := by
  cases f <;> simp only [after, take] <;> split <;> simp

theorem collect_after (log : List Event) (f : Flow) :
    (f.after log).collect = ⟨log ++ f.collect.log, f.collect.value⟩ := by
  rcases f with l | ⟨l, e | item, rest⟩ <;> simp [after, collect]

end Flow

namespace DeferredFlow

theorem drive_ofList (items : List Item) : (ofList items).drive = Flow.ofList items := by
  induction items with
  | nil => rfl
  | cons item rest ih => rw [ofList, drive, ih, Flow.ofList]

theorem drive_ofSource (n : Nat) (items : List Item) :
    (ofSource n items).drive = Flow.ofSource n items := by
  induction items generalizing n with
  | nil => rfl
  | cons item rest ih => rw [ofSource, drive, drive, ih, Flow.ofSource, Flow.after, List.append_nil]

theorem drive_take (f : DeferredFlow) (n : Nat) (limit : Option Nat) :
    (f.take n limit).drive = f.drive.take n limit := by
  induction f generalizing n limit with
  | ended => simp [take, drive, Flow.take, Deferred.drive]
  | event e rest ih =>
    rw [take, drive, Flow.take_after]
    split
    · rfl
    · rw [Deferred.drive, ih]; rfl
  | suspend rest ih =>
    rw [take, drive]
    split
    · rename_i h
      rw [h, Flow.take_zero]; rfl
    · rw [Deferred.drive, ih]
  | next result rest ih =>
    rw [take, drive, Flow.take]
    split
    · rfl
    · rw [Deferred.drive, Deferred.drive_bind_done, ih]; rfl

theorem drive_collect (f : DeferredFlow) : f.collect.drive = f.drive.collect := by
  induction f with
  | ended => rfl
  | event e rest ih => rw [collect, drive, Flow.collect_after, Deferred.drive, ih]; rfl
  | suspend rest ih => rw [collect, drive, Deferred.drive, ih]
  | next result rest ih =>
    cases result with
    | error e => rfl
    | ok item =>
      rw [collect, drive, Flow.collect, Deferred.drive_bind_done, ih]; rfl

end DeferredFlow

/-- A flow that comes of a computation is driven after the computation. -/
theorem Deferred.drive_toFlow {α : Type} (f : α → DeferredFlow) (t : Deferred α) :
    (t.toFlow f).drive = (f t.drive.value).drive.after t.drive.log := by
  induction t with
  | done a => rw [toFlow, drive, Flow.after_nil]
  | event e rest ih => rw [toFlow, DeferredFlow.drive, ih, Flow.after_after]; rfl
  | suspend rest ih => rw [toFlow, DeferredFlow.drive, ih]; rfl

end ItemFlow
