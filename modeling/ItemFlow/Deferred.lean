import ItemFlow.Trace

/-!
# Computations that suspend

A `Deferred` computation may stop on its way and be taken up again. `Deferred.drive` takes it up as
often as it stops; what it gives and the order of its events do not depend on where it stopped.
-/

namespace ItemFlow

/-- A computation that may suspend before it is done. -/
inductive Deferred (α : Type) where
  /-- Nothing is left but the value. -/
  | done (value : α)
  /-- Something happens. -/
  | event (e : Event) (rest : Deferred α)
  /-- The computation suspends, and goes on when it is taken up again. -/
  | suspend (rest : Deferred α)

namespace Deferred

variable {α β : Type}

/-- Goes on with the value of a computation. -/
def bind (f : α → Deferred β) : Deferred α → Deferred β
  | done a => f a
  | event e rest => event e (bind f rest)
  | suspend rest => suspend (bind f rest)

instance : Monad Deferred where
  pure := done
  bind t f := t.bind f

/-- Takes a computation up until it is done. -/
def drive : Deferred α → Traced α
  | done a => ⟨[], a⟩
  | event e rest => ⟨e :: rest.drive.log, rest.drive.value⟩
  | suspend rest => rest.drive

@[simp] theorem drive_pure (a : α) : (pure a : Deferred α).drive = pure a := rfl

@[simp] theorem drive_bind (t : Deferred α) (f : α → Deferred β) :
    (t >>= f).drive = t.drive >>= fun a => (f a).drive := by
  show (t.bind f).drive = _
  induction t with
  | done a => rfl
  | event e rest ih =>
    simp only [bind, drive, ih]
    rfl
  | suspend rest ih => simpa only [bind, drive] using ih

end Deferred

end ItemFlow
