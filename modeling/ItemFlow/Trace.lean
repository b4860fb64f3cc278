import ItemFlow.Error
import ItemFlow.Item

/-!
# What happens, in order

Running a pipeline pulls items from a source, calls embedded pipes and hands out results. A
`Traced` computation keeps the order of these events beside its value, so that two ways to run can
be compared in what they do as well as in what they give.
-/

namespace ItemFlow

/-- Something that happens while a pipeline runs. -/
inductive Event where
  /-- An item is pulled from the source, counted from 0. -/
  | pull (index : Nat)
  /-- A pipe is called on items. -/
  | call (pipe : String) (items : List Item)
  /-- A result is handed out, counted from 0. -/
  | out (index : Nat)
deriving Repr

/-- A value and the events on the way to it. -/
structure Traced (α : Type) where
  /-- The events, in order. -/
  log : List Event
  /-- The value. -/
  value : α
deriving Repr

namespace Traced

variable {α β : Type}

instance : Monad Traced where
  pure a := ⟨[], a⟩
  bind t f := ⟨t.log ++ (f t.value).log, (f t.value).value⟩

/-- One event. -/
def emit (e : Event) : Traced Unit := ⟨[e], ()⟩

@[simp] theorem log_pure (a : α) : (pure a : Traced α).log = [] := rfl

@[simp] theorem value_pure (a : α) : (pure a : Traced α).value = a := rfl

@[simp] theorem log_bind (t : Traced α) (f : α → Traced β) :
    (t >>= f).log = t.log ++ (f t.value).log := rfl

@[simp] theorem value_bind (t : Traced α) (f : α → Traced β) :
    (t >>= f).value = (f t.value).value := rfl

end Traced

end ItemFlow
