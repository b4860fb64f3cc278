import ItemFlow.Deferred

/-!
# Flows of results

What a source or a stage gives, result by result. A `Flow` says for each result what happens when it
is asked for; nothing happens before. A `DeferredFlow` is the same for a consumer that waits: it may
suspend at any time. Both are consumed either one request at a time or all at once, in which case
the first error ends it.

Requests after the end are fused by the type: nothing comes after `ended`, so a further request gives
nothing and nothing happens. Where results are waited for, this says more than a stream promises,
which may not be asked again once it has ended. A consumer is to stop there, as `take` and `collect`
do.
-/

namespace ItemFlow

/-- An item, or the error in its place. -/
abbrev Result := Except Error Item

/-- Results that are had by asking, each with what happens when it is asked for. -/
inductive Flow where
  /-- Asking once more gives nothing. -/
  | ended (log : List Event)
  /-- Asking once more gives a result. -/
  | next (log : List Event) (result : Result) (rest : Flow)

namespace Flow

/-- The flow of items that are at hand. -/
def ofList : List Item → Flow
  | [] => ended []
  | item :: rest => next [] (.ok item) (ofList rest)

/-- The flow of items from a source, counted from `n`; each pull is an event. -/
def ofSource (n : Nat) : List Item → Flow
  | [] => ended []
  | item :: rest => next [.pull n] (.ok item) (ofSource (n + 1) rest)

/-- The flow with earlier events before its own. -/
def after (log : List Event) : Flow → Flow
  | ended l => ended (log ++ l)
  | next l result rest => next (log ++ l) result rest

/-- The results. -/
def results : Flow → List Result
  | ended _ => []
  | next _ result rest => result :: rest.results

/-- Asks for results one at a time, at most `limit` of them if there is a limit. Handing out a
result is an event, counted from `n`. -/
def take (n : Nat) (limit : Option Nat) : Flow → Traced (List Result)
  | ended log => ⟨if limit = some 0 then [] else log, []⟩
  | next log result rest =>
    if limit = some 0 then ⟨[], []⟩
    else
      let more := rest.take (n + 1) (limit.map (· - 1))
      ⟨log ++ .out n :: more.log, result :: more.value⟩

/-- All items, or the first error; nothing is asked for after an error. -/
def collect : Flow → Traced (Except Error (List Item))
  | ended log => ⟨log, .ok []⟩
  | next log (.error e) _ => ⟨log, .error e⟩
  | next log (.ok item) rest =>
    let more := rest.collect
    ⟨log ++ more.log, more.value.map (item :: ·)⟩

end Flow

/-- Results for a consumer that waits for them. -/
inductive DeferredFlow where
  /-- There are no more results. -/
  | ended
  /-- Something happens. -/
  | event (e : Event) (rest : DeferredFlow)
  /-- The flow suspends. -/
  | suspend (rest : DeferredFlow)
  /-- A result. -/
  | next (result : Result) (rest : DeferredFlow)

namespace DeferredFlow

/-- The flow of items that are at hand. -/
def ofList : List Item → DeferredFlow
  | [] => ended
  | item :: rest => next (.ok item) (ofList rest)

/-- The flow of items from a source, counted from `n`; each pull is an event. -/
def ofSource (n : Nat) : List Item → DeferredFlow
  | [] => ended
  | item :: rest => event (.pull n) (next (.ok item) (ofSource (n + 1) rest))

/-- The flow as it is for a consumer that takes it up whenever it suspends. -/
def drive : DeferredFlow → Flow
  | ended => .ended []
  | event e rest => rest.drive.after [e]
  | suspend rest => rest.drive
  | next result rest => .next [] result rest.drive

/-- Asks for results one at a time, at most `limit` of them if there is a limit. Handing out a
result is an event, counted from `n`. -/
def take (n : Nat) (limit : Option Nat) : DeferredFlow → Deferred (List Result)
  | ended => .done []
  | event e rest => if limit = some 0 then .done [] else .event e (rest.take n limit)
  | suspend rest => if limit = some 0 then .done [] else .suspend (rest.take n limit)
  | next result rest =>
    if limit = some 0 then .done []
    else .event (.out n) ((rest.take (n + 1) (limit.map (· - 1))).bind fun l => .done (result :: l))

/-- All items, or the first error; nothing is asked for after an error. -/
def collect : DeferredFlow → Deferred (Except Error (List Item))
  | ended => .done (.ok [])
  | event e rest => .event e rest.collect
  | suspend rest => .suspend rest.collect
  | next (.error e) _ => .done (.error e)
  | next (.ok item) rest => rest.collect.bind fun r => .done (r.map (item :: ·))

end DeferredFlow

/-- The flow that comes of a computation, with what happens on the way to it. -/
def Deferred.toFlow {α : Type} (f : α → DeferredFlow) : Deferred α → DeferredFlow
  | .done a => f a
  | .event e rest => .event e (rest.toFlow f)
  | .suspend rest => .suspend (rest.toFlow f)

end ItemFlow
