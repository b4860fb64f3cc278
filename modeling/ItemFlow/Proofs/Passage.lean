import ItemFlow.Pipeline
import ItemFlow.Proofs.Stage.Walk
import Mathlib

/-!
# The passage of an item

An item passes through a row of stages on its own. Each stage calls its embedded pipes for the item
and gives what it makes of it to the next stage; in the end the item comes out, or it is dropped, or
an error ends the flow. `Passage.calls` and `Passage.fate` say this of one item and all the stages,
and a row of stages at work does to a flow what the passages of its items say, one after another
(`Passage.executeStages_eq`).
-/

namespace ItemFlow

/-! ## Calls -/

/-- What leaves no events adds none. -/
theorem Run.log_bind_silent {α β : Type} {f : α → Run β} (hf : ∀ a, (f a).run.log = []) (x : Run α) :
    (x >>= f).run.log = x.run.log := by
  cases h : x.run.value with
  | error e => rw [Run.bind_error h]
  | ok a => rw [Run.bind_ok h, hf, List.append_nil]

/-- The events of computations that run one after another until one fails. -/
theorem Run.log_mapM {α β : Type} (f : α → Run β) (l : List α) : (l.mapM f).run.log =
    (l.take (l.findIdx (fun a => !(f a).run.value.toBool) + 1)).flatMap fun a => (f a).run.log := by
  induction l with
  | nil => rfl
  | cons a l ih =>
    rw [List.mapM_cons, List.findIdx_cons]
    cases h : (f a).run.value with
    | error e => simp [Run.bind_error h, Except.toBool]
    | ok b =>
      have hrest : (l.mapM f >>= fun bs => (pure (b :: bs) : Run (List β))).run.log = (l.mapM f).run.log :=
        Run.log_bind_silent (fun _ => rfl) _
      rw [Run.bind_ok h, hrest, ih]
      rfl

/-- The events of calls, one after another. -/
def Call.events (call : Call) (calls : List (SubPipe × Item)) : List Event :=
  calls.flatMap fun c => (call c.1 c.2).run.log

theorem Call.events_append (call : Call) (a b : List (SubPipe × Item)) :
    call.events (a ++ b) = call.events a ++ call.events b := List.flatMap_append

/-- The embedded pipes that a stage calls for an item: none if the item bypasses the stage, and else
all of them in order, up to the first that fails. -/
def Stage.called (s : Stage) (call : Call) (item : Item) : List SubPipe :=
  if s.template.bypasses item then []
  else s.template.subPipes.take
    (s.template.subPipes.findIdx (fun sub => !(call sub item).run.value.toBool) + 1)

theorem Stage.log_treat (s : Stage) (call : Call) (item : Item) :
    (s.treat call item).run.log = call.events ((s.called call item).map (·, item)) := by
  unfold treat called Call.events
  split
  · rfl
  · rw [List.flatMap_map, ← Run.log_mapM]
    refine Run.log_bind_silent (fun outputs => ?_) _
    rw [Run.log_bind_silent fun _ => rfl, Run.run_lift]

namespace Passage

/-! ## One item and all stages -/

/-- The calls that a row of stages makes for an item. Each stage makes its own for what the stages
before it have made of the item. -/
def calls (call : Call) : List Stage → Item → List (SubPipe × Item)
  | [], _ => []
  | s :: rest, item => (s.called call item).map (·, item) ++
    match s.outcome call item with
    | .ok out => calls call rest out
    | .error _ => []

/-- What becomes of an item in a row of stages: it comes out, it is dropped, or an error ends the
flow. -/
def fate (call : Call) : List Stage → Item → Except Error (Option Item)
  | [], item => .ok (some item)
  | s :: rest, item =>
    match s.outcome call item with
    | .ok out => fate call rest out
    | .error e => if s.policy.ends e then .error e else .ok none

/-- The passage of an item: its calls, and what becomes of it. -/
def pass (call : Call) (stages : List Stage) (item : Item) : Traced (Except Error (Option Item)) :=
  ⟨call.events (calls call stages item), fate call stages item⟩

end Passage

/-! ## Flows -/

/-- A flow whose items each pass: one that comes out takes its place, one that is dropped leaves what
happened to the next result, and an error of its own ends the flow. Errors that come with the flow
are handed on. -/
def Flow.sift (pass : Item → Traced (Except Error (Option Item))) : Flow → Flow
  | ended log => ended log
  | next log (.error e) rest => next log (.error e) (rest.sift pass)
  | next log (.ok item) rest =>
    match (pass item).value with
    | .ok (some out) => next (log ++ (pass item).log) (.ok out) (rest.sift pass)
    | .ok none => (rest.sift pass).after (log ++ (pass item).log)
    | .error e => next (log ++ (pass item).log) (.error e) (ended [])

theorem Flow.sift_after (pass : Item → Traced (Except Error (Option Item))) (log : List Event)
    (f : Flow) : (f.after log).sift pass = (f.sift pass).after log := by
  rcases f with l | ⟨l, e | item, rest⟩
  · rfl
  · rfl
  · rw [after, sift, sift]
    split
    · rw [after, List.append_assoc]
    · rw [after_after, List.append_assoc]
    · rw [after, List.append_assoc]

namespace Passage

variable {call : Call} {ctx : Context} {stages : List Stage}

theorem sift_nil (f : Flow) : f.sift (pass call []) = f := by
  induction f with
  | ended log => rfl
  | next log result rest ih =>
    cases result with
    | error e => rw [Flow.sift, ih]
    | ok item => simp [Flow.sift, pass, fate, calls, Call.events, ih]

/-- What comes out of a stage passes through the stages after it. -/
theorem sift_walk (s : Stage) (f : Flow) :
    (f.walk s.policy (s.treat call)).sift (pass call stages) = f.sift (pass call (s :: stages)) := by
  induction f with
  | ended log => rfl
  | next log result rest ih =>
    cases result with
    | error e => rw [Flow.walk, Flow.sift, Flow.sift, ih]
    | ok item =>
      have hvalue : (s.treat call item).run.value = s.outcome call item := rfl
      rw [Flow.walk, Flow.sift, hvalue, Stage.log_treat]
      cases ho : s.outcome call item with
      | error e =>
        cases hends : s.policy.ends e with
        | true => simp [pass, fate, calls, ho, hends, Flow.sift]
        | false => simp [pass, fate, calls, ho, hends, Flow.sift_after, ih]
      | ok out =>
        simp only [Flow.sift, ih]
        simp [pass, fate, calls, ho, Call.events_append]

/-! ## Rows of stages at work -/

/-- A row of stages that start lets the items of a flow pass. -/
theorem executeStages_eq (h : ∀ s ∈ stages, ∃ running, s.start ctx = .ok running) (flow : Flow) :
    Pipeline.executeStages ctx stages flow = .ok (flow.sift (pass (.now ctx) stages)) := by
  induction stages generalizing flow with
  | nil => rw [sift_nil]; rfl
  | cons s rest ih =>
    obtain ⟨running, hs⟩ := h s List.mem_cons_self
    rw [Pipeline.executeStages, hs, ← sift_walk, ← Stage.through_eq_walk hs]
    exact ih (fun s' hs' => h s' (List.mem_cons_of_mem s hs')) _

/-- So does a row of stages that wait for what they call. -/
theorem executeStagesDeferred_eq (h : ∀ s ∈ stages, ∃ running, s.start ctx = .ok running)
    (waiting : DeferredFlow) : ∃ later, Pipeline.executeStagesDeferred ctx stages waiting = .ok later ∧
      later.drive = waiting.drive.sift (pass (.waited ctx) stages) := by
  induction stages generalizing waiting with
  | nil => exact ⟨waiting, rfl, (sift_nil _).symm⟩
  | cons s rest ih =>
    obtain ⟨running, hs⟩ := h s List.mem_cons_self
    rw [Pipeline.executeStagesDeferred, hs, ← sift_walk, ← Stage.drive_throughDeferred hs]
    exact ih (fun s' hs' => h s' (List.mem_cons_of_mem s hs')) _

/-! ## Items in a row -/

/-- The results of items that pass one after another, until an error ends them. -/
def results (fate : Item → Except Error (Option Item)) : List Item → List Result
  | [] => []
  | item :: rest =>
    match fate item with
    | .ok (some out) => .ok out :: results fate rest
    | .ok none => results fate rest
    | .error e => [.error e]

/-- Whether an error ends the results of items in a row. -/
def broken (fate : Item → Except Error (Option Item)) (items : List Item) : Bool :=
  items.any fun item => !(fate item).toBool

section

variable (fate : Item → Except Error (Option Item))

/-- Items that come later add their results, unless an error has ended them. -/
theorem results_append (a b : List Item) :
    results fate (a ++ b) = results fate a ++ if broken fate a then [] else results fate b := by
  induction a with
  | nil => rfl
  | cons item a ih =>
    rw [List.cons_append, results, results, broken, List.any_cons]
    cases fate item with
    | error e => rfl
    | ok out =>
      cases out with
      | none => exact ih
      | some out => exact congrArg (.ok out :: ·) ih

/-- An item has one result at most. -/
theorem length_results_le (items : List Item) : (results fate items).length ≤ items.length := by
  induction items with
  | nil => exact le_rfl
  | cons item items ih =>
    rw [results, List.length_cons]
    cases fate item with
    | error e => simp
    | ok out =>
      cases out with
      | none => exact ih.trans (Nat.le_succ _)
      | some out => exact Nat.succ_le_succ ih

/-- An error ends the results of items in a row just if there is one among them. -/
theorem broken_iff {items : List Item} :
    broken fate items = true ↔ ∃ e, .error e ∈ results fate items := by
  induction items with
  | nil => simp [broken, results]
  | cons item items ih =>
    rw [broken, List.any_cons, results]
    cases fate item with
    | error e => simp [Except.toBool]
    | ok out => cases out <;> simpa [Except.toBool, broken] using ih

/-- Results without an error are items that have come out. -/
theorem results_of_not_broken {items : List Item} (h : broken fate items = false) :
    ∃ outs : List Item, results fate items = outs.map .ok := by
  induction items with
  | nil => exact ⟨[], rfl⟩
  | cons item items ih =>
    rw [broken, List.any_cons, Bool.or_eq_false_iff] at h
    obtain ⟨outs, houts⟩ := ih h.2
    rw [results]
    cases hf : fate item with
    | error e => rw [hf] at h; cases h.1
    | ok out =>
      cases out with
      | none => exact ⟨outs, houts⟩
      | some out => exact ⟨out :: outs, congrArg (.ok out :: ·) houts⟩

/-- An error among the results is that of the first item that comes to one, and there are no results
after it. -/
theorem exists_of_error_mem {items : List Item} {e : Error} (h : .error e ∈ results fate items) :
    ∃ before item after, items = before ++ item :: after ∧ broken fate before = false ∧
      fate item = .error e ∧ results fate items = results fate before ++ [.error e] := by
  induction items with
  | nil => cases h
  | cons item items ih =>
    rw [results] at h
    cases hf : fate item with
    | error e' =>
      obtain rfl : e = e' := by simpa [hf] using h
      exact ⟨[], item, items, rfl, rfl, hf, by simp [results, hf]⟩
    | ok out =>
      have hrest : .error e ∈ results fate items := by
        rw [hf] at h
        cases out <;> simpa using h
      obtain ⟨before, item', after, rfl, hbefore, hf', hresults⟩ := ih hrest
      refine ⟨item :: before, item', after, rfl, ?_, hf', ?_⟩
      · rw [broken, List.any_cons, hf]
        exact hbefore
      · rw [results, results, hf, hresults]
        cases out <;> rfl

/-- Results that have an error are a row of items and the error. -/
theorem results_of_error_mem {items : List Item} {e : Error} (h : .error e ∈ results fate items) :
    ∃ outs : List Item, results fate items = outs.map .ok ++ [.error e] := by
  obtain ⟨before, item, after, -, hbefore, -, hresults⟩ := exists_of_error_mem fate h
  obtain ⟨outs, houts⟩ := results_of_not_broken fate hbefore
  exact ⟨outs, by rw [hresults, houts]⟩

/-- Results up to an error are all there are. -/
theorem length_le_of_error_mem {items : List Item} {e : Error} {k : Nat}
    (h : .error e ∈ (results fate items).take k) : (results fate items).length ≤ k := by
  obtain ⟨outs, houts⟩ := results_of_error_mem fate (List.mem_of_mem_take h)
  rw [houts] at h ⊢
  by_contra hk
  rw [List.length_append, List.length_map, List.length_singleton] at hk
  rw [List.take_append_of_le_length (by rw [List.length_map]; omega), ← List.map_take] at h
  obtain ⟨out, -, hout⟩ := List.mem_map.1 h
  cases hout

end

end Passage

/-! ## Consuming a flow -/

namespace Flow

theorem results_ofList (items : List Item) : (ofList items).results = items.map .ok := by
  induction items with
  | nil => rfl
  | cons item rest ih => rw [ofList, results, ih, List.map_cons]

theorem results_ofSource (n : Nat) (items : List Item) : (ofSource n items).results = items.map .ok := by
  induction items generalizing n with
  | nil => rfl
  | cons item rest ih => rw [ofSource, results, ih, List.map_cons]

/-- The results of a flow of items that pass are those of the items in a row. -/
theorem results_sift (pass : Item → Traced (Except Error (Option Item))) {f : Flow} {items : List Item}
    (h : f.results = items.map .ok) :
    (f.sift pass).results = Passage.results (fun item => (pass item).value) items := by
  induction f generalizing items with
  | ended log =>
    cases items with
    | nil => rfl
    | cons item items => cases h
  | next log result rest ih =>
    cases items with
    | nil => cases h
    | cons item items =>
      obtain ⟨rfl, hrest⟩ := List.cons_eq_cons.1 h
      have ih := ih hrest
      rw [sift, Passage.results]
      cases (pass item).value with
      | error e => rfl
      | ok out =>
        cases out with
        | none => exact (results_after _ _).trans ih
        | some out => exact congrArg (.ok out :: ·) ih

/-- Asking for a number of results gives the first ones. -/
theorem value_take (f : Flow) (n k : Nat) : (f.take n (some k)).value = f.results.take k := by
  induction f generalizing n k with
  | ended log => rw [take, results, List.take_nil]
  | next log result rest ih =>
    cases k with
    | zero => rfl
    | succ k => exact congrArg (result :: ·) (ih (n + 1) k)

/-- All items are had just if no result is an error. -/
theorem collect_eq_ok {f : Flow} {outs : List Item} :
    f.collect.value = .ok outs ↔ f.results = outs.map .ok := by
  induction f generalizing outs with
  | ended log => cases outs <;> simp [collect, results]
  | next log result rest ih =>
    cases result with
    | error e => cases outs <;> simp [collect, results]
    | ok item =>
      rw [collect, results]
      cases outs with
      | nil => cases rest.collect.value <;> simp [Except.map]
      | cons out outs =>
        rw [List.map_cons, List.cons_eq_cons, ← ih]
        cases rest.collect.value <;> simp [Except.map]

/-- The first error among the results is had in place of the items. -/
theorem collect_eq_error {f : Flow} {e : Error} {outs : List Item} {more : List Result}
    (h : f.results = outs.map .ok ++ .error e :: more) : f.collect.value = .error e := by
  induction f generalizing outs with
  | ended log => cases outs <;> cases h
  | next log result rest ih =>
    rw [results] at h
    cases outs with
    | nil =>
      obtain ⟨rfl, -⟩ := List.cons_eq_cons.1 h
      rfl
    | cons out outs =>
      obtain ⟨rfl, hrest⟩ := List.cons_eq_cons.1 h
      rw [collect, ih hrest]
      rfl

end Flow

end ItemFlow
