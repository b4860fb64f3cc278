import ItemFlow.Proofs.Passage
import ItemFlow.Proofs.Stage.Setup
import Mathlib

/-!
# Asking a pipeline for results

A pipeline is led to a source and asked for results. The source gives its items in a row and may go
on without end; what is asked of the pipeline is answered from a beginning of it
(`Pipeline.Answers`). What happens meanwhile is told item by item (`Passage.turns`): an item is pulled
when a result is still to be had, the stages make their calls for it, and its result, if it has one,
is handed out before the next item is pulled (`Pipeline.ask_in_turns`).
-/

namespace ItemFlow

namespace Passage

/-! ## Turns -/

/-- What happens when a number of results is asked for: each item of the source has its turn, in
which it is pulled, the calls are made for it and its result is handed out, until there are as many
results as are asked for or an error is handed out. The items are counted from `i`, the results from
`n`. -/
def turns (call : Call) (stages : List Stage) (i n : Nat) : Nat → List Item → List Event
  | 0, _ => []
  | _, [] => []
  | requests + 1, item :: rest =>
    .pull i :: call.events (calls call stages item) ++
      match fate call stages item with
      | .ok (some _) => .out n :: turns call stages (i + 1) (n + 1) requests rest
      | .ok none => turns call stages (i + 1) n (requests + 1) rest
      | .error _ => [.out n]

section

variable {call : Call} {stages : List Stage}

@[simp] theorem turns_zero (i n : Nat) (items : List Item) : turns call stages i n 0 items = [] := by
  rw [turns]

@[simp] theorem turns_nil (i n k : Nat) : turns call stages i n k [] = [] := by
  cases k <;> simp [turns]

/-- The events of requests to a flow whose items pass are the turns of the items. -/
theorem log_take_sift (items : List Item) (i n k : Nat) :
    (((Flow.ofSource i items).sift (pass call stages)).take n (some k)).log =
      turns call stages i n k items := by
  induction items generalizing i n k with
  | nil => simp [Flow.ofSource, Flow.sift, Flow.take]
  | cons item rest ih =>
    cases k with
    | zero => rw [Flow.take_zero, turns_zero]
    | succ k =>
      rw [Flow.ofSource, Flow.sift, turns]
      have hvalue : (pass call stages item).value = fate call stages item := rfl
      have hlog : (pass call stages item).log = call.events (calls call stages item) := rfl
      rw [hvalue, hlog]
      cases fate call stages item with
      | error e => simp [Flow.take]
      | ok out =>
        cases out with
        | none => simp [Flow.take_after, ih]
        | some out => simp [Flow.take, ih]

/-- Items that come later have their turns after those before them, if results are still to be had
and no error has been handed out. -/
theorem turns_append (a b : List Item) (i n k : Nat) :
    turns call stages i n k (a ++ b) = turns call stages i n k a ++
      if broken (fate call stages) a then []
      else turns call stages (i + a.length) (n + (results (fate call stages) a).length)
        (k - (results (fate call stages) a).length) b := by
  induction a generalizing i n k with
  | nil => simp [broken, results]
  | cons item a ih =>
    cases k with
    | zero => simp
    | succ k =>
      rw [List.cons_append, turns, turns, broken, List.any_cons, results]
      cases fate call stages item with
      | error e => simp [Except.toBool]
      | ok out =>
        have hi : i + 1 + a.length = i + (a.length + 1) := by omega
        cases out with
        | none => simp [Except.toBool, ih, broken, hi]
        | some out =>
          have hn : ∀ m, n + 1 + m = n + (m + 1) := by omega
          simp [Except.toBool, ih, broken, hi, hn]

/-- Nothing happens in requests after an error. -/
theorem turns_add {items : List Item} {k : Nat} {e : Error} (i n more : Nat)
    (h : .error e ∈ (results (fate call stages) items).take k) :
    turns call stages i n (k + more) items = turns call stages i n k items := by
  induction items generalizing i n k with
  | nil => simp
  | cons item items ih =>
    cases k with
    | zero => cases h
    | succ k =>
      rw [results] at h
      rw [Nat.add_right_comm, turns, turns]
      cases hf : fate call stages item with
      | error e' => rfl
      | ok out =>
        rw [hf] at h
        cases out with
        | none =>
          have := ih (i + 1) n h
          simp [← this, Nat.add_right_comm]
        | some out =>
          have h : .error e ∈ (results (fate call stages) items).take k := by simpa using h
          simp [ih (i + 1) (n + 1) h]

end

end Passage

/-! ## Requests -/

/-- How a pipeline runs. -/
inductive Schedule where
  /-- It calls embedded pipes at once. -/
  | atOnce
  /-- It waits for them. -/
  | suspending
deriving DecidableEq, Repr

/-- How embedded pipes are called. -/
def Schedule.call (ctx : Context) : Schedule → Call
  | atOnce => .now ctx
  | suspending => .waited ctx

namespace Pipeline

/-- Every stage of the pipeline starts. -/
def Starts (p : Pipeline) (ctx : Context) : Prop := ∀ s ∈ p.stages, ∃ running, s.start ctx = .ok running

/-- What a number of requests comes to if the pipeline is led to a source of the items. -/
def ask (p : Pipeline) (ctx : Context) (items : List Item) (requests : Nat) :
    Schedule → Except Error (Traced (List Result))
  | .atOnce => (p.execute ctx (.ofSource 0 items)).map fun flow => flow.take 0 (some requests)
  | .suspending => (p.executeDeferred ctx (.ofSource 0 items)).map fun flow =>
    (flow.take 0 (some requests)).drive

/-- What a whole run on items at hand comes to. -/
def runOn (p : Pipeline) (ctx : Context) (items : List Item) : Schedule → Run (List Item)
  | .atOnce => p.run ctx items
  | .suspending => Deferred.driveRun (p.runDeferred ctx items)

/-- What requests come to if the pipeline is led to a source that may go on without end: what they
come to on each beginning of the source that is long enough. There is none such if the stages drop
one item after another and the source does not end. -/
def Answers (p : Pipeline) (ctx : Context) (way : Schedule) (source : Stream'.Seq Item) (requests : Nat)
    (t : Traced (List Result)) : Prop :=
  ∃ reach, ∀ more, p.ask ctx (source.take (reach + more)) requests way = .ok t

section

open Passage

variable {p : Pipeline} {ctx : Context}

/-- If a stage does not start, the pipeline fails without regard to its source. -/
theorem error_of_not_starts (h : ¬ p.Starts ctx) : ∃ e, ∀ flow waiting,
    p.execute ctx flow = .error e ∧ p.executeDeferred ctx waiting = .error e := by
  unfold Starts at h
  push Not at h
  obtain ⟨s, hs, h⟩ := h
  cases hstart : s.start ctx with
  | ok running => exact absurd hstart (h running)
  | error e => exact Stage.execute_eq_error hstart hs

theorem ask_of_starts (h : p.Starts ctx) (items : List Item) (requests : Nat) (way : Schedule) :
    p.ask ctx items requests way = .ok ⟨turns (way.call ctx) p.stages 0 0 requests items,
      (results (fate (way.call ctx) p.stages) items).take requests⟩ := by
  have htake : ∀ call : Call, ((Flow.ofSource 0 items).sift (pass call p.stages)).take 0 (some requests) =
      ⟨turns call p.stages 0 0 requests items, (results (fate call p.stages) items).take requests⟩ := by
    intro call
    refine Traced.ext (log_take_sift items 0 0 requests) ?_
    rw [Flow.value_take, Flow.results_sift _ (Flow.results_ofSource 0 items)]
    rfl
  cases way with
  | atOnce =>
    rw [ask, execute, executeStages_eq h]
    exact congrArg Except.ok (htake _)
  | suspending =>
    obtain ⟨later, hlater, hdrive⟩ := executeStagesDeferred_eq h (.ofSource 0 items)
    rw [ask, executeDeferred, hlater]
    refine congrArg Except.ok ?_
    show (later.take 0 (some requests)).drive = _
    rw [DeferredFlow.drive_take, hdrive, DeferredFlow.drive_ofSource, htake]
    rfl

theorem starts_of_ask {items : List Item} {requests : Nat} {way : Schedule} {t : Traced (List Result)}
    (h : p.ask ctx items requests way = .ok t) : p.Starts ctx := by
  by_contra hstarts
  obtain ⟨e, he⟩ := error_of_not_starts hstarts
  cases way with
  | atOnce => rw [ask, (he _ .ended).1] at h; cases h
  | suspending => rw [ask, (he (.ended []) _).2] at h; cases h

/-! ## Whole runs -/

/-- A whole run lets the items pass and takes together what comes of them. -/
theorem runOn_eq_collect (h : p.Starts ctx) (items : List Item) (way : Schedule) :
    (p.runOn ctx items way).run =
      ((Flow.ofList items).sift (pass (way.call ctx) p.stages)).collect := by
  cases way with
  | atOnce =>
    rw [runOn, Pipeline.run, execute, executeStages_eq h]
    rfl
  | suspending =>
    obtain ⟨later, hlater, hdrive⟩ := executeStagesDeferred_eq h (.ofList items)
    rw [runOn, runDeferred, executeDeferred, hlater]
    show later.collect.drive = _
    rw [DeferredFlow.drive_collect, hdrive, DeferredFlow.drive_ofList]
    rfl

/-- It comes to the results of the items in a row, taken together. -/
theorem runOn_of_starts (h : p.Starts ctx) (items : List Item) (way : Schedule) :
    ∃ flow : Flow, (p.runOn ctx items way).run.value = flow.collect.value ∧
      flow.results = results (fate (way.call ctx) p.stages) items :=
  ⟨_, congrArg Traced.value (runOn_eq_collect h items way),
    Flow.results_sift _ (Flow.results_ofList items)⟩

/-- A whole run succeeds just if every stage starts and no item comes to an error. -/
theorem runOn_eq_ok {items outs : List Item} {way : Schedule} :
    (p.runOn ctx items way).run.value = .ok outs ↔
      p.Starts ctx ∧ results (fate (way.call ctx) p.stages) items = outs.map .ok := by
  by_cases hstarts : p.Starts ctx
  · obtain ⟨flow, hrun, hresults⟩ := runOn_of_starts hstarts items way
    rw [hrun, Flow.collect_eq_ok, hresults]
    exact ⟨fun h => ⟨hstarts, h⟩, fun h => h.2⟩
  · refine iff_of_false ?_ fun h => hstarts h.1
    obtain ⟨e, he⟩ := error_of_not_starts hstarts
    cases way with
    | atOnce => rw [runOn, Pipeline.run, (he _ .ended).1]; nofun
    | suspending => rw [runOn, runDeferred, (he (.ended []) _).2]; nofun

/-- It fails with the error that an item comes to. -/
theorem runOn_eq_error (h : p.Starts ctx) {items : List Item} {way : Schedule} {e : Error} :
    (p.runOn ctx items way).run.value = .error e ↔
      .error e ∈ results (fate (way.call ctx) p.stages) items := by
  obtain ⟨flow, hrun, hresults⟩ := runOn_of_starts h items way
  have herror : ∀ e', .error e' ∈ results (fate (way.call ctx) p.stages) items →
      (p.runOn ctx items way).run.value = .error e' := by
    intro e' he'
    obtain ⟨outs, houts⟩ := results_of_error_mem _ he'
    rw [hrun, Flow.collect_eq_error (hresults.trans houts)]
  refine ⟨fun hvalue => ?_, herror e⟩
  cases hb : broken (fate (way.call ctx) p.stages) items with
  | false =>
    obtain ⟨outs, houts⟩ := results_of_not_broken _ hb
    rw [runOn_eq_ok.2 ⟨h, houts⟩] at hvalue
    cases hvalue
  | true =>
    obtain ⟨e', he'⟩ := (broken_iff _).1 hb
    rw [herror e' he'] at hvalue
    cases hvalue
    exact he'

/-! ## Sources without end -/

/-- A longer beginning of a source starts with a shorter one. -/
theorem exists_take_add (source : Stream'.Seq Item) (reach more : Nat) :
    ∃ later, source.take (reach + more) = source.take reach ++ later := by
  induction reach generalizing source with
  | zero => exact ⟨source.take (0 + more), by simp⟩
  | succ reach ih =>
    cases source with
    | nil => exact ⟨[], by simp⟩
    | cons item source =>
      obtain ⟨later, hlater⟩ := ih source
      refine ⟨later, ?_⟩
      rw [Nat.add_right_comm, Stream'.Seq.take_succ_cons, Stream'.Seq.take_succ_cons, hlater]
      rfl

variable {way : Schedule} {source : Stream'.Seq Item} {requests reach : Nat} {t : Traced (List Result)}

/-- What a beginning of the source answers in full does not depend on what comes later. -/
theorem answers_of_length (h : p.ask ctx (source.take reach) requests way = .ok t)
    (ht : requests ≤ t.value.length) : p.Answers ctx way source requests t := by
  have hstarts := starts_of_ask h
  rw [ask_of_starts hstarts] at h
  cases h
  refine ⟨reach, fun more => ?_⟩
  obtain ⟨later, hlater⟩ := exists_take_add source reach more
  have hk : requests ≤ (results (fate (way.call ctx) p.stages) (source.take reach)).length := by
    simp at ht; omega
  rw [ask_of_starts hstarts, hlater, turns_append, results_append, List.take_append_of_le_length hk,
    Nat.sub_eq_zero_of_le hk]
  simp

/-- An error that a beginning of the source comes to is the end, however many results are asked for
and whatever comes later. -/
theorem answers_of_error (h : p.ask ctx (source.take reach) requests way = .ok t) {e : Error}
    (he : .error e ∈ t.value) (more : Nat) : p.Answers ctx way source (requests + more) t := by
  have hstarts := starts_of_ask h
  rw [ask_of_starts hstarts] at h
  cases h
  refine ⟨reach, fun further => ?_⟩
  obtain ⟨later, hlater⟩ := exists_take_add source reach further
  have hbroken := (broken_iff _).2 ⟨e, List.mem_of_mem_take he⟩
  have hk := length_le_of_error_mem _ he
  rw [ask_of_starts hstarts, hlater, turns_append, results_append, hbroken, if_pos rfl, if_pos rfl,
    List.append_nil, List.append_nil, turns_add 0 0 more he, List.take_of_length_le hk,
    List.take_of_length_le (by omega)]

/-- A source that has ended gives the same beginning however far it is followed. -/
theorem take_of_terminatedAt (h : source.TerminatedAt reach) (more : Nat) :
    source.take (reach + more) = source.take reach := by
  apply List.ext_getElem?
  intro i
  rw [Stream'.Seq.getElem?_take, Stream'.Seq.getElem?_take]
  by_cases hi : i < reach
  · rw [if_pos hi, if_pos (by omega)]
  · have hnone : source.get? i = none := source.le_stable (by omega) h
    rw [if_neg hi, hnone, ite_self]

/-! ## One item at a time -/

/-- A pipeline with a stage that does not start fails without a pull or a call. Any other pipeline
takes up one item of its source at a time: what happens are the turns of the items, those of a longer
beginning of the source go on where those of a shorter one stop, and no item after those that answer
the requests, or after one that comes to an error, has a turn. -/
theorem ask_in_turns (p : Pipeline) (ctx : Context) (way : Schedule) (source : Stream'.Seq Item) :
    (¬ p.Starts ctx → ∃ e, ∀ items, (∀ requests, p.ask ctx items requests way = .error e) ∧
      (p.runOn ctx items way).run = ⟨[], .error e⟩) ∧
    (p.Starts ctx → ∀ requests reach, ∃ t, p.ask ctx (source.take reach) requests way = .ok t ∧
      t.log = turns (way.call ctx) p.stages 0 0 requests (source.take reach) ∧
      (∀ more, t.log <+: turns (way.call ctx) p.stages 0 0 requests (source.take (reach + more))) ∧
      (requests ≤ t.value.length ∨ source.TerminatedAt reach → p.Answers ctx way source requests t) ∧
      ∀ e, .error e ∈ t.value → ∀ more, p.Answers ctx way source (requests + more) t) := by
  constructor
  · intro h
    obtain ⟨e, he⟩ := error_of_not_starts h
    refine ⟨e, fun items => ⟨fun requests => ?_, ?_⟩⟩
    · cases way with
      | atOnce => rw [ask, (he _ .ended).1]; rfl
      | suspending => rw [ask, (he (.ended []) _).2]; rfl
    · cases way with
      | atOnce => rw [runOn, Pipeline.run, (he _ .ended).1]; rfl
      | suspending => rw [runOn, runDeferred, (he (.ended []) _).2]; rfl
  · intro h requests reach
    have hask := ask_of_starts h (source.take reach) requests way
    refine ⟨_, hask, rfl, fun more => ?_, ?_, fun e he => answers_of_error hask he⟩
    · obtain ⟨later, hlater⟩ := exists_take_add source reach more
      rw [hlater, turns_append]
      exact List.prefix_append _ _
    · rintro (hlength | hended)
      · exact answers_of_length hask hlength
      · exact ⟨reach, fun more => by rw [take_of_terminatedAt hended, hask]⟩

end

/-- Two stages that take their replacement from a pipe; the first one skips the items on which that
fails. -/
def twoStages : Pipeline := ⟨"two stages", [Stage.skipping, { Stage.skipping with policy := .abort }]⟩

/-- An item that is skipped, and then the same item without end. -/
def endless : Stream'.Seq Item :=
  .cons ⟨[("bad", .null)]⟩ (.ofStream (.const ⟨[("t", .str "oo"), ("n", .str "-")]⟩))

/-- One request has the first item pulled and dropped and the second one pulled and handed out. Each
stage calls its pipe for the item as the stage before it has left it. -/
theorem ask_in_turns_endless : twoStages.Starts {} ∧ twoStages.Answers {} .atOnce endless 1
    ⟨[.pull 0, .call "picky" [⟨[("bad", .null)]⟩],
      .pull 1, .call "picky" [⟨[("t", .str "oo"), ("n", .str "-")]⟩],
      .call "picky" [⟨[("t", .str "-o"), ("n", .str "-")]⟩], .out 0],
    [.ok ⟨[("t", .str "--"), ("n", .str "-")]⟩]⟩ := by
  have hstarts : twoStages.Starts {} := by
    intro s hs
    rcases List.mem_pair.1 hs with rfl | rfl <;> exact ⟨_, rfl⟩
  obtain ⟨t, hask, -, -, hanswers, -⟩ := (ask_in_turns twoStages {} .atOnce endless).2 hstarts 1 2
  have hanswer : ∀ expected, twoStages.ask {} (endless.take 2) 1 .atOnce = .ok expected →
      1 ≤ expected.value.length → twoStages.Answers {} .atOnce endless 1 expected := by
    intro expected h hlength
    rw [hask] at h
    cases h
    exact hanswers (.inl hlength)
  exact ⟨hstarts, hanswer _ (by cbv) (by decide)⟩

end Pipeline

end ItemFlow
