import ItemFlow.Proofs.Conf.Grammar
import ItemFlow.Proofs.Requests
import ItemFlow.Proofs.Schedules
import Mathlib

/-!
# What runs inside a parameter

A pipe that is embedded in a parameter must be loopable, and no pipeline with a stage is. So however
the registries and the parameters of a program have come about, what runs inside a parameter is a
function, or a pipeline without stages, which gives back what it is given. A parameter that asks for
any other pipeline is refused when it is read, before there is anything that could pull an item
(`Pipeline.no_stage_inside`).
-/

namespace ItemFlow

/-! ## How things come about -/

/-- The pipes that can be made beside a registry: functions, and pipelines that are read with it. -/
inductive Pipe.MadeWith (r : Registry) : Pipe → Prop where
  | function (name : String) (f : Context → List Item → Except Error (List Item)) :
      MadeWith r (.ofFunction name f)
  | pipeline {name : String} {v : Json} {p : Pipeline} (read : Pipeline.ofJson name r v = .ok p) :
      MadeWith r p.toPipe

/-- The registries that can be built: the empty one, and any of them with one more pipe that can be
made beside it. A pipe takes the place of the one that had its name. -/
inductive Registry.Built : Registry → Prop where
  | empty : Built {}
  | register {r : Registry} {pipe : Pipe} (built : Built r) (made : pipe.MadeWith r) :
      Built (r.register pipe)

/-- A pipe that can be made beside some registry that can be built. -/
def Pipe.Made (pipe : Pipe) : Prop := ∃ r : Registry, r.Built ∧ pipe.MadeWith r

/-- The parameters that can be built: those that are read, and those that are put together, from
pipes that are embedded on trial and then given a path and a reduction. -/
inductive Conf.Built : Conf → Prop where
  | read {r : Registry} {v : Json} {c : Conf} (registry : r.Built) (read : Conf.ofJson r v = .ok c) :
      Built c
  | literal (v : Json) (coercion : Coercion) : Built (.literal v coercion)
  | reference (path : String) (default : Json) : Built (.reference path default)
  | sub {pipe : Pipe} {s : SubPipe} (made : pipe.Made) (embedded : SubPipe.ofPipe pipe = .ok s)
      (path : Option String) (reduction : Reduction) :
      Built (.sub { s with path := path, reduction := reduction })
  | record {fields : List (String × Conf)} (each : ∀ f ∈ fields, Built f.2) : Built (.record fields)
  | list {elements : List Conf} (each : ∀ c ∈ elements, Built c) : Built (.list elements)

/-- The parameters of every stage of the pipeline can be built. -/
def Pipeline.Built (p : Pipeline) : Prop := ∀ s ∈ p.stages, s.conf.Built

/-- A pipe in which no stage runs: a function, or a pipeline that is read and has no stages. -/
inductive Pipe.Stageless : Pipe → Prop where
  | function (name : String) (f : Context → List Item → Except Error (List Item)) :
      Stageless (.ofFunction name f)
  | pipeline {r : Registry} {name : String} {v : Json} {q : Pipeline} (registry : r.Built)
      (read : Pipeline.ofJson name r v = .ok q) (stages : q.stages = []) : Stageless q.toPipe

/-! ## Registries -/

/-- What a registry that has been built has under a name is a pipe of this name that has been made. -/
theorem Registry.Built.get? {r : Registry} (h : r.Built) {name : String} {pipe : Pipe}
    (hp : r.get? name = some pipe) : pipe.name = name ∧ pipe.Made := by
  induction h with
  | empty => cases hp
  | @register r added built made ih =>
    -- The pipe that was added is found under its own name, and under no other.
    rw [Registry.get?, Registry.register, Fields.get?_insert] at hp
    split at hp
    · rename_i hname
      cases hp
      exact ⟨hname.symm, r, built, made⟩
    · exact ih hp

theorem Pipe.Made.of_offers {r : Registry} (h : r.Built) {pipe : Pipe} (hp : r.Offers pipe) :
    pipe.Made := by
  obtain ⟨name, hname⟩ := hp
  exact (h.get? hname).2

/-! ## Embedding -/

/-- The pipes that are embedded in a parameter have been made. -/
theorem Conf.Built.made {c : Conf} (h : c.Built) : ∀ s ∈ c.subPipes, s.pipe.Made := by
  induction h with
  | read registry read => exact fun s hs => .of_offers registry (drawsOn_ofJson read s hs)
  | literal v coercion => exact fun s hs => by cases hs
  | reference path default => exact fun s hs => by cases hs
  | sub made embedded path reduction =>
    intro s hs
    cases List.mem_singleton.1 hs
    rwa [← SubPipe.pipe_of_ofPipe embedded] at made
  | record each ih =>
    rw [subPipes, fieldsSubPipes_eq]
    exact List.forall_mem_flatMap.2 ih
  | list each ih =>
    rw [subPipes, elementsSubPipes_eq]
    exact List.forall_mem_flatMap.2 ih

namespace Pipeline

theorem built_of_ofJson {r : Registry} (hr : r.Built) {name : String} {v : Json} {p : Pipeline}
    (h : ofJson name r v = .ok p) : p.Built := by
  intro s hs
  obtain ⟨d, hd⟩ := exists_definition h s hs
  exact .read hr (Stage.ofJson_of_ofDefinition hd)

/-! ## Pipelines without stages -/

/-- A pipeline is loopable just if it has no stages. -/
theorem loopable_iff {q : Pipeline} : q.loopable = true ↔ q.stages = [] := by
  unfold loopable
  cases q.stages with
  | nil => simp
  | cons s rest => simp [Stage.info]

/-- Without stages a pipeline gives back what it is given, and nothing happens. -/
theorem runOn_of_no_stages {q : Pipeline} (h : q.stages = []) (ctx : Context) (items : List Item)
    (way : Schedule) : (q.runOn ctx items way).run = ⟨[], .ok items⟩ := by
  have hstarts : q.Starts ctx := by
    intro s hs
    rw [h] at hs
    cases hs
  rw [runOn_eq_collect hstarts, h, Passage.sift_nil]
  induction items with
  | nil => rfl
  | cons item items ih => rw [Flow.ofList, Flow.collect, ih]; rfl

/-- The same of the pipe that the pipeline is where it is embedded. -/
theorem run_toPipe_of_no_stages {q : Pipeline} (h : q.stages = []) (ctx : Context)
    (items : List Item) :
    (q.toPipe.run ctx items).run = ⟨[], .ok items⟩ ∧
      (Deferred.driveRun (q.toPipe.runDeferred ctx items)).run = ⟨[], .ok items⟩ :=
  ⟨runOn_of_no_stages h ctx items .atOnce, runOn_of_no_stages h ctx items .suspending⟩

end Pipeline

/-- A loopable pipe that has been made has no stages. -/
theorem Pipe.Made.stageless {pipe : Pipe} (h : pipe.Made) (hl : pipe.loopable = true) :
    pipe.Stageless := by
  obtain ⟨r, hr, hmade⟩ := h
  cases hmade with
  | function name f => exact .function name f
  | pipeline read => exact .pipeline hr read (Pipeline.loopable_iff.1 hl)

/-! ## Runs -/

/-- Every event of the flow has the property. -/
def Flow.Only (P : Event → Prop) : Flow → Prop
  | ended log => ∀ e ∈ log, P e
  | next log _ rest => (∀ e ∈ log, P e) ∧ rest.Only P

namespace Flow

variable {P : Event → Prop} {f : Flow}

theorem only_ofList (items : List Item) : (ofList items).Only P := by
  induction items with
  | nil => exact List.forall_mem_nil _
  | cons item items ih => exact ⟨List.forall_mem_nil _, ih⟩

theorem only_ofSource (hpull : ∀ i, P (.pull i)) (n : Nat) (items : List Item) :
    (ofSource n items).Only P := by
  induction items generalizing n with
  | nil => exact List.forall_mem_nil _
  | cons item items ih => exact ⟨List.forall_mem_singleton.2 (hpull n), ih (n + 1)⟩

theorem Only.after {log : List Event} (hl : ∀ e ∈ log, P e) (h : f.Only P) : (f.after log).Only P := by
  cases f with
  | ended l => exact List.forall_mem_append.2 ⟨hl, h⟩
  | next l result rest => exact ⟨List.forall_mem_append.2 ⟨hl, h.1⟩, h.2⟩

theorem Only.sift {pass : Item → Traced (Except Error (Option Item))} (h : f.Only P)
    (hpass : ∀ item, ∀ e ∈ (pass item).log, P e) : (f.sift pass).Only P := by
  induction f with
  | ended log => exact h
  | next log result rest ih =>
    cases result with
    | error e => exact ⟨h.1, ih h.2⟩
    | ok item =>
      have hlog := List.forall_mem_append.2 ⟨h.1, hpass item⟩
      rw [Flow.sift]
      split
      · exact ⟨hlog, ih h.2⟩
      · exact (ih h.2).after hlog
      · exact ⟨hlog, List.forall_mem_nil _⟩

theorem Only.take (h : f.Only P) (hout : ∀ n, P (.out n)) (n k : Nat) :
    ∀ e ∈ (f.take n (some k)).log, P e := by
  induction f generalizing n k with
  | ended log =>
    rw [Flow.take]
    split
    · exact List.forall_mem_nil _
    · exact h
  | next log result rest ih =>
    rw [Flow.take]
    split
    · exact List.forall_mem_nil _
    · exact List.forall_mem_append.2 ⟨h.1, List.forall_mem_cons.2 ⟨hout n, ih h.2 _ _⟩⟩

theorem Only.collect (h : f.Only P) : ∀ e ∈ f.collect.log, P e := by
  induction f with
  | ended log => exact h
  | next log result rest ih =>
    cases result with
    | error e => exact h.1
    | ok item => exact List.forall_mem_append.2 ⟨h.1, ih h.2⟩

end Flow

/-- What happens in a run if no stage runs inside a parameter: an item is pulled, a function that is
embedded in a stage is called on one item, or a result is handed out. -/
inductive Event.Plain (p : Pipeline) : Event → Prop where
  | pull (i : Nat) : Plain p (.pull i)
  | call {s : Stage} {sub : SubPipe} {name : String}
      {f : Context → List Item → Except Error (List Item)} (stage : s ∈ p.stages)
      (embedded : sub ∈ s.conf.subPipes) (function : sub.pipe = .ofFunction name f) (item : Item) :
      Plain p (.call name [item])
  | out (n : Nat) : Plain p (.out n)

section

variable {ctx : Context} {way : Schedule}

/-- Calling a pipe without stages calls a function, or nothing happens. -/
theorem SubPipe.log_call {sub : SubPipe} (h : sub.pipe.Stageless) (item : Item) :
    ∀ e ∈ (way.call ctx sub item).run.log,
      ∃ name f, sub.pipe = .ofFunction name f ∧ e = .call name [item] := by
  obtain ⟨pipe, hl, path, reduction⟩ := sub
  cases h with
  | function name f =>
    intro e he
    have hlog : e ∈ [Event.call name [item]] := by cases way <;> exact he
    exact ⟨name, f, rfl, List.mem_singleton.1 hlog⟩
  | @pipeline _ _ _ q registry read stages =>
    intro e he
    obtain ⟨hnow, hwaited⟩ := Pipeline.run_toPipe_of_no_stages stages ctx [item]
    have hrun : (way.call ctx ⟨q.toPipe, hl, path, reduction⟩ item).run = ⟨[], .ok [item]⟩ := by
      cases way with
      | atOnce => exact hnow
      | suspending => exact hwaited
    change e ∈ (way.call ctx ⟨q.toPipe, hl, path, reduction⟩ item).run.log at he
    rw [hrun] at he
    cases he

/-- What a stage calls for an item is embedded in its parameters. -/
theorem Stage.mem_subPipes_of_called {s : Stage} {call : Call} {item : Item} {sub : SubPipe}
    (h : sub ∈ s.called call item) : sub ∈ s.conf.subPipes := by
  unfold Stage.called at h
  split at h
  · cases h
  · exact mem_subPipes (List.mem_of_mem_take h)

/-- What a row of stages calls for an item is embedded in the parameters of one of them. -/
theorem Passage.mem_subPipes_of_calls {call : Call} {stages : List Stage} {item : Item}
    {c : SubPipe × Item} (h : c ∈ Passage.calls call stages item) :
    ∃ s ∈ stages, c.1 ∈ s.conf.subPipes := by
  induction stages generalizing item with
  | nil => cases h
  | cons s rest ih =>
    rw [Passage.calls] at h
    rcases List.mem_append.1 h with h | h
    · obtain ⟨sub, hsub, rfl⟩ := List.mem_map.1 h
      exact ⟨s, List.mem_cons_self, Stage.mem_subPipes_of_called hsub⟩
    · split at h
      · obtain ⟨s', hs', hc⟩ := ih h
        exact ⟨s', List.mem_cons_of_mem s hs', hc⟩
      · cases h

namespace Pipeline

variable {p : Pipeline}

/-- Nothing but plain events happens while an item passes through a pipeline that has been built. -/
theorem Built.log_pass (h : p.Built) (item : Item) :
    ∀ e ∈ (Passage.pass (way.call ctx) p.stages item).log, e.Plain p := by
  intro e he
  obtain ⟨c, hc, hlog⟩ := List.mem_flatMap.1 he
  obtain ⟨s, hs, hsub⟩ := Passage.mem_subPipes_of_calls hc
  -- Only a pipe that has been made can be called here, and it is loopable as it is embedded.
  have hpipe := ((h s hs).made c.1 hsub).stageless c.1.loopable
  obtain ⟨name, f, hf, rfl⟩ := SubPipe.log_call hpipe c.2 e hlog
  exact .call hs hsub hf c.2

theorem Built.log_ask (h : p.Built) {items : List Item} {requests : Nat} {t : Traced (List Result)}
    (ht : p.ask ctx items requests way = .ok t) : ∀ e ∈ t.log, e.Plain p := by
  rw [ask_of_starts (starts_of_ask ht)] at ht
  cases ht
  rw [← Passage.log_take_sift]
  exact ((Flow.only_ofSource .pull 0 items).sift h.log_pass).take .out 0 requests

theorem Built.log_runOn (h : p.Built) (items : List Item) :
    ∀ e ∈ (p.runOn ctx items way).run.log, e.Plain p := by
  by_cases hstarts : p.Starts ctx
  · rw [runOn_eq_collect hstarts]
    exact ((Flow.only_ofList items).sift h.log_pass).collect
  · obtain ⟨e, he⟩ := error_of_not_starts hstarts
    cases way with
    | atOnce =>
      rw [runOn, Pipeline.run, (he _ .ended).1]
      exact List.forall_mem_nil _
    | suspending =>
      rw [runOn, runDeferred, (he (.ended []) _).2]
      exact List.forall_mem_nil _

end Pipeline

end

/-! ## Refusal -/

/-- A place that asks for an embedded pipe of a name under which the registry has a pipeline with a
stage. -/
inductive Conf.AsksForStage (r : Registry) (name : String) : Json → Prop where
  | intro {fields : List (String × Json)} {q : Pipeline}
      (form : form fields = .embedding (.str name)) (named : r.get? name = some q.toPipe)
      (stages : q.stages ≠ []) : AsksForStage r name (.obj fields)

section

variable {r : Registry} {name : String} {v : Json}

theorem Conf.AsksForStage.offends (hr : r.Built) {place : Json} (h : AsksForStage r name place) :
    Offends r place (.notLoopable name) := by
  cases h with
  | @intro fields q form named stages =>
    have hloopable : q.toPipe.loopable = false := by
      rw [Bool.eq_false_iff]
      exact fun h => stages (Pipeline.loopable_iff.1 h)
    have hname : q.toPipe.name = name := (hr.get? named).1
    rw [← hname]
    exact .refused (hname ▸ form) (hname ▸ named) hloopable

/-- A parameter with a place that asks for a stage is refused. -/
theorem Conf.refuses_stage (hr : r.Built) {place : Json} (hplace : place ∈ places v)
    (h : AsksForStage r name place) : ∃ e, ofJson r v = .error e := by
  have hsound : ¬ Sound r (places v) := fun hsound => hsound place hplace _ (h.offends hr)
  rw [sound_iff] at hsound
  push Not at hsound
  obtain ⟨e, he⟩ := hsound
  exact ⟨e, (ofJson_eq_error v e).2 he⟩

namespace Pipeline

/-- If the parameters of a stage are refused, so is the pipeline, whatever its name. -/
theorem ofJson_of_refused {w : Json} {definitions : List Stage.Definition} {d : Stage.Definition}
    {e : Error} (hread : Stage.Definition.readAll w = .ok definitions) (hd : d ∈ definitions)
    (he : Conf.ofJson r d.conf = .error e) : ∃ e', ∀ name, ofJson name r w = .error e' := by
  cases hstages : definitions.mapM (Stage.ofDefinition r) with
  | ok stages =>
    obtain ⟨s, hs⟩ := Except.ok_of_mapM_ok hstages hd
    rw [Stage.ofJson_of_ofDefinition hs] at he
    cases he
  | error e' =>
    refine ⟨e', fun name => ?_⟩
    rw [ofJson, Except.bind_eq_error]
    exact .inr ⟨definitions, hread, Except.bind_eq_error.2 (.inl hstages)⟩

end Pipeline

/-- Nothing happens in a script whose pipeline is refused. -/
theorem Script.run_of_refused {w : Json} {e : Error} (he : Pipeline.ofJson "main" r w = .error e)
    {source : String} (hsource : Json.read source = .ok w) (ctx : Context) (input : String) :
    (Script.run r ctx source input).run = ⟨[], .error e⟩ ∧
      (Deferred.driveRun (Script.runDeferred r ctx source input)).run = ⟨[], .error e⟩ := by
  have hprepare : Script.prepare r source input = .error e := by
    rw [Script.prepare, Script.load, hsource]
    dsimp only
    rw [he]
    rfl
  rw [Script.run, Script.runDeferred, hprepare]
  exact ⟨rfl, rfl⟩

end

/-! ## No stage runs inside a parameter -/

namespace Pipeline

/-- A pipe is embedded if it is loopable, and else it is refused. If an embedded pipe is a pipeline, it
has no stages, and as a pipeline and as the pipe that is evaluated it gives back what it is given.
However registries and parameters have been built, each pipe that is embedded in a parameter is a
function or such a pipeline, and so it is in a pipeline that is read with a registry. In a run of a
pipeline that has been built, no other pipes are evaluated, and nothing happens but that items are
pulled, functions are called on one item and results are handed out. A parameter that asks at some
place for a pipeline with a stage is refused, for this reason if nothing is wrong before that place.
Then a pipeline that has it is refused too, and in a script nothing happens at all. -/
theorem no_stage_inside :
    (∀ pipe : Pipe,
      (pipe.loopable = true → ∃ s, SubPipe.ofPipe pipe = .ok s ∧ s.pipe = pipe) ∧
      (pipe.loopable = false → SubPipe.ofPipe pipe = .error (.notLoopable pipe.name))) ∧
    (∀ s : SubPipe, s.pipe.loopable = true ∧ ∀ q : Pipeline, s.pipe = q.toPipe →
      q.stages = [] ∧ (∀ ctx items way, (q.runOn ctx items way).run = ⟨[], .ok items⟩) ∧
      ∀ ctx items, (s.pipe.run ctx items).run = ⟨[], .ok items⟩ ∧
        (Deferred.driveRun (s.pipe.runDeferred ctx items)).run = ⟨[], .ok items⟩) ∧
    (∀ c : Conf, c.Built → ∀ s ∈ c.subPipes, s.pipe.Stageless) ∧
    (∀ r : Registry, r.Built → ∀ name v p, ofJson name r v = .ok p → p.Built) ∧
    (∀ p : Pipeline, p.Built → ∀ ctx way,
      (∀ item, ∀ c ∈ Passage.calls (way.call ctx) p.stages item,
        c.1.pipe.loopable = true ∧ c.1.pipe.Stageless) ∧
      (∀ items requests t, p.ask ctx items requests way = .ok t → ∀ e ∈ t.log, e.Plain p) ∧
      ∀ items, ∀ e ∈ (p.runOn ctx items way).run.log, e.Plain p) ∧
    ∀ r : Registry, r.Built → ∀ v before place after name,
      Conf.places v = before ++ place :: after → Conf.AsksForStage r name place →
      (∃ e, Conf.ofJson r v = .error e) ∧
      (Conf.Sound r before → Conf.ofJson r v = .error (.notLoopable name)) ∧
      ∀ w definitions d, Stage.Definition.readAll w = .ok definitions → d ∈ definitions →
        d.conf = v → ∃ e, (∀ pipeline, ofJson pipeline r w = .error e) ∧
          ∀ source, Json.read source = .ok w → ∀ ctx input,
            (Script.run r ctx source input).run = ⟨[], .error e⟩ ∧
            (Deferred.driveRun (Script.runDeferred r ctx source input)).run = ⟨[], .error e⟩ := by
  refine ⟨fun pipe => ⟨fun h => ⟨_, SubPipe.ofPipe_of_loopable h, rfl⟩,
      SubPipe.ofPipe_of_not_loopable⟩,
    fun s => ⟨s.loopable, fun q hq => ?_⟩,
    fun c h s hs => (h.made s hs).stageless s.loopable,
    fun r hr name v p h => built_of_ofJson hr h, fun p h ctx way => ⟨fun item c hc => ?_,
    fun items requests t ht => h.log_ask ht, h.log_runOn⟩, ?_⟩
  · have hloopable : q.toPipe.loopable = true := hq ▸ s.loopable
    have hstages := loopable_iff.1 hloopable
    exact ⟨hstages, runOn_of_no_stages hstages, hq ▸ run_toPipe_of_no_stages hstages⟩
  · obtain ⟨s, hs, hsub⟩ := Passage.mem_subPipes_of_calls hc
    exact ⟨c.1.loopable, ((h s hs).made c.1 hsub).stageless c.1.loopable⟩
  · intro r hr v before place after name hplaces hasks
    have hplace : place ∈ Conf.places v := by rw [hplaces]; simp
    obtain ⟨e, he⟩ := Conf.refuses_stage hr hplace hasks
    refine ⟨⟨e, he⟩, fun hsound => ?_, fun w definitions d hread hd hconf => ?_⟩
    · rw [Conf.ofJson_eq_error]
      exact ⟨before, place, after, hplaces, hsound, hasks.offends hr⟩
    · subst hconf
      obtain ⟨e', hrefused⟩ := ofJson_of_refused hread hd he
      exact ⟨e', hrefused, fun source hsource => Script.run_of_refused (hrefused "main") hsource⟩

/-- A registry of a pipeline without stages and one with a stage. -/
def quietAndLoud : Registry :=
  (Registry.register {} (toPipe ⟨"quiet", []⟩)).register (toPipe ⟨"loud", [{ conf := .value .null }]⟩)

/-- The fields of an object that asks for a pipe. -/
def asking (pipe : String) : List (String × Json) := [("terminal", .str pipe), ("reduce", .str "all")]

/-- Parameters of a stage that takes its rules from a pipe. -/
def rulesFrom (pipe : String) : Json := .obj [(Rule.parameter, .obj (asking pipe))]

/-- The definition of a pipeline of this stage. -/
def stageFrom (pipe : String) : Json :=
  .arr [.obj [("module", .str Stage.moduleName), ("conf", rulesFrom pipe)]]

/-- The pipeline without stages may be embedded, gives back what it is given where it is, and is all
that is evaluated for an item. The parameters that ask for the other one are refused. -/
theorem no_stage_inside_quiet :
    (∃ s, SubPipe.ofPipe (toPipe ⟨"quiet", []⟩) = .ok s ∧
      ∀ items, (s.pipe.run {} items).run = ⟨[], .ok items⟩ ∧
        (Deferred.driveRun (s.pipe.runDeferred {} items)).run = ⟨[], .ok items⟩) ∧
    (∃ p, ofJson "main" quietAndLoud (stageFrom "quiet") = .ok p ∧ p.Built ∧
      ∀ item, ∀ c ∈ Passage.calls (.now {}) p.stages item,
        c.1.pipe.loopable = true ∧ c.1.pipe.Stageless) ∧
    Conf.ofJson quietAndLoud (rulesFrom "loud") = .error (.notLoopable "loud") ∧
    ∃ e, ∀ pipeline, ofJson pipeline quietAndLoud (stageFrom "loud") = .error e := by
  obtain ⟨hofPipe, hembedded, -, hread, hrun, hrefused⟩ := no_stage_inside
  obtain ⟨s, hs, hpipe⟩ := (hofPipe (toPipe ⟨"quiet", []⟩)).1 rfl
  obtain ⟨-, -, hback⟩ := (hembedded s).2 _ hpipe
  have hbuilt : quietAndLoud.Built :=
    .register (.register .empty (.pipeline (v := .arr []) rfl))
      (.pipeline (v := .arr [.obj [("module", .str "regex")]]) rfl)
  have hok : ∃ p, ofJson "main" quietAndLoud (stageFrom "quiet") = .ok p := ⟨_, rfl⟩
  obtain ⟨p, hp⟩ := hok
  have hpipeline := hread quietAndLoud hbuilt "main" _ p hp
  have hasks : Conf.AsksForStage quietAndLoud "loud" (.obj (asking "loud")) :=
    .intro (q := ⟨"loud", [{ conf := .value .null }]⟩) rfl rfl nofun
  obtain ⟨-, hfirst, hdefinition⟩ := hrefused quietAndLoud hbuilt (rulesFrom "loud")
    [rulesFrom "loud"] (.obj (asking "loud")) [] "loud" rfl hasks
  have hsound : Conf.Sound quietAndLoud [rulesFrom "loud"] :=
    Conf.sound_singleton.2 fun e => Conf.not_offends_record rfl
  obtain ⟨e, he, -⟩ := hdefinition (stageFrom "loud") [⟨Stage.moduleName, rulesFrom "loud", none, none⟩]
    ⟨Stage.moduleName, rulesFrom "loud", none, none⟩ rfl (List.mem_singleton.2 rfl) rfl
  exact ⟨⟨s, hs, hback {}⟩, ⟨p, hp, hpipeline, (hrun p hpipeline {} .atOnce).1⟩, hfirst hsound, e,
    he⟩

end Pipeline

end ItemFlow
