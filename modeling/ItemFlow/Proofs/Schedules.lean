import ItemFlow.Proofs.Conf.Embedded
import ItemFlow.Script
import Mathlib

/-!
# Running at once and with suspensions

If waiting for a pipe of the registry gives what calling it at once gives, then it makes no
difference to a pipeline whether it runs at once or with suspensions: both fail with the same error
before anything happens, or both keep in step (`Pipeline.execute_inStep`). So it is for whole runs
of a pipeline and for scripts.
-/

namespace ItemFlow

variable {ctx : Context} {r : Registry}

/-! ## Stages -/

namespace Stage

/-- What a stage calls for its items is embedded in its parameters. -/
theorem mem_subPipes {s : Stage} {sub : SubPipe} (hsub : sub ∈ s.template.subPipes) :
    sub ∈ s.conf.subPipes := by
  rw [Template.subPipes, rules_template] at hsub
  cases hp : s.conf.field? Rule.parameter with
  | none => rw [hp] at hsub; cases hsub
  | some part =>
    rw [hp] at hsub
    have hpart : sub ∈ part.listize.flatMap Conf.subPipes := hsub
    rw [Conf.flatMap_listize] at hpart
    exact Conf.mem_subPipes_of_field? hp hpart

/-- An item is treated in step. -/
theorem treat_inStep {s : Stage} (hr : r.Consistent ctx) (h : s.conf.DrawsOn r) (item : Item) :
    (s.treat (.now ctx) item).InStep ctx r (s.treat (.waited ctx) item) := by
  unfold treat
  split
  · exact Run.InStep.refl _
  · refine Run.InStep.bind (Run.InStep.mapM _ fun sub hsub => ?_) fun outputs => Run.InStep.refl _
    exact Run.InStep.call (h sub (mem_subPipes hsub)) hr [item]

/-- A stage that a definition gives has the parameters that its declaration gives. -/
theorem ofJson_of_ofDefinition {d : Definition} {s : Stage} (h : ofDefinition r d = .ok s) :
    Conf.ofJson r d.conf = .ok s.conf := by
  unfold ofDefinition at h
  dsimp only at h
  split at h
  · cases h
  · obtain ⟨conf, hconf, h⟩ := Except.of_bind_ok h
    -- Whatever the policy, the stage has the parameters that were read.
    have hs : s.conf = conf := by
      split at h <;> obtain ⟨policy, -, h⟩ := Except.of_bind_ok h <;> cases h <;> rfl
    rw [hs]
    exact hconf

theorem drawsOn_ofDefinition {d : Definition} {s : Stage} (h : ofDefinition r d = .ok s) :
    s.conf.DrawsOn r := Conf.drawsOn_ofJson (ofJson_of_ofDefinition h)

end Stage

/-! ## Pipelines -/

namespace Pipeline

/-- Every pipe embedded in a stage of the pipeline is one of the registry. -/
def DrawsOn (r : Registry) (p : Pipeline) : Prop := ∀ s ∈ p.stages, s.conf.DrawsOn r

/-- Each stage of a pipeline that was read comes from a definition. -/
theorem exists_definition {name : String} {v : Json} {p : Pipeline} (h : ofJson name r v = .ok p) :
    ∀ s ∈ p.stages, ∃ d, Stage.ofDefinition r d = .ok s := by
  unfold ofJson at h
  obtain ⟨definitions, -, h⟩ := Except.of_bind_ok h
  obtain ⟨stages, hstages, h⟩ := Except.of_bind_ok h
  cases h
  intro s hs
  obtain ⟨d, -, hd⟩ := Except.of_mem_mapM hstages hs
  exact ⟨d, hd⟩

theorem drawsOn_ofJson {name : String} {v : Json} {p : Pipeline} (h : ofJson name r v = .ok p) :
    p.DrawsOn r := by
  intro s hs
  obtain ⟨d, hd⟩ := exists_definition h s hs
  exact Stage.drawsOn_ofDefinition hd

/-! ## Executions -/

/-- Executions that agree: the same error before anything happens, or flows that keep in step. -/
inductive Agree (ctx : Context) (r : Registry) : Except Error Flow → Except Error DeferredFlow → Prop where
  | error (e : Error) : Agree ctx r (.error e) (.error e)
  | ok {flow : Flow} {waiting : DeferredFlow} (h : flow.InStep ctx r waiting.drive) :
      Agree ctx r (.ok flow) (.ok waiting)

/-- A row of stages keeps in step what comes to it in step. -/
theorem executeStages_agree (hr : r.Consistent ctx) (stages : List Stage)
    (h : ∀ s ∈ stages, s.conf.DrawsOn r) {flow : Flow} {waiting : DeferredFlow}
    (hf : flow.InStep ctx r waiting.drive) :
    Agree ctx r (executeStages ctx stages flow) (executeStagesDeferred ctx stages waiting) := by
  induction stages generalizing flow waiting with
  | nil => exact .ok hf
  | cons s rest ih =>
    rw [executeStages, executeStagesDeferred]
    cases hs : s.start ctx with
    | error e => exact .error e
    | ok running =>
      -- What the first stage hands on keeps in step again, as the stages after it need.
      refine ih (fun s' hs' => h s' (List.mem_cons_of_mem s hs')) ?_
      rw [Stage.through_eq_walk hs, Stage.drive_throughDeferred hs]
      exact hf.walk fun item => Stage.treat_inStep hr (h s List.mem_cons_self) item

theorem execute_agree (hr : r.Consistent ctx) {p : Pipeline} (h : p.DrawsOn r)
    (waiting : DeferredFlow) :
    Agree ctx r (p.execute ctx waiting.drive) (p.executeDeferred ctx waiting) :=
  executeStages_agree hr p.stages h (.refl waiting.drive)

theorem run_inStep (hr : r.Consistent ctx) {p : Pipeline} (h : p.DrawsOn r) (items : List Item) :
    (p.run ctx items).InStep ctx r (Deferred.driveRun (p.runDeferred ctx items)) := by
  have hagree := execute_agree hr h (.ofList items)
  rw [DeferredFlow.drive_ofList] at hagree
  unfold run runDeferred
  generalize p.execute ctx (.ofList items) = now at hagree
  generalize p.executeDeferred ctx (.ofList items) = later at hagree
  cases hagree with
  | error e => exact Run.InStep.refl _
  | @ok flow waiting hflow =>
    have hcollect := hflow.collect
    rw [← DeferredFlow.drive_collect] at hcollect
    exact hcollect

end Pipeline

/-! ## Scripts -/

namespace Script

theorem drawsOn_of_prepare {source input : String} {p : Pipeline} {items : List Item}
    (h : prepare r source input = .ok (p, items)) : p.DrawsOn r := by
  unfold prepare at h
  obtain ⟨p', hp, h⟩ := Except.of_bind_ok h
  obtain ⟨items', -, h⟩ := Except.of_bind_ok h
  cases h
  unfold load at hp
  split at hp
  · exact Pipeline.drawsOn_ofJson hp
  · cases hp

theorem run_inStep (hr : r.Consistent ctx) (source input : String) :
    (run r ctx source input).InStep ctx r (Deferred.driveRun (runDeferred r ctx source input)) := by
  unfold run runDeferred
  cases h : prepare r source input with
  | error e => exact Run.InStep.refl (throw e)
  | ok prepared =>
    obtain ⟨p, items⟩ := prepared
    show Run.InStep ctx r (p.run ctx items >>= fun out => pure (outcome items.length out))
      (Deferred.driveRun (p.runDeferred ctx items >>= fun out => pure (outcome items.length out)))
    rw [Deferred.driveRun_bind]
    exact (Pipeline.run_inStep hr (drawsOn_of_prepare h) items).bind fun out => Run.InStep.refl _

end Script

/-! ## Both ways -/

namespace Pipeline

/-- It makes no difference whether a pipeline runs at once or with suspensions. Led through it, a
flow and the same flow with suspensions come to the same error at once, or to flows with the same
results that keep in step however many are asked for; whole runs keep in step and come to the same
end; and so do scripts. If the pipes leave the same events behind both ways, what keeps in step is
the same, event by event. -/
theorem schedules_agree (ctx : Context) (r : Registry) (hr : r.Consistent ctx) :
    (∀ p : Pipeline, p.DrawsOn r →
      (∀ (flow : Flow) (waiting : DeferredFlow), waiting.drive = flow →
        (∃ e, p.execute ctx flow = .error e ∧ p.executeDeferred ctx waiting = .error e) ∨
        ∃ out later, p.execute ctx flow = .ok out ∧ p.executeDeferred ctx waiting = .ok later ∧
          out.InStep ctx r later.drive ∧
          ∀ n limit, (out.take n limit).InStep ctx r (later.take n limit).drive) ∧
      ∀ items, (p.run ctx items).InStep ctx r (Deferred.driveRun (p.runDeferred ctx items))) ∧
    (∀ source input, (Script.run r ctx source input).InStep ctx r
      (Deferred.driveRun (Script.runDeferred r ctx source input))) ∧
    (r.Steady ctx → ∀ (α : Type) (x y : Traced α), x.InStep ctx r y → x = y) := by
  refine ⟨fun p hp => ⟨?_, fun items => run_inStep hr hp items⟩, Script.run_inStep hr,
    fun hsteady α x y h => h.eq_of_steady hsteady⟩
  rintro flow waiting rfl
  have hagree := execute_agree hr hp waiting
  generalize p.execute ctx waiting.drive = now at hagree ⊢
  generalize p.executeDeferred ctx waiting = deferred at hagree ⊢
  cases hagree with
  | error e => exact .inl ⟨e, rfl, rfl⟩
  | @ok out later h =>
    refine .inr ⟨out, later, rfl, rfl, h, fun n limit => ?_⟩
    rw [DeferredFlow.drive_take]
    exact h.take n limit

/-- A pipe that gives back the items that it is called on. -/
def echo : Pipe := .ofFunction "echo" fun _ items => .ok items

/-- A pipeline of one stage that takes its replacement from `echo`. -/
def echoing : Pipeline where
  name := "echoing"
  stages := [{ conf := .record [(Rule.parameter, .record [("field", .text "t"), ("match", .text "o"),
    ("replace", .sub { pipe := echo, loopable := rfl, path := some "n" })])] }]

/-- With suspensions too, the item is pulled, `echo` is called on it and the item is handed out. -/
theorem schedules_agree_echoing : ∃ later,
    echoing.executeDeferred {} (.ofSource 0 [⟨[("t", .str "boot"), ("n", .str "-")]⟩]) = .ok later ∧
    (later.take 0 none).drive =
      ⟨[.pull 0, .call "echo" [⟨[("t", .str "boot"), ("n", .str "-")]⟩], .out 0],
        [.ok ⟨[("t", .str "b-ot"), ("n", .str "-")]⟩]⟩ := by
  have hsteady : Registry.Steady ⟨[("echo", echo)]⟩ {} := by
    intro pipe h
    obtain ⟨name, hmem⟩ := h.mem
    cases List.mem_singleton.1 hmem
    exact Pipe.steady_ofFunction _ _ {}
  have hdraws : echoing.DrawsOn ⟨[("echo", echo)]⟩ := by
    intro s hs sub hsub
    cases List.mem_singleton.1 hs
    cases List.mem_singleton.1 hsub
    exact ⟨"echo", rfl⟩
  have hagree := ((schedules_agree {} _ hsteady.consistent).1 echoing hdraws).1 _ _
    (DeferredFlow.drive_ofSource 0 [⟨[("t", .str "boot"), ("n", .str "-")]⟩])
  rcases hagree with ⟨e, he, -⟩ | ⟨out, later, hout, hlater, -, htake⟩
  · cases he
  · refine ⟨later, hlater, ?_⟩
    rw [← (htake 0 none).eq_of_steady hsteady]
    cases hout
    cbv

end Pipeline

end ItemFlow
