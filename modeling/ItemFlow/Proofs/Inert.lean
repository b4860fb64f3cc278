import ItemFlow.Proofs.Requests
import Mathlib

/-!
# Stages that do nothing

A stage without rules does nothing, and neither does a stage with the items that bypass it, whatever
its rules are. If it starts, it may be taken out of its pipeline wherever it stands: the same items
are pulled, the same calls are made and the same results are handed out, item by item
(`Pipeline.ask_without`). Only the items that reach the stage count: those that are taken up when
results are asked for and that the stages before it hand on.
-/

namespace ItemFlow

namespace Stage

variable {s : Stage} {item : Item}

/-- The stage has no rules: its parameters declare none, or an empty list of them. -/
def WithoutRules (s : Stage) : Prop :=
  s.conf.field? Rule.parameter = none ∨ s.conf.field? Rule.parameter = some (.list [])

/-- The stage does nothing with the item. -/
def Inert (s : Stage) (item : Item) : Prop := s.WithoutRules ∨ s.template.bypasses item = true

theorem rules_of_withoutRules (h : s.WithoutRules) : s.template.rules = [] := by
  rw [rules_template]
  rcases h with h | h <;> rw [h] <;> rfl

theorem definitions_template (s : Stage) : s.template.definitions = .list s.template.rules := rfl

/-- A stage that does nothing with an item calls nothing and gives the item back. -/
theorem treat_of_inert (h : s.Inert item) (call : Call) : s.treat call item = pure item := by
  unfold treat
  by_cases hb : s.template.bypasses item = true
  · rw [if_pos hb]
  · -- There are no rules, so there is nothing to call, to resolve or to apply.
    have hrules := rules_of_withoutRules (h.resolve_right hb)
    have hsubs : s.template.subPipes = [] := by rw [Template.subPipes, hrules]; rfl
    have hnone : s.rulesWith item [] = .ok [] := by
      unfold rulesWith Template.resolvePieces
      rw [definitions_template, hrules]
      rfl
    rw [if_neg hb, hsubs, List.mapM_nil, pure_bind, hnone]
    rfl

theorem outcome_of_inert (h : s.Inert item) (call : Call) : s.outcome call item = .ok item := by
  rw [outcome, treat_of_inert h]
  rfl

/-- A stage that does nothing with the items of a flow hands the flow on as it is. -/
theorem walk_of_inert {f : Flow} (h : ∀ item, .ok item ∈ f.results → s.Inert item) (call : Call) :
    f.walk s.policy (s.treat call) = f := by
  induction f with
  | ended log => rfl
  | next log result rest ih =>
    have hrest := ih fun item hitem => h item (List.mem_cons_of_mem _ hitem)
    cases result with
    | error e => rw [Flow.walk, hrest]
    | ok item =>
      rw [Flow.walk, treat_of_inert (h item List.mem_cons_self), hrest]
      exact congrArg (Flow.next · (.ok item) rest) (List.append_nil log)

theorem called_of_inert (h : s.Inert item) (call : Call) : s.called call item = [] := by
  unfold called
  by_cases hb : s.template.bypasses item = true
  · rw [if_pos hb]
  · have hrules := rules_of_withoutRules (h.resolve_right hb)
    rw [if_neg hb, Template.subPipes, hrules, List.flatMap_nil, List.take_nil]

end Stage

/-! ## One item -/

namespace Passage

variable {call : Call} {before after : List Stage} {s : Stage} {item : Item}

/-- An item passes through a stage that does nothing with it as if the stage were not there. -/
theorem pass_without (h : ∀ reached, fate call before item = .ok (some reached) → s.Inert reached) :
    pass call (before ++ s :: after) item = pass call (before ++ after) item := by
  suffices hboth : calls call (before ++ s :: after) item = calls call (before ++ after) item ∧
      fate call (before ++ s :: after) item = fate call (before ++ after) item by
    rw [pass, pass, hboth.1, hboth.2]
  induction before generalizing item with
  | nil =>
    have hinert := h item rfl
    rw [List.nil_append, List.nil_append, calls, fate, Stage.outcome_of_inert hinert,
      Stage.called_of_inert hinert]
    exact ⟨rfl, rfl⟩
  | cons first before ih =>
    simp only [List.cons_append, calls, fate] at h ⊢
    cases ho : first.outcome call item with
    | error e => exact ⟨rfl, rfl⟩
    | ok out =>
      rw [ho] at h
      obtain ⟨hcalls, hfate⟩ := ih h
      exact ⟨congrArg (_ ++ ·) hcalls, hfate⟩

/-! ## Items that are taken up -/

/-- The items that are taken up when a number of results is asked for: those before which there are
fewer results, and no error. -/
def taken (fate : Item → Except Error (Option Item)) : Nat → List Item → List Item
  | 0, _ => []
  | _, [] => []
  | requests + 1, item :: rest =>
    item :: match fate item with
      | .ok (some _) => taken fate requests rest
      | .ok none => taken fate (requests + 1) rest
      | .error _ => []

/-- The items that reach a stage when a number of results is asked for. -/
def Reaches (call : Call) (before : List Stage) (s : Stage) (after : List Stage) (requests : Nat)
    (items : List Item) (reached : Item) : Prop :=
  ∃ item ∈ taken (fate call (before ++ s :: after)) requests items,
    fate call before item = .ok (some reached)

/-- The stage does nothing with the items that reach it. -/
def Idle (call : Call) (before : List Stage) (s : Stage) (after : List Stage) (requests : Nat)
    (items : List Item) : Prop :=
  ∀ reached, Reaches call before s after requests items reached → s.Inert reached

theorem Idle.pass_eq {requests : Nat} {items : List Item}
    (h : Idle call before s after requests items) :
    ∀ item ∈ taken (fate call (before ++ s :: after)) requests items,
      pass call (before ++ s :: after) item = pass call (before ++ after) item :=
  fun item hitem => pass_without fun reached hreached => h reached ⟨item, hitem, hreached⟩

section

variable {stages stages' : List Stage}

/-- Items that are not taken up make no difference to what happens and to what is handed out. -/
theorem turns_congr {items : List Item} {k : Nat}
    (h : ∀ item ∈ taken (fate call stages) k items, pass call stages item = pass call stages' item)
    (i n : Nat) :
    turns call stages i n k items = turns call stages' i n k items ∧
      (results (fate call stages) items).take k = (results (fate call stages') items).take k := by
  induction items generalizing i n k with
  | nil => exact ⟨by rw [turns_nil, turns_nil], rfl⟩
  | cons item items ih =>
    cases k with
    | zero => exact ⟨by rw [turns_zero, turns_zero], rfl⟩
    | succ k =>
      have hpass := h item (by rw [taken]; exact List.mem_cons_self)
      have hevents : call.events (calls call stages item) = call.events (calls call stages' item) :=
        congrArg Traced.log hpass
      have hfate : fate call stages item = fate call stages' item := congrArg Traced.value hpass
      rw [turns, turns, results, results, ← hevents, ← hfate]
      rw [taken] at h
      cases hf : fate call stages item with
      | error e => exact ⟨rfl, rfl⟩
      | ok out =>
        rw [hf] at h
        have hrest := fun item hitem => h item (List.mem_cons_of_mem _ hitem)
        cases out with
        | none =>
          obtain ⟨hturns, hresults⟩ := ih hrest (i + 1) n
          exact ⟨congrArg (_ :: _ ++ ·) hturns, hresults⟩
        | some out =>
          obtain ⟨hturns, hresults⟩ := ih hrest (i + 1) (n + 1)
          exact ⟨congrArg (_ :: _ ++ _ :: ·) hturns, congrArg (_ :: ·) hresults⟩

/-- So it is for whole flows. -/
theorem sift_congr {items : List Item} {k : Nat} (hk : items.length ≤ k)
    (h : ∀ item ∈ taken (fate call stages) k items, pass call stages item = pass call stages' item) :
    (Flow.ofList items).sift (pass call stages) = (Flow.ofList items).sift (pass call stages') := by
  induction items generalizing k with
  | nil => rfl
  | cons item items ih =>
    obtain _ | k := k
    · cases hk
    · rw [taken] at h
      rw [Flow.ofList, Flow.sift, Flow.sift, ← h item List.mem_cons_self]
      have hrest := fun item hitem => h item (List.mem_cons_of_mem _ hitem)
      have hlength := Nat.le_of_succ_le_succ hk
      have hvalue : (pass call stages item).value = fate call stages item := rfl
      rw [hvalue]
      cases hf : fate call stages item with
      | error e => rfl
      | ok out =>
        rw [hf] at hrest
        cases out with
        | none => exact congrArg (Flow.after _) (ih (hlength.trans (Nat.le_succ k)) hrest)
        | some out => exact congrArg (Flow.next _ _) (ih hlength hrest)

end

end Passage

/-! ## Starting -/

/-- The error that keeps a stage from starting, if there is one. -/
def Stage.startError? (ctx : Context) (s : Stage) : Option Error :=
  match s.start ctx with
  | .ok _ => none
  | .error e => some e

namespace Pipeline

variable {ctx : Context} {stages before after : List Stage} {s : Stage} {e : Error}

/-- A row of stages fails with the error of the first that does not start, whatever the flow. -/
theorem executeStages_eq_error {flow : Flow} : executeStages ctx stages flow = .error e ↔
    stages.findSome? (Stage.startError? ctx) = some e := by
  induction stages generalizing flow with
  | nil => exact ⟨nofun, nofun⟩
  | cons s rest ih =>
    rw [executeStages, List.findSome?_cons, Stage.startError?]
    cases s.start ctx with
    | error e' => exact ⟨fun h => by cases h; rfl, fun h => by cases h; rfl⟩
    | ok running => exact ih

theorem executeStagesDeferred_eq_error {waiting : DeferredFlow} :
    executeStagesDeferred ctx stages waiting = .error e ↔
      stages.findSome? (Stage.startError? ctx) = some e := by
  induction stages generalizing waiting with
  | nil => exact ⟨nofun, nofun⟩
  | cons s rest ih =>
    rw [executeStagesDeferred, List.findSome?_cons, Stage.startError?]
    cases s.start ctx with
    | error e' => exact ⟨fun h => by cases h; rfl, fun h => by cases h; rfl⟩
    | ok running => exact ih

/-! ## Taking a stage out -/

section

variable {p p' : Pipeline} {way : Schedule} {items : List Item}

theorem starts_without (hp : p.stages = before ++ s :: after) (hp' : p'.stages = before ++ after)
    (h : ∃ running, s.start ctx = .ok running) : p.Starts ctx ↔ p'.Starts ctx := by
  unfold Starts
  rw [hp, hp', List.forall_mem_append, List.forall_mem_append, List.forall_mem_cons, and_iff_right h]

/-- If another stage does not start, both pipelines fail with its error. -/
theorem error_without (hp : p.stages = before ++ s :: after) (hp' : p'.stages = before ++ after)
    (h : ∃ running, s.start ctx = .ok running) (hstarts : ¬ p.Starts ctx) :
    ∃ e, ∀ flow waiting, (p.execute ctx flow = .error e ∧ p.executeDeferred ctx waiting = .error e) ∧
      p'.execute ctx flow = .error e ∧ p'.executeDeferred ctx waiting = .error e := by
  obtain ⟨running, hs⟩ := h
  have hnone : (s.startError? ctx).isNone = true := by rw [Stage.startError?, hs]; rfl
  obtain ⟨e, he⟩ := error_of_not_starts hstarts
  have hfirst := executeStages_eq_error.1 (he (.ended []) .ended).1
  rw [hp, List.findSome?_append, List.findSome?_cons_of_isNone hnone, ← List.findSome?_append,
    ← hp'] at hfirst
  exact ⟨e, fun flow waiting => ⟨he flow waiting, executeStages_eq_error.2 hfirst,
    executeStagesDeferred_eq_error.2 hfirst⟩⟩

theorem ask_eq_without (hp : p.stages = before ++ s :: after) (hp' : p'.stages = before ++ after)
    (h : ∃ running, s.start ctx = .ok running) {requests : Nat}
    (hidle : Passage.Idle (way.call ctx) before s after requests items) :
    p.ask ctx items requests way = p'.ask ctx items requests way := by
  by_cases hstarts : p.Starts ctx
  · obtain ⟨hturns, hresults⟩ := Passage.turns_congr hidle.pass_eq 0 0
    rw [ask_of_starts hstarts, ask_of_starts ((starts_without hp hp' h).1 hstarts), hp, hp', hturns,
      hresults]
  · obtain ⟨e, he⟩ := error_without hp hp' h hstarts
    cases way with
    | atOnce => rw [ask, ask, (he _ .ended).1.1, (he _ .ended).2.1]
    | suspending => rw [ask, ask, (he (.ended []) _).1.2, (he (.ended []) _).2.2]

theorem runOn_eq_without (hp : p.stages = before ++ s :: after) (hp' : p'.stages = before ++ after)
    (h : ∃ running, s.start ctx = .ok running)
    (hidle : Passage.Idle (way.call ctx) before s after items.length items) :
    p.runOn ctx items way = p'.runOn ctx items way := by
  by_cases hstarts : p.Starts ctx
  · have hsift := Passage.sift_congr le_rfl hidle.pass_eq
    have hrun := runOn_eq_collect hstarts items way
    have hrun' := runOn_eq_collect ((starts_without hp hp' h).1 hstarts) items way
    rw [hp, hsift] at hrun
    rw [hp'] at hrun'
    exact hrun.trans hrun'.symm
  · obtain ⟨e, he⟩ := error_without hp hp' h hstarts
    cases way with
    | atOnce =>
      rw [runOn, runOn, Pipeline.run, Pipeline.run, (he _ .ended).1.1, (he _ .ended).2.1]
    | suspending =>
      rw [runOn, runOn, runDeferred, runDeferred, (he (.ended []) _).1.2, (he (.ended []) _).2.2]

end

/-- A stage that starts may be taken out of its pipeline if it does nothing with the items that reach
it. Any number of requests then comes to the same results with the same pulls and calls, on a
beginning of a source and on the whole of it, and a run on items at hand comes to the same. By itself
the stage hands on a flow as it is, errors included. -/
theorem ask_without (p p' : Pipeline) (before after : List Stage) (s : Stage) (ctx : Context)
    (way : Schedule) (hp : p.stages = before ++ s :: after) (hp' : p'.stages = before ++ after)
    (running : Stage.Running) (h : s.start ctx = .ok running) :
    (∀ items requests, Passage.Idle (way.call ctx) before s after requests items →
      p.ask ctx items requests way = p'.ask ctx items requests way) ∧
    (∀ (source : Stream'.Seq Item) requests,
      (∀ reach, Passage.Idle (way.call ctx) before s after requests (source.take reach)) →
      ∀ t, p.Answers ctx way source requests t ↔ p'.Answers ctx way source requests t) ∧
    (∀ items, Passage.Idle (way.call ctx) before s after items.length items →
      p.runOn ctx items way = p'.runOn ctx items way) ∧
    ∀ (flow : Flow) (waiting : DeferredFlow), waiting.drive = flow →
      (∀ item, .ok item ∈ flow.results → s.Inert item) →
      running.through flow = flow ∧ (running.throughDeferred waiting).drive = flow := by
  refine ⟨fun items requests => ask_eq_without hp hp' ⟨running, h⟩, ?_,
    fun items => runOn_eq_without hp hp' ⟨running, h⟩, ?_⟩
  · intro source requests hidle t
    refine exists_congr fun reach => forall_congr' fun more => ?_
    rw [ask_eq_without hp hp' ⟨running, h⟩ (hidle (reach + more))]
  · rintro flow waiting rfl hinert
    exact ⟨(Stage.through_eq_walk h _).trans (Stage.walk_of_inert hinert _),
      (Stage.drive_throughDeferred h _).trans (Stage.walk_of_inert hinert _)⟩

/-- A stage that takes its replacement from a pipe; items with a field `n` bypass it. -/
def guarded : Stage := { Stage.skipping with bypass := some (·.contains "n") }

/-- The pipeline `twoStages` with that stage in between. -/
def threeStages : Pipeline :=
  ⟨"three stages", [Stage.skipping, guarded, { Stage.skipping with policy := .abort }]⟩

/-- An item that the first stage drops, one that bypasses the stage in between and one that does
not. -/
def mixedItems : List Item :=
  [⟨[("bad", .null)]⟩, ⟨[("t", .str "oo"), ("n", .str "-")]⟩, ⟨[("t", .str "o")]⟩]

/-- One request takes up the first two items only, and of the three stages the one in between makes
no call. -/
theorem ask_without_guarded :
    Passage.Idle (.now {}) [Stage.skipping] guarded [{ Stage.skipping with policy := .abort }] 1
      mixedItems ∧
    threeStages.ask {} mixedItems 1 .atOnce = .ok ⟨[.pull 0, .call "picky" [⟨[("bad", .null)]⟩],
        .pull 1, .call "picky" [⟨[("t", .str "oo"), ("n", .str "-")]⟩],
        .call "picky" [⟨[("t", .str "-o"), ("n", .str "-")]⟩], .out 0],
      [.ok ⟨[("t", .str "--"), ("n", .str "-")]⟩]⟩ := by
  have hidle : Passage.Idle (.now {}) [Stage.skipping] guarded
      [{ Stage.skipping with policy := .abort }] 1 mixedItems := by
    rintro reached ⟨item, hitem, hreached⟩
    have htaken : Passage.taken (Passage.fate (.now {})
        ([Stage.skipping] ++ guarded :: [{ Stage.skipping with policy := .abort }])) 1 mixedItems =
        [⟨[("bad", .null)]⟩, ⟨[("t", .str "oo"), ("n", .str "-")]⟩] := by cbv
    rw [htaken] at hitem
    rcases List.mem_pair.1 hitem with rfl | rfl
    · have hdropped : Passage.fate (.now {}) [Stage.skipping] ⟨[("bad", .null)]⟩ = .ok none := by cbv
      rw [hdropped] at hreached
      cases hreached
    · have hchanged : Passage.fate (.now {}) [Stage.skipping] ⟨[("t", .str "oo"), ("n", .str "-")]⟩ =
          .ok (some ⟨[("t", .str "-o"), ("n", .str "-")]⟩) := by cbv
      rw [hchanged] at hreached
      cases hreached
      exact .inr (by decide)
  refine ⟨hidle, ?_⟩
  rw [(ask_without threeStages twoStages [Stage.skipping] _ guarded {} .atOnce rfl rfl _ rfl).1 _ _
    hidle]
  cbv

end Pipeline

end ItemFlow
