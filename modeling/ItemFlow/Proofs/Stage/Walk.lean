import ItemFlow.Proofs.Stage.Treatment
import Mathlib

/-!
# What a stage makes of a flow

A stage at work, at once or with suspensions, is a walk along the flow that treats each item for
itself (`through_eq_walk`, `drive_throughDeferred`). So the results of a stage are those of
`Policy.walk`, which reads the results that come to the stage from left to right: an error is handed
on, an item gives one result or none, and an error that the policy does not skip is the last result
(`results_through`).

Under the policy that skips, an item whose parameters have no values is dropped
(`walk_of_unresolved`). If they have values of which a pattern does not compile, the error is the
last result whatever the policy (`walk_of_uncompiled`).
-/

namespace ItemFlow

/-! ## Walking along a flow -/

/-- Whether an error that a stage meets ends its flow. -/
def Policy.ends (p : Policy) (e : Error) : Bool := e.isFatal || p == .abort

/-- What a stage hands on of the results that come to it, by what it makes of each item. -/
def Policy.walk (p : Policy) (outcome : Item → Except Error Item) : List Result → List Result
  | [] => []
  | .error e :: rest => .error e :: p.walk outcome rest
  | .ok item :: rest =>
    match outcome item with
    | .ok out => .ok out :: p.walk outcome rest
    | .error e => if p.ends e then [.error e] else p.walk outcome rest

namespace Flow

/-- A flow on its way through a stage that treats each item in some way. Errors that come with the
flow are handed on; an error of the stage's own ends the flow, or the item is dropped and what
happened on the way to it comes before the next result. -/
def walk (policy : Policy) (treat : Item → Run Item) : Flow → Flow
  | ended log => ended log
  | next log (.error e) rest => next log (.error e) (rest.walk policy treat)
  | next log (.ok item) rest =>
    match (treat item).run.value with
    | .ok out => next (log ++ (treat item).run.log) (.ok out) (rest.walk policy treat)
    | .error e =>
      if policy.ends e then next (log ++ (treat item).run.log) (.error e) (ended [])
      else (rest.walk policy treat).after (log ++ (treat item).run.log)

variable {policy : Policy} {treat : Item → Run Item}

theorem walk_after (log : List Event) (f : Flow) :
    (f.after log).walk policy treat = (f.walk policy treat).after log := by
  rcases f with l | ⟨l, e | item, rest⟩
  · rfl
  · rfl
  · rw [after, walk, walk]
    split
    · rw [after, List.append_assoc]
    · split
      · rw [after, List.append_assoc]
      · rw [after_after, List.append_assoc]

end Flow

/-! ## Results of a walk -/

/-- The items among results. -/
def successes (results : List Result) : List Item := results.filterMap Except.toOption

namespace Policy

variable (p : Policy) (outcome : Item → Except Error Item)

theorem walk_of_error {item : Item} {e : Error} (h : outcome item = .error e) (rest : List Result) :
    p.walk outcome (.ok item :: rest) = if p.ends e then [.error e] else p.walk outcome rest := by
  rw [walk, h]

/-- What has been handed on does not change by what comes later. -/
theorem walk_prefix (before after : List Result) :
    p.walk outcome before <+: p.walk outcome (before ++ after) := by
  induction before with
  | nil => exact List.nil_prefix
  | cons r rest ih =>
    cases r with
    | error e => exact List.cons_prefix_cons.2 ⟨rfl, ih⟩
    | ok item =>
      rw [List.cons_append, walk, walk]
      split
      · exact List.cons_prefix_cons.2 ⟨rfl, ih⟩
      · split
        · exact List.prefix_refl _
        · exact ih

/-- The items that are handed on are the outcomes of some of the items that came, each once and in
the order in which they came. -/
theorem successes_walk (results : List Result) :
    ∃ kept : List Item, kept.Sublist (successes results) ∧
      kept.map outcome = (successes (p.walk outcome results)).map .ok := by
  induction results with
  | nil => exact ⟨[], List.Sublist.refl _, rfl⟩
  | cons r rest ih =>
    obtain ⟨kept, hs, hk⟩ := ih
    cases r with
    | error e => exact ⟨kept, hs, hk⟩
    | ok item =>
      rw [walk]
      split
      · rename_i out ho
        refine ⟨item :: kept, hs.cons_cons item, ?_⟩
        rw [List.map_cons, ho, hk]; rfl
      · split
        · exact ⟨[], List.nil_sublist _, rfl⟩
        · exact ⟨kept, hs.cons item, hk⟩

end Policy

theorem Flow.results_walk (policy : Policy) (treat : Item → Run Item) (f : Flow) :
    (f.walk policy treat).results = policy.walk (fun item => (treat item).run.value) f.results := by
  induction f with
  | ended log => rfl
  | next log result rest ih =>
    cases result with
    | error e => rw [walk, results, results, Policy.walk, ih]
    | ok item =>
      rw [walk, results, Policy.walk]
      cases (treat item).run.value with
      | ok out => exact congrArg (.ok out :: ·) ih
      | error e =>
        dsimp only
        split
        · rfl
        · rw [results_after, ih]

namespace Stage

variable {s : Stage} {ctx : Context} {running : Running}

/-! ## A stage at work -/

/-- A stage that has started has the template, the context and the policy that it was given, and
has not ended. -/
theorem start_ok (h : s.start ctx = .ok running) :
    running.template = s.template ∧ running.context = ctx ∧ running.policy = s.policy ∧
      running.ended = false := by
  unfold start at h
  split at h
  · cases h; exact ⟨rfl, rfl, rfl, rfl⟩
  · cases h

namespace Running

theorem through_ended {r : Running} (h : r.ended = true) (f : Flow) : r.through f = .ended [] := by
  cases f <;> simp [through, h]

theorem throughDeferred_ended {r : Running} (h : r.ended = true) (f : DeferredFlow) :
    r.throughDeferred f = .ended := by
  cases f <;> simp [throughDeferred, h]

theorem settle_of_ends {r : Running} {p : Policy} {e : Error} (hp : r.policy = p)
    (h : p.ends e = true) : r.settle e = (some e, { r with ended := true }) := by
  subst hp; exact if_pos h

theorem settle_of_not_ends {r : Running} {p : Policy} {e : Error} (hp : r.policy = p)
    (h : p.ends e = false) : r.settle e = (none, r) := by
  subst hp; exact if_neg (by rw [← Policy.ends, h]; decide)

end Running

theorem drive_finishDeferred (p : Prepared) : p.finishDeferred.drive = pure p.finish := by
  cases p with
  | bypass item => rfl
  | substitute rules item => exact Rule.drive_applyDeferred rules item

/-- A stage at work is a walk along the flow. -/
theorem through_eq_walk (h : s.start ctx = .ok running) (f : Flow) :
    running.through f = f.walk s.policy (s.treat (.now ctx)) := by
  obtain ⟨ht, hc, hp, he⟩ := start_ok h
  -- No item changes the stage, so the stage that meets the rest of the flow is the one that started.
  induction f with
  | ended log => rw [Running.through, he]; rfl
  | next log result rest ih =>
    unfold Running.through
    rw [he, if_neg Bool.false_ne_true]
    cases result with
    | error e => rw [Flow.walk, ← ih]
    | ok item =>
      have hb : (running.template.bindNow running.context item : Traced (Except Error Binding)) =
          (s.template.bindBy (.now ctx) item).run := by rw [ht, hc, Template.bindNow_eq]; rfl
      simp only [Flow.walk, treat_run, hb, Running.prepare_eq]
      cases prepared (s.template.bindBy (.now ctx) item).run.value with
      | ok p => simp only [Except.map, ← ih]
      | error e =>
        cases hends : s.policy.ends e with
        | true =>
          -- This error is the last result: the stage has ended for what is left of the flow.
          simp only [Running.settle_of_ends hp hends, Running.through_ended, Except.map, hends, if_true]
        | false =>
          simp only [Running.settle_of_not_ends hp hends, ih, Except.map, hends, Bool.false_eq_true,
            if_false]

/-- A stage at work that waits for the embedded pipes is the same walk, along the flow as it is
when it is driven, with the pipes driven too. -/
theorem drive_throughDeferred (h : s.start ctx = .ok running) (f : DeferredFlow) :
    (running.throughDeferred f).drive = f.drive.walk s.policy (s.treat (.waited ctx)) := by
  obtain ⟨ht, hc, hp, he⟩ := start_ok h
  induction f with
  | ended => rfl
  | event e rest ih =>
    rw [Running.throughDeferred, he, if_neg Bool.false_ne_true, DeferredFlow.drive,
      DeferredFlow.drive, ih, Flow.walk_after]
  | suspend rest ih =>
    rw [Running.throughDeferred, he, if_neg Bool.false_ne_true, DeferredFlow.drive,
      DeferredFlow.drive, ih]
  | next result rest ih =>
    unfold Running.throughDeferred
    rw [he, if_neg Bool.false_ne_true, DeferredFlow.drive]
    cases result with
    | error e => rw [Flow.walk, ← ih]; rfl
    | ok item =>
      -- Driving the binding comes first, and what is done with it follows on its events.
      have hb : Deferred.drive (running.template.bindDeferred running.context item) =
          (s.template.bindBy (.waited ctx) item).run := by
        rw [ht, hc, ← Template.driveRun_bindDeferred]; rfl
      simp only [Flow.walk, treat_run, Running.prepare_eq, Deferred.drive_toFlow, hb, List.nil_append]
      cases prepared (s.template.bindBy (.waited ctx) item).run.value with
      | ok p =>
        rw [Deferred.drive_toFlow, drive_finishDeferred, Traced.log_pure, Flow.after_nil,
          DeferredFlow.drive, ih, Flow.after, List.append_nil]; rfl
      | error e =>
        cases hends : s.policy.ends e with
        | true =>
          simp only [Running.settle_of_ends hp hends, Running.throughDeferred_ended, Except.map, hends,
            if_true, DeferredFlow.drive, Flow.after, List.append_nil]
        | false =>
          simp only [Running.settle_of_not_ends hp hends, ih, Except.map, hends, Bool.false_eq_true,
            if_false]

/-! ## The results of a stage -/

/-- What a stage makes of an item: the item, changed or not, or the error that it comes to. -/
def outcome (s : Stage) (call : Call) (item : Item) : Except Error Item := (s.treat call item).run.value

section

variable {call : Call} {item : Item} {outputs : List (List Item)} {e : Error}
  (hbypass : s.template.bypasses item = false)
  (houtputs : (s.template.subPipes.mapM fun sub => call sub item).run.value = .ok outputs)

include hbypass houtputs

/-- With outputs of its embedded pipes, a stage makes of an item what comes of the item's rules. -/
theorem outcome_of_outputs : s.outcome call item = (s.rulesWith item outputs).map (Rule.apply · item) := by
  rw [outcome, treat, hbypass, if_neg Bool.false_ne_true, Run.bind_ok houtputs]
  cases s.rulesWith item outputs <;> rfl

/-- An item whose parameters have no values is dropped under the policy that skips. -/
theorem walk_of_unresolved (h : ((s.template.resolvePieces item).run outputs).1 = .error e)
    (rest : List Result) :
    Policy.skip.walk (s.outcome call) (.ok item :: rest) = Policy.skip.walk (s.outcome call) rest := by
  have hrules : s.rulesWith item outputs = .error e := rulesWith_eq_error.2 (.inl h)
  have houtcome : s.outcome call item = .error e := by
    rw [outcome_of_outputs hbypass houtputs, hrules]
    rfl
  have hends : Policy.skip.ends e = false := by
    rw [Policy.ends, Template.not_isFatal_of_resolvePieces h]
    rfl
  rw [Policy.walk_of_error _ _ houtcome, hends, if_neg Bool.false_ne_true]

/-- An item with a pattern that does not compile ends the flow under any policy. -/
theorem walk_of_uncompiled (p : Policy) {pieces : Pieces}
    (hpieces : ((s.template.resolvePieces item).run outputs).1 = .ok pieces)
    (h : Rule.ofRecords moduleName 0 pieces.toList = .error e) (rest : List Result) :
    p.walk (s.outcome call) (.ok item :: rest) = [.error e] := by
  have hrules : s.rulesWith item outputs = .error e := rulesWith_eq_error.2 (.inr ⟨pieces, hpieces, h⟩)
  have houtcome : s.outcome call item = .error e := by
    rw [outcome_of_outputs hbypass houtputs, hrules]
    rfl
  have hends : p.ends e = true := by
    rw [Policy.ends, Rule.isFatal_of_ofRecords h, Bool.true_or]
  rw [Policy.walk_of_error _ _ houtcome, hends, if_pos rfl]

end

/-- The results of a stage that has started are a walk along the results that come to it, at once
and with suspensions alike. What it has handed on is not changed by what comes later, and the items
that it hands on are outcomes of items that came, each of one item and in order. -/
theorem results_through (s : Stage) (ctx : Context) (running : Running)
    (h : s.start ctx = .ok running) (flow : Flow) (waiting : DeferredFlow) :
    (running.through flow).results = s.policy.walk (s.outcome (.now ctx)) flow.results ∧
    (running.throughDeferred waiting).drive.results =
      s.policy.walk (s.outcome (.waited ctx)) waiting.drive.results ∧
    (∀ before after, flow.results = before ++ after →
      s.policy.walk (s.outcome (.now ctx)) before <+: (running.through flow).results) ∧
    ∃ kept : List Item, kept.Sublist (successes flow.results) ∧
      kept.map (s.outcome (.now ctx)) = (successes (running.through flow).results).map .ok := by
  have hnow : (running.through flow).results =
      s.policy.walk (s.outcome (.now ctx)) flow.results := by
    rw [through_eq_walk h, Flow.results_walk]; rfl
  refine ⟨hnow, ?_, ?_, ?_⟩
  · rw [drive_throughDeferred h, Flow.results_walk]; rfl
  · intro before after hsplit
    rw [hnow, hsplit]
    exact s.policy.walk_prefix _ before after
  · rw [hnow]
    exact s.policy.successes_walk _ flow.results

/-- A pipe that fails on items with a field `bad`. -/
def picky : Pipe := .ofFunction "picky" fun _ items =>
  if items.any (·.contains "bad") then .error (.resolution "picky" "conf" (.reported "bad item"))
  else .ok items

/-- A stage that takes its replacement from `picky` and skips the items on which that fails. -/
def skipping : Stage where
  conf := .record [(Rule.parameter, .record [("field", .text "t"), ("match", .text "o"),
    ("replace", .sub { pipe := picky, loopable := rfl, path := some "n" })])]
  policy := .skip

/-- A stage that skips every item, since a literal beside its reference is no number. -/
def refusing : Stage where
  conf := .record [(Rule.parameter,
    .record [("field", .reference "f" .null), ("match", .literal (.str "x") .number)])]
  policy := .skip

/-- A stage that takes its pattern from a field `p` of the item, and skips items too. -/
def referring : Stage where
  conf := .record [(Rule.parameter, .record [("field", .text "t"), ("match", .reference "p" (.str "o")),
    ("replace", .text "-")])]
  policy := .skip

/-- Of an item that is skipped, an error that comes with the flow and an item that is changed, the
last two are handed on. An item without values for the parameters is skipped too. An item whose
pattern does not compile is not: the error is the last result, and the next item is not treated, at
once and with suspensions alike. -/
theorem results_through_skipping :
    (∃ running, skipping.start {} = .ok running ∧
      (running.through (.next [.pull 0] (.ok ⟨[("bad", .null)]⟩) (.next [] (.error (.io "lost"))
        (.next [.pull 1] (.ok ⟨[("t", .str "boot"), ("n", .str "-")]⟩) (.ended []))))).results =
      [.error (.io "lost"), .ok ⟨[("t", .str "b-ot"), ("n", .str "-")]⟩]) ∧
    (∃ running, refusing.start {} = .ok running ∧
      (running.through (.next [.pull 0] (.ok ⟨[("t", .str "boot")]⟩)
        (.next [] (.error (.io "lost")) (.ended [])))).results = [.error (.io "lost")]) ∧
    ∃ running, referring.start {} = .ok running ∧
      (running.through (.next [.pull 0] (.ok ⟨[("t", .str "boot"), ("p", .str "(")]⟩)
        (.next [.pull 1] (.ok ⟨[("t", .str "boot")]⟩) (.ended [])))).results =
      [.error (.pattern moduleName 0 "t" "(")] ∧
      (running.throughDeferred (.suspend (.next (.ok ⟨[("t", .str "boot"), ("p", .str "(")]⟩)
        (.next (.ok ⟨[("t", .str "boot")]⟩) .ended)))).drive.results =
      [.error (.pattern moduleName 0 "t" "(")] := by
  refine ⟨⟨_, rfl, ?_⟩, ⟨_, rfl, ?_⟩, _, rfl, ?_, ?_⟩
  · rw [(results_through skipping {} _ rfl _ .ended).1]
    cbv
  · rw [(results_through refusing {} _ rfl _ .ended).1]
    exact walk_of_unresolved rfl rfl rfl [.error (.io "lost")]
  · rw [(results_through referring {} _ rfl _ .ended).1]
    exact walk_of_uncompiled rfl rfl _ rfl (by cbv) _
  · rw [(results_through referring {} _ rfl (.ended []) _).2.1]
    exact walk_of_uncompiled rfl rfl _ rfl (by cbv) _

end Stage

end ItemFlow
