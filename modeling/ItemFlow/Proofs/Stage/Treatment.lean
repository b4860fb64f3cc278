import ItemFlow.Proofs.Binding
import ItemFlow.Proofs.Compile
import ItemFlow.Proofs.Conf.Static
import ItemFlow.Stage

/-!
# What a stage makes of an item

What becomes of an item in a stage depends on the item alone: `Stage.treat` calls the embedded
pipes, resolves the template, compiles the rules and applies them, without the patterns that are
kept and without any other item. A stage at work prepares and finishes an item to the same effect,
and is left as it was (`treat_run`, `prepare_eq`).

If there are no rules for an item, either its parameters have no values, which concerns this item
alone (`Template.not_isFatal_of_resolvePieces`), or a pattern does not compile, which is fatal
(`Rule.isFatal_of_ofRecords`).
-/

namespace ItemFlow

/-! ## Applying rules with suspensions -/

namespace Rule

theorem drive_substituteDeferred (word : String) (rules : List Rule) :
    (substituteDeferred word rules).drive = pure (rules.foldl substitute word) := by
  induction rules generalizing word with
  | nil => rfl
  | cons rule rest ih => rw [substituteDeferred, Deferred.drive, ih, List.foldl_cons]

theorem drive_applyGroupsDeferred (item : Item) (groups : List (String × List Rule)) :
    (applyGroupsDeferred item groups).drive = pure (groups.foldl applyGroup item) := by
  induction groups generalizing item with
  | nil => rfl
  | cons group rest ih =>
    obtain ⟨field, rules⟩ := group
    show (substituteDeferred (fieldWord item field) rules >>= fun word =>
      applyGroupsDeferred (item.set field (.str word)) rest).drive = _
    rw [Deferred.drive_bind, drive_substituteDeferred, pure_bind, ih]; rfl

/-- Suspensions change nothing in what rules make of an item. -/
theorem drive_applyDeferred (rules : List Rule) (item : Item) :
    (applyDeferred rules item).drive = pure (apply rules item) :=
  drive_applyGroupsDeferred item (groups rules)

end Rule

/-! ## Parameters without values -/

/-- What keeps a template from having a value is not fatal. -/
theorem Template.not_isFatal_of_resolvePieces {t : Template} {item : Item}
    {outputs : List (List Item)} {e : Error}
    (h : ((t.resolvePieces item).run outputs).1 = .error e) : e.isFatal = false := by
  obtain ⟨rest, hrun⟩ : ∃ rest, (t.resolvePieces item).run outputs = (.error e, rest) := ⟨_, Prod.ext h rfl⟩
  unfold resolvePieces at hrun
  split at hrun
  · rcases run_bind_eq_error.1 hrun with hrun | ⟨values, taken, -, hrun⟩
    · exact (Conf.resolveElements_error hrun).not_isFatal
    · cases hrun
  · rcases run_bind_eq_error.1 hrun with hrun | ⟨value, taken, -, hrun⟩
    · exact (Conf.resolveWith_error hrun).not_isFatal
    · cases hrun

namespace Stage

/-! ## The treatment of an item -/

/-- The rules for an item with outputs of the embedded pipes. -/
def rulesWith (s : Stage) (item : Item) (outputs : List (List Item)) : Except Error (List Rule) := do
  let pieces ← ((s.template.resolvePieces item).run outputs).1
  Rule.ofRecords moduleName 0 pieces.toList

/-- What becomes of an item in a stage, with a way to call the embedded pipes. -/
def treat (s : Stage) (call : Call) (item : Item) : Run Item :=
  if s.template.bypasses item then pure item
  else do
    let outputs ← s.template.subPipes.mapM fun sub => call sub item
    let rules ← s.rulesWith item outputs
    return Rule.apply rules item

/-- There are no rules for an item if its parameters have no values, or if a pattern among the values
does not compile. -/
theorem rulesWith_eq_error {s : Stage} {item : Item} {outputs : List (List Item)} {e : Error} :
    s.rulesWith item outputs = .error e ↔
      ((s.template.resolvePieces item).run outputs).1 = .error e ∨
        ∃ pieces, ((s.template.resolvePieces item).run outputs).1 = .ok pieces ∧
          Rule.ofRecords moduleName 0 pieces.toList = .error e :=
  Except.bind_eq_error

theorem rules_template (s : Stage) :
    s.template.rules = ((s.conf.field? Rule.parameter).map Conf.listize).getD [] := rfl

/-- What is to be done with the item of a binding, its rules compiled anew. -/
def prepared (binding : Except Error Binding) : Except Error Prepared := do
  let b ← binding
  if b.bypass then return .bypass (.ofJson b.datum)
  return .substitute (← Rule.ofRecords moduleName 0 b.pieces.toList) (.ofJson b.datum)

namespace Running

variable (cache : PatternCache)

/-- Taking a binding compiles its rules anew, and what is kept stays as it is. -/
theorem take_run (b : Binding) :
    (intake.take b).run cache =
      ((Rule.ofRecords moduleName 0 b.pieces.toList).map (⟨·, b.datum, b.bypass⟩), cache) := by
  have hdatum : (liftM (intake.coerceDatum b.datum) : Rule.Compile Json).run cache =
      (.ok b.datum, cache) := rfl
  have hconvert : (intake.convert b.pieces).run cache =
      (Rule.ofRecords moduleName 0 b.pieces.toList, cache) := Rule.convert_run moduleName cache b.pieces
  rw [Intake.take, run_bind_ok hdatum]
  cases hr : Rule.ofRecords moduleName 0 b.pieces.toList with
  | error e => rw [run_bind_error (by rw [hconvert, hr])]; rfl
  | ok rules => rw [run_bind_ok (by rw [hconvert, hr])]; rfl

theorem prepareWith_run (binding : Except Error Binding) :
    (prepareWith binding).run cache = (prepared binding, cache) := by
  unfold prepareWith prepared
  cases binding with
  | error e => exact run_bind_error rfl _
  | ok b =>
    have hb : (liftM (.ok b : Except Error Binding) : Rule.Compile Binding).run cache = (.ok b, cache) := rfl
    rw [run_bind_ok hb]
    show _ = (if b.bypass = true then _ else _, cache)
    split
    · rfl
    · cases hr : Rule.ofRecords moduleName 0 b.pieces.toList with
      | error e => exact run_bind_error (by rw [take_run, hr]; rfl) _
      | ok rules => rw [run_bind_ok (by rw [take_run, hr]; rfl)]; rfl

/-- Preparing an item leaves a stage at work as it is. -/
theorem prepare_eq (s : Running) (binding : Except Error Binding) :
    s.prepare binding = (prepared binding, s) := by
  rw [prepare, prepareWith_run]

end Running

theorem prepared_bindWith (s : Stage) (item : Item) (outputs : List (List Item)) :
    prepared (s.template.bindWith item outputs) =
      (s.rulesWith item outputs).map fun rules => .substitute rules item := by
  unfold Template.bindWith rulesWith
  cases ((s.template.resolvePieces item).run outputs).1 with
  | error e => rfl
  | ok pieces =>
    show (Rule.ofRecords moduleName 0 pieces.toList >>= fun rules => pure (Prepared.substitute rules item)) =
      (Rule.ofRecords moduleName 0 pieces.toList).map fun rules => Prepared.substitute rules item
    cases Rule.ofRecords moduleName 0 pieces.toList <;> rfl

/-- The treatment of an item is its binding, prepared and finished. -/
theorem treat_run (s : Stage) (call : Call) (item : Item) :
    (s.treat call item).run = ⟨(s.template.bindBy call item).run.log,
      (prepared (s.template.bindBy call item).run.value).map Prepared.finish⟩ := by
  unfold treat Template.bindBy
  split
  · rfl
  · cases ho : (s.template.subPipes.mapM fun sub => call sub item).run.value with
    | error e => rw [Run.bind_error ho, Run.bind_error ho]; rfl
    | ok outputs =>
      rw [Run.bind_ok ho, Run.bind_ok ho, Run.run_lift, prepared_bindWith]
      cases s.rulesWith item outputs <;> rfl

end Stage

end ItemFlow
