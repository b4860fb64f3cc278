import ItemFlow.Proofs.Conf.Supply
import ItemFlow.Proofs.Requests
import ItemFlow.Proofs.Schedules
import Mathlib

/-!
# Feeding a resolution

Whoever drives a resolution may feed it outputs of any kind, too few of them or too many. It names
the embedded pipe in the place of the next output, and it finishes with what the first outputs come
to, one for each embedded pipe. Both drivers feed it what the pipes give, in order, so it never lacks
an output (`Resolution.fed_in_order`).
-/

namespace ItemFlow

/-! ## Computations in a row -/

namespace Run

variable {α β : Type} {f : α → Run β}

/-- Computations that all succeed run one after another. -/
theorem mapM_of_forall₂ {l : List α} {values : List β}
    (h : List.Forall₂ (fun a b => (f a).run.value = .ok b) l values) :
    (l.mapM f).run = ⟨l.flatMap fun a => (f a).run.log, .ok values⟩ := by
  induction h with
  | nil => rfl
  | @cons a b l values hb _ ih =>
    rw [List.mapM_cons, bind_ok hb, bind_ok (by rw [ih]), ih, List.flatMap_cons]
    exact Traced.ext (by simp) rfl

/-- The first computation that fails ends a row of them. -/
theorem mapM_of_error {before : List α} {values : List β} {a : α} {e : Error}
    (h : List.Forall₂ (fun a b => (f a).run.value = .ok b) before values)
    (he : (f a).run.value = .error e) (after : List α) :
    ((before ++ a :: after).mapM f).run =
      ⟨(before ++ [a]).flatMap fun a => (f a).run.log, .error e⟩ := by
  induction h with
  | nil =>
    rw [List.nil_append, List.mapM_cons, bind_error he]
    exact Traced.ext (by simp) rfl
  | @cons a' b before values hb _ ih =>
    rw [List.cons_append, List.mapM_cons, bind_ok hb, bind_error (by rw [ih]), ih]
    exact Traced.ext (by simp) rfl

/-- Computations all succeed, or one of them is the first that fails. -/
theorem forall₂_or_error (f : α → Run β) (l : List α) :
    (∃ values, List.Forall₂ (fun a b => (f a).run.value = .ok b) l values) ∨
      ∃ before a after values e, l = before ++ a :: after ∧
        List.Forall₂ (fun a b => (f a).run.value = .ok b) before values ∧
        (f a).run.value = .error e := by
  induction l with
  | nil => exact .inl ⟨[], .nil⟩
  | cons a l ih =>
    cases ha : (f a).run.value with
    | error e => exact .inr ⟨[], a, l, [], e, rfl, .nil, ha⟩
    | ok b =>
      rcases ih with ⟨values, h⟩ | ⟨before, a', after, values, e, rfl, h, he⟩
      · exact .inl ⟨b :: values, .cons ha h⟩
      · exact .inr ⟨a :: before, a', after, b :: values, e, rfl, .cons ha h, he⟩

end Run

/-! ## A binding on either schedule -/

/-- The calls of embedded pipes on an item succeed with outputs. -/
def Call.Gives (call : Call) (item : Item) (subs : List SubPipe) (outputs : List (List Item)) : Prop :=
  List.Forall₂ (fun sub output => (call sub item).run.value = .ok output) subs outputs

namespace Template

/-- The binding of an item, with the embedded pipes called at once or waited for. -/
def bindOn (t : Template) (ctx : Context) (item : Item) : Schedule → Run Binding
  | .atOnce => t.bindNow ctx item
  | .suspending => Deferred.driveRun (t.bindDeferred ctx item)

theorem bindOn_eq (t : Template) (ctx : Context) (item : Item) (way : Schedule) :
    t.bindOn ctx item way = t.bindBy (way.call ctx) item := by
  cases way with
  | atOnce => exact t.bindNow_eq ctx item
  | suspending => exact t.driveRun_bindDeferred ctx item

variable {t : Template} {item : Item} {outputs : List (List Item)}

/-- With too few outputs there is no binding. -/
theorem bindWith_of_lt (h : outputs.length < t.subPipes.length) :
    ∃ e, t.bindWith item outputs = .error e := by
  unfold bindWith
  cases hp : (t.resolvePieces item).run outputs with
  | mk result rest =>
    cases result with
    | error e => exact ⟨e, rfl⟩
    | ok pieces =>
      have := t.length_le_of_resolvePieces item hp
      omega

/-- Outputs beyond those of the embedded pipes do not count. -/
theorem bindWith_take (h : t.subPipes.length ≤ outputs.length) :
    t.bindWith item outputs = t.bindWith item (outputs.take t.subPipes.length) := by
  obtain ⟨r, rest, hr, hmore, -, -⟩ := t.needs_resolvePieces item (outputs.take t.subPipes.length)
    (outputs.drop t.subPipes.length) (by rw [List.length_take]; omega)
  rw [List.take_append_drop] at hmore
  unfold bindWith
  rw [hr, hmore]

/-- With enough outputs only a literal can be at fault. -/
theorem bindWith_error (h : t.subPipes.length ≤ outputs.length) {e : Error}
    (he : t.bindWith item outputs = .error e) :
    ∃ location expected found, e = .coercion t.options.module location expected found := by
  obtain ⟨r, rest, hr, -, -, herror⟩ := t.needs_resolvePieces item outputs [] h
  unfold bindWith at he
  rw [hr] at he
  cases r with
  | error e' => cases he; exact herror e rfl
  | ok pieces => cases he

variable {call : Call}

/-- If no embedded pipe fails, the template is bound with what they give. -/
theorem bindBy_of_gives (hb : t.bypasses item = false) (h : call.Gives item t.subPipes outputs) :
    (t.bindBy call item).run =
      ⟨call.events (t.subPipes.map (·, item)), t.bindWith item outputs⟩ := by
  have hcalls := Run.mapM_of_forall₂ h
  rw [bindBy, hb, if_neg Bool.false_ne_true, Run.bind_ok (by rw [hcalls]), hcalls, Run.run_lift,
    List.append_nil, Call.events, List.flatMap_map]

/-- The first embedded pipe that fails leaves its error and keeps the others from being called. -/
theorem bindBy_of_error {before after : List SubPipe} {sub : SubPipe} {e : Error}
    (hb : t.bypasses item = false) (hsubs : t.subPipes = before ++ sub :: after)
    (h : call.Gives item before outputs) (he : (call sub item).run.value = .error e) :
    (t.bindBy call item).run = ⟨call.events ((before ++ [sub]).map (·, item)), .error e⟩ := by
  have hcalls := Run.mapM_of_error h he after
  rw [bindBy, hb, if_neg Bool.false_ne_true, hsubs, Run.bind_error (by rw [hcalls]), hcalls,
    Call.events, List.flatMap_map]

/-- What keeps an item from being bound is the error of an embedded pipe or a literal. -/
theorem bindBy_error {e : Error} (h : (t.bindBy call item).run.value = .error e) :
    (∃ sub ∈ t.subPipes, (call sub item).run.value = .error e) ∨
      ∃ location expected found, e = .coercion t.options.module location expected found := by
  cases hb : t.bypasses item with
  | true => rw [bindBy, if_pos hb] at h; cases h
  | false =>
    rcases Run.forall₂_or_error (fun sub => call sub item) t.subPipes with
      ⟨outputs, hgives⟩ | ⟨before, sub, after, outputs, e', hsubs, hgives, he⟩
    · rw [bindBy_of_gives hb hgives] at h
      exact .inr (bindWith_error hgives.length_eq.le h)
    · rw [bindBy_of_error hb hsubs hgives he] at h
      cases h
      exact .inl ⟨sub, by rw [hsubs]; simp, he⟩

end Template

/-! ## Any driver -/

namespace Resolution

/-- The resolution of an item that has been fed outputs, one after another. -/
def fed (t : Template) (item : Item) (outputs : List (List Item)) : Resolution :=
  outputs.foldl feed (start t item)

section

variable (t : Template) (item : Item) (outputs : List (List Item))

theorem foldl_feed (r : Resolution) :
    outputs.foldl feed r = { r with outputs := r.outputs ++ outputs } := by
  induction outputs generalizing r with
  | nil => rw [List.foldl_nil, List.append_nil]
  | cons output outputs ih =>
    rw [List.foldl_cons, ih, feed, List.append_assoc, List.singleton_append]

/-- Feeding changes nothing but the outputs. -/
theorem fed_eq : fed t item outputs = ⟨t, item, t.bypasses item, outputs⟩ := by
  rw [fed, foldl_feed]
  rfl

theorem step_fed : (fed t item outputs).step =
    if t.bypasses item then .finish
    else match t.subPipes[outputs.length]? with
      | some sub => .evaluate sub
      | none => .finish := by
  rw [fed_eq]
  rfl

theorem step_fed_eq_evaluate {sub : SubPipe} : (fed t item outputs).step = .evaluate sub ↔
    t.bypasses item = false ∧ t.subPipes[outputs.length]? = some sub := by
  rw [step_fed]
  cases t.bypasses item <;> cases t.subPipes[outputs.length]? <;> simp

theorem step_fed_eq_finish : (fed t item outputs).step = .finish ↔
    t.bypasses item = true ∨ t.subPipes.length ≤ outputs.length := by
  rw [step_fed, ← List.getElem?_eq_none_iff]
  cases t.bypasses item <;> cases t.subPipes[outputs.length]? <;> simp

variable {t item}

theorem finish_fed_of_bypass (h : t.bypasses item = true) :
    (fed t item outputs).finish = .ok ⟨t.emptyPieces, t.datum item, true⟩ := by
  rw [fed_eq]
  exact finish_of_bypass h

theorem finish_fed_of_not_bypass (h : t.bypasses item = false) :
    (fed t item outputs).finish = t.bindWith item outputs := by
  rw [fed_eq]
  exact finish_of_not_bypass h

end

/-- Whatever outputs a resolution is fed, it names next the embedded pipe in the place of the output
that is still to come, and finishes when there is none. If the item bypasses the stage it names none,
and finishes with the empty pieces. Any other item fails if an output is lacking, and outputs beyond
those of the embedded pipes do not count. On either schedule the pipes are called in order, each once
and on the item alone, up to the first that fails, whose error is the outcome; if none fails, only a
literal can be at fault, for no output is lacking. For an item that bypasses the stage none is
called. -/
theorem fed_in_order (t : Template) (item : Item) :
    (∀ outputs, (∀ sub, (fed t item outputs).step = .evaluate sub ↔
        t.bypasses item = false ∧ t.subPipes[outputs.length]? = some sub) ∧
      ((fed t item outputs).step = .finish ↔
        t.bypasses item = true ∨ t.subPipes.length ≤ outputs.length)) ∧
    (t.bypasses item = true → (∀ outputs,
        (fed t item outputs).finish = .ok ⟨t.emptyPieces, t.datum item, true⟩) ∧
      ∀ ctx way, (t.bindOn ctx item way).run = ⟨[], .ok ⟨t.emptyPieces, t.datum item, true⟩⟩) ∧
    (t.bypasses item = false → ∀ outputs,
      (outputs.length < t.subPipes.length → ∃ e, (fed t item outputs).finish = .error e) ∧
      (t.subPipes.length ≤ outputs.length → (fed t item outputs).finish =
        (fed t item (outputs.take t.subPipes.length)).finish)) ∧
    (t.bypasses item = false → ∀ ctx way,
      (∀ outputs, (way.call ctx).Gives item t.subPipes outputs → (t.bindOn ctx item way).run =
        ⟨(way.call ctx).events (t.subPipes.map (·, item)), (fed t item outputs).finish⟩) ∧
      (∀ before sub after outputs e, t.subPipes = before ++ sub :: after →
        (way.call ctx).Gives item before outputs → (way.call ctx sub item).run.value = .error e →
        (t.bindOn ctx item way).run =
          ⟨(way.call ctx).events ((before ++ [sub]).map (·, item)), .error e⟩) ∧
      ∀ e, (t.bindOn ctx item way).run.value = .error e →
        (∃ sub ∈ t.subPipes, (way.call ctx sub item).run.value = .error e) ∨
        ∃ location expected found, e = .coercion t.options.module location expected found) := by
  refine ⟨fun outputs => ⟨fun sub => step_fed_eq_evaluate t item outputs,
    step_fed_eq_finish t item outputs⟩, fun hb => ⟨fun outputs => finish_fed_of_bypass outputs hb, ?_⟩,
    fun hb outputs => ?_, fun hb ctx way => ?_⟩
  · intro ctx way
    rw [Template.bindOn_eq, Template.bindBy, if_pos hb]
    rfl
  · simp only [finish_fed_of_not_bypass _ hb]
    exact ⟨Template.bindWith_of_lt, Template.bindWith_take⟩
  · simp only [finish_fed_of_not_bypass _ hb, Template.bindOn_eq]
    exact ⟨fun outputs => Template.bindBy_of_gives hb,
      fun before sub after outputs e => Template.bindBy_of_error hb, fun e => Template.bindBy_error⟩

theorem loopable_echo : Pipeline.echo.loopable = true := rfl

theorem loopable_picky : Stage.picky.loopable = true := rfl

/-- A template of two rules, each put into a record of its own, with a pipe in each. Items with a
field `skip` bypass it. -/
def wrapping : Template :=
  .ofConf (some (.list [.sub { pipe := Pipeline.echo, loopable := loopable_echo },
    .list [.text "t", .sub { pipe := Stage.picky, loopable := loopable_picky }]]))
  { wrapKey := some "rule", bypass := some (·.contains "skip") }

/-- After one output the second pipe is next, and it is too early to finish. Run on the item the
second pipe fails, and its error is the outcome. The other item bypasses the stage. -/
theorem fed_in_order_wrapping :
    (fed wrapping ⟨[("bad", .null)]⟩ [[]]).step =
      .evaluate { pipe := Stage.picky, loopable := loopable_picky } ∧
    (∃ e, (fed wrapping ⟨[("bad", .null)]⟩ [[]]).finish = .error e) ∧
    (wrapping.bindOn {} ⟨[("bad", .null)]⟩ .suspending).run =
      ⟨[.call "echo" [⟨[("bad", .null)]⟩], .call "picky" [⟨[("bad", .null)]⟩]],
        .error (.resolution "picky" "conf" (.reported "bad item"))⟩ ∧
    (wrapping.bindOn {} ⟨[("skip", .null)]⟩ .atOnce).run =
      ⟨[], .ok ⟨.list [], .obj [("skip", .null)], true⟩⟩ := by
  obtain ⟨hstep, -, hfinish, hdriven⟩ := fed_in_order wrapping ⟨[("bad", .null)]⟩
  obtain ⟨-, hbypass, -, -⟩ := fed_in_order wrapping ⟨[("skip", .null)]⟩
  obtain ⟨-, herror, -⟩ := hdriven (by decide) {} .suspending
  exact ⟨((hstep [[]]).1 _).2 ⟨rfl, rfl⟩, (hfinish (by decide) [[]]).1 (by decide),
    herror [_] _ [] [_] _ rfl (.cons rfl .nil) rfl, (hbypass (by decide)).2 {} .atOnce⟩

end Resolution

end ItemFlow
