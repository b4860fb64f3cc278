import ItemFlow.Proofs.Conf.Keyed
import ItemFlow.Proofs.Conf.Leaves

/-!
# Templates and their parameters

A template adds nothing to the parameter that it is made of. As one value the parameter comes to what
it comes to by itself, with the same calls of embedded pipes (`Template.bindNow_alone`). As rules it
comes to the elements of the list that it is or is alone in, and a key under which each rule is put
shows in the pieces and in the locations of errors only (`Template.resolvePieces_listed`).
-/

namespace ItemFlow

/-! ## Errors elsewhere -/

namespace Error

/-- The location that an error names, if it names one. -/
def location? : Error → Option String
  | .resolution _ location _ | .coercion _ location _ _ => some location
  | _ => none

/-- The same error at another location. -/
def moveTo (location : String) : Error → Error
  | .resolution module _ cause => .resolution module location cause
  | .coercion module _ expected found => .coercion module location expected found
  | e => e

end Error

namespace Conf

/-- How a step is written after a location. -/
def Step.text : Step → String
  | .element i => "[" ++ toString i ++ "]"
  | .field key => "." ++ key

theorem Step.extend_eq {location : String} (h : location ≠ "") (step : Step) :
    step.extend location = location ++ step.text := by
  cases step with
  | element i => simp only [extend, text, String.append_assoc]
  | field key => simp only [extend, text, if_neg h, String.append_assoc]

theorem Step.extend_ne_empty {location : String} (h : location ≠ "") (step : Step) :
    step.extend location ≠ "" := by
  rw [step.extend_eq h]
  simp [h]

/-- After a location a way is written step by step. -/
theorem locate_eq {location : String} (h : location ≠ "") (way : List Step) :
    locate location way = location ++ String.join (way.map Step.text) := by
  induction way generalizing location with
  | nil => simp [locate]
  | cons step way ih =>
    have hway : locate location (step :: way) = locate (step.extend location) way := rfl
    rw [hway, ih (step.extend_ne_empty h), step.extend_eq h, List.map_cons, String.join_cons,
      String.append_assoc]

/-- A leaf fails wherever it is, with the same error there. -/
theorem Leaf.Fails.moveTo {leaf : Leaf} {module location : String} {outputs : List (List Item)}
    {e : Error} (h : leaf.Fails module location outputs e) (location' : String) :
    e.location? = some location ∧ leaf.Fails module location' outputs (e.moveTo location') := by
  cases h with
  | literal refused => exact ⟨rfl, .literal refused⟩
  | sub lacking => exact ⟨rfl, .sub lacking⟩

/-- Where a parameter stands matters only to where its error is. -/
theorem resolveWith_moved (c : Conf) (item : Item) (module : String) {a b : String} (ha : a ≠ "")
    (hb : b ≠ "") (outputs : List (List Item)) :
    (∃ v rest, (c.resolveWith item module a).run outputs = (.ok v, rest) ∧
      (c.resolveWith item module b).run outputs = (.ok v, rest)) ∨
    ∃ e rest tail, (c.resolveWith item module a).run outputs = (.error e, rest) ∧
      e.location? = some (a ++ tail) ∧
      (c.resolveWith item module b).run outputs = (.error (e.moveTo (b ++ tail)), rest) := by
  cases hrun : (c.resolveWith item module a).run outputs with
  | mk result rest =>
    cases result with
    | ok v => exact .inl ⟨v, rest, rfl, resolveWith_ok_at hrun module b⟩
    | error e =>
      obtain ⟨before, way, leaf, after, hleaves, hbefore, hrest, hfails⟩ := resolveWith_eq_error.1 hrun
      obtain ⟨hlocation, hmoved⟩ := hfails.moveTo (locate b way)
      refine .inr ⟨e, rest, String.join (way.map Step.text), rfl, by rw [hlocation, locate_eq ha], ?_⟩
      rw [← locate_eq hb]
      exact resolveWith_eq_error.2 ⟨before, way, leaf, after, hleaves, hbefore, hrest, hmoved⟩

/-! ## Parameters under a key -/

section

variable {item : Item} {module location key : String} {outputs rest : List (List Item)}

theorem resolveWith_under_ok {c : Conf} {v : Json}
    (h : (c.resolveWith item module (keyLocation location key)).run outputs = (.ok v, rest)) :
    ((record [(key, c)]).resolveWith item module location).run outputs = (.ok (.obj [(key, v)]), rest) := by
  rw [resolveWith, resolveFields]
  exact (run_bind_ok ((run_bind_ok h _).trans rfl) _).trans rfl

theorem resolveWith_under_error {c : Conf} {e : Error}
    (h : (c.resolveWith item module (keyLocation location key)).run outputs = (.error e, rest)) :
    ((record [(key, c)]).resolveWith item module location).run outputs = (.error e, rest) := by
  rw [resolveWith, resolveFields]
  exact run_bind_error (run_bind_error h _) _

theorem indexLocation_ne_empty (location : String) (i : Nat) : indexLocation location i ≠ "" := by
  simp [indexLocation]

theorem keyLocation_of_index (location key : String) (i : Nat) :
    keyLocation (indexLocation location i) key = indexLocation location i ++ "." ++ key := by
  rw [keyLocation_eq, (Step.field key).extend_eq (indexLocation_ne_empty location i), Step.text,
    String.append_assoc]

/-- Elements that are each put under a key come to the same values, each under the key. The error is
the same too, but that its location goes through the key. -/
theorem resolveElements_under (item : Item) (module location key : String) (elements : List Conf)
    (i : Nat) (outputs : List (List Item)) :
    (∃ values rest, (resolveElements item module location i elements).run outputs = (.ok values, rest) ∧
      (resolveElements item module location i (elements.map fun c => record [(key, c)])).run outputs =
        (.ok (values.map fun v => .obj [(key, v)]), rest)) ∨
    ∃ j e rest tail, j < elements.length ∧
      e.location? = some (indexLocation location (i + j) ++ tail) ∧
      (resolveElements item module location i elements).run outputs = (.error e, rest) ∧
      (resolveElements item module location i (elements.map fun c => record [(key, c)])).run outputs =
        (.error (e.moveTo (indexLocation location (i + j) ++ "." ++ key ++ tail)), rest) := by
  induction elements generalizing i outputs with
  | nil => exact .inl ⟨[], outputs, rfl, rfl⟩
  | cons c elements ih =>
    rw [List.map_cons, resolveElements, resolveElements]
    have hlocation := keyLocation_of_index location key i
    have hkey : keyLocation (indexLocation location i) key ≠ "" := by simp [hlocation]
    -- The first element fails under the key just if it fails without, and in the same way.
    rcases resolveWith_moved c item module (indexLocation_ne_empty location i) hkey outputs with
      ⟨v, taken, hv, hv'⟩ | ⟨e, rest, tail, he, htail, he'⟩
    · have hunder := resolveWith_under_ok hv'
      rw [run_bind_ok hv, run_bind_ok hunder]
      rcases ih (i + 1) taken with ⟨values, rest, hvalues, hunder'⟩ |
        ⟨j, e, rest, tail, hj, htail, he, he'⟩
      · refine .inl ⟨v :: values, rest, ?_, ?_⟩
        · rw [run_bind_ok hvalues]; rfl
        · rw [run_bind_ok hunder']; rfl
      · rw [Nat.add_assoc, Nat.add_comm 1 j] at htail he'
        exact .inr ⟨j + 1, e, rest, tail, Nat.succ_lt_succ hj, htail, run_bind_error he _,
          run_bind_error he' _⟩
    · refine .inr ⟨0, e, rest, tail, Nat.zero_lt_succ _, htail, run_bind_error he _, ?_⟩
      rw [hlocation] at he'
      exact run_bind_error (resolveWith_under_error (by rw [hlocation]; exact he')) _

end

/-! ## A parameter by itself -/

section

variable {c : Conf} {ctx : Context} {item : Item} {module : String} {outputs : List (List Item)}

/-- If no embedded pipe fails, a parameter comes to what it is resolved to with their outputs. -/
theorem resolve_of_gives (h : (Call.now ctx).Gives item c.subPipes outputs) :
    (c.resolve ctx item module).run = ⟨(Call.now ctx).events (c.subPipes.map (·, item)),
      ((c.resolveWith item module "").run outputs).1⟩ := by
  have hcalls : (runSubPipes ctx item c.subPipes).run = _ := Run.mapM_of_forall₂ h
  rw [resolve, Run.bind_ok (by rw [hcalls]), hcalls, Run.run_lift, List.append_nil, Call.events,
    List.flatMap_map]
  rfl

/-- The first embedded pipe that fails leaves its error and keeps the others from being called. -/
theorem resolve_of_error {before after : List SubPipe} {sub : SubPipe} {e : Error}
    (hsubs : c.subPipes = before ++ sub :: after) (h : (Call.now ctx).Gives item before outputs)
    (he : (Call.now ctx sub item).run.value = .error e) :
    (c.resolve ctx item module).run =
      ⟨(Call.now ctx).events ((before ++ [sub]).map (·, item)), .error e⟩ := by
  have hcalls : (runSubPipes ctx item (before ++ sub :: after)).run = _ :=
    Run.mapM_of_error h he after
  rw [resolve, hsubs, Run.bind_error (by rw [hcalls]), hcalls, Call.events, List.flatMap_map]

end

end Conf

namespace Template

/-! ## One parameter -/

/-- The template of a parameter as one value. It stands nowhere in particular, and no item bypasses
it. -/
def alone (o : Options) (c : Conf) : Template :=
  ofConf (some c) { o with listize := false, location := "", bypass := none }

theorem subPipes_alone (o : Options) (c : Conf) : (alone o c).subPipes = c.subPipes :=
  List.flatMap_singleton _ _

theorem bindWith_alone (o : Options) (c : Conf) (item : Item) (outputs : List (List Item)) :
    (alone o c).bindWith item outputs = ((c.resolveWith item o.module "").run outputs).1.map
      fun v => ⟨.single v, (alone o c).datum item, false⟩ := by
  have hpieces : (alone o c).resolvePieces item =
      c.resolveWith item o.module "" >>= fun v => pure (.single v) := rfl
  rw [bindWith, hpieces]
  cases h : (c.resolveWith item o.module "").run outputs with
  | mk result rest =>
    cases result with
    | ok v => rw [run_bind_ok h]; rfl
    | error e => rw [run_bind_error h]; rfl

/-- The template of a parameter as one value is bound with what the parameter comes to by itself, or
fails with its error, and embedded pipes are called alike. They are called in order, each on the item
alone, up to the first that fails. -/
theorem bindNow_alone (c : Conf) (o : Options) (ctx : Context) (item : Item) :
    ((alone o c).bindNow ctx item).run = ⟨(c.resolve ctx item o.module).run.log,
      (c.resolve ctx item o.module).run.value.map
        fun v => ⟨.single v, (alone o c).datum item, false⟩⟩ ∧
    (∀ outputs, (Call.now ctx).Gives item c.subPipes outputs → (c.resolve ctx item o.module).run =
      ⟨(Call.now ctx).events (c.subPipes.map (·, item)),
        ((c.resolveWith item o.module "").run outputs).1⟩) ∧
    ∀ before sub after outputs e, c.subPipes = before ++ sub :: after →
      (Call.now ctx).Gives item before outputs → (Call.now ctx sub item).run.value = .error e →
      (c.resolve ctx item o.module).run =
        ⟨(Call.now ctx).events ((before ++ [sub]).map (·, item)), .error e⟩ := by
  refine ⟨?_, fun outputs => Conf.resolve_of_gives,
    fun before sub after outputs e => Conf.resolve_of_error⟩
  rw [bindNow_eq]
  have hsubs := subPipes_alone o c
  rcases Run.forall₂_or_error (fun sub => Call.now ctx sub item) c.subPipes with
    ⟨outputs, hgives⟩ | ⟨before, sub, after, outputs, e, hsplit, hgives, he⟩
  · rw [Conf.resolve_of_gives hgives, bindBy_of_gives rfl (by rw [hsubs]; exact hgives), hsubs,
      bindWith_alone]
  · rw [Conf.resolve_of_error hsplit hgives he, bindBy_of_error rfl (hsubs.trans hsplit) hgives he]
    rfl

/-- A parameter with three pipes, the second of which fails on some items. -/
def wary : Conf := .record [("a", .sub { pipe := Pipeline.echo, loopable := Resolution.loopable_echo }),
  ("b", .sub { pipe := Stage.picky, loopable := Resolution.loopable_picky }),
  ("a", .sub { pipe := Pipeline.echo, loopable := Resolution.loopable_echo })]

/-- On such an item the third pipe is not called, neither for the parameter by itself nor for its
template. -/
theorem bindNow_alone_wary :
    (wary.resolve {} ⟨[("bad", .null)]⟩ "pipe").run =
      ⟨[.call "echo" [⟨[("bad", .null)]⟩], .call "picky" [⟨[("bad", .null)]⟩]],
        .error (.resolution "picky" "conf" (.reported "bad item"))⟩ ∧
    ((alone {} wary).bindNow {} ⟨[("bad", .null)]⟩).run =
      ⟨[.call "echo" [⟨[("bad", .null)]⟩], .call "picky" [⟨[("bad", .null)]⟩]],
        .error (.resolution "picky" "conf" (.reported "bad item"))⟩ := by
  obtain ⟨hbound, -, herror⟩ := bindNow_alone wary {} {} ⟨[("bad", .null)]⟩
  have hrun := herror [_] _ [_] [_] _ rfl (.cons rfl .nil) rfl
  rw [hbound, hrun]
  exact ⟨rfl, rfl⟩

/-! ## Rules -/

/-- The template of a parameter as rules, each put under the key if there is one. -/
def listed (o : Options) (key : Option String) (c : Conf) : Template :=
  ofConf (some c) { o with listize := true, wrapKey := key }

theorem subPipes_listed (o : Options) (c : Conf) :
    (listed o none c).subPipes = (Conf.list c.listize).subPipes :=
  (Conf.elementsSubPipes_eq c.listize).symm

/-- Putting rules under a key leaves their embedded pipes and the order of these as they are. -/
theorem subPipes_listed_under (o : Options) (key : String) (c : Conf) :
    (listed o (some key) c).subPipes = (listed o none c).subPipes := by
  show (c.listize.map fun rule => Conf.record [(key, rule)]).flatMap Conf.subPipes =
    c.listize.flatMap Conf.subPipes
  rw [List.flatMap_map]
  refine List.flatMap_congr fun rule _ => ?_
  rw [Conf.subPipes, Conf.fieldsSubPipes, Conf.fieldsSubPipes, List.append_nil]

/-- Rules come to what the list of them comes to: the pieces are the elements of the array, with the
same outputs taken, or the error is the same. If each rule is put under a key, each piece is put under
it too, and the key stands in the location of the error after the index of the rule. A parameter that
is no list is the one rule of its list. -/
theorem resolvePieces_listed (c : Conf) (o : Options) (key : String) (item : Item)
    (outputs : List (List Item)) :
    (listed o none c).subPipes = (Conf.list c.listize).subPipes ∧
    (listed o (some key) c).subPipes = (Conf.list c.listize).subPipes ∧
    ((∃ values rest,
        ((Conf.list c.listize).resolveWith item o.module o.location).run outputs =
          (.ok (.arr values), rest) ∧
        ((listed o none c).resolvePieces item).run outputs = (.ok (.list values), rest) ∧
        ((listed o (some key) c).resolvePieces item).run outputs =
          (.ok (.list (values.map fun v => .obj [(key, v)])), rest)) ∨
      ∃ i e rest tail, i < c.listize.length ∧
        e.location? = some (o.location ++ "[" ++ toString i ++ "]" ++ tail) ∧
        ((Conf.list c.listize).resolveWith item o.module o.location).run outputs = (.error e, rest) ∧
        ((listed o none c).resolvePieces item).run outputs = (.error e, rest) ∧
        ((listed o (some key) c).resolvePieces item).run outputs =
          (.error (e.moveTo (o.location ++ "[" ++ toString i ++ "]" ++ "." ++ key ++ tail)), rest)) ∧
    ∀ k, listed o k (.list c.listize) = listed o k c := by
  refine ⟨subPipes_listed o c, (subPipes_listed_under o key c).trans (subPipes_listed o c), ?_,
    fun _ => rfl⟩
  have hplain : (listed o none c).resolvePieces item =
    Conf.resolveElements item o.module o.location 0 c.listize >>= fun values => pure (.list values) := rfl
  have hunder : (listed o (some key) c).resolvePieces item =
    Conf.resolveElements item o.module o.location 0 (c.listize.map fun rule => .record [(key, rule)]) >>=
      fun values => pure (.list values) := rfl
  rw [hplain, hunder, Conf.resolveWith]
  rcases Conf.resolveElements_under item o.module o.location key c.listize 0 outputs with
    ⟨values, rest, hvalues, hvalues'⟩ | ⟨i, e, rest, tail, hi, htail, he, he'⟩
  · exact .inl ⟨values, rest, run_bind_ok hvalues _, run_bind_ok hvalues _, run_bind_ok hvalues' _⟩
  · rw [Nat.zero_add] at htail he'
    exact .inr ⟨i, e, rest, tail, hi, htail, run_bind_error he _, run_bind_error he _,
      run_bind_error he' _⟩

example : ((listed {} (some "rule") (.record [("match", .literal (.str "x") .number)])).resolvePieces
    .empty).run [] = (.error (.coercion "pipe" "conf[0].rule.match" "num" "\"x\""), []) := by
  cbv

end Template

end ItemFlow
