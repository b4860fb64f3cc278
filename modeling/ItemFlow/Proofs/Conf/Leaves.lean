import ItemFlow.Conf
import ItemFlow.Proofs.Sequencing

/-!
# The leaves of a parameter

Resolving a parameter is resolving its leaves from left to right: literals, references and embedded
pipes, each of which takes an output. A literal fails if it cannot be brought into its form, and an
embedded pipe if no output is left for it. The first leaf that fails makes the parameter fail, and
the error says which way leads there (`Conf.resolveWith_first_fault`).
-/

namespace ItemFlow.Conf

/-! ## Leaves and the ways to them -/

/-- A part of a parameter that has no parts. -/
inductive Leaf where
  /-- A fixed value, brought into a form. -/
  | literal (value : Json) (coercion : Coercion)
  /-- The value at a path of the current item, or a default. -/
  | reference (path : String) (default : Json)
  /-- The reduced output of an embedded pipe. -/
  | sub (pipe : SubPipe)

/-- The embedded pipe, if the leaf is one. -/
def Leaf.pipe? : Leaf → Option SubPipe
  | .sub s => some s
  | _ => none

/-- A step from a list to an element, or from a record to a field. -/
inductive Step where
  /-- To the element at an index. -/
  | element (index : Nat)
  /-- To a field with a name. -/
  | field (key : String)

/-- The location after a step: an index is put into brackets, and a key after a dot, unless nothing
comes before it. -/
def Step.extend (location : String) : Step → String
  | .element i => location ++ "[" ++ toString i ++ "]"
  | .field key => if location = "" then key else location ++ "." ++ key

/-- The location at the end of a way. -/
def locate (location : String) (way : List Step) : String := way.foldl Step.extend location

example : locate "" [.field "RULE", .element 1, .field "match"] = "RULE[1].match" := by decide

/-- A leaf and the way to it. -/
structure Spot where
  /-- The steps to the leaf. -/
  way : List Step
  /-- The leaf. -/
  leaf : Leaf

/-- The same spot, seen from before a step. -/
def Spot.under (step : Step) (s : Spot) : Spot := ⟨step :: s.way, s.leaf⟩

mutual

/-- The leaves of a parameter, from left to right. -/
def leaves : Conf → List Spot
  | .literal v coercion => [⟨[], .literal v coercion⟩]
  | .reference path default => [⟨[], .reference path default⟩]
  | .sub s => [⟨[], .sub s⟩]
  | .record fields => fieldsLeaves fields
  | .list elements => elementsLeaves 0 elements

/-- The leaves of the fields of a record. -/
def fieldsLeaves : List (String × Conf) → List Spot
  | [] => []
  | (key, c) :: rest => c.leaves.map (.under (.field key)) ++ fieldsLeaves rest

/-- The leaves of the elements of a list, the first of which has index `i`. -/
def elementsLeaves (i : Nat) : List Conf → List Spot
  | [] => []
  | c :: rest => c.leaves.map (.under (.element i)) ++ elementsLeaves (i + 1) rest

end

/-- A way leads from a parameter to a leaf: step by step to a field that a record has, or to an element
that a list has. -/
inductive LeadsTo : Conf → List Step → Leaf → Prop where
  /-- A literal is a leaf. -/
  | literal (v : Json) (coercion : Coercion) : LeadsTo (.literal v coercion) [] (.literal v coercion)
  /-- A reference is a leaf. -/
  | reference (path : String) (default : Json) :
      LeadsTo (.reference path default) [] (.reference path default)
  /-- An embedded pipe is a leaf. -/
  | sub (s : SubPipe) : LeadsTo (.sub s) [] (.sub s)
  /-- A record has its fields. -/
  | field {fields : List (String × Conf)} {key : String} {c : Conf} {way : List Step} {leaf : Leaf}
      (mem : (key, c) ∈ fields) (further : LeadsTo c way leaf) :
      LeadsTo (.record fields) (.field key :: way) leaf
  /-- A list has its elements. -/
  | element {elements : List Conf} {i : Nat} {c : Conf} {way : List Step} {leaf : Leaf}
      (found : elements[i]? = some c) (further : LeadsTo c way leaf) :
      LeadsTo (.list elements) (.element i :: way) leaf

theorem mem_under {step : Step} {spots : List Spot} {way : List Step} {leaf : Leaf} :
    Spot.mk way leaf ∈ spots.map (.under step) ↔
      ∃ way', way = step :: way' ∧ Spot.mk way' leaf ∈ spots := by
  rw [List.mem_map]
  constructor
  · rintro ⟨s, hs, ⟨⟩⟩
    exact ⟨s.way, rfl, hs⟩
  · rintro ⟨way', rfl, hs⟩
    exact ⟨_, hs, rfl⟩

mutual

/-- The leaves of a parameter are those to which a way leads. -/
theorem mem_leaves : ∀ (c : Conf) (way : List Step) (leaf : Leaf),
    ⟨way, leaf⟩ ∈ c.leaves ↔ c.LeadsTo way leaf
  | .literal v coercion, way, leaf => by
    rw [leaves, List.mem_singleton]
    exact ⟨fun h => by cases h; exact .literal v coercion, fun h => by cases h; rfl⟩
  | .reference path default, way, leaf => by
    rw [leaves, List.mem_singleton]
    exact ⟨fun h => by cases h; exact .reference path default, fun h => by cases h; rfl⟩
  | .sub s, way, leaf => by
    rw [leaves, List.mem_singleton]
    exact ⟨fun h => by cases h; exact .sub s, fun h => by cases h; rfl⟩
  | .record fields, way, leaf => by
    rw [leaves, mem_fieldsLeaves fields]
    constructor
    · rintro ⟨key, c, way, hmem, rfl, hc⟩
      exact .field hmem hc
    · rintro ⟨⟩
      rename_i key c way hmem hc
      exact ⟨key, c, way, hmem, rfl, hc⟩
  | .list elements, way, leaf => by
    rw [leaves, mem_elementsLeaves 0 elements]
    constructor
    · rintro ⟨i, c, way, hfound, rfl, hc⟩
      rw [Nat.zero_add]
      exact .element hfound hc
    · rintro ⟨⟩
      rename_i i c way hfound hc
      exact ⟨i, c, way, hfound, by rw [Nat.zero_add], hc⟩

theorem mem_fieldsLeaves : ∀ (fields : List (String × Conf)) (way : List Step) (leaf : Leaf),
    ⟨way, leaf⟩ ∈ fieldsLeaves fields ↔
      ∃ key c way', (key, c) ∈ fields ∧ way = .field key :: way' ∧ c.LeadsTo way' leaf
  | [], way, leaf => by
    rw [fieldsLeaves]
    exact ⟨nofun, fun ⟨_, _, _, hmem, _⟩ => nomatch hmem⟩
  | (key, c) :: rest, way, leaf => by
    rw [fieldsLeaves, List.mem_append, mem_under, mem_fieldsLeaves rest]
    constructor
    · rintro (⟨way', rfl, hc⟩ | ⟨key', c', way', hmem, rfl, hc⟩)
      · exact ⟨key, c, way', List.mem_cons_self, rfl, (mem_leaves c way' leaf).1 hc⟩
      · exact ⟨key', c', way', List.mem_cons_of_mem _ hmem, rfl, hc⟩
    · rintro ⟨key', c', way', hmem, rfl, hc⟩
      rcases List.mem_cons.1 hmem with h | hmem
      · cases h
        exact .inl ⟨way', rfl, (mem_leaves c way' leaf).2 hc⟩
      · exact .inr ⟨key', c', way', hmem, rfl, hc⟩

theorem mem_elementsLeaves : ∀ (i : Nat) (elements : List Conf) (way : List Step) (leaf : Leaf),
    ⟨way, leaf⟩ ∈ elementsLeaves i elements ↔
      ∃ j c way', elements[j]? = some c ∧ way = .element (i + j) :: way' ∧ c.LeadsTo way' leaf
  | i, [], way, leaf => by
    rw [elementsLeaves]
    exact ⟨nofun, fun ⟨_, _, _, hfound, _⟩ => nomatch hfound⟩
  | i, c :: rest, way, leaf => by
    rw [elementsLeaves, List.mem_append, mem_under, mem_elementsLeaves (i + 1) rest]
    constructor
    · rintro (⟨way', rfl, hc⟩ | ⟨j, c', way', hfound, rfl, hc⟩)
      · exact ⟨0, c, way', rfl, rfl, (mem_leaves c way' leaf).1 hc⟩
      · exact ⟨j + 1, c', way', hfound, by rw [Nat.add_assoc, Nat.add_comm 1 j], hc⟩
    · rintro ⟨j, c', way', hfound, rfl, hc⟩
      cases j with
      | zero =>
        cases hfound
        exact .inl ⟨way', rfl, (mem_leaves c way' leaf).2 hc⟩
      | succ j => exact .inr ⟨j, c', way', hfound, by rw [Nat.add_assoc, Nat.add_comm 1 j], hc⟩

end

/-- The embedded pipes among leaves. -/
def pipes (spots : List Spot) : List SubPipe := spots.filterMap (·.leaf.pipe?)

theorem pipes_append (a b : List Spot) : pipes (a ++ b) = pipes a ++ pipes b := List.filterMap_append

theorem pipes_under (step : Step) (spots : List Spot) : pipes (spots.map (.under step)) = pipes spots :=
  List.filterMap_map

mutual

/-- The embedded pipes of a parameter are those among its leaves. -/
theorem pipes_leaves : ∀ c : Conf, pipes c.leaves = c.subPipes
  | .literal .. | .reference .. | .sub _ => rfl
  | .record fields => pipes_fieldsLeaves fields
  | .list elements => pipes_elementsLeaves 0 elements

theorem pipes_fieldsLeaves : ∀ fields : List (String × Conf),
    pipes (fieldsLeaves fields) = fieldsSubPipes fields
  | [] => rfl
  | (key, c) :: rest => by
    rw [fieldsLeaves, pipes_append, pipes_under, pipes_leaves c, pipes_fieldsLeaves rest, fieldsSubPipes]

theorem pipes_elementsLeaves : ∀ (i : Nat) (elements : List Conf),
    pipes (elementsLeaves i elements) = elementsSubPipes elements
  | _, [] => rfl
  | i, c :: rest => by
    rw [elementsLeaves, pipes_append, pipes_under, pipes_leaves c, pipes_elementsLeaves (i + 1) rest,
      elementsSubPipes]

end

/-! ## Leaves that fail -/

/-- A leaf at a location fails with an error if these outputs are left for it. -/
inductive Leaf.Fails (module location : String) (outputs : List (List Item)) : Leaf → Error → Prop where
  /-- A literal cannot be brought into its form. -/
  | literal {v : Json} {coercion : Coercion} (refused : coercion.coerce? v = none) :
      Fails module location outputs (.literal v coercion)
        (.coercion module location coercion.tag v.render)
  /-- There is no output for an embedded pipe. -/
  | sub {s : SubPipe} (lacking : outputs = []) :
      Fails module location outputs (.sub s) (.resolution module location (.notEvaluated s.pipe.name))

/-- None of the leaves fails: each literal has its form, and there is an output for each embedded
pipe. -/
structure Settled (outputs : List (List Item)) (spots : List Spot) : Prop where
  /-- Each literal has its form. -/
  literals : ∀ s ∈ spots, ∀ v coercion, s.leaf = .literal v coercion → (coercion.coerce? v).isSome
  /-- There are as many outputs as embedded pipes. -/
  supplied : (pipes spots).length ≤ outputs.length

/-- The error is that of the first leaf that fails, and `rest` are the outputs that the leaves before
it have left. -/
def FirstFault (module location : String) (outputs : List (List Item)) (spots : List Spot) (e : Error)
    (rest : List (List Item)) : Prop :=
  ∃ before way leaf after, spots = before ++ ⟨way, leaf⟩ :: after ∧ Settled outputs before ∧
    rest = outputs.drop (pipes before).length ∧ leaf.Fails module (locate location way) rest e

section

variable {module location : String} {outputs rest : List (List Item)} {a b : List Spot} {e : Error}

theorem settled_nil (outputs : List (List Item)) : Settled outputs [] where
  literals := List.forall_mem_nil _
  supplied := Nat.zero_le _

theorem settled_append : Settled outputs (a ++ b) ↔
    Settled outputs a ∧ Settled (outputs.drop (pipes a).length) b := by
  constructor
  · rintro ⟨hliterals, hsupplied⟩
    obtain ⟨ha, hb⟩ := List.forall_mem_append.1 hliterals
    rw [pipes_append, List.length_append] at hsupplied
    exact ⟨⟨ha, by omega⟩, hb, by rw [List.length_drop]; omega⟩
  · rintro ⟨⟨ha, hna⟩, hb, hnb⟩
    rw [List.length_drop] at hnb
    exact ⟨List.forall_mem_append.2 ⟨ha, hb⟩, by rw [pipes_append, List.length_append]; omega⟩

theorem settled_of_under {step : Step} (h : Settled outputs (a.map (.under step))) : Settled outputs a where
  literals s hs := h.literals (s.under step) (List.mem_map_of_mem hs)
  supplied := by rw [← pipes_under step a]; exact h.supplied

/-- The first leaf that fails is in the first part of a row, or else in what comes after it. -/
theorem FirstFault.of_append (h : FirstFault module location outputs (a ++ b) e rest) :
    FirstFault module location outputs a e rest ∨
      Settled outputs a ∧ FirstFault module location (outputs.drop (pipes a).length) b e rest := by
  obtain ⟨before, way, leaf, after, hspots, hbefore, hrest, hfails⟩ := h
  -- The leaves before it end after the first part, or within it, or just where it ends.
  rcases List.append_eq_append_iff.1 hspots with ⟨between, rfl, hb⟩ | ⟨between, ha, hb⟩
  · obtain ⟨hsettled, hbetween⟩ := settled_append.1 hbefore
    refine .inr ⟨hsettled, between, way, leaf, after, hb, hbetween, ?_, hfails⟩
    rw [hrest, pipes_append, List.length_append, List.drop_drop]
  · cases between with
    | nil =>
      rw [List.append_nil] at ha
      rw [ha]
      exact .inr ⟨hbefore, [], way, leaf, after, hb.symm, settled_nil _, hrest, hfails⟩
    | cons s between =>
      cases hb
      exact .inl ⟨before, way, leaf, between, ha, hbefore, hrest, hfails⟩

/-- Seen from before a step, a leaf is at the location after it. -/
theorem FirstFault.of_under {step : Step}
    (h : FirstFault module location outputs (a.map (.under step)) e rest) :
    FirstFault module (step.extend location) outputs a e rest := by
  obtain ⟨before, way, leaf, after, hspots, hbefore, hrest, hfails⟩ := h
  obtain ⟨before, after, rfl, rfl, hafter⟩ := List.map_eq_append_iff.1 hspots
  obtain ⟨s, after, rfl, hs, -⟩ := List.map_eq_cons_iff.1 hafter
  cases hs
  rw [pipes_under] at hrest
  exact ⟨before, s.way, s.leaf, after, rfl, settled_of_under hbefore, hrest, hfails⟩

/-- A leaf is settled, or it fails. -/
theorem settled_or_fails (module location : String) (outputs : List (List Item)) (s : Spot) :
    Settled outputs [s] ∨ ∃ e, s.leaf.Fails module (locate location s.way) outputs e := by
  obtain ⟨way, leaf⟩ := s
  cases leaf with
  | literal v coercion =>
    cases h : coercion.coerce? v with
    | none => exact .inr ⟨_, .literal h⟩
    | some w =>
      refine .inl ⟨List.forall_mem_singleton.2 ?_, Nat.zero_le _⟩
      rintro _ _ ⟨⟩
      rw [h]
      rfl
  | reference path default =>
    refine .inl ⟨List.forall_mem_singleton.2 ?_, Nat.zero_le _⟩
    rintro _ _ ⟨⟩
  | sub s =>
    cases outputs with
    | nil => exact .inr ⟨_, .sub rfl⟩
    | cons output outputs =>
      refine .inl ⟨List.forall_mem_singleton.2 ?_, Nat.le_add_left _ _⟩
      rintro _ _ ⟨⟩

/-- Either no leaf fails, or one of them is the first that does. -/
theorem settled_or_firstFault (module location : String) (outputs : List (List Item))
    (spots : List Spot) :
    Settled outputs spots ∨ ∃ e rest, FirstFault module location outputs spots e rest := by
  induction spots generalizing outputs with
  | nil => exact .inl (settled_nil _)
  | cons s spots ih =>
    rcases settled_or_fails module location outputs s with hs | ⟨e, hfails⟩
    · rcases ih (outputs.drop (pipes [s]).length) with hspots |
        ⟨e, rest, before, way, leaf, after, rfl, hbefore, hrest, hfails⟩
      · exact .inl (settled_append.2 ⟨hs, hspots⟩)
      · refine .inr ⟨e, rest, s :: before, way, leaf, after, rfl, settled_append.2 ⟨hs, hbefore⟩, ?_, hfails⟩
        rw [hrest, List.drop_drop, ← List.length_append, ← pipes_append]
        rfl
    · exact .inr ⟨e, outputs, [], s.way, s.leaf, spots, rfl, settled_nil _, rfl, hfails⟩

end

/-! ## Resolving leaf by leaf -/

section

variable {α β : Type} {module location : String} {a b : List Spot}

/-- The computation goes through the leaves: it comes to a value if they are settled, having taken
the outputs of the embedded pipes among them, and to the error of the first leaf that fails. -/
def Visits (module location : String) (x : Resolve α) (spots : List Spot) : Prop :=
  ∀ outputs, (Settled outputs spots → ∃ v, x.run outputs = (.ok v, outputs.drop (pipes spots).length)) ∧
    ∀ e rest, FirstFault module location outputs spots e rest → x.run outputs = (.error e, rest)

theorem not_firstFault_nil {outputs rest : List (List Item)} {e : Error} :
    ¬ FirstFault module location outputs [] e rest := by
  rintro ⟨before, way, leaf, after, h, -⟩
  cases before <;> cases h

theorem visits_pure (v : α) : Visits module location (pure v) [] := by
  intro outputs
  exact ⟨fun _ => ⟨v, rfl⟩, fun e rest h => absurd h not_firstFault_nil⟩

/-- A computation of one leaf goes through it if it does so when the leaf is settled and when it
fails. -/
theorem visits_leaf {x : Resolve α} {leaf : Leaf}
    (hsettled : ∀ outputs, Settled outputs [⟨[], leaf⟩] →
      ∃ v, x.run outputs = (.ok v, outputs.drop (pipes [⟨[], leaf⟩]).length))
    (hfails : ∀ outputs e, leaf.Fails module location outputs e → x.run outputs = (.error e, outputs)) :
    Visits module location x [⟨[], leaf⟩] := by
  refine fun outputs => ⟨hsettled outputs, ?_⟩
  rintro e rest ⟨before, way, leaf', after, h, -, hrest, hfails'⟩
  cases before with
  | nil =>
    cases h
    rw [hrest] at hfails' ⊢
    exact hfails outputs e hfails'
  | cons s before => cases before <;> cases h

theorem Visits.bind {x : Resolve α} {f : α → Resolve β} (hx : Visits module location x a)
    (hf : ∀ v, Visits module location (f v) b) : Visits module location (x >>= f) (a ++ b) := by
  intro outputs
  constructor
  · intro h
    obtain ⟨ha, hb⟩ := settled_append.1 h
    obtain ⟨v, hv⟩ := (hx outputs).1 ha
    obtain ⟨w, hw⟩ := (hf v _).1 hb
    refine ⟨w, ?_⟩
    rw [run_bind_ok hv, hw, List.drop_drop, pipes_append, List.length_append]
  · intro e rest h
    rcases h.of_append with h | ⟨ha, h⟩
    · exact run_bind_error ((hx outputs).2 e rest h) f
    · obtain ⟨v, hv⟩ := (hx outputs).1 ha
      rw [run_bind_ok hv, (hf v _).2 e rest h]

theorem Visits.map {x : Resolve α} (hx : Visits module location x a) (f : α → β) :
    Visits module location (x >>= fun v => pure (f v)) a := by
  rw [← List.append_nil a]
  exact hx.bind fun v => visits_pure (f v)

theorem Visits.under {x : Resolve α} {step : Step} (hx : Visits module (step.extend location) x a) :
    Visits module location x (a.map (.under step)) := by
  intro outputs
  refine ⟨fun h => ?_, fun e rest h => (hx outputs).2 e rest h.of_under⟩
  rw [pipes_under]
  exact (hx outputs).1 (settled_of_under h)

end

theorem indexLocation_eq (location : String) (i : Nat) :
    indexLocation location i = (Step.element i).extend location := rfl

theorem keyLocation_eq (location key : String) :
    keyLocation location key = (Step.field key).extend location := by
  simp only [keyLocation, Step.extend, String.isEmpty_iff]

section

variable (item : Item) (module : String)

theorem visits_literal (v : Json) (coercion : Coercion) (location : String) :
    Visits module location ((literal v coercion).resolveWith item module location)
      [⟨[], .literal v coercion⟩] := by
  refine visits_leaf (fun outputs h => ?_) ?_
  · have hsome := h.literals _ (List.mem_singleton_self _) v coercion rfl
    obtain ⟨w, hw⟩ := Option.isSome_iff_exists.1 hsome
    rw [resolveWith, hw]
    exact ⟨w, rfl⟩
  · rintro outputs _ ⟨refused⟩
    rw [resolveWith, refused]
    rfl

theorem visits_sub (s : SubPipe) (location : String) :
    Visits module location ((sub s).resolveWith item module location) [⟨[], .sub s⟩] := by
  refine visits_leaf (fun outputs h => ?_) ?_
  · cases outputs with
    | nil => cases h.supplied
    | cons output outputs => exact ⟨s.reduce output, rfl⟩
  · rintro outputs _ (_ | ⟨rfl⟩)
    rfl

mutual

/-- A parameter is resolved by going through its leaves. -/
theorem visits_resolveWith : ∀ (c : Conf) (location : String),
    Visits module location (c.resolveWith item module location) c.leaves
  | .literal v coercion, location => visits_literal item module v coercion location
  | .reference path default, location => by
    refine visits_leaf (fun outputs _ => ⟨item.getD path default, rfl⟩) ?_
    rintro _ _ ⟨⟩
  | .sub s, location => visits_sub item module s location
  | .record fields, location => by
    rw [resolveWith, leaves]
    exact (visits_resolveFields fields location).map _
  | .list elements, location => by
    rw [resolveWith, leaves]
    exact (visits_resolveElements elements location 0).map _

theorem visits_resolveFields : ∀ (fields : List (String × Conf)) (location : String),
    Visits module location (resolveFields item module location fields) (fieldsLeaves fields)
  | [], _ => visits_pure []
  | (key, c) :: rest, location => by
    rw [resolveFields, fieldsLeaves, keyLocation_eq]
    refine (visits_resolveWith c _).under.bind fun v => ?_
    exact (visits_resolveFields rest location).map _

theorem visits_resolveElements : ∀ (elements : List Conf) (location : String) (i : Nat),
    Visits module location (resolveElements item module location i elements) (elementsLeaves i elements)
  | [], _, _ => visits_pure []
  | c :: rest, location, i => by
    rw [resolveElements, elementsLeaves, indexLocation_eq]
    refine (visits_resolveWith c _).under.bind fun v => ?_
    exact (visits_resolveElements rest location (i + 1)).map _

end

end

section

variable {c : Conf} {item : Item} {module location : String} {outputs : List (List Item)}

/-- A parameter fails just with the error of the first leaf that fails. -/
theorem resolveWith_eq_error {e : Error} {rest : List (List Item)} :
    (c.resolveWith item module location).run outputs = (.error e, rest) ↔
      FirstFault module location outputs c.leaves e rest := by
  obtain ⟨hsettled, hfault⟩ := visits_resolveWith item module c location outputs
  refine ⟨fun h => ?_, hfault e rest⟩
  rcases settled_or_firstFault module location outputs c.leaves with hleaves | ⟨e', rest', hfirst⟩
  · obtain ⟨v, hv⟩ := hsettled hleaves
    rw [hv] at h
    cases h
  · have h' := hfault e' rest' hfirst
    rw [h] at h'
    cases h'
    exact hfirst

/-- A parameter fails just if its leaves are not settled. -/
theorem exists_error_iff :
    (∃ e rest, (c.resolveWith item module location).run outputs = (.error e, rest)) ↔
      ¬ Settled outputs c.leaves := by
  constructor
  · rintro ⟨e, rest, h⟩ hleaves
    obtain ⟨v, hv⟩ := (visits_resolveWith item module c location outputs).1 hleaves
    rw [hv] at h
    cases h
  · intro h
    rcases settled_or_firstFault module location outputs c.leaves with hleaves | ⟨e, rest, hfirst⟩
    · exact absurd hleaves h
    · exact ⟨e, rest, resolveWith_eq_error.2 hfirst⟩

end

theorem not_settled_iff {outputs : List (List Item)} {spots : List Spot} : ¬ Settled outputs spots ↔
    (∃ way v coercion, ⟨way, .literal v coercion⟩ ∈ spots ∧ coercion.coerce? v = none) ∨
      outputs.length < (pipes spots).length := by
  constructor
  · intro h
    by_cases hsupplied : (pipes spots).length ≤ outputs.length
    · refine .inl (Classical.byContradiction fun hnone => h ⟨?_, hsupplied⟩)
      rintro ⟨way, leaf⟩ hs v coercion rfl
      exact Option.isSome_iff_ne_none.2 fun h' => hnone ⟨way, v, coercion, hs, h'⟩
    · exact .inr (Nat.lt_of_not_le hsupplied)
  · rintro (⟨way, v, coercion, hs, hnone⟩ | hlt) h
    · have hsome := h.literals _ hs v coercion rfl
      rw [hnone] at hsome
      cases hsome
    · exact absurd h.supplied (Nat.not_le.2 hlt)

/-- A parameter fails just if a literal among its leaves cannot be brought into its form, or if there
are fewer outputs than embedded pipes. The error is that of the first leaf that fails, in the module
and at the location at the end of the way to the leaf. The outputs of the embedded pipes before that
leaf have been taken, and no others. -/
theorem resolveWith_first_fault (c : Conf) (item : Item) (module location : String)
    (outputs : List (List Item)) :
    ((∃ e rest, (c.resolveWith item module location).run outputs = (.error e, rest)) ↔
      (∃ way v coercion, ⟨way, .literal v coercion⟩ ∈ c.leaves ∧ coercion.coerce? v = none) ∨
        outputs.length < c.subPipes.length) ∧
    (∀ e rest, (c.resolveWith item module location).run outputs = (.error e, rest) ↔
      ∃ before way leaf after, c.leaves = before ++ ⟨way, leaf⟩ :: after ∧ Settled outputs before ∧
        rest = outputs.drop (pipes before).length ∧ leaf.Fails module (locate location way) rest e) ∧
    pipes c.leaves = c.subPipes ∧ ∀ way leaf, ⟨way, leaf⟩ ∈ c.leaves ↔ c.LeadsTo way leaf := by
  refine ⟨?_, fun e rest => resolveWith_eq_error, pipes_leaves c, mem_leaves c⟩
  rw [exists_error_iff, not_settled_iff, pipes_leaves]

-- The literal comes before the pipe that lacks its output, and after the one that has taken it.
example (s : SubPipe) (item : Item) :
    ((list [.sub s, .record [("k", .literal (.str "x") .number), ("l", .sub s)]]).resolveWith item
      "regex" "RULE").run [[]] = (.error (.coercion "regex" "RULE[1].k" "num" "\"x\""), []) := by
  cbv

end ItemFlow.Conf
