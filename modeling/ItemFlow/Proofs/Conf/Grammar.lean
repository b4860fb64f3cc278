import ItemFlow.Proofs.Conf.Embedded
import Mathlib

/-!
# The grammar of parameters

Which values declare a parameter can be said without reading them: `Conf.Acceptable` is their
grammar, and `Conf.Offends` says what is wrong with one place of a value. The values of the grammar
are those in which no place offends (`Conf.acceptable_iff_sound`), so the loader accepts just these,
and it fails with the error of the first place that offends (`Conf.ofJson_eq_error`).
-/

namespace ItemFlow.Conf

variable {r : Registry}

/-! ## Places -/

/-- What an object declares. -/
inductive Form where
  /-- An embedded pipe, by its name. -/
  | embedding (name : Json)
  /-- A reference, by its path. -/
  | reference (path : Json)
  /-- A literal. -/
  | literal (value : Json)
  /-- A record of what its fields declare. -/
  | record

/-- What an object with the fields declares. An embedded pipe goes before a reference, and that
before a literal. -/
def form (fields : List (String × Json)) : Form :=
  match Fields.get? "terminal" fields, Fields.get? "subkey" fields, Fields.get? "value" fields with
  | some name, _, _ => .embedding name
  | none, some path, _ => .reference path
  | none, none, some v => .literal v
  | none, none, none => .record

mutual

/-- The places of a value that are read for a parameter, in the order in which they are written. An
object that is no record is one place, with all that it holds. -/
def places : Json → List Json
  | .obj fields =>
    .obj fields :: match form fields with
      | .record => fieldsPlaces fields
      | _ => []
  | .arr elements => .arr elements :: elementsPlaces elements
  | v => [v]

/-- The places in the fields of an object. -/
def fieldsPlaces : List (String × Json) → List Json
  | [] => []
  | (_, v) :: rest => places v ++ fieldsPlaces rest

/-- The places in the elements of an array. -/
def elementsPlaces : List Json → List Json
  | [] => []
  | v :: rest => places v ++ elementsPlaces rest

end

/-! ## The grammar -/

/-- The values that declare a parameter. -/
inductive Acceptable (r : Registry) : Json → Prop where
  /-- Any scalar does. -/
  | scalar {v : Json} (scalar : v.isContainer = false) : Acceptable r v
  /-- An array does if its elements do. -/
  | array {elements : List Json} (each : ∀ v ∈ elements, Acceptable r v) :
      Acceptable r (.arr elements)
  /-- An embedded pipe must be a loopable one of the registry, and a reduction that is a text must
  be one that there is. -/
  | embedding {fields : List (String × Json)} {name : String} {pipe : Pipe}
      (form : form fields = .embedding (.str name)) (named : r.get? name = some pipe)
      (loopable : pipe.loopable = true)
      (reduce : ∀ text, Fields.get? "reduce" fields = some (.str text) →
        text = "first" ∨ text = "all") : Acceptable r (.obj fields)
  /-- The path of a reference must be a text. -/
  | reference {fields : List (String × Json)} {path : String}
      (form : form fields = .reference (.str path)) : Acceptable r (.obj fields)
  /-- Any literal does. -/
  | literal {fields : List (String × Json)} {v : Json} (form : form fields = .literal v) :
      Acceptable r (.obj fields)
  /-- A record does if its fields do. -/
  | record {fields : List (String × Json)} (form : form fields = .record)
      (each : ∀ f ∈ fields, Acceptable r f.2) : Acceptable r (.obj fields)

/-- What is wrong with a place, apart from other places. -/
inductive Offends (r : Registry) : Json → Error → Prop where
  /-- The name of a pipe is no text. -/
  | terminal {fields : List (String × Json)} {name : Json} (form : form fields = .embedding name)
      (text : name.text? = none) : Offends r (.obj fields) (.conf (.terminal name.render))
  /-- There is no pipe of the name. -/
  | unknown {fields : List (String × Json)} {name : String}
      (form : form fields = .embedding (.str name)) (named : r.get? name = none) :
      Offends r (.obj fields) (.resolution "conf" name (.noSuchPipe name))
  /-- The pipe cannot run once for each item. -/
  | refused {fields : List (String × Json)} {name : String} {pipe : Pipe}
      (form : form fields = .embedding (.str name)) (named : r.get? name = some pipe)
      (loopable : pipe.loopable = false) : Offends r (.obj fields) (.notLoopable pipe.name)
  /-- The pipe can, but the reduction of its output is one that there is not. -/
  | reduction {fields : List (String × Json)} {name text : String} {pipe : Pipe}
      (form : form fields = .embedding (.str name)) (named : r.get? name = some pipe)
      (loopable : pipe.loopable = true) (reduce : Fields.get? "reduce" fields = some (.str text))
      (first : text ≠ "first") (all : text ≠ "all") :
      Offends r (.obj fields) (.conf (.reduction text))
  /-- The path of a reference is no text. -/
  | subkey {fields : List (String × Json)} {path : Json} (form : form fields = .reference path)
      (text : path.text? = none) : Offends r (.obj fields) (.conf (.subkey path.render))

/-- Nothing is wrong with any of the places. -/
def Sound (r : Registry) (l : List Json) : Prop := ∀ p ∈ l, ∀ e, ¬ Offends r p e

/-- The error is that of the first of the places that offends. -/
def FirstOffends (r : Registry) (l : List Json) (e : Error) : Prop :=
  ∃ before p after, l = before ++ p :: after ∧ Sound r before ∧ Offends r p e

/-- An embedded pipe is the one that an object asks for: the registry's entry of the name, with the
path and the reduction of the object. -/
structure Embeds (r : Registry) (fields : List (String × Json)) (s : SubPipe) : Prop where
  /-- The pipe is the registry's entry of the name. -/
  named : ∃ name, form fields = .embedding (.str name) ∧ r.get? name = some s.pipe
  /-- The path is that of the object, if it is a text. -/
  path : s.path = textField? "path" fields
  /-- All items count if the object says so, else the first. -/
  reduction : s.reduction = if textField? "reduce" fields = some "all" then .all else .first

/-! ## Offences in a row -/

section

variable {a b : List Json} {p : Json} {e : Error}

theorem sound_cons : Sound r (p :: b) ↔ (∀ e, ¬ Offends r p e) ∧ Sound r b :=
  List.forall_mem_cons

theorem sound_append : Sound r (a ++ b) ↔ Sound r a ∧ Sound r b := List.forall_mem_append

theorem sound_singleton : Sound r [p] ↔ ∀ e, ¬ Offends r p e := List.forall_mem_singleton

theorem not_firstOffends_nil : ¬ FirstOffends r [] e := by
  rintro ⟨before, p, after, h, -⟩
  cases before <;> cases h

theorem firstOffends_cons : FirstOffends r (p :: b) e ↔
    Offends r p e ∨ (∀ e, ¬ Offends r p e) ∧ FirstOffends r b e := by
  constructor
  · rintro ⟨before, q, after, h, hsound, hq⟩
    cases before with
    | nil =>
      cases h
      exact .inl hq
    | cons p' before =>
      cases h
      obtain ⟨hp, hbefore⟩ := sound_cons.1 hsound
      exact .inr ⟨hp, before, q, after, rfl, hbefore, hq⟩
  · rintro (hp | ⟨hp, before, q, after, rfl, hbefore, hq⟩)
    · exact ⟨[], p, b, rfl, List.forall_mem_nil _, hp⟩
    · exact ⟨p :: before, q, after, rfl, sound_cons.2 ⟨hp, hbefore⟩, hq⟩

theorem firstOffends_singleton : FirstOffends r [p] e ↔ Offends r p e := by
  rw [firstOffends_cons]
  constructor
  · rintro (h | ⟨-, h⟩)
    · exact h
    · exact absurd h not_firstOffends_nil
  · exact .inl

/-- The first offence is in the first part of a row, or else in what comes after it. -/
theorem firstOffends_append :
    FirstOffends r (a ++ b) e ↔ FirstOffends r a e ∨ Sound r a ∧ FirstOffends r b e := by
  induction a with
  | nil =>
    rw [List.nil_append]
    constructor
    · exact fun h => .inr ⟨List.forall_mem_nil _, h⟩
    · rintro (h | ⟨-, h⟩)
      · exact absurd h not_firstOffends_nil
      · exact h
  | cons p a ih =>
    rw [List.cons_append, firstOffends_cons, ih, firstOffends_cons, sound_cons]
    tauto

/-- If a place offends, one of the places is the first that does. -/
theorem sound_iff : Sound r a ↔ ∀ e, ¬ FirstOffends r a e := by
  constructor
  · rintro h e ⟨before, p, after, rfl, -, hp⟩
    exact h p (by simp) e hp
  · intro h
    induction a with
    | nil => exact List.forall_mem_nil _
    | cons p a ih =>
      have hp : ∀ e, ¬ Offends r p e := fun e he => h e (firstOffends_cons.2 (.inl he))
      have ha := ih fun e he => h e (firstOffends_cons.2 (.inr ⟨hp, he⟩))
      exact sound_cons.2 ⟨hp, ha⟩

end

/-! ## Objects -/

section

variable {fields : List (String × Json)} {e : Error}

/-- What the loader makes of an object, by its form. -/
theorem ofJson_obj (fields : List (String × Json)) : ofJson r (.obj fields) =
    match form fields with
    | .embedding name => (loadTerminal r fields name).map .sub
    | .reference path => loadReference fields path
    | .literal v => .ok (.literal v (.ofTypeName (textField? "type" fields)))
    | .record => (ofFields r fields).map .record := by
  unfold ofJson form
  cases Fields.get? "terminal" fields with
  | some name => rfl
  | none =>
    cases Fields.get? "subkey" fields with
    | some path => rfl
    | none =>
      cases Fields.get? "value" fields with
      | some v => rfl
      | none => rfl

theorem textField?_eq_some {key text : String} :
    textField? key fields = some text ↔ Fields.get? key fields = some (.str text) := by
  unfold textField?
  cases Fields.get? key fields with
  | none => simp
  | some v => cases v <;> simp [Json.text?]

/-- The reduction of an object fails if it is a text and there is none of this name. -/
theorem loadReduction_cases (fields : List (String × Json)) :
    (loadReduction (textField? "reduce" fields) =
        .ok (if textField? "reduce" fields = some "all" then .all else .first) ∧
      ∀ text, Fields.get? "reduce" fields = some (.str text) → text = "first" ∨ text = "all") ∨
    ∃ text, Fields.get? "reduce" fields = some (.str text) ∧ text ≠ "first" ∧ text ≠ "all" ∧
      loadReduction (textField? "reduce" fields) = .error (.conf (.reduction text)) := by
  simp only [← textField?_eq_some]
  cases textField? "reduce" fields with
  | none =>
    refine .inl ⟨rfl, ?_⟩
    rintro text ⟨⟩
  | some text =>
    by_cases hf : text = "first"
    · subst hf
      refine .inl ⟨rfl, ?_⟩
      rintro text ⟨⟩
      exact .inl rfl
    · by_cases ha : text = "all"
      · subst ha
        refine .inl ⟨rfl, ?_⟩
        rintro text ⟨⟩
        exact .inr rfl
      · refine .inr ⟨text, rfl, hf, ha, ?_⟩
        rw [loadReduction, if_neg (by simpa using hf), if_neg (by simpa using ha)]

section

variable {name : String} {pipe : Pipe}

theorem loadTerminal_unknown (h : r.get? name = none) :
    loadTerminal r fields (.str name) = .error (.resolution "conf" name (.noSuchPipe name)) := by
  simp only [loadTerminal, h]

theorem loadTerminal_refused (h : r.get? name = some pipe) (hl : pipe.loopable = false) :
    loadTerminal r fields (.str name) = .error (.notLoopable pipe.name) := by
  simp only [loadTerminal, h, SubPipe.ofPipe_of_not_loopable hl]
  rfl

theorem loadTerminal_loopable (h : r.get? name = some pipe) (hl : pipe.loopable = true) :
    loadTerminal r fields (.str name) = (loadReduction (textField? "reduce" fields)).map
      fun reduction => ⟨pipe, hl, textField? "path" fields, reduction⟩ := by
  simp only [loadTerminal, h, SubPipe.ofPipe_of_loopable hl]
  cases loadReduction (textField? "reduce" fields) <;> rfl

end

/-- What becomes of an object that asks for an embedded pipe. -/
theorem loadTerminal_cases {name : Json} (h : form fields = .embedding name) :
    (∃ s, loadTerminal r fields name = .ok s ∧ Embeds r fields s ∧ Acceptable r (.obj fields)) ∨
      ∃ e, loadTerminal r fields name = .error e ∧ Offends r (.obj fields) e := by
  cases name with
  | str name =>
    cases hn : r.get? name with
    | none => exact .inr ⟨_, loadTerminal_unknown hn, .unknown h hn⟩
    | some pipe =>
      cases hl : pipe.loopable with
      | false => exact .inr ⟨_, loadTerminal_refused hn hl, .refused h hn hl⟩
      | true =>
        rw [loadTerminal_loopable hn hl]
        rcases loadReduction_cases fields with ⟨hr, hreduce⟩ | ⟨text, hreduce, hf, ha, hr⟩
        · refine .inl ⟨_, by rw [hr]; rfl, ⟨⟨name, h, hn⟩, rfl, rfl⟩, ?_⟩
          exact .embedding h hn hl hreduce
        · exact .inr ⟨_, by rw [hr]; rfl, .reduction h hn hl hreduce hf ha⟩
  | _ => exact .inr ⟨_, rfl, .terminal h rfl⟩

theorem loadTerminal_of_offends {name : Json} (h : form fields = .embedding name)
    (ho : Offends r (.obj fields) e) : loadTerminal r fields name = .error e := by
  cases ho with
  | terminal form text =>
    cases h.symm.trans form
    cases name with
    | str name => cases text
    | _ => rfl
  | unknown form named =>
    cases h.symm.trans form
    exact loadTerminal_unknown named
  | refused form named loopable =>
    cases h.symm.trans form
    exact loadTerminal_refused named loopable
  | reduction form named loopable reduce first all =>
    cases h.symm.trans form
    rw [loadTerminal_loopable named loopable, textField?_eq_some.2 reduce, loadReduction,
      if_neg (by simpa using first), if_neg (by simpa using all)]
    rfl
  | subkey form _ => cases h.symm.trans form

/-- An object that asks for an embedded pipe as it should is no offence. -/
theorem Acceptable.not_offends {name : Json} (h : form fields = .embedding name)
    (ha : Acceptable r (.obj fields)) : ¬ Offends r (.obj fields) e := by
  intro ho
  have herror := loadTerminal_of_offends h ho
  cases ha with
  | scalar scalar => cases scalar
  | reference form => cases h.symm.trans form
  | literal form => cases h.symm.trans form
  | record form _ => cases h.symm.trans form
  | embedding form named loopable reduce =>
    cases h.symm.trans form
    rw [loadTerminal_loopable named loopable] at herror
    rcases loadReduction_cases fields with ⟨hr, -⟩ | ⟨text, htext, first, all, -⟩
    · rw [hr] at herror
      cases herror
    · rcases reduce text htext with rfl | rfl
      · exact first rfl
      · exact all rfl

theorem loadTerminal_eq_error {name : Json} (h : form fields = .embedding name) :
    loadTerminal r fields name = .error e ↔ Offends r (.obj fields) e := by
  refine ⟨fun he => ?_, loadTerminal_of_offends h⟩
  rcases loadTerminal_cases h with ⟨s, hs, -⟩ | ⟨e', he', ho⟩
  · rw [hs] at he
    cases he
  · rw [he'] at he
    cases he
    exact ho

theorem embeds_of_loadTerminal {name : Json} {s : SubPipe} (h : form fields = .embedding name)
    (hs : loadTerminal r fields name = .ok s) : Embeds r fields s := by
  rcases loadTerminal_cases h with ⟨s', hs', he, -⟩ | ⟨e, he, -⟩
  · rw [hs'] at hs
    cases hs
    exact he
  · rw [he] at hs
    cases hs

/-- Only embedded pipes and references whose path is no text offend. -/
theorem Offends.form (h : Offends r (.obj fields) e) : (∃ name, form fields = .embedding name) ∨
    ∃ path, form fields = .reference path ∧ path.text? = none ∧ e = .conf (.subkey path.render) := by
  cases h with
  | terminal form _ => exact .inl ⟨_, form⟩
  | unknown form _ => exact .inl ⟨_, form⟩
  | refused form _ _ => exact .inl ⟨_, form⟩
  | reduction form _ _ _ _ _ => exact .inl ⟨_, form⟩
  | subkey form text => exact .inr ⟨_, form, text, rfl⟩

theorem not_offends_literal {v : Json} (h : form fields = .literal v) : ¬ Offends r (.obj fields) e := by
  intro ho
  simpa [h] using ho.form

/-- A record by itself is no offence; its fields are places of their own. -/
theorem not_offends_record (h : form fields = .record) : ¬ Offends r (.obj fields) e := by
  intro ho
  simpa [h] using ho.form

/-- A reference fails just if its path is no text. -/
theorem loadReference_eq_error {path : Json} (h : form fields = .reference path) :
    loadReference fields path = .error e ↔ Offends r (.obj fields) e := by
  constructor
  · intro he
    cases path with
    | str path => cases he
    | _ =>
      cases he
      exact .subkey h rfl
  · intro ho
    rcases ho.form with ⟨name, form⟩ | ⟨path, form, text, rfl⟩
    · cases h.symm.trans form
    · cases h.symm.trans form
      cases path with
      | str path => cases text
      | _ => rfl

theorem acceptable_reference {path : Json} (h : form fields = .reference path) :
    Acceptable r (.obj fields) ↔ ∃ text, path = .str text := by
  constructor
  · intro ha
    cases ha with
    | scalar scalar => cases scalar
    | reference form =>
      cases h.symm.trans form
      exact ⟨_, rfl⟩
    | embedding form => cases h.symm.trans form
    | literal form => cases h.symm.trans form
    | record form => cases h.symm.trans form
  · rintro ⟨text, rfl⟩
    exact .reference h

theorem acceptable_record (h : form fields = .record) :
    Acceptable r (.obj fields) ↔ ∀ f ∈ fields, Acceptable r f.2 := by
  constructor
  · intro ha
    cases ha with
    | scalar scalar => cases scalar
    | record _ each => exact each
    | embedding form => cases h.symm.trans form
    | reference form => cases h.symm.trans form
    | literal form => cases h.symm.trans form
  · exact .record h

theorem acceptable_array {elements : List Json} :
    Acceptable r (.arr elements) ↔ ∀ v ∈ elements, Acceptable r v := by
  constructor
  · intro ha
    cases ha with
    | scalar scalar => cases scalar
    | array each => exact each
  · exact .array

/-- A place that is no object does not offend. -/
theorem not_offends {v : Json} (h : v.isObject = false) : ¬ Offends r v e := by
  intro ho
  cases ho <;> cases h

end

/-! ## The grammar and the offences -/

mutual

/-- The values of the grammar are those in which no place offends. -/
theorem acceptable_iff_sound : ∀ v : Json, Acceptable r v ↔ Sound r (places v)
  | .obj fields => by
    rw [places]
    cases hf : form fields with
    | embedding name =>
      rw [sound_singleton]
      constructor
      · exact fun h e => h.not_offends hf
      · intro h
        rcases loadTerminal_cases hf with ⟨s, -, -, ha⟩ | ⟨e, -, ho⟩
        · exact ha
        · exact absurd ho (h e)
    | reference path =>
      rw [sound_singleton, acceptable_reference hf]
      constructor
      · rintro ⟨text, rfl⟩ e ho
        exact nomatch (loadReference_eq_error hf).2 ho
      · intro h
        cases path with
        | str text => exact ⟨text, rfl⟩
        | _ => exact absurd (.subkey hf rfl) (h _)
    | literal v =>
      rw [sound_singleton]
      exact ⟨fun _ e => not_offends_literal hf, fun _ => .literal hf⟩
    | record =>
      rw [sound_cons, acceptable_record hf, acceptable_fields fields]
      exact ⟨fun h => ⟨fun e => not_offends_record hf, h⟩, fun h => h.2⟩
  | .arr elements => by
    rw [places, sound_cons, acceptable_array, acceptable_elements elements]
    exact ⟨fun h => ⟨fun e => not_offends rfl, h⟩, fun h => h.2⟩
  | .null | .bool _ | .num _ | .str _ =>
    ⟨fun _ => sound_singleton.2 fun e => not_offends rfl, fun _ => .scalar rfl⟩

theorem acceptable_fields : ∀ fields : List (String × Json),
    (∀ f ∈ fields, Acceptable r f.2) ↔ Sound r (fieldsPlaces fields)
  | [] => ⟨fun _ => List.forall_mem_nil _, fun _ => List.forall_mem_nil _⟩
  | (key, v) :: rest => by
    rw [List.forall_mem_cons, acceptable_iff_sound v, acceptable_fields rest, fieldsPlaces,
      sound_append]

theorem acceptable_elements : ∀ elements : List Json,
    (∀ v ∈ elements, Acceptable r v) ↔ Sound r (elementsPlaces elements)
  | [] => ⟨fun _ => List.forall_mem_nil _, fun _ => List.forall_mem_nil _⟩
  | v :: rest => by
    rw [List.forall_mem_cons, acceptable_iff_sound v, acceptable_elements rest, elementsPlaces,
      sound_append]

end

/-! ## What goes wrong -/

/-- Readings one after another go wrong where the first does, or else where the second does. -/
theorem seq_eq_error {α β γ : Type} {x : Except Error α} {y : Except Error β} {f : α → β → γ}
    {a b : List Json} (hx : ∀ e, x = .error e ↔ FirstOffends r a e)
    (hy : ∀ e, y = .error e ↔ FirstOffends r b e) (e : Error) :
    (do let u ← x; let w ← y; return f u w) = Except.error e ↔ FirstOffends r (a ++ b) e := by
  have hsound : (∃ u, x = .ok u) ↔ Sound r a := by
    rw [sound_iff]
    cases x with
    | error e' => simp [← hx]
    | ok u => simp [← hx]
  -- The second reading is begun only if the first has succeeded, and does not look at what it gave.
  have hsnd : ∀ u, (do let w ← y; return f u w) = Except.error e ↔ FirstOffends r b e := by
    intro u
    rw [← hy]
    cases y <;> simp [bind, Except.bind, pure, Except.pure]
  rw [Except.bind_eq_error, firstOffends_append, hx, ← hsound]
  simp only [hsnd, exists_and_right]

mutual

/-- The loader fails just with the error of the first place that offends. -/
theorem ofJson_eq_error : ∀ (v : Json) (e : Error),
    ofJson r v = .error e ↔ FirstOffends r (places v) e
  | .obj fields, e => by
    rw [ofJson_obj, places]
    cases hf : form fields with
    | embedding name => rw [Except.map_eq_error, firstOffends_singleton, loadTerminal_eq_error hf]
    | reference path => rw [firstOffends_singleton, loadReference_eq_error hf]
    | literal v =>
      rw [firstOffends_singleton]
      exact ⟨nofun, fun ho => absurd ho (not_offends_literal hf)⟩
    | record =>
      have hplace : ∀ e, ¬ Offends r (.obj fields) e := fun e => not_offends_record hf
      rw [Except.map_eq_error, ofFields_eq_error fields e, firstOffends_cons]
      tauto
  | .arr elements, e => by
    have hplace : ∀ e, ¬ Offends r (.arr elements) e := fun e => not_offends rfl
    have hlist : ofJson r (.arr elements) = (ofElements r elements).map .list := rfl
    rw [hlist, Except.map_eq_error, ofElements_eq_error elements e, places, firstOffends_cons]
    tauto
  | .null, e | .bool _, e | .num _, e | .str _, e =>
    ⟨nofun, fun h => absurd (firstOffends_singleton.1 h) (not_offends rfl)⟩

theorem ofFields_eq_error : ∀ (fields : List (String × Json)) (e : Error),
    ofFields r fields = .error e ↔ FirstOffends r (fieldsPlaces fields) e
  | [], _ => ⟨nofun, fun h => absurd h not_firstOffends_nil⟩
  | (_, v) :: rest, e => seq_eq_error (ofJson_eq_error v) (ofFields_eq_error rest) e

theorem ofElements_eq_error : ∀ (elements : List Json) (e : Error),
    ofElements r elements = .error e ↔ FirstOffends r (elementsPlaces elements) e
  | [], _ => ⟨nofun, fun h => absurd h not_firstOffends_nil⟩
  | v :: rest, e => seq_eq_error (ofJson_eq_error v) (ofElements_eq_error rest) e

end

/-- The loader accepts just the values of the grammar. -/
theorem ofJson_eq_ok (v : Json) : (∃ c, ofJson r v = .ok c) ↔ Acceptable r v := by
  rw [acceptable_iff_sound, sound_iff]
  simp only [← ofJson_eq_error]
  cases ofJson r v <;> simp

end ItemFlow.Conf
