import ItemFlow.Proofs.Conf.Grammar
import ItemFlow.Proofs.Conf.Keyed
import ItemFlow.Proofs.Json.Keys

/-!
# What a value declares

`Conf.Declares` relates a value to the parameter that it declares. That is what the loader reads, with
an embedded pipe for each object that asks for one, in order, and with records in which each key
stands once (`Conf.ofJson_grammar`).
-/

namespace ItemFlow.Conf

variable {r : Registry}

/-! ## Declarations -/

/-- The parameter that a value declares. -/
inductive Declares (r : Registry) : Json → Conf → Prop where
  /-- A scalar declares itself. -/
  | scalar {v : Json} (scalar : v.isContainer = false) : Declares r v (.value v)
  /-- An array declares what its elements declare, in their order. -/
  | array {elements : List Json} {parts : List Conf}
      (each : List.Forall₂ (Declares r) elements parts) : Declares r (.arr elements) (.list parts)
  /-- An embedded pipe. -/
  | embedding {fields : List (String × Json)} {s : SubPipe} (embeds : Embeds r fields s) :
      Declares r (.obj fields) (.sub s)
  /-- A reference with its default. -/
  | reference {fields : List (String × Json)} {path : String}
      (form : form fields = .reference (.str path)) :
      Declares r (.obj fields) (.reference path ((Fields.get? "default" fields).getD SubPipe.missing))
  /-- A literal with the form into which it is brought. -/
  | literal {fields : List (String × Json)} {v : Json} (form : form fields = .literal v) :
      Declares r (.obj fields) (.literal v (.ofTypeName (textField? "type" fields)))
  /-- A record declares what its fields declare, in their order and under their keys. -/
  | record {fields : List (String × Json)} {parts : List (String × Conf)}
      (form : form fields = .record) (keys : parts.map (·.1) = fields.map (·.1))
      (each : List.Forall₂ (Declares r) (fields.map (·.2)) (parts.map (·.2))) :
      Declares r (.obj fields) (.record parts)

/-- A part of a parameter, at any depth; the whole is one of its parts. -/
inductive PartOf (c : Conf) : Conf → Prop where
  | whole : PartOf c c
  | field {fields : List (String × Conf)} {key : String} {part : Conf}
      (inside : PartOf c (.record fields)) (mem : (key, part) ∈ fields) : PartOf c part
  | element {elements : List Conf} {part : Conf} (inside : PartOf c (.list elements))
      (mem : part ∈ elements) : PartOf c part

/-- The fields of an object that asks for an embedded pipe. -/
def embedding? : Json → Option (List (String × Json))
  | .obj fields =>
    match form fields with
    | .embedding _ => some fields
    | _ => none
  | _ => none

/-- The objects that ask for embedded pipes, by their fields, in the order in which they are
written. -/
def terminals (v : Json) : List (List (String × Json)) := (places v).filterMap embedding?

/-! ## What is read -/

mutual

/-- The loader reads what the value declares. -/
theorem declares_of_ofJson : ∀ {v : Json} {c : Conf}, ofJson r v = .ok c → Declares r v c
  | .obj fields, c, h => by
    rw [ofJson_obj] at h
    cases hf : form fields with
    | embedding name =>
      simp only [hf] at h
      obtain ⟨s, hs, rfl⟩ := Except.map_eq_ok.1 h
      exact .embedding (embeds_of_loadTerminal hf hs)
    | reference path =>
      simp only [hf] at h
      cases path with
      | str path =>
        cases h
        exact .reference hf
      | _ => cases h
    | literal v =>
      simp only [hf] at h
      cases h
      exact .literal hf
    | record =>
      simp only [hf] at h
      obtain ⟨parts, hparts, rfl⟩ := Except.map_eq_ok.1 h
      obtain ⟨keys, each⟩ := declares_of_ofFields hparts
      exact .record hf keys each
  | .arr elements, c, h => by
    unfold ofJson at h
    obtain ⟨parts, hparts, h⟩ := Except.of_bind_ok h
    cases h
    exact .array (declares_of_ofElements hparts)
  | .null, _, h | .bool _, _, h | .num _, _, h | .str _, _, h => by
    cases h
    exact .scalar rfl

theorem declares_of_ofFields : ∀ {fields : List (String × Json)} {parts : List (String × Conf)},
    ofFields r fields = .ok parts → parts.map (·.1) = fields.map (·.1) ∧
      List.Forall₂ (Declares r) (fields.map (·.2)) (parts.map (·.2))
  | [], _, h => by
    cases h
    exact ⟨rfl, .nil⟩
  | (key, v) :: rest, _, h => by
    obtain ⟨c, hc, h⟩ := Except.of_bind_ok h
    obtain ⟨cs, hcs, h⟩ := Except.of_bind_ok h
    cases h
    obtain ⟨keys, each⟩ := declares_of_ofFields hcs
    exact ⟨congrArg (key :: ·) keys, .cons (declares_of_ofJson hc) each⟩

theorem declares_of_ofElements : ∀ {elements : List Json} {parts : List Conf},
    ofElements r elements = .ok parts → List.Forall₂ (Declares r) elements parts
  | [], _, h => by
    cases h
    exact .nil
  | v :: rest, _, h => by
    obtain ⟨c, hc, h⟩ := Except.of_bind_ok h
    obtain ⟨cs, hcs, h⟩ := Except.of_bind_ok h
    cases h
    exact .cons (declares_of_ofJson hc) (declares_of_ofElements hcs)

end

/-! ## Embedded pipes -/

theorem terminals_obj (fields : List (String × Json)) : terminals (.obj fields) =
    match form fields with
    | .embedding _ => [fields]
    | .record => (fieldsPlaces fields).filterMap embedding?
    | _ => [] := by
  rw [terminals, places, List.filterMap_cons, embedding?]
  cases form fields <;> rfl

mutual

/-- What a value declares has an embedded pipe for each object that asks for one, in order. -/
theorem Declares.embeds : ∀ {v : Json} {c : Conf}, Declares r v c →
    List.Forall₂ (Embeds r) (terminals v) c.subPipes
  | .obj fields, c, h => by
    rw [terminals_obj]
    cases h with
    | scalar scalar => cases scalar
    | embedding embeds =>
      obtain ⟨name, form, -⟩ := embeds.named
      rw [form]
      exact .cons embeds .nil
    | reference form =>
      rw [form]
      exact .nil
    | literal form =>
      rw [form]
      exact .nil
    | record form _ each =>
      rw [form]
      exact embeds_fields each
  | .arr elements, c, h => by
    cases h with
    | scalar scalar => cases scalar
    | array each => exact embeds_elements each
  | .null, _, h | .bool _, _, h | .num _, _, h | .str _, _, h => by
    cases h
    exact .nil

theorem embeds_fields : ∀ {fields : List (String × Json)} {parts : List (String × Conf)},
    List.Forall₂ (Declares r) (fields.map (·.2)) (parts.map (·.2)) →
      List.Forall₂ (Embeds r) ((fieldsPlaces fields).filterMap embedding?) (fieldsSubPipes parts)
  | [], [], _ => .nil
  | (_, v) :: rest, (_, c) :: parts, .cons h each => by
    rw [fieldsPlaces, List.filterMap_append, fieldsSubPipes]
    exact List.rel_append (Declares.embeds h) (embeds_fields each)

theorem embeds_elements : ∀ {elements : List Json} {parts : List Conf},
    List.Forall₂ (Declares r) elements parts →
      List.Forall₂ (Embeds r) ((elementsPlaces elements).filterMap embedding?)
        (elementsSubPipes parts)
  | [], _, .nil => .nil
  | v :: rest, c :: parts, .cons h each => by
    rw [elementsPlaces, List.filterMap_append, elementsSubPipes]
    exact List.rel_append (Declares.embeds h) (embeds_elements each)

end

/-! ## Parts -/

theorem exists_of_forall₂ {α β : Type} {R : α → β → Prop} {l : List α} {l' : List β}
    (h : List.Forall₂ R l l') {b : β} (hb : b ∈ l') : ∃ a ∈ l, R a b := by
  induction h with
  | nil => cases hb
  | @cons a b' l l' hab _ ih =>
    rcases List.mem_cons.1 hb with rfl | hb
    · exact ⟨a, List.mem_cons_self, hab⟩
    · obtain ⟨a', ha', hr⟩ := ih hb
      exact ⟨a', List.mem_cons_of_mem a ha', hr⟩

section

variable {v : Json} {c inner : Conf}

/-- Each part of what a value declares is declared by a part of the value. -/
theorem Declares.of_partOf (h : Declares r v c) (hv : v.KeysDistinct) (hp : PartOf c inner) :
    ∃ w, w.KeysDistinct ∧ Declares r w inner := by
  -- Going down from the whole, each part keeps its own value beside it.
  induction hp with
  | whole => exact ⟨v, hv, h⟩
  | field _ mem ih =>
    obtain ⟨w, hw, hd⟩ := ih
    cases hd with
    | record _ _ each =>
      obtain ⟨u, hu, hd⟩ := exists_of_forall₂ each (List.mem_map_of_mem mem)
      obtain ⟨f, hf, rfl⟩ := List.mem_map.1 hu
      cases hw with
      | scalar scalar => cases scalar
      | obj _ each => exact ⟨f.2, each f hf, hd⟩
  | element _ mem ih =>
    obtain ⟨w, hw, hd⟩ := ih
    cases hd with
    | array each =>
      obtain ⟨u, hu, hd⟩ := exists_of_forall₂ each mem
      cases hw with
      | scalar scalar => cases scalar
      | arr each => exact ⟨u, each u hu, hd⟩

/-- A record has the keys of the object that declares it. -/
theorem Declares.keyed {fields : List (String × Conf)} (h : Declares r v (.record fields))
    (hv : v.KeysDistinct) : Keyed fields := by
  cases h with
  | record _ keys _ =>
    cases hv with
    | scalar scalar => cases scalar
    | obj distinct _ =>
      refine keyed_record ?_
      unfold Fields.Distinct
      rw [keys]
      exact distinct

end

/-! ## What the loader does -/

/-- The loader accepts a value just if it is one of the grammar. It fails just with the error of the
first place that offends, in the order in which the places are written. What it reads is what the
value declares, and has an embedded pipe for each object that asks for one, in this order. If no object
in the value has a key twice, and none has if the value is read from a text, then no record has; and
what is found under a key of a record resolves to what the resolved record has under it. -/
theorem ofJson_grammar (r : Registry) (v : Json) :
    ((∃ c, ofJson r v = .ok c) ↔ Acceptable r v) ∧
    (∀ e, ofJson r v = .error e ↔ FirstOffends r (places v) e) ∧
    (∀ c, ofJson r v = .ok c →
      Declares r v c ∧ List.Forall₂ (Embeds r) (terminals v) c.subPipes ∧
      (v.KeysDistinct → ∀ fields, PartOf c (.record fields) → Keyed fields)) ∧
    ∀ text, Json.read text = .ok v → v.KeysDistinct := by
  refine ⟨ofJson_eq_ok v, ofJson_eq_error v, fun c h => ?_, fun text => Json.keysDistinct_of_read⟩
  have hd := declares_of_ofJson h
  refine ⟨hd, hd.embeds, fun hv fields hp => ?_⟩
  obtain ⟨w, hw, hd⟩ := hd.of_partOf hv hp
  exact hd.keyed hw

/-- A registry of one pipe. -/
def single : Registry := ⟨[("p", default)]⟩

/-- An object whose fields declare a literal and a list with an embedded pipe. -/
def written : Json :=
  .obj [("field", .str "t"), ("match", .arr [.obj [("terminal", .str "p"), ("reduce", .str "all")],
    .obj [("subkey", .str "u"), ("value", .null)]])]

theorem loopable_default : (default : Pipe).loopable = true := rfl

/-- The record that it declares. -/
def embedding : Conf :=
  .record [("field", .value (.str "t")), ("match", .list [
    .sub { pipe := default, loopable := loopable_default, reduction := .all },
    .reference "u" SubPipe.missing])]

/-- Two places that offend. -/
def twofold : Json := .arr [.obj [("k", .obj [("subkey", .bool true)])], .obj [("terminal", .null)]]

theorem keysDistinct_written : written.KeysDistinct := by
  have hpipe : Json.KeysDistinct (.obj [("terminal", .str "p"), ("reduce", .str "all")]) :=
    Json.keysDistinct_flat (by decide) (by decide)
  have hpath : Json.KeysDistinct (.obj [("subkey", .str "u"), ("value", .null)]) :=
    Json.keysDistinct_flat (by decide) (by decide)
  refine .obj (by decide) (List.forall_mem_cons.2 ⟨.scalar rfl, List.forall_mem_singleton.2 ?_⟩)
  exact .arr (List.forall_mem_cons.2 ⟨hpipe, List.forall_mem_singleton.2 hpath⟩)

/-- The object declares its record, and of two places the one that is written first is at fault. -/
theorem ofJson_grammar_written :
    (Acceptable single written ∧ Declares single written embedding ∧
      List.Forall₂ (Embeds single) (terminals written) embedding.subPipes ∧
      ∀ fields, PartOf embedding (.record fields) → Keyed fields) ∧
    FirstOffends single (places twofold) (.conf (.subkey "true")) := by
  obtain ⟨haccepted, -, hread, -⟩ := ofJson_grammar single written
  have hok : ofJson single written = .ok embedding := rfl
  obtain ⟨hdeclares, hembeds, hkeyed⟩ := hread embedding hok
  exact ⟨⟨haccepted.1 ⟨embedding, hok⟩, hdeclares, hembeds, hkeyed keysDistinct_written⟩,
    ((ofJson_grammar single twofold).2.1 _).1 rfl⟩

end ItemFlow.Conf
