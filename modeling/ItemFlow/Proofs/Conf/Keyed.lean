import ItemFlow.Proofs.Conf.Embedded
import ItemFlow.Proofs.Conf.Outputs
import ItemFlow.Proofs.Feeding

/-!
# Fields of records

The value of a record has under each key what the field of that key comes to with its own outputs:
those after the outputs of the fields before it. This holds as long as no key occurs twice
(`Conf.keyed_record`); if one does, its first field is found and its last one counts.
-/

namespace ItemFlow

namespace Fields

variable {α : Type}

/-- With distinct keys the order of the fields does not matter to whoever looks a key up. -/
theorem lookup_reverse {before after : List (String × α)} {key : String} {value : α}
    (h : Distinct (before ++ (key, value) :: after)) :
    (before ++ (key, value) :: after).reverse.lookup key = some value := by
  have hafter : after.reverse.lookup key = none := by
    rw [List.lookup_eq_none_iff]
    intro f hf
    rw [bne_iff_ne]
    rintro rfl
    unfold Distinct at h
    rw [List.map_append, List.map_cons] at h
    have hnodup := List.nodup_cons.1 (List.nodup_append.1 h).2.1
    exact hnodup.1 (List.mem_map.2 ⟨f, List.mem_reverse.1 hf, rfl⟩)
  rw [List.reverse_append, List.reverse_cons, List.append_assoc, List.lookup_append, hafter,
    Option.none_or, List.singleton_append, List.lookup_cons_self]

/-- A key is found among fields just if it is one of their keys. -/
theorem lookup_eq_none {fields : List (String × α)} {key : String} :
    fields.lookup key = none ↔ key ∉ fields.map (·.1) := by
  rw [List.lookup_eq_none_iff, List.mem_map]
  constructor
  · rintro h ⟨f, hf, rfl⟩
    exact bne_iff_ne.1 (h f hf) rfl
  · intro h f hf
    rw [bne_iff_ne]
    rintro rfl
    exact h ⟨f, hf, rfl⟩

end Fields

namespace Conf

section

variable {item : Item} {module location : String} {outputs rest : List (List Item)}

/-! ## What fields come to -/

/-- A parameter that comes to a value has taken an output for each of its embedded pipes. -/
theorem eq_drop_of_resolveWith {c : Conf} {v : Json}
    (h : (c.resolveWith item module location).run outputs = (.ok v, rest)) :
    rest = outputs.drop c.subPipes.length :=
  ((takes_resolveWith item module c location (aligned_slots c.subPipes outputs) v rest).1 h).2.1

/-- Where a parameter stands matters to its errors only. -/
theorem resolveWith_ok_at {c : Conf} {v : Json}
    (h : (c.resolveWith item module location).run outputs = (.ok v, rest)) (module' location' : String) :
    (c.resolveWith item module' location').run outputs = (.ok v, rest) := by
  have haligned := aligned_slots c.subPipes outputs
  exact (takes_resolveWith item module' c location' haligned v rest).2
    ((takes_resolveWith item module c location haligned v rest).1 h)

/-- The values of fields stand under the keys of the fields. -/
theorem keys_of_resolveFields {fields : List (String × Conf)} {values : List (String × Json)}
    (h : (resolveFields item module location fields).run outputs = (.ok values, rest)) :
    values.map (·.1) = fields.map (·.1) := by
  induction fields generalizing outputs values with
  | nil => cases h; rfl
  | cons f fields ih =>
    unfold resolveFields at h
    obtain ⟨v, taken, -, h⟩ := run_bind_eq_ok.1 h
    obtain ⟨vs, taken', hvs, h⟩ := run_bind_eq_ok.1 h
    cases h
    rw [List.map_cons, List.map_cons, ih hvs]

/-- A field takes the outputs after those of the fields before it. -/
theorem resolveFields_split {before after : List (String × Conf)} {key : String} {part : Conf}
    {values : List (String × Json)}
    (h : (resolveFields item module location (before ++ (key, part) :: after)).run outputs =
      (.ok values, rest)) :
    ∃ left w right taken, values = left ++ (key, w) :: right ∧
      (part.resolveWith item module (keyLocation location key)).run
        (outputs.drop (fieldsSubPipes before).length) = (.ok w, taken) := by
  induction before generalizing outputs values with
  | nil =>
    rw [List.nil_append] at h
    unfold resolveFields at h
    obtain ⟨w, taken, hw, h⟩ := run_bind_eq_ok.1 h
    obtain ⟨vs, taken', -, h⟩ := run_bind_eq_ok.1 h
    cases h
    exact ⟨[], w, vs, taken, rfl, hw⟩
  | cons f before ih =>
    rw [List.cons_append] at h
    unfold resolveFields at h
    obtain ⟨v, taken, hv, h⟩ := run_bind_eq_ok.1 h
    obtain ⟨vs, taken', hvs, h⟩ := run_bind_eq_ok.1 h
    cases h
    obtain ⟨left, w, right, taken'', rfl, hw⟩ := ih hvs
    refine ⟨(f.1, v) :: left, w, right, taken'', rfl, ?_⟩
    rw [fieldsSubPipes, List.length_append, ← List.drop_drop, ← eq_drop_of_resolveWith hv]
    exact hw

end

/-! ## Records -/

/-- A record in which no key occurs twice, and whose value has under each key what the field of that
key comes to. -/
structure Keyed (fields : List (String × Conf)) : Prop where
  /-- No key occurs twice. -/
  distinct : Fields.Distinct fields
  /-- The value has nothing under a key that the record lacks. -/
  lacking : ∀ {key item module location outputs value rest}, (record fields).field? key = none →
    ((record fields).resolveWith item module location).run outputs = (.ok value, rest) →
    value.field? key = none
  /-- Under another key it has what the field comes to with its own outputs, which are those after
  the outputs of the fields before it. -/
  resolved : ∀ {key part item module location outputs value rest},
    (record fields).field? key = some part →
    ((record fields).resolveWith item module location).run outputs = (.ok value, rest) →
    ∃ before after w, fields = before ++ (key, part) :: after ∧ value.field? key = some w ∧
      ∀ module' location', (part.resolveWith item module' location').run
        (outputs.drop (fieldsSubPipes before).length) =
          (.ok w, (outputs.drop (fieldsSubPipes before).length).drop part.subPipes.length)
  /-- The same if the embedded pipes are run, those of the record and those of the field alone. -/
  run : ∀ {key part ctx item module value}, (record fields).field? key = some part →
    ((record fields).resolve ctx item module).run.value = .ok value →
    ∃ w, value.field? key = some w ∧ (part.resolve ctx item module).run.value = .ok w

section

variable {fields : List (String × Conf)} {item : Item} {module location : String}
  {outputs rest : List (List Item)} {value : Json}

/-- The value of a record has the last values of its fields. -/
theorem fields_of_resolveWith
    (h : ((record fields).resolveWith item module location).run outputs = (.ok value, rest)) :
    ∃ values, (resolveFields item module location fields).run outputs = (.ok values, rest) ∧
      ∀ key, value.field? key = values.reverse.lookup key := by
  unfold resolveWith at h
  obtain ⟨values, taken, hvalues, h⟩ := run_bind_eq_ok.1 h
  cases h
  refine ⟨values, hvalues, fun key => ?_⟩
  rw [Fields.insertAll_nil]
  exact Fields.lookup_lastValues values key

theorem field?_of_lacking {key : String} (hk : (record fields).field? key = none)
    (h : ((record fields).resolveWith item module location).run outputs = (.ok value, rest)) :
    value.field? key = none := by
  obtain ⟨values, hvalues, hvalue⟩ := fields_of_resolveWith h
  have hkeys : key ∉ fields.map (·.1) := Fields.lookup_eq_none.1 hk
  rw [hvalue, Fields.lookup_eq_none, List.map_reverse, List.mem_reverse, keys_of_resolveFields hvalues]
  exact hkeys

theorem field?_of_resolved {key : String} {part : Conf} (hd : Fields.Distinct fields)
    (hk : (record fields).field? key = some part)
    (h : ((record fields).resolveWith item module location).run outputs = (.ok value, rest)) :
    ∃ before after w, fields = before ++ (key, part) :: after ∧ value.field? key = some w ∧
      ∀ module' location', (part.resolveWith item module' location').run
        (outputs.drop (fieldsSubPipes before).length) =
          (.ok w, (outputs.drop (fieldsSubPipes before).length).drop part.subPipes.length) := by
  obtain ⟨values, hvalues, hvalue⟩ := fields_of_resolveWith h
  obtain ⟨before, after, rfl, -⟩ := List.lookup_eq_some_iff.1 hk
  obtain ⟨left, w, right, taken, rfl, hw⟩ := resolveFields_split hvalues
  have hvd : Fields.Distinct (left ++ (key, w) :: right) := by
    unfold Fields.Distinct
    rw [keys_of_resolveFields hvalues]
    exact hd
  refine ⟨before, after, w, rfl, by rw [hvalue, Fields.lookup_reverse hvd], ?_⟩
  intro module' location'
  rw [← eq_drop_of_resolveWith hw]
  exact resolveWith_ok_at hw module' location'

/-- Embedded pipes that have run have all given an output. -/
theorem forall₂_of_runSubPipes {ctx : Context} {subs : List SubPipe}
    (h : (runSubPipes ctx item subs).run.value = .ok outputs) :
    List.Forall₂ (fun s output => (s.pipe.run ctx [item]).run.value = .ok output) subs outputs := by
  rcases Run.forall₂_or_error (fun s : SubPipe => s.pipe.run ctx [item]) subs with
    ⟨values, hvalues⟩ | ⟨before, s, after, values, e, rfl, hvalues, he⟩
  · rw [runSubPipes, Run.mapM_of_forall₂ hvalues] at h
    cases h
    exact hvalues
  · rw [runSubPipes, Run.mapM_of_error hvalues he] at h
    cases h

/-- A field comes to the same by its own embedded pipes as among the others. -/
theorem resolve_of_split {before after : List (String × Conf)} {key : String} {part : Conf}
    {ctx : Context} {w : Json}
    (h : (runSubPipes ctx item (fieldsSubPipes (before ++ (key, part) :: after))).run.value =
      .ok outputs)
    (hw : (part.resolveWith item module "").run (outputs.drop (fieldsSubPipes before).length) =
      (.ok w, rest)) :
    (part.resolve ctx item module).run.value = .ok w := by
  have hsubs : ((fieldsSubPipes (before ++ (key, part) :: after)).drop
      (fieldsSubPipes before).length).take part.subPipes.length = part.subPipes := by
    rw [fieldsSubPipes_eq (before ++ _), List.flatMap_append, ← fieldsSubPipes_eq before,
      List.drop_left, List.flatMap_cons, List.take_left]
  have hgiven := List.forall₂_take part.subPipes.length
    (List.forall₂_drop (fieldsSubPipes before).length (forall₂_of_runSubPipes h))
  rw [hsubs] at hgiven
  have hrun := Run.mapM_of_forall₂ hgiven
  -- Of the outputs that are left for it, the field looks at its own only.
  obtain ⟨r, left, hr, hmore, -, -⟩ := needs_resolveWith item module part ""
    ((outputs.drop (fieldsSubPipes before).length).take part.subPipes.length)
    ((outputs.drop (fieldsSubPipes before).length).drop part.subPipes.length)
    (Nat.le_of_eq hgiven.length_eq)
  rw [List.take_append_drop, hw] at hmore
  cases hmore
  rw [resolve, runSubPipes, Run.bind_ok (by rw [hrun]), Run.run_lift, hr]

end

/-- With distinct keys, what is found in a record under a key resolves to what the resolved record
has under it. -/
theorem keyed_record {fields : List (String × Conf)} (hd : Fields.Distinct fields) : Keyed fields where
  distinct := hd
  lacking := field?_of_lacking
  resolved := field?_of_resolved hd
  run := by
    intro key part ctx item module value hk h
    rw [resolve] at h
    cases hsubs : (runSubPipes ctx item (record fields).subPipes).run.value with
    | error e =>
      rw [Run.bind_error hsubs] at h
      cases h
    | ok outputs =>
      rw [Run.bind_ok hsubs, Run.run_lift] at h
      obtain ⟨before, after, w, rfl, hvalue, hw⟩ :=
        field?_of_resolved hd hk (Prod.ext h rfl)
      exact ⟨w, hvalue, resolve_of_split hsubs (hw module "")⟩

end Conf

end ItemFlow
