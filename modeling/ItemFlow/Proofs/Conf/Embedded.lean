import ItemFlow.Conf.Loader
import ItemFlow.Proofs.InStep

/-!
# Where embedded pipes come from

The pipes embedded in a parameter are those embedded in its parts, from left to right, and all that
are embedded in a parameter read from JSON are pipes of the registry (`Conf.drawsOn_ofJson`).
-/

namespace ItemFlow

/-! ## Embedding -/

namespace SubPipe

variable {pipe : Pipe}

theorem ofPipe_of_loopable (h : pipe.loopable = true) : ofPipe pipe = .ok ⟨pipe, h, none, .first⟩ :=
  dif_pos h

theorem ofPipe_of_not_loopable (h : pipe.loopable = false) :
    ofPipe pipe = .error (.notLoopable pipe.name) :=
  dif_neg (by rw [h]; exact Bool.false_ne_true)

/-- A pipe is embedded as it is. -/
theorem pipe_of_ofPipe {s : SubPipe} (h : ofPipe pipe = .ok s) : s.pipe = pipe := by
  cases hl : pipe.loopable with
  | true =>
    rw [ofPipe_of_loopable hl] at h
    cases h
    rfl
  | false =>
    rw [ofPipe_of_not_loopable hl] at h
    cases h

end SubPipe

namespace Conf

variable {r : Registry}

/-! ## Parts -/

theorem fieldsSubPipes_eq (fields : List (String × Conf)) :
    fieldsSubPipes fields = fields.flatMap fun f => f.2.subPipes := by
  induction fields with
  | nil => rw [fieldsSubPipes, List.flatMap_nil]
  | cons f rest ih => rw [fieldsSubPipes, ih, List.flatMap_cons]

theorem elementsSubPipes_eq (elements : List Conf) :
    elementsSubPipes elements = elements.flatMap subPipes := by
  induction elements with
  | nil => rw [elementsSubPipes, List.flatMap_nil]
  | cons c rest ih => rw [elementsSubPipes, ih, List.flatMap_cons]

/-- As a list, a parameter has the same embedded pipes. -/
theorem flatMap_listize (c : Conf) : c.listize.flatMap subPipes = c.subPipes := by
  unfold listize
  split
  · rw [subPipes, elementsSubPipes_eq]
  · rw [List.flatMap_singleton]

theorem mem_subPipes_of_field? {c part : Conf} {key : String} (hp : c.field? key = some part)
    {s : SubPipe} (hs : s ∈ part.subPipes) : s ∈ c.subPipes := by
  cases c with
  | record fields =>
    obtain ⟨before, after, rfl, -⟩ := List.lookup_eq_some_iff.1 hp
    rw [subPipes, fieldsSubPipes_eq, List.mem_flatMap]
    exact ⟨(key, part), by simp, hs⟩
  | _ => cases hp

/-! ## Pipes of a registry -/

/-- Every pipe embedded in the parameter is one of the registry. -/
def DrawsOn (r : Registry) (c : Conf) : Prop := ∀ s ∈ c.subPipes, r.Offers s.pipe

theorem drawsOn_record {fields : List (String × Conf)} :
    (record fields).DrawsOn r ↔ ∀ f ∈ fields, f.2.DrawsOn r := by
  unfold DrawsOn
  rw [subPipes, fieldsSubPipes_eq, List.forall_mem_flatMap]

theorem drawsOn_list {elements : List Conf} :
    (list elements).DrawsOn r ↔ ∀ c ∈ elements, c.DrawsOn r := by
  unfold DrawsOn
  rw [subPipes, elementsSubPipes_eq, List.forall_mem_flatMap]

theorem drawsOn_loadTerminal {fields : List (String × Json)} {name : Json} {s : SubPipe}
    (h : loadTerminal r fields name = .ok s) : r.Offers s.pipe := by
  unfold loadTerminal at h
  split at h
  · rename_i name
    split at h
    · cases h
    · rename_i pipe hp
      obtain ⟨sub, hsub, h⟩ := Except.of_bind_ok h
      obtain ⟨reduction, -, h⟩ := Except.of_bind_ok h
      cases h
      exact ⟨name, by rw [hp, ← SubPipe.pipe_of_ofPipe hsub]⟩
  · cases h

theorem drawsOn_loadReference {fields : List (String × Json)} {path : Json} {c : Conf}
    (h : loadReference fields path = .ok c) : c.DrawsOn r := by
  unfold loadReference at h
  split at h
  · cases h
    intro s hs
    cases hs
  · cases h

mutual

/-- The pipes embedded in a parameter that was read are pipes of the registry. -/
theorem drawsOn_ofJson : ∀ {v : Json} {c : Conf}, ofJson r v = .ok c → c.DrawsOn r
  | .obj fields, c, h => by
    unfold ofJson at h
    split at h
    · rename_i name _
      cases hs : loadTerminal r fields name with
      | error e => rw [hs] at h; cases h
      | ok s =>
        rw [hs] at h
        cases h
        intro s' hs'
        rw [List.mem_singleton.1 hs']
        exact drawsOn_loadTerminal hs
    · split at h
      · exact drawsOn_loadReference h
      · split at h
        · cases h
          intro s hs
          cases hs
        · obtain ⟨parts, hparts, h⟩ := Except.of_bind_ok h
          cases h
          exact drawsOn_record.2 (drawsOn_ofFields hparts)
  | .arr elements, c, h => by
    unfold ofJson at h
    obtain ⟨parts, hparts, h⟩ := Except.of_bind_ok h
    cases h
    exact drawsOn_list.2 (drawsOn_ofElements hparts)
  | .null, _, h | .bool _, _, h | .num _, _, h | .str _, _, h => by
    cases h
    intro s hs
    cases hs

theorem drawsOn_ofFields : ∀ {fields : List (String × Json)} {parts : List (String × Conf)},
    ofFields r fields = .ok parts → ∀ f ∈ parts, f.2.DrawsOn r
  | [], _, h => by
    cases h
    intro f hf
    cases hf
  | (key, v) :: rest, _, h => by
    obtain ⟨c, hc, h⟩ := Except.of_bind_ok h
    obtain ⟨cs, hcs, h⟩ := Except.of_bind_ok h
    cases h
    intro f hf
    rcases List.mem_cons.1 hf with rfl | hf
    · exact drawsOn_ofJson hc
    · exact drawsOn_ofFields hcs f hf

theorem drawsOn_ofElements : ∀ {elements : List Json} {parts : List Conf},
    ofElements r elements = .ok parts → ∀ c ∈ parts, c.DrawsOn r
  | [], _, h => by
    cases h
    intro c hc
    cases hc
  | v :: rest, _, h => by
    obtain ⟨c, hc, h⟩ := Except.of_bind_ok h
    obtain ⟨cs, hcs, h⟩ := Except.of_bind_ok h
    cases h
    intro c' hc'
    rcases List.mem_cons.1 hc' with rfl | hc'
    · exact drawsOn_ofJson hc
    · exact drawsOn_ofElements hcs c' hc'

end

end Conf

end ItemFlow
