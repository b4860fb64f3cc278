import ItemFlow.Json.Mismatch
import ItemFlow.Proofs.Fields
import ItemFlow.Proofs.Sequencing

/-!
# Keys of objects

In a value that is read from a text no object has a key twice, at any depth: a key that comes again
takes the place that it had (`Json.keysDistinct_of_read`).
-/

namespace ItemFlow

namespace Fields

variable {α : Type}

instance (fields : List (String × α)) : Decidable (Distinct fields) :=
  inferInstanceAs (Decidable (fields.map (·.1)).Nodup)

/-- The keys after a field has been added. -/
theorem mem_keys_insert {k key : String} {value : α} {fields : List (String × α)} :
    k ∈ (insert key value fields).map (·.1) ↔ k = key ∨ k ∈ fields.map (·.1) := by
  induction fields with
  | nil => simp [insert]
  | cons f fields ih =>
    obtain ⟨key', v⟩ := f
    rw [insert]
    split
    · rename_i h
      subst h
      simp
    · rw [List.map_cons, List.mem_cons, ih, List.map_cons, List.mem_cons]
      tauto

theorem Distinct.insert {fields : List (String × α)} (h : Distinct fields) (key : String) (value : α) :
    Distinct (insert key value fields) := by
  induction fields with
  | nil => exact List.nodup_singleton key
  | cons f fields ih =>
    obtain ⟨key', v⟩ := f
    obtain ⟨hnew, hrest⟩ := List.nodup_cons.1 h
    rw [Fields.insert]
    split
    · rename_i hkey
      subst hkey
      exact h
    · rename_i hkey
      refine List.nodup_cons.2 ⟨fun hmem => ?_, ih hrest⟩
      rcases mem_keys_insert.1 hmem with rfl | hmem
      · exact hkey rfl
      · exact hnew hmem

/-- The values after a field has been added are those before and the one that was added. -/
theorem forall_mem_insert {P : α → Prop} {key : String} {value : α} {fields : List (String × α)}
    (hvalue : P value) (h : ∀ f ∈ fields, P f.2) : ∀ f ∈ insert key value fields, P f.2 := by
  induction fields with
  | nil => exact List.forall_mem_singleton.2 hvalue
  | cons f fields ih =>
    obtain ⟨key', v⟩ := f
    obtain ⟨hv, hrest⟩ := List.forall_mem_cons.1 h
    rw [insert]
    split
    · exact List.forall_mem_cons.2 ⟨hvalue, hrest⟩
    · exact List.forall_mem_cons.2 ⟨hv, ih hrest⟩

end Fields

namespace Json

/-- No object in the value has a key twice. -/
inductive KeysDistinct : Json → Prop where
  | scalar {v : Json} (scalar : v.isContainer = false) : KeysDistinct v
  | arr {elements : List Json} (each : ∀ v ∈ elements, KeysDistinct v) : KeysDistinct (.arr elements)
  | obj {fields : List (String × Json)} (distinct : Fields.Distinct fields)
      (each : ∀ f ∈ fields, KeysDistinct f.2) : KeysDistinct (.obj fields)

theorem keysDistinct_flat {fields : List (String × Json)} (hd : Fields.Distinct fields)
    (h : ∀ f ∈ fields, f.2.isContainer = false) : KeysDistinct (.obj fields) :=
  .obj hd fun f hf => .scalar (h f hf)

/-- A field that is added keeps the keys distinct. -/
theorem KeysDistinct.insert {fields : List (String × Json)} (h : KeysDistinct (.obj fields))
    (key : String) {v : Json} (hv : v.KeysDistinct) : KeysDistinct (.obj (Fields.insert key v fields)) := by
  cases h with
  | scalar scalar => cases scalar
  | obj distinct each => exact .obj (distinct.insert key v) (Fields.forall_mem_insert hv each)

namespace Parser

/-- Reading a scalar gives a scalar. -/
theorem keysDistinct_of_scalar {α β : Type} {x : Except Malformed α} {f : α → Json × β} {v : Json}
    {rest : β} (h : (do let a ← x; return f a) = Except.ok (v, rest))
    (hf : ∀ a, (f a).1.isContainer = false) : v.KeysDistinct := by
  obtain ⟨a, -, h⟩ := Except.of_bind_ok h
  have hv : f a = (v, rest) := Except.ok.inj h
  exact .scalar (by rw [← hf a, hv])

mutual

/-- A value that is read, in whatever depth and with whatever after it. -/
theorem keysDistinct_value {budget : Nat} {s : List Char} {v : Json} {rest : Shorter s.length}
    (h : value budget s = .ok (v, rest)) : v.KeysDistinct := by
  unfold value at h
  split at h
  · cases h
  rename_i c r hr _
  -- The first character says what is read: six kinds of scalars, then lists and objects.
  split at h
  · exact keysDistinct_of_scalar h fun _ => rfl
  split at h
  · exact keysDistinct_of_scalar h fun _ => rfl
  split at h
  · exact keysDistinct_of_scalar h fun _ => rfl
  split at h
  · exact keysDistinct_of_scalar h fun _ => rfl
  split at h
  · exact keysDistinct_of_scalar h fun _ => rfl
  split at h
  · exact keysDistinct_of_scalar h fun _ => rfl
  split at h
  · dsimp only at h
    split at h
    · cases h
    split at h
    · cases h
      exact .arr (List.forall_mem_nil _)
    · obtain ⟨l, hl, h⟩ := Except.of_bind_ok h
      cases h
      exact .arr (keysDistinct_elements hl (List.forall_mem_nil _))
  split at h
  · dsimp only at h
    split at h
    · cases h
    split at h
    · cases h
      exact .obj List.nodup_nil (List.forall_mem_nil _)
    · obtain ⟨l, hl, h⟩ := Except.of_bind_ok h
      cases h
      exact keysDistinct_members hl (.obj List.nodup_nil (List.forall_mem_nil _))
  · cases h
termination_by (s.length, 0)

theorem keysDistinct_elements {budget n : Nat} {read : List Json} {s : List Char}
    {hs : s.length ≤ n} {l : List Json} {rest : Shorter n}
    (h : elements budget n read s hs = .ok (l, rest)) (hread : ∀ v ∈ read, v.KeysDistinct) :
    ∀ v ∈ l, v.KeysDistinct := by
  unfold elements at h
  split at h
  · cases h
  rename_i v left hleft hv
  have hvalue := keysDistinct_value hv
  split at h
  · cases h
  rename_i c r hr _
  dsimp only at h
  split at h
  · cases h
    intro u hu
    rcases List.mem_cons.1 (List.mem_reverse.1 hu) with rfl | hu
    · exact hvalue
    · exact hread u hu
  split at h
  · exact keysDistinct_elements h (List.forall_mem_cons.2 ⟨hvalue, hread⟩)
  · cases h
termination_by (s.length, 1)

theorem keysDistinct_members {budget n : Nat} {read : List (String × Json)} {s : List Char}
    {hs : s.length ≤ n} {fields : List (String × Json)} {rest : Shorter n}
    (h : members budget n read s hs = .ok (fields, rest)) (hread : KeysDistinct (.obj read)) :
    KeysDistinct (.obj fields) := by
  unfold members at h
  split at h
  · cases h
  split at h
  · cases h
  split at h
  · cases h
  rename_i key _ _ _
  split at h
  · cases h
  dsimp only at h
  split at h
  · cases h
  split at h
  · cases h
  rename_i v _ _ hv
  -- A field has been read; the object ends, or more fields are added to it.
  have hfields := hread.insert key (keysDistinct_value hv)
  split at h
  · cases h
  split at h
  · cases h
    exact hfields
  split at h
  · exact keysDistinct_members h hfields
  · cases h
termination_by (s.length, 1)

end

end Parser

/-- In a value that a text spells no object has a key twice. -/
theorem keysDistinct_of_read {text : String} {v : Json} (h : read text = .ok v) : v.KeysDistinct := by
  unfold read at h
  split at h
  · rename_i u hu
    cases h
    unfold parse parseChars at hu
    obtain ⟨⟨u', rest⟩, hvalue, hu⟩ := Except.of_bind_ok hu
    dsimp only at hu
    split at hu
    · cases hu
      exact Parser.keysDistinct_value hvalue
    · cases hu
  · cases h

end Json

end ItemFlow
