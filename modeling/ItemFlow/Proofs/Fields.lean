import ItemFlow.Json.Basic
import Mathlib.Data.List.Induction
import Mathlib.Data.List.Nodup

/-!
# Fields with repeated keys

Adding fields to an object one after another leaves each key where it first occurred, with the value
that it had last: `Fields.lastValues` says so of the whole list, without adding anything
(`Fields.insertAll_nil`).
-/

namespace ItemFlow.Fields

variable {α : Type}

/-- The first field with a key. -/
def found? (fields : List (String × α)) (key : String) : Option (String × α) :=
  (fields.lookup key).map (key, ·)

/-- Each key of a list of fields with its last value, in the order in which the keys first occur. -/
def lastValues (fields : List (String × α)) : List (String × α) :=
  (fields.map (·.1)).eraseDups.filterMap (found? fields.reverse)

/-! ## Keys -/

theorem eraseDups_concat {κ : Type} [BEq κ] [LawfulBEq κ] (keys : List κ) (key : κ) :
    (keys ++ [key]).eraseDups = if key ∈ keys then keys.eraseDups else keys.eraseDups ++ [key] := by
  rw [List.eraseDups_append]
  by_cases h : key ∈ keys
  · have hnone : [key].removeAll keys = [] := by simp [List.removeAll, h]
    rw [if_pos h, hnone, List.eraseDups_nil, List.append_nil]
  · have hone : [key].removeAll keys = [key] := by simp [List.removeAll, h]
    rw [if_neg h, hone, List.eraseDups_cons]
    rfl

theorem nodup_eraseDups {κ : Type} [BEq κ] [LawfulBEq κ] (keys : List κ) : keys.eraseDups.Nodup := by
  induction keys using List.reverseRecOn with
  | nil => exact List.nodup_nil
  | append_singleton keys key ih =>
    rw [eraseDups_concat]
    split
    · exact ih
    · rename_i h
      refine List.nodup_append.2 ⟨ih, List.nodup_singleton key, ?_⟩
      rintro a ha b hb rfl
      rw [List.mem_singleton.1 hb] at ha
      exact h (List.mem_eraseDups.1 ha)

/-! ## Adding fields -/

section

variable {key k : String} {value v : α} {fields : List (String × α)}

theorem found?_of_lookup (h : fields.lookup key = some v) : found? fields key = some (key, v) := by
  rw [found?, h]; rfl

theorem found?_cons_self : found? ((key, value) :: fields) key = some (key, value) :=
  found?_of_lookup List.lookup_cons_self

theorem found?_cons_ne (h : k ≠ key) : found? ((key, value) :: fields) k = found? fields k := by
  rw [found?, List.lookup_cons, beq_false_of_ne h]; rfl

/-- A field changes nothing for keys among which its own does not occur. -/
theorem filterMap_found?_cons {keys : List String} (h : key ∉ keys) :
    keys.filterMap (found? ((key, value) :: fields)) = keys.filterMap (found? fields) := by
  refine List.filterMap_congr fun k hk => found?_cons_ne ?_
  rintro rfl
  exact h hk

/-- A field that is added takes the place of the one with its key, or comes last if there is none. -/
theorem insert_filterMap {keys : List String} (hnodup : keys.Nodup)
    (hkeys : ∀ k ∈ keys, (fields.lookup k).isSome) :
    insert key value (keys.filterMap (found? fields)) =
      (if key ∈ keys then keys else keys ++ [key]).filterMap (found? ((key, value) :: fields)) := by
  induction keys with
  | nil =>
    rw [if_neg List.not_mem_nil, List.nil_append, List.filterMap_cons_some found?_cons_self]; rfl
  | cons k keys ih =>
    obtain ⟨hk, hnodup⟩ := List.nodup_cons.1 hnodup
    obtain ⟨v, hv⟩ := Option.isSome_iff_exists.1 (hkeys k List.mem_cons_self)
    have ih := ih hnodup fun k' hk' => hkeys k' (List.mem_cons_of_mem k hk')
    rw [List.filterMap_cons_some (found?_of_lookup hv), insert]
    by_cases h : k = key
    · subst h
      rw [if_pos rfl, if_pos List.mem_cons_self, List.filterMap_cons_some found?_cons_self,
        filterMap_found?_cons hk]
    · -- The place of the key is among the keys after `k`, or after all of them.
      have hsplit : (if key ∈ k :: keys then k :: keys else k :: keys ++ [key]) =
          k :: if key ∈ keys then keys else keys ++ [key] := by
        simp only [List.mem_cons, Ne.symm h, false_or]
        split <;> rfl
      have hcons : found? ((key, value) :: fields) k = some (k, v) := by
        rw [found?_cons_ne h, found?_of_lookup hv]
      rw [if_neg h, ih, hsplit, List.filterMap_cons_some hcons]

end

theorem insertAll_concat (fields added : List (String × α)) (f : String × α) :
    insertAll fields (added ++ [f]) = insert f.1 f.2 (insertAll fields added) := by
  rw [insertAll, List.foldl_append]; rfl

/-- Adding fields to none gives each key with its last value. -/
theorem insertAll_nil (fields : List (String × α)) : insertAll [] fields = lastValues fields := by
  induction fields using List.reverseRecOn with
  | nil => rfl
  | append_singleton fields f ih =>
    obtain ⟨key, value⟩ := f
    have hkeys : ∀ k ∈ (fields.map (·.1)).eraseDups, (fields.reverse.lookup k).isSome := by
      intro k hk
      obtain ⟨f, hf, rfl⟩ := List.mem_map.1 (List.mem_eraseDups.1 hk)
      rw [List.lookup_isSome_iff]
      exact ⟨f, List.mem_reverse.2 hf, beq_self_eq_true f.1⟩
    rw [insertAll_concat, ih, lastValues, insert_filterMap (nodup_eraseDups _) hkeys, lastValues,
      List.map_append, List.map_singleton, eraseDups_concat, List.reverse_concat]
    simp only [List.mem_eraseDups]

/-! ## Looking keys up -/

theorem get?_cons (k key : String) (value : α) (fields : List (String × α)) :
    get? k ((key, value) :: fields) = if k = key then some value else get? k fields := by
  unfold get?
  rw [List.lookup_cons]
  by_cases h : k = key
  · rw [h, beq_self_eq_true, if_pos rfl]
  · rw [beq_false_of_ne h, if_neg h]

/-- A field that is added is found under its key, and other keys find what they found before. -/
theorem get?_insert (k key : String) (value : α) (fields : List (String × α)) :
    get? k (insert key value fields) = if k = key then some value else get? k fields := by
  induction fields with
  | nil => rw [insert, get?_cons]
  | cons f fields ih =>
    obtain ⟨key', v⟩ := f
    rw [insert]
    by_cases hkey : key' = key
    · subst hkey
      rw [if_pos rfl, get?_cons, get?_cons]
      split <;> rfl
    · rw [if_neg hkey, get?_cons, get?_cons, ih]
      by_cases hk : k = key'
      · rw [if_pos hk, if_pos hk, if_neg (hk ▸ hkey)]
      · rw [if_neg hk, if_neg hk]

theorem lookup_filterMap (fields : List (String × α)) (keys : List String) (key : String) :
    (keys.filterMap (found? fields)).lookup key = if key ∈ keys then fields.lookup key else none := by
  induction keys with
  | nil => rfl
  | cons k keys ih =>
    cases hk : fields.lookup k with
    | none =>
      have hnone : found? fields k = none := by rw [found?, hk]; rfl
      rw [List.filterMap_cons_none hnone, ih]
      by_cases h : key = k
      · subst h
        rw [hk, if_pos List.mem_cons_self, ite_self]
      · simp only [List.mem_cons, h, false_or]
    | some v =>
      rw [List.filterMap_cons_some (found?_of_lookup hk)]
      by_cases h : key = k
      · subst h
        rw [List.lookup_cons_self, if_pos List.mem_cons_self, hk]
      · rw [List.lookup_cons, beq_false_of_ne h]
        simp only [List.mem_cons, h, false_or]
        exact ih

theorem lookup_reverse_cons_ne {name key : String} (h : name ≠ key) (value : α)
    (fields : List (String × α)) :
    ((name, value) :: fields).reverse.lookup key = fields.reverse.lookup key := by
  rw [List.reverse_cons, List.lookup_append, List.lookup_cons, beq_false_of_ne (Ne.symm h),
    List.lookup_nil, Option.or_none]

/-- Looking a key up finds the value that it had last. -/
theorem lookup_lastValues (fields : List (String × α)) (key : String) :
    (lastValues fields).lookup key = fields.reverse.lookup key := by
  rw [lastValues, lookup_filterMap]
  split
  · rfl
  · rename_i h
    symm
    rw [List.lookup_eq_none_iff]
    intro f hf
    rw [bne_iff_ne]
    rintro rfl
    exact h (List.mem_eraseDups.2 (List.mem_map_of_mem (List.mem_reverse.1 hf)))

end ItemFlow.Fields
