import ItemFlow.Proofs.Json.Places
import Mathlib

/-!
# What is found elsewhere after something was stored

Of two paths of which neither leads through the other, each goes its own way from some segment on
(`Path.Apart.split`). What is stored at one of them is not seen from the other one, unless the value at
which they part is a list in which the two segments get in each other's way (`Json.Collide`): the one along
which something is stored is no index, so that the list gives way to a record, or both lead to the same
element. Two segments that differ can do so, as `0` and `00` do, or `7` and `2` in a list of two elements.
Along the path itself, records keep their keys in their order and lists all other elements
(`Json.Reshaped`).
-/

namespace ItemFlow

namespace Json

/-! ## What becomes of a value on the way -/

/-- How a value changes when something is stored further on, along a segment that meets the value. -/
inductive Reshaped (s : String) : Json → Json → Prop where
  /-- A record keeps its keys in their order, and only a new one is added, at the end. -/
  | record {fields fields' : List (String × Json)}
      (keys : fields'.map (·.1) =
        if s ∈ fields.map (·.1) then fields.map (·.1) else fields.map (·.1) ++ [s])
      (others : ∀ t, t ≠ s → Fields.get? t fields' = Fields.get? t fields) :
      Reshaped s (.obj fields) (.obj fields')
  /-- A list keeps all elements but one: that at the index, or a new one at the end. -/
  | list {l l' : List Json} {i : Nat} (index : Path.index? s = some i)
      (length : l'.length = max l.length (min i l.length + 1))
      (others : ∀ j, j ≠ min i l.length → l'[j]? = l[j]?) : Reshaped s (.arr l) (.arr l')
  /-- A list without an index gives way to a record. -/
  | keyed {l : List Json} {c : Json} (key : Path.index? s = none) : Reshaped s (.arr l) (.obj [(s, c)])
  /-- So does what is neither a record nor a list. -/
  | scalar {v c : Json} (no_fields : ∀ fields, v ≠ .obj fields) (no_list : ∀ l, v ≠ .arr l) :
      Reshaped s v (.obj [(s, c)])

theorem reshaped_updateChild (s : String) (v : Json) (f : Json → Json) : Reshaped s v (v.updateChild s f) := by
  cases v with
  | obj fields =>
    refine .record (Fields.keys_update s f .null fields) fun t ht => ?_
    rw [Fields.get?_update, if_neg ht]
  | arr l =>
    cases hs : Path.index? s with
    | none =>
      rw [updateChild, hs]
      exact .keyed hs
    | some i =>
      obtain ⟨l', hl', hlength, hothers⟩ := exists_updateChild_arr hs l f
      rw [hl']
      exact .list hs hlength hothers
  | _ => exact .scalar (by rintro _ ⟨⟩) (by rintro _ ⟨⟩)

/-- What stands on the way to where something is stored is reshaped by the segment that meets it. -/
theorem reshaped_store {v w : Json} {common : List String} (h : v.at? common = some w) (s : String)
    (rest : List String) (u : Json) :
    ∃ w', (store u (common ++ s :: rest) v).at? common = some w' ∧ Reshaped s w w' :=
  ⟨_, at?_store_append h (s :: rest) u, reshaped_updateChild s w (store u rest)⟩

/-- Once a list has given way to a record, nothing is found in it along another segment. -/
theorem at?_store_replaced {v : Json} {l : List Json} {common : List String} (h : v.at? common = some (.arr l))
    {s t : String} (hs : Path.index? s = none) (hne : t ≠ s) (p q : List String) (u : Json) :
    (store u (common ++ s :: p) v).at? (common ++ t :: q) = none := by
  have hstore := at?_store_append h (s :: p) u
  rw [store, updateChild, hs] at hstore
  rw [at?_append, hstore, Option.bind_some, at?, child?, Fields.get?_cons, if_neg hne]
  rfl

end Json

/-! ## Items -/

namespace Item

/-- What is stored at a path is not seen from one that parts from it, unless the two segments with which
they part collide in a list; a list that gives way to a record leaves nothing there to be found. What stands
on the way is reshaped by the segment that meets it. -/
theorem set_elsewhere (item : Item) (v : Json) {p s : String} {common after : List String}
    (hp : Path.segments p = common ++ s :: after) :
    (∀ q t after', Path.segments q = common ++ t :: after' → t ≠ s →
      ((∀ w, item.toJson.at? common = some w → ¬ Json.Collide s t w) →
        (item.set p v).lookup q = item.lookup q) ∧
      ∀ l, item.toJson.at? common = some (.arr l) → Path.index? s = none →
        (item.set p v).lookup q = none) ∧
    ∀ w, item.toJson.at? common = some w →
      ∃ w', (item.set p v).toJson.at? common = some w' ∧ Json.Reshaped s w w' := by
  have hset : (item.set p v).toJson = Json.store v (common ++ s :: after) item.toJson := by
    rw [toJson_set (by simp [hp]), hp]
  refine ⟨fun q t after' hq hne => ?_, fun w hmet => ?_⟩
  · have hlookup : ∀ item : Item, item.lookup q = item.toJson.at? (common ++ t :: after') := fun item => by
      rw [lookup_eq (by simp [hq]), hq]
    rw [hlookup, hlookup, hset]
    exact ⟨fun hclear => Json.at?_store_branch hne hclear v,
      fun l hmet hs => Json.at?_store_replaced hmet hs hne after after' v⟩
  · rw [hset]
    exact Json.reshaped_store hmet s after v

/-- An item with a list between two other fields. -/
def listBetween : Item := ⟨[("a", .null), ("b", .arr [.str "x", .str "y"]), ("c", .null)]⟩

/-- An element is stored beside another one, or the list gives way to a record, or an element is added that
two indices lead to. -/
theorem set_elsewhere_listBetween :
    (listBetween.set "b.0" .null).lookup "b[1]" = some (.str "y") ∧
    (listBetween.set "b.k" .null).lookup "b[1]" = none ∧
    (∃ w', (listBetween.set "b.k" .null).toJson.at? [] = some w' ∧
      Json.Reshaped "b" listBetween.toJson w') ∧
    Json.Collide "7" "2" (.arr [.str "x", .str "y"]) ∧
    listBetween.lookup "b[2]" = none ∧ (listBetween.set "b.7" .null).lookup "b[2]" = some .null := by
  have hfirst : Path.segments "b.0" = ["b"] ++ "0" :: [] := by decide
  have hkey : Path.segments "b.k" = ["b"] ++ "k" :: [] := by decide
  have hother : Path.segments "b[1]" = ["b"] ++ "1" :: [] := by decide
  have hclear : ∀ w, listBetween.toJson.at? ["b"] = some w → ¬ Json.Collide "0" "1" w := by
    rintro w ⟨⟩ hcollide
    cases hcollide with
    | replaced key => cases key
    | shared changed other =>
      cases changed
      cases other
  have hbeside := ((set_elsewhere listBetween .null hfirst).1 _ _ _ hother (by decide)).1 hclear
  have hgone := ((set_elsewhere listBetween .null hkey).1 _ _ _ hother (by decide)).2 _ rfl rfl
  have hway : Path.segments "b.k" = [] ++ "b" :: ["k"] := hkey
  have hreshaped := (set_elsewhere listBetween .null hway).2 _ rfl
  exact ⟨hbeside, hgone, hreshaped, .shared rfl rfl, rfl, rfl⟩

end Item

end ItemFlow
