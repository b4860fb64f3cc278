import ItemFlow.Proofs.Json.Places
import ItemFlow.Proofs.Path
import Mathlib

/-!
# What is found where something was stored

What is stored at a path is found there, and of two values stored at a path the second one counts, as
long as no segment on the way is an index past the end of the list that it meets (`Json.Overshoot`).
There is at most one such segment. If there is one, the list gets one more element, and what was stored
is found under the index of that element instead (`Item.lookup_set`). Storing what is there already
changes nothing at all (`Item.set_overwrites`).
-/

namespace ItemFlow

namespace Json

/-! ## Indices past the end -/

/-- A segment on the way to a place that is an index past the end of the list which it meets. -/
structure Overshoot (v : Json) (place : List String) where
  /-- The way to the list. -/
  before : List String
  /-- The segment. -/
  segment : String
  /-- The way that is left after the segment. -/
  after : List String
  /-- The list. -/
  list : List Json
  /-- The index. -/
  index : Nat
  /-- The segment is on the way to the place. -/
  on_way : place = before ++ segment :: after
  /-- The segment meets the list. -/
  meets : v.at? before = some (.arr list)
  /-- The segment reads as the index. -/
  reads : Path.index? segment = some index
  /-- The index is past the end of the list. -/
  past : list.length < index

theorem FitsAt.le {before after : List String} {s : String} {v : Json} {l : List Json} {i : Nat}
    (h : FitsAt (before ++ s :: after) v) (hmeets : v.at? before = some (.arr l))
    (hs : Path.index? s = some i) : i ≤ l.length := by
  induction before generalizing v with
  | nil =>
    cases hmeets
    exact h.1 l i rfl hs
  | cons x before ih =>
    obtain ⟨c, hc, hmeets⟩ := Option.bind_eq_some_iff.1 hmeets
    exact ih (childD_of_child? hc ▸ h.2) hmeets

/-- No segment overshoots if all of them lie within the lists that they meet. -/
theorem fitsAt_iff {place : List String} {v : Json} : FitsAt place v ↔ IsEmpty (v.Overshoot place) := by
  constructor
  · intro h
    refine ⟨fun o => ?_⟩
    have hplace : FitsAt (o.before ++ o.segment :: o.after) v := by
      rw [← o.on_way]
      exact h
    have hle := hplace.le o.meets o.reads
    have hpast := o.past
    omega
  · intro h
    induction place generalizing v with
    | nil => trivial
    | cons s place ih =>
      constructor
      · by_contra hnot
        obtain ⟨l, i, rfl, hs, hpast⟩ := not_fits_iff.1 hnot
        exact h.false ⟨[], s, place, l, i, rfl, rfl, hs, hpast⟩
      · refine ih ⟨fun o => h.false ?_⟩
        have hmeets := at?_of_childD o.meets (by rintro ⟨⟩)
        exact ⟨s :: o.before, o.segment, o.after, o.list, o.index, congrArg (s :: ·) o.on_way, hmeets,
          o.reads, o.past⟩

namespace Overshoot

variable {v : Json} {place : List String} (o : v.Overshoot place)

/-- Nothing is found at a segment that overshoots, or further on. -/
theorem at?_eq_none (rest : List String) : v.at? (o.before ++ o.segment :: rest) = none := by
  rw [at?_append, o.meets, Option.bind_some, at?, child?_arr o.reads, List.getElem?_eq_none o.past.le]
  rfl

/-- No other segment overshoots after one that does. -/
theorem before_eq {o' : v.Overshoot place} {way : List String} (h : o'.before = o.before ++ way) :
    o'.before = o.before := by
  cases way with
  | nil => rw [h, List.append_nil]
  | cons s way =>
    have hplace : o.before ++ o.segment :: o.after = o.before ++ s :: (way ++ o'.segment :: o'.after) :=
      calc o.before ++ o.segment :: o.after = place := o.on_way.symm
        _ = o'.before ++ o'.segment :: o'.after := o'.on_way
        _ = o.before ++ s :: (way ++ o'.segment :: o'.after) := by
          rw [h, List.append_assoc, List.cons_append]
    obtain ⟨hs, -⟩ := List.cons.inj (List.append_cancel_left hplace)
    -- The list that the later segment meets would have to be found past the earlier one.
    have hmeets := o'.meets
    rw [h, ← hs, o.at?_eq_none] at hmeets
    cases hmeets

instance : Subsingleton (v.Overshoot place) where
  allEq o o' := by
    have hbefore : o.before = o'.before := by
      rcases List.append_eq_append_iff.1 (o.on_way.symm.trans o'.on_way) with ⟨way, h, -⟩ | ⟨way, h, -⟩
      · exact (o.before_eq h).symm
      · exact o'.before_eq h
    -- The same way leads to one list only, and then all else is the same too.
    revert hbefore
    obtain ⟨before, s, after, l, i, hplace, hmeets, hs, -⟩ := o
    obtain ⟨before', s', after', l', i', hplace', hmeets', hs', -⟩ := o'
    rintro (rfl : before = before')
    obtain ⟨rfl, rfl⟩ := List.cons.inj (List.append_cancel_left (hplace.symm.trans hplace'))
    obtain rfl := Json.arr.inj (Option.some.inj (hmeets.symm.trans hmeets'))
    obtain rfl := Option.some.inj (hs.symm.trans hs')
    rfl

/-- The place with the index after the last one of the list in the place of the one that overshoots. -/
def corrected : List String := o.before ++ toString o.list.length :: o.after

variable (u : Json)

/-- The list gets one more element, in which the rest of the way is made. -/
theorem at?_store_before : (store u place v).at? o.before = some (.arr (o.list ++ [store u o.after .null])) := by
  have hstore := at?_store_append o.meets (o.segment :: o.after) u
  rw [← o.on_way, store, updateChild_arr o.reads, if_neg (by have := o.past; omega)] at hstore
  exact hstore

include o in
/-- What is stored is not found at the place. -/
theorem at?_store_eq_none : (store u place v).at? place = none := by
  have hlen : (o.list ++ [store u o.after .null]).length ≤ o.index := by
    rw [List.length_append, List.length_singleton]
    exact o.past
  rw [congrArg (at? · (store u place v)) o.on_way, at?_append, o.at?_store_before, Option.bind_some, at?,
    child?_arr o.reads, List.getElem?_eq_none hlen]
  rfl

/-- What is stored is found at the corrected place. -/
theorem at?_store_corrected : (store u place v).at? o.corrected = some u := by
  have hlast : Path.index? (toString o.list.length) = some o.list.length :=
    Path.index?_toString (o.past.trans (Path.lt_of_index? o.reads))
  rw [corrected, at?_append, o.at?_store_before, Option.bind_some, at?, child?_arr hlast,
    List.getElem?_append_right (Nat.le_refl _), Nat.sub_self]
  -- In the new element the rest of the way is made from null, so nothing overshoots there.
  exact at?_store (fitsAt_null o.after) u

end Overshoot

/-! ## Storing what is there -/

theorem updateChild_of_child? {s : String} {v c : Json} {f : Json → Json} (h : v.child? s = some c) (hf : f c = c) :
    v.updateChild s f = v := by
  have hid : f (v.childD s) = id (v.childD s) := by
    rw [childD_of_child? h, hf]
    rfl
  rw [updateChild_congr hid]
  cases v with
  | obj fields =>
    rw [updateChild, Fields.update_id (Fields.mem_keys_of_get? h)]
  | arr l =>
    obtain ⟨i, hs, hi⟩ := Option.bind_eq_some_iff.1 h
    obtain ⟨hlt, -⟩ := List.getElem?_eq_some_iff.1 hi
    rw [updateChild_arr hs, if_pos hlt, List.modify_id]
  | _ => cases h

/-- Storing what is there changes nothing. -/
theorem store_of_at? {p : List String} {v u : Json} (h : v.at? p = some u) : store u p v = v := by
  induction p generalizing v with
  | nil =>
    cases h
    rfl
  | cons s p ih =>
    obtain ⟨c, hc, h⟩ := Option.bind_eq_some_iff.1 h
    rw [store]
    exact updateChild_of_child? hc (ih h)

end Json

/-! ## Items -/

namespace Item

variable (item : Item) (path : String)

/-- The joined path of a corrected place has the segments of that place. -/
theorem segments_corrected (o : item.toJson.Overshoot (Path.segments path)) :
    Path.segments (Path.join o.corrected) = o.corrected := by
  have hplace : ∀ s ∈ o.before ++ o.segment :: o.after, Path.IsSegment s := by
    rw [← o.on_way]
    exact fun s => Path.isSegment_of_mem
  obtain ⟨hbefore, hrest⟩ := List.forall_mem_append.1 hplace
  obtain ⟨-, hafter⟩ := List.forall_mem_cons.1 hrest
  exact Path.segments_join (List.forall_mem_append.2
    ⟨hbefore, List.forall_mem_cons.2 ⟨Path.isSegment_toString _, hafter⟩⟩)

/-- What is stored is found again, unless a segment overshoots. There is at most one that does; then the
list that it meets gets one more element, nothing is found at the path, and what is stored is found at the
path that has the index of that element instead. A path without segments changes nothing. -/
theorem lookup_set (v : Json) :
    (Path.segments path = [] → item.set path v = item) ∧
    (Path.segments path ≠ [] →
      (IsEmpty (item.toJson.Overshoot (Path.segments path)) → (item.set path v).lookup path = some v) ∧
      Subsingleton (item.toJson.Overshoot (Path.segments path)) ∧
      ∀ o : item.toJson.Overshoot (Path.segments path),
        (item.set path v).lookup path = none ∧
        (item.set path v).lookup (Path.join o.corrected) = some v ∧
        ∃ last, (item.set path v).toJson.at? o.before = some (.arr (o.list ++ [last]))) := by
  refine ⟨fun h => set_of_segments_eq_nil h item v, fun h => ?_⟩
  have hset := toJson_set h item v
  refine ⟨fun hfits => ?_, inferInstance, fun o => ⟨?_, ?_, ?_⟩⟩
  · rw [lookup_eq h, hset]
    exact Json.at?_store (Json.fitsAt_iff.2 hfits) v
  · rw [lookup_eq h, hset, o.at?_store_eq_none]
  · have hne : Path.segments (Path.join o.corrected) ≠ [] := by
      rw [segments_corrected, Json.Overshoot.corrected]
      simp
    rw [lookup_eq hne, hset, segments_corrected, o.at?_store_corrected]
  · rw [hset, o.at?_store_before]
    exact ⟨_, rfl⟩

/-- An item with a list in a list. -/
def nestedLists : Item := ⟨[("a", .arr [.null, .arr [.str "x"]])]⟩

/-- The index just past the end is that of the element that is added, and a larger one is not. -/
theorem lookup_set_nestedLists :
    IsEmpty (nestedLists.toJson.Overshoot (Path.segments "a[1].1.b")) ∧
    (nestedLists.set "a[1].1.b" .null).lookup "a[1].1.b" = some .null ∧
    ∃ o : nestedLists.toJson.Overshoot (Path.segments "a[1].5.b"), Path.join o.corrected = "a.1.1.b" ∧
      (nestedLists.set "a[1].5.b" .null).lookup "a[1].5.b" = none ∧
      (nestedLists.set "a[1].5.b" .null).lookup "a.1.1.b" = some .null := by
  have hfits : IsEmpty (nestedLists.toJson.Overshoot (Path.segments "a[1].1.b")) :=
    Json.fitsAt_iff.1 (by decide)
  have hnext := ((lookup_set nestedLists "a[1].1.b" .null).2 (by decide)).1 hfits
  let o : nestedLists.toJson.Overshoot (Path.segments "a[1].5.b") :=
    ⟨["a", "1"], "5", ["b"], [.str "x"], 5, by decide, rfl, by decide, by decide⟩
  have hjoin : Path.join o.corrected = "a.1.1.b" := by decide
  obtain ⟨hnone, hsome, -⟩ := ((lookup_set nestedLists "a[1].5.b" .null).2 (by decide)).2.2 o
  exact ⟨hfits, hnext, o, hjoin, hnone, hjoin ▸ hsome⟩

/-- Storing what is found at a path changes nothing. What is stored first is overwritten, unless a
segment overshoots. -/
theorem set_overwrites (v w : Json) :
    (item.lookup path = some v → item.set path v = item) ∧
    (IsEmpty (item.toJson.Overshoot (Path.segments path)) →
      (item.set path v).set path w = item.set path w) := by
  by_cases h : Path.segments path = []
  · simp only [set_of_segments_eq_nil h, implies_true, and_self]
  · refine ⟨fun hv => toJson_injective ?_, fun hfits => toJson_injective ?_⟩
    · rw [lookup_eq h] at hv
      rw [toJson_set h, Json.store_of_at? hv]
    · rw [toJson_set h, toJson_set h, toJson_set h, Json.store_store (Json.fitsAt_iff.2 hfits)]

/-- The element that the first value adds is the one that the second value takes. -/
theorem set_overwrites_nestedLists :
    nestedLists.lookup "a[1].0" = some (.str "x") ∧
    nestedLists.set "a[1].0" (.str "x") = nestedLists ∧
    IsEmpty (nestedLists.toJson.Overshoot (Path.segments "a[1].1.b")) ∧
    (nestedLists.set "a[1].1.b" .null).set "a[1].1.b" (.str "y") = nestedLists.set "a[1].1.b" (.str "y") := by
  have hthere : nestedLists.lookup "a[1].0" = some (.str "x") := by rfl
  have hfits : IsEmpty (nestedLists.toJson.Overshoot (Path.segments "a[1].1.b")) :=
    Json.fitsAt_iff.1 (by decide)
  exact ⟨hthere, (set_overwrites nestedLists "a[1].0" (.str "x") .null).1 hthere, hfits,
    (set_overwrites nestedLists "a[1].1.b" .null (.str "y")).2 hfits⟩

end Item

end ItemFlow
