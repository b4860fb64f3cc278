import ItemFlow.Item
import ItemFlow.Proofs.Fields
import Mathlib

/-!
# Places in values

Reading at a place and storing at one, where a place is a list of segments. What is stored is found
again and what is stored first is overwritten, as long as no segment lies past the end of a list that
it meets (`Json.at?_store`, `Json.store_store`). It is not seen from a place that parts from the way at
some segment, unless the two segments there collide in a list (`Json.at?_store_branch`). Places of keys, no
segment of which reads as an index, do not get in each other's way if neither leads through the other
(`Json.at?_store_apart`); and once there is something at such a place, it makes no difference whether that is
replaced before or after something is stored elsewhere (`Json.store_comm`). So places that are filled one
after another hold what each was filled with last (`Json.at?_fill`, `Json.store_fill`).
-/

namespace ItemFlow

/-! ## Changing a field -/

namespace Fields

variable {α : Type} {key k : String}

theorem get?_update (k key : String) (f : α → α) (default : α) (fields : List (String × α)) :
    get? k (update key f default fields) =
      if k = key then some (f ((get? key fields).getD default)) else get? k fields := by
  induction fields with
  | nil => rw [update, get?_cons]; rfl
  | cons field fields ih =>
    obtain ⟨key', v⟩ := field
    rw [update]
    by_cases hkey : key' = key
    · subst hkey
      rw [if_pos rfl, get?_cons, get?_cons, get?_cons, if_pos rfl]
      split <;> rfl
    · rw [if_neg hkey, get?_cons, get?_cons, get?_cons, if_neg (Ne.symm hkey), ih]
      by_cases hk : k = key'
      · rw [if_pos hk, if_pos hk, if_neg (hk ▸ hkey)]
      · rw [if_neg hk, if_neg hk]

/-- Changing a field keeps the keys in their order and adds one that is new at the end. -/
theorem keys_update (key : String) (f : α → α) (default : α) (fields : List (String × α)) :
    (update key f default fields).map (·.1) =
      if key ∈ fields.map (·.1) then fields.map (·.1) else fields.map (·.1) ++ [key] := by
  induction fields with
  | nil => rfl
  | cons field fields ih =>
    obtain ⟨key', v⟩ := field
    rw [update]
    by_cases hkey : key' = key
    · simp [hkey]
    · rw [if_neg hkey, List.map_cons, ih]
      simp only [List.map_cons, List.mem_cons, Ne.symm hkey, false_or]
      split <;> rfl

/-- A field that is changed twice. -/
theorem update_update (key : String) (g f : α → α) (default : α) (fields : List (String × α)) :
    update key g default (update key f default fields) = update key (g ∘ f) default fields := by
  induction fields with
  | nil => simp [update]
  | cons field fields ih =>
    obtain ⟨key', v⟩ := field
    by_cases hkey : key' = key
    · simp [update, hkey]
    · simp [update, hkey, ih]

/-- A field is changed by what becomes of its value. -/
theorem update_congr {f g : α → α} {default : α} {fields : List (String × α)}
    (h : f ((get? key fields).getD default) = g ((get? key fields).getD default)) :
    update key f default fields = update key g default fields := by
  induction fields with
  | nil => exact congrArg (fun v => [(key, v)]) h
  | cons field fields ih =>
    obtain ⟨key', v⟩ := field
    rw [get?_cons] at h
    rw [update, update]
    by_cases hkey : key' = key
    · rw [if_pos hkey.symm] at h
      rw [if_pos hkey, if_pos hkey]
      exact congrArg (fun v => (key', v) :: fields) h
    · rw [if_neg (Ne.symm hkey)] at h
      rw [if_neg hkey, if_neg hkey, ih h]

/-- A field that is there and stays as it is. -/
theorem update_id {default : α} {fields : List (String × α)} (h : key ∈ fields.map (·.1)) :
    update key id default fields = fields := by
  induction fields with
  | nil => cases h
  | cons field fields ih =>
    obtain ⟨key', v⟩ := field
    rw [update]
    split
    · rfl
    · rename_i hkey
      rcases List.mem_cons.1 h with rfl | h
      · exact absurd rfl hkey
      · rw [ih h]

/-- A field that is there may be changed before or after another one. -/
theorem update_comm (h : k ≠ key) (g f : α → α) (default : α) {fields : List (String × α)}
    (hk : k ∈ fields.map (·.1)) : update k g default (update key f default fields) =
      update key f default (update k g default fields) := by
  induction fields with
  | nil => cases hk
  | cons field fields ih =>
    obtain ⟨key', v⟩ := field
    by_cases hkey : key' = key
    · have hne : key ≠ k := Ne.symm h
      subst hkey
      simp [update, hne]
    · by_cases hk' : key' = k
      · subst hk'
        simp [update, h]
      · have hrest : k ∈ fields.map (·.1) := by
          rcases List.mem_cons.1 hk with rfl | hk
          · exact absurd rfl hk'
          · exact hk
        simp [update, hkey, hk', ih hrest]

theorem mem_keys_of_get? {v : α} {fields : List (String × α)} (h : get? key fields = some v) :
    key ∈ fields.map (·.1) := by
  obtain ⟨l₁, l₂, rfl, -⟩ := List.lookup_eq_some_iff.1 h
  simp

end Fields

/-! ## One segment -/

namespace Json

variable {s t : String} {v : Json} {f g : Json → Json}

/-- What a segment leads to, or null where that is missing. -/
def childD (s : String) (v : Json) : Json := (v.child? s).getD .null

theorem childD_of_child? {c : Json} (h : v.child? s = some c) : v.childD s = c := by
  rw [childD, h]
  rfl

/-- A segment does not lie past the end of a list. -/
def Fits (s : String) (v : Json) : Prop := ∀ l i, v = .arr l → Path.index? s = some i → i ≤ l.length

theorem fits_of_key (h : Path.index? s = none) (v : Json) : Fits s v := by
  intro l i _ hi
  rw [h] at hi
  cases hi

theorem fits_arr {l : List Json} : Fits s (.arr l) ↔ ∀ i ∈ Path.index? s, i ≤ l.length := by
  constructor
  · intro h i hi
    exact h l i rfl hi
  · rintro h l' i hl hi
    cases hl
    exact h i hi

instance (s : String) : (v : Json) → Decidable (Fits s v)
  | .arr _ => decidable_of_iff _ fits_arr.symm
  | .null | .bool _ | .num _ | .str _ | .obj _ => isTrue (by rintro l i ⟨⟩)

theorem not_fits_iff : ¬ Fits s v ↔ ∃ l i, v = .arr l ∧ Path.index? s = some i ∧ l.length < i := by
  simp [Fits]

theorem child?_arr {i : Nat} (hs : Path.index? s = some i) (l : List Json) : (arr l).child? s = l[i]? := by
  rw [child?, hs, Option.bind_some]

theorem updateChild_arr {i : Nat} (hs : Path.index? s = some i) (l : List Json) (f : Json → Json) :
    (arr l).updateChild s f = if i < l.length then arr (l.modify i f) else arr (l ++ [f .null]) := by
  rw [updateChild, hs]

/-- What becomes of a part is all that matters. -/
theorem updateChild_congr (h : f (v.childD s) = g (v.childD s)) : v.updateChild s f = v.updateChild s g := by
  cases v with
  | obj fields => exact congrArg Json.obj (Fields.update_congr h)
  | arr l =>
    cases hs : Path.index? s with
    | none =>
      rw [childD, child?, hs] at h
      rw [updateChild, updateChild, hs]
      exact congrArg (fun u => Json.obj [(s, u)]) h
    | some i =>
      rw [childD, child?_arr hs] at h
      rw [updateChild_arr hs, updateChild_arr hs]
      by_cases hi : i < l.length
      · rw [List.getElem?_eq_getElem hi] at h
        rw [if_pos hi, if_pos hi]
        refine congrArg Json.arr (List.ext_getElem (by simp) fun j hj _ => ?_)
        by_cases hij : i = j
        · subst hij
          simpa using h
        · simp [hij]
      · rw [List.getElem?_eq_none (by omega)] at h
        rw [if_neg hi, if_neg hi]
        exact congrArg (fun u => Json.arr (l ++ [u])) h
  | _ => exact congrArg (fun u => Json.obj [(s, u)]) h

/-- A part that has been changed is found again. -/
theorem child?_updateChild (h : Fits s v) (f : Json → Json) :
    (v.updateChild s f).child? s = some (f (v.childD s)) := by
  have hnew : (Json.obj [(s, f .null)]).child? s = some (f .null) := by
    rw [child?, Fields.get?_cons, if_pos rfl]
  cases v with
  | obj fields => rw [updateChild, child?, Fields.get?_update, if_pos rfl]; rfl
  | arr l =>
    cases hs : Path.index? s with
    | none =>
      have hmissing : (arr l).childD s = .null := by rw [childD, child?, hs]; rfl
      rw [updateChild, hs, hmissing]
      exact hnew
    | some i =>
      have hi := h l i rfl hs
      rw [childD, child?_arr hs, updateChild_arr hs]
      split
      · rw [child?_arr hs]
        simp [*]
      · obtain rfl : i = l.length := by omega
        rw [child?_arr hs]
        simp
  | _ => exact hnew

/-- Under an index that is past the end there is nothing, also when an element has been added. -/
theorem child?_of_not_fits (h : ¬ Fits s v) :
    v.child? s = none ∧ ∀ f, (v.updateChild s f).child? s = none := by
  obtain ⟨l, i, rfl, hs, hi⟩ := not_fits_iff.1 h
  have hnone : ∀ l' : List Json, l'.length ≤ i → (arr l').child? s = none := fun l' hl' => by
    rw [child?_arr hs, List.getElem?_eq_none hl']
  refine ⟨hnone l (by omega), fun f => ?_⟩
  rw [updateChild_arr hs, if_neg (by omega)]
  refine hnone _ ?_
  rw [List.length_append, List.length_singleton]
  omega

/-- A segment that leads somewhere lies within every list that it meets. -/
theorem fits_of_child? {c : Json} (h : v.child? s = some c) : Fits s v := by
  by_contra hnot
  rw [(child?_of_not_fits hnot).1] at h
  cases h

/-- A part that is changed twice. -/
theorem updateChild_updateChild (h : Fits s v) (g f : Json → Json) :
    (v.updateChild s f).updateChild s g = v.updateChild s (g ∘ f) := by
  have hnew : (Json.obj [(s, f .null)]).updateChild s g = .obj [(s, g (f .null))] := by
    simp [updateChild, Fields.update]
  cases v with
  | obj fields => exact congrArg Json.obj (Fields.update_update s g f .null fields)
  | arr l =>
    cases hs : Path.index? s with
    | none => rw [updateChild, updateChild, hs]; exact hnew
    | some i =>
      have hi := h l i rfl hs
      rw [updateChild_arr hs l f, updateChild_arr hs l]
      split
      · rw [updateChild_arr hs]
        simp [*, List.modify_modify_eq]
      · obtain rfl : i = l.length := by omega
        rw [updateChild_arr hs]
        simp [List.modify_eq_take_cons_drop]
  | _ => exact hnew

/-- In a list, changing what one segment leads to gets in the way of another segment: the list is
replaced, or both lead to the same element, be it the one that is added. -/
inductive Collide (s t : String) : Json → Prop where
  | replaced {l : List Json} (key : Path.index? s = none) : Collide s t (.arr l)
  | shared {l : List Json} {i : Nat} (changed : Path.index? s = some i)
      (other : Path.index? t = some (min i l.length)) : Collide s t (.arr l)

/-- A list whose part is changed has at most one element more, and all others stay. -/
theorem exists_updateChild_arr {i : Nat} (hs : Path.index? s = some i) (l : List Json) (f : Json → Json) :
    ∃ l', (arr l).updateChild s f = arr l' ∧ l'.length = max l.length (min i l.length + 1) ∧
      ∀ j, j ≠ min i l.length → l'[j]? = l[j]? := by
  rw [updateChild_arr hs]
  split
  · refine ⟨l.modify i f, rfl, by rw [List.length_modify]; omega, fun j hj => ?_⟩
    exact List.getElem?_modify_ne f l (by omega)
  · refine ⟨l ++ [f .null], rfl, by rw [List.length_append, List.length_singleton]; omega, fun j hj => ?_⟩
    rcases Nat.lt_or_ge j l.length with hlt | hge
    · exact List.getElem?_append_left hlt
    · have hlen : (l ++ [f null]).length ≤ j := by
        rw [List.length_append, List.length_singleton]
        omega
      rw [List.getElem?_eq_none hlen, List.getElem?_eq_none hge]

/-- Another segment leads to what it led to before. -/
theorem child?_updateChild_ne (hne : t ≠ s) (h : ¬ Collide s t v) (f : Json → Json) :
    (v.updateChild s f).child? t = v.child? t := by
  have hnew : (Json.obj [(s, f .null)]).child? t = none := by
    rw [child?, Fields.get?_cons, if_neg hne]; rfl
  cases v with
  | obj fields => rw [updateChild, child?, Fields.get?_update, if_neg hne]; rfl
  | arr l =>
    cases hs : Path.index? s with
    | none => exact absurd (.replaced hs) h
    | some i =>
      obtain ⟨l', hl', -, hothers⟩ := exists_updateChild_arr hs l f
      rw [hl']
      cases ht : Path.index? t with
      | none => rw [child?, child?, ht]; rfl
      | some j =>
        rw [child?_arr ht, child?_arr ht]
        refine hothers j ?_
        rintro rfl
        exact h (.shared hs ht)
  | _ => exact hnew

/-- Under another key is found what was there before. -/
theorem child?_updateChild_key (hs : Path.index? s = none) (ht : Path.index? t = none) (h : t ≠ s)
    (v : Json) (f : Json → Json) : (v.updateChild s f).child? t = v.child? t := by
  cases v with
  | arr l =>
    have hmissing : (arr l).child? t = none := by rw [child?, ht]; rfl
    rw [updateChild, hs, hmissing, child?, Fields.get?_cons, if_neg h]
    rfl
  | _ => exact child?_updateChild_ne h (by rintro ⟨⟩) f

/-- What is under a key may be changed before or after what is under another one. -/
theorem updateChild_comm (ht : Path.index? t = none) (h : t ≠ s)
    (hv : (v.child? t).isSome) (g f : Json → Json) :
    (v.updateChild s f).updateChild t g = (v.updateChild t g).updateChild s f := by
  obtain ⟨u, hu⟩ := Option.isSome_iff_exists.1 hv
  cases v with
  | obj fields => exact congrArg Json.obj (Fields.update_comm h g f .null (Fields.mem_keys_of_get? hu))
  | arr l => rw [child?, ht] at hu; cases hu
  | _ => cases hu

/-! ## Places -/

/-- No segment of a place lies past the end of a list that it meets. -/
def FitsAt : List String → Json → Prop
  | [], _ => True
  | s :: rest, v => Fits s v ∧ FitsAt rest (v.childD s)

instance decidableFitsAt : (place : List String) → (v : Json) → Decidable (FitsAt place v)
  | [], _ => isTrue trivial
  | s :: rest, v =>
    have := decidableFitsAt rest (v.childD s)
    inferInstanceAs (Decidable (Fits s v ∧ FitsAt rest (v.childD s)))

end Json

namespace Path

/-- No segment reads as an index. -/
def Keys (place : List String) : Prop := ∀ s ∈ place, index? s = none

/-- Neither of two places leads through the other. -/
def Apart (p q : List String) : Prop := ¬ p <+: q ∧ ¬ q <+: p

instance (place : List String) : Decidable (Keys place) :=
  inferInstanceAs (Decidable (∀ s ∈ place, index? s = none))

instance (p q : List String) : Decidable (Apart p q) := inferInstanceAs (Decidable (¬ _ ∧ ¬ _))

variable {p q : List String} {s t : String}

theorem keys_cons : Keys (s :: p) ↔ index? s = none ∧ Keys p := List.forall_mem_cons

theorem Apart.symm (h : Apart p q) : Apart q p := ⟨h.2, h.1⟩

theorem not_apart_nil : ¬ Apart [] q := fun h => h.1 q.nil_prefix

theorem apart_cons_self : Apart (s :: p) (s :: q) ↔ Apart p q := by
  simp [Apart, List.cons_prefix_cons]

/-- Places that are apart go the same way up to some segment, and there they part. -/
theorem Apart.split (h : Apart p q) : ∃ common s p' t q',
    p = common ++ s :: p' ∧ q = common ++ t :: q' ∧ t ≠ s := by
  induction p generalizing q with
  | nil => exact absurd h not_apart_nil
  | cons s p ih =>
    cases q with
    | nil => exact absurd h.symm not_apart_nil
    | cons t q =>
      by_cases hst : t = s
      · subst hst
        obtain ⟨common, s', p', t', q', rfl, rfl, hne⟩ := ih (apart_cons_self.1 h)
        exact ⟨t :: common, s', p', t', q', rfl, rfl, hne⟩
      · exact ⟨[], s, p, t, q, rfl, rfl, hst⟩

end Path

namespace Json

variable {p q : List String} {v : Json}

theorem fitsAt_of_keys (h : Path.Keys p) (v : Json) : FitsAt p v := by
  induction p generalizing v with
  | nil => trivial
  | cons s p ih =>
    obtain ⟨hs, hp⟩ := Path.keys_cons.1 h
    exact ⟨fits_of_key hs v, ih hp _⟩

theorem fitsAt_null (p : List String) : FitsAt p .null := by
  induction p with
  | nil => trivial
  | cons s p ih => exact ⟨by rintro l i ⟨⟩, ih⟩

/-- What has been stored is found again. -/
theorem at?_store (h : FitsAt p v) (u : Json) : (store u p v).at? p = some u := by
  induction p generalizing v with
  | nil => rfl
  | cons s p ih =>
    obtain ⟨hs, hp⟩ := h
    rw [store, at?, child?_updateChild hs]
    exact ih hp

/-- What is stored first is overwritten. -/
theorem store_store (h : FitsAt p v) (w u : Json) : store w p (store u p v) = store w p v := by
  induction p generalizing v with
  | nil => rfl
  | cons s p ih =>
    obtain ⟨hs, hp⟩ := h
    rw [store, store, store, updateChild_updateChild hs]
    exact updateChild_congr (ih hp)

theorem at?_append (p q : List String) (v : Json) : v.at? (p ++ q) = (v.at? p).bind (at? q) := by
  induction p generalizing v with
  | nil => rfl
  | cons s p ih =>
    rw [List.cons_append, at?, at?, Option.bind_assoc]
    exact congrArg _ (funext ih)

/-- Nothing can be found further on in null, so a part that is missing may be taken for null. -/
theorem at?_childD (s : String) (h : q ≠ []) (v : Json) : (v.childD s).at? q = v.at? (s :: q) := by
  obtain ⟨t, q, rfl⟩ := List.exists_cons_of_ne_nil h
  show (v.childD s).at? (t :: q) = (v.child? s).bind (at? (t :: q))
  unfold childD
  cases v.child? s <;> rfl

theorem at?_of_childD {s : String} {w : Json} (h : (v.childD s).at? p = some w) (hw : w ≠ .null) :
    v.at? (s :: p) = some w := by
  cases p with
  | nil =>
    unfold childD at h
    cases hc : v.child? s with
    | none =>
      rw [hc] at h
      exact absurd (Option.some.inj h).symm hw
    | some c =>
      rw [hc] at h
      rw [at?, hc]
      exact h
  | cons t p => rwa [at?_childD s (List.cons_ne_nil t p)] at h

/-- Storing further on changes what is on the way as if it stood by itself. -/
theorem at?_store_append {w : Json} (h : v.at? p = some w) (rest : List String) (u : Json) :
    (store u (p ++ rest) v).at? p = some (store u rest w) := by
  induction p generalizing v with
  | nil =>
    cases h
    rfl
  | cons s p ih =>
    obtain ⟨c, hc, h⟩ := Option.bind_eq_some_iff.1 h
    rw [List.cons_append, store, at?, child?_updateChild (fits_of_child? hc), childD_of_child? hc]
    exact ih h

/-- What is stored is not seen from a place that parts from the way at some segment, unless this gets in
the way of the segment there. -/
theorem at?_store_branch {common : List String} {s t : String} (hne : t ≠ s)
    (h : ∀ w, v.at? common = some w → ¬ Collide s t w) (u : Json) :
    (store u (common ++ s :: p) v).at? (common ++ t :: q) = v.at? (common ++ t :: q) := by
  induction common generalizing v with
  | nil =>
    show ((v.updateChild s (store u p)).child? t).bind (at? q) = (v.child? t).bind (at? q)
    rw [child?_updateChild_ne hne (h v rfl)]
  | cons x common ih =>
    rw [List.cons_append, List.cons_append, store, at?, at?]
    by_cases hx : Fits x v
    -- Both ways go through the part that is changed. It may be new, and then it was null, in which
    -- nothing collides.
    · have hchild : ∀ w, (v.childD x).at? common = some w → ¬ Collide s t w := by
        intro w hw hcollide
        refine h w (at?_of_childD hw ?_) hcollide
        rintro rfl
        cases hcollide
      rw [child?_updateChild hx, Option.bind_some, ih hchild, at?_childD x (by simp)]
      rfl
    -- The element that is added is not at the index on the way, so both ways end here.
    · rw [(child?_of_not_fits hx).1, (child?_of_not_fits hx).2]

/-- What is stored at a place is not seen from another one. -/
theorem at?_store_apart (hp : Path.Keys p) (hq : Path.Keys q) (h : Path.Apart p q) (u v : Json) :
    (store u p v).at? q = v.at? q := by
  obtain ⟨common, s, p, t, q, rfl, rfl, hne⟩ := h.split
  have hs : Path.index? s = none := hp s (by simp)
  have ht : Path.index? t = none := hq t (by simp)
  cases hmet : v.at? common with
  | some w =>
    rw [at?_append, at?_append, at?_store_append hmet, hmet, Option.bind_some, Option.bind_some, store, at?, at?,
      child?_updateChild_key hs ht hne]
  | none => exact at?_store_branch hne (fun w hw => by rw [hmet] at hw; cases hw) u

/-- What is at one place may be replaced before or after something is stored at another one. -/
theorem store_comm (hp : Path.Keys p) (hq : Path.Keys q) (h : Path.Apart p q) (hv : (v.at? q).isSome)
    (w u : Json) : store w q (store u p v) = store u p (store w q v) := by
  induction p generalizing q v with
  | nil => exact absurd h Path.not_apart_nil
  | cons s p ih =>
    obtain ⟨hs, hkeys⟩ := Path.keys_cons.1 hp
    cases q with
    | nil => exact absurd h.symm Path.not_apart_nil
    | cons t q =>
      obtain ⟨ht, hq⟩ := Path.keys_cons.1 hq
      obtain ⟨c, hc⟩ : ∃ c, v.child? t = some c := by
        cases hc : v.child? t with
        | none => rw [at?, hc] at hv; cases hv
        | some c => exact ⟨c, rfl⟩
      by_cases hst : t = s
      · subst hst
        rw [at?, hc] at hv
        simp only [store, updateChild_updateChild (fits_of_key ht v)]
        refine updateChild_congr ?_
        rw [childD_of_child? hc]
        exact ih hkeys hq (Path.apart_cons_self.1 h) hv
      · exact updateChild_comm ht hst (by rw [hc]; rfl) _ _

/-! ## Several places -/

/-- Stores what belongs to each of some places, one after another. -/
def fill (value : List String → Json) (places : List (List String)) (v : Json) : Json :=
  places.foldl (fun v p => store (value p) p v) v

variable {places : List (List String)} {value : List String → Json}

theorem fill_concat (value : List String → Json) (places : List (List String)) (p : List String) (v : Json) :
    fill value (places ++ [p]) v = store (value p) p (fill value places v) := by
  rw [fill, List.foldl_append]; rfl

theorem fill_congr {other : List String → Json} (h : ∀ p ∈ places, value p = other p) (v : Json) :
    fill value places v = fill other places v :=
  List.foldl_ext _ _ v fun v p hp => by rw [h p hp]

/-- Places that are filled are not seen from another one. -/
theorem at?_fill_apart (hplaces : ∀ p ∈ places, Path.Keys p) (hq : Path.Keys q)
    (h : ∀ p ∈ places, Path.Apart p q) (v : Json) : (fill value places v).at? q = v.at? q := by
  induction places generalizing v with
  | nil => rfl
  | cons p places ih =>
    obtain ⟨hp, hplaces⟩ := List.forall_mem_cons.1 hplaces
    obtain ⟨hpq, h⟩ := List.forall_mem_cons.1 h
    rw [fill, List.foldl_cons, ← fill, ih hplaces h, at?_store_apart hp hq hpq]

section

variable (hplaces : ∀ p ∈ places, Path.Keys p) (h : places.Pairwise Path.Apart) (hp : p ∈ places)

include hplaces h hp

/-- What has been filled in at a place is found there. -/
theorem at?_fill (value : List String → Json) (v : Json) : (fill value places v).at? p = some (value p) := by
  induction places using List.reverseRecOn with
  | nil => cases hp
  | append_singleton places q ih =>
    rw [List.forall_mem_append] at hplaces
    obtain ⟨hplaces, hq⟩ := hplaces
    have hq := hq q (List.mem_singleton_self q)
    obtain ⟨h, -, happart⟩ := List.pairwise_append.1 h
    rw [fill_concat]
    rcases List.mem_append.1 hp with hp | hp
    · have hpq := happart p hp q (List.mem_singleton_self q)
      rw [at?_store_apart hq (hplaces p hp) hpq.symm, ih hplaces h hp]
    · obtain rfl := List.mem_singleton.1 hp
      exact at?_store (fitsAt_of_keys hq _) _

/-- Storing at a place that has been filled is as if it had been filled with that. -/
theorem store_fill (value : List String → Json) (u v : Json) :
    store u p (fill value places v) = fill (Function.update value p u) places v := by
  induction places using List.reverseRecOn with
  | nil => cases hp
  | append_singleton places q ih =>
    rw [List.forall_mem_append] at hplaces
    obtain ⟨hplaces, hq⟩ := hplaces
    have hq := hq q (List.mem_singleton_self q)
    obtain ⟨h, -, happart⟩ := List.pairwise_append.1 h
    rw [fill_concat, fill_concat]
    rcases List.mem_append.1 hp with hp | hp
    · have hpq := happart p hp q (List.mem_singleton_self q)
      have hsome : ((fill value places v).at? p).isSome := by
        rw [at?_fill hplaces h hp]; rfl
      have hne : q ≠ p := by
        rintro rfl
        exact hpq.1 List.prefix_rfl
      rw [store_comm hq (hplaces p hp) hpq.symm hsome, ih hplaces h hp, Function.update_of_ne hne]
    · obtain rfl := List.mem_singleton.1 hp
      have hother : fill (Function.update value p u) places v = fill value places v := by
        refine fill_congr (fun r hr => Function.update_of_ne ?_ u value) v
        rintro rfl
        exact (happart r hr r (List.mem_singleton_self r)).1 List.prefix_rfl
      rw [store_store (fitsAt_of_keys hq _), Function.update_self, hother]

end

end Json

/-! ## Items -/

namespace Item

variable {path : String}

theorem lookup_eq (h : Path.segments path ≠ []) (item : Item) :
    item.lookup path = item.toJson.at? (Path.segments path) := by
  rw [lookup]
  cases hs : Path.segments path with
  | nil => exact absurd hs h
  | cons s rest => rfl

theorem toJson_set (h : Path.segments path ≠ []) (item : Item) (v : Json) :
    (item.set path v).toJson = Json.store v (Path.segments path) item.toJson := by
  rw [set]
  cases hs : Path.segments path with
  | nil => exact absurd hs h
  | cons s rest => rfl

theorem set_of_segments_eq_nil (h : Path.segments path = []) (item : Item) (v : Json) :
    item.set path v = item := by
  rw [set, h]

theorem toJson_injective : Function.Injective toJson := by
  rintro ⟨fields⟩ ⟨fields'⟩ h
  exact congrArg Item.mk (Json.obj.inj h)

end Item

end ItemFlow
