import ItemFlow.Proofs.Json.Places
import ItemFlow.Proofs.Rule.Order
import Mathlib

/-!
# What rules do to an item

A list of rules keeps the keys of an item and adds the first segments of its fields (`Rule.keys_apply`);
what is under other keys stays (`Rule.get?_apply`). If the fields are keys all the way and none leads
through another, no rule sees what rules of other fields have stored: each place ends up with the
word that it had at first, rewritten by the rules that work there, in the order in which they are
applied (`Rule.toJson_foldl_applyRule`). Together this is `Rule.apply_effect`.
-/

namespace ItemFlow.Rule

/-! ## Top-level keys -/

/-- Some keys, and after them those of others that are new, in the order in which they first occur. -/
def withNew (keys others : List String) : List String := keys ++ others.eraseDups.filter (· ∉ keys)

theorem mem_withNew {keys others : List String} {key : String} :
    key ∈ withNew keys others ↔ key ∈ keys ∨ key ∈ others := by
  rw [withNew, List.mem_append, List.mem_filter, List.mem_eraseDups, decide_eq_true_eq]
  tauto

theorem withNew_concat (keys others : List String) (key : String) :
    withNew keys (others ++ [key]) =
      if key ∈ withNew keys others then withNew keys others else withNew keys others ++ [key] := by
  simp only [mem_withNew]
  rw [withNew, withNew, Fields.eraseDups_concat]
  by_cases hkeys : key ∈ keys
  · rw [if_pos (Or.inl hkeys)]
    split
    · rfl
    · rw [List.filter_append, List.filter_cons, if_neg (by simpa using hkeys), List.filter_nil, List.append_nil]
  · simp only [hkeys, false_or]
    split
    · rfl
    · rw [List.filter_append, List.filter_cons, if_pos (decide_eq_true hkeys), List.filter_nil,
        List.append_assoc]

section

variable (value : Item → String → Json) (fields : List String) (item : Item)

/-- Storing at several fields keeps the keys that there are and adds new ones as they come. -/
theorem keys_foldl_set :
    (fields.foldl (fun item field => item.set field (value item field)) item).fields.map (·.1) =
      withNew (item.fields.map (·.1)) (fields.filterMap fun field => (Path.segments field).head?) := by
  induction fields using List.reverseRecOn with
  | nil => simp [withNew]
  | append_singleton fields field ih =>
    rw [List.foldl_append, List.foldl_cons, List.foldl_nil, List.filterMap_append]
    cases hs : Path.segments field with
    | nil =>
      rw [Item.set_of_segments_eq_nil hs, ih, List.filterMap_cons_none (by rw [hs]; rfl), List.filterMap_nil,
        List.append_nil]
    | cons s rest =>
      rw [Item.set, hs, Fields.keys_update, ih, List.filterMap_cons_some (by rw [hs]; rfl), List.filterMap_nil,
        withNew_concat]

theorem get?_foldl_set {key : String} (h : ∀ field ∈ fields, (Path.segments field).head? ≠ some key) :
    Fields.get? key (fields.foldl (fun item field => item.set field (value item field)) item).fields =
      Fields.get? key item.fields := by
  induction fields generalizing item with
  | nil => rfl
  | cons field fields ih =>
    obtain ⟨hfield, h⟩ := List.forall_mem_cons.1 h
    rw [List.foldl_cons, ih _ h, Item.set]
    cases hs : Path.segments field with
    | nil => rfl
    | cons s rest =>
      rw [hs] at hfield
      rw [Fields.get?_update, if_neg]
      rintro rfl
      exact hfield rfl

end

/-- The word that a field gets from its rules. -/
def rewritten (rules : List Rule) (item : Item) (field : String) : String :=
  (rules.filter (·.field = field)).foldl substitute (fieldWord item field)

theorem apply_eq_foldl_set (rules : List Rule) (item : Item) :
    apply rules item = (rules.map (·.field)).eraseDups.foldl
      (fun item field => item.set field (.str (rewritten rules item field))) item := by
  rw [apply, groups_eq, List.foldl_map]
  rfl

/-- Applying rules keeps the keys of an item and adds the first segments of fields that are new. -/
theorem keys_apply (rules : List Rule) (item : Item) : (apply rules item).fields.map (·.1) =
    withNew (item.fields.map (·.1)) (rules.filterMap (·.place.head?)) := by
  have hheads : (rules.map (·.field)).filterMap (fun field => (Path.segments field).head?) =
      rules.filterMap (·.place.head?) := List.filterMap_map
  rw [apply_eq_foldl_set, keys_foldl_set _ _ _, withNew, withNew, List.eraseDups_filterMap, hheads]

/-- What is under a key that no field starts with stays. -/
theorem get?_apply {rules : List Rule} {key : String} (h : ∀ rule ∈ rules, rule.place.head? ≠ some key)
    (item : Item) : Fields.get? key (apply rules item).fields = Fields.get? key item.fields := by
  rw [apply_eq_foldl_set]
  refine get?_foldl_set _ _ _ fun field hfield => ?_
  obtain ⟨rule, hrule, rfl⟩ := List.mem_map.1 (List.mem_eraseDups.1 hfield)
  exact h rule hrule

/-- Rules whose fields have no segments do nothing. -/
theorem apply_filter_place (rules : List Rule) (item : Item) :
    apply (rules.filter (·.place ≠ [])) item = apply rules item := by
  have hgroups := groups_filter (fun field => decide (Path.segments field ≠ [])) rules
  rw [apply, apply]
  refine (congrArg (List.foldl applyGroup item) hgroups).trans ?_
  rw [List.foldl_filter]
  refine List.foldl_ext _ _ item fun item group _ => ?_
  split
  · rfl
  · rename_i h
    rw [applyGroup, Item.set_of_segments_eq_nil (by simpa using h)]

/-! ## One rule at a time -/

/-- The word of what is found at a field. -/
def wordOf : Option Json → String
  | none | some .null | some (.bool false) | some (.arr []) | some (.obj []) => ""
  | some (.num n) => if n.isZero then "" else (Json.num n).toWord
  | some v => v.toWord

theorem fieldWord_eq (item : Item) (field : String) : fieldWord item field = wordOf (item.lookup field) := rfl

theorem wordOf_str (w : String) : wordOf (some (.str w)) = w := rfl

/-- Applies a rule by itself to an item. -/
def applyRule (item : Item) (rule : Rule) : Item := applyGroup item (rule.field, [rule])

theorem applyRule_eq (item : Item) (rule : Rule) :
    applyRule item rule = item.set rule.field (.str (substitute (fieldWord item rule.field) rule)) := rfl

/-- The rules of a field may be applied one at a time. -/
theorem applyGroup_eq_foldl {field : String} (hkeys : Path.Keys (Path.segments field)) {group : List Rule}
    (hne : group ≠ []) (h : ∀ rule ∈ group, rule.field = field) (item : Item) :
    applyGroup item (field, group) = group.foldl applyRule item := by
  induction group using List.reverseRecOn with
  | nil => exact absurd rfl hne
  | append_singleton group rule ih =>
    rw [List.forall_mem_append] at h
    obtain ⟨h, hrule⟩ := h
    obtain rfl := hrule rule (List.mem_singleton_self rule)
    by_cases hnil : group = []
    · rw [hnil]; rfl
    · rw [List.foldl_append, ← ih hnil h, List.foldl_cons, List.foldl_nil, applyRule_eq, applyGroup, applyGroup]
      by_cases hs : Path.segments rule.field = []
      · simp only [Item.set_of_segments_eq_nil hs]
      · have hfits := Json.fitsAt_of_keys hkeys
        refine Item.toJson_injective ?_
        rw [fieldWord_eq (item.set _ _), Item.lookup_eq hs]
        simp only [Item.toJson_set hs]
        rw [Json.at?_store (hfits _), wordOf_str, Json.store_store (hfits _), List.foldl_append]
        rfl

/-- Rules may be applied one at a time in their order. -/
theorem apply_eq_foldl {rules : List Rule} (hkeys : ∀ rule ∈ rules, Path.Keys rule.place) (item : Item) :
    apply rules item = (ordered rules).foldl applyRule item := by
  rw [apply, ordered, List.foldl_flatMap]
  refine List.foldl_ext _ _ item fun item group hgroup => ?_
  have hne := group_ne_nil hgroup
  have hfield : ∀ rule ∈ group.2, rule.field = group.1 := fun _ => field_of_mem_group hgroup
  obtain ⟨rule, hrule⟩ := List.exists_mem_of_ne_nil _ hne
  refine applyGroup_eq_foldl ?_ hne hfield item
  rw [← hfield rule hrule]
  exact hkeys rule (mem_ordered.1 (List.mem_flatMap.2 ⟨group, hgroup, hrule⟩))

/-! ## Places apart -/

/-- The word that a place gets from its rules. -/
def worked (rules : List Rule) (v : Json) (place : List String) : String :=
  (rules.filter (·.place = place)).foldl substitute (wordOf (v.at? place))

theorem worked_concat (rules : List Rule) (rule : Rule) (v : Json) :
    (fun p => Json.str (worked (rules ++ [rule]) v p)) =
      Function.update (fun p => .str (worked rules v p)) rule.place
        (.str (substitute (worked rules v rule.place) rule)) := by
  funext p
  by_cases h : p = rule.place
  · subst h
    rw [Function.update_self, worked, List.filter_append, List.filter_cons, if_pos (decide_eq_true rfl),
      List.filter_nil, List.foldl_append]
    rfl
  · rw [Function.update_of_ne h, worked, List.filter_append, List.filter_cons,
      if_neg (by simpa using Ne.symm h), List.filter_nil, List.append_nil, worked]

/-- The places of rules are keys all the way, and none leads through another. -/
structure Separate (rules : List Rule) : Prop where
  keys : ∀ rule ∈ rules, Path.Keys rule.place
  apart : ∀ r ∈ rules, ∀ r' ∈ rules, r.place ≠ r'.place → Path.Apart r.place r'.place

namespace Separate

variable {rules others : List Rule}

theorem mono (h : Separate others) (hsub : ∀ rule ∈ rules, rule ∈ others) : Separate rules :=
  ⟨fun r hr => h.keys r (hsub r hr), fun r hr r' hr' => h.apart r (hsub r hr) r' (hsub r' hr')⟩

theorem keys_places (h : Separate rules) : ∀ p ∈ (rules.map place).eraseDups, Path.Keys p := by
  intro p hp
  obtain ⟨rule, hrule, rfl⟩ := List.mem_map.1 (List.mem_eraseDups.1 hp)
  exact h.keys rule hrule

theorem pairwise_places (h : Separate rules) : (rules.map place).eraseDups.Pairwise Path.Apart := by
  refine (Fields.nodup_eraseDups _).pairwise_of_forall_ne fun p hp q hq hpq => ?_
  obtain ⟨r, hr, rfl⟩ := List.mem_map.1 (List.mem_eraseDups.1 hp)
  obtain ⟨r', hr', rfl⟩ := List.mem_map.1 (List.mem_eraseDups.1 hq)
  exact h.apart r hr r' hr' hpq

end Separate

/-- What is found at a place of further rules after places have been filled. -/
theorem wordOf_fill {rules : List Rule} {rule : Rule} (hsep : Separate (rules ++ [rule])) (v : Json) :
    wordOf ((Json.fill (fun p => .str (worked rules v p)) (rules.map place).eraseDups v).at? rule.place) =
      worked rules v rule.place := by
  have hrules : Separate rules := hsep.mono fun r hr => List.mem_append_left _ hr
  have hrule : rule ∈ rules ++ [rule] := List.mem_append_right _ (List.mem_singleton_self rule)
  by_cases h : rule.place ∈ (rules.map place).eraseDups
  · rw [Json.at?_fill hrules.keys_places hrules.pairwise_places h, wordOf_str]
  · have happart : ∀ p ∈ (rules.map place).eraseDups, Path.Apart p rule.place := by
      intro p hp
      have hne : p ≠ rule.place := by
        rintro rfl
        exact h hp
      obtain ⟨r, hr, rfl⟩ := List.mem_map.1 (List.mem_eraseDups.1 hp)
      exact hsep.apart r (List.mem_append_left _ hr) rule hrule hne
    have hnone : rules.filter (·.place = rule.place) = [] := by
      rw [List.filter_eq_nil_iff]
      intro r hr hplace
      exact h (List.mem_eraseDups.2 (of_decide_eq_true hplace ▸ List.mem_map_of_mem hr))
    rw [Json.at?_fill_apart hrules.keys_places (hsep.keys rule hrule) happart, worked, hnone]
    rfl

/-- Each place gets the word that it had at first, rewritten by its rules. -/
theorem toJson_foldl_applyRule {rules : List Rule} (hsep : Separate rules)
    (hne : ∀ rule ∈ rules, rule.place ≠ []) (item : Item) : (rules.foldl applyRule item).toJson =
      Json.fill (fun p => .str (worked rules item.toJson p)) (rules.map place).eraseDups item.toJson := by
  induction rules using List.reverseRecOn with
  | nil => rfl
  | append_singleton rules rule ih =>
    have hrules : Separate rules := hsep.mono fun r hr => List.mem_append_left _ hr
    rw [List.forall_mem_append] at hne
    have hplace : rule.place ≠ [] := hne.2 rule (List.mem_singleton_self rule)
    have ih := ih hrules hne.1
    have hword : fieldWord (rules.foldl applyRule item) rule.field = worked rules item.toJson rule.place := by
      rw [fieldWord_eq, Item.lookup_eq hplace, ih]
      exact wordOf_fill hsep item.toJson
    rw [List.foldl_append, List.foldl_cons, List.foldl_nil, applyRule_eq, hword, Item.toJson_set hplace, ih,
      List.map_append, List.map_singleton, Fields.eraseDups_concat, worked_concat]
    by_cases h : rule.place ∈ rules.map place
    · rw [if_pos h]
      exact Json.store_fill hrules.keys_places hrules.pairwise_places (List.mem_eraseDups.2 h) _ _ _
    · have hold : Json.fill (Function.update (fun p => .str (worked rules item.toJson p)) rule.place
          (.str (substitute (worked rules item.toJson rule.place) rule))) (rules.map place).eraseDups
            item.toJson = Json.fill (fun p => .str (worked rules item.toJson p)) (rules.map place).eraseDups
              item.toJson := by
        refine Json.fill_congr (fun p hp => Function.update_of_ne ?_ _ _) _
        rintro rfl
        exact h (List.mem_eraseDups.1 hp)
      rw [if_neg h, Json.fill_concat, Function.update_self, hold]
      rfl

/-- The same for rules in their order. -/
theorem toJson_apply {rules : List Rule} (hsep : Separate rules) (hne : ∀ rule ∈ rules, rule.place ≠ [])
    (item : Item) : (apply rules item).toJson =
      Json.fill (fun p => .str (worked (ordered rules) item.toJson p)) (rules.map place).eraseDups
        item.toJson := by
  rw [apply_eq_foldl hsep.keys, toJson_foldl_applyRule (hsep.mono fun _ => mem_ordered.1)
    fun rule hrule => hne rule (mem_ordered.1 hrule), eraseDups_place_ordered]

/-- If fields that differ lead to places apart, each field reads back as its word at first, rewritten by
its rules. -/
theorem lookup_apply {rules : List Rule} (hkeys : ∀ rule ∈ rules, Path.Keys rule.place)
    (hapart : ∀ r ∈ rules, ∀ r' ∈ rules, r.field ≠ r'.field → Path.Apart r.place r'.place)
    {rule : Rule} (hrule : rule ∈ rules) (hplace : rule.place ≠ []) (item : Item) :
    (apply rules item).lookup rule.field = some (.str (rewritten rules item rule.field)) := by
  have hsep : Separate rules := by
    refine ⟨hkeys, fun r hr r' hr' hne => hapart r hr r' hr' ?_⟩
    intro h
    exact hne (congrArg Path.segments h)
  have hne : ∀ r ∈ rules, r.place ≠ [] := by
    intro r hr hnil
    have h := hsep.apart r hr rule hrule fun h => hplace (h ▸ hnil)
    rw [hnil] at h
    exact Path.not_apart_nil h
  -- The rules of the place are those of the field.
  have hsame : (ordered rules).filter (·.place = rule.place) =
      (ordered rules).filter (·.field = rule.field) := by
    refine List.filter_congr fun r hr => decide_eq_decide.2 ⟨fun h => ?_, congrArg Path.segments⟩
    by_contra hfield
    have happart := hapart r (mem_ordered.1 hr) rule hrule hfield
    rw [h] at happart
    exact happart.1 List.prefix_rfl
  have hmem : rule.place ∈ (rules.map place).eraseDups := List.mem_eraseDups.2 (List.mem_map_of_mem hrule)
  rw [Item.lookup_eq hplace, toJson_apply hsep hne]
  refine (Json.at?_fill hsep.keys_places hsep.pairwise_places hmem _ _).trans ?_
  rw [worked, hsame, filter_ordered_field, rewritten, fieldWord_eq, Item.lookup_eq hplace]
  rfl

/-! ## The effect -/

/-- Applying rules keeps the keys of an item in their order and what is under those that no field starts
with, adds the first segments of fields in the order in which they first occur, and passes over rules
whose fields have no segments. If no segment reads as an index and no field leads through another one,
each field reads back as the word that it had at first, rewritten by the rules of the field in their
order, whatever other rules there are in between. -/
theorem apply_effect (rules : List Rule) (item : Item) :
    (apply rules item).fields.map (·.1) = item.fields.map (·.1) ++
        (rules.filterMap (·.place.head?)).eraseDups.filter (· ∉ item.fields.map (·.1)) ∧
      (∀ key, (∀ rule ∈ rules, rule.place.head? ≠ some key) →
        Fields.get? key (apply rules item).fields = Fields.get? key item.fields) ∧
      apply rules item = apply (rules.filter (·.place ≠ [])) item ∧
      ((∀ rule ∈ rules, Path.Keys rule.place) →
        (∀ r ∈ rules, ∀ r' ∈ rules, r.field ≠ r'.field → Path.Apart r.place r'.place) →
        ∀ rule ∈ rules, rule.place ≠ [] → (apply rules item).lookup rule.field =
          some (.str ((rules.filter (·.field = rule.field)).foldl substitute (fieldWord item rule.field)))) :=
  ⟨keys_apply rules item, fun _ h => get?_apply h item, (apply_filter_place rules item).symm,
    fun hkeys hapart _ hrule hplace => lookup_apply hkeys hapart hrule hplace item⟩

/-- The pattern of a text without flags; no text matches if it spells none. -/
def patternOf (source : String) : Pattern :=
  match Pattern.compile source {} with
  | .ok p => p
  | .error _ => ⟨source, #[], 0, []⟩

/-- Rules for the words of an item and for a word inside it, in turns. -/
def interleaved : List Rule :=
  [⟨"t", patternOf "a", "b", true⟩, ⟨"u.v", patternOf "x", "y", true⟩,
    ⟨"t", patternOf "b", "c", true⟩]

theorem apply_effect_interleaved :
    (apply interleaved ⟨[("t", .str "ab"), ("u", .str "w")]⟩).lookup "t" = some (.str "cc") ∧
      (apply interleaved ⟨[("t", .str "ab"), ("u", .str "w")]⟩).lookup "u.v" = some (.str "") := by
  have h := (apply_effect interleaved ⟨[("t", .str "ab"), ("u", .str "w")]⟩).2.2.2 (by decide) (by decide)
  exact ⟨(h ⟨"t", patternOf "a", "b", true⟩ (by simp [interleaved]) (by decide)).trans (by cbv),
    (h ⟨"u.v", patternOf "x", "y", true⟩ (by simp [interleaved]) (by decide)).trans (by cbv)⟩

end ItemFlow.Rule
