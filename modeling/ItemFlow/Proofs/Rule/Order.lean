import ItemFlow.Rule
import ItemFlow.Proofs.Fields
import Mathlib

/-!
# The order in which rules are applied

Grouping rules by field moves each rule to the first rule of its field and otherwise keeps their order
(`Rule.groups_eq`). So no rule is lost or applied twice (`Rule.ordered_perm`), the rules of each field
stay in order (`Rule.filter_ordered_field`), and the fields come in the order in which they first occur
(`Rule.eraseDups_fields_ordered`).
-/

/-! ## Lists without repetitions -/

namespace List

variable {α β : Type} [BEq α] [LawfulBEq α]

theorem eraseDups_filter (p : α → Bool) (l : List α) : (l.filter p).eraseDups = l.eraseDups.filter p := by
  induction l using List.reverseRecOn with
  | nil => rfl
  | append_singleton l a ih =>
    rw [filter_append, ItemFlow.Fields.eraseDups_concat]
    by_cases ha : p a = true
    · rw [filter_cons_of_pos ha, filter_nil, ItemFlow.Fields.eraseDups_concat, ih]
      simp only [mem_filter, ha, and_true]
      split
      · rfl
      · rw [filter_append, filter_cons_of_pos ha, filter_nil]
    · rw [filter_cons_of_neg ha, filter_nil, append_nil, ih]
      split
      · rfl
      · rw [filter_append, filter_cons_of_neg ha, filter_nil, append_nil]

/-- The first images are the images of the first occurrences. -/
theorem eraseDups_filterMap [BEq β] [LawfulBEq β] (f : α → Option β) (l : List α) :
    (l.eraseDups.filterMap f).eraseDups = (l.filterMap f).eraseDups := by
  induction l using List.reverseRecOn with
  | nil => rfl
  | append_singleton l a ih =>
    rw [ItemFlow.Fields.eraseDups_concat, filterMap_append]
    cases hfa : f a with
    | none =>
      rw [filterMap_cons_none hfa, filterMap_nil, append_nil, ← ih]
      split
      · rfl
      · rw [filterMap_append, filterMap_cons_none hfa, filterMap_nil, append_nil]
    | some b =>
      rw [filterMap_cons_some hfa, filterMap_nil, ItemFlow.Fields.eraseDups_concat]
      split
      · rename_i ha
        rw [if_pos (mem_filterMap.2 ⟨a, ha, hfa⟩), ih]
      · rw [filterMap_append, filterMap_cons_some hfa, filterMap_nil, ItemFlow.Fields.eraseDups_concat, ih]
        have hmem : b ∈ l.eraseDups.filterMap f ↔ b ∈ l.filterMap f := by
          simp only [mem_filterMap, mem_eraseDups]
        exact if_congr hmem rfl rfl

/-- First occurrences come in the order of their positions. -/
theorem pairwise_idxOf_eraseDups (l : List α) :
    l.eraseDups.Pairwise fun a b => l.idxOf a < l.idxOf b := by
  induction l using List.reverseRecOn with
  | nil => exact Pairwise.nil
  | append_singleton l c ih =>
    -- A further element moves none of those before it.
    have hold : l.eraseDups.Pairwise fun a b => (l ++ [c]).idxOf a < (l ++ [c]).idxOf b := by
      refine ih.imp_of_mem fun {a b} ha hb hab => ?_
      rw [mem_eraseDups] at ha hb
      rwa [idxOf_append_of_mem ha, idxOf_append_of_mem hb]
    rw [ItemFlow.Fields.eraseDups_concat]
    split
    · exact hold
    · rename_i hc
      refine pairwise_append.2 ⟨hold, pairwise_singleton _ _, fun a ha b hb => ?_⟩
      rw [mem_eraseDups] at ha
      rw [mem_singleton.1 hb, idxOf_append_of_mem ha, idxOf_append_of_notMem hc]
      exact (idxOf_lt_length_of_mem ha).trans_le (Nat.le_add_right _ _)

/-- Lists with the same first occurrences have them together too. -/
theorem eraseDups_append_congr {a a' b b' : List α} (ha : a.eraseDups = a'.eraseDups)
    (hb : b.eraseDups = b'.eraseDups) : (a ++ b).eraseDups = (a' ++ b').eraseDups := by
  have hmem : ∀ x, x ∈ a ↔ x ∈ a' := fun x => by rw [← mem_eraseDups, ha, mem_eraseDups]
  have helem : (fun x => !a.elem x) = fun x => !a'.elem x := by
    funext x
    rw [Bool.eq_iff_iff]
    simp [hmem]
  rw [eraseDups_append, eraseDups_append, removeAll, removeAll, eraseDups_filter, eraseDups_filter, ha, hb,
    helem]

/-- Of lists laid out for keys that differ, one is picked by its key. -/
theorem flatMap_ite_eq {α : Type} [DecidableEq α] {l : List α} (h : l.Nodup) (a : α) (m : List β) :
    (l.flatMap fun b => if b = a then m else []) = if a ∈ l then m else [] := by
  induction l with
  | nil => rfl
  | cons b l ih =>
    obtain ⟨hb, hl⟩ := nodup_cons.1 h
    rw [flatMap_cons, ih hl]
    by_cases hab : b = a
    · subst hab
      rw [if_pos rfl, if_neg hb, append_nil, if_pos mem_cons_self]
    · rw [if_neg hab, nil_append]
      simp only [mem_cons, Ne.symm hab, false_or]

/-- Keys that differ, each of which is repeated. -/
theorem eraseDups_flatMap {l : List α} (h : l.Nodup) {f : α → List α} (hne : ∀ a ∈ l, f a ≠ [])
    (hf : ∀ a ∈ l, ∀ b ∈ f a, b = a) : (l.flatMap f).eraseDups = l := by
  induction l with
  | nil => rfl
  | cons a l ih =>
    obtain ⟨ha, hl⟩ := nodup_cons.1 h
    have hfirst : (f a).eraseDups = [a] := by
      obtain ⟨b, bs, hb⟩ := exists_cons_of_ne_nil (hne a mem_cons_self)
      have hall := hf a mem_cons_self
      rw [hb, forall_mem_cons] at hall
      obtain ⟨rfl, hall⟩ := hall
      have hrest : (bs.filter fun c => !c == b) = [] := by
        rw [filter_eq_nil_iff]
        intro c hc
        simp [hall c hc]
      rw [hb, eraseDups_cons, hrest, eraseDups_nil]
    have hrest : (l.flatMap f).removeAll (f a) = l.flatMap f := by
      refine filter_eq_self.2 fun b hb => ?_
      obtain ⟨c, hc, hbc⟩ := mem_flatMap.1 hb
      have hmem : b ∉ f a := by
        intro hba
        rw [hf c (mem_cons_of_mem a hc) b hbc] at hba
        exact ha (hf a mem_cons_self c hba ▸ hc)
      simpa using hmem
    rw [flatMap_cons, eraseDups_append, hfirst, hrest,
      ih hl (fun c hc => hne c (mem_cons_of_mem a hc)) fun c hc => hf c (mem_cons_of_mem a hc)]
    rfl

end List

namespace ItemFlow.Rule

/-! ## Groups -/

theorem addToGroup_map (rule : Rule) {fields : List String} (hfields : fields.Nodup)
    {group : String → List Rule} (hnew : rule.field ∉ fields → group rule.field = []) :
    addToGroup rule (fields.map fun field => (field, group field)) =
      (if rule.field ∈ fields then fields else fields ++ [rule.field]).map fun field =>
        (field, if field = rule.field then group field ++ [rule] else group field) := by
  induction fields with
  | nil => simp [addToGroup, hnew]
  | cons field fields ih =>
    obtain ⟨hfield, hfields⟩ := List.nodup_cons.1 hfields
    rw [List.map_cons, addToGroup]
    by_cases h : field = rule.field
    · subst h
      rw [if_pos rfl, if_pos List.mem_cons_self, List.map_cons, if_pos rfl]
      refine congrArg _ (List.map_congr_left fun g hg => ?_)
      have hne : g ≠ rule.field := by
        rintro rfl
        exact hfield hg
      rw [if_neg hne]
    · have hsplit :
          (if rule.field ∈ field :: fields then field :: fields else field :: fields ++ [rule.field]) =
            field :: if rule.field ∈ fields then fields else fields ++ [rule.field] := by
        simp only [List.mem_cons, Ne.symm h, false_or]
        split <;> rfl
      have hnew : rule.field ∉ fields → group rule.field = [] := fun hmem =>
        hnew (by simp [Ne.symm h, hmem])
      rw [if_neg h, ih hfields hnew, hsplit, List.map_cons, if_neg h]

theorem groups_concat (rules : List Rule) (rule : Rule) :
    groups (rules ++ [rule]) = addToGroup rule (groups rules) := by
  rw [groups, List.foldl_append]; rfl

/-- Each group has the rules of its field in their order. -/
theorem groups_eq (rules : List Rule) : groups rules =
    (rules.map (·.field)).eraseDups.map fun field => (field, rules.filter (·.field = field)) := by
  induction rules using List.reverseRecOn with
  | nil => rfl
  | append_singleton rules rule ih =>
    have hnew : rule.field ∉ (rules.map (·.field)).eraseDups →
        rules.filter (·.field = rule.field) = [] := by
      intro h
      rw [List.mem_eraseDups] at h
      rw [List.filter_eq_nil_iff]
      intro r hr
      rw [decide_eq_true_eq]
      exact fun hfield => h (hfield ▸ List.mem_map_of_mem hr)
    rw [groups_concat, ih, addToGroup_map rule (Fields.nodup_eraseDups _) hnew, List.map_append,
      List.map_singleton, Fields.eraseDups_concat]
    simp only [List.mem_eraseDups]
    refine List.map_congr_left fun field _ => ?_
    rw [List.filter_append, List.filter_singleton]
    by_cases h : field = rule.field
    · simp [h]
    · simp [h, Ne.symm h]

theorem fields_groups (rules : List Rule) :
    (groups rules).map (·.1) = (rules.map (·.field)).eraseDups := by
  rw [groups_eq, List.map_map]
  exact List.map_id _

theorem mem_groups {rules : List Rule} {group : String × List Rule} : group ∈ groups rules ↔
    (∃ rule ∈ rules, rule.field = group.1) ∧ group.2 = rules.filter (·.field = group.1) := by
  rw [groups_eq, List.mem_map]
  constructor
  · rintro ⟨field, hfield, rfl⟩
    exact ⟨List.mem_map.1 (List.mem_eraseDups.1 hfield), rfl⟩
  · rintro ⟨hfield, hgroup⟩
    exact ⟨group.1, List.mem_eraseDups.2 (List.mem_map.2 hfield), by rw [← hgroup]⟩

theorem field_of_mem_group {rules : List Rule} {group : String × List Rule} (h : group ∈ groups rules)
    {rule : Rule} (hrule : rule ∈ group.2) : rule.field = group.1 := by
  rw [(mem_groups.1 h).2] at hrule
  exact of_decide_eq_true (List.mem_filter.1 hrule).2

theorem group_ne_nil {rules : List Rule} {group : String × List Rule} (h : group ∈ groups rules) :
    group.2 ≠ [] := by
  obtain ⟨⟨rule, hrule, hfield⟩, hgroup⟩ := mem_groups.1 h
  rw [hgroup]
  exact List.ne_nil_of_mem (List.mem_filter.2 ⟨hrule, decide_eq_true hfield⟩)

/-- The groups of rules of some of the fields. -/
theorem groups_filter (p : String → Bool) (rules : List Rule) :
    groups (rules.filter (p ·.field)) = (groups rules).filter (p ·.1) := by
  have hfields : (rules.filter (p ·.field)).map (·.field) = (rules.map (·.field)).filter p :=
    List.filter_map.symm
  rw [groups_eq, groups_eq, hfields, List.eraseDups_filter, List.filter_map]
  refine List.map_congr_left fun field hfield => ?_
  have hp := (List.mem_filter.1 hfield).2
  rw [List.filter_filter]
  refine congrArg _ (List.filter_congr fun rule _ => ?_)
  by_cases h : rule.field = field
  · simp [h, hp]
  · simp [h]

/-! ## The order -/

/-- The place that a rule works on. -/
def place (rule : Rule) : List String := Path.segments rule.field

/-- The rules in the order in which they are applied. -/
def ordered (rules : List Rule) : List Rule := (groups rules).flatMap (·.2)

theorem ordered_eq (rules : List Rule) : ordered rules =
    (rules.map (·.field)).eraseDups.flatMap fun field => rules.filter (·.field = field) := by
  rw [ordered, groups_eq, List.flatMap_map]

theorem addToGroup_perm (rule : Rule) (groups : List (String × List Rule)) :
    ((addToGroup rule groups).flatMap (·.2)).Perm (rule :: groups.flatMap (·.2)) := by
  induction groups with
  | nil => rfl
  | cons group groups ih =>
    rw [addToGroup]
    split
    · rw [List.flatMap_cons, List.flatMap_cons, List.append_assoc]
      exact List.perm_middle
    · rw [List.flatMap_cons, List.flatMap_cons]
      exact (ih.append_left group.2).trans List.perm_middle

/-- Each rule is applied as often as it occurs. -/
theorem ordered_perm (rules : List Rule) : (ordered rules).Perm rules := by
  induction rules using List.reverseRecOn with
  | nil => rfl
  | append_singleton rules rule ih =>
    rw [ordered, groups_concat]
    have hadd : ((addToGroup rule (groups rules)).flatMap (·.2)).Perm (rule :: ordered rules) :=
      addToGroup_perm rule (groups rules)
    exact (hadd.trans (ih.cons rule)).trans (List.perm_append_singleton rule rules).symm

theorem mem_ordered {rule : Rule} {rules : List Rule} : rule ∈ ordered rules ↔ rule ∈ rules :=
  (ordered_perm rules).mem_iff

/-- The rules of a field stay in their order. -/
theorem filter_ordered_field (rules : List Rule) (field : String) :
    (ordered rules).filter (·.field = field) = rules.filter (·.field = field) := by
  have hgroup : ∀ f, (rules.filter (·.field = f)).filter (·.field = field) =
      if f = field then rules.filter (·.field = field) else [] := by
    intro f
    split
    · rename_i h
      rw [h, List.filter_filter]
      simp
    · rename_i h
      rw [List.filter_filter, List.filter_eq_nil_iff]
      intro r _
      simp only [Bool.and_eq_true, decide_eq_true_eq, not_and]
      rintro rfl hf
      exact h hf.symm
  rw [ordered_eq, List.filter_flatMap]
  simp only [hgroup]
  rw [List.flatMap_ite_eq (Fields.nodup_eraseDups _)]
  split
  · rfl
  · rename_i h
    symm
    rw [List.filter_eq_nil_iff]
    intro r hr hf
    rw [decide_eq_true_eq] at hf
    exact h (List.mem_eraseDups.2 (hf ▸ List.mem_map_of_mem hr))

/-- The fields come in the order in which they first occur. -/
theorem eraseDups_fields_ordered (rules : List Rule) :
    ((ordered rules).map (·.field)).eraseDups = (rules.map (·.field)).eraseDups := by
  rw [ordered_eq, List.map_flatMap]
  refine List.eraseDups_flatMap (Fields.nodup_eraseDups _) ?_ ?_
  · intro field hfield hnil
    obtain ⟨rule, hrule, rfl⟩ := List.mem_map.1 (List.mem_eraseDups.1 hfield)
    exact List.filter_eq_nil_iff.1 (List.map_eq_nil_iff.1 hnil) rule hrule (decide_eq_true rfl)
  · intro field _ other hother
    obtain ⟨rule, hrule, rfl⟩ := List.mem_map.1 hother
    exact of_decide_eq_true (List.mem_filter.1 hrule).2

/-- So do their places. -/
theorem eraseDups_place_ordered (rules : List Rule) :
    ((ordered rules).map place).eraseDups = (rules.map place).eraseDups := by
  have hplaces : ∀ l : List Rule,
      l.map place = (l.map (·.field)).filterMap fun field => some (Path.segments field) := by
    intro l
    rw [List.filterMap_eq_map', List.map_map]
    rfl
  rw [hplaces, hplaces, ← List.eraseDups_filterMap, eraseDups_fields_ordered, List.eraseDups_filterMap]

/-- Rules of some of the fields are in the order that they have among all. -/
theorem filter_ordered (p : String → Bool) (rules : List Rule) :
    (ordered rules).filter (p ·.field) = ordered (rules.filter (p ·.field)) := by
  rw [ordered, ordered, groups_filter, List.filter_flatMap]
  have hgroups : ∀ group ∈ groups rules, ∀ rule ∈ group.2, rule.field = group.1 := fun _ => field_of_mem_group
  generalize groups rules = all at hgroups ⊢
  induction all with
  | nil => rfl
  | cons group groups ih =>
    obtain ⟨hgroup, hgroups⟩ := List.forall_mem_cons.1 hgroups
    rw [List.flatMap_cons, ih hgroups]
    by_cases h : p group.1 = true
    · have hall : group.2.filter (p ·.field) = group.2 := List.filter_eq_self.2 fun r hr => by
        rw [hgroup r hr, h]
      rw [hall, List.filter_cons, if_pos h, List.flatMap_cons]
    · have hnone : group.2.filter (p ·.field) = [] := List.filter_eq_nil_iff.2 fun r hr => by
        rw [hgroup r hr]
        exact h
      rw [hnone, List.filter_cons, if_neg h, List.nil_append]

end ItemFlow.Rule
