import ItemFlow.Proofs.Rule.Order
import Mathlib

/-!
# Groups as a partition

What it means to part rules by field, without regard to how the groups are built
(`Rule.StablePartition`): one group for each field that occurs, the groups in the order in which their
fields first occur, the rules of a group in the order in which they stand. This leaves no choice: there
is one such list of groups, and it is `Rule.groups` (`Rule.stablePartition_iff`).
-/

namespace ItemFlow.Rule

variable {rules : List Rule} {parts parts' : List (String × List Rule)}

/-- Rules parted by field, in their order. -/
structure StablePartition (rules : List Rule) (parts : List (String × List Rule)) : Prop where
  /-- No two groups are of one field. -/
  distinct : (parts.map (·.1)).Nodup
  /-- The groups come in the order in which their fields first occur among the rules. -/
  inOrder : (parts.map (·.1)).Pairwise fun f g =>
    (rules.map (·.field)).idxOf f < (rules.map (·.field)).idxOf g
  /-- No group is empty. -/
  nonempty : ∀ part ∈ parts, part.2 ≠ []
  /-- The group of a field has all rules of the field, in their order. -/
  ofField : ∀ part ∈ parts, part.2 = rules.filter (·.field = part.1)
  /-- Each rule is in one group and in no other. -/
  inOne : ∀ rule ∈ rules, ∃! part, part ∈ parts ∧ rule ∈ part.2
  /-- Together the groups have each rule as often as it occurs. -/
  asOften : (parts.flatMap (·.2)).Perm rules

/-! ## The groups are a partition -/

theorem existsUnique_group {rule : Rule} (hrule : rule ∈ rules) :
    ∃! group, group ∈ groups rules ∧ rule ∈ group.2 := by
  refine ⟨(rule.field, rules.filter (·.field = rule.field)), ⟨?_, ?_⟩, ?_⟩
  · exact mem_groups.2 ⟨⟨rule, hrule, rfl⟩, rfl⟩
  · exact List.mem_filter.2 ⟨hrule, decide_eq_true rfl⟩
  · rintro ⟨field, group⟩ ⟨hgroup, hmem⟩
    obtain rfl : rule.field = field := field_of_mem_group hgroup hmem
    exact Prod.ext rfl (mem_groups.1 hgroup).2

theorem stablePartition_groups (rules : List Rule) : StablePartition rules (groups rules) where
  distinct := by
    rw [fields_groups]
    exact Fields.nodup_eraseDups _
  inOrder := by
    rw [fields_groups]
    exact List.pairwise_idxOf_eraseDups _
  nonempty _ := group_ne_nil
  ofField _ hgroup := (mem_groups.1 hgroup).2
  inOne _ := existsUnique_group
  asOften := ordered_perm rules

/-! ## There is no other one -/

namespace StablePartition

/-- There is a group for each field that occurs, and for no other. -/
theorem mem_fields (h : StablePartition rules parts) {field : String} :
    field ∈ parts.map (·.1) ↔ field ∈ rules.map (·.field) := by
  rw [List.mem_map, List.mem_map]
  constructor
  · rintro ⟨part, hpart, rfl⟩
    obtain ⟨rule, hrule⟩ := List.exists_mem_of_ne_nil _ (h.nonempty part hpart)
    rw [h.ofField part hpart, List.mem_filter, decide_eq_true_eq] at hrule
    exact ⟨rule, hrule⟩
  · rintro ⟨rule, hrule, rfl⟩
    obtain ⟨part, ⟨hpart, hmem⟩, -⟩ := h.inOne rule hrule
    rw [h.ofField part hpart, List.mem_filter, decide_eq_true_eq] at hmem
    exact ⟨part, hpart, hmem.2.symm⟩

/-- The fields tell what is in the groups. -/
theorem eq_map (h : StablePartition rules parts) :
    parts = (parts.map (·.1)).map fun field => (field, rules.filter (·.field = field)) := by
  have hpart : ∀ part ∈ parts, (part.1, rules.filter (·.field = part.1)) = part := fun part hpart =>
    Prod.ext rfl (h.ofField part hpart).symm
  rw [List.map_map]
  exact ((List.map_congr_left hpart).trans (List.map_id parts)).symm

theorem unique (h : StablePartition rules parts) (h' : StablePartition rules parts') : parts = parts' := by
  -- The same fields without repetitions, put in order by the same positions.
  have hperm : (parts.map (·.1)).Perm (parts'.map (·.1)) :=
    (List.perm_ext_iff_of_nodup h.distinct h'.distinct).2 fun _ => h.mem_fields.trans h'.mem_fields.symm
  have hfields : parts.map (·.1) = parts'.map (·.1) :=
    hperm.eq_of_pairwise (fun _ _ _ _ hlt hgt => absurd hlt hgt.asymm) h.inOrder h'.inOrder
  rw [h.eq_map, h'.eq_map, hfields]

end StablePartition

/-- Grouping rules parts them by field in their order, and there is no other way to do so. -/
theorem stablePartition_iff : StablePartition rules parts ↔ parts = groups rules :=
  ⟨fun h => h.unique (stablePartition_groups rules), fun h => h ▸ stablePartition_groups rules⟩

-- Rules of a field go to its first one, past those of another field in between.
example (p : Pattern) : groups [⟨"b", p, "x", true⟩, ⟨"a", p, "y", true⟩, ⟨"b", p, "z", true⟩] =
    [("b", [⟨"b", p, "x", true⟩, ⟨"b", p, "z", true⟩]), ("a", [⟨"a", p, "y", true⟩])] := rfl

end ItemFlow.Rule
