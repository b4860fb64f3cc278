import ItemFlow.Proofs.Rule.Effect
import Mathlib

/-!
# Rules in two stages

Rules may be moved to a following stage as long as the rules of each place keep their order
(`Rule.apply_append`). They do not always keep it, since rules are grouped by the text of their fields:
of two fields that are two ways to write one place, the rules of the one that comes first go before all
rules of the other one.
-/

namespace ItemFlow.Rule

variable {rules others : List Rule}

/-! ## The order of two lists -/

/-- The rules of each place are applied in the same order in two stages as in one. -/
def KeepsOrder (rules others : List Rule) : Prop :=
  ∀ p, (ordered (rules ++ others)).filter (·.place = p) =
    (ordered rules ++ ordered others).filter (·.place = p)

theorem filter_ordered_place (rules : List Rule) (p : List String) :
    (ordered rules).filter (·.place = p) = ordered (rules.filter (·.place = p)) :=
  filter_ordered (fun field => decide (Path.segments field = p)) rules

/-- Rules of one field are applied as they stand. -/
theorem ordered_of_field {field : String} (h : ∀ rule ∈ rules, rule.field = field) :
    ordered rules = rules := by
  have hall : ∀ l : List Rule, (∀ rule ∈ l, rule.field = field) → l.filter (·.field = field) = l :=
    fun l hl => List.filter_eq_self.2 fun rule hrule => decide_eq_true (hl rule hrule)
  rw [← hall (ordered rules) fun rule hrule => h rule (mem_ordered.1 hrule), filter_ordered_field,
    hall rules h]

/-- Lists without a common field are applied one after the other. -/
theorem ordered_append (h : ∀ r ∈ rules, ∀ r' ∈ others, r.field ≠ r'.field) :
    ordered (rules ++ others) = ordered rules ++ ordered others := by
  have hfields : (others.map (·.field)).removeAll (rules.map (·.field)) = others.map (·.field) := by
    refine List.filter_eq_self.2 fun field hfield => ?_
    obtain ⟨r', hr', rfl⟩ := List.mem_map.1 hfield
    have hnot : r'.field ∉ rules.map (·.field) := by
      intro hmem
      obtain ⟨r, hr, hrr'⟩ := List.mem_map.1 hmem
      exact h r hr r' hr' hrr'
    simpa using hnot
  have hrules : ∀ r ∈ rules, others.filter (·.field = r.field) = [] := fun r hr =>
    List.filter_eq_nil_iff.2 fun r' hr' => by simpa using Ne.symm (h r hr r' hr')
  have hothers : ∀ r' ∈ others, rules.filter (·.field = r'.field) = [] := fun r' hr' =>
    List.filter_eq_nil_iff.2 fun r hr => by simpa using h r hr r' hr'
  rw [ordered_eq, ordered_eq, ordered_eq, List.map_append, List.eraseDups_append, hfields,
    List.flatMap_append]
  congr 1
  · refine List.flatMap_congr fun field hfield => ?_
    obtain ⟨r, hr, rfl⟩ := List.mem_map.1 (List.mem_eraseDups.1 hfield)
    rw [List.filter_append, hrules r hr, List.append_nil]
  · refine List.flatMap_congr fun field hfield => ?_
    obtain ⟨r', hr', rfl⟩ := List.mem_map.1 (List.mem_eraseDups.1 hfield)
    rw [List.filter_append, hothers r' hr', List.nil_append]

/-- The order is kept if a field that both lists have is the only way in which they write its place. -/
theorem keepsOrder_of_spelling (h : ∀ r ∈ rules, ∀ r' ∈ others, r.field = r'.field →
    ∀ q ∈ rules ++ others, q.place = r.place → q.field = r.field) : KeepsOrder rules others := by
  intro p
  rw [List.filter_append, filter_ordered_place, filter_ordered_place, filter_ordered_place,
    List.filter_append]
  by_cases hcommon : ∃ r ∈ rules.filter (·.place = p), ∃ r' ∈ others.filter (·.place = p), r.field = r'.field
  · obtain ⟨r, hr, r', hr', hfield⟩ := hcommon
    obtain ⟨hr, hp⟩ := List.mem_filter.1 hr
    have hall : ∀ q ∈ rules ++ others, q.place = p → q.field = r.field := fun q hq hqp =>
      h r hr r' (List.mem_of_mem_filter hr') hfield q hq (hqp.trans (of_decide_eq_true hp).symm)
    have hrules : ∀ q ∈ rules.filter (·.place = p), q.field = r.field := by
      intro q hq
      obtain ⟨hq, hqp⟩ := List.mem_filter.1 hq
      exact hall q (List.mem_append_left _ hq) (of_decide_eq_true hqp)
    have hothers : ∀ q ∈ others.filter (·.place = p), q.field = r.field := by
      intro q hq
      obtain ⟨hq, hqp⟩ := List.mem_filter.1 hq
      exact hall q (List.mem_append_right _ hq) (of_decide_eq_true hqp)
    rw [ordered_of_field (List.forall_mem_append.2 ⟨hrules, hothers⟩), ordered_of_field hrules,
      ordered_of_field hothers]
  · exact ordered_append fun r hr r' hr' hfield => hcommon ⟨r, hr, r', hr', hfield⟩

/-! ## Two stages -/

theorem apply_of_place_eq_nil (h : ∀ rule ∈ rules, rule.place = []) (item : Item) :
    apply rules item = item := by
  have hnone : rules.filter (·.place ≠ []) = [] := List.filter_eq_nil_iff.2 fun rule hrule => by
    simpa using h rule hrule
  rw [← apply_filter_place, hnone]
  rfl

/-- If some rule has no segments, none of them has. -/
theorem Separate.place_eq_nil (hsep : Separate rules) {rule : Rule} (hrule : rule ∈ rules)
    (hnil : rule.place = []) : ∀ r ∈ rules, r.place = [] := by
  intro r hr
  by_contra hne
  have happart := hsep.apart rule hrule r hr fun h => hne (h ▸ hnil)
  rw [hnil] at happart
  exact Path.not_apart_nil happart

theorem apply_append_of_keepsOrder (hsep : Separate (rules ++ others)) (h : KeepsOrder rules others)
    (item : Item) : apply (rules ++ others) item = apply others (apply rules item) := by
  have hrules : Separate rules := hsep.mono fun _ => List.mem_append_left _
  have hothers : Separate others := hsep.mono fun _ => List.mem_append_right _
  by_cases hnil : ∃ rule ∈ rules ++ others, rule.place = []
  · obtain ⟨rule, hrule, hnil⟩ := hnil
    have hall := hsep.place_eq_nil hrule hnil
    obtain ⟨hall₁, hall₂⟩ := List.forall_mem_append.1 hall
    rw [apply_of_place_eq_nil hall, apply_of_place_eq_nil hall₁, apply_of_place_eq_nil hall₂]
  · have hmem : ∀ rule ∈ ordered rules ++ ordered others, rule ∈ rules ++ others := fun rule hrule => by
      simpa [mem_ordered] using hrule
    have hne : ∀ rule ∈ rules ++ others, rule.place ≠ [] := fun rule hrule h => hnil ⟨rule, hrule, h⟩
    have hplaces : ((ordered rules ++ ordered others).map place).eraseDups =
        ((rules ++ others).map place).eraseDups := by
      rw [List.map_append, List.map_append]
      exact List.eraseDups_append_congr (eraseDups_place_ordered rules) (eraseDups_place_ordered others)
    have hworked : ∀ v p,
        worked (ordered (rules ++ others)) v p = worked (ordered rules ++ ordered others) v p := by
      intro v p
      rw [worked, worked, h p]
    refine Item.toJson_injective ?_
    rw [apply_eq_foldl hothers.keys, apply_eq_foldl hrules.keys, ← List.foldl_append,
      toJson_foldl_applyRule (hsep.mono hmem) fun rule hrule => hne rule (hmem rule hrule),
      toJson_apply hsep hne, hplaces]
    simp only [hworked]

/-- Rules may be moved to a following stage if the rules of each place keep their order, as they do if no
field that is in both parts has its place written in another way too. -/
theorem apply_append (hsep : Separate (rules ++ others)) (item : Item) :
    (KeepsOrder rules others → apply (rules ++ others) item = apply others (apply rules item)) ∧
      ((∀ r ∈ rules, ∀ r' ∈ others, r.field = r'.field →
        ∀ q ∈ rules ++ others, q.place = r.place → q.field = r.field) → KeepsOrder rules others) :=
  ⟨fun h => apply_append_of_keepsOrder hsep h item, keepsOrder_of_spelling⟩

/-- A rule for a place, and one for the same place written in another way. -/
def bracketed : List Rule × List Rule :=
  ([⟨"a[b]", patternOf "x", "y", true⟩], [⟨"a.b", patternOf "y", "z", true⟩])

theorem apply_append_bracketed : KeepsOrder bracketed.1 bracketed.2 ∧
    apply (bracketed.1 ++ bracketed.2) ⟨[("a", .obj [("b", .str "x")])]⟩ =
      apply bracketed.2 (apply bracketed.1 ⟨[("a", .obj [("b", .str "x")])]⟩) := by
  have hsep : Separate (bracketed.1 ++ bracketed.2) := ⟨by decide, by decide⟩
  have h := apply_append hsep ⟨[("a", .obj [("b", .str "x")])]⟩
  have horder : KeepsOrder bracketed.1 bracketed.2 := h.2 (by decide)
  exact ⟨horder, h.1 horder⟩

/-! ## Two ways to write a place -/

/-- Two rules for a place that is written in two ways. -/
def twoSpellings : List Rule := [⟨"t", patternOf "a", "b", true⟩, ⟨".t", patternOf "b", "c", true⟩]

/-- A further rule for the place, written in the first way. -/
def furtherRule : List Rule := [⟨"t", patternOf "c", "d", true⟩]

/-- In one stage the further rule goes before the second one; in two stages it goes after it. -/
theorem twoSpellings_split : Separate (twoSpellings ++ furtherRule) ∧
    apply (twoSpellings ++ furtherRule) ⟨[("t", .str "a")]⟩ = ⟨[("t", .str "c")]⟩ ∧
    apply furtherRule (apply twoSpellings ⟨[("t", .str "a")]⟩) = ⟨[("t", .str "d")]⟩ ∧
    apply (twoSpellings ++ furtherRule) ⟨[("t", .str "a")]⟩ ≠
      apply furtherRule (apply twoSpellings ⟨[("t", .str "a")]⟩) := by
  have hone : apply (twoSpellings ++ furtherRule) ⟨[("t", .str "a")]⟩ = ⟨[("t", .str "c")]⟩ := by cbv
  have htwo : apply furtherRule (apply twoSpellings ⟨[("t", .str "a")]⟩) = ⟨[("t", .str "d")]⟩ := by cbv
  refine ⟨⟨by decide, by decide⟩, hone, htwo, ?_⟩
  rw [hone, htwo]
  simp

end ItemFlow.Rule
