import ItemFlow.Proofs.Requests
import Mathlib

/-!
# Stages in batches

A pipeline takes one item at a time through all its stages, and all of them start before the first
item is pulled. Where it succeeds, the same comes of running a first part of its stages on all the
items and the others on what that gives, or each stage on all the items in its turn
(`Pipeline.runOn_append`). Where it fails, the error need not be the same: in batches, an item that
comes late fails in an early stage before any item has met a later one.
-/

namespace ItemFlow

namespace Passage

variable {call : Call} {before after : List Stage}

/-- What comes out of a first part of the stages has its fate in the others. -/
theorem fate_append (item : Item) : fate call (before ++ after) item = do
    match ← fate call before item with
    | some reached => fate call after reached
    | none => return none := by
  induction before generalizing item with
  | nil => rfl
  | cons s rest ih =>
    rw [List.cons_append, fate, fate]
    cases s.outcome call item with
    | ok out => exact ih out
    | error e =>
      dsimp only
      split <;> rfl

/-- The first of some items that come to no error is dropped or comes out ahead of the others. -/
theorem results_cons_eq_ok {fate : Item → Except Error (Option Item)} {item : Item}
    {items outs : List Item} : results fate (item :: items) = outs.map .ok ↔
      ∃ out rest, fate item = .ok out ∧ results fate items = rest.map .ok ∧ outs = out.toList ++ rest := by
  rw [results]
  constructor
  · intro h
    cases hf : fate item with
    | error e => rw [hf] at h; cases outs <;> cases h
    | ok out =>
      rw [hf] at h
      cases out with
      | none => exact ⟨none, outs, rfl, h, rfl⟩
      | some out =>
        cases outs with
        | nil => cases h
        | cons first rest =>
          obtain ⟨hfirst, hrest⟩ := List.cons_eq_cons.1 h
          cases hfirst
          exact ⟨some out, rest, rfl, hrest, rfl⟩
  · rintro ⟨out, rest, hout, hrest, rfl⟩
    rw [hout]
    cases out with
    | none => exact hrest
    | some out => exact congrArg (.ok out :: ·) hrest

/-- Items come through all stages without an error just if they come through the first part of the
stages, and what comes out of that through the others. -/
theorem results_append_eq_ok {items outs : List Item} :
    results (fate call (before ++ after)) items = outs.map .ok ↔
      ∃ mid : List Item, results (fate call before) items = mid.map .ok ∧
        results (fate call after) mid = outs.map .ok := by
  induction items generalizing outs with
  | nil => simp [results]
  | cons item items ih =>
    rw [results_cons_eq_ok]
    constructor
    · rintro ⟨out, rest, hout, hrest, rfl⟩
      obtain ⟨mid, hmid, hafter⟩ := ih.1 hrest
      rw [fate_append] at hout
      obtain ⟨reached, hreached, hout⟩ := Except.of_bind_ok hout
      refine ⟨reached.toList ++ mid, results_cons_eq_ok.2 ⟨reached, mid, hreached, hmid, rfl⟩, ?_⟩
      cases reached with
      | none => cases hout; exact hafter
      | some reached => exact results_cons_eq_ok.2 ⟨out, rest, hout, hafter, rfl⟩
    · rintro ⟨mid, hmid, hafter⟩
      obtain ⟨reached, mid, hreached, hbefore, rfl⟩ := results_cons_eq_ok.1 hmid
      cases reached with
      | none =>
        have hdropped : fate call (before ++ after) item = .ok none := by rw [fate_append, hreached]; rfl
        exact ⟨none, outs, hdropped, ih.2 ⟨mid, hbefore, hafter⟩, rfl⟩
      | some reached =>
        obtain ⟨out, rest, hout, hrest, rfl⟩ := results_cons_eq_ok.1 hafter
        have hboth : fate call (before ++ after) item = .ok out := by rw [fate_append, hreached]; exact hout
        exact ⟨out, rest, hboth, ih.2 ⟨mid, hbefore, hrest⟩, rfl⟩

/-- No stages leave items as they are. -/
theorem results_no_stages (items : List Item) : results (fate call []) items = items.map .ok := by
  induction items with
  | nil => rfl
  | cons item items ih => rw [results, ih]; rfl

end Passage

namespace Pipeline

open Passage

/-- What comes of running each stage on all the items that the stage before it has given. -/
def inBatches (ctx : Context) (way : Schedule) (stages : List Stage) (items : List Item) :
    Except Error (List Item) :=
  stages.foldlM (fun items s => ((⟨"", [s]⟩ : Pipeline).runOn ctx items way).run.value) items

variable {ctx : Context} {way : Schedule}

/-- Two rows of stages may be run one after the other, under any names. -/
theorem runOn_split_eq_ok (before after : List Stage) (name first second : String)
    {items outs : List Item} :
    ((⟨name, before ++ after⟩ : Pipeline).runOn ctx items way).run.value = .ok outs ↔
      ∃ mid, ((⟨first, before⟩ : Pipeline).runOn ctx items way).run.value = .ok mid ∧
        ((⟨second, after⟩ : Pipeline).runOn ctx mid way).run.value = .ok outs := by
  have hstarts : (⟨name, before ++ after⟩ : Pipeline).Starts ctx ↔
      (⟨first, before⟩ : Pipeline).Starts ctx ∧ (⟨second, after⟩ : Pipeline).Starts ctx :=
    List.forall_mem_append
  simp only [runOn_eq_ok, hstarts, results_append_eq_ok]
  constructor
  · rintro ⟨⟨hfirst, hsecond⟩, mid, hmid, hafter⟩
    exact ⟨mid, ⟨hfirst, hmid⟩, hsecond, hafter⟩
  · rintro ⟨mid, ⟨hfirst, hmid⟩, hsecond, hafter⟩
    exact ⟨⟨hfirst, hsecond⟩, mid, hmid, hafter⟩

/-- So each stage may be run on a batch of its own. -/
theorem inBatches_eq_ok {name : String} {stages : List Stage} {items outs : List Item} :
    inBatches ctx way stages items = .ok outs ↔
      ((⟨name, stages⟩ : Pipeline).runOn ctx items way).run.value = .ok outs := by
  induction stages generalizing items with
  | nil =>
    rw [runOn_eq_ok, results_no_stages]
    constructor
    · intro h
      cases h
      exact ⟨List.forall_mem_nil _, rfl⟩
    · rintro ⟨-, h⟩
      rw [(List.map_injective_iff.2 fun _ _ => Except.ok.inj) h]
      rfl
  | cons s rest ih =>
    rw [inBatches, List.foldlM_cons]
    refine Iff.trans ?_ (runOn_split_eq_ok [s] rest name "" name).symm
    constructor
    · intro h
      obtain ⟨mid, hmid, hrest⟩ := Except.of_bind_ok h
      exact ⟨mid, hmid, ih.1 hrest⟩
    · rintro ⟨mid, hmid, hrest⟩
      rw [hmid]
      exact ih.2 hrest

/-- A pipeline succeeds on items just if the first part of its stages does, and the others on what
that gives; and just if each of its stages does, run on all the items that the one before it has
given. Either way the same items come out. -/
theorem runOn_append (before after : List Stage) (ctx : Context) (way : Schedule)
    (items outs : List Item) (name first second : String) :
    (((⟨name, before ++ after⟩ : Pipeline).runOn ctx items way).run.value = .ok outs ↔
      ∃ mid, ((⟨first, before⟩ : Pipeline).runOn ctx items way).run.value = .ok mid ∧
        ((⟨second, after⟩ : Pipeline).runOn ctx mid way).run.value = .ok outs) ∧
    (((⟨name, before ++ after⟩ : Pipeline).runOn ctx items way).run.value = .ok outs ↔
      inBatches ctx way (before ++ after) items = .ok outs) :=
  ⟨runOn_split_eq_ok before after name first second, inBatches_eq_ok.symm⟩

/-- Of an item that only the second stage refuses and one that the first stage fails with, the
pipeline meets the first error and batches meet the second one. -/
example :
    let stages := [{ Stage.skipping with policy := .abort }, { Stage.refusing with policy := .abort }]
    let items := [⟨[("t", .str "o"), ("n", .str "-")]⟩, ⟨[("bad", .null)]⟩]
    ((⟨"", stages⟩ : Pipeline).runOn {} items .atOnce).run.value =
        .error (.coercion "regex" "RULE[0].match" "num" "\"x\"") ∧
      inBatches {} .atOnce stages items = .error (.resolution "picky" "conf" (.reported "bad item")) := by
  constructor <;> cbv

end Pipeline

end ItemFlow
