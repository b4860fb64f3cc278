import ItemFlow.Proofs.Requests
import Mathlib

/-!
# Failure of a pipeline

An item makes a row of stages fail if it reaches a stage that comes to an error which the policy of
that stage does not skip (`Passage.Raises`). The first such item of a source decides
(`Passage.FirstFailure`): its error is the last result, there is no other error among the results,
and the stages after the one that failed hand it on as it is, whatever their policies are
(`Pipeline.error_is_last`).
-/

namespace ItemFlow

namespace Passage

/-! ## The error of an item -/

/-- An item makes a row of stages fail with an error: the stages before some stage hand the item on,
and that stage comes to the error and does not skip the item. -/
def Raises (call : Call) (stages : List Stage) (item : Item) (e : Error) : Prop :=
  ∃ before s after reached, stages = before ++ s :: after ∧
    before.foldlM (fun item (s : Stage) => s.outcome call item) item = .ok reached ∧
    s.outcome call reached = .error e ∧ s.policy.ends e = true

/-- The first item of a source that makes a row of stages fail does so with an error. -/
def FirstFailure (call : Call) (stages : List Stage) (source : Stream'.Seq Item) (e : Error) : Prop :=
  ∃ i item, source.get? i = some item ∧ Raises call stages item e ∧
    ∀ j < i, ∀ earlier, source.get? j = some earlier → ∀ e', ¬ Raises call stages earlier e'

variable {call : Call} {stages : List Stage} {item : Item} {e : Error}

/-- What the first stage hands on is left to the stages after it. -/
theorem raises_cons_of_ok {s : Stage} {out : Item} (h : s.outcome call item = .ok out) :
    Raises call (s :: stages) item e ↔ Raises call stages out e := by
  constructor
  · rintro ⟨before, s', after, reached, hsplit, hreached, hs'⟩
    cases before with
    | nil =>
      obtain ⟨rfl, -⟩ := List.cons_eq_cons.1 hsplit
      cases hreached
      rw [h] at hs'
      cases hs'.1
    | cons first before =>
      obtain ⟨rfl, htail⟩ := List.cons_eq_cons.1 hsplit
      rw [List.foldlM_cons, h] at hreached
      exact ⟨before, s', after, reached, htail, hreached, hs'⟩
  · rintro ⟨before, s', after, reached, hsplit, hreached, hs'⟩
    refine ⟨s :: before, s', after, reached, congrArg (s :: ·) hsplit, ?_, hs'⟩
    rw [List.foldlM_cons, h]
    exact hreached

/-- An item that the first stage does not hand on reaches no other one. -/
theorem raises_cons_of_error {s : Stage} {e' : Error} (h : s.outcome call item = .error e') :
    Raises call (s :: stages) item e ↔ e' = e ∧ s.policy.ends e = true := by
  constructor
  · rintro ⟨before, s', after, reached, hsplit, hreached, hs', hends⟩
    cases before with
    | nil =>
      obtain ⟨rfl, -⟩ := List.cons_eq_cons.1 hsplit
      cases hreached
      rw [h] at hs'
      cases hs'
      exact ⟨rfl, hends⟩
    | cons first before =>
      obtain ⟨rfl, -⟩ := List.cons_eq_cons.1 hsplit
      rw [List.foldlM_cons, h] at hreached
      cases hreached
  · rintro ⟨rfl, hends⟩
    exact ⟨[], s, stages, item, rfl, rfl, h, hends⟩

/-- An error ends the flow just if the item makes the stages fail with it. -/
theorem fate_eq_error_iff : fate call stages item = .error e ↔ Raises call stages item e := by
  induction stages generalizing item with
  | nil => simp [fate, Raises]
  | cons s rest ih =>
    cases ho : s.outcome call item with
    | ok out => rw [raises_cons_of_ok ho, ← ih, fate, ho]
    | error e' =>
      have hfate : fate call (s :: rest) item = if s.policy.ends e' then .error e' else .ok none := by
        rw [fate, ho]
      rw [raises_cons_of_error ho, hfate]
      by_cases hee : e' = e
      · subst hee
        split <;> simp_all
      · split <;> simp [hee]

/-! ## The first failure -/

/-- No error ends the results of items in a row just if none of them makes the stages fail. -/
theorem broken_eq_false_iff {items : List Item} :
    broken (fate call stages) items = false ↔ ∀ item ∈ items, ∀ e, ¬ Raises call stages item e := by
  simp only [broken, List.any_eq_false, ← fate_eq_error_iff]
  refine forall₂_congr fun item _ => ?_
  cases fate call stages item <;> simp [Except.toBool]

/-- One item more of a source. -/
theorem take_succ_of_get? {source : Stream'.Seq Item} {i : Nat} (h : source.get? i = some item) :
    source.take (i + 1) = source.take i ++ [item] := by
  induction i generalizing source with
  | zero =>
    cases source with
    | nil => cases h
    | cons first source => cases h; rfl
  | succ i ih =>
    cases source with
    | nil => cases h
    | cons first source =>
      rw [Stream'.Seq.take_succ_cons, ih h, Stream'.Seq.take_succ_cons, List.cons_append]

/-- Beginnings of a source come to the error of the first failure and to no other one. -/
theorem exists_error_mem_iff {source : Stream'.Seq Item} :
    (∃ reach, .error e ∈ results (fate call stages) (source.take reach)) ↔
      FirstFailure call stages source e := by
  constructor
  · rintro ⟨reach, he⟩
    obtain ⟨before, item, after, hsplit, hbefore, hf, -⟩ := exists_of_error_mem _ he
    have hget : ∀ j ≤ before.length, source.get? j = (before ++ item :: after)[j]? := by
      intro j hj
      have hlength := congrArg List.length hsplit
      have hreach := source.length_take_le (n := reach)
      rw [List.length_append, List.length_cons] at hlength
      rw [← hsplit, Stream'.Seq.getElem?_take, if_pos (by omega)]
    refine ⟨before.length, item, by rw [hget _ le_rfl]; simp, fate_eq_error_iff.1 hf, ?_⟩
    intro j hj earlier hearlier
    rw [hget j hj.le, List.getElem?_append_left hj] at hearlier
    exact broken_eq_false_iff.1 hbefore earlier (List.mem_of_getElem? hearlier)
  · rintro ⟨i, item, hitem, hraises, hearlier⟩
    have hbefore : broken (fate call stages) (source.take i) = false := by
      rw [broken_eq_false_iff]
      intro earlier hmem
      obtain ⟨j, hj⟩ := List.getElem?_of_mem hmem
      rw [Stream'.Seq.getElem?_take] at hj
      split at hj
      · exact hearlier j ‹_› earlier hj
      · cases hj
    refine ⟨i + 1, ?_⟩
    rw [take_succ_of_get? hitem, results_append, hbefore, results, fate_eq_error_iff.2 hraises]
    simp

end Passage

/-! ## The error of a pipeline -/

namespace Pipeline

open Passage

/-- If every stage of a pipeline starts, an error among its results is the last one, it is that of
the first failure, and however many more results are asked for there are none. The first failure
is among the results if enough of them are asked for. A whole run gives all the results if none of
them is an error, and else the error. -/
theorem error_is_last (p : Pipeline) (ctx : Context) (way : Schedule) (source : Stream'.Seq Item)
    (h : p.Starts ctx) :
    (∀ requests t e, p.Answers ctx way source requests t → .error e ∈ t.value →
      (∃ outs : List Item, t.value = outs.map .ok ++ [.error e]) ∧
      (∀ more, p.Answers ctx way source (requests + more) t) ∧
      FirstFailure (way.call ctx) p.stages source e) ∧
    (∀ e, FirstFailure (way.call ctx) p.stages source e →
      ∃ enough t, .error e ∈ t.value ∧ ∀ more, p.Answers ctx way source (enough + more) t) ∧
    ∀ items requests, items.length ≤ requests → ∃ t, p.ask ctx items requests way = .ok t ∧
      (∀ outs, (p.runOn ctx items way).run.value = .ok outs ↔ t.value = outs.map .ok) ∧
      ∀ e, (p.runOn ctx items way).run.value = .error e ↔ .error e ∈ t.value := by
  refine ⟨?_, ?_, ?_⟩
  · rintro requests t e ⟨reach, hanswers⟩ he
    have hask := hanswers 0
    have hmore := answers_of_error hask he
    rw [ask_of_starts h] at hask
    cases hask
    obtain ⟨outs, houts⟩ := results_of_error_mem _ (List.mem_of_mem_take he)
    refine ⟨⟨outs, ?_⟩, hmore, exists_error_mem_iff.1 ⟨reach, List.mem_of_mem_take he⟩⟩
    exact (List.take_of_length_le (length_le_of_error_mem _ he)).trans houts
  · intro e hfirst
    obtain ⟨reach, he⟩ := exists_error_mem_iff.2 hfirst
    have hask := ask_of_starts h (source.take reach)
      (results (fate (way.call ctx) p.stages) (source.take reach)).length way
    rw [List.take_length] at hask
    exact ⟨_, _, he, answers_of_error hask he⟩
  · intro items requests hlength
    refine ⟨_, ask_of_starts h items requests way, ?_⟩
    rw [List.take_of_length_le ((length_results_le _ items).trans hlength)]
    exact ⟨fun outs => runOn_eq_ok.trans (and_iff_right h), fun e => runOn_eq_error h⟩

/-- A stage whose pipe may fail, and one that would skip the items on which its own pipe does. -/
def failsFirst : Pipeline := ⟨"fails first", [{ Stage.skipping with policy := .abort }, Stage.skipping]⟩

/-- An item, another one on which the pipe fails, and then the first one without end. -/
def spoiled : Stream'.Seq Item :=
  .cons ⟨[("t", .str "oo"), ("n", .str "-")]⟩ (.cons ⟨[("bad", .null)]⟩
    (.ofStream (.const ⟨[("t", .str "oo"), ("n", .str "-")]⟩)))

/-- What two requests to the pipeline come to. -/
def failsFirst.answer : Traced (List Result) :=
  ⟨[.pull 0, .call "picky" [⟨[("t", .str "oo"), ("n", .str "-")]⟩],
    .call "picky" [⟨[("t", .str "-o"), ("n", .str "-")]⟩], .out 0,
    .pull 1, .call "picky" [⟨[("bad", .null)]⟩], .out 1],
  [.ok ⟨[("t", .str "--"), ("n", .str "-")]⟩, .error (.resolution "picky" "conf" (.reported "bad item"))]⟩

/-- The second item of the source is the first failure. More requests come to nothing more, and a
whole run on three items fails with the error of that item. -/
theorem error_is_last_spoiled : failsFirst.Starts {} ∧
    (∀ more, failsFirst.Answers {} .suspending spoiled (2 + more) failsFirst.answer) ∧
    FirstFailure (.waited {}) failsFirst.stages spoiled
      (.resolution "picky" "conf" (.reported "bad item")) ∧
    (failsFirst.runOn {} (spoiled.take 3) .suspending).run.value =
      .error (.resolution "picky" "conf" (.reported "bad item")) := by
  have hstarts : failsFirst.Starts {} := by
    intro s hs
    rcases List.mem_pair.1 hs with rfl | rfl <;> exact ⟨_, rfl⟩
  obtain ⟨hlast, -, hwhole⟩ := error_is_last failsFirst {} .suspending spoiled hstarts
  have herror : .error (.resolution "picky" "conf" (.reported "bad item")) ∈ failsFirst.answer.value := by
    simp [failsFirst.answer]
  have htwo : failsFirst.ask {} (spoiled.take 2) 2 .suspending = .ok failsFirst.answer := by cbv
  have hthree : failsFirst.ask {} (spoiled.take 3) 3 .suspending = .ok failsFirst.answer := by cbv
  obtain ⟨-, hmore, hfirst⟩ := hlast 2 _ _ (answers_of_length htwo le_rfl) herror
  obtain ⟨t, ht, -, hrun⟩ := hwhole (spoiled.take 3) 3 spoiled.length_take_le
  cases hthree.symm.trans ht
  exact ⟨hstarts, hmore, hfirst, (hrun _).2 herror⟩

end Pipeline

end ItemFlow
