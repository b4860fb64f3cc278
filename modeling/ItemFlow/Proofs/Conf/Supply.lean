import ItemFlow.Proofs.Conf.Embedded
import ItemFlow.Proofs.Conf.Outputs
import ItemFlow.Template

/-!
# What a parameter needs of its supply

A parameter with `n` embedded pipes looks at the first `n` outputs that it is offered and at no
others, whether it comes to a value or to an error (`Conf.needs_resolveWith`). If it is offered so
many it lacks none, and only a literal can keep it from having a value. So it is for a template too,
however its declarations are put together (`Template.needs_resolvePieces`).
-/

namespace ItemFlow

namespace Conf

/-! ## Computations that need outputs -/

section

variable {α β : Type} {module : String} {n m : Nat}

/-- The computation needs `n` outputs. If it is offered so many, it comes to the same whatever is
offered after them. It has taken just these if it succeeds, and if it fails a literal is at fault. -/
def Needs (module : String) (x : Resolve α) (n : Nat) : Prop :=
  ∀ outputs more, n ≤ outputs.length → ∃ r rest, x.run outputs = (r, rest) ∧
    x.run (outputs ++ more) = (r, rest ++ more) ∧ (∀ a, r = .ok a → rest = outputs.drop n) ∧
    ∀ e, r = .error e → ∃ location expected found, e = .coercion module location expected found

theorem needs_pure (a : α) : Needs module (pure a) 0 := by
  intro outputs more _
  refine ⟨.ok a, outputs, rfl, rfl, fun _ _ => rfl, ?_⟩
  rintro e ⟨⟩

theorem needs_coercion (location expected found : String) :
    Needs module (throw (.coercion module location expected found) : Resolve α) 0 := by
  intro outputs more _
  refine ⟨.error (.coercion module location expected found), outputs, rfl, rfl, nofun, ?_⟩
  rintro e ⟨⟩
  exact ⟨location, expected, found, rfl⟩

theorem Needs.bind {x : Resolve α} {f : α → Resolve β} (hx : Needs module x n)
    (hf : ∀ a, Needs module (f a) m) : Needs module (x >>= f) (n + m) := by
  intro outputs more hn
  obtain ⟨r, rest, hr, hmore, hok, herror⟩ := hx outputs more (by omega)
  cases r with
  | error e =>
    refine ⟨.error e, rest, run_bind_error hr f, run_bind_error hmore f, nofun, ?_⟩
    rintro e' ⟨⟩
    exact herror e rfl
  | ok a =>
    -- What the first part has left is enough for the second.
    obtain rfl := hok a rfl
    obtain ⟨r', rest', hr', hmore', hok', herror'⟩ :=
      hf a (outputs.drop n) more (by rw [List.length_drop]; omega)
    refine ⟨r', rest', by rw [run_bind_ok hr, hr'], by rw [run_bind_ok hmore, hmore'], ?_, herror'⟩
    intro b hb
    rw [hok' b hb, List.drop_drop]

theorem Needs.map {x : Resolve α} (hx : Needs module x n) (f : α → β) :
    Needs module (x >>= fun a => pure (f a)) n :=
  hx.bind fun a => needs_pure (f a)

/-- An embedded pipe needs one output. -/
theorem needs_sub (item : Item) (location : String) (s : SubPipe) :
    Needs module ((sub s).resolveWith item module location) 1 := by
  intro outputs more hn
  cases outputs with
  | nil => cases hn
  | cons output outputs =>
    refine ⟨.ok (s.reduce output), outputs, rfl, rfl, fun _ _ => rfl, ?_⟩
    rintro e ⟨⟩

end

section

variable (item : Item) (module : String)

mutual

/-- A parameter needs an output for each of its embedded pipes. -/
theorem needs_resolveWith : ∀ (c : Conf) (location : String),
    Needs module (c.resolveWith item module location) c.subPipes.length
  | .literal v coercion, location => by
    unfold resolveWith
    cases coercion.coerce? v with
    | some w => exact needs_pure w
    | none => exact needs_coercion location coercion.tag v.render
  | .reference path default, _ => needs_pure (item.getD path default)
  | .sub s, location => needs_sub item location s
  | .record fields, location => by
    rw [resolveWith]
    exact (needs_resolveFields fields location).map _
  | .list elements, location => by
    rw [resolveWith]
    exact (needs_resolveElements elements location 0).map _

theorem needs_resolveFields : ∀ (fields : List (String × Conf)) (location : String),
    Needs module (resolveFields item module location fields) (fieldsSubPipes fields).length
  | [], _ => needs_pure []
  | (key, c) :: rest, location => by
    rw [fieldsSubPipes, List.length_append, resolveFields]
    refine (needs_resolveWith c (keyLocation location key)).bind fun v => ?_
    exact (needs_resolveFields rest location).map _

theorem needs_resolveElements : ∀ (elements : List Conf) (location : String) (i : Nat),
    Needs module (resolveElements item module location i elements) (elementsSubPipes elements).length
  | [], _, _ => needs_pure []
  | c :: rest, location, i => by
    rw [elementsSubPipes, List.length_append, resolveElements]
    refine (needs_resolveWith c (indexLocation location i)).bind fun v => ?_
    exact (needs_resolveElements rest location (i + 1)).map _

end

end

end Conf

/-! ## Templates -/

namespace Template

variable (t : Template) (item : Item)

/-- A template needs an output for each of its embedded pipes. -/
theorem needs_resolvePieces :
    Conf.Needs t.options.module (t.resolvePieces item) t.subPipes.length := by
  unfold resolvePieces subPipes rules
  cases t.definitions with
  | list rules =>
    rw [← Conf.elementsSubPipes_eq]
    exact (Conf.needs_resolveElements item _ rules _ 0).map _
  | single conf =>
    rw [List.flatMap_singleton]
    exact (Conf.needs_resolveWith item _ conf _).map _

/-- With fewer outputs it has no value. -/
theorem length_le_of_resolvePieces {outputs rest : List (List Item)} {pieces : Pieces}
    (h : (t.resolvePieces item).run outputs = (.ok pieces, rest)) :
    t.subPipes.length ≤ outputs.length := by
  unfold resolvePieces at h
  unfold subPipes rules
  cases hd : t.definitions with
  | list rules =>
    rw [hd] at h
    obtain ⟨values, taken, hvalues, -⟩ := run_bind_eq_ok.1 h
    rw [← Conf.elementsSubPipes_eq]
    have haligned := Conf.aligned_slots (Conf.elementsSubPipes rules) outputs
    exact ((Conf.takes_resolveElements item _ rules _ 0 haligned values taken).1 hvalues).1
  | single conf =>
    rw [hd] at h
    obtain ⟨value, taken, hvalue, -⟩ := run_bind_eq_ok.1 h
    rw [List.flatMap_singleton]
    have haligned := Conf.aligned_slots conf.subPipes outputs
    exact ((Conf.takes_resolveWith item _ conf _ haligned value taken).1 hvalue).1

end Template

end ItemFlow
