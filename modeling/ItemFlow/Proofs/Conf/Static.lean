import ItemFlow.Conf
import ItemFlow.Proofs.Sequencing
import Mathlib.Data.List.Basic

/-!
# Parameters that are the same for all items

A parameter of literals only comes to the same for every item and for all outputs, and takes none of
them (`Conf.invariable_resolveWith`). What goes wrong in a parameter names a place within the
parameter's own location (`Conf.resolveWith_error`), and places in different elements of a list have
different locations (`Conf.indexLocation_inj`).
-/

namespace ItemFlow.Conf

/-! ## What does not depend on the item -/

section

variable {α β : Type}

/-- The computation takes no output and comes to the same for every item and for all outputs. Only a
literal can make it fail. -/
def Invariable (x : Item → Resolve α) : Prop :=
  ∃ r, (∀ item outputs, (x item).run outputs = (r, outputs)) ∧
    ∀ e, r = .error e → ∃ module location expected found, e = .coercion module location expected found

theorem invariable_pure (a : α) : Invariable fun _ => pure a := by
  refine ⟨.ok a, fun _ _ => rfl, ?_⟩
  intro e h
  cases h

theorem invariable_coercion (module location expected found : String) :
    Invariable fun _ => (throw (.coercion module location expected found) : Resolve α) := by
  refine ⟨.error (.coercion module location expected found), fun _ _ => rfl, ?_⟩
  rintro e ⟨⟩
  exact ⟨module, location, expected, found, rfl⟩

theorem Invariable.bind {x : Item → Resolve α} {f : Item → α → Resolve β} (hx : Invariable x)
    (hf : ∀ a, Invariable fun item => f item a) : Invariable fun item => x item >>= f item := by
  obtain ⟨r, hr, herror⟩ := hx
  cases r with
  | error e =>
    refine ⟨.error e, fun item outputs => run_bind_error (hr item outputs) _, ?_⟩
    rintro e' ⟨⟩
    exact herror e rfl
  | ok a =>
    obtain ⟨r', hr', herror'⟩ := hf a
    refine ⟨r', fun item outputs => ?_, herror'⟩
    rw [run_bind_ok (hr item outputs), hr' item outputs]

end

mutual

/-- A parameter of literals is the same for all items. -/
theorem invariable_resolveWith (module : String) : ∀ (c : Conf) (location : String),
    c.isStatic = true → Invariable fun item => c.resolveWith item module location
  | .literal v coercion, location, _ => by
    unfold resolveWith
    cases coercion.coerce? v with
    | some w => exact invariable_pure w
    | none => exact invariable_coercion module location coercion.tag v.render
  | .record fields, location, h => by
    unfold resolveWith
    exact (invariable_resolveFields module fields location h).bind fun values => invariable_pure _
  | .list elements, location, h => by
    unfold resolveWith
    exact (invariable_resolveElements module elements location 0 h).bind fun values =>
      invariable_pure _

theorem invariable_resolveFields (module : String) : ∀ (fields : List (String × Conf))
    (location : String), fieldsStatic fields = true →
    Invariable fun item => resolveFields item module location fields
  | [], _, _ => invariable_pure []
  | (key, c) :: rest, location, h => by
    obtain ⟨hc, hrest⟩ := Bool.and_eq_true_iff.1 h
    unfold resolveFields
    refine (invariable_resolveWith module c (keyLocation location key) hc).bind fun v => ?_
    exact (invariable_resolveFields module rest location hrest).bind fun vs => invariable_pure _

theorem invariable_resolveElements (module : String) : ∀ (elements : List Conf) (location : String)
    (i : Nat), elementsStatic elements = true →
    Invariable fun item => resolveElements item module location i elements
  | [], _, _, _ => invariable_pure []
  | c :: rest, location, i, h => by
    obtain ⟨hc, hrest⟩ := Bool.and_eq_true_iff.1 h
    unfold resolveElements
    refine (invariable_resolveWith module c (indexLocation location i) hc).bind fun v => ?_
    exact (invariable_resolveElements module rest location (i + 1) hrest).bind fun vs =>
      invariable_pure _

end

mutual

/-- A parameter that is the same for all items embeds no pipe. -/
theorem subPipes_of_static : ∀ {c : Conf}, c.isStatic = true → c.subPipes = []
  | .literal .., _ => rfl
  | .record _, h => fieldsSubPipes_of_static h
  | .list _, h => elementsSubPipes_of_static h

theorem fieldsSubPipes_of_static : ∀ {fields : List (String × Conf)},
    fieldsStatic fields = true → fieldsSubPipes fields = []
  | [], _ => rfl
  | (_, c) :: rest, h => by
    obtain ⟨hc, hrest⟩ := Bool.and_eq_true_iff.1 h
    rw [fieldsSubPipes, subPipes_of_static hc, fieldsSubPipes_of_static hrest, List.nil_append]

theorem elementsSubPipes_of_static : ∀ {elements : List Conf},
    elementsStatic elements = true → elementsSubPipes elements = []
  | [], _ => rfl
  | c :: rest, h => by
    obtain ⟨hc, hrest⟩ := Bool.and_eq_true_iff.1 h
    rw [elementsSubPipes, subPipes_of_static hc, elementsSubPipes_of_static hrest, List.nil_append]

end

/-! ## Where an error is -/

/-- A location within another one. -/
def Within (location inner : String) : Prop := ∃ path, inner = location ++ path

theorem Within.trans {a b c : String} (h : Within a b) (h' : Within b c) : Within a c := by
  obtain ⟨path, rfl⟩ := h
  obtain ⟨path', rfl⟩ := h'
  exact ⟨path ++ path', String.append_assoc⟩

theorem within_self (location : String) : Within location location := ⟨"", by simp⟩

theorem within_indexLocation (location : String) (i : Nat) : Within location (indexLocation location i) :=
  ⟨"[" ++ toString i ++ "]", by simp only [indexLocation, String.append_assoc]⟩

theorem within_keyLocation (location key : String) : Within location (keyLocation location key) := by
  unfold keyLocation
  split
  · rename_i h
    rw [String.isEmpty_iff.1 h]
    exact ⟨key, by simp⟩
  · exact ⟨"." ++ key, by rw [String.append_assoc]⟩

/-- What can go wrong when a parameter is resolved: a literal within its location cannot be brought
into its form, or an embedded pipe there has no output. -/
inductive Fails (module location : String) : Error → Prop where
  | coercion {inner : String} (within : Within location inner) (expected found : String) :
      Fails module location (.coercion module inner expected found)
  | notEvaluated {inner : String} (within : Within location inner) (pipe : String) :
      Fails module location (.resolution module inner (.notEvaluated pipe))

theorem Fails.widen {module location inner : String} {e : Error} (h : Fails module inner e)
    (hw : Within location inner) : Fails module location e := by
  cases h with
  | coercion within expected found => exact .coercion (hw.trans within) expected found
  | notEvaluated within pipe => exact .notEvaluated (hw.trans within) pipe

/-- What can go wrong with a parameter is not fatal. -/
theorem Fails.not_isFatal {module location : String} {e : Error} (h : Fails module location e) :
    e.isFatal = false := by
  cases h <;> rfl

section

variable {item : Item} {module : String} {outputs rest : List (List Item)} {e : Error}

mutual

/-- An error names a place within the location of the parameter. -/
theorem resolveWith_error : ∀ {c : Conf} {location : String} {outputs : List (List Item)},
    (c.resolveWith item module location).run outputs = (.error e, rest) → Fails module location e
  | .literal v coercion, location, _, h => by
    unfold resolveWith at h
    split at h
    · cases h
    · cases h
      exact .coercion (within_self location) _ _
  | .reference .., _, _, h => by cases h
  | .sub s, location, [], h => by
    cases h
    exact .notEvaluated (within_self location) _
  | .sub s, _, output :: _, h => by cases h
  | .record fields, location, outputs, h => by
    unfold resolveWith at h
    rcases run_bind_eq_error.1 h with h | ⟨values, taken, -, h⟩
    · exact resolveFields_error h
    · cases h
  | .list elements, location, outputs, h => by
    unfold resolveWith at h
    rcases run_bind_eq_error.1 h with h | ⟨values, taken, -, h⟩
    · exact resolveElements_error h
    · cases h

theorem resolveFields_error : ∀ {fields : List (String × Conf)} {location : String}
    {outputs : List (List Item)}, (resolveFields item module location fields).run outputs =
      (.error e, rest) → Fails module location e
  | [], _, _, h => by cases h
  | (key, c) :: fields, location, outputs, h => by
    unfold resolveFields at h
    rcases run_bind_eq_error.1 h with h | ⟨v, taken, -, h⟩
    · exact (resolveWith_error h).widen (within_keyLocation location key)
    · rcases run_bind_eq_error.1 h with h | ⟨vs, taken', -, h⟩
      · exact resolveFields_error h
      · cases h

theorem resolveElements_error : ∀ {elements : List Conf} {location : String} {i : Nat}
    {outputs : List (List Item)}, (resolveElements item module location i elements).run outputs =
      (.error e, rest) → Fails module location e
  | [], _, _, _, h => by cases h
  | c :: elements, location, i, outputs, h => by
    unfold resolveElements at h
    rcases run_bind_eq_error.1 h with h | ⟨v, taken, -, h⟩
    · exact (resolveWith_error h).widen (within_indexLocation location i)
    · rcases run_bind_eq_error.1 h with h | ⟨vs, taken', -, h⟩
      · exact resolveElements_error h
      · cases h

end

/-! ## Elements -/

/-- The element that fails first makes a list fail. -/
theorem exists_of_resolveElements_error {elements : List Conf} {location : String} {i : Nat}
    (h : (resolveElements item module location i elements).run outputs = (.error e, rest)) :
    ∃ (j : Nat) (c : Conf) (taken : List (List Item)), elements[j]? = some c ∧
      (c.resolveWith item module (indexLocation location (i + j))).run taken = (.error e, rest) := by
  induction elements generalizing i outputs with
  | nil => cases h
  | cons c elements ih =>
    unfold resolveElements at h
    rcases run_bind_eq_error.1 h with h | ⟨v, taken, -, h⟩
    · exact ⟨0, c, outputs, rfl, h⟩
    · rcases run_bind_eq_error.1 h with h | ⟨vs, taken', -, h⟩
      · obtain ⟨j, c', taken'', hc, h⟩ := ih h
        refine ⟨j + 1, c', taken'', hc, ?_⟩
        rwa [Nat.add_comm j 1, ← Nat.add_assoc]
      · cases h

/-- Each value of a list is that of the element in its place. -/
theorem getElem?_of_resolveElements_ok {elements : List Conf} {location : String} {i : Nat}
    {values : List Json}
    (h : (resolveElements item module location i elements).run outputs = (.ok values, rest)) (j : Nat) :
    (values[j]? = none ∧ elements[j]? = none) ∨ ∃ c v taken left, elements[j]? = some c ∧
      values[j]? = some v ∧
      (c.resolveWith item module (indexLocation location (i + j))).run taken = (.ok v, left) := by
  induction elements generalizing i j outputs values with
  | nil =>
    cases h
    exact .inl ⟨rfl, rfl⟩
  | cons c elements ih =>
    unfold resolveElements at h
    obtain ⟨v, taken, hv, h⟩ := run_bind_eq_ok.1 h
    obtain ⟨vs, taken', hvs, h⟩ := run_bind_eq_ok.1 h
    cases h
    cases j with
    | zero => exact .inr ⟨c, v, outputs, taken, rfl, rfl, hv⟩
    | succ j =>
      have := ih hvs j
      rwa [Nat.add_assoc, Nat.add_comm 1 j] at this

end

/-! ## Locations of elements -/

theorem takeWhile_digits (i : Nat) (rest : List Char) :
    ((toString i).toList ++ ']' :: rest).takeWhile Char.isDigit = Nat.toDigits 10 i := by
  have hdigits : ∀ c ∈ Nat.toDigits 10 i, c.isDigit = true :=
    fun c hc => Nat.isDigit_of_mem_toDigits (by decide) (by decide) hc
  rw [Nat.toString_eq_repr, Nat.toList_repr, List.takeWhile_append_of_pos hdigits,
    List.takeWhile_cons_of_neg (by decide), List.append_nil]

/-- Places within different elements have different locations. -/
theorem indexLocation_inj {location inner : String} {i j : Nat}
    (hi : Within (indexLocation location i) inner) (hj : Within (indexLocation location j) inner) :
    i = j := by
  obtain ⟨path, rfl⟩ := hi
  obtain ⟨path', h⟩ := hj
  have h := congrArg String.toList h
  have hbracket : "]".toList = [']'] := by decide
  simp only [indexLocation, String.toList_append, List.append_assoc, List.append_cancel_left_eq,
    hbracket, List.singleton_append] at h
  -- What follows the opening bracket starts with the digits of the index, and no more digits.
  have h := congrArg (List.takeWhile Char.isDigit) h
  rw [takeWhile_digits, takeWhile_digits] at h
  have h := congrArg (fun digits => Nat.ofDigitChars 10 digits 0) h
  simpa using h

end ItemFlow.Conf
