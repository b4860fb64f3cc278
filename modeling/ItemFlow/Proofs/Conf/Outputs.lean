import ItemFlow.Conf
import ItemFlow.Proofs.Fields
import ItemFlow.Proofs.Sequencing

/-!
# Which outputs a parameter takes

Collecting the embedded pipes of a parameter and taking their outputs are two walks over the same
declaration. They go the same way: a parameter with `n` embedded pipes takes the first `n` outputs,
and its value is the declaration with the `k`-th output, reduced by the `k`-th pipe, in the place of
the `k`-th pipe (`Conf.resolveWith_takes`).
-/

namespace ItemFlow.Conf

/-! ## The value, by the places of the embedded pipes -/

/-- What each embedded pipe makes of its output, by its place among them. -/
def slots (subs : List SubPipe) (outputs : List (List Item)) (i : Nat) : Option Json :=
  (subs[i]?).bind fun s => (outputs[i]?).map s.reduce

mutual

/-- The value of a parameter, if it has one: what stands in the slots takes the place of the
embedded pipes, the first of which is in slot `k`. -/
def valueAt (item : Item) (slot : Nat → Option Json) (k : Nat) : Conf → Option Json
  | .literal v coercion => coercion.coerce? v
  | .reference path default => some (item.getD path default)
  | .sub _ => slot k
  | .record fields => do return .obj (Fields.lastValues (← fieldsAt item slot k fields))
  | .list elements => do return .arr (← elementsAt item slot k elements)

/-- The values of the fields of a record, in order. -/
def fieldsAt (item : Item) (slot : Nat → Option Json) (k : Nat) :
    List (String × Conf) → Option (List (String × Json))
  | [] => some []
  | (key, c) :: rest => do
    let v ← c.valueAt item slot k
    let vs ← fieldsAt item slot (k + c.subPipes.length) rest
    return (key, v) :: vs

/-- The values of the elements of a list. -/
def elementsAt (item : Item) (slot : Nat → Option Json) (k : Nat) : List Conf → Option (List Json)
  | [] => some []
  | c :: rest => do
    let v ← c.valueAt item slot k
    let vs ← elementsAt item slot (k + c.subPipes.length) rest
    return v :: vs

end

mutual

/-- The literals, each with the form into which it is brought. -/
def literals : Conf → List (Json × Coercion)
  | .literal v coercion => [(v, coercion)]
  | .reference .. | .sub _ => []
  | .record fields => fieldsLiterals fields
  | .list elements => elementsLiterals elements

/-- The literals of the fields of a record. -/
def fieldsLiterals : List (String × Conf) → List (Json × Coercion)
  | [] => []
  | (_, c) :: rest => c.literals ++ fieldsLiterals rest

/-- The literals of the elements of a list. -/
def elementsLiterals : List Conf → List (Json × Coercion)
  | [] => []
  | c :: rest => c.literals ++ elementsLiterals rest

end

/-- Whether every literal can be brought into its form. -/
def Coerces (literals : List (Json × Coercion)) : Prop :=
  ∀ l ∈ literals, (l.2.coerce? l.1).isSome

theorem coerces_append {a b : List (Json × Coercion)} : Coerces (a ++ b) ↔ Coerces a ∧ Coerces b :=
  List.forall_mem_append

/-! ## Slots that hold the outputs -/

/-- The slots from `k` on hold what the embedded pipes make of the outputs. -/
def Aligned (slot : Nat → Option Json) (k : Nat) (subs : List SubPipe) (outputs : List (List Item)) :
    Prop := ∀ i, i < subs.length → slot (k + i) = slots subs outputs i

/-- The slots from `k` on are filled, `n` of them. -/
def Filled (slot : Nat → Option Json) (k n : Nat) : Prop := ∀ i < n, (slot (k + i)).isSome

section

variable {slot : Nat → Option Json} {k : Nat} {a b : List SubPipe} {outputs : List (List Item)}

theorem aligned_slots (subs : List SubPipe) (outputs : List (List Item)) :
    Aligned (slots subs outputs) 0 subs outputs := by
  intro i _
  rw [Nat.zero_add]

theorem Aligned.left (h : Aligned slot k (a ++ b) outputs) : Aligned slot k a outputs := by
  intro i hi
  rw [h i (by rw [List.length_append]; omega), slots, slots, List.getElem?_append_left hi]

theorem Aligned.right (h : Aligned slot k (a ++ b) outputs) :
    Aligned slot (k + a.length) b (outputs.drop a.length) := by
  intro i hi
  rw [Nat.add_assoc, h (a.length + i) (by rw [List.length_append]; omega), slots, slots,
    List.getElem?_append_right (Nat.le_add_right _ _), Nat.add_sub_cancel_left, List.getElem?_drop]

/-- With enough outputs no slot is empty. -/
theorem Aligned.filled (h : Aligned slot k a outputs) (hn : a.length ≤ outputs.length) :
    Filled slot k a.length := by
  intro i hi
  rw [h i hi, slots, List.getElem?_eq_getElem hi, List.getElem?_eq_getElem (Nat.lt_of_lt_of_le hi hn)]
  rfl

end

/-! ## Computations that take outputs -/

section

variable {α β : Type} {outputs : List (List Item)} {n m : Nat}

/-- The computation takes the first `n` outputs and comes to the value. It fails if there are fewer
outputs, or no value. -/
def Takes (x : Resolve α) (outputs : List (List Item)) (n : Nat) (value : Option α) : Prop :=
  ∀ a rest, x.run outputs = (.ok a, rest) ↔
    n ≤ outputs.length ∧ rest = outputs.drop n ∧ value = some a

theorem takes_pure (a : α) : Takes (pure a) outputs 0 (pure a) := by
  intro b rest
  constructor
  · intro h
    cases h
    exact ⟨Nat.zero_le _, rfl, rfl⟩
  · rintro ⟨-, rfl, h⟩
    cases h
    rfl

theorem takes_throw (e : Error) : Takes (throw e : Resolve α) outputs n none := by
  intro b rest
  constructor
  · intro h
    cases h
  · rintro ⟨-, -, h⟩
    cases h

theorem Takes.bind {x : Resolve α} {f : α → Resolve β} {value : Option α} {g : α → Option β}
    (hx : Takes x outputs n value) (hf : ∀ a, Takes (f a) (outputs.drop n) m (g a)) :
    Takes (x >>= f) outputs (n + m) (value >>= g) := by
  intro b rest
  rw [run_bind_eq_ok]
  constructor
  · rintro ⟨a, taken, ha, hb⟩
    obtain ⟨hn, rfl, rfl⟩ := (hx a taken).1 ha
    obtain ⟨hm, rfl, hg⟩ := (hf a b rest).1 hb
    rw [List.length_drop] at hm
    exact ⟨by omega, List.drop_drop, hg⟩
  · rintro ⟨hnm, rfl, h⟩
    obtain ⟨a, rfl, hg⟩ := Option.bind_eq_some_iff.1 h
    refine ⟨a, outputs.drop n, (hx a _).2 ⟨by omega, rfl, rfl⟩, (hf a b _).2 ⟨?_, ?_, hg⟩⟩
    · rw [List.length_drop]; omega
    · rw [List.drop_drop]

theorem Takes.map {x : Resolve α} {value : Option α} (hx : Takes x outputs n value) (f : α → β) :
    Takes (x >>= fun a => pure (f a)) outputs n (value >>= fun a => pure (f a)) :=
  hx.bind fun a => takes_pure (f a)

theorem takes_literal {coercion : Coercion} {v : Json} (item : Item) (module location : String) :
    Takes ((literal v coercion).resolveWith item module location) outputs 0 (coercion.coerce? v) := by
  unfold resolveWith
  cases coercion.coerce? v with
  | none => exact takes_throw _
  | some w => exact takes_pure w

/-- An embedded pipe takes the next output. -/
theorem takes_sub {s : SubPipe} (item : Item) (module location : String) :
    Takes ((sub s).resolveWith item module location) outputs 1 (slots [s] outputs 0) := by
  intro v rest
  cases outputs with
  | nil =>
    constructor
    · intro h
      cases h
    · rintro ⟨h, -⟩
      cases h
  | cons output outputs =>
    constructor
    · intro h
      cases h
      exact ⟨Nat.le_add_left _ _, rfl, rfl⟩
    · rintro ⟨-, rfl, h⟩
      cases h
      rfl

end

/-! ## Taking goes the way of collecting -/

section

variable (item : Item) (module : String) {slot : Nat → Option Json} {k : Nat}
  {outputs : List (List Item)}

mutual

/-- A parameter takes the outputs of its embedded pipes, and its value has them in their places. -/
theorem takes_resolveWith : ∀ (c : Conf) (location : String) {slot : Nat → Option Json} {k : Nat}
    {outputs : List (List Item)}, Aligned slot k c.subPipes outputs →
    Takes (c.resolveWith item module location) outputs c.subPipes.length (c.valueAt item slot k)
  | .literal v coercion, location, _, _, _, _ => takes_literal item module location
  | .reference path default, _, _, _, _, _ => takes_pure (item.getD path default)
  | .sub s, location, slot, k, outputs, h => by
    have hslot : slot k = slots [s] outputs 0 := h 0 (Nat.zero_lt_one)
    rw [valueAt, hslot]
    exact takes_sub item module location
  | .record fields, location, slot, k, outputs, h => by
    rw [resolveWith, valueAt]
    simp only [Fields.insertAll_nil]
    exact (takes_resolveFields fields location h).map _
  | .list elements, location, slot, k, outputs, h => by
    rw [resolveWith, valueAt]
    exact (takes_resolveElements elements location 0 h).map _

theorem takes_resolveFields : ∀ (fields : List (String × Conf)) (location : String)
    {slot : Nat → Option Json} {k : Nat} {outputs : List (List Item)},
    Aligned slot k (fieldsSubPipes fields) outputs →
    Takes (resolveFields item module location fields) outputs (fieldsSubPipes fields).length
      (fieldsAt item slot k fields)
  | [], _, _, _, _, _ => takes_pure []
  | (key, c) :: rest, location, slot, k, outputs, h => by
    -- The first field takes the outputs on the left, and the others start at the slot after it.
    rw [fieldsSubPipes] at h ⊢
    rw [List.length_append, resolveFields, fieldsAt]
    refine (takes_resolveWith c (keyLocation location key) h.left).bind fun v => ?_
    exact (takes_resolveFields rest location h.right).map _

theorem takes_resolveElements : ∀ (elements : List Conf) (location : String) (i : Nat)
    {slot : Nat → Option Json} {k : Nat} {outputs : List (List Item)},
    Aligned slot k (elementsSubPipes elements) outputs →
    Takes (resolveElements item module location i elements) outputs (elementsSubPipes elements).length
      (elementsAt item slot k elements)
  | [], _, _, _, _, _, _ => takes_pure []
  | c :: rest, location, i, slot, k, outputs, h => by
    rw [elementsSubPipes] at h ⊢
    rw [List.length_append, resolveElements, elementsAt]
    refine (takes_resolveWith c (indexLocation location i) h.left).bind fun v => ?_
    exact (takes_resolveElements rest location (i + 1) h.right).map _

end

end

/-! ## Literals decide -/

section

variable {slot : Nat → Option Json} {k n m : Nat}

theorem Filled.left (h : Filled slot k (n + m)) : Filled slot k n := fun i hi => h i (by omega)

theorem Filled.right (h : Filled slot k (n + m)) : Filled slot (k + n) m := by
  intro i hi
  rw [Nat.add_assoc]
  exact h (n + i) (by omega)

theorem isSome_map {α β : Type} (a : Option α) (f : α → β) :
    (a >>= fun x => pure (f x)).isSome = a.isSome := by
  cases a <;> rfl

theorem isSome_both {α β γ : Type} (a : Option α) (b : Option β) (f : α → β → γ) :
    (a >>= fun x => b >>= fun y => pure (f x y)).isSome = (a.isSome && b.isSome) := by
  cases a <;> cases b <;> rfl

mutual

/-- If no embedded pipe lacks its output, only a literal can keep a parameter from having a value. -/
theorem isSome_valueAt (item : Item) : ∀ (c : Conf) {slot : Nat → Option Json} {k : Nat},
    Filled slot k c.subPipes.length → ((c.valueAt item slot k).isSome ↔ Coerces c.literals)
  | .literal v coercion, _, _, _ => by
    rw [valueAt, literals, Coerces, List.forall_mem_singleton]
  | .reference path default, _, _, _ => by
    rw [valueAt, literals]
    exact ⟨fun _ => List.forall_mem_nil _, fun _ => rfl⟩
  | .sub s, slot, k, h => by
    rw [valueAt, literals]
    exact ⟨fun _ => List.forall_mem_nil _, fun _ => h 0 Nat.zero_lt_one⟩
  | .record fields, _, _, h => by
    rw [valueAt, isSome_map, literals]
    exact isSome_fieldsAt item fields h
  | .list elements, _, _, h => by
    rw [valueAt, isSome_map, literals]
    exact isSome_elementsAt item elements h

theorem isSome_fieldsAt (item : Item) : ∀ (fields : List (String × Conf)) {slot : Nat → Option Json}
    {k : Nat}, Filled slot k (fieldsSubPipes fields).length →
    ((fieldsAt item slot k fields).isSome ↔ Coerces (fieldsLiterals fields))
  | [], _, _, _ => ⟨fun _ => List.forall_mem_nil _, fun _ => rfl⟩
  | (key, c) :: rest, _, _, h => by
    rw [fieldsSubPipes, List.length_append] at h
    rw [fieldsAt, isSome_both, Bool.and_eq_true, isSome_valueAt item c h.left,
      isSome_fieldsAt item rest h.right, fieldsLiterals, coerces_append]

theorem isSome_elementsAt (item : Item) : ∀ (elements : List Conf) {slot : Nat → Option Json}
    {k : Nat}, Filled slot k (elementsSubPipes elements).length →
    ((elementsAt item slot k elements).isSome ↔ Coerces (elementsLiterals elements))
  | [], _, _, _ => ⟨fun _ => List.forall_mem_nil _, fun _ => rfl⟩
  | c :: rest, _, _, h => by
    rw [elementsSubPipes, List.length_append] at h
    rw [elementsAt, isSome_both, Bool.and_eq_true, isSome_valueAt item c h.left,
      isSome_elementsAt item rest h.right, elementsLiterals, coerces_append]

end

end

/-! ## What a parameter takes -/

/-- A parameter that gets a value has been offered an output for each of its `n` embedded pipes. It
has taken the first `n` outputs and left the others, and its value has in the place of the `k`-th
embedded pipe what that pipe makes of the `k`-th output. It does get a value if there are so many
outputs and every literal can be brought into its form, and only then. -/
theorem resolveWith_takes (c : Conf) (item : Item) (module location : String)
    (outputs : List (List Item)) :
    (∀ v rest, (c.resolveWith item module location).run outputs = (.ok v, rest) ↔
      c.subPipes.length ≤ outputs.length ∧ rest = outputs.drop c.subPipes.length ∧
        c.valueAt item (slots c.subPipes outputs) 0 = some v) ∧
    ((∃ v rest, (c.resolveWith item module location).run outputs = (.ok v, rest)) ↔
      c.subPipes.length ≤ outputs.length ∧ ∀ l ∈ c.literals, (l.2.coerce? l.1).isSome) := by
  have htakes := takes_resolveWith item module c location (aligned_slots c.subPipes outputs)
  refine ⟨htakes, ?_⟩
  constructor
  · rintro ⟨v, rest, h⟩
    obtain ⟨hn, -, hv⟩ := (htakes v rest).1 h
    have hfilled := (aligned_slots c.subPipes outputs).filled hn
    exact ⟨hn, (isSome_valueAt item c hfilled).1 (by rw [hv]; rfl)⟩
  · rintro ⟨hn, hliterals⟩
    have hfilled := (aligned_slots c.subPipes outputs).filled hn
    obtain ⟨v, hv⟩ := Option.isSome_iff_exists.1 ((isSome_valueAt item c hfilled).2 hliterals)
    exact ⟨v, _, (htakes v _).2 ⟨hn, rfl, hv⟩⟩

/-- A record whose key repeats. -/
def repeating : Conf :=
  .list [.record [("k", .sub { pipe := default, loopable := rfl }), ("l", .reference "t" .null),
    ("k", .sub { pipe := default, loopable := rfl, path := some "n" })], .text "word"]

/-- Both pipes under the key take their outputs, and the second counts. -/
theorem resolveWith_takes_repeating :
    (repeating.resolveWith ⟨[("t", .bool true)]⟩ "regex" "RULE").run
        [[⟨[("n", .str "a")]⟩], [⟨[("n", .str "b")]⟩], []] =
      (.ok (.arr [.obj [("k", .str "b"), ("l", .bool true)], .str "word"]), [[]]) := by
  refine ((resolveWith_takes repeating _ _ _ _).1 _ _).2 ⟨by decide, rfl, ?_⟩
  rfl

end ItemFlow.Conf
