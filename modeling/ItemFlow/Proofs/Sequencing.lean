import ItemFlow.Pipe

/-!
# Sequencing computations that may fail

A computation that may fail is followed by others as long as it succeeds. The laws here say what
comes of the whole once it is known what came of its first part: for computations that only fail,
for those that leave events behind (`Run`), and for those that carry a state, which they keep when
they fail.
-/

namespace ItemFlow

/-! ## Failure -/

/-- What a sequence that succeeds has come from. -/
theorem Except.of_bind_ok {ε α β : Type} {x : Except ε α} {f : α → Except ε β} {b : β}
    (h : x >>= f = .ok b) : ∃ a, x = .ok a ∧ f a = .ok b := by
  cases x with
  | error e => cases h
  | ok a => exact ⟨a, rfl, h⟩

/-- Where the error of a sequence that fails has come from. -/
theorem Except.bind_eq_error {ε α β : Type} {x : Except ε α} {f : α → Except ε β} {e : ε} :
    x >>= f = .error e ↔ x = .error e ∨ ∃ a, x = .ok a ∧ f a = .error e := by
  cases x with
  | error e' =>
    show Except.error e' = .error e ↔ _
    simp
  | ok a =>
    show f a = .error e ↔ _
    simp

theorem Except.map_eq_ok {ε α β : Type} {x : Except ε α} {f : α → β} {b : β} :
    x.map f = .ok b ↔ ∃ a, x = .ok a ∧ f a = b := by
  cases x <;> simp [Except.map]

theorem Except.map_eq_error {ε α β : Type} {x : Except ε α} {f : α → β} {e : ε} :
    x.map f = .error e ↔ x = .error e := by
  cases x <;> simp [Except.map]

/-- Each result of a list of computations has come from one of them. -/
theorem Except.of_mem_mapM {ε α β : Type} {f : α → Except ε β} {l : List α} {results : List β}
    (h : l.mapM f = .ok results) {b : β} (hb : b ∈ results) : ∃ a ∈ l, f a = .ok b := by
  induction l generalizing results with
  | nil =>
    cases h
    cases hb
  | cons a l ih =>
    rw [List.mapM_cons] at h
    obtain ⟨b', hb', h⟩ := Except.of_bind_ok h
    obtain ⟨rest, hrest, h⟩ := Except.of_bind_ok h
    cases h
    rcases List.mem_cons.1 hb with rfl | hb
    · exact ⟨a, List.mem_cons_self, hb'⟩
    · obtain ⟨a', ha', hfa⟩ := ih hrest hb
      exact ⟨a', List.mem_cons_of_mem a ha', hfa⟩

/-- A list of computations that succeeds has as many results. -/
theorem Except.length_of_mapM_ok {ε α β : Type} {f : α → Except ε β} {l : List α} {results : List β}
    (h : l.mapM f = .ok results) : results.length = l.length := by
  induction l generalizing results with
  | nil =>
    cases h
    rfl
  | cons a l ih =>
    rw [List.mapM_cons] at h
    obtain ⟨b, -, h⟩ := Except.of_bind_ok h
    obtain ⟨rest, hrest, h⟩ := Except.of_bind_ok h
    cases h
    rw [List.length_cons, ih hrest, List.length_cons]

/-- A list of computations that succeeds has a result for each of them. -/
theorem Except.ok_of_mapM_ok {ε α β : Type} {f : α → Except ε β} {l : List α} {results : List β}
    (h : l.mapM f = .ok results) {a : α} (ha : a ∈ l) : ∃ b, f a = .ok b := by
  induction l generalizing results with
  | nil => cases ha
  | cons a' l ih =>
    rw [List.mapM_cons] at h
    obtain ⟨b, hb, h⟩ := Except.of_bind_ok h
    obtain ⟨rest, hrest, -⟩ := Except.of_bind_ok h
    rcases List.mem_cons.1 ha with rfl | ha
    · exact ⟨b, hb⟩
    · exact ih hrest ha

/-! ## Events -/

namespace Traced

variable {α β : Type}

theorem ext {a b : Traced α} (hl : a.log = b.log) (hv : a.value = b.value) : a = b := by
  cases a; cases b
  cases hl; cases hv
  rfl

instance : LawfulMonad Traced :=
  .mk' _ (fun t => ext (List.append_nil t.log) rfl) (fun _ _ => rfl)
    fun t _ _ => ext (List.append_assoc t.log _ _) rfl

end Traced

namespace Run

variable {α β : Type}

/-- A computation that fails goes no further. -/
theorem bind_error {x : Run α} {e : Error} (h : x.run.value = .error e) (f : α → Run β) :
    (x >>= f).run = ⟨x.run.log, .error e⟩ := by
  obtain ⟨log, value⟩ := x
  cases h
  exact Traced.ext (List.append_nil log) rfl

/-- A computation that succeeds goes on with its value, and its events come first. -/
theorem bind_ok {x : Run α} {a : α} (h : x.run.value = .ok a) (f : α → Run β) :
    (x >>= f).run = ⟨x.run.log ++ (f a).run.log, (f a).run.value⟩ := by
  obtain ⟨log, value⟩ := x
  cases h
  rfl

theorem run_lift (r : Except Error α) : (liftM r : Run α).run = ⟨[], r⟩ := by
  cases r <;> rfl

end Run

/-! ## State -/

section State

variable {σ α β : Type} {x : ExceptT Error (StateM σ) α} {s s' : σ}

theorem run_bind_ok {a : α} (h : x.run s = (.ok a, s')) (f : α → ExceptT Error (StateM σ) β) :
    (x >>= f).run s = (f a).run s' := by
  show (x.run s >>= fun p => ExceptT.bindCont f p.1 p.2) = _
  rw [h]; rfl

theorem run_bind_error {e : Error} (h : x.run s = (.error e, s')) (f : α → ExceptT Error (StateM σ) β) :
    (x >>= f).run s = (.error e, s') := by
  show (x.run s >>= fun p => ExceptT.bindCont f p.1 p.2) = _
  rw [h]; rfl

/-- What a sequence that succeeds has come from, and with which states. -/
theorem run_bind_eq_ok {f : α → ExceptT Error (StateM σ) β} {b : β} :
    (x >>= f).run s = (.ok b, s') ↔
      ∃ a t, x.run s = (.ok a, t) ∧ (f a).run t = (.ok b, s') := by
  constructor
  · intro h
    cases hx : x.run s with
    | mk result t =>
      cases result with
      | error e => rw [run_bind_error hx] at h; cases h
      | ok a => exact ⟨a, t, rfl, by rwa [run_bind_ok hx] at h⟩
  · rintro ⟨a, t, hx, hf⟩
    rw [run_bind_ok hx, hf]

/-- Where the error of a sequence that fails has come from, and with which states. -/
theorem run_bind_eq_error {f : α → ExceptT Error (StateM σ) β} {e : Error} :
    (x >>= f).run s = (.error e, s') ↔
      x.run s = (.error e, s') ∨ ∃ a t, x.run s = (.ok a, t) ∧ (f a).run t = (.error e, s') := by
  constructor
  · intro h
    cases hx : x.run s with
    | mk result t =>
      cases result with
      | error e' => rw [run_bind_error hx] at h; cases h; exact .inl rfl
      | ok a => exact .inr ⟨a, t, rfl, by rwa [run_bind_ok hx] at h⟩
  · rintro (hx | ⟨a, t, hx, hf⟩)
    · rw [run_bind_error hx]
    · rw [run_bind_ok hx, hf]

end State

end ItemFlow
