import ItemFlow.Pattern
import Mathlib

/-!
# How programs are laid out

The code of an expression is as long as `Expr.size` says (`Expr.length_code`), and control leaves it only
at the address after it (`Expr.within_code`). So a program starts by keeping the place where its match
starts, and before it ends it keeps the place where the match stops, whatever way it takes in between
(`Expr.laid_program`).
-/

namespace ItemFlow.Pattern

/-- An instruction leads to no address after `stop`, and does not end a match. -/
def Inst.Within (stop : Nat) : Inst → Prop
  | .split first second => first ≤ stop ∧ second ≤ stop
  | .jump target => target ≤ stop
  | .accept => False
  | .set _ | .look _ | .save _ => True

theorem Inst.Within.mono {stop stop' : Nat} {inst : Inst} (h : inst.Within stop) (hle : stop ≤ stop') :
    inst.Within stop' := by
  cases inst with
  | split first second => exact ⟨h.1.trans hle, h.2.trans hle⟩
  | jump target => exact Nat.le_trans h hle
  | accept => exact h
  | _ => trivial

theorem Inst.within_choice {go leave stop : Nat} (hgo : go ≤ stop) (hleave : leave ≤ stop) (greedy : Bool) :
    (Inst.choice greedy go leave).Within stop := by
  cases greedy with
  | true => exact ⟨hgo, hleave⟩
  | false => exact ⟨hleave, hgo⟩

/-! ## Sizes -/

mutual

/-- The code of an expression is as long as its size says. -/
theorem Expr.length_code (base : Nat) : (e : Expr) → (e.code base).length = e.size
  | .empty | .set _ | .look _ => rfl
  | .capture i part => by
    simp [Expr.code, Expr.size, Expr.length_code (base + 1) part]
  | .seq parts => by
    rw [Expr.code, Expr.size, Expr.length_codeSeq base parts]
  | .alt parts => by
    rw [Expr.code, Expr.size, Expr.length_codeAlt base _ parts]
  | .times min max greedy part => by
    have hcopies : ∀ (n : Nat) (f : Nat → Nat),
        ((List.range n).flatMap fun i => part.code (f i)).length = n * part.size := by
      intro n f
      simp [List.length_flatMap, fun i => Expr.length_code (f i) part]
    cases max with
    | none =>
      by_cases hmin : min = 0
      · simp [Expr.code, Expr.size, timesSize, hmin, Expr.length_code (base + 1) part]
      · simp [Expr.code, Expr.size, timesSize, hmin, hcopies]
    | some most =>
      simp [Expr.code, Expr.size, timesSize, List.length_flatMap, fun i => Expr.length_code i part]

theorem Expr.length_codeSeq (base : Nat) :
    (parts : List Expr) → (Expr.codeSeq base parts).length = Expr.sizeSeq parts
  | [] => rfl
  | a :: rest => by
    rw [Expr.codeSeq, Expr.sizeSeq, List.length_append, Expr.length_code base a, Expr.length_codeSeq _ rest]

theorem Expr.length_codeAlt (base stop : Nat) :
    (parts : List Expr) → (Expr.codeAlt base stop parts).length = Expr.sizeAlt parts
  | [] => rfl
  | [a] => by
    rw [Expr.codeAlt, Expr.sizeAlt, Expr.length_code base a]
  | a :: b :: rest => by
    simp [Expr.codeAlt, Expr.sizeAlt, Expr.length_code (base + 1) a, Expr.length_codeAlt _ stop (b :: rest)]
    omega

end

/-! ## Addresses -/

theorem mem_flatMap_range {n : Nat} {f : Nat → List Inst} {inst : Inst}
    (h : inst ∈ (List.range n).flatMap f) : ∃ i < n, inst ∈ f i := by
  obtain ⟨i, hi, hinst⟩ := List.mem_flatMap.1 h
  exact ⟨i, List.mem_range.1 hi, hinst⟩

mutual

/-- The code of an expression leads no further than to the address after it. -/
theorem Expr.within_code (base : Nat) : (e : Expr) → ∀ inst ∈ e.code base, inst.Within (base + e.size)
  | .empty => by simp [Expr.code]
  | .set _ | .look _ => by simp [Expr.code, Inst.Within]
  | .capture i part => by
    intro inst hinst
    have hpart := Expr.within_code (base + 1) part
    rw [Expr.code, List.mem_append, List.mem_cons, List.mem_singleton] at hinst
    rw [Expr.size]
    rcases hinst with (rfl | hinst) | rfl
    · trivial
    · exact (hpart inst hinst).mono (by omega)
    · trivial
  | .seq parts => by
    rw [Expr.code, Expr.size]
    exact Expr.within_codeSeq base parts
  | .alt parts => by
    rw [Expr.code, Expr.size]
    exact Expr.within_codeAlt base _ parts (Nat.le_refl _)
  | .times min max greedy part => by
    intro inst hinst
    have hpart := fun base => Expr.within_code base part
    -- A copy of the part lies before the address after all copies.
    have hcopy : ∀ {i n m : Nat}, i < n → i * m + m ≤ n * m := by
      intro i n m hi
      rw [← Nat.succ_mul]
      exact Nat.mul_le_mul_right m hi
    cases max with
    | none =>
      by_cases hmin : min = 0
      · simp only [Expr.code, hmin, if_pos, List.cons_append, List.mem_cons, List.mem_append,
          List.not_mem_nil, or_false] at hinst
        have hagain : (Inst.choice greedy (base + 1) (base + part.size + 2)).Within
            (base + (Expr.times min none greedy part).size) := by
          rw [Expr.size, timesSize, if_pos hmin]
          exact Inst.within_choice (by omega) (by omega) greedy
        rcases hinst with rfl | hinst | rfl
        · exact hagain
        · rw [Expr.size, timesSize, if_pos hmin]
          exact (hpart (base + 1) inst hinst).mono (by omega)
        · exact hagain
      · simp only [Expr.code, if_neg hmin, List.mem_append, List.mem_singleton] at hinst
        rw [Expr.size, timesSize, if_neg hmin]
        rcases hinst with hinst | rfl
        · obtain ⟨i, hi, hinst⟩ := mem_flatMap_range hinst
          have := hcopy (m := part.size) hi
          exact (hpart _ inst hinst).mono (by omega)
        · have := hcopy (m := part.size) (show min - 1 < min by omega)
          exact Inst.within_choice (by omega) (by omega) greedy
    | some most =>
      simp only [Expr.code, List.mem_append] at hinst
      rw [Expr.size, timesSize]
      rcases hinst with hinst | hinst
      · obtain ⟨i, hi, hinst⟩ := mem_flatMap_range hinst
        have := hcopy (m := part.size) hi
        exact (hpart _ inst hinst).mono (by omega)
      · obtain ⟨i, hi, hinst⟩ := mem_flatMap_range hinst
        have := hcopy (m := part.size + 1) hi
        rcases List.mem_cons.1 hinst with rfl | hinst
        · exact Inst.within_choice (by omega) (by omega) greedy
        · exact (hpart _ inst hinst).mono (by omega)

theorem Expr.within_codeSeq (base : Nat) : (parts : List Expr) →
    ∀ inst ∈ Expr.codeSeq base parts, inst.Within (base + Expr.sizeSeq parts)
  | [] => by simp [Expr.codeSeq]
  | a :: rest => by
    intro inst hinst
    rw [Expr.codeSeq, List.mem_append] at hinst
    rw [Expr.sizeSeq]
    rcases hinst with hinst | hinst
    · exact (Expr.within_code base a inst hinst).mono (by omega)
    · exact (Expr.within_codeSeq _ rest inst hinst).mono (by omega)

theorem Expr.within_codeAlt (base stop : Nat) : (parts : List Expr) → base + Expr.sizeAlt parts ≤ stop →
    ∀ inst ∈ Expr.codeAlt base stop parts, inst.Within stop
  | [], _ => by simp [Expr.codeAlt]
  | [a], h => by
    intro inst hinst
    rw [Expr.codeAlt] at hinst
    rw [Expr.sizeAlt] at h
    exact (Expr.within_code base a inst hinst).mono h
  | a :: b :: rest, h => by
    intro inst hinst
    simp only [Expr.codeAlt, List.cons_append, List.mem_cons, List.mem_append] at hinst
    rw [Expr.sizeAlt] at h
    · rcases hinst with rfl | hinst | rfl | hinst
      · exact ⟨by omega, by omega⟩
      · exact (Expr.within_code (base + 1) a inst hinst).mono (by omega)
      · exact Nat.le_refl stop
      · exact Expr.within_codeAlt _ stop (b :: rest) (by omega) inst hinst
    · simp

end

/-! ## Programs -/

/-- What is known of every program. -/
structure Laid (program : Array Inst) : Prop where
  size : 3 ≤ program.size
  /-- It starts by keeping a place in slot 0. -/
  first : program[0]? = some (.save 0)
  /-- Before it ends it keeps a place in slot 1. -/
  last : program[program.size - 2]? = some (.save 1)
  ending : program[program.size - 1]? = some .accept
  /-- No other instruction leads to the end or ends it before. -/
  within : ∀ (i : Nat) (inst : Inst), i + 1 < program.size → program[i]? = some inst →
    inst.Within (program.size - 2)

theorem Expr.laid_program (e : Expr) : Laid e.program := by
  have hlist : e.program.toList = Inst.save 0 :: e.code 1 ++ [Inst.save 1] ++ [Inst.accept] := by
    simp [Expr.program, Expr.code]
  have hfront : (Inst.save 0 :: e.code 1).length = e.size + 1 := by
    rw [List.length_cons, Expr.length_code]
  have hsize : e.program.size = e.size + 3 := by
    rw [← Array.length_toList, hlist, List.length_append, List.length_append, hfront]
    rfl
  refine ⟨by omega, ?_, ?_, ?_, ?_⟩
  · rw [← Array.getElem?_toList, hlist]
    rfl
  · have hlast : e.program.size - 2 = (Inst.save 0 :: e.code 1).length := by omega
    rw [← Array.getElem?_toList, hlist, hlast, List.append_assoc, List.getElem?_append_right (Nat.le_refl _),
      Nat.sub_self]
    rfl
  · have hend : e.program.size - 1 = (Inst.save 0 :: e.code 1 ++ [Inst.save 1]).length := by
      rw [List.length_append, hfront, List.length_singleton]
      omega
    rw [← Array.getElem?_toList, hlist, hend, List.getElem?_append_right (Nat.le_refl _), Nat.sub_self]
    rfl
  · intro i inst hi hinst
    have hlength : i < (Inst.save 0 :: e.code 1 ++ [Inst.save 1]).length := by
      rw [List.length_append, hfront, List.length_singleton]
      omega
    rw [← Array.getElem?_toList, hlist, List.getElem?_append_left hlength] at hinst
    rcases List.mem_append.1 (List.mem_of_getElem? hinst) with hmem | hmem
    · rcases List.mem_cons.1 hmem with rfl | hmem
      · trivial
      · exact (Expr.within_code 1 e inst hmem).mono (by omega)
    · rw [List.mem_singleton.1 hmem]
      trivial

end ItemFlow.Pattern
