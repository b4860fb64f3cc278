import ItemFlow.Proofs.Sequencing
import ItemFlow.Rule

/-!
# Compiling rules

The patterns that a stage keeps save work and change no result: looking a pattern up gives what
compiling it anew gives (`PatternCache.fetch_eq`, `PatternCache.compile_fst`), and so the rules of
an item's records are those of `Rule.ofRecords`, in which no kept pattern occurs (`convert_run`).
Converting leaves the kept patterns as they are. If one of the records declares no rule the error is
fatal, so that no policy skips it (`isFatal_of_ofRecords`).
-/

namespace ItemFlow

/-! ## Kept patterns -/

namespace PatternCache

variable (c : PatternCache) (source : String) (flags : Pattern.Flags)

theorem compile_of_get? {p : Pattern} (h : c.get? source flags = some p) :
    Pattern.compile source flags = .ok p := by
  obtain ⟨l₁, l₂, hc, -⟩ := List.lookup_eq_some_iff.1 h
  exact c.compiled ((source, flags), p) (by rw [hc]; simp)

theorem fetch_eq : c.fetch source flags = Pattern.compile source flags := by
  unfold fetch
  split
  · rename_i p h; rw [c.compile_of_get? source flags h]
  · rfl

theorem compile_fst : (c.compile source flags).1 = Pattern.compile source flags := by
  unfold compile
  split
  · rename_i p h; rw [c.compile_of_get? source flags h]
  · split
    · rename_i p h; exact h.symm
    · rename_i e h; exact h.symm

end PatternCache

namespace Rule

/-! ## Rules of records -/

/-- The rule that a record declares, its pattern compiled anew. -/
def ofRecord (module : String) (index : Nat) (rule : Json) : Except Error Rule :=
  match Pattern.compile (word rule "match") (flags rule) with
  | .ok pattern =>
    .ok ⟨word rule "field", pattern, Pattern.braced (word rule "replace"), isSet rule "globalmatch"⟩
  | .error _ => .error (.pattern module index (word rule "field") (word rule "match"))

/-- The rules that records declare, the first of which has the given index. -/
def ofRecords (module : String) (index : Nat) : List Json → Except Error (List Rule)
  | [] => .ok []
  | rule :: rest => do
    let r ← ofRecord module index rule
    let rs ← ofRecords module (index + 1) rest
    return r :: rs

theorem ofRecord_eq_ok {module : String} {index : Nat} {record : Json} {rule : Rule}
    (h : ofRecord module index record = .ok rule) :
    ∃ pattern, Pattern.compile (word record "match") (flags record) = .ok pattern ∧
      rule = ⟨word record "field", pattern, Pattern.braced (word record "replace"),
        isSet record "globalmatch"⟩ := by
  rw [ofRecord] at h
  split at h
  · rename_i pattern hpattern
    exact ⟨pattern, hpattern, (Except.ok.inj h).symm⟩
  · cases h

theorem ofRecord_eq_error {module : String} {index : Nat} {record : Json} {e : Error} :
    ofRecord module index record = .error e ↔
      (∃ fault, Pattern.compile (word record "match") (flags record) = .error fault) ∧
        e = .pattern module index (word record "field") (word record "match") := by
  unfold ofRecord
  cases Pattern.compile (word record "match") (flags record) with
  | ok p => simp
  | error fault => simp [eq_comm]

/-- If records declare no rules, one of them declares none, and gives the error. -/
theorem exists_of_ofRecords_error {module : String} {index : Nat} {values : List Json} {e : Error}
    (h : ofRecords module index values = .error e) :
    ∃ (i : Nat) (v : Json), values[i]? = some v ∧ ofRecord module (index + i) v = .error e := by
  induction values generalizing index with
  | nil => cases h
  | cons v values ih =>
    rcases Except.bind_eq_error.1 h with h | ⟨rule, -, h⟩
    · exact ⟨0, v, rfl, h⟩
    · rcases Except.bind_eq_error.1 h with h | ⟨rules, -, h⟩
      · obtain ⟨i, v', hv', h⟩ := ih h
        exact ⟨i + 1, v', hv', by rwa [Nat.add_comm i, ← Nat.add_assoc]⟩
      · cases h

/-- Records that declare no rules come to a fatal error. -/
theorem isFatal_of_ofRecords {module : String} {index : Nat} {values : List Json} {e : Error}
    (h : ofRecords module index values = .error e) : e.isFatal = true := by
  obtain ⟨i, v, -, hv⟩ := exists_of_ofRecords_error h
  obtain ⟨-, rfl⟩ := ofRecord_eq_error.1 hv
  rfl

variable (module : String) (index : Nat) (cache : PatternCache)

theorem pattern?_fst (keep : Bool) (source : String) (flags : Pattern.Flags) :
    (pattern? keep source flags cache).1 = Pattern.compile source flags := by
  unfold pattern?
  cases keep with
  | true => exact cache.compile_fst source flags
  | false => exact cache.fetch_eq source flags

/-- Compiling a rule gives the rule of its record, whatever is kept. -/
theorem compile_run (keep : Bool) (rule : Json) :
    (compile module keep index rule).run cache =
      (ofRecord module index rule, (pattern? keep (word rule "match") (flags rule) cache).2) := by
  have hp : (liftM (pattern? keep (word rule "match") (flags rule)) : Compile _).run cache =
      (.ok (pattern? keep (word rule "match") (flags rule) cache).1,
        (pattern? keep (word rule "match") (flags rule) cache).2) := rfl
  rw [compile, run_bind_ok hp, pattern?_fst, ofRecord]
  cases Pattern.compile (word rule "match") (flags rule) <;> rfl

theorem convertFrom_run (rules : List Json) :
    (convertFrom module index rules).run cache = (ofRecords module index rules, cache) := by
  induction rules generalizing index with
  | nil => rfl
  | cons rule rest ih =>
    have hrule : (compile module false index rule).run cache = (ofRecord module index rule, cache) :=
      compile_run module index cache false rule
    rw [convertFrom, ofRecords]
    cases hr : ofRecord module index rule with
    | error e => rw [hr] at hrule; exact run_bind_error hrule _
    | ok r =>
      rw [hr] at hrule
      rw [run_bind_ok hrule]
      cases hrs : ofRecords module (index + 1) rest with
      | error e => exact run_bind_error (by rw [ih, hrs]) _
      | ok rs => rw [run_bind_ok (by rw [ih, hrs])]; rfl

/-- The rules of an item's pieces are those of its records, and what is kept stays as it is. -/
theorem convert_run (pieces : Pieces) :
    (convert module pieces).run cache = (ofRecords module 0 pieces.toList, cache) :=
  convertFrom_run module 0 cache pieces.toList

end Rule

end ItemFlow
