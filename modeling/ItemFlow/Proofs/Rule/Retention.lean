import ItemFlow.Proofs.Stage.Setup
import Mathlib

/-!
# Which patterns are kept

Definitions are compiled when a stage starts, and records are converted item by item, both with the same
kept patterns. Whatever has been compiled and converted before, and whether it failed or not: what is
kept are the patterns of the definitions that were compiled, each once and just as it compiles anew, and
records are converted as if nothing was kept (`Rule.kept_after`).
-/

namespace ItemFlow

/-! ## Keys -/

namespace PatternCache

/-- What a pattern is kept under: its text and its flags. -/
abbrev Key := String × Pattern.Flags

variable (c : PatternCache) (source : String) (flags : Pattern.Flags)

/-- The keys of the patterns that are kept, the latest first. -/
def keys : List Key := c.entries.map (·.1)

theorem length_keys : c.keys.length = c.size := List.length_map _

theorem get?_eq_none : c.get? source flags = none ↔ (source, flags) ∉ c.keys := by
  unfold get? keys
  rw [List.lookup_eq_none_iff, List.mem_map]
  constructor
  · rintro h ⟨entry, hentry, hkey⟩
    simpa [hkey] using h entry hentry
  · intro h entry hentry
    rw [bne_iff_ne]
    rintro hkey
    exact h ⟨entry, hentry, hkey.symm⟩

/-- Under its key a pattern is kept as it compiles anew. -/
theorem get?_eq : c.get? source flags =
    if (source, flags) ∈ c.keys then (Pattern.compile source flags).toOption else none := by
  split
  · rename_i hmem
    cases h : c.get? source flags with
    | none => exact absurd hmem ((c.get?_eq_none source flags).1 h)
    | some p => rw [c.compile_of_get? source flags h]; rfl
  · rename_i hnot
    exact (c.get?_eq_none source flags).2 hnot

/-- Compiling keeps a pattern, if there is one, and does not keep it twice. -/
theorem keys_compile : (c.compile source flags).2.keys =
    if (Pattern.compile source flags).isOk then c.keys.insert (source, flags) else c.keys := by
  unfold compile
  cases h : c.get? source flags with
  | some p =>
    have hmem : (source, flags) ∈ c.keys := by
      by_contra hnot
      rw [(c.get?_eq_none source flags).2 hnot] at h
      cases h
    have hok : (Pattern.compile source flags).isOk = true := by
      rw [c.compile_of_get? source flags h]; rfl
    rw [if_pos hok, List.insert_of_mem hmem]
  | none =>
    have hnew := (c.get?_eq_none source flags).1 h
    dsimp only
    split
    · rename_i p hp
      have hok : (Pattern.compile source flags).isOk = true := by rw [hp]; rfl
      rw [if_pos hok, List.insert_of_not_mem hnew]
      rfl
    · rename_i e he
      have hfail : (Pattern.compile source flags).isOk = false := by rw [he]; rfl
      rw [hfail]
      rfl

end PatternCache

namespace Rule

open PatternCache (Key)

/-! ## What definitions declare -/

/-- The key of the pattern that a record declares. -/
def key (record : Json) : Key := (word record "match", flags record)

/-- The pattern with a key compiles. -/
def Compiles (k : Key) : Prop := (Pattern.compile k.1 k.2).isOk = true

instance (k : Key) : Decidable (Compiles k) := inferInstanceAs (Decidable (_ = true))

/-- The key of the pattern that a definition declares, if it is the same for all items and has a
value. -/
def declaredKey? (c : Conf) : Option Key := (constantRecord? c).map key

/-- A definition that is the same for all items is sound if it declares a pattern that compiles. Any
other definition is. -/
def Sound (c : Conf) : Prop := c.isStatic = true → ∃ k ∈ declaredKey? c, Compiles k

instance (c : Conf) : Decidable (Sound c) :=
  inferInstanceAs (Decidable (_ → ∃ k ∈ declaredKey? c, Compiles k))

/-- The definitions of a list that are compiled when a stage starts: those that are the same for all
items, as far as the first one that is not sound. -/
def compiled (rules : List Conf) : List Conf := (rules.takeWhile Sound).filter Conf.isStatic

/-- The keys of the patterns that definitions declare. -/
def declaredKeys (rules : List Conf) : List Key := rules.filterMap declaredKey?

section

variable (module : String) (index : Nat) {c : Conf} {record : Json}

theorem compiles_key : Compiles (key record) ↔ ∃ rule, ofRecord module index record = .ok rule := by
  unfold Compiles ofRecord key
  cases Pattern.compile (word record "match") (flags record) with
  | ok p => exact iff_of_true rfl ⟨_, rfl⟩
  | error fault => exact iff_of_false Bool.false_ne_true nofun

theorem declaredKey?_of_not_static (h : ¬ c.isStatic = true) : declaredKey? c = none := by
  rw [declaredKey?, constantRecord?, if_neg h]
  rfl

/-- The definitions that are found to be in order are the sound ones. -/
theorem check_eq_ok_iff_sound : check module index c = .ok () ↔ Sound c := by
  by_cases static : c.isStatic = true
  · cases hc : constantRecord? c with
    | some record =>
      rw [check_of_constantRecord? hc, Except.map_eq_ok, Sound, declaredKey?, hc]
      simp [static, compiles_key module index]
    | none =>
      have hfails : ¬ Sound c := by
        intro h
        obtain ⟨k, hk, -⟩ := h static
        rw [declaredKey?, hc] at hk
        cases hk
      refine iff_of_false (fun h => ?_) hfails
      rw [check, if_pos static] at h
      obtain ⟨record, hrecord, -⟩ := Except.of_bind_ok h
      rw [(constantRecord?_eq_some static module _).2 hrecord] at hc
      cases hc
  · refine iff_of_true ?_ fun h => absurd h static
    rw [check, if_neg static]
    rfl

theorem checkFrom_eq_ok_iff {rules : List Conf} :
    checkFrom module index rules = .ok () ↔ ∀ c ∈ rules, Sound c := by
  induction rules generalizing index with
  | nil => exact iff_of_true rfl (List.forall_mem_nil _)
  | cons c rest ih =>
    rw [List.forall_mem_cons, ← check_eq_ok_iff_sound module index, ← ih (index + 1)]
    constructor
    · intro h
      obtain ⟨⟨⟩, hc, h⟩ := Except.of_bind_ok h
      exact ⟨hc, h⟩
    · rintro ⟨hc, h⟩
      rw [checkFrom, hc]
      exact h

/-- If all definitions are sound, those that are the same for all items are compiled. -/
theorem compiled_of_sound {rules : List Conf} (h : ∀ c ∈ rules, Sound c) :
    compiled rules = rules.filter Conf.isStatic := by
  rw [compiled, List.takeWhile_eq_self_iff.2 fun c hc => decide_eq_true (h c hc)]

end

/-! ## Keeping what definitions declare -/

section

variable {c : Conf} {rest : List Conf}

theorem keys_keeping_of_sound (h : Sound c) (cache : PatternCache) :
    (keeping c cache).keys = (declaredKey? c).toList ∪ cache.keys := by
  unfold keeping
  cases hc : constantRecord? c with
  | none =>
    rw [declaredKey?, hc]
    rfl
  | some record =>
    have hkey : declaredKey? c = some (key record) := by rw [declaredKey?, hc]; rfl
    obtain ⟨k, hk, hcompiles⟩ := h (isStatic_of_constantRecord? hc)
    rw [hkey] at hk
    cases hk
    dsimp only
    rw [PatternCache.keys_compile, hkey]
    exact if_pos hcompiles

theorem keys_keeping_of_not_sound (h : ¬ Sound c) (cache : PatternCache) :
    (keeping c cache).keys = cache.keys := by
  unfold keeping
  cases hc : constantRecord? c with
  | none => rfl
  | some record =>
    have hfails : ¬ Compiles (key record) :=
      fun hcompiles => h fun _ => ⟨key record, by rw [declaredKey?, hc]; rfl, hcompiles⟩
    dsimp only
    rw [PatternCache.keys_compile]
    exact if_neg hfails

theorem declaredKeys_compiled_cons (h : Sound c) :
    declaredKeys (compiled (c :: rest)) = (declaredKey? c).toList ++ declaredKeys (compiled rest) := by
  have hcons : (c :: rest).takeWhile Sound = c :: rest.takeWhile Sound :=
    List.takeWhile_cons_of_pos (decide_eq_true h)
  rw [compiled, hcons]
  by_cases static : c.isStatic = true
  · rw [List.filter_cons_of_pos static, declaredKeys, List.filterMap_cons]
    cases declaredKey? c <;> rfl
  · rw [List.filter_cons_of_neg static, declaredKey?_of_not_static static]
    rfl

theorem compiled_cons_of_not_sound (h : ¬ Sound c) : compiled (c :: rest) = [] := by
  rw [compiled, List.takeWhile_cons_of_neg (by simpa using h)]
  rfl

end

theorem append_union {α : Type} [BEq α] (l₁ l₂ l₃ : List α) : (l₁ ++ l₂) ∪ l₃ = l₁ ∪ (l₂ ∪ l₃) :=
  List.foldr_append

/-- Compiling definitions keeps their patterns, as far as the first definition that is not sound. -/
theorem keys_prime (module : String) (rules : List Conf) (index : Nat) (cache : PatternCache) :
    ((prime module index rules).run cache).2.keys =
      (declaredKeys (compiled rules)).reverse ∪ cache.keys := by
  induction rules generalizing index cache with
  | nil => rfl
  | cons c rest ih =>
    rw [prime_cons]
    by_cases h : Sound c
    · have hone : (declaredKey? c).toList.reverse = (declaredKey? c).toList := by
        cases declaredKey? c <;> rfl
      rw [(check_eq_ok_iff_sound module index).2 h]
      show ((prime module (index + 1) rest).run (keeping c cache)).2.keys = _
      rw [ih, keys_keeping_of_sound h, declaredKeys_compiled_cons h, List.reverse_append, append_union, hone]
    · cases hcheck : check module index c with
      | ok _ => exact absurd ((check_eq_ok_iff_sound module index).1 hcheck) h
      | error e =>
        show (keeping c cache).keys = _
        rw [keys_keeping_of_not_sound h, compiled_cons_of_not_sound h]
        rfl

/-! ## Converting records -/

/-- The rule is the one that the record declares. -/
structure Declares (record : Json) (rule : Rule) : Prop where
  /-- The field is the one that the record names. -/
  field : rule.field = word record "field"
  /-- The pattern is the one with the record's key. -/
  pattern : Pattern.compile (key record).1 (key record).2 = .ok rule.pattern
  /-- The replacement text has its references in braces. -/
  replacement : rule.replacement = Pattern.braced (word record "replace")
  /-- All matches are replaced if the record says so. -/
  all : rule.all = isSet record "globalmatch"

/-- What converting records comes to, the first of which has the given index: the rules that they
declare, or an error about the first record whose pattern does not compile. -/
inductive Converts (module : String) (index : Nat) (records : List Json) :
    Except Error (List Rule) → Prop where
  | rules {rules : List Rule} (each : List.Forall₂ Declares records rules) :
      Converts module index records (.ok rules)
  | fault {before after : List Json} {record : Json} (split : records = before ++ record :: after)
      (good : ∀ r ∈ before, Compiles (key r)) (bad : ¬ Compiles (key record)) :
      Converts module index records
        (.error (.pattern module (index + before.length) (word record "field") (word record "match")))

section

variable {module : String} {index : Nat} {record : Json} {records : List Json}

theorem declares_of_ofRecord {rule : Rule} (h : ofRecord module index record = .ok rule) :
    Declares record rule := by
  obtain ⟨pattern, hpattern, rfl⟩ := ofRecord_eq_ok h
  exact ⟨rfl, hpattern, rfl, rfl⟩

theorem converts_cons {result : Except Error (List Rule)} {rule : Rule}
    (hrule : ofRecord module index record = .ok rule) (h : Converts module (index + 1) records result) :
    Converts module index (record :: records) (result.map (rule :: ·)) := by
  cases h with
  | rules each => exact .rules (.cons (declares_of_ofRecord hrule) each)
  | @fault before after bad' split good bad =>
    have hcompiles : Compiles (key record) := (compiles_key module index).2 ⟨rule, hrule⟩
    -- The index counts from the first record, so one more lies before the faulty one.
    have hindex : index + 1 + before.length = index + (record :: before).length := by
      rw [List.length_cons]
      omega
    rw [hindex]
    exact .fault (congrArg (record :: ·) split) (List.forall_mem_cons.2 ⟨hcompiles, good⟩) bad

theorem converts_ofRecords (module : String) (index : Nat) (records : List Json) :
    Converts module index records (ofRecords module index records) := by
  induction records generalizing index with
  | nil => exact .rules .nil
  | cons record records ih =>
    cases hrule : ofRecord module index record with
    | ok rule =>
      have hcons : ofRecords module index (record :: records) =
          (ofRecords module (index + 1) records).map (rule :: ·) := by
        rw [ofRecords, hrule]
        rfl
      rw [hcons]
      exact converts_cons hrule (ih (index + 1))
    | error e =>
      have hbad : ¬ Compiles (key record) := by
        intro h
        obtain ⟨rule, hok⟩ := (compiles_key module index).1 h
        rw [hrule] at hok
        cases hok
      obtain ⟨-, rfl⟩ := ofRecord_eq_error.1 hrule
      rw [ofRecords, hrule]
      exact .fault (List.nil_append _).symm (List.forall_mem_nil _) hbad

end

/-! ## Any number of calls -/

/-- What is done with the patterns that a stage keeps. -/
inductive Call where
  /-- Definitions are compiled, and their patterns are kept. -/
  | prime (rules : List Conf)
  /-- Records are converted. -/
  | convert (pieces : Pieces)

namespace Call

/-- The patterns that are kept after a call, be it that it has failed. -/
def after (module : String) (cache : PatternCache) : Call → PatternCache
  | .prime rules => ((Rule.prime module 0 rules).run cache).2
  | .convert pieces => ((Rule.convert module pieces).run cache).2

/-- The definitions that a call compiles. -/
def compiled : Call → List Conf
  | .prime rules => Rule.compiled rules
  | .convert _ => []

/-- A call keeps the patterns of the definitions that it compiles, and no others. -/
theorem keys_after (module : String) (call : Call) (cache : PatternCache) :
    (call.after module cache).keys = (declaredKeys call.compiled).reverse ∪ cache.keys := by
  cases call with
  | prime rules => exact keys_prime module rules 0 cache
  | convert pieces =>
    show ((Rule.convert module pieces).run cache).2.keys = _
    rw [convert_run]
    rfl

end Call

/-- The patterns that are kept after calls, of which there are none before. -/
def keptAfter (module : String) (calls : List Call) : PatternCache :=
  calls.foldl (Call.after module) .empty

theorem keys_keptAfter (module : String) (calls : List Call) :
    (keptAfter module calls).keys = (declaredKeys (calls.flatMap Call.compiled)).reverse ∪ [] := by
  induction calls using List.reverseRecOn with
  | nil => rfl
  | append_singleton calls call ih =>
    have hlast : keptAfter module (calls ++ [call]) = call.after module (keptAfter module calls) := by
      rw [keptAfter, List.foldl_append]
      rfl
    rw [hlast, Call.keys_after, ih, ← append_union, ← List.reverse_append]
    simp [declaredKeys]

-- What comes before a definition that does not compile is kept.
example : (keptAfter "m" [.prime [.record [("match", .text "o")], .record [("match", .text "(")],
    .record [("match", .text "x")]]]).keys = [("o", {})] := by
  rw [keys_keptAfter]
  cbv

/-- After any calls, the patterns that are kept are those of the definitions that have been compiled,
each as it compiles anew, each once, and so no more than there are such definitions. Converting records
gives the rules that they declare, or the error of the first one whose pattern does not compile, just
as if nothing was kept, and leaves what is kept as it is. Compiling definitions without an error adds the
patterns of all those that are the same for all items. -/
theorem kept_after (module : String) (calls : List Call) :
    let cache := keptAfter module calls
    (∀ source flags, cache.get? source flags =
      if (source, flags) ∈ declaredKeys (calls.flatMap Call.compiled)
      then (Pattern.compile source flags).toOption else none) ∧
    (cache.keys.Nodup ∧ cache.size ≤ (calls.flatMap Call.compiled).length) ∧
    (∀ pieces, (convert module pieces).run cache = (((convert module pieces).run .empty).1, cache) ∧
      Converts module 0 pieces.toList ((convert module pieces).run cache).1) ∧
    ∀ rules, ((prime module 0 rules).run cache).1 = ((prime module 0 rules).run .empty).1 ∧
      (((prime module 0 rules).run cache).1 = .ok () →
        ∀ k, k ∈ ((prime module 0 rules).run cache).2.keys ↔
          k ∈ cache.keys ∨ k ∈ declaredKeys (rules.filter Conf.isStatic)) := by
  intro cache
  have hkeys : cache.keys = (declaredKeys (calls.flatMap Call.compiled)).reverse ∪ [] :=
    keys_keptAfter module calls
  have hmem : ∀ k, k ∈ cache.keys ↔ k ∈ declaredKeys (calls.flatMap Call.compiled) := by
    intro k
    rw [hkeys, List.mem_union_iff, List.mem_reverse]
    simp only [List.not_mem_nil, or_false]
  have hnodup : cache.keys.Nodup := by
    rw [hkeys]
    exact List.Nodup.union _ List.nodup_nil
  refine ⟨fun source flags => ?_, ⟨hnodup, ?_⟩, fun pieces => ?_, fun rules => ⟨?_, fun h k => ?_⟩⟩
  · rw [cache.get?_eq]
    simp only [hmem]
  · calc cache.size = cache.keys.length := cache.length_keys.symm
      _ ≤ (declaredKeys (calls.flatMap Call.compiled)).length :=
        (List.subperm_of_subset hnodup fun k => (hmem k).1).length_le
      _ ≤ (calls.flatMap Call.compiled).length := List.length_filterMap_le _ _
  · rw [convert_run, convert_run]
    exact ⟨rfl, converts_ofRecords module 0 pieces.toList⟩
  · rw [prime_fst, prime_fst]
  · rw [prime_fst, checkFrom_eq_ok_iff] at h
    rw [keys_prime, compiled_of_sound h, List.mem_union_iff, List.mem_reverse, or_comm]

end Rule

end ItemFlow
