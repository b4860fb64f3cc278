import ItemFlow.Pipeline
import ItemFlow.Proofs.Conf.Outputs
import ItemFlow.Proofs.Conf.Static
import ItemFlow.Proofs.Stage.Treatment
import Mathlib

/-!
# What is found when a stage starts

A stage that starts checks its definitions in order and stops at the first one that is at fault; the
patterns that it keeps meanwhile make no difference (`Rule.prime_fst`, `Stage.start_eq_error`).
Only definitions that are the same for all items are checked, and these as a whole: a pattern that
is written as a literal and does not compile is found if the other fields of its rule are literals
too (`Stage.start_refuses_bad_pattern`), and otherwise only when an item comes
(`Stage.start_admits_unclosed`).
-/

namespace ItemFlow

namespace Conf

/-- The value of a literal, brought into its form. -/
def constant? : Conf → Option Json
  | .literal v coercion => coercion.coerce? v
  | _ => none

theorem valueAt_of_literal? {c : Conf} (h : c.literal?.isSome) (item : Item)
    (slot : Nat → Option Json) (k : Nat) : c.valueAt item slot k = c.constant? := by
  cases c with
  | literal v coercion => rw [valueAt]; rfl
  | _ => cases h

end Conf

namespace Rule

/-! ## Checking definitions -/

/-- Checks a definition when its stage starts. One that may change from item to item is let
through. -/
def check (module : String) (index : Nat) (c : Conf) : Except Error Unit :=
  if c.isStatic then do
    let value ← ((c.resolveWith .empty module (Conf.indexLocation parameter index)).run []).1
    let _ ← ofRecord module index value
    return ()
  else return ()

/-- Checks definitions in order, the first of which has the given index. -/
def checkFrom (module : String) (index : Nat) : List Conf → Except Error Unit
  | [] => .ok ()
  | c :: rest => do
    check module index c
    checkFrom module (index + 1) rest

theorem check_of_checkFrom {module : String} {index : Nat} {rules : List Conf}
    (h : checkFrom module index rules = .ok ()) {i : Nat} {c : Conf} (hc : rules[i]? = some c) :
    check module (index + i) c = .ok () := by
  induction rules generalizing index i with
  | nil => cases hc
  | cons c' rest ih =>
    obtain ⟨⟨⟩, hcheck, h⟩ := Except.of_bind_ok h
    cases i with
    | zero => cases hc; exact hcheck
    | succ i =>
      rw [Nat.add_succ, ← Nat.succ_add]
      exact ih h hc

/-! ## Definitions that are the same for all items -/

/-- The record that a definition comes to for every item, if it is the same for all items and has a
value. -/
def constantRecord? (c : Conf) : Option Json :=
  if c.isStatic then c.valueAt .empty (fun _ => none) 0 else none

/-- The patterns that are kept once a definition has been compiled. -/
def keeping (c : Conf) (cache : PatternCache) : PatternCache :=
  match constantRecord? c with
  | some record => (cache.compile (word record "match") (flags record)).2
  | none => cache

theorem isStatic_of_constantRecord? {c : Conf} {record : Json} (h : constantRecord? c = some record) :
    c.isStatic = true := by
  by_contra hstatic
  rw [constantRecord?, if_neg hstatic] at h
  cases h

section

variable {c : Conf} (static : c.isStatic = true) (module location : String)

include static

/-- The value that is found at the start is that of the definition. -/
theorem constantRecord?_eq_some {record : Json} : constantRecord? c = some record ↔
    ((c.resolveWith .empty module location).run []).1 = .ok record := by
  have haligned : Conf.Aligned (fun _ => none) 0 c.subPipes [] := by
    rw [Conf.subPipes_of_static static]
    intro i hi
    cases hi
  have htakes := Conf.takes_resolveWith .empty module c location haligned
  rw [Conf.subPipes_of_static static] at htakes
  rw [constantRecord?, if_pos static]
  constructor
  · intro h
    rw [(htakes record []).2 ⟨Nat.zero_le _, rfl, h⟩]
  · intro h
    obtain ⟨r, hr, -⟩ := Conf.invariable_resolveWith module c location static
    rw [hr] at h
    subst h
    exact ((htakes record []).1 (hr .empty [])).2.2

theorem constantRecord?_eq_none {e : Error}
    (h : ((c.resolveWith .empty module location).run []).1 = .error e) : constantRecord? c = none := by
  refine Option.eq_none_iff_forall_ne_some.2 fun record hrecord => ?_
  rw [(constantRecord?_eq_some static module location).1 hrecord] at h
  cases h

end

/-- A definition that comes to a record is in order if the record declares a rule. -/
theorem check_of_constantRecord? {c : Conf} {record : Json} (h : constantRecord? c = some record)
    (module : String) (index : Nat) :
    check module index c = (ofRecord module index record).map fun _ => () := by
  have static := isStatic_of_constantRecord? h
  have hv := (constantRecord?_eq_some static module (Conf.indexLocation parameter index)).1 h
  rw [check, if_pos static, hv]
  show (ofRecord module index record >>= fun _ => pure ()) = _
  cases ofRecord module index record <;> rfl

/-- Compiling definitions checks the first one, keeps its pattern and goes on if it is in order. -/
theorem prime_cons (module : String) (c : Conf) (rest : List Conf) (index : Nat) (cache : PatternCache) :
    (prime module index (c :: rest)).run cache =
      match check module index c with
      | .ok () => (prime module (index + 1) rest).run (keeping c cache)
      | .error e => (.error e, keeping c cache) := by
  by_cases static : c.isStatic = true
  · rw [prime, if_pos static]
    dsimp only
    cases hv : ((c.resolveWith .empty module (Conf.indexLocation parameter index)).run []).1 with
    | error e =>
      have hcheck : check module index c = .error e := by
        rw [check, if_pos static, hv]
        rfl
      rw [hcheck, keeping, constantRecord?_eq_none static module _ hv]
      rfl
    | ok record =>
      have hrecord := (constantRecord?_eq_some static module _).2 hv
      have hlift : (liftM (.ok record : Except Error Json) : Compile Json).run cache =
          (.ok record, cache) := rfl
      have hcompile := compile_run module index cache true record
      rw [check_of_constantRecord? hrecord, keeping, hrecord, run_bind_ok hlift]
      cases hr : ofRecord module index record with
      | error e =>
        rw [hr] at hcompile
        rw [run_bind_error hcompile]
        rfl
      | ok rule =>
        rw [hr] at hcompile
        rw [run_bind_ok hcompile]
        rfl
  · rw [prime, check, if_neg static, if_neg static, keeping, constantRecord?, if_neg static]
    rfl

/-- Compiling the definitions that are the same for all items finds what checking them finds. -/
theorem prime_fst (module : String) (rules : List Conf) (index : Nat) (cache : PatternCache) :
    ((prime module index rules).run cache).1 = checkFrom module index rules := by
  -- Compiling leaves more patterns behind for the definitions that follow, so the cache is any.
  induction rules generalizing index cache with
  | nil => rfl
  | cons c rest ih =>
    rw [prime_cons]
    show _ = check module index c >>= fun _ => checkFrom module (index + 1) rest
    cases check module index c with
    | error e => rfl
    | ok _ => exact ih (index + 1) (keeping c cache)

/-! ## Patterns that are literals -/

/-- The fields of a rule's record that make its pattern. -/
def patternKeys : List String := ["match", "casematch", "multilinematch", "singlelinematch"]

/-- Every field that makes the pattern is declared by a literal. -/
def LiteralPattern (fields : List (String × Conf)) : Prop :=
  ∀ f ∈ fields, f.1 ∈ patternKeys → f.2.literal?.isSome

instance (fields : List (String × Conf)) : Decidable (LiteralPattern fields) :=
  inferInstanceAs (Decidable (∀ f ∈ fields, f.1 ∈ patternKeys → f.2.literal?.isSome))

/-- The fields that are declared by literals, each brought into its form. -/
def literalFields (fields : List (String × Conf)) : List (String × Json) :=
  fields.filterMap fun f => f.2.constant?.map (f.1, ·)

/-- The record of the fields that are declared by literals. -/
def literalRecord (fields : List (String × Conf)) : Json :=
  .obj (Fields.lastValues (literalFields fields))

section

variable {name : String} {c : Conf} {rest : List (String × Conf)}

theorem literalFields_cons_some {v : Json} (h : c.constant? = some v) :
    literalFields ((name, c) :: rest) = (name, v) :: literalFields rest :=
  List.filterMap_cons_some (by rw [h]; rfl)

theorem literalFields_cons_none (h : c.constant? = none) :
    literalFields ((name, c) :: rest) = literalFields rest :=
  List.filterMap_cons_none (by rw [h]; rfl)

end

/-- Under a key that literals declare, the fields of a rule have the values of the literals. -/
theorem lookup_fieldsAt {fields : List (String × Conf)} {key : String}
    (hkey : ∀ f ∈ fields, f.1 = key → f.2.literal?.isSome) {item : Item} {slot : Nat → Option Json}
    {k : Nat} {values : List (String × Json)} (h : Conf.fieldsAt item slot k fields = some values) :
    values.reverse.lookup key = (literalFields fields).reverse.lookup key := by
  induction fields generalizing k values with
  | nil => cases h; rfl
  | cons f rest ih =>
    obtain ⟨name, c⟩ := f
    rw [Conf.fieldsAt] at h
    obtain ⟨v, hv, h⟩ := Option.bind_eq_some_iff.1 h
    obtain ⟨vs, hvs, h⟩ := Option.bind_eq_some_iff.1 h
    cases h
    have ih := ih (fun f hf => hkey f (List.mem_cons_of_mem _ hf)) hvs
    by_cases hname : name = key
    · have hc : c.constant? = some v := by
        rw [← Conf.valueAt_of_literal? (hkey (name, c) List.mem_cons_self hname) item slot k, hv]
      rw [literalFields_cons_some hc, List.reverse_cons, List.reverse_cons, List.lookup_append,
        List.lookup_append, ih]
    · -- A field of another name may be no literal, but then it does not count on either side.
      rw [Fields.lookup_reverse_cons_ne hname, ih]
      cases hc : c.constant? with
      | none => rw [literalFields_cons_none hc]
      | some v' => rw [literalFields_cons_some hc, Fields.lookup_reverse_cons_ne hname]

/-- A rule whose pattern is declared by literals has that pattern, whatever item and outputs its
other fields are resolved with. -/
theorem pattern_of_literals {fields : List (String × Conf)} (h : LiteralPattern fields) {item : Item}
    {module location : String} {outputs rest : List (List Item)} {v : Json}
    (hv : ((Conf.record fields).resolveWith item module location).run outputs = (.ok v, rest)) :
    word v "match" = word (literalRecord fields) "match" ∧ flags v = flags (literalRecord fields) := by
  have htakes := Conf.takes_resolveWith item module (.record fields) location
    (Conf.aligned_slots (Conf.record fields).subPipes outputs)
  obtain ⟨-, -, hvalue⟩ := (htakes v rest).1 hv
  rw [Conf.valueAt] at hvalue
  obtain ⟨values, hvalues, hvalue⟩ := Option.bind_eq_some_iff.1 hvalue
  cases hvalue
  have hfield : ∀ key ∈ patternKeys, (Json.obj (Fields.lastValues values)).field? key =
      (literalRecord fields).field? key := by
    intro key hkey
    show (Fields.lastValues values).lookup key = (Fields.lastValues (literalFields fields)).lookup key
    rw [Fields.lookup_lastValues, Fields.lookup_lastValues]
    refine lookup_fieldsAt (fun f hf hname => ?_) hvalues
    exact h f hf (hname ▸ hkey)
  constructor
  · rw [word, hfield "match" (by decide), ← word]
  · rw [flags, isSet, isSet, isSet, hfield "casematch" (by decide), hfield "multilinematch" (by decide),
      hfield "singlelinematch" (by decide)]
    rfl

end Rule

namespace Stage

variable {s : Stage} {ctx : Context}

/-! ## Starting -/

/-- A stage fails to start just if checking its definitions does, and with the same error. -/
theorem start_eq_error {e : Error} :
    s.start ctx = .error e ↔ Rule.checkFrom moduleName 0 s.template.rules = .error e := by
  have hprime := Rule.prime_fst moduleName s.template.rules 0 .empty
  unfold start
  generalize (Rule.prime moduleName 0 s.template.rules).run .empty = primed at hprime ⊢
  obtain ⟨result, cache⟩ := primed
  rw [← hprime]
  constructor
  · intro h
    cases result with
    | error e' => cases h; rfl
    | ok _ => cases h
  · intro h
    cases h
    rfl

/-- A pipeline with a stage that does not start fails before anything is asked of its source. -/
theorem execute_eq_error {e : Error} (h : s.start ctx = .error e) {p : Pipeline} (hs : s ∈ p.stages) :
    ∃ e', ∀ flow waiting, p.execute ctx flow = .error e' ∧ p.executeDeferred ctx waiting = .error e' := by
  unfold Pipeline.execute Pipeline.executeDeferred
  generalize p.stages = stages at hs ⊢
  induction stages with
  | nil => cases hs
  | cons first rest ih =>
    simp only [Pipeline.executeStages, Pipeline.executeStagesDeferred]
    cases hf : first.start ctx with
    | error e' => exact ⟨e', fun _ _ => ⟨rfl, rfl⟩⟩
    | ok running =>
      rcases List.mem_cons.1 hs with rfl | hs
      · rw [h] at hf
        cases hf
      · -- The flows change on the way to the stage, and the error is the same for all flows.
        obtain ⟨e', he'⟩ := ih hs
        exact ⟨e', fun flow waiting => he' (running.through flow) (running.throughDeferred waiting)⟩

/-! ## Literal patterns -/

/-- A pattern that is declared by literals and does not compile keeps its stage from starting, if
the whole rule is the same for all items. A pipeline with the stage then fails at once too. -/
theorem start_refuses_bad_pattern (s : Stage) (ctx : Context) (rules : Conf) (index : Nat)
    (fields : List (String × Conf)) (fault : Pattern.Fault)
    (hrules : s.conf.field? Rule.parameter = some rules)
    (hrule : rules.listize[index]? = some (.record fields))
    (hstatic : (Conf.record fields).isStatic = true) (hliteral : Rule.LiteralPattern fields)
    (hbad : Pattern.compile (Rule.word (Rule.literalRecord fields) "match")
      (Rule.flags (Rule.literalRecord fields)) = .error fault) :
    ∃ e, s.start ctx = .error e ∧ ∀ p : Pipeline, s ∈ p.stages →
      ∃ e', ∀ flow waiting,
        p.execute ctx flow = .error e' ∧ p.executeDeferred ctx waiting = .error e' := by
  suffices h : ∃ e, Rule.checkFrom moduleName 0 s.template.rules = .error e by
    obtain ⟨e, he⟩ := h
    have hstart : s.start ctx = .error e := start_eq_error.2 he
    exact ⟨e, hstart, fun p hs => execute_eq_error hstart hs⟩
  cases hcheck : Rule.checkFrom moduleName 0 s.template.rules with
  | error e => exact ⟨e, rfl⟩
  | ok _ =>
    have hget : s.template.rules[index]? = some (.record fields) := by
      rw [rules_template, hrules]
      exact hrule
    have hok := Rule.check_of_checkFrom hcheck hget
    rw [Rule.check, if_pos hstatic] at hok
    obtain ⟨v, hv, hok⟩ := Except.of_bind_ok hok
    obtain ⟨rule, hrule, -⟩ := Except.of_bind_ok hok
    obtain ⟨hmatch, hflags⟩ := Rule.pattern_of_literals hliteral (Prod.ext hv rfl)
    rw [Rule.ofRecord, hmatch, hflags, hbad] at hrule
    cases hrule

/-- The fields of a rule whose pattern does not compile. -/
def unclosedFields (replacement : Conf) : List (String × Conf) :=
  [("field", .text "t"), ("match", .text "("), ("replace", replacement)]

/-- A stage with such a rule. -/
def unclosed (replacement : Conf) : Stage where
  conf := .record [(Rule.parameter, .list [.record (unclosedFields replacement)])]

/-- With a literal for its replacement the rule is refused. -/
theorem start_refuses_bad_pattern_unclosed : ∃ e, (unclosed (.text "x")).start {} = .error e ∧
    ∀ p : Pipeline, unclosed (.text "x") ∈ p.stages → ∃ e', ∀ flow waiting,
      p.execute {} flow = .error e' ∧ p.executeDeferred {} waiting = .error e' :=
  start_refuses_bad_pattern (unclosed (.text "x")) {} _ 0 (unclosedFields (.text "x")) .groupUnclosed
    rfl rfl (by decide) (by decide) (by cbv)

/-- With a reference for its replacement the rule is let through, although its pattern is declared by
literals and does not compile: the stage starts, and fails once it has pulled an item. -/
theorem start_admits_unclosed : Rule.LiteralPattern (unclosedFields (.reference "r" .null)) ∧
    Pattern.compile (Rule.word (Rule.literalRecord (unclosedFields (.reference "r" .null))) "match")
      (Rule.flags (Rule.literalRecord (unclosedFields (.reference "r" .null)))) =
        .error .groupUnclosed ∧
    ∃ running, (unclosed (.reference "r" .null)).start {} = .ok running ∧
      (running.through (.ofSource 0 [⟨[("t", .str "x")]⟩])).take 0 none =
        ⟨[.pull 0, .out 0], [.error (.pattern moduleName 0 "t" "(")]⟩ := by
  refine ⟨by decide, by cbv, _, rfl, ?_⟩
  cbv

end Stage

end ItemFlow
