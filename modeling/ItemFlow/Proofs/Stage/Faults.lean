import ItemFlow.Proofs.Conf.Static
import ItemFlow.Proofs.Stage.Setup
import ItemFlow.Proofs.Stage.Walk
import Mathlib

/-!
# Faults that are found when a stage starts

A definition that is the same for all items is at fault if it has no value or if the pattern that it
declares does not compile (`Rule.Fault`). A stage fails to start just if one of its definitions is at
fault, and the first of them gives the error. Once a stage has started, such a definition has for
every item the value that was seen at the start, so what goes wrong with an item comes from a
definition that may change from item to item (`Stage.start_finds_faults`).
-/

namespace ItemFlow

open Conf (Within indexLocation)

namespace Rule

open Stage (moduleName)

/-! ## Faults -/

/-- What a definition comes to when its stage starts: with no fields in the item and no outputs. -/
def atStart (index : Nat) (c : Conf) : Except Error Json :=
  ((c.resolveWith .empty moduleName (indexLocation parameter index)).run []).1

/-- A definition that is the same for all items is at fault: it has no value, or the pattern that it
declares does not compile. The error says which. -/
inductive Fault (index : Nat) (c : Conf) : Error → Prop where
  | value (static : c.isStatic = true) {e : Error} (h : atStart index c = .error e) : Fault index c e
  | pattern (static : c.isStatic = true) {v : Json} {fault : Pattern.Fault}
      (h : atStart index c = .ok v)
      (bad : Pattern.compile (word v "match") (flags v) = .error fault) :
      Fault index c (.pattern moduleName index (word v "field") (word v "match"))

/-- The error is about the definition with the index: a literal in it cannot be brought into its
form, or its pattern does not compile. -/
inductive Concerns (index : Nat) : Error → Prop where
  | coercion {location : String} (within : Within (indexLocation parameter index) location)
      (expected found : String) : Concerns index (.coercion moduleName location expected found)
  | pattern (field pattern : String) : Concerns index (.pattern moduleName index field pattern)

section

variable {index : Nat} {c : Conf} {rules : List Conf} {e : Error}

/-- A definition that is the same for all items comes to the same with every item and all outputs,
and takes none. -/
theorem resolveWith_of_static (h : c.isStatic = true) (item : Item) (outputs : List (List Item)) :
    (c.resolveWith item moduleName (indexLocation parameter index)).run outputs =
      (atStart index c, outputs) := by
  obtain ⟨r, hr, -⟩ := Conf.invariable_resolveWith moduleName c (indexLocation parameter index) h
  have hstart : atStart index c = r := congrArg Prod.fst (hr .empty [])
  rw [hr, hstart]

/-- Checking a definition finds its fault. -/
theorem check_eq_error : check moduleName index c = .error e ↔ Fault index c e := by
  unfold check
  rw [← atStart]
  by_cases static : c.isStatic = true
  · rw [if_pos static, Except.bind_eq_error]
    constructor
    · rintro (h | ⟨v, hv, h⟩)
      · exact .value static h
      · rcases Except.bind_eq_error.1 h with h | ⟨rule, -, h⟩
        · obtain ⟨⟨fault, bad⟩, rfl⟩ := ofRecord_eq_error.1 h
          exact .pattern static hv bad
        · cases h
    · intro h
      cases h with
      | value _ h => exact .inl h
      | pattern _ hv bad =>
        exact .inr ⟨_, hv, Except.bind_eq_error.2 (.inl (ofRecord_eq_error.2 ⟨⟨_, bad⟩, rfl⟩))⟩
  · rw [if_neg static]
    constructor
    · intro h
      cases h
    · intro h
      cases h with
      | value h' => exact absurd h' static
      | pattern h' => exact absurd h' static

theorem check_eq_ok : check moduleName index c = .ok () ↔ ∀ e, ¬ Fault index c e := by
  cases h : check moduleName index c with
  | ok _ =>
    refine iff_of_true rfl fun e he => ?_
    rw [check_eq_error.2 he] at h
    cases h
  | error e => exact iff_of_false nofun fun hnone => hnone e (check_eq_error.1 h)

/-- Checking definitions finds the fault of the first one that is at fault. -/
theorem checkFrom_eq_error : checkFrom moduleName index rules = .error e ↔
    ∃ i c, rules[i]? = some c ∧ Fault (index + i) c e ∧
      ∀ j < i, ∀ c', rules[j]? = some c' → ∀ e', ¬ Fault (index + j) c' e' := by
  induction rules generalizing index with
  | nil =>
    refine iff_of_false nofun ?_
    rintro ⟨i, c, hc, -⟩
    cases hc
  | cons c rules ih =>
    show check moduleName index c >>= (fun _ => checkFrom moduleName (index + 1) rules) = _ ↔ _
    rw [Except.bind_eq_error, check_eq_error, ih]
    constructor
    · rintro (h | ⟨⟨⟩, hc, i, c', hc', h, hfirst⟩)
      · exact ⟨0, c, rfl, h, nofun⟩
      · refine ⟨i + 1, c', hc', by rwa [Nat.add_comm i, ← Nat.add_assoc], fun j hj c'' hc'' => ?_⟩
        cases j with
        | zero => cases hc''; exact check_eq_ok.1 hc
        | succ j =>
          rw [Nat.add_comm j, ← Nat.add_assoc]
          exact hfirst j (by omega) c'' hc''
    · rintro ⟨i, c', hc', h, hfirst⟩
      cases i with
      | zero => cases hc'; exact .inl h
      | succ i =>
        refine .inr ⟨(), check_eq_ok.2 (hfirst 0 (by omega) c rfl), i, c', hc', ?_, fun j hj c'' hc'' => ?_⟩
        · rwa [Nat.add_comm i, ← Nat.add_assoc] at h
        · have := hfirst (j + 1) (by omega) c'' hc''
          rwa [Nat.add_comm j, ← Nat.add_assoc] at this

/-- A fault is about the definition that has it. -/
theorem Fault.concerns (h : Fault index c e) : Concerns index e := by
  cases h with
  | pattern => exact .pattern _ _
  | value static h =>
    -- The error comes of a literal, and names a place within the definition.
    obtain ⟨r, hr, herror⟩ := Conf.invariable_resolveWith moduleName c (indexLocation parameter index) static
    have hrun : (c.resolveWith .empty moduleName (indexLocation parameter index)).run [] = (.error e, []) := by
      rw [resolveWith_of_static static, h]
    have hr' : r = .error e := congrArg Prod.fst ((hr .empty []).symm.trans hrun)
    obtain ⟨module, location, expected, found, rfl⟩ := herror e hr'
    cases Conf.resolveWith_error hrun with
    | coercion within => exact .coercion within expected found

end

/-! ## Definitions that are in order -/

/-- No definition is at fault. -/
def Faultless (rules : List Conf) : Prop := ∀ i c, rules[i]? = some c → ∀ e, ¬ Fault i c e

section

variable {rules : List Conf} {i : Nat} {c : Conf} {e : Error}

/-- A definition that is the same for all items has a value then, and the value declares a rule. -/
theorem Faultless.atStart (h : Faultless rules) (hc : rules[i]? = some c) (static : c.isStatic = true) :
    ∃ v, atStart i c = .ok v ∧ ∀ e, ofRecord moduleName i v ≠ .error e := by
  cases hv : Rule.atStart i c with
  | error e => exact absurd (.value static hv) (h i c hc e)
  | ok v =>
    refine ⟨v, rfl, fun e he => ?_⟩
    obtain ⟨⟨fault, bad⟩, rfl⟩ := ofRecord_eq_error.1 he
    exact h i c hc _ (.pattern static hv bad)

variable {item : Item} {outputs rest : List (List Item)}

/-- In a list of values, a definition that is the same for all items has the value that was seen. -/
theorem atStart_eq_piece {values : List Json}
    (hvalues : (Conf.resolveElements item moduleName parameter 0 rules).run outputs = (.ok values, rest))
    (hc : rules[i]? = some c) (static : c.isStatic = true) :
    ∃ v, Rule.atStart i c = .ok v ∧ values[i]? = some v := by
  rcases Conf.getElem?_of_resolveElements_ok hvalues i with ⟨-, hnone⟩ | ⟨c', v, taken, left, hc', hv, hrun⟩
  · rw [hnone] at hc
    cases hc
  · rw [hc] at hc'
    cases hc'
    rw [Nat.zero_add, resolveWith_of_static static] at hrun
    exact ⟨v, congrArg Prod.fst hrun, hv⟩

/-- What fails to be resolved is a definition that may change. -/
theorem Faultless.resolve_error (h : Faultless rules)
    (hrun : (Conf.resolveElements item moduleName parameter 0 rules).run outputs = (.error e, rest)) :
    ∃ i c, rules[i]? = some c ∧ c.isStatic = false ∧ Conf.Fails moduleName (indexLocation parameter i) e := by
  obtain ⟨i, c, taken, hc, hrun⟩ := Conf.exists_of_resolveElements_error hrun
  rw [Nat.zero_add] at hrun
  refine ⟨i, c, hc, ?_, Conf.resolveWith_error hrun⟩
  by_contra hstatic
  have static : c.isStatic = true := by simpa using hstatic
  obtain ⟨v, hv, -⟩ := h.atStart hc static
  rw [resolveWith_of_static static, hv] at hrun
  cases hrun

/-- A record that declares no rule is that of a definition that may change. -/
theorem Faultless.ofRecords_error (h : Faultless rules) {values : List Json}
    (hvalues : (Conf.resolveElements item moduleName parameter 0 rules).run outputs = (.ok values, rest))
    (herror : ofRecords moduleName 0 values = .error e) :
    ∃ i c field source, e = .pattern moduleName i field source ∧ rules[i]? = some c ∧
      c.isStatic = false := by
  obtain ⟨i, v, hv, herror⟩ := exists_of_ofRecords_error herror
  rw [Nat.zero_add] at herror
  rcases Conf.getElem?_of_resolveElements_ok hvalues i with ⟨hnone, -⟩ | ⟨c, -, -, -, hc, -, -⟩
  · rw [hnone] at hv
    cases hv
  · refine ⟨i, c, _, _, (ofRecord_eq_error.1 herror).2, hc, ?_⟩
    by_contra hstatic
    have static : c.isStatic = true := by simpa using hstatic
    obtain ⟨v', hv', hgood⟩ := h.atStart hc static
    obtain ⟨v'', hv'', hpiece⟩ := atStart_eq_piece hvalues hc static
    rw [hv'] at hv''
    cases hv''
    rw [hv] at hpiece
    cases hpiece
    exact hgood e herror

end

end Rule

namespace Stage

open Rule (atStart Fault Concerns Faultless)

variable {s : Stage} {ctx : Context} {e : Error}

/-! ## The start -/

/-- The first definition that is at fault gives the error of the start. -/
theorem start_eq_error_iff : s.start ctx = .error e ↔
    ∃ i c, s.template.rules[i]? = some c ∧ Fault i c e ∧
      ∀ j < i, ∀ c', s.template.rules[j]? = some c' → ∀ e', ¬ Fault j c' e' := by
  rw [start_eq_error, Rule.checkFrom_eq_error]
  simp only [Nat.zero_add]

/-- A definition that is at fault, be it the first one or not, keeps its stage from starting. -/
theorem exists_start_error (ctx : Context) {i : Nat} {c : Conf} (hc : s.template.rules[i]? = some c)
    (h : Fault i c e) : ∃ e', s.start ctx = .error e' := by
  classical
  have hsome : ∃ i c e, s.template.rules[i]? = some c ∧ Fault i c e := ⟨i, c, e, hc, h⟩
  obtain ⟨c', e', hc', h'⟩ := Nat.find_spec hsome
  refine ⟨e', start_eq_error_iff.2 ⟨Nat.find hsome, c', hc', h', fun j hj c'' hc'' e'' h'' => ?_⟩⟩
  exact Nat.find_min hsome hj ⟨c'', e'', hc'', h''⟩

theorem faultless_of_start {running : Running} (h : s.start ctx = .ok running) :
    Faultless s.template.rules := by
  intro i c hc e hfault
  obtain ⟨e', he'⟩ := exists_start_error ctx hc hfault
  rw [h] at he'
  cases he'

/-! ## After the start -/

/-- What can go wrong with an item, given outputs of the embedded pipes, when every definition that
is the same for all items is in order. -/
structure Cleared (t : Template) (item : Item) (outputs : List (List Item)) : Prop where
  /-- A definition that is the same for all items has the value that was seen at the start. -/
  value : ∀ i c, t.rules[i]? = some c → c.isStatic = true → ∃ v, atStart i c = .ok v ∧
    (c.resolveWith item moduleName (indexLocation Rule.parameter i)).run outputs = (.ok v, outputs)
  /-- It has that value among the pieces too. -/
  piece : ∀ pieces rest, (t.resolvePieces item).run outputs = (.ok pieces, rest) →
    ∀ i c, t.rules[i]? = some c → c.isStatic = true →
      ∃ v, atStart i c = .ok v ∧ pieces.toList[i]? = some v
  /-- A literal that cannot be brought into its form is in one definition, and that one may change. -/
  coercion : ∀ module location expected found rest,
    (t.resolvePieces item).run outputs = (.error (.coercion module location expected found), rest) →
      ∃ i c, t.rules[i]? = some c ∧ c.isStatic = false ∧
        Within (indexLocation Rule.parameter i) location ∧
        ∀ j, Within (indexLocation Rule.parameter j) location → j = i
  /-- A pattern that does not compile is that of a definition that may change. -/
  pattern : ∀ pieces rest, (t.resolvePieces item).run outputs = (.ok pieces, rest) →
    ∀ cache cache' e, (Running.intake.convert pieces).run cache = (.error e, cache') →
      ∃ i c field source, e = .pattern moduleName i field source ∧ t.rules[i]? = some c ∧
        c.isStatic = false

theorem resolvePieces_template (s : Stage) (item : Item) :
    s.template.resolvePieces item =
      (Conf.resolveElements item moduleName Rule.parameter 0 s.template.rules >>= fun values =>
        pure (.list values)) := rfl

theorem cleared_of_faultless (h : Faultless s.template.rules) (item : Item)
    (outputs : List (List Item)) : Cleared s.template item outputs where
  value i c hc static := by
    obtain ⟨v, hv, -⟩ := h.atStart hc static
    exact ⟨v, hv, by rw [Rule.resolveWith_of_static static, hv]⟩
  piece pieces rest hrun i c hc static := by
    rw [resolvePieces_template] at hrun
    obtain ⟨values, taken, hvalues, hrun⟩ := run_bind_eq_ok.1 hrun
    cases hrun
    exact Rule.atStart_eq_piece hvalues hc static
  coercion module location expected found rest hrun := by
    rw [resolvePieces_template] at hrun
    rcases run_bind_eq_error.1 hrun with hrun | ⟨values, taken, -, hrun⟩
    · obtain ⟨i, c, hc, hstatic, hfails⟩ := h.resolve_error hrun
      cases hfails with
      | coercion within =>
        exact ⟨i, c, hc, hstatic, within, fun j hj => Conf.indexLocation_inj hj within⟩
    · cases hrun
  pattern pieces rest hrun cache cache' e hconvert := by
    rw [resolvePieces_template] at hrun
    obtain ⟨values, taken, hvalues, hrun⟩ := run_bind_eq_ok.1 hrun
    cases hrun
    refine h.ofRecords_error hvalues ?_
    exact congrArg Prod.fst ((Rule.convert_run moduleName cache (.list values)).symm.trans hconvert)

/-- A stage fails to start just if a definition that is the same for all items is at fault, with the
error of the first such definition. If it starts, what goes wrong with an item while its rules are
resolved and compiled is the fault of a definition that may change from item to item. -/
theorem start_finds_faults (s : Stage) (ctx : Context) :
    (∀ e, s.start ctx = .error e ↔ ∃ i c, s.template.rules[i]? = some c ∧ Fault i c e ∧
      ∀ j < i, ∀ c', s.template.rules[j]? = some c' → ∀ e', ¬ Fault j c' e') ∧
    ((∃ e, s.start ctx = .error e) ↔ ∃ i c e, s.template.rules[i]? = some c ∧ Fault i c e) ∧
    (∀ i c e, Fault i c e → Concerns i e) ∧
    ∀ running, s.start ctx = .ok running → running.template = s.template ∧
      ∀ item outputs, Cleared running.template item outputs := by
  refine ⟨fun e => start_eq_error_iff, ⟨?_, ?_⟩, fun i c e h => h.concerns, ?_⟩
  · rintro ⟨e, he⟩
    obtain ⟨i, c, hc, h, -⟩ := start_eq_error_iff.1 he
    exact ⟨i, c, e, hc, h⟩
  · rintro ⟨i, c, e, hc, h⟩
    exact exists_start_error ctx hc h
  · intro running hrunning
    have htemplate := (start_ok hrunning).1
    refine ⟨htemplate, fun item outputs => ?_⟩
    rw [htemplate]
    exact cleared_of_faultless (faultless_of_start hrunning) item outputs

/-- A stage with two definitions. A literal of the first one is no number, but the definition refers
to the item; the second one has the pattern. -/
def twofold (pattern : String) : Stage where
  conf := .record [(Rule.parameter, .list [
    .record [("field", .reference "f" .null), ("match", .literal (.str "x") .number)],
    .record [("field", .text "t"), ("match", .text pattern)]])]

/-- If the pattern does not compile, the second definition is found at the start. If it does, the
stage starts, and the literal of the first one is found when an item comes. -/
theorem start_finds_faults_twofold :
    (twofold "(").start {} = .error (.pattern moduleName 1 "t" "(") ∧
    ∃ running, (twofold "o").start {} = .ok running ∧
      (running.template.resolvePieces .empty).run [] =
        (.error (.coercion moduleName "RULE[0].match" "num" "\"x\""), []) ∧
      ∃ i c, (twofold "o").template.rules[i]? = some c ∧ c.isStatic = false ∧
        Within (indexLocation Rule.parameter i) "RULE[0].match" := by
  constructor
  · refine ((start_finds_faults (twofold "(") {}).1 _).2 ⟨1, _, rfl, ?_, ?_⟩
    · have hbad : Pattern.compile "(" {} = .error .groupUnclosed := by cbv
      exact .pattern (v := .obj [("field", .str "t"), ("match", .str "(")]) rfl rfl hbad
    · intro j hj c' hc' e' h
      obtain rfl : j = 0 := by omega
      cases hc'
      cases h with
      | value static => cases static
      | pattern static => cases static
  · cases hstart : (twofold "o").start {} with
    | error e =>
      have hcheck : Rule.checkFrom moduleName 0 (twofold "o").template.rules = .ok () := by cbv
      rw [start_eq_error, hcheck] at hstart
      cases hstart
    | ok running =>
      obtain ⟨htemplate, hcleared⟩ := (start_finds_faults (twofold "o") {}).2.2.2 running hstart
      have hrun : (running.template.resolvePieces .empty).run [] =
          (.error (.coercion moduleName "RULE[0].match" "num" "\"x\""), []) := by
        rw [htemplate]
        cbv
      obtain ⟨i, c, hc, hstatic, hwithin, -⟩ := (hcleared .empty []).coercion _ _ _ _ _ hrun
      rw [htemplate] at hc
      exact ⟨running, rfl, hrun, i, c, hc, hstatic, hwithin⟩

end Stage

end ItemFlow
