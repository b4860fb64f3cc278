import ItemFlow.Proofs.Requests
import ItemFlow.Script
import Mathlib

/-!
# Items in lines

The text of a JSON value is one line, whatever its strings hold (`Json.oneLine_render`), and the text of
an item stands between braces. So the text of items has as many lines as there are items, none of
which is blank or runs into the next one, and reading takes them apart again (`JsonLines.read_render_eq`).
What a line is read as is left to the reader of JSON: not every value is spelled by its own text, since
the reader stops at a certain depth and does not always round a number to the nearest.
-/

namespace ItemFlow

/-! ## Text in one line -/

namespace Text

/-- A text without a line feed. -/
def OneLine (l : List Char) : Prop := '\n' ∉ l

instance (l : List Char) : Decidable (OneLine l) := inferInstanceAs (Decidable ('\n' ∉ l))

@[simp] theorem oneLine_nil : OneLine [] := List.not_mem_nil

@[simp] theorem oneLine_append {a b : List Char} : OneLine (a ++ b) ↔ OneLine a ∧ OneLine b := by
  simp [OneLine, not_or]

@[simp] theorem oneLine_cons {c : Char} {l : List Char} : OneLine (c :: l) ↔ c ≠ '\n' ∧ OneLine l := by
  simp [OneLine, not_or, eq_comm]

theorem OneLine.of_subset {a b : List Char} (hb : OneLine b) (h : a ⊆ b) : OneLine a :=
  fun hmem => hb (h hmem)

theorem oneLine_intercalate {sep : List Char} {ls : List (List Char)} (hsep : OneLine sep)
    (h : ∀ l ∈ ls, OneLine l) : OneLine (sep.intercalate ls) := by
  induction ls with
  | nil => exact List.not_mem_nil
  | cons l ls ih =>
    obtain ⟨hl, hls⟩ := List.forall_mem_cons.1 h
    cases ls with
    | nil => simpa using hl
    | cons l' ls =>
      rw [List.intercalate_cons_cons, oneLine_append, oneLine_append]
      exact ⟨⟨hl, hsep⟩, ih hls⟩

theorem oneLine_of_digits {l : List Char} (h : ∀ c ∈ l, c.isDigit = true) : OneLine l :=
  fun hmem => absurd (h _ hmem) (by decide)

theorem oneLine_digitsOf (n : Nat) : OneLine (digitsOf n) :=
  oneLine_of_digits fun _ hc => Nat.isDigit_of_mem_toDigits (by decide) (by decide) hc

theorem oneLine_replicate {c : Char} (h : c ≠ '\n') (n : Nat) : OneLine (List.replicate n c) :=
  fun hmem => h (List.eq_of_mem_replicate hmem).symm

end Text

open Text

theorem Decimal.oneLine_point {digits : List Char} (h : OneLine digits) (n : Int) :
    OneLine (point digits n).toList := by
  have hzeros : ∀ k, OneLine (List.replicate k '0') := oneLine_replicate (by decide)
  have htake : ∀ k, OneLine (digits.take k) := fun k => h.of_subset (List.take_subset k digits)
  have hdrop : ∀ k, OneLine (digits.drop k) := fun k => h.of_subset (List.drop_subset k digits)
  unfold point
  split
  · simp [hzeros, h]
  · dsimp only
    split <;> simp [hzeros, htake, hdrop]

theorem Decimal.oneLine_render (d : Decimal) : OneLine (d.render Json.floatLayout).toList := by
  have hdigits := oneLine_digitsOf d.digits
  unfold render
  dsimp only
  split
  · decide
  split
  · exact oneLine_point hdigits _
  · simp only [String.toList_append, oneLine_append]
    refine ⟨⟨⟨?_, by decide⟩, by split <;> decide⟩, ?_⟩
    · generalize digitsOf d.digits = digits at hdigits
      match digits with
      | [] => decide
      | [c] => simpa using hdigits
      | c :: c' :: rest => simpa using hdigits
    · rw [String.toList_ofList]
      exact oneLine_digitsOf _

/-! ## The text of a value -/

namespace Json

theorem Number.oneLine_render (n : Number) : OneLine n.render.toList := by
  cases n with
  | int n fits =>
    rw [render, Int.toString_eq_repr, Int.repr_eq_if]
    have hdigits : ∀ k : Nat, OneLine k.repr.toList := fun k => by
      rw [Nat.repr_eq_ofList_toDigits, String.toList_ofList]
      exact oneLine_digitsOf k
    split
    · exact hdigits _
    · rw [String.toList_append, oneLine_append]
      exact ⟨by decide, hdigits _⟩
  | float x =>
    rw [render, Binary64.render, String.toList_append, oneLine_append]
    exact ⟨by split <;> decide, Decimal.oneLine_render _⟩

/-- A line feed in a string is written as an escape. -/
theorem oneLine_escapeChar (c : Char) : OneLine (escapeChar c) := by
  have hhex : ∀ k < 16, hexChar k ≠ '\n' := by decide
  unfold escapeChar
  split_ifs with hquote hslash hcontrol
  all_goals try decide
  · have hhigh : hexChar (c.toNat / 16) ≠ '\n' := hhex _ (by omega)
    have hlow : hexChar (c.toNat % 16) ≠ '\n' := hhex _ (Nat.mod_lt _ (by decide))
    simp [hhigh, hlow]
  · simp only [oneLine_cons, oneLine_nil, and_true]
    rintro rfl
    exact hcontrol (by decide)

theorem oneLine_quote (s : String) : OneLine (quote s).toList := by
  have hflat : OneLine (s.toList.flatMap escapeChar) := fun hmem => by
    obtain ⟨c, -, hc⟩ := List.mem_flatMap.1 hmem
    exact oneLine_escapeChar c hc
  simp [quote, hflat]

mutual

/-- The text of a value is one line. -/
theorem oneLine_render : (v : Json) → OneLine v.render.toList
  | .null => by decide
  | .bool true => by decide
  | .bool false => by decide
  | .num n => n.oneLine_render
  | .str s => oneLine_quote s
  | .arr l => by
    rw [render, String.toList_append, String.toList_append, String.toList_intercalate,
      oneLine_append, oneLine_append]
    refine ⟨⟨by decide, oneLine_intercalate (by decide) ?_⟩, by decide⟩
    exact List.forall_mem_map.2 (oneLine_renderElements l)
  | .obj fields => by
    rw [render, String.toList_append, String.toList_append, String.toList_intercalate,
      oneLine_append, oneLine_append]
    refine ⟨⟨by decide, oneLine_intercalate (by decide) ?_⟩, by decide⟩
    exact List.forall_mem_map.2 (oneLine_renderFields fields)

theorem oneLine_renderElements : (l : List Json) → ∀ s ∈ renderElements l, OneLine s.toList
  | [] => List.forall_mem_nil _
  | a :: rest => List.forall_mem_cons.2 ⟨oneLine_render a, oneLine_renderElements rest⟩

theorem oneLine_renderFields : (fields : List (String × Json)) →
    ∀ s ∈ renderFields fields, OneLine s.toList
  | [] => List.forall_mem_nil _
  | (k, v) :: rest => by
    rw [renderFields]
    refine List.forall_mem_cons.2 ⟨?_, oneLine_renderFields rest⟩
    rw [String.toList_append, String.toList_append, oneLine_append, oneLine_append]
    exact ⟨⟨oneLine_quote k, by decide⟩, oneLine_render v⟩

end

end Json

/-! ## Lines that are joined -/

namespace Text

theorem linesFrom_append {l : List Char} (h : OneLine l) (begun rest : List Char) :
    linesFrom begun (l ++ rest) = linesFrom (l.reverse ++ begun) rest := by
  induction l generalizing begun with
  | nil => rfl
  | cons c l ih =>
    obtain ⟨hc, hl⟩ := oneLine_cons.1 h
    have hstep : linesFrom begun (c :: (l ++ rest)) = linesFrom (c :: begun) (l ++ rest) := by
      rw [linesFrom]
      exact hc
    rw [List.cons_append, hstep, ih hl, List.reverse_cons, List.append_assoc]
    rfl

theorem dropReturn_of_getLast? {l : List Char} (h : l.getLast? ≠ some '\r') : dropReturn l = l := by
  unfold dropReturn
  split
  · rename_i rest hrest
    rw [List.getLast?_eq_head?_reverse, hrest] at h
    exact absurd rfl h
  · rfl

/-- Lines that are joined by line feeds are the lines of the whole, if none of them is empty, has a
line feed or ends in a carriage return. -/
theorem lines_intercalate {ls : List (List Char)}
    (h : ∀ l ∈ ls, l ≠ [] ∧ OneLine l ∧ l.getLast? ≠ some '\r') : lines (['\n'].intercalate ls) = ls := by
  induction ls with
  | nil => rfl
  | cons l ls ih =>
    obtain ⟨⟨hne, hline, hreturn⟩, hls⟩ := List.forall_mem_cons.1 h
    unfold lines at ih ⊢
    cases ls with
    | nil =>
      have hlast := linesFrom_append hline [] []
      rw [List.append_nil, List.append_nil] at hlast
      rw [List.intercalate_singleton, hlast, linesFrom]
      simp [hne]
    | cons l' ls =>
      rw [List.intercalate_cons_cons, List.append_assoc, linesFrom_append hline, List.append_nil,
        List.singleton_append, linesFrom, List.reverse_reverse, dropReturn_of_getLast? hreturn, ih hls]

end Text

/-! ## The text of items -/

namespace Item

/-- The text of the item spells the value of the item again. -/
def Rereads (item : Item) : Prop := Json.parse item.render = .ok item.toJson

/-- The text of an item stands between braces. -/
theorem toList_render (item : Item) :
    ∃ inner, item.render.toList = '\x7b' :: (inner ++ ['\x7d']) := by
  refine ⟨(",".intercalate (Json.renderFields item.fields)).toList, ?_⟩
  rw [render, toJson, Json.render, String.toList_append, String.toList_append]
  rfl

end Item

namespace JsonLines

/-- The text of items has a line for each of them. -/
theorem lines_render (items : List Item) :
    Text.lines (render items).toList = items.map fun item => item.render.toList := by
  rw [render, String.toList_intercalate, List.map_map]
  refine Text.lines_intercalate ?_
  rw [List.forall_mem_map]
  intro item _
  obtain ⟨inner, hinner⟩ := item.toList_render
  rw [Function.comp_apply, hinner]
  refine ⟨List.cons_ne_nil _ _, hinner ▸ Json.oneLine_render item.toJson, ?_⟩
  rw [← List.cons_append, List.getLast?_concat]
  decide

/-- Each of these lines is read. -/
theorem read_render_eq (items : List Item) :
    read (render items) = items.mapM fun item => readLine item.render.toList := by
  have hfull : ∀ item : Item, isBlankLine item.render.toList = false := fun item => by
    obtain ⟨inner, hinner⟩ := item.toList_render
    rw [hinner]
    rfl
  rw [read, lines_render, List.filter_map, List.mapM_map]
  simp [Function.comp_def, hfull]

theorem readLine_render {item : Item} (h : item.Rereads) : readLine item.render.toList = .ok item := by
  have hparse : Json.parseChars item.render.toList = .ok item.toJson := h
  rw [readLine, hparse]
  rfl

/-- Items whose texts spell them again are read back from their text. -/
theorem read_render {items : List Item} (h : ∀ item ∈ items, item.Rereads) :
    read (render items) = .ok items := by
  rw [read_render_eq]
  induction items with
  | nil => rfl
  | cons item items ih =>
    obtain ⟨hitem, hitems⟩ := List.forall_mem_cons.1 h
    rw [List.mapM_cons, readLine_render hitem, ih hitems]
    rfl

/-- A text has an item for each line that is not blank. -/
theorem length_of_read {text : String} {items : List Item} (h : read text = .ok items) :
    items.length = (Text.lines text.toList).countP fun line => !isBlankLine line := by
  rw [List.countP_eq_length_filter]
  exact (Except.length_of_mapM_ok h)

end JsonLines

/-! ## Scripts -/

namespace Script

variable {r : Registry} {ctx : Context} {source input : String}

theorem prepare_eq_ok {p : Pipeline} {items : List Item} :
    prepare r source input = .ok (p, items) ↔
      load r source = .ok p ∧ JsonLines.read input = .ok items := by
  unfold prepare
  constructor
  · intro h
    obtain ⟨p', hp, h⟩ := Except.of_bind_ok h
    obtain ⟨items', hitems, h⟩ := Except.of_bind_ok h
    cases h
    exact ⟨hp, hitems⟩
  · rintro ⟨hp, hitems⟩
    rw [hp, hitems]
    rfl

/-- What a script that succeeds has read, and what has come out. -/
theorem of_run_ok {o : Outcome} (h : (run r ctx source input).run.value = .ok o) :
    ∃ p items outs, load r source = .ok p ∧ JsonLines.read input = .ok items ∧
      (p.run ctx items).run.value = .ok outs ∧ o = outcome items.length outs := by
  unfold run at h
  cases hp : prepare r source input with
  | error e =>
    rw [hp] at h
    cases h
  | ok prepared =>
    obtain ⟨p, items⟩ := prepared
    obtain ⟨hload, hread⟩ := prepare_eq_ok.1 hp
    rw [hp] at h
    change ((p.run ctx items >>= fun outs => pure (outcome items.length outs)) : Run Outcome).run.value =
      .ok o at h
    cases houts : (p.run ctx items).run.value with
    | error e =>
      rw [Run.bind_error houts] at h
      cases h
    | ok outs =>
      rw [Run.bind_ok houts] at h
      cases h
      exact ⟨p, items, outs, hload, hread, houts, rfl⟩

/-- A script that succeeds counts the lines of its input that are not blank, and as many lines come out
as items, at most one for each of these; the items stand in order, each on a line of its own. If the
texts of the items spell them again, reading the text that came out gives the items back. So it is with
the text of any such items. -/
theorem run_in_lines (r : Registry) (ctx : Context) (source input : String) :
    (∀ o, (run r ctx source input).run.value = .ok o →
      o.itemsIn = (Text.lines input.toList).countP (fun line => !JsonLines.isBlankLine line) ∧
      o.itemsOut ≤ o.itemsIn ∧
      ∃ p items outs, load r source = .ok p ∧ JsonLines.read input = .ok items ∧
        (p.run ctx items).run.value = .ok outs ∧ o.itemsOut = outs.length ∧
        Text.lines o.text.toList = outs.map (fun item => item.render.toList) ∧
        ((∀ item ∈ outs, item.Rereads) → JsonLines.read o.text = .ok outs)) ∧
    ∀ items : List Item, (∀ item ∈ items, item.Rereads) →
      JsonLines.read (JsonLines.render items) = .ok items := by
  refine ⟨fun o h => ?_, fun items => JsonLines.read_render⟩
  obtain ⟨p, items, outs, hload, hread, houts, rfl⟩ := of_run_ok h
  have hcount := JsonLines.length_of_read hread
  have hfewer : outs.length ≤ items.length := by
    have hrun : (p.runOn ctx items .atOnce).run.value = .ok outs := houts
    obtain ⟨-, hresults⟩ := Pipeline.runOn_eq_ok.1 hrun
    have hlength := Passage.length_results_le (Passage.fate (Schedule.call ctx .atOnce) p.stages) items
    rwa [hresults, List.length_map] at hlength
  exact ⟨hcount, hfewer, p, items, outs, hload, hread, houts, rfl, JsonLines.lines_render outs,
    JsonLines.read_render⟩

/-- A script of one stage, which takes its replacement from a pipe and skips the items on which that
fails. -/
def skippingSource : String :=
  "[\x7b\"module\": \"regex\", \"on_error\": \"skip\", \"conf\": \x7b\"RULE\": \x7b\"field\": \"t\", " ++
    "\"match\": \"o\", \"replace\": \x7b\"terminal\": \"picky\", \"path\": \"n\"\x7d\x7d\x7d\x7d]"

/-- Four lines: an item, a blank line, an item that is skipped and a list. -/
def fourLines : String :=
  "\x7b\"t\":\"boot\",\"n\":\"\\n\"\x7d\r\n \n\x7b\"bad\":0\x7d\n[5]"

/-- The two items that come out. -/
def twoItems : List Item :=
  [⟨[("t", .str "b\not"), ("n", .str "\n")]⟩,
    ⟨[("content", .arr [.num (.int 5 (by decide))]), ("t", .str "")]⟩]

/-- Three lines are not blank and two lines come out, one of which has line feeds in its strings; read
again they give the two items. -/
theorem run_in_lines_skipping :
    (run ⟨[("picky", Stage.picky)]⟩ {} skippingSource fourLines).run.value =
      .ok ⟨JsonLines.render twoItems, 3, 2⟩ ∧
    (Text.lines fourLines.toList).countP (fun line => !JsonLines.isBlankLine line) = 3 ∧
    JsonLines.read (JsonLines.render twoItems) = .ok twoItems := by
  obtain ⟨hrun, hread⟩ := run_in_lines ⟨[("picky", Stage.picky)]⟩ {} skippingSource fourLines
  have hvalue : (run ⟨[("picky", Stage.picky)]⟩ {} skippingSource fourLines).run.value =
      .ok ⟨JsonLines.render twoItems, 3, 2⟩ := by cbv
  refine ⟨hvalue, (hrun _ hvalue).1.symm, hread twoItems ?_⟩
  intro item hitem
  rcases List.mem_pair.1 hitem with rfl | rfl <;> unfold Item.Rereads <;> cbv

end Script

end ItemFlow
