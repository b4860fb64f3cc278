import ItemFlow.Proofs.Compile
import ItemFlow.Proofs.Path
import ItemFlow.Proofs.Pattern.Bounds
import ItemFlow.Proofs.Pattern.Names
import Mathlib

/-!
# What takes the place of a match

Users write a replacement text with `$` and numbers (`Pattern.reading` says what it stands for); it is
applied in a form with braces. That the two agree (`Pattern.expand_braced`) takes that braces, doubled
dollar signs and names cannot come about in the form with braces but as `braced` writes them. A word is
then cut at its matches, and nothing but the matches changes (`Rule.substitute_reads`).
-/

namespace ItemFlow.Pattern

/-! ## The users' form -/

/-- What the digits after a dollar sign stand for at a match: what the group of that number has of the
text, and nothing if the number is too large. -/
def readGroup (m : Match) (text : Array Char) (digits : List Char) : List Char :=
  if Text.natOfDigits digits < 0x10000000000000000 then m.groupText text (Text.natOfDigits digits) else []

/-- What a replacement text of the users' form stands for at a match: a dollar sign and all digits after
it stand for a group, any other character for itself. -/
def reading (m : Match) (text : Array Char) : List Char → List Char
  | [] => []
  | c :: rest =>
    if c = '$' ∧ rest.takeWhile Char.isDigit ≠ [] then
      readGroup m text (rest.takeWhile Char.isDigit) ++ reading m text (rest.dropWhile Char.isDigit)
    else c :: reading m text rest
termination_by l => l.length
decreasing_by
  · have := (List.dropWhile_suffix (l := rest) Char.isDigit).length_le
    simp only [List.length_cons]
    omega
  · simp only [List.length_cons]
    omega

/-! ## The form with braces -/

theorem bracedFrom_some (ds l : List Char) : bracedFrom (some ds) l =
    bracedFrom.closeReference (some ((l.takeWhile Char.isDigit).reverse ++ ds)) ++
      bracedFrom none (l.dropWhile Char.isDigit) := by
  induction l generalizing ds with
  | nil => simp [bracedFrom, bracedFrom.closeReference]
  | cons c l ih =>
    by_cases hc : c.isDigit = true
    · rw [bracedFrom, if_pos hc, ih, List.takeWhile_cons_of_pos hc, List.dropWhile_cons_of_pos hc,
        List.reverse_cons, List.append_assoc]
      rfl
    · rw [bracedFrom, if_neg hc, List.takeWhile_cons_of_neg hc, List.dropWhile_cons_of_neg hc, bracedFrom]
      split <;> rfl

theorem bracedFrom_dollar (l : List Char) : bracedFrom none ('$' :: l) =
    bracedFrom.closeReference (some (l.takeWhile Char.isDigit).reverse) ++
      bracedFrom none (l.dropWhile Char.isDigit) := by
  rw [bracedFrom, if_pos rfl, bracedFrom_some, List.append_nil]

theorem bracedFrom_char {c : Char} (h : c ≠ '$') (l : List Char) :
    bracedFrom none (c :: l) = c :: bracedFrom none l := by
  rw [bracedFrom, if_neg h]

theorem piecesOf_char {c : Char} (h : c ≠ '$') (l : List Char) :
    piecesOf (c :: l) = .char c :: piecesOf l := by
  rw [piecesOf]
  all_goals simp [h]

theorem piecesOf_dollars (l : List Char) : piecesOf ('$' :: '$' :: l) = .char '$' :: piecesOf l := by
  rw [piecesOf]

theorem piecesOf_reference {name : List Char} (h : '\x7d' ∉ name) (l : List Char) :
    piecesOf ('$' :: '\x7b' :: (name ++ '\x7d' :: l)) = .ref (.ofText name) :: piecesOf l := by
  have hname : ∀ c ∈ name, (c != '\x7d') = true := by
    intro c hc
    rw [bne_iff_ne]
    rintro rfl
    exact h hc
  have htake : (name ++ '\x7d' :: l).takeWhile (· != '\x7d') = name := by
    rw [List.takeWhile_append_of_pos hname]
    simp
  have hdrop : (name ++ '\x7d' :: l).dropWhile (· != '\x7d') = '\x7d' :: l := by
    rw [List.dropWhile_append_of_pos hname]
    simp
  rw [piecesOf, htake]
  split
  · rename_i hnil
    rw [hdrop] at hnil
    cases hnil
  · rename_i hcons
    rw [hdrop] at hcons
    cases hcons
    rfl

/-! ## Expansion -/

section

variable {names : List (String × Nat)} (m : Match) (text : Array Char)

theorem expand_char (c : Char) (pieces : List ReplacementPiece) :
    expand names m text (.char c :: pieces) = c :: expand names m text pieces := rfl

theorem expand_ref (r : GroupRef) (pieces : List ReplacementPiece) :
    expand names m text (.ref r :: pieces) = r.resolve names m text ++ expand names m text pieces := rfl

variable (hnames : NoNumber names)

include hnames

/-- Digits in braces refer to the group of that number, since no name is a number. -/
theorem resolve_ofText {digits : List Char} (hne : digits ≠ []) (h : ∀ c ∈ digits, c.isDigit = true) :
    (GroupRef.ofText digits).resolve names m text = readGroup m text digits := by
  rw [GroupRef.ofText, Text.word64?_of_digits hne h, readGroup]
  obtain ⟨d, rest, rfl⟩ := List.exists_cons_of_ne_nil hne
  by_cases hsize : Text.natOfDigits (d :: rest) < 0x10000000000000000
  · rw [if_pos hsize, if_pos hsize]
    rfl
  · rw [if_neg hsize, if_neg hsize]
    dsimp only
    rw [GroupRef.resolve, hnames d rest (h d List.mem_cons_self)]

/-- The form with braces stands for what the users' form stands for. -/
theorem expand_braced (l : List Char) :
    expand names m text (piecesOf (bracedFrom none l)) = reading m text l := by
  fun_induction reading m text l with
  | case1 => simp [bracedFrom, bracedFrom.closeReference, piecesOf, expand]
  | case2 c rest h ih =>
    obtain ⟨rfl, hne⟩ := h
    have hdigits : ∀ d ∈ rest.takeWhile Char.isDigit, d.isDigit = true := fun _ => List.mem_takeWhile_imp
    have hbrace : '\x7d' ∉ rest.takeWhile Char.isDigit := fun hmem => absurd (hdigits _ hmem) (by decide)
    have hclose : bracedFrom.closeReference (some (rest.takeWhile Char.isDigit).reverse) =
        '$' :: '\x7b' :: (rest.takeWhile Char.isDigit ++ ['\x7d']) := by
      obtain ⟨d, ds, hds⟩ := List.exists_cons_of_ne_nil (List.reverse_ne_nil_iff.2 hne)
      rw [hds, bracedFrom.closeReference, ← hds, List.reverse_reverse]
      · rfl
      · simp
    rw [bracedFrom_dollar, hclose, List.cons_append, List.cons_append, List.append_assoc,
      List.singleton_append, piecesOf_reference hbrace, expand_ref, resolve_ofText m text hnames hne hdigits, ih]
  | case3 c rest h ih =>
    by_cases hc : c = '$'
    · subst hc
      -- No digit follows.
      have hnil : rest.takeWhile Char.isDigit = [] := by simpa using h
      have hrest : rest.dropWhile Char.isDigit = rest := by
        have := List.takeWhile_append_dropWhile (p := Char.isDigit) (l := rest)
        rwa [hnil, List.nil_append] at this
      rw [bracedFrom_dollar, hnil, hrest, ← ih]
      exact congrArg (expand names m text) (piecesOf_dollars _)
    · rw [bracedFrom_char hc, piecesOf_char hc, expand_char, ih]

end

/-! ## Cutting a text -/

/-- A text from `pos` on cut at matches: what lies before each of them, and what lies after the last. -/
def cutAt (text : Array Char) (pos : Nat) : List Match → List (List Char × Match) × List Char
  | [] => ([], (text.extract pos text.size).toList)
  | m :: rest =>
    (((text.extract pos m.start).toList, m) :: (cutAt text m.stop rest).1, (cutAt text m.stop rest).2)

/-- What a match has of the text. -/
def Match.text (m : Match) (text : Array Char) : List Char := (text.extract m.start m.stop).toList

/-- Replacing matches leaves what lies between them. -/
theorem replaceFrom_eq (f : Match → List Char) (text : Array Char) (pos : Nat) (found : List Match) :
    replaceFrom f text pos found =
      ((cutAt text pos found).1.flatMap fun part => part.1 ++ f part.2) ++ (cutAt text pos found).2 := by
  induction found generalizing pos with
  | nil => rfl
  | cons m found ih =>
    rw [replaceFrom, ih, cutAt, List.flatMap_cons, List.append_assoc, List.append_assoc]
    simp

/-- The parts between matches in order and the matches are the whole text. -/
theorem flatten_cutAt {text : Array Char} {pos : Nat} {found : List Match} (h : InOrder text.size pos found) :
    ((cutAt text pos found).1.flatMap fun part => part.1 ++ part.2.text text) ++ (cutAt text pos found).2 =
      (text.extract pos text.size).toList := by
  induction found generalizing pos with
  | nil => rfl
  | cons m found ih =>
    obtain ⟨hstart, hle, hend, hrest⟩ := h
    have hsplit : text.extract pos text.size =
        text.extract pos m.start ++ text.extract m.start m.stop ++ text.extract m.stop text.size := by
      rw [Array.extract_append_extract, Nat.min_eq_left hstart, Nat.max_eq_right hle,
        Array.extract_append_extract, Nat.min_eq_left (hstart.trans hle), Nat.max_eq_right hend]
    rw [cutAt, List.flatMap_cons, List.append_assoc, ih hrest, hsplit, Array.toList_append,
      Array.toList_append]
    rfl

/-! ## Replacing -/

/-- The first match of a text is the first of all. -/
theorem find?_toList (p : Pattern) (text : Array Char) : (p.find? text).toList = (p.findAll text).take 1 := by
  rw [findAll]
  cases p.find? text <;> rfl

/-- The matches that are replaced: all, or only the first. -/
def chosen (p : Pattern) (all : Bool) (text : Array Char) : List Match :=
  if all then p.findAll text else (p.findAll text).take 1

theorem inOrder_chosen {p : Pattern} (hp : p.Formed) (all : Bool) (text : Array Char) :
    InOrder text.size 0 (p.chosen all text) := by
  have h := inOrder_findAll hp text
  rw [chosen]
  split
  · exact h
  · exact h.take 1

/-- Replacing matches by what a replacement text of the users' form stands for. -/
theorem replace_eq {p : Pattern} (hnames : NoNumber p.names) (all : Bool) (r word : String) :
    (p.replace all (braced r) word).toList =
      replaceFrom (fun m => reading m word.toList.toArray r.toList) word.toList.toArray 0
        (p.chosen all word.toList.toArray) := by
  have hfound : (if all then p.findAll word.toList.toArray else (p.find? word.toList.toArray).toList) =
      p.chosen all word.toList.toArray := by
    rw [find?_toList, chosen]
  rw [replace, String.toList_ofList, hfound, braced, String.toList_ofList]
  simp only [expand_braced _ _ hnames]

end ItemFlow.Pattern

namespace ItemFlow.Rule

open ItemFlow.Pattern

/-- The empty word stays as it is. Of any other word a rule that has been compiled leaves what lies between
matches, and puts what its replacement text stands for in the place of each match, or only of the
first one. -/
theorem substitute_reads : (∀ rule : Rule, substitute "" rule = "") ∧
    ∀ (module : String) (keep : Bool) (index : Nat) (record : Json) (cache cache' : PatternCache)
      (rule : Rule) (w : String), (compile module keep index record).run cache = (.ok rule, cache') → w ≠ "" →
      let text := w.toList.toArray
      let found := rule.pattern.findAll text
      let cut := cutAt text 0 (if isSet record "globalmatch" then found else found.take 1)
      InOrder text.size 0 found ∧ (cut.1.flatMap fun part => part.1 ++ part.2.text text) ++ cut.2 = w.toList ∧
        (cut.1.flatMap fun part => part.1 ++ reading part.2 text (word record "replace").toList) ++ cut.2 =
          (substitute w rule).toList := by
  refine ⟨fun _ => rfl, ?_⟩
  intro module keep index record cache cache' rule w h hw text found cut
  rw [compile_run] at h
  obtain ⟨pattern, hpattern, rfl⟩ := ofRecord_eq_ok (Prod.mk.inj h).1
  have hempty : w.isEmpty = false := by simpa using hw
  refine ⟨inOrder_findAll (formed_of_compile hpattern) text, ?_, ?_⟩
  · have h := flatten_cutAt (inOrder_chosen (formed_of_compile hpattern) (isSet record "globalmatch") text)
    rw [Array.extract_size] at h
    exact h
  · rw [substitute, hempty, if_neg Bool.false_ne_true,
      replace_eq (noNumber_of_compile hpattern), replaceFrom_eq]
    rfl

/-- A record with a replacement text in which dollar signs, numbers and other characters meet. -/
def doubledRecord : Json :=
  .obj [("field", .str "t"), ("match", .str "(a)|b"), ("replace", .str "$$1$01<$2$>"),
    ("globalmatch", .str "1")]

/-- The rule that it declares. -/
def doubledRule : Rule := (ofRecord "regex" 0 doubledRecord).toOption.get (by cbv)

theorem substitute_reads_doubled :
    (compile "regex" false 0 doubledRecord).run .empty = (.ok doubledRule, .empty) ∧
      substitute "xaby" doubledRule = "x$aa<$>$<$>y" := by
  have hrun : (compile "regex" false 0 doubledRecord).run .empty = (.ok doubledRule, .empty) := by
    rw [compile_run]
    exact congrArg (·, PatternCache.empty) (by cbv)
  have h := (substitute_reads.2 "regex" false 0 doubledRecord .empty .empty doubledRule "xaby" hrun
    (by simp)).2.2
  refine ⟨hrun, String.toList_inj.1 (h.symm.trans ?_)⟩
  cbv

end ItemFlow.Rule
