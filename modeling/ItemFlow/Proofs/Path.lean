import ItemFlow.Path
import Mathlib

/-!
# Texts of paths

Segments without separators can be joined by points, and the path that comes of it has just these
segments (`Path.segments_join`). The segments of any path are such (`Path.isSegment_of_mem`), and so is
a number in digits, which reads as an index (`Path.index?_toString`).
-/

namespace ItemFlow

/-! ## Digits -/

namespace Text

theorem word64?_of_digits {digits : List Char} (hne : digits ≠ []) (h : ∀ c ∈ digits, c.isDigit = true) :
    word64? digits =
      if natOfDigits digits < 0x10000000000000000 then some (natOfDigits digits) else none := by
  obtain ⟨d, rest, rfl⟩ := List.exists_cons_of_ne_nil hne
  have hall : (d :: rest).all Char.isDigit = true := List.all_eq_true.2 h
  have hplus : d ≠ '+' := by
    rintro rfl
    exact absurd (h '+' List.mem_cons_self) (by decide)
  rw [word64?]
  · simp only [hall, List.isEmpty_cons, Bool.not_false, Bool.true_and, decide_eq_true_eq]
  · exact fun _ heq => hplus (List.cons.inj heq).1

theorem isDigit_of_mem_toString {n : Nat} {c : Char} (h : c ∈ (toString n).toList) : c.isDigit = true := by
  rw [Nat.toString_eq_repr, Nat.toList_repr] at h
  exact Nat.isDigit_of_mem_toDigits (by decide) (by decide) h

theorem toString_ne_nil (n : Nat) : (toString n).toList ≠ [] := by
  rw [Nat.toString_eq_repr, Nat.toList_repr]
  exact Nat.toDigits_ne_nil

theorem natOfDigits_toString (n : Nat) : natOfDigits (toString n).toList = n := by
  rw [Nat.toString_eq_repr, Nat.toList_repr]
  exact Nat.ofDigitChars_toDigits (by decide) (by decide)

end Text

namespace Path

/-! ## Segments -/

/-- A text that is one segment of a path: it is not empty and has no separator. -/
def IsSegment (s : String) : Prop := s ≠ "" ∧ ∀ c ∈ s.toList, isSeparator c = false

/-- The path of some segments, with points between them. -/
def join (segments : List String) : String := ".".intercalate segments

example : join ["a", "0", "b"] = "a.0.b" := by decide

theorem segmentsFrom_append {l : List Char} (h : ∀ c ∈ l, isSeparator c = false) (begun rest : List Char) :
    segmentsFrom begun (l ++ rest) = segmentsFrom (l.reverse ++ begun) rest := by
  induction l generalizing begun with
  | nil => rfl
  | cons c l ih =>
    obtain ⟨hc, hl⟩ := List.forall_mem_cons.1 h
    rw [List.cons_append, segmentsFrom, hc, if_neg Bool.false_ne_true, ih hl, List.reverse_cons,
      List.append_assoc]
    rfl

theorem isSegment_ofList {l : List Char} (hne : l ≠ []) (h : ∀ c ∈ l, isSeparator c = false) :
    IsSegment (String.ofList l) := by
  constructor
  · intro hempty
    have hlist := congrArg String.toList hempty
    exact hne (by simpa using hlist)
  · simpa using h

/-- What is read of a path are segments, if what has been begun has no separator. -/
theorem isSegment_segmentsFrom {begun l : List Char} (h : ∀ c ∈ begun, isSeparator c = false) :
    ∀ s ∈ segmentsFrom begun l, IsSegment s := by
  have hbegun : ∀ begun : List Char, ¬ begun.isEmpty = true → (∀ c ∈ begun, isSeparator c = false) →
      IsSegment (String.ofList begun.reverse) := fun begun hne h =>
    isSegment_ofList (by simpa using hne) fun c hc => h c (List.mem_reverse.1 hc)
  fun_induction segmentsFrom begun l with
  | case1 begun hempty => exact List.forall_mem_nil _
  | case2 begun hempty => exact List.forall_mem_singleton.2 (hbegun begun hempty h)
  | case3 begun c rest hc hempty ih => exact ih (List.forall_mem_nil _)
  | case4 begun c rest hc hempty ih =>
    exact List.forall_mem_cons.2 ⟨hbegun begun hempty h, ih (List.forall_mem_nil _)⟩
  | case5 begun c rest hc ih => exact ih (List.forall_mem_cons.2 ⟨by simpa using hc, h⟩)

/-- The segments of a path. -/
theorem isSegment_of_mem {path s : String} (h : s ∈ segments path) : IsSegment s :=
  isSegment_segmentsFrom (List.forall_mem_nil _) s h

/-- Segments that are joined are the segments of the path. -/
theorem segments_join {parts : List String} (h : ∀ s ∈ parts, IsSegment s) : segments (join parts) = parts := by
  have hpoint : ".".toList = ['.'] := rfl
  unfold segments join
  rw [String.toList_intercalate, hpoint]
  induction parts with
  | nil => rfl
  | cons s parts ih =>
    obtain ⟨⟨hne, hs⟩, hparts⟩ := List.forall_mem_cons.1 h
    have hbegun : (s.toList.reverse ++ []).isEmpty = false := by simpa using hne
    have hwhole : String.ofList (s.toList.reverse ++ []).reverse = s := by simp
    cases parts with
    | nil =>
      have hlast := segmentsFrom_append hs [] []
      rw [List.append_nil] at hlast
      rw [List.map_singleton, List.intercalate_singleton, hlast, segmentsFrom, hbegun, hwhole]
      rfl
    | cons s' parts =>
      have hsep : isSeparator '.' = true := by decide
      rw [List.map_cons, List.map_cons, List.intercalate_cons_cons, List.append_assoc,
        segmentsFrom_append hs, List.singleton_append, segmentsFrom, hsep, if_pos rfl, hbegun, hwhole,
        if_neg Bool.false_ne_true, ← List.map_cons, ih hparts]

/-- The digits of a number are a segment. -/
theorem isSegment_toString (n : Nat) : IsSegment (toString n) := by
  constructor
  · intro h
    exact Text.toString_ne_nil n (by rw [h]; rfl)
  · intro c hc
    have hdigit := Text.isDigit_of_mem_toString hc
    have hne : ∀ d : Char, d.isDigit = false → (c == d) = false := by
      rintro d hd
      rw [beq_eq_false_iff_ne]
      rintro rfl
      rw [hdigit] at hd
      cases hd
    rw [isSeparator, hne '.' (by decide), hne '[' (by decide), hne ']' (by decide)]
    rfl

/-- The digits of a number that a word can hold read as an index. -/
theorem index?_toString {n : Nat} (h : n < 0x10000000000000000) : index? (toString n) = some n := by
  rw [index?, Text.word64?_of_digits (Text.toString_ne_nil n) fun _ => Text.isDigit_of_mem_toString,
    Text.natOfDigits_toString, if_pos h]

/-- No index is larger than a word can hold. -/
theorem lt_of_index? {s : String} {i : Nat} (h : index? s = some i) : i < 0x10000000000000000 := by
  unfold index? Text.word64? at h
  simp only [Option.ite_none_right_eq_some, Bool.and_eq_true, decide_eq_true_eq, Option.some.injEq] at h
  obtain ⟨⟨-, hlt⟩, rfl⟩ := h
  exact hlt

end Path

end ItemFlow
