import ItemFlow.Coercion
import ItemFlow.Proofs.Path

/-!
# Integers written as words

An integer that is written as a word, with white space around it or not, reads as the same integer as
long as a signed word can hold it (`Json.toNumber?_padded`). The integers beyond that, which only an
unsigned word can hold, read as the binary numbers that they are rounded to; there always is one
(`Binary64.exists_ofNat?`).
-/

namespace ItemFlow

/-! ## White space around a text -/

namespace Text

variable {before l : List Char}

theorem dropWhile_isBlank (hbefore : ∀ c ∈ before, isBlank c = true) (hl : ∀ c ∈ l, isBlank c = false)
    (hne : l ≠ []) (after : List Char) : (before ++ l ++ after).dropWhile isBlank = l ++ after := by
  obtain ⟨c, rest, rfl⟩ := List.exists_cons_of_ne_nil hne
  have hc : ¬ isBlank c = true := by simp [hl c List.mem_cons_self]
  rw [List.append_assoc, List.dropWhile_append_of_pos hbefore, List.cons_append,
    List.dropWhile_cons_of_neg hc]

/-- White space around a text is trimmed if there is none in it. -/
theorem trim_padded {after : List Char} (hbefore : ∀ c ∈ before, isBlank c = true)
    (hafter : ∀ c ∈ after, isBlank c = true) (hl : ∀ c ∈ l, isBlank c = false) (hne : l ≠ []) :
    trim (before ++ l ++ after) = l := by
  -- At the other end the same is done to the text in reverse.
  have hback : (after.reverse ++ l.reverse ++ []).dropWhile isBlank = l.reverse ++ [] :=
    dropWhile_isBlank (fun c hc => hafter c (List.mem_reverse.1 hc))
      (fun c hc => hl c (List.mem_reverse.1 hc)) (by simpa using hne) []
  rw [List.append_nil, List.append_nil] at hback
  rw [trim, dropWhile_isBlank hbefore hl hne, List.reverse_append, hback, List.reverse_reverse]

theorem isBlank_of_isDigit {c : Char} (h : c.isDigit = true) : isBlank c = false := by
  simp only [Char.isDigit, Bool.and_eq_true, decide_eq_true_eq] at h
  obtain ⟨hlow, hhigh⟩ := h
  have hlow : 48 ≤ c.toNat := hlow
  have hhigh : c.toNat ≤ 57 := hhigh
  simp [isBlank]
  omega

end Text

/-! ## Rounding a natural number -/

/-- Rounding a quotient takes the integer below it or the one above. -/
theorem divHalfEven_bounds (num den : Nat) :
    num / den ≤ divHalfEven num den ∧ divHalfEven num den ≤ num / den + 1 := by
  unfold divHalfEven
  dsimp only
  split_ifs <;> omega

namespace Binary64

/-- A positive number is scaled to 53 bits. -/
theorem scaleDown_bounds {n : Nat} (hn : n ≠ 0) :
    0x10000000000000 ≤ (scaleDown n 1 (n.log2 - 52)).1 / (scaleDown n 1 (n.log2 - 52)).2 ∧
      (scaleDown n 1 (n.log2 - 52)).1 / (scaleDown n 1 (n.log2 - 52)).2 < 0x20000000000000 := by
  have hlow := Nat.log2_self_le hn
  have hhigh := Nat.lt_log2_self (n := n)
  unfold scaleDown
  dsimp only
  generalize n.log2 = k at hlow hhigh ⊢
  -- The number is multiplied by `2 ^ a` and divided by `2 ^ b`, and one of the two is 1.
  obtain ⟨a, b, ha, hb, hab⟩ : ∃ a b : Nat, (-((k : Int) - 52)).toNat = a ∧ ((k : Int) - 52).toNat = b ∧
      k + a = 52 + b := ⟨_, _, rfl, rfl, by omega⟩
  have hpow : 0 < 2 ^ b := Nat.two_pow_pos b
  show _ ≤ n * 2 ^ _ / (1 * 2 ^ _) ∧ n * 2 ^ _ / (1 * 2 ^ _) < _
  rw [ha, hb, Nat.one_mul, Nat.le_div_iff_mul_le hpow, Nat.div_lt_iff_lt_mul hpow]
  constructor
  · calc 0x10000000000000 * 2 ^ b = 2 ^ (52 + b) := by rw [Nat.pow_add]
      _ = 2 ^ k * 2 ^ a := by rw [← hab, Nat.pow_add]
      _ ≤ n * 2 ^ a := Nat.mul_le_mul_right _ hlow
  · calc n * 2 ^ a < 2 ^ (k + 1) * 2 ^ a := Nat.mul_lt_mul_of_pos_right hhigh (Nat.two_pow_pos a)
      _ = 2 ^ (53 + b) := by rw [← Nat.pow_add]; congr 1; omega
      _ = 0x20000000000000 * 2 ^ b := by rw [Nat.pow_add]

theorem scaleOf_natural {n : Nat} (hn : n ≠ 0) : scaleOf n 1 = n.log2 - 52 := by
  have hguess : ((n.log2 : Int) - (Nat.log2 1 : Nat) - 52) = n.log2 - 52 := by
    rw [show Nat.log2 1 = 0 from rfl]
    simp
  unfold scaleOf
  dsimp only
  rw [hguess, if_neg (Nat.not_lt.2 (scaleDown_bounds hn).1)]
  omega

/-- A natural number that is not too large rounds to a finite binary number. -/
theorem exists_ofNat? {n : Nat} (h : n.log2 < 1023) : ∃ x, ofNat? n = some x := by
  unfold ofNat? ofRatio?
  by_cases hn : n = 0
  · rw [if_pos hn]
    exact ⟨_, rfl⟩
  rw [if_neg hn, scaleOf_natural hn]
  dsimp only
  obtain ⟨hlow, hhigh⟩ := scaleDown_bounds hn
  obtain ⟨hfloor, hceil⟩ := divHalfEven_bounds (scaleDown n 1 (n.log2 - 52)).1 (scaleDown n 1 (n.log2 - 52)).2
  generalize divHalfEven _ _ = m at hfloor hceil ⊢
  by_cases hm : m = 0x20000000000000
  · rw [if_pos hm, ofParts?, dif_pos (by omega)]
    exact ⟨_, rfl⟩
  · rw [if_neg hm, ofParts?, dif_pos (by omega)]
    exact ⟨_, rfl⟩

/-- A whole number in digits is rounded like the number. -/
theorem ofDecimal?_natural {n : Nat} (h : n.log2 < 1023) : ofDecimal? false n 0 = ofNat? n := by
  unfold ofDecimal?
  by_cases hn : n = 0
  · rw [if_pos hn, ofNat?, ofRatio?, if_pos hn]
  have hlead : ¬ (400 : Int) < (n.log2 : Int) / 4 + 0 := by omega
  have hsmall : ¬ (0 : Int) + n.log2 < -400 := by omega
  dsimp only
  rw [if_neg hn, if_neg hlead, if_neg hsmall]
  show ofRatio? false (n * 10 ^ 0) (10 ^ 0) = _
  rw [Nat.pow_zero, Nat.mul_one, ofNat?]

end Binary64

/-! ## Reading digits -/

namespace Json

theorem digitsValue?_toString (n : Nat) : digitsValue? (toString n).toList = some n := by
  have hall : (toString n).toList.all Char.isDigit = true :=
    List.all_eq_true.2 fun c hc => Text.isDigit_of_mem_toString hc
  have hne : (toString n).toList.isEmpty = false := List.isEmpty_eq_false_iff.2 (Text.toString_ne_nil n)
  have hvalue : (toString n).toList.foldl (fun n c => 10 * n + (c.toNat - '0'.toNat)) 0 = n :=
    Text.natOfDigits_toString n
  rw [digitsValue?, hall, hne, hvalue]
  rfl

theorem splitSign_toString (n : Nat) : splitSign (toString n).toList = (false, (toString n).toList) := by
  obtain ⟨c, rest, h⟩ := List.exists_cons_of_ne_nil (Text.toString_ne_nil n)
  have hc : c.isDigit = true := Text.isDigit_of_mem_toString (by rw [h]; exact List.mem_cons_self)
  rw [h, splitSign]
  · rintro _ ⟨⟩
    cases hc
  · rintro _ ⟨⟩
    cases hc

/-- An integer is written in digits, after a sign if it is negative. -/
theorem toList_toString_int (n : Int) : (toString n).toList =
    if 0 ≤ n then (toString n.toNat).toList else '-' :: (toString (-n).toNat).toList := by
  rw [Int.toString_eq_repr, Int.repr_eq_if]
  split
  · rfl
  · rw [String.toList_append]
    rfl

theorem isBlank_of_mem_toString {n : Int} {c : Char} (h : c ∈ (toString n).toList) :
    Text.isBlank c = false := by
  rw [toList_toString_int] at h
  split at h
  · exact Text.isBlank_of_isDigit (Text.isDigit_of_mem_toString h)
  · rcases List.mem_cons.1 h with rfl | h
    · decide
    · exact Text.isBlank_of_isDigit (Text.isDigit_of_mem_toString h)

/-- An integer that a signed word can hold reads as itself, and a larger one does not read as an
integer. -/
theorem readInteger?_toString (n : Int) : readInteger? (toString n).toList =
    if n < 0x8000000000000000 then Number.ofInt? n else none := by
  rw [toList_toString_int]
  split
  · rename_i h
    have hn : (n.toNat : Int) = n := Int.toNat_of_nonneg h
    simp only [readInteger?, splitSign_toString, digitsValue?_toString, Bool.false_eq_true, if_false, hn]
  · rename_i h
    have hn : -((-n).toNat : Int) = n := by omega
    simp only [readInteger?, splitSign, digitsValue?_toString, if_true, hn]

/-- A whole number in digits reads as the binary number that it is rounded to. -/
theorem readDecimal?_toString (n : Nat) :
    readDecimal? (toString n).toList = (Binary64.ofDecimal? false n 0).map Number.float := by
  have hdigits : ∀ c ∈ (toString n).toList, c.isDigit = true := fun c => Text.isDigit_of_mem_toString
  have htake : (toString n).toList.takeWhile Char.isDigit = (toString n).toList :=
    List.takeWhile_eq_self_iff.2 hdigits
  have hdrop : (toString n).toList.dropWhile Char.isDigit = [] := List.dropWhile_eq_nil_iff.2 hdigits
  simp only [readDecimal?, splitSign_toString, htake, hdrop, List.append_nil, digitsValue?_toString]
  rfl

/-! ## Words of integers -/

/-- The word of a value with white space around it, as a text. -/
def padded (before after : List Char) (v : Json) : Json :=
  .str (String.ofList (before ++ v.toWord.toList ++ after))

theorem padded_nil (v : Json) : padded [] [] v = .str v.toWord := by
  rw [padded, List.nil_append, List.append_nil, String.ofList_toList]

section

variable {n : Int} {before after : List Char}

theorem trim_padded_word (fits : -0x8000000000000000 ≤ n ∧ n < 0x10000000000000000)
    (hbefore : ∀ c ∈ before, Text.isBlank c = true) (hafter : ∀ c ∈ after, Text.isBlank c = true) :
    Text.trim (before ++ (num (.int n fits)).toWord.toList ++ after) = (toString n).toList := by
  have hne : (toString n).toList ≠ [] := by
    rw [toList_toString_int]
    split
    · exact Text.toString_ne_nil _
    · exact List.cons_ne_nil _ _
  exact Text.trim_padded hbefore hafter (fun c => isBlank_of_mem_toString) hne

/-- An integer that a signed word can hold is read from its word. -/
theorem toNumber?_padded_of_lt (fits : -0x8000000000000000 ≤ n ∧ n < 0x10000000000000000)
    (hbefore : ∀ c ∈ before, Text.isBlank c = true) (hafter : ∀ c ∈ after, Text.isBlank c = true)
    (h : n < 0x8000000000000000) :
    (padded before after (.num (.int n fits))).toNumber? = some (.num (.int n fits)) := by
  simp only [padded, toNumber?, String.toList_ofList, trim_padded_word fits hbefore hafter,
    readInteger?_toString, if_pos h, Number.ofInt?, dif_pos fits]

/-- A larger integer is not: its word reads as the binary number that it is rounded to. -/
theorem toNumber?_padded_of_le (fits : -0x8000000000000000 ≤ n ∧ n < 0x10000000000000000)
    (hbefore : ∀ c ∈ before, Text.isBlank c = true) (hafter : ∀ c ∈ after, Text.isBlank c = true)
    (h : 0x8000000000000000 ≤ n) : ∃ x, Binary64.ofNat? n.toNat = some x ∧
      (padded before after (.num (.int n fits))).toNumber? = some (.num (.float x)) := by
  have hlog : n.toNat.log2 < 1023 := by
    have hlt : n.toNat < 2 ^ 64 := by omega
    exact Nat.lt_trans ((Nat.log2_lt (by omega)).2 hlt) (by decide)
  have hword : toString n = toString n.toNat := by
    rw [← String.toList_inj, toList_toString_int, if_pos (by omega)]
  obtain ⟨x, hx⟩ := Binary64.exists_ofNat? hlog
  refine ⟨x, hx, ?_⟩
  simp only [padded, toNumber?, String.toList_ofList, trim_padded_word fits hbefore hafter,
    readInteger?_toString, if_neg (Int.not_lt.2 h)]
  rw [hword, readDecimal?_toString, Binary64.ofDecimal?_natural hlog, hx]
  rfl

end

/-- The word of an integer, with white space around it or not, reads as the integer just if a signed
word can hold it, and only then does it come to the same number as the integer itself. Otherwise it
reads as the binary number that the integer is rounded to. -/
theorem toNumber?_padded (n : Int) (fits : -0x8000000000000000 ≤ n ∧ n < 0x10000000000000000)
    (before after : List Char) (hbefore : ∀ c ∈ before, Text.isBlank c = true)
    (hafter : ∀ c ∈ after, Text.isBlank c = true) :
    ((padded before after (.num (.int n fits))).toNumber? = some (.num (.int n fits)) ↔
      n < 0x8000000000000000) ∧
    (Coercion.number.coerce? (padded before after (.num (.int n fits))) =
      Coercion.number.coerce? (.num (.int n fits)) ↔ n < 0x8000000000000000) ∧
    (0x8000000000000000 ≤ n → ∃ x, Binary64.ofNat? n.toNat = some x ∧
      (padded before after (.num (.int n fits))).toNumber? = some (.num (.float x))) := by
  have hiff : (padded before after (.num (.int n fits))).toNumber? = some (.num (.int n fits)) ↔
      n < 0x8000000000000000 := by
    refine ⟨fun h => ?_, toNumber?_padded_of_lt fits hbefore hafter⟩
    by_contra hle
    obtain ⟨x, -, hx⟩ := toNumber?_padded_of_le fits hbefore hafter (Int.not_lt.1 hle)
    rw [hx] at h
    cases h
  exact ⟨hiff, hiff, toNumber?_padded_of_le fits hbefore hafter⟩

/-- The least integer between white space reads as itself, and the largest one does not. -/
theorem toNumber?_padded_extremes :
    (padded [' '] ['\u2028'] (.num (.int (-0x8000000000000000) (by decide)))).toNumber? =
      some (.num (.int (-0x8000000000000000) (by decide))) ∧
    ∃ x, Binary64.ofNat? 0xffffffffffffffff = some x ∧
      (padded [] [] (.num (.int 0xffffffffffffffff (by decide)))).toNumber? = some (.num (.float x)) := by
  obtain ⟨hleast, -, -⟩ := toNumber?_padded (-0x8000000000000000) (by decide) [' '] ['\u2028']
    (List.forall_mem_singleton.2 (by decide)) (List.forall_mem_singleton.2 (by decide))
  obtain ⟨-, -, hlargest⟩ := toNumber?_padded 0xffffffffffffffff (by decide) [] []
    (List.forall_mem_nil _) (List.forall_mem_nil _)
  exact ⟨hleast.2 (by decide), hlargest (by decide)⟩

/-- The least integer that no signed word can hold does not come back from its word. -/
theorem toNumber?_beyond_signed :
    (Json.str (Json.num (.int 0x8000000000000000 (by decide))).toWord).toNumber? =
      some (.num (.float ⟨false, 0x10000000000000, 11, by decide⟩)) ∧
    (Json.str (Json.num (.int 0x8000000000000000 (by decide))).toWord).toNumber? ≠
      some (.num (.int 0x8000000000000000 (by decide))) := by
  obtain ⟨x, hx, h⟩ := toNumber?_padded_of_le (n := 0x8000000000000000) (by decide)
    (List.forall_mem_nil _) (List.forall_mem_nil _) (by decide)
  have hfloat : Binary64.ofNat? 0x8000000000000000 = some ⟨false, 0x10000000000000, 11, by decide⟩ := by
    decide
  cases hx.symm.trans hfloat
  rw [padded_nil] at h
  exact ⟨h, by rw [h]; nofun⟩

end Json

end ItemFlow
