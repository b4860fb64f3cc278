import ItemFlow.Pattern
import ItemFlow.Proofs.Sequencing
import Mathlib

/-!
# The names of groups

The names that a pattern gives to its groups start with a letter or an underscore
(`Pattern.named_of_compile`), so that no number is one of them (`Pattern.noNumber_of_compile`). Of all
readers only the one for the front of a group adds a name; the others keep the names that they find.
-/

namespace ItemFlow.Pattern

/-! ## What readers give -/

/-- Whatever comes out of a computation satisfies `P`. -/
def Gives {α : Type} (P : α → Prop) (x : Except Fault α) : Prop := ∀ a, x = .ok a → P a

namespace Gives

variable {α β : Type} {P : α → Prop} {Q : β → Prop} {x y : Except Fault α} {f : α → Except Fault β}

theorem ok {a : α} (h : P a) : Gives P (.ok a) := by
  rintro _ ⟨⟩
  exact h

theorem error (e : Fault) : Gives P (.error e) := by
  rintro _ ⟨⟩

theorem bind (hx : Gives P x) (hf : ∀ a, P a → Gives Q (f a)) : Gives Q (x >>= f) := by
  intro b hb
  obtain ⟨a, ha, hb⟩ := Except.of_bind_ok hb
  exact hf a (hx a ha) b hb

/-- What comes out of the first computation does not matter. -/
theorem after (hf : ∀ a, Gives Q (f a)) : Gives Q (x >>= f) :=
  bind (fun _ _ => trivial : Gives (fun _ => True) x) fun a _ => hf a

theorem ite {p : Prop} [Decidable p] (hx : p → Gives P x) (hy : ¬ p → Gives P y) :
    Gives P (if p then x else y) := by
  split
  · exact hx ‹_›
  · exact hy ‹_›

end Gives

/-! ## Readers that keep names -/

/-- A reader keeps the names that it finds. -/
abbrev KeepsNames {α : Type} (c : Cursor) (x : Except Fault (α × Cursor)) : Prop :=
  Gives (fun r => r.2.names = c.names) x

namespace Cursor

variable (c : Cursor)

@[simp] theorem names_skip : c.skip.names = c.names := by
  rw [skip]
  split <;> rfl

@[simp] theorem names_bump : c.bump.names = c.names := rfl

@[simp] theorem names_bumpSkip : c.bumpSkip.names = c.names := names_skip _

@[simp] theorem names_takeWhile (p : Char → Bool) : (c.takeWhile p).2.names = c.names := rfl

@[simp] theorem names_skipBlanks : c.skipBlanks.names = c.names := rfl

end Cursor

theorem KeepsNames.trans {α : Type} {c c' : Cursor} {x : Except Fault (α × Cursor)} (h : KeepsNames c' x)
    (hc : c'.names = c.names) : KeepsNames c x :=
  fun r hr => (h r hr).trans hc

theorem keepsNames_count (c : Cursor) : KeepsNames c (count c) :=
  .ite (fun _ => .ok (by simp)) fun _ => .ite (fun _ => .ok (by simp)) fun _ => .error _

theorem keepsNames_hexDigits (n : Nat) (c : Cursor) : KeepsNames c (hexDigits n c) := by
  induction n generalizing c with
  | zero => exact .ok rfl
  | succ n ih =>
    rw [hexDigits]
    split
    · exact .error _
    · refine .ite (fun _ => ?_) fun _ => .error _
      exact (ih c.bumpSkip).bind fun ⟨ds, c'⟩ hc' => .ok (by simpa using hc')

theorem keepsNames_charCode (digits : Nat) (c : Cursor) : KeepsNames c (charCode digits c) := by
  rw [charCode.eq_def]
  split
  · exact .error _
  · refine .ite (fun _ => .error _) fun _ => .ite (fun _ => .error _) fun _ => ?_
    exact .after fun _ => .ok (by simp)
  · exact (keepsNames_hexDigits digits c).bind fun ⟨ds, c'⟩ hc' => .after fun _ => .ok hc'

theorem keepsNames_property (capital : Bool) (c : Cursor) : KeepsNames c (property capital c) := by
  rw [property.eq_def]
  split
  · exact .error _
  · exact .ite (fun _ => .error _) fun _ => .ok (by simp)
  · exact .error _
  · exact .ok (by simp)

theorem keepsNames_boundary (c : Cursor) : KeepsNames c (boundary c) := by
  rw [boundary.eq_def]
  split
  · dsimp only
    split
    · exact .error _
    · refine .ite (fun _ => ?_) fun _ => .ok rfl
      refine .ite (fun _ => .error _) fun _ => .after fun _ => .ok (by simp)
  · exact .ok rfl

theorem keepsNames_escape (c : Cursor) : KeepsNames c (escape c) := by
  rw [escape]
  split
  · exact .error _
  · rename_i x _ _
    refine .ite (fun _ => .error _) fun _ => ?_
    split
    · rename_i n _
      exact (keepsNames_charCode n _).bind fun ⟨lit, c'⟩ hc' => .ok (by simpa using hc')
    · refine .ite (fun _ => ?_) fun _ => ?_
      · exact (keepsNames_property _ _).bind fun ⟨⟨query, negated⟩, c'⟩ hc' => .ok (by simpa using hc')
      · split
        · exact .ok rfl
        · refine .ite (fun _ => .ok rfl) fun _ => ?_
          split
          · exact .ok rfl
          · exact .ok rfl
          · refine .ite (fun _ => ?_) fun _ => .error _
            exact (keepsNames_boundary _).bind fun ⟨a, c'⟩ hc' => .ok (by simpa using hc')

theorem keepsNames_classAtom (c : Cursor) : KeepsNames c (classAtom c) := by
  rw [classAtom.eq_def]
  split
  · exact .error _
  · exact keepsNames_escape c
  · exact .ok rfl

theorem keepsNames_classRange (c : Cursor) : KeepsNames c (classRange c) := by
  refine (keepsNames_classAtom c).bind fun ⟨first, c₁⟩ hc₁ => ?_
  dsimp only at hc₁ ⊢
  split
  · exact .error _
  · refine .ite (fun _ => .after fun _ => .ok (by simpa using hc₁)) fun _ => ?_
    refine (keepsNames_classAtom _).bind fun ⟨second, c₂⟩ hc₂ => .after fun lo => .after fun hi => ?_
    exact .ite (fun _ => .error _) fun _ => .ok (by simp_all)
  · exact .after fun _ => .ok (by simpa using hc₁)

theorem names_hyphens (c : Cursor) (fuel : List Char) (n : Nat) : (hyphens c fuel n).2.names = c.names := by
  induction fuel generalizing c n with
  | nil => rfl
  | cons _ fuel ih =>
    rw [hyphens]
    split
    · rw [ih, Cursor.names_bumpSkip]
    · rfl

theorem names_asciiClass? {c c' : Cursor} {cls : SetExpr} (h : asciiClass? c = some (cls, c')) :
    c'.names = c.names := by
  unfold asciiClass? at h
  split at h
  · dsimp only at h
    split at h
    · obtain ⟨cls', -, h⟩ := Option.map_eq_some_iff.1 h
      cases h
      rfl
    · cases h
  · cases h

theorem keepsNames_classOpen (c : Cursor) : KeepsNames c (classOpen c) := by
  unfold classOpen
  extract_lets c₀
  have hc₀ : c₀.names = c.names := c.names_bumpSkip
  split
  rename_i negated c₁ hc₁
  have hc₁ : c₁.names = c.names := by
    split at hc₁
    · cases hc₁
      exact c₀.names_bumpSkip.trans hc₀
    · cases hc₁
      exact hc₀
  split
  rename_i n c₂ hhyphens
  have hc₂ : c₂.names = c.names := by
    rw [← hc₁, ← names_hyphens c₁ c₁.rest 0, hhyphens]
  dsimp only
  split
  · exact .ite (fun _ => .error _) fun _ => .ok (c₂.names_bumpSkip.trans hc₂)
  · exact .ite (fun _ => .error _) fun _ => .ok hc₂

theorem keepsNames_classBody (budget : Nat) (c : Cursor) (left : Option (SetOp × SetExpr))
    (members : List SetExpr) : KeepsNames c (classBody budget c left members) := by
  rw [classBody.eq_def]
  dsimp only
  split
  · exact .error _
  · exact .ok (by simp)
  · split
    · exact .error _
    · rename_i left' members' after hnext
      have hafter : after.names = c.names := by
        refine (?_ : KeepsNames c _) _ hnext
        refine .ite (fun _ => ?_) fun _ => ?_
        · split
          · rename_i hclass
            exact .ok (by simpa using names_asciiClass? hclass)
          · split
            · exact .error _
            · rename_i budget
              refine (keepsNames_classOpen _).bind ?_
              rintro ⟨⟨negated, front⟩, inside⟩ hinside
              refine (keepsNames_classBody budget inside none front.reverse).bind ?_
              rintro ⟨body, after⟩ hafter
              exact .ok (by simp_all)
        · split
          · exact .ok (by simp)
          · refine (keepsNames_classRange _).bind ?_
            rintro ⟨member, after⟩ hafter
            exact .ok (by simpa using hafter)
      refine .ite (fun hlt => ?_) fun _ => .error _
      exact (keepsNames_classBody budget after left' members').trans hafter
termination_by (budget, c.rest.length)

theorem keepsNames_classExpr (c : Cursor) : KeepsNames c (classExpr c) := by
  refine (keepsNames_classOpen c).bind fun ⟨⟨negated, front⟩, inside⟩ hinside => ?_
  exact ((keepsNames_classBody nestLimit inside none front.reverse).trans hinside).bind
    fun ⟨body, after⟩ hafter => .ok hafter

theorem keepsNames_bounds (c : Cursor) : KeepsNames c (bounds c) := by
  unfold bounds
  refine .ite (fun _ => .error _) fun _ => ?_
  refine (keepsNames_count _).bind fun ⟨least, c₁⟩ hc₁ => ?_
  dsimp only at hc₁ ⊢
  split
  · split
    · exact .error _
    · split
      · exact .error _
      · exact .ok (by simpa using hc₁)
    · refine (keepsNames_count _).bind fun ⟨greatest, c₂⟩ hc₂ => ?_
      dsimp only at hc₂ ⊢
      split
      · exact .ok (by simp_all)
      · exact .error _
  · split
    · exact .error _
    · exact .ok (by simpa using hc₁)

theorem names_lazyMark (c : Cursor) : (lazyMark c).2.names = c.names := by
  rw [lazyMark.eq_def]
  split <;> rfl

theorem keepsNames_counted (part : Ast) (c : Cursor) : KeepsNames c (counted part c) := by
  refine (keepsNames_bounds c).bind fun ⟨⟨least, greatest⟩, c₁⟩ hc₁ => ?_
  refine .ite (fun _ => .error _) fun _ => ?_
  exact .ite (fun _ => .error _) fun _ => .ok ((names_lazyMark _).trans (by simpa using hc₁))

theorem keepsNames_primitive (x : Char) (c : Cursor) : KeepsNames c (primitive x c) := by
  rw [primitive.eq_def]
  split
  · exact keepsNames_escape c
  all_goals exact .ok rfl

/-! ## Names -/

/-- A name starts with a character that can start one. -/
def Named (name : String) : Prop :=
  ∃ first others, name.toList = first :: others ∧ isNameChar true first = true

/-- All names that a reader leaves are ones if those that it finds are. -/
def KeepsNamed {α : Type} (c : Cursor) (x : Except Fault (α × Cursor)) : Prop :=
  (∀ e ∈ c.names, Named e.1) → Gives (fun r => ∀ e ∈ r.2.names, Named e.1) x

theorem KeepsNames.keepsNamed {α : Type} {c : Cursor} {x : Except Fault (α × Cursor)} (h : KeepsNames c x) :
    KeepsNamed c x := by
  intro hc r hr
  rw [h r hr]
  exact hc

theorem named_groupName (c : Cursor) : Gives (fun r => Named r.1 ∧ r.2.names = c.names) (groupName c) := by
  rw [groupName]
  dsimp only
  split
  · rename_i first others after hname hafter
    refine .ite (fun _ => .error _) fun hchars => .ite (fun _ => .error _) fun _ => .ok ⟨?_, rfl⟩
    refine ⟨first, others, ?_, ?_⟩
    · rw [String.toList_ofList, hname]
    · simp_all
  · exact .error _

theorem keepsNamed_openCapture (named : Bool) (c : Cursor) : KeepsNamed c (openCapture named c) := by
  intro hc
  rw [openCapture]
  refine .ite (fun _ => ?_) fun _ => .ok hc
  refine (named_groupName _).bind fun ⟨name, c'⟩ ⟨hname, hc'⟩ => .ok ?_
  dsimp only at hc' ⊢
  rw [hc', List.forall_mem_append, List.forall_mem_singleton]
  exact ⟨hc, hname⟩

theorem keepsNamed_openGroup (c : Cursor) : KeepsNamed c (openGroup c) := by
  intro hc
  have hc₀ : ∀ e ∈ c.bumpSkip.names, Named e.1 := by rwa [Cursor.names_bumpSkip]
  rw [openGroup]
  dsimp only
  split
  · exact .error _
  · exact .error _
  · exact .error _
  · exact .error _
  · exact keepsNamed_openCapture true _ hc₀
  · exact keepsNamed_openCapture true _ hc₀
  · refine .ite (fun _ => .error _) fun _ => .after fun ⟨changes, after⟩ => ?_
    dsimp only
    split
    · exact .ite (fun _ => .error _) fun _ => .ok hc₀
    · exact .ok hc₀
  · exact keepsNamed_openCapture false _ hc₀

theorem keepsNamed_patternFrom (budget : Nat) (c : Cursor) (alts parts : List Ast) :
    KeepsNamed c (patternFrom budget c alts parts) := by
  intro hc
  have hahead : ∀ e ∈ c.skip.names, Named e.1 := by rwa [Cursor.names_skip]
  rw [patternFrom.eq_def]
  dsimp only
  split
  · exact .ok hahead
  · exact .ok hahead
  · split
    · exact .error _
    · rename_i alts' parts' after hnext
      have hafter : ∀ e ∈ after.names, Named e.1 := by
        refine (?_ : Gives (fun r => ∀ e ∈ r.2.names, Named e.1) _) _ hnext
        refine .ite (fun _ => .ok hahead) fun _ => .ite (fun _ => ?_) fun _ => .ite (fun _ => ?_) fun _ =>
          .ite (fun _ => ?_) fun _ => ?_
        · refine (keepsNamed_openGroup _ hahead).bind ?_
          rintro ⟨opening, inside⟩ hinside
          dsimp only at hinside ⊢
          split
          · exact .ok hinside
          · split
            · exact .error _
            · rename_i changes _ budget
              refine (keepsNamed_patternFrom budget
                { inside with verbose := verboseAfter inside.verbose changes } [] [] hinside).bind ?_
              rintro ⟨body, after⟩ hafter
              exact .ite (fun _ => .error _) fun _ => .ok hafter
        · refine ((keepsNames_classExpr c.skip).keepsNamed hahead).bind ?_
          rintro ⟨cls, after⟩ hafter
          exact .ok hafter
        · refine .after ?_
          rintro ⟨part, others⟩
          refine ((keepsNames_counted part c.skip).keepsNamed hahead).bind ?_
          rintro ⟨rep, after⟩ hafter
          exact .ok hafter
        · split
          · refine .after ?_
            rintro ⟨part, others⟩
            refine .ok ?_
            dsimp only
            rw [names_lazyMark]
            exact hahead
          · refine ((keepsNames_primitive _ c.skip).keepsNamed hahead).bind ?_
            rintro ⟨part, after⟩ hafter
            exact .ok hafter
      exact .ite (fun hlt => keepsNamed_patternFrom budget after alts' parts' hafter) fun _ => .error _
termination_by (budget, c.rest.length)

theorem named_parse (text : String) : Gives (fun r => ∀ e ∈ r.2.2, Named e.1) (parse text) := by
  refine (keepsNamed_patternFrom nestLimit { rest := text.toList } [] [] (by simp)).bind ?_
  rintro ⟨ast, after⟩ hafter
  exact .ite (fun _ => .error _) fun _ => .ite (fun _ => .error _) fun _ => .ok hafter

/-- All names of a pattern start with a character that can start one. -/
theorem named_of_compile {source : String} {flags : Flags} {p : Pattern} (h : compile source flags = .ok p) :
    ∀ e ∈ p.names, Named e.1 := by
  obtain ⟨⟨ast, groups, names⟩, hparse, h⟩ := Except.of_bind_ok h
  obtain ⟨⟨e, mode⟩, -, h⟩ := Except.of_bind_ok h
  cases h
  exact named_parse source _ hparse

/-- No digit can start a name. -/
theorem isNameChar_of_isDigit {c : Char} (h : c.isDigit = true) : isNameChar true c = false := by
  have hbounds : 48 ≤ c.toNat ∧ c.toNat ≤ 57 := by
    simpa [Char.isDigit, UInt32.le_iff_toNat_le] using h
  have hunderscore : c ≠ '_' := by
    rintro rfl
    cases h
  have hletter : Latest.isAlphabetic c = false := by
    have hupper : c.isUpper = false := by
      simp [Char.isUpper, UInt32.le_iff_toNat_le]
      omega
    have hlower : c.isLower = false := by
      simp [Char.isLower, UInt32.le_iff_toNat_le]
      omega
    rw [Latest.isAlphabetic, if_pos (by omega), Char.isAlpha, hupper, hlower, Bool.or_false]
  simp [isNameChar, hunderscore, hletter]

/-- No name starts with a digit. -/
def NoNumber (names : List (String × Nat)) : Prop :=
  ∀ (d : Char) (rest : List Char), d.isDigit = true → names.lookup (String.ofList (d :: rest)) = none

theorem noNumber_of_compile {source : String} {flags : Flags} {p : Pattern}
    (h : compile source flags = .ok p) : NoNumber p.names := by
  intro d rest hd
  rw [List.lookup_eq_none_iff]
  intro e he
  rw [bne_iff_ne]
  rintro heq
  obtain ⟨first, others, hname, hfirst⟩ := named_of_compile h e he
  rw [← heq, String.toList_ofList] at hname
  obtain ⟨rfl, -⟩ := List.cons.inj hname
  rw [isNameChar_of_isDigit hd] at hfirst
  cases hfirst

end ItemFlow.Pattern
