import ItemFlow.Proofs.Pattern.Layout
import ItemFlow.Proofs.Sequencing
import Mathlib

/-!
# Where matches lie

A match starts no earlier than its search and stops no earlier than it starts, inside the text
(`Pattern.within_findFrom?`), and the matches of a text follow each other without overlapping
(`Pattern.inOrder_findAll`). The invariant of a search is that every thread that has left the first
instruction keeps where its match starts, and at the end of the program also where it stops.
-/

namespace ItemFlow.Pattern

variable {program : Array Inst} {lo pos : Nat}

/-! ## Threads -/

/-- A thread has yet to start, or it keeps where its match starts and, at the end of the program, also
where it stops; both lie from `lo` to `pos`. -/
structure Thread.Sound (program : Array Inst) (lo pos : Nat) (t : Thread) : Prop where
  slots : 1 < t.slots.size
  kept : t.pc = 0 ∨ ∃ a, t.slots[0]? = some (some a) ∧ lo ≤ a ∧ a ≤ pos ∧
    (t.pc + 1 = program.size → ∃ b, t.slots[1]? = some (some b) ∧ a ≤ b ∧ b ≤ pos)

/-- Slots keep a start and a stop from `lo` to `hi`. -/
def Kept (lo hi : Nat) (slots : Array (Option Nat)) : Prop :=
  ∃ a b, slots[0]? = some (some a) ∧ slots[1]? = some (some b) ∧ lo ≤ a ∧ a ≤ b ∧ b ≤ hi

theorem Kept.mono {hi hi' : Nat} {slots : Array (Option Nat)} (h : Kept lo hi slots) (hle : hi ≤ hi') :
    Kept lo hi' slots := by
  obtain ⟨a, b, ha, hb, hlo, hab, hhi⟩ := h
  exact ⟨a, b, ha, hb, hlo, hab, hhi.trans hle⟩

namespace Laid

variable {pc : Nat} {inst : Inst} (hlaid : Laid program) (hinst : program[pc]? = some inst)

include hlaid hinst

/-- At address 0 a place is kept. -/
theorem pc_ne_zero (h : inst ≠ .save 0) : pc ≠ 0 := by
  rintro rfl
  rw [hlaid.first] at hinst
  exact h (Option.some.inj hinst).symm

theorem succ_lt (h : inst ≠ .accept) : pc + 1 < program.size := by
  have hpc : pc < program.size := (Array.getElem?_eq_some_iff.1 hinst).1
  by_contra hlt
  have hend : pc = program.size - 1 := by omega
  rw [hend, hlaid.ending] at hinst
  exact h (Option.some.inj hinst).symm

/-- Just before the end a place is kept. -/
theorem succ_succ_lt (hend : inst ≠ .accept) (h : inst ≠ .save 1) : pc + 2 < program.size := by
  have hpc := hlaid.succ_lt hinst hend
  by_contra hlt
  have hlast : pc = program.size - 2 := by omega
  rw [hlast, hlaid.last] at hinst
  exact h (Option.some.inj hinst).symm

end Laid

namespace Thread.Sound

variable {t : Thread} {inst : Inst}

/-- A thread that goes on at another address than the end. -/
theorem goto (h : t.Sound program lo pos) (hpc : t.pc ≠ 0) {target : Nat}
    (htarget : target + 1 < program.size) : ({ t with pc := target } : Thread).Sound program lo pos := by
  obtain ⟨a, ha, hlo, hpos, -⟩ := h.kept.resolve_left hpc
  exact ⟨h.slots, .inr ⟨a, ha, hlo, hpos, fun hend => absurd hend (by dsimp only; omega)⟩⟩

/-- A thread that keeps the place where it is. -/
theorem save (hlaid : Laid program) (h : t.Sound program lo pos) (hlo : lo ≤ pos) {slot : Nat}
    (hinst : program[t.pc]? = some (.save slot)) :
    (⟨t.pc + 1, t.slots.setIfInBounds slot (some pos)⟩ : Thread).Sound program lo pos := by
  have hslots := h.slots
  -- Where the match stops is kept just before the end.
  have hstop : t.pc + 1 + 1 = program.size → slot = 1 := by
    intro hend
    by_contra hne
    have := hlaid.succ_succ_lt hinst (by simp) (by simpa using hne)
    omega
  refine ⟨by simpa using hslots, .inr ?_⟩
  by_cases hslot : slot = 0
  · subst hslot
    refine ⟨pos, ?_, hlo, Nat.le_refl pos, fun hend => absurd (hstop hend) (by simp)⟩
    rw [Array.getElem?_setIfInBounds, if_pos rfl, if_pos (by omega)]
  · have hpc : t.pc ≠ 0 := hlaid.pc_ne_zero hinst (by simpa using hslot)
    obtain ⟨a, ha, hlo, hpos, -⟩ := h.kept.resolve_left hpc
    refine ⟨a, ?_, hlo, hpos, fun hend => ⟨pos, ?_, hpos, Nat.le_refl pos⟩⟩
    · rw [Array.getElem?_setIfInBounds, if_neg hslot, ha]
    · rw [Array.getElem?_setIfInBounds, hstop hend, if_pos rfl, if_pos hslots]

/-- A thread that an instruction without a character leads to. -/
theorem follow {place : Place} (hlaid : Laid program) (h : t.Sound program lo place.pos)
    (hlo : lo ≤ place.pos) (hinst : program[t.pc]? = some inst) :
    ∀ t' ∈ t.follow place inst, t'.Sound program lo place.pos := by
  have hsize := hlaid.size
  cases inst with
  | set chars => simp [Thread.follow]
  | accept => simp [Thread.follow]
  | look cond =>
    rw [Thread.follow]
    split
    · have hpc := hlaid.pc_ne_zero hinst (by simp)
      have hnext := hlaid.succ_succ_lt hinst (by simp) (by simp)
      exact List.forall_mem_singleton.2 (h.goto hpc hnext)
    · simp
  | save slot => exact List.forall_mem_singleton.2 (h.save hlaid hlo hinst)
  | split first second =>
    have hpc := hlaid.pc_ne_zero hinst (by simp)
    obtain ⟨hfirst, hsecond⟩ := hlaid.within _ _ (hlaid.succ_lt hinst (by simp)) hinst
    rw [Thread.follow, List.forall_mem_cons, List.forall_mem_singleton]
    exact ⟨h.goto hpc (by omega), h.goto hpc (by omega)⟩
  | jump target =>
    have hpc := hlaid.pc_ne_zero hinst (by simp)
    have htarget : target ≤ program.size - 2 := hlaid.within _ _ (hlaid.succ_lt hinst (by simp)) hinst
    exact List.forall_mem_singleton.2 (h.goto hpc (by omega))

/-- A thread that takes a character. -/
theorem advance {t' : Thread} {c : Char} (hlaid : Laid program) (h : t.Sound program lo pos)
    (hadvance : t.advance? program c = some t') : t'.Sound program lo (pos + 1) := by
  unfold Thread.advance? at hadvance
  split at hadvance
  · rename_i chars hinst
    have hpc := hlaid.pc_ne_zero hinst (by simp)
    have hnext := hlaid.succ_succ_lt hinst (by simp) (by simp)
    obtain ⟨a, ha, hlo, hpos, -⟩ := h.kept.resolve_left hpc
    split at hadvance
    · cases hadvance
      exact ⟨h.slots, .inr ⟨a, ha, hlo, by omega, fun hend => absurd hend (by dsimp only; omega)⟩⟩
    · cases hadvance
  · cases hadvance

/-- A thread that has come to the end keeps a match. -/
theorem kept_of_accepts (hlaid : Laid program) (h : t.Sound program lo pos)
    (haccepts : t.accepts program = true) : Kept lo pos t.slots := by
  unfold Thread.accepts at haccepts
  split at haccepts
  · rename_i hinst
    have hpc := hlaid.pc_ne_zero hinst (by simp)
    have hend : t.pc + 1 = program.size := by
      by_contra hne
      have hlt : t.pc < program.size := (Array.getElem?_eq_some_iff.1 hinst).1
      exact hlaid.within _ _ (by omega) hinst
    obtain ⟨a, ha, hlo, -, hstop⟩ := h.kept.resolve_left hpc
    obtain ⟨b, hb, hab, hpos⟩ := hstop hend
    exact ⟨a, b, ha, hb, hlo, hab, hpos⟩
  · cases haccepts

end Thread.Sound

/-! ## Searches -/

/-- Following sound threads leaves sound threads. -/
theorem sound_settle (hlaid : Laid program) {place : Place} (hlo : lo ≤ place.pos) (seen : Array Bool)
    (work ready : List Thread) (hwork : ∀ t ∈ work, t.Sound program lo place.pos)
    (hready : ∀ t ∈ ready, t.Sound program lo place.pos) :
    ∀ t ∈ settle program place seen work ready, t.Sound program lo place.pos := by
  fun_induction settle program place seen work ready with
  | case1 seen ready => simpa using hready
  | case2 seen ready t rest h hs hnone ih => exact ih (List.forall_mem_cons.1 hwork).2 hready
  | case3 seen ready t rest h hs inst hinst hwaits ih =>
    obtain ⟨ht, hrest⟩ := List.forall_mem_cons.1 hwork
    exact ih hrest (List.forall_mem_cons.2 ⟨ht, hready⟩)
  | case4 seen ready t rest h hs inst hinst hwaits ih =>
    obtain ⟨ht, hrest⟩ := List.forall_mem_cons.1 hwork
    exact ih (List.forall_mem_append.2 ⟨ht.follow hlaid hlo hinst, hrest⟩) hready
  | case5 seen ready t rest h hs ih => exact ih (List.forall_mem_cons.1 hwork).2 hready
  | case6 seen ready t rest h ih => exact ih (List.forall_mem_cons.1 hwork).2 hready

section

variable (hlaid : Laid program) {ready : List Thread} (hready : ∀ t ∈ ready, t.Sound program lo pos)

include hlaid hready

/-- The best match after a place is kept if the one before it is. -/
theorem kept_best {best : Option (Array (Option Nat))} {hi : Nat} (hpos : pos ≤ hi)
    (hbest : ∀ slots, best = some slots → Kept lo hi slots) :
    ∀ slots, ((ready.find? (·.accepts program)).map Thread.slots).or best = some slots →
      Kept lo hi slots := by
  intro slots hslots
  cases hfound : ready.find? (·.accepts program) with
  | none =>
    rw [hfound] at hslots
    exact hbest slots hslots
  | some t =>
    rw [hfound] at hslots
    obtain rfl := Option.some.inj hslots
    have hsound := hready t (List.mem_of_find?_eq_some hfound)
    exact (hsound.kept_of_accepts hlaid (List.find?_some hfound)).mono hpos

/-- The threads that take the next character are sound after it. -/
theorem sound_advance (c : Char) :
    ∀ t ∈ (ready.takeWhile fun t => !t.accepts program).filterMap (·.advance? program c),
      t.Sound program lo (pos + 1) := by
  intro t' ht'
  obtain ⟨t, ht, hadvance⟩ := List.mem_filterMap.1 ht'
  exact (hready t (List.takeWhile_subset _ ht)).advance hlaid hadvance

end

/-- What a search keeps is a match inside the text. -/
theorem kept_search (hlaid : Laid program) {fresh : Thread} (hfresh : ∀ pos, fresh.Sound program lo pos)
    (text : Array Char) (pos : Nat) (threads : List Thread) (best : Option (Array (Option Nat)))
    (hlo : lo ≤ pos) (hpos : pos ≤ text.size) (hthreads : ∀ t ∈ threads, t.Sound program lo pos)
    (hbest : ∀ slots, best = some slots → Kept lo text.size slots) :
    ∀ slots, search program fresh text pos threads best = some slots → Kept lo text.size slots := by
  have hround : ∀ {pos : Nat} {threads : List Thread} (best : Option (Array (Option Nat))), lo ≤ pos →
      (∀ t ∈ threads, t.Sound program lo pos) →
      ∀ t ∈ settle program (.ofText text pos) (Array.replicate program.size false)
        (if best.isNone then threads ++ [fresh] else threads) [], t.Sound program lo pos := by
    intro pos threads best hlo hthreads
    refine sound_settle hlaid (show lo ≤ (Place.ofText text pos).pos from hlo) _ _ _ ?_ (by simp)
    split
    · exact List.forall_mem_append.2 ⟨hthreads, List.forall_mem_singleton.2 (hfresh pos)⟩
    · exact hthreads
  fun_induction search program fresh text pos threads best with
  | case1 pos threads best work ready alive best' hlt hdone =>
    exact kept_best hlaid (hround best hlo hthreads) hpos hbest
  | case2 pos threads best work ready alive best' hlt hdone ih =>
    have hready := hround best hlo hthreads
    exact ih (by omega) hlt (sound_advance hlaid hready text[pos]) (kept_best hlaid hready hpos hbest)
  | case3 pos threads best work ready best' hend =>
    exact kept_best hlaid (hround best hlo hthreads) hpos hbest

/-! ## Matches -/

/-- What is known of every pattern that a text spells. -/
structure Formed (p : Pattern) : Prop where
  laid : Laid p.program
  groups : 0 < p.groups

theorem formed_of_compile {source : String} {flags : Flags} {p : Pattern} (h : compile source flags = .ok p) :
    p.Formed := by
  obtain ⟨⟨ast, groups, names⟩, -, h⟩ := Except.of_bind_ok h
  obtain ⟨⟨e, mode⟩, -, h⟩ := Except.of_bind_ok h
  cases h
  exact ⟨e.laid_program, Nat.succ_pos groups⟩

variable {p : Pattern} {text : Array Char} {m : Match}

theorem Match.of_ofSlots? {slots : Array (Option Nat)} {hi : Nat} (hslots : Kept lo hi slots)
    (h : Match.ofSlots? slots = some m) : lo ≤ m.start ∧ m.start ≤ m.stop ∧ m.stop ≤ hi := by
  obtain ⟨a, b, ha, hb, hlo, hab, hhi⟩ := hslots
  have hpair : pairAt slots 0 = some (a, b) := by
    rw [pairAt, Nat.mul_zero, Nat.zero_add, ha, hb]
  rw [Match.ofSlots?, hpair] at h
  cases h
  exact ⟨hlo, hab, hhi⟩

/-- A match lies from where its search starts to the end of the text. -/
theorem within_findFrom? (hp : p.Formed) (hpos : pos ≤ text.size) (h : p.findFrom? text pos = some m) :
    pos ≤ m.start ∧ m.start ≤ m.stop ∧ m.stop ≤ text.size := by
  have hgroups := hp.groups
  obtain ⟨slots, hsearch, hm⟩ := Option.bind_eq_some_iff.1 h
  have hfresh : ∀ hi, (⟨0, Array.replicate (2 * p.groups) none⟩ : Thread).Sound p.program pos hi := fun _ =>
    ⟨by rw [Array.size_replicate]; omega, .inl rfl⟩
  exact Match.of_ofSlots? (kept_search hp.laid hfresh text pos [] none (Nat.le_refl pos) hpos (by simp)
    (by simp) slots hsearch) hm

theorem within_findAfter? (hp : p.Formed) (hpos : pos ≤ text.size) (h : p.findAfter? text pos = some m) :
    pos ≤ m.start ∧ m.start ≤ m.stop ∧ m.stop ≤ text.size := by
  unfold findAfter? at h
  split at h
  · cases h
  · rename_i m' hm'
    split at h
    · split at h
      · rename_i hlt
        obtain ⟨hstart, hstop, hend⟩ := within_findFrom? hp hlt h
        exact ⟨by omega, hstop, hend⟩
      · cases h
    · cases h
      exact within_findFrom? hp hpos hm'

/-- Matches follow each other from `pos` on in a text of the given size. -/
def InOrder (size : Nat) : Nat → List Match → Prop
  | _, [] => True
  | pos, m :: rest => pos ≤ m.start ∧ m.start ≤ m.stop ∧ m.stop ≤ size ∧ InOrder size m.stop rest

theorem inOrder_findAllAfter (hp : p.Formed) (text : Array Char) (pos : Nat) (hpos : pos ≤ text.size) :
    InOrder text.size pos (p.findAllAfter text pos) := by
  fun_induction findAllAfter p text pos with
  | case1 => trivial
  | case2 pos m hm hstop ih =>
    obtain ⟨hstart, hle, hend⟩ := within_findAfter? hp hpos hm
    exact ⟨hstart, hle, hend, ih hend⟩
  | case3 => trivial

/-- The matches of a text do not overlap and come from left to right. -/
theorem inOrder_findAll (hp : p.Formed) (text : Array Char) : InOrder text.size 0 (p.findAll text) := by
  rw [findAll]
  split
  · trivial
  · rename_i m hm
    obtain ⟨hstart, hle, hend⟩ := within_findFrom? hp (Nat.zero_le _) hm
    exact ⟨hstart, hle, hend, inOrder_findAllAfter hp text m.stop hend⟩

theorem InOrder.take {size : Nat} {found : List Match} (h : InOrder size pos found) (n : Nat) :
    InOrder size pos (found.take n) := by
  induction found generalizing pos n with
  | nil => rw [List.take_nil]; trivial
  | cons m found ih =>
    obtain ⟨hstart, hle, hend, hrest⟩ := h
    cases n with
    | zero => trivial
    | succ n => exact ⟨hstart, hle, hend, ih hrest n⟩

end ItemFlow.Pattern
