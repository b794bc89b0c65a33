/-
  LineRules.Proofs.Pattern.Threads — what the threads of a program keep, and which programs have
  the same threads.

  Whatever the instructions of a program keep for one thread holds of all its threads, at every
  position, and of the match that is found (`Program.Keeps`). Two programs that have the same
  instructions up to some address run the same threads there (`run_alike`), however many
  instructions each has behind it: the instructions seen are marked, so the fuel that the size of a
  program gives is enough for both.
-/

import LineRules.Pattern.Run
import LineRules.Proofs.Pattern.Layout
import Mathlib.Data.Finset.Card

namespace LineRules.Pattern

/-! ## What threads keep -/

structure Program.Keeps (p : Program) (inv : Nat → Slots → Prop) : Prop where
  char : ∀ {a set next s}, p.insts[a]? = some (.char set next) → inv a s → inv next s
  look : ∀ {a l next s}, p.insts[a]? = some (.look l next) → inv a s → inv next s
  save : ∀ {a slot next s}, p.insts[a]? = some (.save slot next) → inv a s → ∀ pos, inv next (s.set slot (some pos))
  split : ∀ {a first second s}, p.insts[a]? = some (.split first second) → inv a s → inv first s ∧ inv second s

def Threads (inv : Nat → Slots → Prop) (ts : List Thread) : Prop := ∀ t ∈ ts, inv t.address t.slots

section Keeps

variable {p : Program} {inv : Nat → Slots → Prop} (hp : p.Keeps inv)

theorem Threads.nil (inv : Nat → Slots → Prop) : Threads inv [] := by simp [Threads]

theorem Threads.cons {t : Thread} {ts : List Thread} (ht : inv t.address t.slots) (h : Threads inv ts) :
    Threads inv (t :: ts) := by
  intro u hu
  rcases List.mem_cons.mp hu with rfl | hu
  · exact ht
  · exact h u hu

theorem Threads.reverse {ts : List Thread} (h : Threads inv ts) : Threads inv ts.reverse :=
  fun t ht => h t (List.mem_reverse.mp ht)

include hp

theorem Program.Keeps.follow (h : Here) {fuel a : Nat} {s : Slots} {g : Gathered} (hs : inv a s)
    (hg : Threads inv g.threads) : Threads inv (p.follow h fuel a s g).threads := by
  induction fuel generalizing a s g with
  | zero => exact hg
  | succ fuel ih =>
    rw [Program.follow]
    split
    · exact hg
    · dsimp only
      split
      · exact hg
      · exact hg.cons hs
      · exact hg.cons hs
      · rename_i heq
        split
        · exact ih (hp.look heq hs) hg
        · exact hg
      · rename_i heq
        exact ih (hp.save heq hs h.pos) hg
      · rename_i heq
        obtain ⟨hfirst, hsecond⟩ := hp.split heq hs
        exact ih hsecond (ih hfirst hg)

/-- The threads of the next position keep the property, and so does the one that accepts. -/
theorem Program.Keeps.advance (c : Option Char) (h : Here) {ts : List Thread} {g : Gathered} (hts : Threads inv ts)
    (hg : Threads inv g.threads) :
    Threads inv (p.advance c h ts g).2 ∧
      ∀ s, (p.advance c h ts g).1 = some s → ∃ a, p.insts[a]? = some .accept ∧ inv a s := by
  induction ts generalizing g with
  | nil => exact ⟨hg.reverse, by simp [Program.advance]⟩
  | cons t rest ih =>
    have hrest : Threads inv rest := fun u hu => hts u (List.mem_cons_of_mem t hu)
    have ht := hts t List.mem_cons_self
    rw [Program.advance]
    split
    · rename_i heq
      refine ⟨hg.reverse, ?_⟩
      intro s hs
      cases hs
      exact ⟨t.address, heq, ht⟩
    · rename_i heq
      split
      · split
        · exact ih hrest (hp.follow h (hp.char heq ht) hg)
        · exact ih hrest hg
      · exact ih hrest hg
    · exact ih hrest hg

theorem Program.Keeps.run {ts : List Thread} {best : Option Slots} {pos : Nat} {text : List Char} {s : Slots}
    (hts : Threads inv ts) (h : p.run ts best pos text = some s) :
    best = some s ∨ ∃ a, p.insts[a]? = some .accept ∧ inv a s := by
  induction text generalizing ts best pos with
  | nil =>
    rw [Program.run] at h
    rcases Option.or_eq_some_iff.mp h with h | ⟨-, h⟩
    · exact Or.inr ((hp.advance none ⟨pos, none, none⟩ (g := p.ungathered) hts (Threads.nil inv)).2 s h)
    · exact Or.inl h
  | cons c rest ih =>
    rw [Program.run] at h
    obtain ⟨hnext, hfound⟩ :=
      hp.advance (some c) ⟨pos + 1, some c, rest.head?⟩ (g := p.ungathered) hts (Threads.nil inv)
    cases hadv : p.advance (some c) ⟨pos + 1, some c, rest.head?⟩ ts p.ungathered with
    | mk found threads =>
      rw [hadv] at h hnext hfound
      have hbest (h : found.or best = some s) : best = some s ∨ ∃ a, p.insts[a]? = some .accept ∧ inv a s := by
        rcases Option.or_eq_some_iff.mp h with h | ⟨-, h⟩
        · exact Or.inr (hfound s h)
        · exact Or.inl h
      simp only at h
      split at h
      · exact hbest h
      · rcases ih hnext h with h | h
        · exact hbest h
        · exact Or.inr h

end Keeps

/-! ## Marks -/

namespace Marks

theorem fits_add {m : Marks} {a b : Nat} : (m.add a).Fits b ↔ m.Fits b := by
  simp [Fits, add]

theorem fits_none {size a : Nat} (h : a < size) : (none size).Fits a := by
  have := Nat.div_le_div_right (c := 32) (Nat.le_of_lt h)
  simp only [Fits, none, Array.size_replicate]
  omega

def unseen (m : Marks) (n : Nat) : Finset Nat := (Finset.range n).filter fun a => m.has a = false

theorem card_unseen_le (m : Marks) (n : Nat) : (m.unseen n).card ≤ n :=
  (Finset.card_filter_le _ _).trans (Nat.le_of_eq (Finset.card_range n))

theorem unseen_add {m : Marks} {a n : Nat} (hroom : m.Fits a) (ha : a < n) (hnew : ¬m.has a = true) :
    (m.add a).unseen n ⊂ m.unseen n := by
  refine Finset.ssubset_iff_of_subset ?_ |>.mpr ⟨a, ?_, ?_⟩
  · intro b hb
    simp only [unseen, Finset.mem_filter, has_add hroom, Bool.or_eq_false_iff] at hb ⊢
    exact ⟨hb.1, hb.2.2⟩
  · simp [unseen, ha, hnew]
  · simp [unseen, has_add hroom]

end Marks

/-! ## Programs with the same threads -/

/-- A program with these instructions up to their number. -/
structure Program.Extends (p : Program) (insts : Array Inst) : Prop where
  agree : ∀ a, a < insts.size → p.insts[a]? = insts[a]?
  size : insts.size ≤ p.insts.size

/-- The threads at addresses of the instructions stay there. -/
theorem keeps_lt {insts : Array Inst} {p : Program} (hp : p.Extends insts) (hlaid : Laid insts) :
    p.Keeps fun a _ => a < insts.size := by
  have target {a : Nat} {i : Inst} (hi : p.insts[a]? = some i) (ha : a < insts.size) :
      ∀ t ∈ i.targets, t < insts.size := by
    rw [hp.agree a ha] at hi
    exact hlaid.target_lt hi
  exact
    { char := fun hi ha => target hi ha _ (by simp [Inst.targets])
      look := fun hi ha => target hi ha _ (by simp [Inst.targets])
      save := fun hi ha _ => target hi ha _ (by simp [Inst.targets])
      split := fun hi ha => ⟨target hi ha _ (by simp [Inst.targets]), target hi ha _ (by simp [Inst.targets])⟩ }

/-- The same threads were gathered, and the same addresses below `n` were seen. -/
structure Alike (n : Nat) (g g' : Gathered) : Prop where
  threads : g.threads = g'.threads
  seen : ∀ a, a < n → g.seen.has a = g'.seen.has a
  room : ∀ a, a < n → g.seen.Fits a ∧ g'.seen.Fits a

namespace Alike

variable {n : Nat} {g g' : Gathered}

theorem unseen (h : Alike n g g') : g.seen.unseen n = g'.seen.unseen n := by
  refine Finset.filter_congr fun a ha => ?_
  rw [h.seen a (Finset.mem_range.mp ha)]

theorem mark (h : Alike n g g') {a : Nat} (ha : a < n) :
    Alike n { g with seen := g.seen.add a } { g' with seen := g'.seen.add a } := by
  refine ⟨h.threads, ?_, fun b hb => ⟨Marks.fits_add.mpr (h.room b hb).1, Marks.fits_add.mpr (h.room b hb).2⟩⟩
  intro b hb
  rw [Marks.has_add (h.room a ha).1, Marks.has_add (h.room a ha).2, h.seen b hb]

theorem thread (h : Alike n g g') (t : Thread) :
    Alike n { g with threads := t :: g.threads } { g' with threads := t :: g'.threads } :=
  ⟨by rw [h.threads], h.seen, h.room⟩

end Alike

section Alike

variable {insts : Array Inst} {p p' : Program} (hp : p.Extends insts) (hp' : p'.Extends insts) (hlaid : Laid insts)

include hp hp' hlaid

/-- Both programs gather the same threads. There is fuel for each address that was not seen yet, so
    neither program runs out of it. -/
theorem follow_alike (h : Here) {fuel fuel' a : Nat} {s : Slots} {g g' : Gathered} (ha : a < insts.size)
    (hg : Alike insts.size g g') (hfuel : (g.seen.unseen insts.size).card < fuel)
    (hfuel' : (g'.seen.unseen insts.size).card < fuel') :
    Alike insts.size (p.follow h fuel a s g) (p'.follow h fuel' a s g') ∧
      (p.follow h fuel a s g).seen.unseen insts.size ⊆ g.seen.unseen insts.size := by
  induction fuel generalizing fuel' a s g g' with
  | zero => exact absurd hfuel (Nat.not_lt_zero _)
  | succ fuel ih =>
    obtain ⟨fuel', rfl⟩ := Nat.exists_eq_succ_of_ne_zero (Nat.ne_zero_of_lt hfuel')
    rw [Program.follow, Program.follow, ← hg.seen a ha]
    by_cases hs : g.seen.has a = true
    · rw [if_pos hs, if_pos hs]
      exact ⟨hg, Finset.Subset.refl _⟩
    · rw [if_neg hs, if_neg hs, hp.agree a ha, hp'.agree a ha]
      have hmark := hg.mark ha
      have hfewer := Marks.unseen_add (hg.room a ha).1 ha hs
      have hfewer' := Marks.unseen_add (hg.room a ha).2 ha (by rwa [← hg.seen a ha])
      have hcard := (Finset.card_lt_card hfewer).trans_le (Nat.le_of_lt_succ hfuel)
      have hcard' := (Finset.card_lt_card hfewer').trans_le (Nat.le_of_lt_succ hfuel')
      have go {next : Nat} {s : Slots} (hnext : next < insts.size) := ih (s := s) hnext hmark hcard hcard'
      cases hi : insts[a]? with
      | none => exact absurd (Array.getElem?_eq_none_iff.mp hi) (Nat.not_le_of_lt ha)
      | some i =>
        have htarget := hlaid.target_lt hi
        cases i with
        | accept => exact ⟨hmark.thread _, hfewer.subset⟩
        | char set next => exact ⟨hmark.thread _, hfewer.subset⟩
        | look l next =>
          dsimp only
          split
          · obtain ⟨halike, hsub⟩ := go (s := s) (htarget next (by simp [Inst.targets]))
            exact ⟨halike, hsub.trans hfewer.subset⟩
          · exact ⟨hmark, hfewer.subset⟩
        | save slot next =>
          obtain ⟨halike, hsub⟩ := go (s := s.set slot (some h.pos)) (htarget next (by simp [Inst.targets]))
          exact ⟨halike, hsub.trans hfewer.subset⟩
        | split first second =>
          obtain ⟨halike, hsub⟩ := go (s := s) (htarget first (by simp [Inst.targets]))
          have hrest := (Finset.card_le_card hsub).trans_lt hcard
          have hrest' := (Finset.card_le_card hsub).trans_lt (hmark.unseen ▸ hcard')
          rw [halike.unseen] at hrest'
          obtain ⟨halike', hsub'⟩ := ih (s := s) (htarget second (by simp [Inst.targets])) halike hrest hrest'
          exact ⟨halike', hsub'.trans (hsub.trans hfewer.subset)⟩

theorem enter_alike (h : Here) {a : Nat} {s : Slots} {g g' : Gathered} (ha : a < insts.size)
    (hg : Alike insts.size g g') : Alike insts.size (p.enter h a s g) (p'.enter h a s g') :=
  (follow_alike hp hp' hlaid h ha hg (Nat.lt_succ_of_le ((Marks.card_unseen_le _ _).trans hp.size))
    (Nat.lt_succ_of_le ((Marks.card_unseen_le _ _).trans hp'.size))).1

omit hlaid in
theorem ungathered_alike : Alike insts.size p.ungathered p'.ungathered := by
  refine ⟨rfl, ?_, ?_⟩
  · intro a ha
    simp only [Program.ungathered, Marks.has_none]
  · intro a ha
    exact ⟨Marks.fits_none (ha.trans_le hp.size), Marks.fits_none (ha.trans_le hp'.size)⟩

theorem advance_alike (c : Option Char) (h : Here) {ts : List Thread} {g g' : Gathered}
    (hts : ∀ t ∈ ts, t.address < insts.size) (hg : Alike insts.size g g') :
    p.advance c h ts g = p'.advance c h ts g' := by
  induction ts generalizing g g' with
  | nil => rw [Program.advance, Program.advance, hg.threads]
  | cons t rest ih =>
    have hrest : ∀ u ∈ rest, u.address < insts.size := fun u hu => hts u (List.mem_cons_of_mem t hu)
    have ht := hts t List.mem_cons_self
    rw [Program.advance, Program.advance, hp.agree t.address ht, hp'.agree t.address ht, hg.threads]
    split
    · rfl
    · rename_i set next hi
      have hnext := hlaid.target_lt hi next (by simp [Inst.targets])
      split
      · split
        · exact ih hrest (enter_alike hp hp' hlaid h hnext hg)
        · exact ih hrest hg
      · exact ih hrest hg
    · exact ih hrest hg

theorem run_alike {ts : List Thread} {best : Option Slots} {pos : Nat} {text : List Char}
    (hts : ∀ t ∈ ts, t.address < insts.size) : p.run ts best pos text = p'.run ts best pos text := by
  induction text generalizing ts best pos with
  | nil => rw [Program.run, Program.run, advance_alike hp hp' hlaid _ _ hts (ungathered_alike hp hp')]
  | cons c rest ih =>
    have hnext := ((keeps_lt hp hlaid).advance (some c) ⟨pos + 1, some c, rest.head?⟩ (g := p.ungathered) hts
      (Threads.nil _)).1
    rw [Program.run, Program.run, ← advance_alike hp hp' hlaid _ _ hts (ungathered_alike hp hp')]
    dsimp only
    split
    · rfl
    · exact ih hnext

end Alike

end LineRules.Pattern
