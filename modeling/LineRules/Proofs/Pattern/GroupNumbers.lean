/-
  LineRules.Proofs.Pattern.GroupNumbers — the groups of a pattern that was read: their numbers run
  from 1 on, and no two of them have the same name.

  Reading opens groups one after another, and each opening is recorded in the state of the reader:
  the count goes up, and a name joins the names that no later group may have (`Opened`). Nothing is
  in the tree that was not opened on the way, so numbers and names of the tree are those of the
  record (`captures_readLevel`). The record of two stretches is that of one after the other
  (`Opened.trans`), which carries the induction over the text.

  Number 0 is the whole match: its slots say where the match begins and ends, and no group of the
  pattern writes to them.
-/

import LineRules.Proofs.Pattern.Reading

namespace LineRules.Pattern

def GroupKind.Numbered : GroupKind → Prop
  | .capture index _ => index ≠ 0
  | .plain _ => True

mutual

def Ast.Numbered : Ast → Prop
  | .repetition _ _ _ body => body.Numbered
  | .group kind body => kind.Numbered ∧ body.Numbered
  | .alt branches => Ast.NumberedAll branches
  | .cat items => Ast.NumberedAll items
  | _ => True

def Ast.NumberedAll : List Ast → Prop
  | [] => True
  | a :: rest => a.Numbered ∧ Ast.NumberedAll rest

end

/-! ## The groups of a tree -/

def GroupKind.captures : GroupKind → List (Nat × Option String)
  | .capture index name => [(index, name)]
  | .plain _ => []

mutual

def Ast.captures : Ast → List (Nat × Option String)
  | .repetition _ _ _ body => body.captures
  | .group kind body => kind.captures ++ body.captures
  | .alt branches => Ast.capturesAll branches
  | .cat items => Ast.capturesAll items
  | _ => []

def Ast.capturesAll : List Ast → List (Nat × Option String)
  | [] => []
  | a :: rest => a.captures ++ Ast.capturesAll rest

end

theorem capturesAll_eq (items : List Ast) : Ast.capturesAll items = items.flatMap Ast.captures := by
  induction items with
  | nil => rfl
  | cons a rest ih => rw [Ast.capturesAll, ih, List.flatMap_cons]

theorem captures_ofItems (items : List Ast) : (Ast.ofItems items).captures = items.flatMap Ast.captures := by
  rcases items with _ | ⟨a, _ | ⟨b, rest⟩⟩
  · rfl
  · simp [Ast.ofItems]
  · exact capturesAll_eq _

theorem numbered_kind {kind : GroupKind} (h : ∀ g ∈ kind.captures, g.1 ≠ 0) : kind.Numbered := by
  cases kind with
  | capture index name => exact h (index, name) (List.mem_singleton_self _)
  | plain changes => exact trivial

mutual

theorem numbered_of_captures : ∀ {a : Ast}, (∀ g ∈ a.captures, g.1 ≠ 0) → a.Numbered
  | .repetition _ _ _ body, h => numbered_of_captures (a := body) h
  | .group _ body, h =>
    ⟨numbered_kind fun g hg => h g (List.mem_append_left _ hg),
      numbered_of_captures (a := body) fun g hg => h g (List.mem_append_right _ hg)⟩
  | .alt branches, h => numberedAll_of_captures branches h
  | .cat items, h => numberedAll_of_captures items h
  | .empty, _ | .flags _, _ | .literal _, _ | .dot, _ | .assertion _, _ | .shorthand _ _, _ | .property _ _, _
  | .set _ _, _ => trivial

theorem numberedAll_of_captures : ∀ items : List Ast, (∀ g ∈ Ast.capturesAll items, g.1 ≠ 0) → Ast.NumberedAll items
  | [], _ => trivial
  | _ :: rest, h =>
    ⟨numbered_of_captures fun g hg => h g (List.mem_append_left _ hg),
      numberedAll_of_captures rest fun g hg => h g (List.mem_append_right _ hg)⟩

end

/-! ## What was read of a level -/

namespace Level

def captures (l : Level) : List (Nat × Option String) :=
  l.branches.flatMap Ast.captures ++ l.items.flatMap Ast.captures

variable {l : Level} {g : Nat × Option String}

theorem mem_captures_push {a : Ast} (h : g ∈ (l.push a).captures) : g ∈ a.captures ∨ g ∈ l.captures := by
  simp only [captures, push, List.flatMap_cons, List.mem_append] at h ⊢
  exact or_left_comm.mp h

theorem mem_captures_nextBranch (h : g ∈ l.nextBranch.captures) : g ∈ l.captures := by
  simp only [captures, nextBranch, List.flatMap_cons, List.flatMap_nil, List.append_nil, captures_ofItems,
    List.mem_append, List.mem_flatMap, List.mem_reverse] at h ⊢
  exact h.symm

theorem mem_captures_close (h : g ∈ l.close.captures) : g ∈ l.captures := by
  unfold close at h
  split at h
  · simp only [captures_ofItems, List.mem_flatMap, List.mem_reverse] at h
    simp only [captures, List.mem_append, List.mem_flatMap]
    exact .inr h
  · rw [Ast.captures, capturesAll_eq] at h
    simp only [List.flatMap_append, List.flatMap_cons, List.flatMap_nil, List.append_nil, captures_ofItems,
      List.mem_append, List.mem_flatMap, List.mem_reverse] at h
    simp only [captures, List.mem_append, List.mem_flatMap]
    exact h

theorem mem_captures_repeatLast {r : Repetition} {l' : Level} (hl : l.repeatLast r = .ok l') (h : g ∈ l'.captures) :
    g ∈ l.captures := by
  unfold repeatLast at hl
  split at hl
  · cases hl
  · cases hl
  · rename_i a rest _ hitems
    cases hl
    simpa only [captures, hitems, List.flatMap_cons, Ast.captures] using h

end Level

/-! ## The record of openings -/

/-- The groups that were opened between two points of the text, last first, given the names in use
    at these points. -/
structure Opened (old now : List String) (new : List (Nat × Option String)) : Prop where
  numbers : ∀ g ∈ new, g.1 ≠ 0
  names : now = new.filterMap (·.2) ++ old
  distinct : old.Nodup → now.Nodup

theorem Opened.nothing (old : List String) : Opened old old [] := ⟨by simp, rfl, id⟩

theorem Opened.trans {old now later : List String} {new more : List (Nat × Option String)}
    (h : Opened old now new) (h' : Opened now later more) : Opened old later (more ++ new) := by
  refine ⟨fun g hg => ?_, ?_, fun hd => h'.distinct (h.distinct hd)⟩
  · rcases List.mem_append.mp hg with hg | hg
    · exact h'.numbers g hg
    · exact h.numbers g hg
  · rw [h'.names, h.names, List.filterMap_append, List.append_assoc]

theorem Opened.name_injective {now : List String} {new : List (Nat × Option String)} (h : Opened [] now new)
    {i j : Nat} {name : String} (hi : (i, some name) ∈ new) (hj : (j, some name) ∈ new) : i = j := by
  have hdistinct : (new.filterMap (·.2)).Nodup := by
    have hnow := h.distinct List.nodup_nil
    rwa [h.names, List.append_nil] at hnow
  clear h
  induction new with
  | nil => cases hi
  | cons g rest ih =>
    have hrest : (rest.filterMap (·.2)).Nodup :=
      hdistinct.sublist ((List.sublist_cons_self g rest).filterMap _)
    -- a name at the head is no name of the rest
    have hhead {k k' : Nat} (hg : g = (k, some name)) (hk : (k', some name) ∈ rest) : False := by
      rw [hg, List.filterMap_cons, List.nodup_cons] at hdistinct
      exact hdistinct.1 (List.mem_filterMap.mpr ⟨_, hk, rfl⟩)
    rcases List.mem_cons.mp hi with hi | hi <;> rcases List.mem_cons.mp hj with hj | hj
    · exact congrArg Prod.fst (hi.trans hj.symm)
    · exact (hhead hi.symm hj).elim
    · exact (hhead hj.symm hi).elim
    · exact ih hi hj hrest

theorem notMem_of_readName {names : List String} {cs rest : List Char} {name : String}
    (h : readName names cs = .ok (name, rest)) : name ∉ names := by
  unfold readName at h
  split at h
  · cases h
  · split at h
    · cases h
    · dsimp only at h
      split at h
      · cases h
      · split at h
        · cases h
        · rename_i hfresh
          cases h
          simpa using hfresh

def Opening.captures : Opening → List (Nat × Option String)
  | .flags _ => []
  | .group kind => kind.captures

section Openings

variable {st st' : State} {opening : Opening} {cs rest : List Char}

theorem opened_openNamed (h : openNamed st cs = .ok (opening, st', rest)) :
    Opened st.names st'.names opening.captures := by
  unfold openNamed at h
  cases hname : readName st.names cs with
  | error e => rw [hname] at h; cases h
  | ok out =>
    rw [hname] at h
    cases h
    refine ⟨by simp [Opening.captures, GroupKind.captures], rfl, fun hd => ?_⟩
    exact List.nodup_cons.mpr ⟨notMem_of_readName hname, hd⟩

theorem opened_openFlags (h : openFlags st cs = .ok (opening, st', rest)) :
    Opened st.names st'.names opening.captures := by
  unfold openFlags at h
  split at h
  · cases h
  · cases h; exact .nothing _
  · cases h
  · cases h; exact .nothing _

theorem opened_openGroup (h : openGroup st cs = .ok (opening, st', rest)) :
    Opened st.names st'.names opening.captures := by
  rw [openGroup_eq] at h
  split at h
  · unfold openMarked at h
    split at h
    · cases h
    · split at h
      · split at h
        · cases h
        · exact opened_openNamed h
      · split at h
        · exact opened_openNamed h
        · exact opened_openFlags h
  · cases h
    exact ⟨by simp [Opening.captures, GroupKind.captures], rfl, id⟩

end Openings

/-! ## Escapes and single characters capture nothing -/

variable {v : Bool}

theorem captures_of_ofChar {c : Char} {a : Ast} (h : Escape.ofChar c = .whole a) : a.captures = [] := by
  unfold Escape.ofChar at h
  split at h <;> first
    | (cases h; rfl)
    | cases h
    | (split at h <;> cases h; rfl)

/-- The first half of what a mapped result holds. -/
theorem fst_of_map {ε α β γ : Type} {P : β → Prop} {x : Except ε α} {f : α → β × γ} {b : β} {c : γ}
    (h : x.map f = .ok (b, c)) (hf : ∀ a, x = .ok a → P (f a).1) : P b := by
  cases x with
  | error e => cases h
  | ok a =>
    have heq : f a = (b, c) := Except.ok.inj h
    rw [← show (f a).1 = b from congrArg Prod.fst heq]
    exact hf a rfl

theorem captures_readEscape {cs rest : List Char} {a : Ast} (h : readEscape v cs = .ok (a, rest)) :
    a.captures = [] := by
  rcases cs with _ | ⟨c, cs⟩
  · cases h
  rw [readEscape_cons] at h
  cases hform : Escape.ofChar c with
  | hex digits => rw [hform] at h; exact fst_of_map (P := (Ast.captures · = [])) h fun _ _ => rfl
  | property negated => rw [hform] at h; exact fst_of_map (P := (Ast.captures · = [])) h fun _ _ => rfl
  | boundary => rw [hform] at h; exact fst_of_map (P := (Ast.captures · = [])) h fun _ _ => rfl
  | whole b =>
    rw [hform] at h
    cases h
    exact captures_of_ofChar hform
  | refused => rw [hform] at h; cases h

theorem captures_readPrimitive {cs rest : List Char} {a : Ast} (h : readPrimitive v cs = .ok (a, rest)) :
    a.captures = [] := by
  unfold readPrimitive at h
  split at h
  · cases h
  · exact captures_readEscape h
  all_goals cases h; rfl

/-! ## Levels -/

/-- The groups of a tree that was read from a level on are in the level or were opened meanwhile. -/
def Recorded (st st' : State) (level : Level) (a : Ast) : Prop :=
  ∃ new, Opened st.names st'.names new ∧ ∀ g ∈ a.captures, g ∈ level.captures ∨ g ∈ new

theorem Recorded.of_level {st st' : State} {level level' : Level} {a : Ast} (h : Recorded st st' level' a)
    (hlevel : ∀ g ∈ level'.captures, g ∈ level.captures) : Recorded st st' level a := by
  obtain ⟨new, hnew, hcaptures⟩ := h
  exact ⟨new, hnew, fun g hg => (hcaptures g hg).imp_left (hlevel g)⟩

/-- An item without groups was put to the level. -/
theorem Recorded.of_push {st st' : State} {level : Level} {a b : Ast} (h : Recorded st st' (level.push b) a)
    (hb : b.captures = []) : Recorded st st' level a :=
  h.of_level fun _ hg => (Level.mem_captures_push hg).resolve_left (by simp [hb])

section Levels

variable {fuel : Nat}
variable (hlevel : ∀ {st st' level cs rest a}, readLevel fuel st level cs = .ok (a, st', rest) →
  Recorded st st' level a)
variable {st st' : State} {level : Level} {cs rest : List Char} {a : Ast}

include hlevel

theorem recorded_readGroup (h : readGroup fuel st level cs = .ok (a, st', rest)) : Recorded st st' level a := by
  unfold readGroup at h
  split at h
  · cases h
  · rename_i changes st₁ _ hopen
    obtain ⟨new, hnew, hcaptures⟩ := (hlevel h).of_push (show (Ast.flags changes).captures = [] from rfl)
    exact ⟨new, List.append_nil new ▸ (opened_openGroup hopen).trans hnew, hcaptures⟩
  · rename_i kind st₁ _ hopen
    split at h
    · cases h
    · rename_i body inner _ hbody
      -- the groups of the level: this one, those in its body, and those that come after it
      obtain ⟨within, hwithin, hinner⟩ := hlevel hbody
      obtain ⟨new, hnew, hcaptures⟩ := hlevel h
      refine ⟨_, ((opened_openGroup hopen).trans hwithin).trans hnew, fun g hg => ?_⟩
      rcases hcaptures g hg with hg | hg
      · rcases Level.mem_captures_push hg with hg | hg
        · rcases List.mem_append.mp hg with hg | hg
          · exact .inr (List.mem_append_right _ (List.mem_append_right _ hg))
          · have hg : g ∈ within := (hinner g hg).resolve_left (by simp [Level.captures])
            exact .inr (List.mem_append_right _ (List.mem_append_left _ hg))
        · exact .inl hg
      · exact .inr (List.mem_append_left _ hg)
    · cases h

theorem recorded_readClass (h : readClass fuel st level cs = .ok (a, st', rest)) : Recorded st st' level a := by
  unfold readClass at h
  split at h
  · cases h
  · rename_i negated _ _ _
    split at h
    · cases h
    · rename_i body _ _
      exact (hlevel h).of_push (show (Ast.set negated body).captures = [] from rfl)

theorem recorded_readItem (h : readItem fuel st level cs = .ok (a, st', rest)) : Recorded st st' level a := by
  unfold readItem at h
  split at h
  · cases h
  · split at h
    · cases h
    · rename_i hlast
      exact (hlevel h).of_level fun _ hg => Level.mem_captures_repeatLast hlast hg
  · split at h
    · cases h
    · rename_i hprim
      exact (hlevel h).of_push (captures_readPrimitive hprim)

end Levels

theorem recorded_readLevel {fuel : Nat} {st st' : State} {level : Level} {cs rest : List Char} {a : Ast}
    (h : readLevel fuel st level cs = .ok (a, st', rest)) : Recorded st st' level a := by
  induction fuel generalizing st st' level cs rest a with
  | zero => cases h
  | succ fuel ih =>
    have hclosed : Recorded st st level level.close :=
      ⟨[], .nothing _, fun _ hg => .inl (Level.mem_captures_close hg)⟩
    rw [readLevel_eq] at h
    split at h
    · cases h; exact hclosed
    split at h
    · cases h; exact hclosed
    split at h
    · exact (ih h).of_level fun _ hg => Level.mem_captures_nextBranch hg
    split at h
    · exact recorded_readGroup ih h
    split at h
    · exact recorded_readClass ih h
    · exact recorded_readItem ih h

/-! ## Patterns -/

/-- The groups of a pattern that was read are among some that were opened from no names on. -/
theorem captures_read {text : List Char} {a : Ast} (h : Ast.read v text = .ok a) :
    ∃ now new, Opened [] now new ∧ ∀ g ∈ a.captures, g ∈ new := by
  obtain ⟨-, st, h⟩ := read_eq_ok h
  obtain ⟨new, hnew, hcaptures⟩ := recorded_readLevel h
  exact ⟨_, new, hnew, fun g hg => (hcaptures g hg).resolve_left (by simp [Level.captures])⟩

/-- The groups of a pattern that was read have numbers from 1 on. -/
theorem numbered_read {text : List Char} {a : Ast} (h : Ast.read v text = .ok a) : a.Numbered := by
  obtain ⟨_, new, hnew, hcaptures⟩ := captures_read h
  exact numbered_of_captures fun g hg => hnew.numbers g (hcaptures g hg)

/-- No two groups of a pattern that was read have the same name. -/
theorem name_injective_read {text : List Char} {a : Ast} (h : Ast.read v text = .ok a) {i j : Nat} {name : String}
    (hi : (i, some name) ∈ a.captures) (hj : (j, some name) ∈ a.captures) : i = j := by
  obtain ⟨_, new, hnew, hcaptures⟩ := captures_read h
  exact hnew.name_injective (hcaptures _ hi) (hcaptures _ hj)

end LineRules.Pattern
