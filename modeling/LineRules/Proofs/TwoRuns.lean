/-
  LineRules.Proofs.TwoRuns — two runs compared step by step.

  Two runs are compared by `Both`: they fail together or succeed together, and what they leave is
  related. On a line the rules of two tables are tried side by side: if they admit the same states,
  match alike and have the same transition, then they are skipped, miss or fire together, so it is
  enough to compare what a pair of them does when it fires (`tryRules_related`).
-/

import LineRules.Proofs.Course

namespace LineRules

section Both

variable {ε ε' α α' β β' : Type}

inductive Both (fault : ε → ε' → Prop) (result : α → α' → Prop) : Except ε α → Except ε' α' → Prop
  | error {e : ε} {e' : ε'} : fault e e' → Both fault result (.error e) (.error e')
  | ok {a : α} {a' : α'} : result a a' → Both fault result (.ok a) (.ok a')

variable {x : Except ε α} {x' : Except ε' α'} {fault fault' : ε → ε' → Prop}

theorem Both.outcome {result : α → α' → Prop} (h : Both fault result x x') :
    (∃ e e', x = .error e ∧ x' = .error e' ∧ fault e e') ∨ ∃ a a', x = .ok a ∧ x' = .ok a' ∧ result a a' := by
  cases h with
  | error he => exact .inl ⟨_, _, rfl, rfl, he⟩
  | ok ha => exact .inr ⟨_, _, rfl, rfl, ha⟩

theorem Both.imp {result result' : α → α' → Prop} (h : Both fault result x x')
    (hfault : ∀ e e', fault e e' → fault' e e') (hresult : ∀ a a', result a a' → result' a a') :
    Both fault' result' x x' := by
  cases h with
  | error he => exact .error (hfault _ _ he)
  | ok ha => exact .ok (hresult _ _ ha)

theorem Both.map {result : β → β' → Prop} {f : α → β} {f' : α' → β'}
    (h : Both fault (fun a a' => result (f a) (f' a')) x x') : Both fault result (x.map f) (x'.map f') := by
  cases h with
  | error he => exact .error he
  | ok ha => exact .ok ha

theorem Both.refl {fault : ε → ε → Prop} {result : α → α → Prop} (hfault : ∀ e, fault e e)
    (hresult : ∀ a, result a a) (x : Except ε α) : Both fault result x x := by
  cases x with
  | error e => exact .error (hfault e)
  | ok a => exact .ok (hresult a)

end Both

/-! ## Rules side by side -/

/-- Rules that are skipped, miss or fire together, on the same match. -/
structure Rule.InStep (r r' : Rule) : Prop where
  guard : r.guard = r'.guard
  transition : r.transition = r'.transition
  found : ∀ line, r.match? line = r'.match? line

def SamePlace (rules rules' : List Rule) (e e' : Nat × String) : Prop :=
  e.2 = e'.2 ∧ ∃ k : Nat, rules[k]?.map Rule.index = some e.1 ∧ rules'[k]?.map Rule.index = some e'.1

theorem SamePlace.cons {rules rules' : List Rule} {e e' : Nat × String} (h : SamePlace rules rules' e e')
    (r r' : Rule) : SamePlace (r :: rules) (r' :: rules') e e' := by
  obtain ⟨hreason, k, hk, hk'⟩ := h
  exact ⟨hreason, k + 1, hk, hk'⟩

theorem SamePlace.eq {rules rules' : List Rule} {e e' : Nat × String} (h : SamePlace rules rules' e e')
    (hindex : rules.map Rule.index = rules'.map Rule.index) : e = e' := by
  obtain ⟨hreason, k, hk, hk'⟩ := h
  rw [← List.getElem?_map, hindex, List.getElem?_map, hk', Option.some.injEq] at hk
  exact Prod.ext hk.symm hreason

structure Round.Related (index : Nat → Nat → Prop) (location : Option String → Option String → Prop)
    (store : Store → Store → Prop) (r r' : Round) : Prop where
  store : store r.store r'.store
  transition : r.transition = r'.transition
  tried : List.Forall₂ index r.tried r'.tried
  fired : List.Forall₂ (fun f f' => index f.rule f'.rule ∧ location f.location f'.location) r.fired r'.fired

theorem tryRules_related {strip : Bool} {state : String} {R : Rule → Rule → Prop} {index : Nat → Nat → Prop}
    {location : Option String → Option String → Prop} {store : Store → Store → Prop}
    (hstep : ∀ r r', R r r' → r.InStep r') (hindex : ∀ r r', R r r' → index r.index r'.index)
    (hfire : ∀ r r', R r r' → ∀ s s', store s s' → ∀ m,
      Both (· = ·) (fun out out' => store out.1 out'.1 ∧ location out.2 out'.2) (s.fire strip state r m)
        (s'.fire strip state r' m))
    (line : String) {rules rules' : List Rule} (h : List.Forall₂ R rules rules') {s s' : Store} (hs : store s s') :
    Both (SamePlace rules rules') (Round.Related index location store) (tryRules strip state line rules s)
      (tryRules strip state line rules' s') := by
  induction h generalizing s s' with
  | nil => exact .ok ⟨hs, rfl, .nil, .nil⟩
  | @cons r r' rest rest' hr _ ih =>
    have hrest {s s' : Store} (hs : store s s') := (ih hs).imp (fun _ _ he => SamePlace.cons he r r') fun _ _ ha => ha
    simp only [tryRules, ← (hstep r r' hr).guard, ← (hstep r r' hr).found, ← (hstep r r' hr).transition]
    -- the two rules are skipped, miss, refuse or fire together
    split
    · split
      · refine ((hrest hs).imp (fun _ _ he => he) fun a a' ha => ?_).map
        exact ⟨ha.store, ha.transition, .cons (hindex r r' hr) ha.tried, ha.fired⟩
      · rename_i m _
        rcases (hfire r r' hr s s' hs m).outcome with
          ⟨e, e', he, he', rfl⟩ | ⟨⟨u, loc⟩, ⟨u', loc'⟩, hu, hu', hstore, hloc⟩
        · rw [he, he']
          exact .error ⟨rfl, 0, rfl, rfl⟩
        · simp only [hu, hu']
          have hfiring : index r.index r'.index ∧ location loc loc' := ⟨hindex r r' hr, hloc⟩
          split
          · refine ((hrest hstore).imp (fun _ _ he => he) fun a a' ha => ?_).map
            exact ⟨ha.store, congrArg (fun t => some (Option.getD t r.transition)) ha.transition,
              .cons hfiring.1 ha.tried, .cons hfiring ha.fired⟩
          · exact .ok ⟨hstore, rfl, .cons hfiring.1 .nil, .cons hfiring .nil⟩
    · exact hrest hs

end LineRules
