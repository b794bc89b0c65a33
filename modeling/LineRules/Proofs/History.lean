/-
  LineRules.Proofs.History — a scan as a sequence of fires.

  Which rules fire, on which matches and in which states, is decided by the table, the state
  and the lines alone (`Table.fires`). What a scan then writes is what these fires write one
  after another, each to the store that the ones before it left (`Store.after`, `run_store`):
  lines on which no rule fires and rules that do not fire write nothing.

  Where no filter function is asked no fire is refused, so that every scan succeeds (`run_of_sure`),
  and what each fire keeps holds at every moment of it (`scan_of_step`).
-/

import LineRules.Proofs.Dispatch

namespace LineRules

structure Fire where
  rule : Rule
  state : String
  found : Match

def firesOn (state line : String) (rules : List Rule) : List Fire :=
  (firedOf state line rules).filterMap fun rule => (rule.match? line).map fun m => ⟨rule, state, m⟩

/-- The fires on lines from a state on, up to a line that ends the scan. -/
def Table.fires (t : Table) (state : String) : List String → List Fire
  | [] => []
  | line :: rest =>
    firesOn state line t.rules ++
      if lastTransition (firedOf state line t.rules) = some .stop then []
      else t.fires (stateAfter state (firedOf state line t.rules)) rest

def Store.after (strip : Bool) (s : Store) : List Fire → Except String Store
  | [] => .ok s
  | f :: rest =>
    match s.fire strip f.state f.rule f.found with
    | .error reason => .error reason
    | .ok (s, _) => s.after strip rest

theorem Store.after_cons_eq_ok {strip : Bool} {s u : Store} {f : Fire} {fs : List Fire} :
    s.after strip (f :: fs) = .ok u ↔
      ∃ v loc, s.fire strip f.state f.rule f.found = .ok (v, loc) ∧ v.after strip fs = .ok u := by
  rw [Store.after]
  cases hf : s.fire strip f.state f.rule f.found with
  | error reason => simp
  | ok out => obtain ⟨v, loc⟩ := out; simp

theorem Store.after_append {strip : Bool} {s s' : Store} {fs gs : List Fire} (h : s.after strip fs = .ok s') :
    s.after strip (fs ++ gs) = s'.after strip gs := by
  induction fs generalizing s with
  | nil => cases h; rfl
  | cons f fs ih =>
    obtain ⟨v, loc, hf, hfs⟩ := after_cons_eq_ok.mp h
    rw [List.cons_append, Store.after, hf]
    exact ih hfs

theorem Store.after_append_eq_ok {strip : Bool} {s u : Store} {fs gs : List Fire}
    (h : s.after strip (fs ++ gs) = .ok u) : ∃ v, s.after strip fs = .ok v ∧ v.after strip gs = .ok u := by
  induction fs generalizing s with
  | nil => exact ⟨s, rfl, h⟩
  | cons f fs ih =>
    obtain ⟨v, loc, hf, hrest⟩ := after_cons_eq_ok.mp h
    obtain ⟨w, hw, hgs⟩ := ih hrest
    exact ⟨w, after_cons_eq_ok.mpr ⟨v, loc, hf, hw⟩, hgs⟩

/-! ## The fires of a line -/

variable {strip : Bool} {state line : String}

theorem firesOn_of_not_hits {rule : Rule} {rules : List Rule} (h : rule.hits state line = false) :
    firesOn state line (rule :: rules) = firesOn state line rules := by
  simp [firesOn, firedOf, h]

theorem firesOn_of_proceed {rule : Rule} {rules : List Rule} {m : Match} (ha : rule.guard.admits state = true)
    (hm : rule.match? line = some m) (ht : rule.transition = .proceed) :
    firesOn state line (rule :: rules) = ⟨rule, state, m⟩ :: firesOn state line rules := by
  simp [firesOn, firedOf, Rule.hits, ha, hm, through, Rule.closes, ht]

theorem firesOn_of_close {rule : Rule} {rules : List Rule} {m : Match} (ha : rule.guard.admits state = true)
    (hm : rule.match? line = some m) (ht : rule.transition ≠ .proceed) :
    firesOn state line (rule :: rules) = [⟨rule, state, m⟩] := by
  simp [firesOn, firedOf, Rule.hits, ha, hm, through, Rule.closes, ht]

theorem firesOn_of_hit {rule : Rule} {rules : List Rule} {m : Match} (ha : rule.guard.admits state = true)
    (hm : rule.match? line = some m) : firesOn state line (rule :: rules) =
      ⟨rule, state, m⟩ :: if rule.transition = .proceed then firesOn state line rules else [] := by
  split
  · rename_i ht
    exact firesOn_of_proceed ha hm ht
  · rename_i ht
    exact firesOn_of_close ha hm ht

theorem passed_store {rules : List Rule} {s : Store} {r : Round} (h : Passed strip state line rules s r) :
    s.after strip (firesOn state line rules) = .ok r.store := by
  induction h with
  | done s => rfl
  | skip ha _ ih => rw [firesOn_of_not_hits (by simp [Rule.hits, ha])]; exact ih
  | miss ha hm _ ih => rw [firesOn_of_not_hits (by simp [Rule.hits, hm])]; exact ih
  | proceed ha hm hf ht _ ih => rw [firesOn_of_proceed ha hm ht]; simp only [Store.after, hf]; exact ih
  | close ha hm hf ht => rw [firesOn_of_close ha hm ht]; simp [Store.after, hf]

theorem mem_firesOn {rules : List Rule} {f : Fire} (h : f ∈ firesOn state line rules) :
    f.rule ∈ rules ∧ f.rule.match? line = some f.found := by
  obtain ⟨rule, hrule, hf⟩ := List.mem_filterMap.mp h
  obtain ⟨m, hm, rfl⟩ := Option.map_eq_some_iff.mp hf
  exact ⟨(firedOf_sublist _ _ _).subset hrule, hm⟩

/-! ## The fires of a scan -/

theorem mem_fires {t : Table} {lines : List String} {f : Fire} (h : f ∈ t.fires state lines) :
    f.rule ∈ t.rules ∧ ∃ line, f.rule.match? line = some f.found := by
  induction lines generalizing state with
  | nil => cases h
  | cons line rest ih =>
    rcases List.mem_append.mp h with h | h
    · exact ⟨(mem_firesOn h).1, line, (mem_firesOn h).2⟩
    · split at h
      · cases h
      · exact ih h

/-- What a scan wrote is what its fires write one after another. -/
theorem run_store {t : Table} {o : ScanOptions} {s s' : Scan} {lines : List String} (h : s.run t o lines = .ok s') :
    s.store.after o.strip (t.fires s.state lines) = .ok s'.store := by
  induction lines generalizing s with
  | nil => cases h; rfl
  | cons text rest ih =>
    simp only [Scan.run] at h
    cases hl : s.line t o text with
    | error e => simp [hl] at h
    | ok s₁ =>
      simp only [hl] at h
      obtain ⟨hstate, hstop⟩ := line_control hl
      have hstore : s.store.after o.strip (firesOn s.state text t.rules) = .ok s₁.store := by
        obtain ⟨r, hr, rfl⟩ := line_eq_ok hl
        exact passed_store (passed_of_tryRules hr)
      rw [Table.fires, Store.after_append hstore]
      by_cases hs : s₁.stopped = true
      · rw [if_pos hs] at h
        cases h
        rw [if_pos (hstop.mp hs)]; rfl
      · rw [if_neg hs] at h
        rw [if_neg (fun hlast => hs (hstop.mpr hlast)), ← hstate]
        exact ih h

/-! ## Rules that nothing refuses -/

/-- No function stands between a fire of the rule and its value: the rule has none, or it never asks
    one. -/
def Rule.Sure (r : Rule) : Prop := r.path = none ∨ r.filter.isFunction = false

theorem apply_of_not_function {f : Filter} (hf : f.isFunction = false) (m : Match) (captured : Entries Value)
    (c : Context) : ∃ v, f.apply m captured c = .ok ⟨v, none⟩ := by
  cases f with
  | function run => cases hf
  | _ => exact ⟨_, rfl⟩

theorem fire_of_sure (strip : Bool) (state : String) {rule : Rule} (h : rule.Sure) (s : Store) (m : Match) :
    ∃ s' loc, s.fire strip state rule m = .ok (s', loc) := by
  unfold Store.fire
  cases hp : rule.path with
  | none => exact ⟨_, _, rfl⟩
  | some path =>
    have hf : rule.filter.isFunction = false := h.resolve_left (by simp [hp])
    obtain ⟨v, hv⟩ := apply_of_not_function hf m (Store.capturesOf strip m)
      (path.prepare (Store.absorb s.context (Store.capturesOf strip m) state rule))
    simp only [hv]
    exact ⟨_, _, rfl⟩

theorem fire_of_not_function (strip : Bool) (state : String) {rule : Rule} (hf : rule.filter.isFunction = false)
    (s : Store) (m : Match) : ∃ s' loc, s.fire strip state rule m = .ok (s', loc) :=
  fire_of_sure strip state (.inr hf) s m

theorem tryRules_of_sure (strip : Bool) (state line : String) {rules : List Rule}
    (h : ∀ rule ∈ rules, rule.Sure) (s : Store) : ∃ r, tryRules strip state line rules s = .ok r := by
  induction rules generalizing s with
  | nil => exact ⟨_, rfl⟩
  | cons rule rest ih =>
    have hrest := fun s => ih (fun r hr => h r (List.mem_cons_of_mem rule hr)) s
    simp only [tryRules]
    split
    · split
      · obtain ⟨r, hr⟩ := hrest s
        exact ⟨_, by rw [hr]; rfl⟩
      · rename_i m _
        obtain ⟨s', loc, hs'⟩ := fire_of_sure strip state (h rule List.mem_cons_self) s m
        obtain ⟨r, hr⟩ := hrest s'
        simp only [hs', hr]
        split
        · exact ⟨_, rfl⟩
        · exact ⟨_, rfl⟩
    · exact hrest s

theorem run_of_sure {t : Table} (h : ∀ rule ∈ t.rules, rule.Sure) (o : ScanOptions) (s : Scan)
    (lines : List String) : ∃ s', s.run t o lines = .ok s' := by
  induction lines generalizing s with
  | nil => exact ⟨s, rfl⟩
  | cons text rest ih =>
    obtain ⟨r, hr⟩ := tryRules_of_sure o.strip s.state text h s.store
    simp only [Scan.run, Scan.line, hr]
    split
    · exact ⟨_, rfl⟩
    · exact ih _

theorem run_of_no_function {t : Table} (hf : ∀ rule ∈ t.rules, rule.filter.isFunction = false) (o : ScanOptions)
    (s : Scan) (lines : List String) : ∃ s', s.run t o lines = .ok s' :=
  run_of_sure (fun rule hmem => .inr (hf rule hmem)) o s lines

/-! ## What holds at every moment -/

section Moments

variable {strip : Bool} {I : List Fire → Store → Prop}

theorem after_of_step {fs : List Fire} (hsure : ∀ f ∈ fs, f.rule.Sure)
    (hstep : ∀ f ∈ fs, ∀ before s s' loc, I before s → s.fire strip f.state f.rule f.found = .ok (s', loc) →
      I (before ++ [f]) s') {before : List Fire} {s : Store} (hs : I before s) :
    ∃ s', s.after strip fs = .ok s' ∧ I (before ++ fs) s' := by
  induction fs generalizing before s with
  | nil => exact ⟨s, rfl, by rwa [List.append_nil]⟩
  | cons f rest ih =>
    obtain ⟨s₁, loc, h₁⟩ := fire_of_sure strip f.state (hsure f List.mem_cons_self) s f.found
    have hnext : I (before ++ [f]) s₁ := hstep f List.mem_cons_self before s s₁ loc hs h₁
    obtain ⟨s', hs', hlast⟩ := ih (fun g hg => hsure g (List.mem_cons_of_mem f hg))
      (fun g hg => hstep g (List.mem_cons_of_mem f hg)) hnext
    exact ⟨s', by simpa only [Store.after, h₁] using hs', by simpa using hlast⟩

/-- If no rule of a table asks a function, then its scans succeed, and what each fire of a scan keeps
    holds at every moment of it. -/
theorem scan_of_step {t : Table} (hsure : ∀ rule ∈ t.rules, rule.Sure) (o : ScanOptions) (lines : List String)
    (hstart : I [] {})
    (hstep : ∀ f ∈ t.fires "top" lines, ∀ before s s' loc, I before s →
      s.fire o.strip f.state f.rule f.found = .ok (s', loc) → I (before ++ [f]) s') :
    ∃ final, t.scan o lines = .ok final ∧ Store.after o.strip {} (t.fires "top" lines) = .ok final.store ∧
      ∀ fs rest, t.fires "top" lines = fs ++ rest → ∃ s, Store.after o.strip {} fs = .ok s ∧ I fs s := by
  obtain ⟨final, hfinal⟩ := run_of_sure hsure o (Scan.start t) lines
  refine ⟨final, hfinal, run_store hfinal, fun fs rest hfires => ?_⟩
  have hmem : ∀ f ∈ fs, f ∈ t.fires "top" lines := fun f hf => hfires ▸ List.mem_append_left rest hf
  exact after_of_step (fun f hf => hsure _ (mem_fires (hmem f hf)).1) (fun f hf => hstep f (hmem f hf)) hstart

end Moments

end LineRules
