/-
  LineRules.Proofs.Dispatch — which rules are tried and which fire on a line.

  On a line that a scan reads in a state, the candidates are the rules that admit the state,
  the hits those of them that match the line. What fires are the hits up to the first one that
  does not let the line go on (`firedOf`); what is tried are the candidates up to that one
  (`triedOf`). Neither depends on the context or the tree.

  `Passed` says once what trying rules on a line can do, one constructor for each way a rule
  can go; `line_dispatch` says what a line does to counters, state and ending of a scan.
-/

import LineRules.Scan
import Mathlib.Data.List.Nodup

namespace LineRules

/-- The elements up to the first one with a property, that one included. -/
def through {α : Type} (p : α → Bool) : List α → List α
  | [] => []
  | a :: rest => if p a then [a] else a :: through p rest

theorem through_sublist {α : Type} (p : α → Bool) (l : List α) : (through p l).Sublist l := by
  induction l with
  | nil => exact List.Sublist.refl _
  | cons a l ih =>
    simp only [through]
    split
    · exact (List.nil_sublist l).cons_cons a
    · exact ih.cons_cons a

namespace Rule

/-- The rule fires on the line if its turn comes. -/
def hits (state line : String) (r : Rule) : Bool := r.guard.admits state && (r.match? line).isSome

/-- The rule lets no rule after it see a line that it fires on. -/
def closes (r : Rule) : Bool := r.transition != .proceed

end Rule

/-- The rules that fire on a line: the hits through the first that closes the line. -/
def firedOf (state line : String) (rules : List Rule) : List Rule :=
  through Rule.closes (rules.filter (Rule.hits state line))

/-- The rules that are tried on a line: those that admit the state, through the first that
    matches and closes the line. -/
def triedOf (state line : String) (rules : List Rule) : List Rule :=
  through (fun r => (r.match? line).isSome && r.closes) (rules.filter fun r => r.guard.admits state)

/-! ## What trying rules on a line can do -/

inductive Passed (strip : Bool) (state line : String) : List Rule → Store → Round → Prop
  | done (s : Store) : Passed strip state line [] s { store := s }
  | skip {rule : Rule} {rest : List Rule} {s : Store} {r : Round} :
      rule.guard.admits state = false → Passed strip state line rest s r → Passed strip state line (rule :: rest) s r
  | miss {rule : Rule} {rest : List Rule} {s : Store} {r : Round} :
      rule.guard.admits state = true → rule.match? line = none → Passed strip state line rest s r →
      Passed strip state line (rule :: rest) s (r.afterMiss rule.index)
  /-- The rule fires and lets the line go on. -/
  | proceed {rule : Rule} {rest : List Rule} {s s' : Store} {m : Match} {loc : Option String} {r : Round} :
      rule.guard.admits state = true → rule.match? line = some m → s.fire strip state rule m = .ok (s', loc) →
      rule.transition = .proceed → Passed strip state line rest s' r →
      Passed strip state line (rule :: rest) s (r.afterFiring ⟨rule.index, loc⟩ rule.transition)
  /-- The rule fires and closes the line. -/
  | close {rule : Rule} {rest : List Rule} {s s' : Store} {m : Match} {loc : Option String} :
      rule.guard.admits state = true → rule.match? line = some m → s.fire strip state rule m = .ok (s', loc) →
      rule.transition ≠ .proceed →
      Passed strip state line (rule :: rest) s
        { store := s', tried := [rule.index], fired := [⟨rule.index, loc⟩], transition := some rule.transition }

variable {strip : Bool} {state line : String}

theorem map_eq_ok {ε α β : Type} {f : α → β} {x : Except ε α} {b : β} (h : x.map f = .ok b) :
    ∃ a, x = .ok a ∧ b = f a := by
  cases x with
  | error e => simp [Except.map] at h
  | ok a => exact ⟨a, rfl, by simpa [Except.map] using h.symm⟩

theorem map_eq_error_iff {ε α β : Type} {f : α → β} {x : Except ε α} {e : ε} : x.map f = .error e ↔ x = .error e := by
  cases x <;> simp [Except.map]

theorem passed_of_tryRules {rules : List Rule} {s : Store} {r : Round}
    (h : tryRules strip state line rules s = .ok r) : Passed strip state line rules s r := by
  induction rules generalizing s r with
  | nil =>
    simp only [tryRules, Except.ok.injEq] at h
    subst h; exact .done s
  | cons rule rest ih =>
    simp only [tryRules] at h
    by_cases ha : rule.guard.admits state = true
    · rw [if_pos ha] at h
      cases hm : rule.match? line with
      | none =>
        simp only [hm] at h
        obtain ⟨r', hr', rfl⟩ := map_eq_ok h
        exact .miss ha hm (ih hr')
      | some m =>
        simp only [hm] at h
        cases hf : s.fire strip state rule m with
        | error reason => simp [hf] at h
        | ok out =>
          obtain ⟨s', loc⟩ := out
          simp only [hf] at h
          by_cases ht : rule.transition = .proceed
          · rw [if_pos ht] at h
            obtain ⟨r', hr', rfl⟩ := map_eq_ok h
            exact .proceed ha hm hf ht (ih hr')
          · rw [if_neg ht, Except.ok.injEq] at h
            subst h; exact .close ha hm hf ht
    · rw [if_neg ha] at h
      exact .skip (by simpa using ha) (ih h)

/-! ## Which rules fire and which are tried -/

def lastTransition (rules : List Rule) : Option Transition := rules.getLast?.map (·.transition)

def stateAfter (state : String) (fired : List Rule) : String :=
  match lastTransition fired with
  | some (.goto next) => next
  | _ => state

theorem lastTransition_cons (rule : Rule) (rules : List Rule) :
    lastTransition (rule :: rules) = some ((lastTransition rules).getD rule.transition) := by
  cases rules with
  | nil => rfl
  | cons a l => simp [lastTransition, List.getLast?_cons]

theorem passed_fired {rules : List Rule} {s : Store} {r : Round} (h : Passed strip state line rules s r) :
    r.fired.map (·.rule) = (firedOf state line rules).map (·.index) ∧
      r.transition = lastTransition (firedOf state line rules) := by
  induction h with
  | done s => exact ⟨rfl, rfl⟩
  | skip ha _ ih => simpa [firedOf, Rule.hits, ha] using ih
  | miss ha hm _ ih => simpa [firedOf, Rule.hits, ha, hm, Round.afterMiss] using ih
  | @proceed rule rest _ _ _ _ _ ha hm _ ht _ ih =>
    have hfired : firedOf state line (rule :: rest) = rule :: firedOf state line rest := by
      simp [firedOf, Rule.hits, ha, hm, through, Rule.closes, ht]
    rw [hfired, lastTransition_cons]
    exact ⟨by simp [Round.afterFiring, ih.1], by simp [Round.afterFiring, ih.2]⟩
  | @close rule rest _ _ _ _ ha hm _ ht =>
    have hfired : firedOf state line (rule :: rest) = [rule] := by
      simp [firedOf, Rule.hits, ha, hm, through, Rule.closes, ht]
    rw [hfired]; exact ⟨rfl, rfl⟩

theorem passed_tried {rules : List Rule} {s : Store} {r : Round} (h : Passed strip state line rules s r) :
    r.tried = (triedOf state line rules).map (·.index) := by
  induction h with
  | done s => rfl
  | skip ha _ ih => simpa [triedOf, ha] using ih
  | miss ha hm _ ih => simpa [triedOf, ha, hm, through, Round.afterMiss] using ih
  | proceed ha hm _ ht _ ih => simpa [triedOf, ha, hm, through, Rule.closes, ht, Round.afterFiring] using ih
  | close ha hm _ ht => simp [triedOf, ha, hm, through, Rule.closes, ht]

theorem firedOf_sublist (state line : String) (rules : List Rule) : (firedOf state line rules).Sublist rules :=
  (through_sublist _ _).trans List.filter_sublist

theorem triedOf_sublist (state line : String) (rules : List Rule) : (triedOf state line rules).Sublist rules :=
  (through_sublist _ _).trans List.filter_sublist

theorem hits_of_mem_firedOf {rule : Rule} {rules : List Rule} (h : rule ∈ firedOf state line rules) :
    rule.hits state line = true :=
  (List.mem_filter.mp ((through_sublist _ _).subset h)).2

theorem exists_match_of_mem_firedOf {rule : Rule} {rules : List Rule} (h : rule ∈ firedOf state line rules) :
    ∃ m, rule.match? line = some m := by
  have hhits := hits_of_mem_firedOf h
  rw [Rule.hits, Bool.and_eq_true] at hhits
  exact Option.isSome_iff_exists.mp hhits.2

theorem admits_of_mem_triedOf {rule : Rule} {rules : List Rule} (h : rule ∈ triedOf state line rules) :
    rule.guard.admits state = true := by
  simpa using (List.mem_filter.mp ((through_sublist _ _).subset h)).2

/-! ## Positions in the table -/

theorem index_ofRow {flags : Pattern.Flags} {k : Nat} {row : Row} {rule : Rule}
    (h : Rule.ofRow flags k row = .ok rule) :
    rule.index = k := by
  unfold Rule.ofRow at h
  split at h
  · cases h
  · split at h
    · cases h
    · simp only [Except.ok.injEq] at h
      subst h; rfl

theorem indices_of_rulesFrom {flags : Pattern.Flags} {rows : List Row} {k : Nat} {rules : List Rule}
    (h : Table.rulesFrom flags k rows = .ok rules) : rules.map (·.index) = List.range' k rules.length := by
  induction rows generalizing k rules with
  | nil =>
    simp only [Table.rulesFrom, Except.ok.injEq] at h
    subst h; rfl
  | cons row rest ih =>
    simp only [Table.rulesFrom] at h
    cases hrow : Rule.ofRow flags k row with
    | error e => simp [hrow] at h
    | ok rule =>
      cases hrest : Table.rulesFrom flags (k + 1) rest with
      | error e => simp [hrow, hrest] at h
      | ok more =>
        simp only [hrow, hrest, Except.ok.injEq] at h
        subst h
        have hk : rule.index = k := index_ofRow hrow
        simp [hk, ih hrest, List.range'_succ]

/-- Each rule of a table carries its position. -/
theorem indices_of_ofRows {flags : Pattern.Flags} {rows : List Row} {t : Table} (h : Table.ofRows flags rows = .ok t) :
    t.rules.map (·.index) = List.range t.rules.length := by
  unfold Table.ofRows at h
  split at h
  · cases h
  · cases hr : Table.rulesFrom flags 0 rows with
    | error e => simp [hr] at h
    | ok rules =>
      simp only [hr, Except.ok.injEq] at h
      subst h
      simpa [List.range_eq_range'] using indices_of_rulesFrom hr

theorem index_injective {rules : List Rule} (h : rules.map (·.index) = List.range rules.length) {a b : Rule}
    (ha : a ∈ rules) (hb : b ∈ rules) (hab : a.index = b.index) : a = b :=
  List.inj_on_of_nodup_map (h ▸ List.nodup_range) ha hb hab

/-! ## Counters -/

theorem getElem?_countTried (tried : List Nat) (tallies : List Tally) (i : Nat) :
    (tried.foldl Metrics.countTried tallies)[i]? =
      tallies[i]?.map fun c => { c with tried := c.tried + tried.count i } := by
  induction tried generalizing tallies with
  | nil => simp
  | cons k rest ih =>
    rw [List.foldl_cons, ih, Metrics.countTried, List.getElem?_modify]
    cases tallies[i]? with
    | none => simp
    | some c =>
      by_cases hk : k = i
      · simp [hk]; omega
      · simp [hk]

theorem getElem?_countFired (fired : List Firing) (tallies : List Tally) (i : Nat) :
    (fired.foldl Metrics.countFired tallies)[i]? =
      tallies[i]?.map fun c => { c with fired := c.fired + (fired.map (·.rule)).count i } := by
  induction fired generalizing tallies with
  | nil => simp
  | cons f rest ih =>
    rw [List.foldl_cons, ih, Metrics.countFired, List.getElem?_modify]
    cases tallies[i]? with
    | none => simp
    | some c =>
      by_cases hk : f.rule = i
      · simp [hk]; omega
      · simp [hk]

theorem getElem?_count (m : Metrics) (r : Round) (i : Nat) :
    (m.count r).tallies[i]? = m.tallies[i]?.map fun c =>
      { tried := c.tried + r.tried.count i, fired := c.fired + (r.fired.map (·.rule)).count i } := by
  simp only [Metrics.count, getElem?_countFired, getElem?_countTried, Option.map_map]
  rfl

theorem length_count (m : Metrics) (r : Round) : (m.count r).tallies.length = m.tallies.length := by
  have htried : ∀ (l : List Nat) (ts : List Tally), (l.foldl Metrics.countTried ts).length = ts.length := by
    intro l
    induction l with
    | nil => exact fun _ => rfl
    | cons k l ih => intro ts; rw [List.foldl_cons, ih]; simp [Metrics.countTried]
  have hfired : ∀ (l : List Firing) (ts : List Tally), (l.foldl Metrics.countFired ts).length = ts.length := by
    intro l
    induction l with
    | nil => exact fun _ => rfl
    | cons f l ih => intro ts; rw [List.foldl_cons, ih]; simp [Metrics.countFired]
  simp only [Metrics.count, hfired, htried]

/-! ## Lines -/

/-- The scans that reading lines leads to, from the start of a table on. -/
inductive Reachable (t : Table) (o : ScanOptions) : Scan → Prop
  | start : Reachable t o (Scan.start t)
  | line {s s' : Scan} {text : String} : Reachable t o s → s.line t o text = .ok s' → Reachable t o s'

/-- What a line does to a scan is said by the round of its rules. -/
theorem line_eq_ok {t : Table} {o : ScanOptions} {s s' : Scan} {text : String} (h : s.line t o text = .ok s') :
    ∃ r, tryRules o.strip s.state text t.rules s.store = .ok r ∧
      s' = { state := r.nextState s.state, store := r.store, metrics := s.metrics.count r,
             trace := if o.trace then s.trace ++ [s.recordOf text r] else s.trace, stopped := r.stops } := by
  unfold Scan.line at h
  split at h
  · cases h
  · rename_i r hr
    exact ⟨r, hr, by simpa using h.symm⟩

theorem line_of_tryRules {t : Table} {o : ScanOptions} {s : Scan} {text : String} {r : Round}
    (h : tryRules o.strip s.state text t.rules s.store = .ok r) :
    s.line t o text = .ok
      { state := r.nextState s.state, store := r.store, metrics := s.metrics.count r,
        trace := if o.trace then s.trace ++ [s.recordOf text r] else s.trace, stopped := r.stops } := by
  simp only [Scan.line, h]

/-- A line leads to the state and the ending that the rules fired on it decide. -/
theorem line_control {t : Table} {o : ScanOptions} {s s' : Scan} {text : String} (h : s.line t o text = .ok s') :
    s'.state = stateAfter s.state (firedOf s.state text t.rules) ∧
      (s'.stopped = true ↔ lastTransition (firedOf s.state text t.rules) = some .stop) := by
  obtain ⟨r, hr, rfl⟩ := line_eq_ok h
  have hlast := (passed_fired (passed_of_tryRules hr)).2
  refine ⟨?_, by simp [Round.stops, hlast]⟩
  show r.nextState s.state = _
  rw [Round.nextState, hlast]; rfl

theorem length_tallies {t : Table} {o : ScanOptions} {s : Scan} (h : Reachable t o s) :
    s.metrics.tallies.length = t.rules.length := by
  induction h with
  | start => simp [Scan.start]
  | line _ hl ih =>
    obtain ⟨r, -, rfl⟩ := line_eq_ok hl
    rw [← ih]; exact length_count _ r

/-- Counters go up by one for the rules that a list of distinct positions names. -/
theorem count_eq_ite {l : List Nat} (h : l.Nodup) (i : Nat) : l.count i = if i ∈ l then 1 else 0 := by
  by_cases hi : i ∈ l
  · rw [if_pos hi, List.count_eq_one_of_mem h hi]
  · rw [if_neg hi, List.count_eq_zero_of_not_mem hi]

/-- The rules that fire on a line are the hits in the state at its start, cut after the first
    that closes the line; those that are tried are the rules that admit that state, cut in the
    same place. The last rule that fires decides the next state and whether the scan ends. -/
theorem line_dispatch {flags : Pattern.Flags} {rows : List Row} {t : Table} (ht : Table.ofRows flags rows = .ok t)
    {o : ScanOptions} {s s' : Scan} (hs : Reachable t o s) {text : String} (h : s.line t o text = .ok s') :
    ∃ r, tryRules o.strip s.state text t.rules s.store = .ok r ∧
      s'.trace = (if o.trace then s.trace ++ [s.recordOf text r] else s.trace) ∧
      r.fired.map (·.rule) = (firedOf s.state text t.rules).map (·.index) ∧
      (r.fired.map (·.rule)).Pairwise (· < ·) ∧
      r.tried = (triedOf s.state text t.rules).map (·.index) ∧
      s'.metrics.tried = s.metrics.tried + (triedOf s.state text t.rules).length ∧
      (∀ i < t.rules.length, ∃ before after,
        s.metrics.tallies[i]? = some before ∧ s'.metrics.tallies[i]? = some after ∧
        after.tried = before.tried + (if i ∈ (triedOf s.state text t.rules).map (·.index) then 1 else 0) ∧
        after.fired = before.fired + (if i ∈ (firedOf s.state text t.rules).map (·.index) then 1 else 0)) ∧
      s'.state = stateAfter s.state (firedOf s.state text t.rules) ∧
      (s'.stopped = true ↔ lastTransition (firedOf s.state text t.rules) = some .stop) ∧
      ∀ rule ∈ t.rules, rule.guard.admits s.state = false →
        rule.index ∉ r.tried ∧ rule.index ∉ r.fired.map (·.rule) := by
  obtain ⟨hstate, hstop⟩ := line_control h
  obtain ⟨r, hr, rfl⟩ := line_eq_ok h
  have hfired := (passed_fired (passed_of_tryRules hr)).1
  have htried := passed_tried (passed_of_tryRules hr)
  have hidx := indices_of_ofRows ht
  have hsub (l : List Rule) (hl : l.Sublist t.rules) : (l.map (·.index)).Sublist (List.range t.rules.length) :=
    hidx ▸ hl.map (·.index)
  have hfsub := hsub _ (firedOf_sublist s.state text t.rules)
  have htsub := hsub _ (triedOf_sublist s.state text t.rules)
  refine ⟨r, hr, rfl, hfired, ?_, htried, ?_, ?_, ?_, ?_, ?_⟩
  · rw [hfired]; exact List.pairwise_lt_range.sublist hfsub
  · simp [Metrics.count, htried]
  · intro i hi
    have hi' : i < s.metrics.tallies.length := by rw [length_tallies hs]; exact hi
    have hbefore := List.getElem?_eq_getElem hi'
    have hafter := getElem?_count s.metrics r i
    rw [hbefore, htried, hfired, count_eq_ite (htsub.nodup List.nodup_range),
      count_eq_ite (hfsub.nodup List.nodup_range)] at hafter
    exact ⟨_, _, hbefore, hafter, rfl, rfl⟩
  · exact hstate
  · exact hstop
  · intro rule hmem hno
    constructor
    · rw [htried]; intro hin
      obtain ⟨rule', hin', he⟩ := List.mem_map.mp hin
      obtain rfl := index_injective hidx ((triedOf_sublist _ _ _).subset hin') hmem he
      rw [admits_of_mem_triedOf hin'] at hno; cases hno
    · rw [hfired]; intro hin
      obtain ⟨rule', hin', he⟩ := List.mem_map.mp hin
      obtain rfl := index_injective hidx ((firedOf_sublist _ _ _).subset hin') hmem he
      have hhit := hits_of_mem_firedOf hin'
      rw [Rule.hits, hno, Bool.false_and] at hhit; cases hhit

/-- Two rules fire one after the other; one between them does not match, one after them admits
    only the state that the second one leads to, and the last one comes too late. -/
def deferring : List Row :=
  [ { transition := .proceed, pattern := .text "a" },
    { guard := .states ["top"], transition := .stop, pattern := .text "b" },
    { guard := .states ["top"], transition := .goto "next", pattern := .text "[ab]" },
    { guard := .states ["next"], pattern := .text "a" },
    { transition := .stop, pattern := .text "a" } ]

theorem line_dispatch_deferring :
    ∃ t s', Table.ofRows {} deferring = .ok t ∧ Reachable t {} (Scan.start t) ∧
      (Scan.start t).line t {} "ab" = .ok s' ∧ s'.state = "next" ∧ s'.stopped = false ∧
      ∃ r, tryRules true "top" "ab" t.rules {} = .ok r ∧ r.fired.map (·.rule) = [0, 2] ∧ r.tried = [0, 1, 2] := by
  obtain ⟨t, ht⟩ : ∃ t, Table.ofRows {} deferring = .ok t := by
    cases h : Table.ofRows {} deferring with
    | ok t => exact ⟨t, rfl⟩
    | error e =>
      have hok : (Table.ofRows {} deferring).toOption.isSome = true := by decide +kernel
      simp [h, Except.toOption] at hok
  have hseen : (Table.ofRows {} deferring).toOption.map (fun t =>
      (((Scan.start t).line t {} "ab").toOption.isSome, stateAfter "top" (firedOf "top" "ab" t.rules),
        lastTransition (firedOf "top" "ab" t.rules), (firedOf "top" "ab" t.rules).map (·.index),
        (triedOf "top" "ab" t.rules).map (·.index))) =
      some (true, "next", some (.goto "next"), [0, 2], [0, 1, 2]) := by decide +kernel
  simp only [ht, Except.toOption, Option.map_some, Option.some.injEq, Prod.mk.injEq] at hseen
  obtain ⟨hline, hstate, hlast, hfired, htried⟩ := hseen
  cases hs : (Scan.start t).line t {} "ab" with
  | error e => simp [hs] at hline
  | ok s' =>
    obtain ⟨r, hr, -, hf, -, htr, -, -, hst, hstop, -⟩ := line_dispatch ht .start hs
    refine ⟨t, s', ht, .start, hs, hst.trans hstate, ?_, r, hr, hf.trans hfired, htr.trans htried⟩
    have hlast' : lastTransition (firedOf (Scan.start t).state "ab" t.rules) = some (.goto "next") := hlast
    simpa [hlast'] using hstop

end LineRules
