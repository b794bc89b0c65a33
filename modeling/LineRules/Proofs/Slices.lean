/-
  LineRules.Proofs.Slices — only the rules that admit a state a scan can be in matter.

  The slice of a table for a state is the list of its rules that admit the state. Trying the
  rules of a table on a line in a state is trying its slice (`tryRules_slice`), and rules that
  differ in their positions only do the same (`tryRules_alike`). The states that a scan can be
  in are those that transitions lead to from the first one on, each from a state that its rule
  admits (`Table.Attainable`). So two tables with the same slices for these states scan alike
  (`run_alike`), and a rule that admits none of them is never tried.

  Two runs are compared by `Both`: they fail together or succeed together, and what they leave
  is related.
-/

import LineRules.Proofs.TwoRuns

namespace LineRules

/-! ## Slices and attainable states -/

def Table.slice (t : Table) (state : String) : List Rule := t.rules.filter fun r => r.guard.admits state

inductive Table.Attainable (t : Table) : String → Prop
  | top : t.Attainable "top"
  | goto {rule : Rule} {state next : String} : t.Attainable state → rule ∈ t.rules →
      rule.guard.admits state = true → rule.transition = .goto next → t.Attainable next

/-- The rule admits no state that a scan can be in. -/
def Table.Unreached (t : Table) (rule : Rule) : Prop :=
  ∀ state, t.Attainable state → rule.guard.admits state = false

theorem attainable_stateAfter {t : Table} {state : String} (h : t.Attainable state) (line : String) :
    t.Attainable (stateAfter state (firedOf state line t.rules)) := by
  unfold stateAfter
  split
  · rename_i next hlast
    obtain ⟨rule, hrule, hnext⟩ := Option.map_eq_some_iff.mp hlast
    have hmem := List.mem_of_getLast? hrule
    have hadmits : rule.guard.admits state = true := by
      have hhits := hits_of_mem_firedOf hmem
      rw [Rule.hits, Bool.and_eq_true] at hhits
      exact hhits.1
    exact .goto h ((firedOf_sublist _ _ _).subset hmem) hadmits hnext
  · exact h

theorem attainable_line {t : Table} {o : ScanOptions} {s s' : Scan} {text : String} (h : t.Attainable s.state)
    (hl : s.line t o text = .ok s') : t.Attainable s'.state := by
  rw [(line_control hl).1]
  exact attainable_stateAfter h text

theorem attainable_of_reachable {t : Table} {o : ScanOptions} {s : Scan} (h : Reachable t o s) :
    t.Attainable s.state := by
  induction h with
  | start => exact .top
  | line _ hl ih => exact attainable_line ih hl

theorem reachable_run {t : Table} {o : ScanOptions} {s s' : Scan} {lines : List String} (h : Reachable t o s)
    (hr : s.run t o lines = .ok s') : Reachable t o s' := by
  induction lines generalizing s with
  | nil => cases hr; exact h
  | cons text rest ih =>
    rw [Scan.run] at hr
    cases hl : s.line t o text with
    | error e => simp [hl] at hr
    | ok u =>
      simp only [hl] at hr
      split at hr
      · cases hr; exact h.line hl
      · exact ih (h.line hl) hr

/-- A rule that admits no state of a scan is not counted as tried. -/
theorem tried_of_unreached {flags : Pattern.Flags} {rows : List Row} {t : Table}
    (ht : Table.ofRows flags rows = .ok t) {rule : Rule} (hmem : rule ∈ t.rules) (hno : t.Unreached rule)
    {o : ScanOptions} {s : Scan} (hs : Reachable t o s) :
    s.metrics.tallies[rule.index]?.map (·.tried) = some 0 := by
  have hidx := indices_of_ofRows ht
  induction hs with
  | start =>
    have hlt : rule.index < t.rules.length := by
      have hin := List.mem_map_of_mem (f := (·.index)) hmem
      rwa [hidx, List.mem_range] at hin
    simp [Scan.start, hlt]
  | @line s s' text hs hl ih =>
    have hclosed := hno s.state (attainable_of_reachable hs)
    obtain ⟨r, hr, rfl⟩ := line_eq_ok hl
    have hnot : rule.index ∉ r.tried := by
      rw [passed_tried (passed_of_tryRules hr)]
      intro hin
      obtain ⟨rule', hin', he⟩ := List.mem_map.mp hin
      obtain rfl := index_injective hidx ((triedOf_sublist _ _ _).subset hin') hmem he
      rw [admits_of_mem_triedOf hin'] at hclosed
      cases hclosed
    obtain ⟨c, hc, hzero⟩ := Option.map_eq_some_iff.mp ih
    simp only [getElem?_count, hc, Option.map_some, List.count_eq_zero_of_not_mem hnot, Nat.add_zero, hzero]

/-! ## Rules at other positions -/

structure Rule.Alike (r r' : Rule) : Prop where
  guard : r.guard = r'.guard
  transition : r.transition = r'.transition
  path : r.path = r'.path
  filter : r.filter = r'.filter
  found : ∀ line, r.match? line = r'.match? line

theorem Rule.Alike.refl (r : Rule) : r.Alike r := ⟨rfl, rfl, rfl, rfl, fun _ => rfl⟩

theorem Rule.Alike.inStep {r r' : Rule} (h : r.Alike r') : r.InStep r' := ⟨h.guard, h.transition, h.found⟩

theorem Rule.Alike.of_row {flags : Pattern.Flags} {row : Row} {r r' : Rule} (h : Rule.OfRow flags row r)
    (h' : Rule.OfRow flags row r') : r.Alike r' := by
  obtain ⟨hguard, htransition, hfilter, hpattern, hpath⟩ := h.fields
  obtain ⟨hguard', htransition', hfilter', hpattern', hpath'⟩ := h'.fields
  rw [hpattern', Except.ok.injEq, Prod.mk.injEq] at hpattern
  rw [hpath', Except.ok.injEq] at hpath
  refine ⟨hguard.trans hguard'.symm, htransition.trans htransition'.symm, hpath.symm, hfilter.trans hfilter'.symm, ?_⟩
  intro line
  rw [Rule.match?, Rule.match?, hpattern.1, hpattern.2]

theorem fire_alike {r r' : Rule} (h : r.Alike r') (s : Store) (strip : Bool) (state : String) (m : Match) :
    s.fire strip state r m = s.fire strip state r' m := by
  simp only [Store.fire, Store.absorb, h.guard, h.transition, h.path, h.filter]

structure Round.Alike (r r' : Round) : Prop where
  store : r.store = r'.store
  transition : r.transition = r'.transition
  tried : r.tried.length = r'.tried.length
  fired : r.fired.map (·.location) = r'.fired.map (·.location)

theorem tryRules_slice (strip : Bool) (state line : String) (rules : List Rule) (s : Store) :
    tryRules strip state line rules s = tryRules strip state line (rules.filter fun r => r.guard.admits state) s := by
  induction rules generalizing s with
  | nil => rfl
  | cons rule rest ih =>
    rw [List.filter_cons]
    by_cases ha : rule.guard.admits state = true
    · rw [if_pos ha]
      simp only [tryRules, ih]
    · rw [if_neg ha, tryRules, if_neg ha]
      exact ih s

theorem tryRules_alike (strip : Bool) (state line : String) {rules rules' : List Rule}
    (h : List.Forall₂ Rule.Alike rules rules') (s : Store) :
    Both (SamePlace rules rules') Round.Alike (tryRules strip state line rules s)
      (tryRules strip state line rules' s) := by
  have hrelated : Both (SamePlace rules rules') (Round.Related (fun _ _ => True) (· = ·) (· = ·))
      (tryRules strip state line rules s) (tryRules strip state line rules' s) := by
    refine tryRules_related (fun _ _ hr => hr.inStep) (fun _ _ _ => trivial) ?_ line h rfl
    rintro r r' hr s _ rfl m
    rw [fire_alike hr]
    exact .refl (fun _ => rfl) (fun _ => ⟨rfl, rfl⟩) _
  refine hrelated.imp (fun _ _ he => he) fun a a' ha => ⟨ha.store, ha.transition, ha.tried.length_eq, ?_⟩
  exact map_eq_of_forall₂ ha.fired fun _ _ hf => hf.2

/-! ## From line to line -/

/-- Scans that have done the same, with rules at other positions. -/
structure Scan.Alongside (s s' : Scan) : Prop where
  state : s.state = s'.state
  store : s.store = s'.store
  stopped : s.stopped = s'.stopped
  lines : s.metrics.lines = s'.metrics.lines
  matchedLines : s.metrics.matchedLines = s'.metrics.matchedLines
  tried : s.metrics.tried = s'.metrics.tried

variable {t t' : Table} {o o' : ScanOptions}

theorem line_alongside {s s' : Scan} (hs : s.Alongside s') (hstrip : o.strip = o'.strip)
    (h : List.Forall₂ Rule.Alike (t.slice s.state) (t'.slice s.state)) (text : String) :
    Both (fun e e' => e.line = s.metrics.lines + 1 ∧ e'.line = e.line ∧
        SamePlace (t.slice s.state) (t'.slice s.state) (e.rule, e.reason) (e'.rule, e'.reason))
      Scan.Alongside (s.line t o text) (s'.line t' o' text) := by
  have htry := tryRules_alike o.strip s.state text h s.store
  rw [Table.slice, Table.slice, ← tryRules_slice, ← tryRules_slice] at htry
  simp only [Scan.line, ← hs.state, ← hs.store, ← hstrip]
  rcases htry.outcome with ⟨e, e', he, he', hsame⟩ | ⟨r, r', hr₁, hr₁', hr⟩
  · rw [he, he']
    exact .error ⟨rfl, congrArg (· + 1) hs.lines.symm, hsame⟩
  · rw [hr₁, hr₁']
    have hempty : r.fired.isEmpty = r'.fired.isEmpty := by
      rw [← List.isEmpty_map, hr.fired, List.isEmpty_map]
    refine .ok ⟨?_, hr.store, ?_, congrArg (· + 1) hs.lines, ?_, ?_⟩
    · simp only [Round.nextState, hr.transition]
    · simp only [Round.stops, hr.transition]
    · simp only [Metrics.count, hempty, hs.matchedLines]
    · simp only [Metrics.count, hr.tried, hs.tried]

/-- Two scans of lines from `s` on fail on the same line and for the same reason, at rules in the
    same place of the slices for the state that line is read in. -/
structure SameFault (t t' : Table) (o : ScanOptions) (s : Scan) (lines : List String) (e e' : ScanError) : Prop where
  line : e.line = e'.line
  place : ∃ n u, e.line = s.metrics.lines + n + 1 ∧ s.run t o (lines.take n) = .ok u ∧
    SamePlace (t.slice u.state) (t'.slice u.state) (e.rule, e.reason) (e'.rule, e'.reason)

theorem run_alongside {s s' : Scan} (hs : s.Alongside s') (hstrip : o.strip = o'.strip)
    (hstate : t.Attainable s.state)
    (h : ∀ state, t.Attainable state → List.Forall₂ Rule.Alike (t.slice state) (t'.slice state))
    (lines : List String) :
    Both (SameFault t t' o s lines) Scan.Alongside (s.run t o lines) (s'.run t' o' lines) := by
  induction lines generalizing s s' with
  | nil => exact .ok hs
  | cons text rest ih =>
    rw [Scan.run, Scan.run]
    rcases (line_alongside hs hstrip (h s.state hstate) text).outcome with
      ⟨e, e', hl, hl', hnumber, hsame, hplace⟩ | ⟨u, u', hl, hl', hu⟩
    · rw [hl, hl']
      exact .error ⟨hsame.symm, 0, s, hnumber, rfl, hplace⟩
    · simp only [hl, hl', ← hu.stopped]
      by_cases hstop : u.stopped = true
      · rw [if_pos hstop, if_pos hstop]; exact .ok hu
      · rw [if_neg hstop, if_neg hstop]
        refine (ih hu (attainable_line hstate hl)).imp (fun e e' he => ?_) fun _ _ ha => ha
        obtain ⟨n, v, hn, hv, hplace⟩ := he.place
        have hnext : u.metrics.lines = s.metrics.lines + 1 := by
          obtain ⟨r, -, rfl⟩ := line_eq_ok hl; rfl
        -- the line that fails is counted from here, one more than from the next line on
        refine ⟨he.line, n + 1, v, by omega, ?_, hplace⟩
        rw [List.take_succ_cons, Scan.run, hl]
        simp only [if_neg hstop, hv]

/-! ## Tables that scan alike -/

/-- Scans of the same lines with the two tables, both with or both without blanks stripped, fail
    alike or leave the same behind them. -/
def Table.SameScans (t t' : Table) : Prop :=
  ∀ (o o' : ScanOptions) (lines : List String), o.strip = o'.strip →
    Both (SameFault t t' o (Scan.start t) lines) Scan.Alongside (t.scan o lines) (t'.scan o' lines)

theorem sameScans_of_slices
    (h : ∀ state, t.Attainable state → List.Forall₂ Rule.Alike (t.slice state) (t'.slice state)) : t.SameScans t' := by
  intro o o' lines hstrip
  have hstart : (Scan.start t).Alongside (Scan.start t') := ⟨rfl, rfl, rfl, rfl, rfl, rfl⟩
  exact run_alongside hstart hstrip .top h lines

theorem forall₂_slice {rules rules' : List Rule} (h : List.Forall₂ Rule.Alike rules rules') (state : String) :
    List.Forall₂ Rule.Alike (rules.filter fun r => r.guard.admits state)
      (rules'.filter fun r => r.guard.admits state) :=
  forall₂_filter h fun r r' hr => by rw [hr.guard]

/-- Leaving out rules that are never reached keeps the slices. -/
theorem slice_of_keep {keep : Rule → Bool} (hkeep : ∀ rule ∈ t.rules, keep rule = false → t.Unreached rule)
    {state : String} (hstate : t.Attainable state) :
    t.slice state = (t.rules.filter keep).filter fun r => r.guard.admits state := by
  rw [Table.slice, List.filter_filter]
  refine List.filter_congr fun rule hrule => ?_
  cases hk : keep rule with
  | true => rw [Bool.and_true]
  | false => rw [hkeep rule hrule hk state hstate, Bool.false_and]

/-- Neighbours that admit no state together may change places. -/
theorem filter_swap {α : Type} {p : α → Bool} {a b : α} (h : p a = true → p b = false) (before after : List α) :
    (before ++ a :: b :: after).filter p = (before ++ b :: a :: after).filter p := by
  simp only [List.filter_append, List.filter_cons]
  by_cases ha : p a = true
  · simp [ha, h ha]
  · simp [ha]

/-- The rule that an error names admits the state that its line is read in. -/
theorem rule_of_scan_error {lines : List String} {e : ScanError} (h : t.scan o lines = .error e) :
    ∃ rule ∈ t.rules, rule.index = e.rule ∧ ¬ t.Unreached rule := by
  have hself : t.SameScans t := sameScans_of_slices fun state _ => List.forall₂_same.mpr fun r _ => .refl r
  rcases (hself o o lines rfl).outcome with ⟨e₁, e', he, -, hfault⟩ | ⟨s, -, hs, -, -⟩
  · obtain rfl : e = e₁ := by simpa [h] using he
    obtain ⟨n, u, -, hu, -, k, hk, -⟩ := hfault.place
    obtain ⟨rule, hrule, hindex⟩ := Option.map_eq_some_iff.mp hk
    obtain ⟨hmem, hadmits⟩ := List.mem_filter.mp (List.mem_of_getElem? hrule)
    refine ⟨rule, hmem, hindex, fun hno => ?_⟩
    rw [hno _ (attainable_of_reachable (reachable_run .start hu))] at hadmits
    cases hadmits
  · rw [hs] at h; cases h

/-- Every state of a scan is attainable, and a rule that admits no attainable state is never
    tried. Tables with the same slices for the attainable states of the first scan alike; so do a
    table and the same table without rules that are never reached, or with two neighbours
    exchanged that admit no attainable state together. -/
theorem scan_slices {flags : Pattern.Flags} {rows : List Row} {t : Table} (ht : Table.ofRows flags rows = .ok t) :
    (∀ o s, Reachable t o s → t.Attainable s.state ∧
      ∀ rule ∈ t.rules, t.Unreached rule → s.metrics.tallies[rule.index]?.map (·.tried) = some 0) ∧
    (∀ o lines s, t.scan o lines = .ok s → Reachable t o s) ∧
    (∀ o lines e, t.scan o lines = .error e → ∀ rule ∈ t.rules, t.Unreached rule → e.rule ≠ rule.index) ∧
    (∀ t', (∀ state, t.Attainable state → List.Forall₂ Rule.Alike (t.slice state) (t'.slice state)) →
      t.SameScans t') ∧
    (∀ t' keep, (∀ rule ∈ t.rules, keep rule = false → t.Unreached rule) →
      List.Forall₂ Rule.Alike (t.rules.filter keep) t'.rules → t.SameScans t') ∧
    ∀ t' before a b after, t.rules = before ++ a :: b :: after →
      (∀ state, t.Attainable state → a.guard.admits state = true → b.guard.admits state = false) →
      List.Forall₂ Rule.Alike (before ++ b :: a :: after) t'.rules → t.SameScans t' := by
  refine ⟨?_, ?_, ?_, ?_, ?_, ?_⟩
  · intro o s hs
    exact ⟨attainable_of_reachable hs, fun rule hmem hno => tried_of_unreached ht hmem hno hs⟩
  · intro o lines s hs
    exact reachable_run .start hs
  · intro o lines e he rule hmem hno hrule
    obtain ⟨rule', hmem', hindex, hyes⟩ := rule_of_scan_error he
    obtain rfl := index_injective (indices_of_ofRows ht) hmem' hmem (hindex.trans hrule)
    exact hyes hno
  · intro t' h
    exact sameScans_of_slices h
  · intro t' keep hkeep halike
    refine sameScans_of_slices fun state hstate => ?_
    rw [slice_of_keep hkeep hstate]
    exact forall₂_slice halike state
  · intro t' before a b after hrules hdisjoint halike
    refine sameScans_of_slices fun state hstate => ?_
    rw [Table.slice, hrules, filter_swap (hdisjoint state hstate)]
    exact forall₂_slice halike state

/-- A rule between two others admits a state that nothing leads to. The last rule refuses `b`. -/
def bypassing : List Row :=
  [ { guard := .states ["top"], transition := .goto "in", pattern := .text "a" },
    { guard := .states ["out"], transition := .stop, pattern := .text "b" },
    { guard := .states ["in"], pattern := .text "[bc]", path := some (.dotted "seen[]"),
      filter := .function fun m _ => if m.whole = "b" then .error "refused" else .ok ⟨.str m.whole, none⟩ } ]

def bypassed : List Row := bypassing.filter fun row => row.guard ≠ .states ["out"]

/-- Only the states `top` and `in` are attained. -/
theorem attainable_bypassing {t : Table} (ht : Table.ofRows {} bypassing = .ok t) {state : String}
    (h : t.Attainable state) : state = "top" ∨ state = "in" := by
  cases h with
  | top => exact .inl rfl
  | @goto rule before next _ hmem _ hgoto =>
    have hmap : bypassing.map (·.transition) = t.rules.map (·.transition) :=
      map_eq_of_forall₂ (forall₂_ofRows ht) fun _ _ hr => hr.fields.2.1.symm
    have hin := List.mem_map_of_mem (f := (·.transition)) hmem
    rw [← hmap, hgoto] at hin
    exact .inr (by simpa [bypassing] using hin)

theorem scan_slices_bypassing :
    ∃ t t' e' s s', Table.ofRows {} bypassing = .ok t ∧ Table.ofRows {} bypassed = .ok t' ∧
      t.scan {} ["a", "c", "b"] = .error ⟨2, 3, "refused"⟩ ∧ t'.scan {} ["a", "c", "b"] = .error e' ∧
      e'.line = 3 ∧ e'.reason = "refused" ∧
      t.scan {} ["a", "c"] = .ok s ∧ t'.scan {} ["a", "c"] = .ok s' ∧
      s.result.compact = r#"{"seen":["c"]}"# ∧ s'.store = s.store := by
  have hseen : (Table.ofRows {} bypassing).map (fun t =>
      ((t.scan {} ["a", "c", "b"]).map Scan.state, (t.scan {} ["a", "c"]).map fun s => s.result.compact)) =
      .ok (.error ⟨2, 3, "refused"⟩, .ok r#"{"seen":["c"]}"#) := by decide +kernel
  have hseen' : (Table.ofRows {} bypassed).map Table.size = .ok 2 := by decide +kernel
  obtain ⟨t, ht, hscans⟩ := map_eq_ok hseen
  obtain ⟨t', ht', -⟩ := map_eq_ok hseen'
  rw [Prod.mk.injEq] at hscans
  obtain ⟨s, hs, hcompact⟩ := map_eq_ok hscans.2.symm
  have hguard : ∀ row r, Rule.OfRow {} row r →
      decide (row.guard ≠ .states ["out"]) = decide (r.guard ≠ .states ["out"]) := by
    intro row r hr
    rw [hr.fields.1]
  have halike : List.Forall₂ Rule.Alike (t.rules.filter fun r => r.guard ≠ .states ["out"]) t'.rules :=
    forall₂_trans (forall₂_filter (forall₂_ofRows ht) hguard).flip (forall₂_ofRows ht') fun _ _ _ => .of_row
  have hkeep : ∀ rule ∈ t.rules, decide (rule.guard ≠ .states ["out"]) = false → t.Unreached rule := by
    intro rule _ hout state hstate
    have hrule : rule.guard = .states ["out"] := by simpa using hout
    rw [hrule]
    rcases attainable_bypassing ht hstate with rfl | rfl <;> decide
  obtain ⟨-, -, -, -, hdelete, -⟩ := scan_slices ht
  have hsame := hdelete t' _ hkeep halike
  rcases (hsame {} {} ["a", "c", "b"] rfl).outcome with ⟨e, e', he, he', hfault⟩ | ⟨u, -, hu, -, -⟩
  · rcases (hsame {} {} ["a", "c"] rfl).outcome with ⟨_, -, hfails, -, -⟩ | ⟨u, s', hu, hs', halong⟩
    · rw [hfails] at hs; cases hs
    · obtain rfl : s = u := by simpa [hs] using hu
      obtain rfl : e = ⟨2, 3, "refused"⟩ := by simpa [he, Except.map] using hscans.1.symm
      obtain ⟨-, -, -, -, hreason, -⟩ := hfault.place
      exact ⟨t, t', e', s, s', ht, ht', he, he', hfault.line.symm, hreason.symm, hs, hs', hcompact.symm,
        halong.store.symm⟩
  · rw [hu] at hscans; cases hscans.1

end LineRules
