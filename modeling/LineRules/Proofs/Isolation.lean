/-
  LineRules.Proofs.Isolation — the output tree is written and never read.

  What the context is after a fire depends on the context before it, not on the tree. A rule that
  writes to the tree, or nothing, and has no filter function leaves in the context just what every
  fire takes in (`fire_treeOnly`): neither its path nor its value comes back. So such rules may
  store what they like where they like in the tree; two scans that differ in no more than this keep
  equal contexts and states, and a filter function sees the same in both and refuses in both
  (`run_sameContext`).

  The other way round, a fire writes under the root that its path was given when the table was made.
  No text that it captures makes it write to the tree (`tree_after`).
-/

import LineRules.Proofs.Buffers
import LineRules.Proofs.Slices

namespace LineRules

/-! ## Rules that leave the context alone -/

/-- The rule stores nothing, or in the tree and what no function makes. -/
structure Rule.TreeOnly (r : Rule) : Prop where
  root : ∀ path, r.path = some path → path.root = .tree
  filter : r.filter.isFunction = false

/-- Rules that treat the context in the same way: alike ones, and such that fire together and leave
    the context alone. -/
inductive Rule.SameContext (r r' : Rule) : Prop
  | alike : r.Alike r' → r.SameContext r'
  | treeOnly : r.InStep r' → r.TreeOnly → r'.TreeOnly → r.SameContext r'

theorem Rule.SameContext.inStep {r r' : Rule} (h : r.SameContext r') : r.InStep r' := by
  cases h with
  | alike h => exact h.inStep
  | treeOnly h => exact h

structure Row.TreeOnly (row : Row) : Prop where
  root : ∀ path, Rule.makePath row.path = .ok (some path) → path.root = .tree
  filter : row.filter.isFunction = false

/-- Equal rows, and such that differ only in what they store in the tree. -/
def Row.SameContext (row row' : Row) : Prop := row = row' ∨ row.SameCourse row' ∧ row.TreeOnly ∧ row'.TreeOnly

theorem treeOnly_ofRow {flags : Pattern.Flags} {row : Row} {r : Rule} (h : row.TreeOnly) (hr : Rule.OfRow flags row r) :
    r.TreeOnly := by
  obtain ⟨-, -, hfilter, -, hpath⟩ := hr.fields
  exact ⟨fun path hp => h.root path (hp ▸ hpath), hfilter ▸ h.filter⟩

theorem ofRow_sameContext {flags : Pattern.Flags} {row row' : Row} {r r' : Rule} (h : row.SameContext row')
    (hr : Rule.OfRow flags row r) (hr' : Rule.OfRow flags row' r') : r.SameContext r' := by
  rcases h with rfl | ⟨hcourse, htree, htree'⟩
  · exact .alike (.of_row hr hr')
  · obtain ⟨hguard, htransition, -, hpattern, -⟩ := hr.fields
    obtain ⟨hguard', htransition', -, hpattern', -⟩ := hr'.fields
    rw [← hcourse.pattern, hpattern, Except.ok.injEq, Prod.mk.injEq] at hpattern'
    refine .treeOnly ⟨hguard.trans (hcourse.guard.trans hguard'.symm),
      htransition.trans (hcourse.transition.trans htransition'.symm), fun line => ?_⟩ (treeOnly_ofRow htree hr)
      (treeOnly_ofRow htree' hr')
    rw [Rule.match?, Rule.match?, hpattern'.1, hpattern'.2]

theorem ofRows_sameContext {flags : Pattern.Flags} {rows rows' : List Row} {t t' : Table}
    (h : List.Forall₂ Row.SameContext rows rows') (ht : Table.ofRows flags rows = .ok t)
    (ht' : Table.ofRows flags rows' = .ok t') : List.Forall₂ Rule.SameContext t.rules t'.rules :=
  ofRows_related h ht ht' fun _ _ _ _ => ofRow_sameContext

/-! ## A fire -/

variable {strip : Bool} {state : String}

/-- What is in the context after a write does not depend on the tree. -/
theorem context_write (c : Context) (tree tree' : Entries Value) (root : Root) (place : List Segment) (v : Value) :
    (Store.write ⟨c, tree⟩ root place v).context = (Store.write ⟨c, tree'⟩ root place v).context := by
  cases root with
  | tree => rfl
  | buffer name mode => rfl

/-- A rule that leaves the context alone fires, and the context takes in what it takes in of any
    fire. -/
theorem fire_treeOnly {rule : Rule} (h : rule.TreeOnly) (strip : Bool) (state : String) (s : Store) (m : Match) :
    ∃ s' loc, s.fire strip state rule m = .ok (s', loc) ∧
      s'.context = Store.absorb s.context (Store.capturesOf strip m) state rule := by
  obtain ⟨s', loc, hfire⟩ := fire_of_not_function strip state h.filter s m
  refine ⟨s', loc, hfire, ?_⟩
  cases hp : rule.path with
  | none => exact (fire_of_no_path (f := ⟨rule, state, m⟩) hp hfire).1
  | some path =>
    obtain ⟨v, -, -, rfl⟩ := fire_of_path (f := ⟨rule, state, m⟩) hp h.filter hfire
    have hroot : path.root = .tree := h.root path hp
    simp only [hroot, Store.write, Fire.opened, Path.prepare]

theorem fire_sameContext {r r' : Rule} (h : r.SameContext r') {s s' : Store} (hs : s.context = s'.context)
    (strip : Bool) (state : String) (m : Match) :
    Both (· = ·) (fun out out' => out.1.context = out'.1.context) (s.fire strip state r m)
      (s'.fire strip state r' m) := by
  cases h with
  | alike h =>
    rw [← fire_alike h]
    simp only [Store.fire, hs]
    cases r.path with
    | none => exact .ok rfl
    | some path =>
      dsimp only
      split
      · exact .error rfl
      · exact .ok (context_write _ s.tree s'.tree path.root _ _)
  | treeOnly hstep hr hr' =>
    obtain ⟨u, loc, hu, hcontext⟩ := fire_treeOnly hr strip state s m
    obtain ⟨u', loc', hu', hcontext'⟩ := fire_treeOnly hr' strip state s' m
    rw [hu, hu']
    refine .ok (hcontext.trans (Eq.trans ?_ hcontext'.symm))
    simp only [Store.absorb, hs, hstep.guard, hstep.transition]

/-! ## A line -/

structure Round.SameContext (r r' : Round) : Prop where
  context : r.store.context = r'.store.context
  tried : r.tried = r'.tried
  fired : r.fired.map (·.rule) = r'.fired.map (·.rule)
  transition : r.transition = r'.transition

theorem tryRules_sameContext (strip : Bool) (state line : String) {rules rules' : List Rule}
    (h : List.Forall₂ (fun r r' => r.SameContext r' ∧ r.index = r'.index) rules rules') {s s' : Store}
    (hs : s.context = s'.context) :
    Both (· = ·) Round.SameContext (tryRules strip state line rules s) (tryRules strip state line rules' s') := by
  have hrelated : Both (SamePlace rules rules')
      (Round.Related (· = ·) (fun _ _ => True) fun s s' => s.context = s'.context)
      (tryRules strip state line rules s) (tryRules strip state line rules' s') := by
    refine tryRules_related (fun _ _ hr => hr.1.inStep) (fun _ _ hr => hr.2) ?_ line h hs
    intro r r' hr s s' hs m
    exact (fire_sameContext hr.1 hs strip state m).imp (fun _ _ he => he) fun _ _ hcontext => ⟨hcontext, trivial⟩
  have hindex : rules.map Rule.index = rules'.map Rule.index := map_eq_of_forall₂ h fun _ _ hr => hr.2
  refine hrelated.imp (fun _ _ he => he.eq hindex) fun a a' ha => ⟨ha.store, ?_, ?_, ha.transition⟩
  · rw [← List.forall₂_eq_eq_eq]; exact ha.tried
  · exact map_eq_of_forall₂ ha.fired fun _ _ hf => hf.1

/-! ## From line to line -/

/-- Scans that differ in their trees and traces only. -/
structure Scan.SameContext (s s' : Scan) : Prop where
  state : s.state = s'.state
  context : s.store.context = s'.store.context
  metrics : s.metrics = s'.metrics
  stopped : s.stopped = s'.stopped

section Tables

variable {t t' : Table} (h : List.Forall₂ (fun r r' => r.SameContext r' ∧ r.index = r'.index) t.rules t'.rules)
variable {o o' : ScanOptions} (hstrip : o.strip = o'.strip)
include h hstrip

theorem line_sameContext {s s' : Scan} (hs : s.SameContext s') (text : String) :
    Both (· = ·) Scan.SameContext (s.line t o text) (s'.line t' o' text) := by
  have htry := tryRules_sameContext o.strip s.state text h hs.context
  simp only [Scan.line, ← hs.state, ← hs.metrics, ← hstrip]
  rcases htry.outcome with ⟨e, e', he, he', rfl⟩ | ⟨r, r', hr₁, hr₁', hr⟩
  · rw [he, he']; exact .error rfl
  · rw [hr₁, hr₁']
    refine .ok ⟨?_, hr.context, count_congr _ hr.tried hr.fired, ?_⟩
    · simp only [Round.nextState, hr.transition]
    · simp only [Round.stops, hr.transition]

theorem run_sameContext {s s' : Scan} (hs : s.SameContext s') (lines : List String) :
    Both (· = ·) Scan.SameContext (s.run t o lines) (s'.run t' o' lines) := by
  induction lines generalizing s s' with
  | nil => exact .ok hs
  | cons text rest ih =>
    rw [Scan.run, Scan.run]
    rcases (line_sameContext h hstrip hs text).outcome with ⟨e, e', he, he', rfl⟩ | ⟨u, u', hu₁, hu₁', hu⟩
    · rw [he, he']; exact .error rfl
    · simp only [hu₁, hu₁', ← hu.stopped]
      split
      · exact .ok hu
      · exact ih hu

end Tables

/-! ## What does not write to the tree -/

theorem tree_write {s : Store} {root : Root} (hroot : root ≠ .tree) (place : List Segment) (v : Value) :
    (s.write root place v).tree = s.tree := by
  cases root with
  | tree => exact absurd rfl hroot
  | buffer name mode => rfl

/-- Whatever a filter makes, it is written under the root of the path. -/
theorem tree_fire {s s' : Store} {rule : Rule} {m : Match} {loc : Option String}
    (hroot : ∀ path, rule.path = some path → path.root ≠ .tree) (h : s.fire strip state rule m = .ok (s', loc)) :
    s'.tree = s.tree := by
  unfold Store.fire at h
  cases hp : rule.path with
  | none => rw [hp] at h; cases h; rfl
  | some path =>
    simp only [hp] at h
    split at h
    · cases h
    · cases h; exact tree_write (hroot path hp) _ _

theorem tree_after {fs : List Fire} (hroot : ∀ f ∈ fs, ∀ path, f.rule.path = some path → path.root ≠ .tree)
    {s s' : Store} (h : s.after strip fs = .ok s') : s'.tree = s.tree := by
  induction fs generalizing s with
  | nil => cases h; rfl
  | cons f rest ih =>
    obtain ⟨u, loc, hfire, hafter⟩ := Store.after_cons_eq_ok.mp h
    have hrest := ih (fun g hg => hroot g (List.mem_cons_of_mem f hg)) hafter
    exact hrest.trans (tree_fire (hroot f List.mem_cons_self) hfire)

/-! ## Tables that differ in what they store in the tree -/

/-- Scan with two tables whose rules, one by one, are alike, or admit the same states, match alike and
    have the same transition, write to the tree at most and have no filter function. Both scans fail
    on the same line, at the same rule and for the same reason, or both leave the same context and
    state behind, after any lines. Moreover fires of rules that write to buffers or nowhere leave the
    tree as it is, and fires of rules that write to the tree or nowhere and have no filter function
    leave in the context what they take in, whatever text was captured. -/
theorem scan_isolated {flags flags' : Pattern.Flags} {rows rows' : List Row} {t t' : Table}
    (ht : Table.ofRows flags rows = .ok t) (ht' : Table.ofRows flags' rows' = .ok t')
    (h : List.Forall₂ Rule.SameContext t.rules t'.rules) {o o' : ScanOptions} (hstrip : o.strip = o'.strip)
    (lines : List String) :
    Both (· = ·) Scan.SameContext (t.scan o lines) (t'.scan o' lines) ∧
      (∀ fs s s', Store.after o.strip s fs = .ok s' →
        (∀ f ∈ fs, ∀ path, f.rule.path = some path → path.root ≠ .tree) → s'.tree = s.tree) ∧
      ∀ (f : Fire) (s : Store), f.rule.TreeOnly → ∃ s' loc, s.fire o.strip f.state f.rule f.found = .ok (s', loc) ∧
        s'.context = Store.absorb s.context (Store.capturesOf o.strip f.found) f.state f.rule := by
  have hlength : t.rules.length = t'.rules.length := h.length_eq
  have hindex : t.rules.map (·.index) = t'.rules.map (·.index) := by
    rw [indices_of_ofRows ht, indices_of_ofRows ht', hlength]
  have hstart : (Scan.start t).SameContext (Scan.start t') := by
    refine ⟨rfl, rfl, ?_, rfl⟩
    simp only [Scan.start, List.map_const', hlength]
  refine ⟨run_sameContext (forall₂_index h hindex) hstrip hstart lines, ?_, ?_⟩
  · intro fs s s' hafter hroot
    exact tree_after hroot hafter
  · intro f s hf
    exact fire_treeOnly hf o.strip f.state s f.found

/-- The first rule files what it captures. The second one keeps, in a buffer, what a function sees of
    it in the context; the function refuses `-`. -/
def filing (path : Option PathText) (filter : Filter) : List Row :=
  [ { pattern := .text "(?P<k>[<>][a-z])", transition := .proceed, path, filter },
    { pattern := .text "[<>-]", path := some (.dotted ">>seen.all[]"),
      filter := .function fun m c =>
        if m.whole = "-" then .error "refused" else .ok ⟨.str (Template.expand "{k}" c), none⟩ } ]

/-- Filing in the tree, under keys made of what was captured, and not filing at all. -/
theorem scan_isolated_filing :
    ∃ t t' s s', Table.ofRows {} (filing (some (.dotted "{k}[]")) (.template "{k}")) = .ok t ∧
      Table.ofRows {} (filing none .captures) = .ok t' ∧
      t.scan {} [">b", "<c"] = .ok s ∧ t'.scan {} [">b", "<c"] = .ok s' ∧
      s.result.compact = r#"{"b":[">b"],"c":["<c"]}"# ∧
      (s.store.context.get? "seen").map Value.compact = some r#"{"all":[">b","<c"]}"# ∧
      s'.store.context = s.store.context ∧ s'.store.tree = [] ∧
      t.scan {} [">b", "-"] = .error ⟨1, 2, "refused"⟩ ∧ t'.scan {} [">b", "-"] = .error ⟨1, 2, "refused"⟩ := by
  have hseen : (Table.ofRows {} (filing (some (.dotted "{k}[]")) (.template "{k}"))).map (fun t =>
      ((t.scan {} [">b", "<c"]).map fun s =>
          (s.result.compact, (s.store.context.get? "seen").map Value.compact),
        (t.scan {} [">b", "-"]).map Scan.state)) =
      .ok (.ok (r#"{"b":[">b"],"c":["<c"]}"#, some r#"{"all":[">b","<c"]}"#),
        .error ⟨1, 2, "refused"⟩) := by decide +kernel
  have hseen' : (Table.ofRows {} (filing none .captures)).map Table.size = .ok 2 := by decide +kernel
  obtain ⟨t, ht, hscans⟩ := map_eq_ok hseen
  obtain ⟨t', ht', -⟩ := map_eq_ok hseen'
  rw [Prod.mk.injEq] at hscans
  obtain ⟨s, hs, hvalues⟩ := map_eq_ok hscans.1.symm
  rw [Prod.mk.injEq] at hvalues
  have hroot : Rule.makePath (some (.dotted "{k}[]")) = .ok (some ⟨.tree, ["{k}[]"]⟩) := by
    decide
  have hrows : List.Forall₂ Row.SameContext (filing (some (.dotted "{k}[]")) (.template "{k}"))
      (filing none .captures) := by
    refine .cons (.inr ⟨⟨rfl, rfl, rfl⟩, ⟨fun path hpath => ?_, rfl⟩, ⟨fun path hpath => ?_, rfl⟩⟩)
      (.cons (.inl rfl) .nil)
    · have hpath : Rule.makePath (some (.dotted "{k}[]")) = .ok (some path) := hpath
      rw [hroot, Except.ok.injEq, Option.some.injEq] at hpath
      rw [← hpath]
    · cases hpath
  have hrules := ofRows_sameContext hrows ht ht'
  have hstrip : ({} : ScanOptions).strip = ({} : ScanOptions).strip := rfl
  obtain ⟨hboth, htree, -⟩ := scan_isolated ht ht' hrules hstrip [">b", "<c"]
  rcases hboth.outcome with ⟨e, e', he, -, -⟩ | ⟨u, s', hu, hs', hsame⟩
  · rw [hs] at he; cases he
  obtain rfl : s = u := by simpa [hs] using hu
  -- the rules of the second table write to a buffer or nowhere
  have hbuffer : Rule.makePath (some (.dotted ">>seen.all[]")) = .ok (some ⟨.buffer "seen" .kept, ["all[]"]⟩) := by
    decide
  have hroots : ∀ f ∈ t'.fires "top" [">b", "<c"], ∀ path, f.rule.path = some path → path.root ≠ .tree := by
    intro f hf path hp
    obtain ⟨row, hrow, hr⟩ := exists_row ht' (mem_fires hf).1
    have hpath : Rule.makePath row.path = .ok (some path) := hp ▸ hr.fields.2.2.2.2
    rcases List.mem_pair.mp hrow with rfl | rfl
    · cases hpath
    · rw [hbuffer, Except.ok.injEq, Option.some.injEq] at hpath
      simp [← hpath]
  have hfails : t.scan {} [">b", "-"] = .error ⟨1, 2, "refused"⟩ := by
    cases he : t.scan {} [">b", "-"] with
    | ok u => rw [he] at hscans; cases hscans.2
    | error e => rw [he] at hscans; cases hscans.2; rfl
  have hfails' : t'.scan {} [">b", "-"] = .error ⟨1, 2, "refused"⟩ := by
    rcases (scan_isolated ht ht' hrules hstrip [">b", "-"]).1.outcome with ⟨e, e', he, he', rfl⟩ | ⟨u, u', hu, -, -⟩
    · rw [he', ← hfails, he]
    · rw [hfails] at hu; cases hu
  exact ⟨t, t', s, s', ht, ht', hs, hs', hvalues.1.symm, hvalues.2.symm, hsame.context.symm,
    htree _ _ _ (run_store hs') hroots, hfails, hfails'⟩

end LineRules
