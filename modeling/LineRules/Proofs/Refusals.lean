/-
  LineRules.Proofs.Refusals — a scan fails where a filter function refuses, and nowhere else.

  A fire can be refused in one way only: its rule has a path, and its filter is a function that refuses
  (`fire_eq_error_iff`). Of fires one after another the first refused one ends the sequence
  (`Store.RefusedAt`). Trying rules on a line fails with the first refused fire of the line
  (`tryRules_eq_error_iff`), and so does a run with the first one of all its lines (`run_eq_error_iff`).

  So a rule without a path never asks its filter, and it does not matter which one it has
  (`scan_refiltered`). A table that was read from JSON has no functions at all.
-/

import LineRules.Proofs.Buffers
import LineRules.Proofs.Loading
import LineRules.Proofs.Readings
import LineRules.Proofs.TwoRuns

namespace LineRules

variable {strip : Bool}

/-! ## Fires -/

theorem fire_eq_error_iff {s : Store} {f : Fire} {reason : String} :
    s.fire strip f.state f.rule f.found = .error reason ↔ ∃ path run, f.rule.path = some path ∧
      f.rule.filter = .function run ∧ run f.found (f.opened strip s path) = .error reason := by
  cases hp : f.rule.path with
  | none => simp [Store.fire, hp]
  | some path =>
    have happly : s.fire strip f.state f.rule f.found = .error reason ↔
        f.rule.filter.apply f.found (Store.capturesOf strip f.found) (f.opened strip s path) = .error reason := by
      simp only [Store.fire, hp, Fire.opened]
      split
      · rename_i reason' hr
        rw [hr, Except.error.injEq, Except.error.injEq]
      · rename_i made hr
        simp [hr]
    rw [happly]
    cases hf : f.rule.filter with
    | function run => simp [Filter.apply]
    | _ => simp [Filter.apply]

def Store.RefusedAt (strip : Bool) (s : Store) (fires : List Fire) (f : Fire) (reason : String) : Prop :=
  ∃ earlier rest u, fires = earlier ++ f :: rest ∧ s.after strip earlier = .ok u ∧
    u.fire strip f.state f.rule f.found = .error reason

namespace Store

variable {s : Store} {f g : Fire} {rest : List Fire} {reason : String}

theorem not_refusedAt_nil : ¬s.RefusedAt strip [] f reason := by
  rintro ⟨earlier, rest, u, h, -⟩
  simp at h

theorem refusedAt_cons_of_error {cause : String} (h : s.fire strip g.state g.rule g.found = .error cause) :
    s.RefusedAt strip (g :: rest) f reason ↔ g = f ∧ cause = reason := by
  constructor
  · rintro ⟨earlier, rest', u, hfires, hafter, hfire⟩
    cases earlier with
    | nil =>
      rw [List.nil_append, List.cons.injEq] at hfires
      cases hafter
      rw [← hfires.1, h] at hfire
      exact ⟨hfires.1, Except.error.inj hfire⟩
    | cons first earlier =>
      rw [List.cons_append, List.cons.injEq] at hfires
      rw [← hfires.1, Store.after, h] at hafter
      cases hafter
  · rintro ⟨rfl, rfl⟩
    exact ⟨[], rest, s, rfl, rfl, h⟩

theorem refusedAt_cons_of_ok {s' : Store} {loc : Option String}
    (h : s.fire strip g.state g.rule g.found = .ok (s', loc)) :
    s.RefusedAt strip (g :: rest) f reason ↔ s'.RefusedAt strip rest f reason := by
  constructor
  · rintro ⟨earlier, rest', u, hfires, hafter, hfire⟩
    cases earlier with
    | nil =>
      rw [List.nil_append, List.cons.injEq] at hfires
      cases hafter
      rw [← hfires.1, h] at hfire
      cases hfire
    | cons first earlier =>
      rw [List.cons_append, List.cons.injEq] at hfires
      rw [← hfires.1, Store.after, h] at hafter
      exact ⟨earlier, rest', u, hfires.2, hafter, hfire⟩
  · rintro ⟨earlier, rest', u, rfl, hafter, hfire⟩
    refine ⟨g :: earlier, rest', u, rfl, ?_, hfire⟩
    rw [Store.after, h]
    exact hafter

theorem after_of_refusedAt {fires : List Fire} (h : s.RefusedAt strip fires f reason) (u : Store) :
    s.after strip fires ≠ .ok u := by
  obtain ⟨earlier, rest, v, rfl, hafter, hfire⟩ := h
  rw [Store.after_append hafter, Store.after, hfire]
  simp

end Store

/-! ## Lines -/

theorem tryRules_eq_error_iff {state line : String} {rules : List Rule} {s : Store} {e : Nat × String} :
    tryRules strip state line rules s = .error e ↔
      ∃ f, s.RefusedAt strip (firesOn state line rules) f e.2 ∧ f.rule.index = e.1 := by
  induction rules generalizing s with
  | nil =>
    have hnone : firesOn state line [] = [] := rfl
    simp [tryRules, hnone, Store.not_refusedAt_nil]
  | cons rule rest ih =>
    rw [tryRules]
    by_cases ha : rule.guard.admits state = true
    · rw [if_pos ha]
      cases hm : rule.match? line with
      | none =>
        rw [firesOn_of_not_hits (by simp [Rule.hits, hm])]
        exact map_eq_error_iff.trans ih
      | some m =>
        rw [firesOn_of_hit ha hm]
        cases hf : s.fire strip state rule m with
        | error cause =>
          simp only [hf, Store.refusedAt_cons_of_error (g := ⟨rule, state, m⟩) hf]
          constructor
          · intro h
            rw [← Except.error.inj h]
            exact ⟨⟨rule, state, m⟩, ⟨rfl, rfl⟩, rfl⟩
          · rintro ⟨f, ⟨rfl, hcause⟩, hindex⟩
            have hindex : rule.index = e.1 := hindex
            rw [hcause, hindex]
        | ok out =>
          obtain ⟨s', loc⟩ := out
          simp only [hf, Store.refusedAt_cons_of_ok (g := ⟨rule, state, m⟩) hf]
          by_cases ht : rule.transition = .proceed
          · rw [if_pos ht, if_pos ht]
            exact map_eq_error_iff.trans ih
          · rw [if_neg ht, if_neg ht]
            simp [Store.not_refusedAt_nil]
    · rw [if_neg ha, firesOn_of_not_hits (by simp [Rule.hits, ha])]
      exact ih

variable {t : Table} {o : ScanOptions}

theorem line_eq_error_iff {s : Scan} {text : String} {e : ScanError} :
    s.line t o text = .error e ↔ e.line = s.metrics.lines + 1 ∧
      ∃ f, s.store.RefusedAt o.strip (firesOn s.state text t.rules) f e.reason ∧ f.rule.index = e.rule := by
  rw [← tryRules_eq_error_iff (e := (e.rule, e.reason)), Scan.line]
  cases htry : tryRules o.strip s.state text t.rules s.store with
  | ok r => simp
  | error cause =>
    obtain ⟨rule, reason⟩ := cause
    constructor
    · intro h
      rw [← Except.error.inj h]
      exact ⟨rfl, rfl⟩
    · rintro ⟨hline, hcause⟩
      rw [Except.error.injEq, Prod.mk.injEq] at hcause
      rw [hcause.1, hcause.2, ← hline]

/-! ## Runs -/

/-- Of these lines, before which `n` others were read, one has a refused fire, and those before it have none. -/
def Table.Refuses (t : Table) (o : ScanOptions) (n : Nat) (s : Store) (rs : List Reading) (e : ScanError) : Prop :=
  ∃ before r later u f, rs = before ++ r :: later ∧ e.line = n + before.length + 1 ∧
    s.after o.strip (before.flatMap fun r => firesOn r.state r.line t.rules) = .ok u ∧
    u.RefusedAt o.strip (firesOn r.state r.line t.rules) f e.reason ∧ f.rule.index = e.rule

theorem refuses_cons {n : Nat} {s : Store} {r : Reading} {rs : List Reading} {e : ScanError} :
    t.Refuses o n s (r :: rs) e ↔
      (e.line = n + 1 ∧ ∃ f, s.RefusedAt o.strip (firesOn r.state r.line t.rules) f e.reason ∧ f.rule.index = e.rule) ∨
      ∃ u, s.after o.strip (firesOn r.state r.line t.rules) = .ok u ∧ t.Refuses o (n + 1) u rs e := by
  constructor
  · rintro ⟨before, r', later, u, f, hread, hline, hafter, hrefused, hrule⟩
    cases before with
    | nil =>
      obtain ⟨rfl, -⟩ := List.cons.inj hread
      cases hafter
      exact Or.inl ⟨hline, f, hrefused, hrule⟩
    | cons first before =>
      obtain ⟨rfl, hrs⟩ := List.cons.inj hread
      obtain ⟨v, hv, hrest⟩ := Store.after_append_eq_ok hafter
      refine Or.inr ⟨v, hv, before, r', later, u, f, hrs, ?_, hrest, hrefused, hrule⟩
      rw [hline, List.length_cons]
      omega
  · rintro (⟨hline, f, hrefused, hrule⟩ | ⟨v, hv, before, r', later, u, f, rfl, hline, hafter, hrefused, hrule⟩)
    · exact ⟨[], r, rs, s, f, rfl, hline, rfl, hrefused, hrule⟩
    · refine ⟨r :: before, r', later, u, f, rfl, ?_, ?_, hrefused, hrule⟩
      · rw [hline, List.length_cons]
        omega
      · rw [List.flatMap_cons, Store.after_append hv]
        exact hafter

/-- A run fails on the first line with a refused fire, if none before has ended it. -/
theorem run_eq_error_iff {s : Scan} {lines : List String} {e : ScanError} :
    s.run t o lines = .error e ↔ t.Refuses o s.metrics.lines s.store (t.readings s.state lines) e := by
  induction lines generalizing s with
  | nil => simp [Scan.run, Table.readings, Table.Refuses]
  | cons text rest ih =>
    rw [Scan.run, Table.readings, refuses_cons, ← line_eq_error_iff]
    cases hl : s.line t o text with
    | error cause =>
      obtain ⟨-, g, hrefused, -⟩ := line_eq_error_iff.mp hl
      have hnone (u : Store) : s.store.after o.strip (firesOn s.state text t.rules) ≠ .ok u :=
        Store.after_of_refusedAt hrefused u
      simp [hnone]
    | ok v =>
      obtain ⟨hstate, hstop⟩ := line_control hl
      have hlines : v.metrics.lines = s.metrics.lines + 1 := (line_counted hl).lines
      have hstore : s.store.after o.strip (firesOn s.state text t.rules) = .ok v.store := by
        obtain ⟨r, hr, rfl⟩ := line_eq_ok hl
        exact passed_store (passed_of_tryRules hr)
      simp only [hstore, ← hlines, ← hstop, ← hstate, Except.ok.injEq, exists_eq_left', reduceCtorEq, false_or]
      by_cases hs : v.stopped = true
      · simp [hs, Table.Refuses]
      · simp only [if_neg hs]
        exact ih

structure Refusal (t : Table) (o : ScanOptions) (lines : List String) where
  /-- The lines before its own; none of them ended the scan. -/
  before : List Reading
  reading : Reading
  later : List Reading
  read : t.readings "top" lines = before ++ reading :: later
  /-- The fires on its line, those before it and those behind. -/
  earlier : List Fire
  fire : Fire
  rest : List Fire
  fires : firesOn reading.state reading.line t.rules = earlier ++ fire :: rest
  /-- What all fires before it left. None of them was refused. -/
  store : Store
  passed : Store.after o.strip {} ((before.flatMap fun r => firesOn r.state r.line t.rules) ++ earlier) = .ok store
  path : Path
  path_eq : fire.rule.path = some path
  run : FilterFunction
  filter_eq : fire.rule.filter = .function run
  reason : String
  refused : run fire.found (fire.opened o.strip store path) = .error reason

namespace Refusal

variable {lines : List String}

def error (r : Refusal t o lines) : ScanError := ⟨r.fire.rule.index, r.before.length + 1, r.reason⟩

/-- The line of a refusal is the one that its error numbers. -/
theorem line_eq (r : Refusal t o lines) : lines[r.before.length]? = some r.reading.line := by
  obtain ⟨rest, hrest⟩ := readings_prefix_lines t "top" lines
  rw [r.read, List.map_append, List.map_cons, List.append_assoc] at hrest
  have hread := congrArg (fun l => l[r.before.length]?) hrest
  simpa using hread.symm

end Refusal

theorem scan_eq_error_iff {lines : List String} {e : ScanError} :
    t.scan o lines = .error e ↔ ∃ r : Refusal t o lines, r.error = e := by
  have hstart : t.scan o lines = .error e ↔ t.Refuses o 0 {} (t.readings "top" lines) e := run_eq_error_iff
  rw [hstart]
  constructor
  · rintro ⟨before, r, later, u, f, hread, hline, hafter, ⟨earlier, rest, v, hfires, hearlier, hrefused⟩, hrule⟩
    obtain ⟨path, run, hpath, hfilter, hrun⟩ := fire_eq_error_iff.mp hrefused
    refine ⟨⟨before, r, later, hread, earlier, f, rest, hfires, v, ?_, path, hpath, run, hfilter, e.reason, hrun⟩, ?_⟩
    · rw [Store.after_append hafter, hearlier]
    · rw [Nat.zero_add] at hline
      rw [Refusal.error, hrule, ← hline]
  · rintro ⟨r, rfl⟩
    obtain ⟨u, hafter, hearlier⟩ := Store.after_append_eq_ok r.passed
    refine ⟨r.before, r.reading, r.later, u, r.fire, r.read, ?_, hafter, ?_, rfl⟩
    · rw [Nat.zero_add]; rfl
    · exact ⟨r.earlier, r.rest, r.store, r.fires, hearlier,
        fire_eq_error_iff.mpr ⟨r.path, r.run, r.path_eq, r.filter_eq, r.refused⟩⟩

/-! ## Filters that are never asked -/

/-- The rules differ in their filters at most, and only if they have no path. -/
def Rule.Refiltered (r r' : Rule) : Prop := r' = r ∨ r.path = none ∧ ∃ filter, r' = { r with filter }

theorem tryRules_refiltered {state line : String} {rules rules' : List Rule}
    (h : List.Forall₂ Rule.Refiltered rules rules') (s : Store) :
    tryRules strip state line rules' s = tryRules strip state line rules s := by
  induction h generalizing s with
  | nil => rfl
  | @cons r r' rest rest' hr _ ih =>
    rcases hr with rfl | ⟨hpath, filter, rfl⟩
    · simp only [tryRules, ih]
    · have hfire (m : Match) : s.fire strip state { r with filter } m = s.fire strip state r m := by
        simp [Store.fire, hpath, Store.absorb]
      have hmatch : ({ r with filter } : Rule).match? line = r.match? line := rfl
      simp only [tryRules, hfire, hmatch, ih]

theorem scan_refiltered {t' : Table} (h : List.Forall₂ Rule.Refiltered t.rules t'.rules) (o : ScanOptions)
    (lines : List String) : t'.scan o lines = t.scan o lines := by
  have hline (s : Scan) (text : String) : s.line t' o text = s.line t o text := by
    rw [Scan.line, tryRules_refiltered h, Scan.line]
  have hrun (s : Scan) : s.run t' o lines = s.run t o lines := by
    induction lines generalizing s with
    | nil => rfl
    | cons text rest ih =>
      rw [Scan.run, Scan.run, hline]
      cases s.line t o text with
      | error e => rfl
      | ok u => simp only [ih]
  have hstart : Scan.start t' = Scan.start t := by
    simp only [Scan.start, List.map_const', h.length_eq]
  rw [Table.scan, Table.scan, hstart, hrun]

def Row.Refiltered (row row' : Row) : Prop := row' = row ∨ row.path = none ∧ ∃ filter, row' = { row with filter }

theorem ofRow_refiltered {row row' : Row} (h : row.Refiltered row') (flags : Pattern.Flags) (k : Nat) :
    Both (· = ·) Rule.Refiltered (Rule.ofRow flags k row) (Rule.ofRow flags k row') := by
  rcases h with rfl | ⟨hpath, filter, rfl⟩
  · have hsame : ∀ r : Rule, r.Refiltered r := fun _ => Or.inl rfl
    exact Both.refl (fun _ => rfl) hsame (Rule.ofRow flags k row')
  · rw [Rule.ofRow, Rule.ofRow]
    cases Rule.makePattern flags row.pattern with
    | error e => exact .error rfl
    | ok made =>
      simp only [hpath, Rule.makePath]
      exact .ok (Or.inr ⟨rfl, filter, rfl⟩)

theorem rulesFrom_refiltered {rows rows' : List Row} (h : List.Forall₂ Row.Refiltered rows rows')
    (flags : Pattern.Flags) (k : Nat) :
    Both (· = ·) (List.Forall₂ Rule.Refiltered) (Table.rulesFrom flags k rows) (Table.rulesFrom flags k rows') := by
  induction h generalizing k with
  | nil => exact .ok .nil
  | @cons row row' rest rest' hrow _ ih =>
    rw [Table.rulesFrom, Table.rulesFrom]
    rcases (ofRow_refiltered hrow flags k).outcome with ⟨e, e', he, he', rfl⟩ | ⟨r, r', hr, hr', hrule⟩
    · rw [he, he']
      exact .error rfl
    · rw [hr, hr']
      rcases (ih (k + 1)).outcome with ⟨e, e', he, he', rfl⟩ | ⟨rules, rules', hrules, hrules', hrest⟩
      · simp only [he, he']
        exact .error rfl
      · simp only [hrules, hrules']
        exact .ok (.cons hrule hrest)

theorem ofRows_refiltered {rows rows' : List Row} (h : List.Forall₂ Row.Refiltered rows rows') (flags : Pattern.Flags) :
    Both (· = ·) (fun t t' => List.Forall₂ Rule.Refiltered t.rules t'.rules) (Table.ofRows flags rows)
      (Table.ofRows flags rows') := by
  have hempty : rows'.isEmpty = rows.isEmpty := by cases h <;> rfl
  rw [Table.ofRows, Table.ofRows, hempty]
  split
  · exact .error rfl
  · rcases (rulesFrom_refiltered h flags 0).outcome with ⟨e, e', he, he', rfl⟩ | ⟨rules, rules', hrules, hrules', hsame⟩
    · rw [he, he']
      exact .error rfl
    · rw [hrules, hrules']
      exact .ok hsame

/-! ## Tables read from JSON -/

theorem isFunction_of_filterOfJson? {j : Json} {filter : Filter} (h : Table.filterOfJson? j = some filter) :
    filter.isFunction = false := by
  cases j with
  | null => cases h; rfl
  | object entries => cases h; rfl
  | string s =>
    obtain rfl := Option.some.inj h
    rw [Filter.ofText]
    split <;> rfl
  | _ => cases h

theorem isFunction_of_rowsOfJson {j : Json} {rows : List Row} (h : Table.rowsOfJson j = .ok rows) :
    ∀ row ∈ rows, row.filter.isFunction = false := by
  intro row hrow
  obtain ⟨rule, item, hitem⟩ := Table.exists_rowOfJson h hrow
  obtain ⟨guard, transition, pattern, path, filter, -, -, -, -, -, hfilter⟩ := Table.rowOfJson_eq_ok hitem
  exact isFunction_of_filterOfJson? hfilter

theorem scan_of_rowsOfJson {flags : Pattern.Flags} {j : Json} {rows : List Row} (hrows : Table.rowsOfJson j = .ok rows)
    (ht : Table.ofRows flags rows = .ok t) (o : ScanOptions) (lines : List String) : ∃ s, t.scan o lines = .ok s := by
  refine run_of_no_function ?_ o (Scan.start t) lines
  intro rule hrule
  obtain ⟨row, hrow, hof⟩ := exists_row ht hrule
  rw [hof.fields.2.2.1]
  exact isFunction_of_rowsOfJson hrows row hrow

/-! ## All that can go wrong -/

/-- A scan fails with an error just if a filter function of a rule with a path refuses there, as the first one, on a
    line that the scan gets to. So what filters the rules without a path have changes neither results nor errors,
    and no scan with a table read from JSON fails. -/
theorem scan_refusals (t : Table) (o : ScanOptions) (lines : List String) :
    (∀ e, t.scan o lines = .error e ↔
      ∃ r : Refusal t o lines, r.error = e ∧ lines[r.before.length]? = some r.reading.line) ∧
    (∀ t' : Table, List.Forall₂ Rule.Refiltered t.rules t'.rules → t'.scan o lines = t.scan o lines) ∧
    (∀ flags rows rows', List.Forall₂ Row.Refiltered rows rows' →
      Both (· = ·) (fun t t' => t'.scan o lines = t.scan o lines) (Table.ofRows flags rows) (Table.ofRows flags rows')) ∧
    (∀ flags j rows, Table.rowsOfJson j = .ok rows → Table.ofRows flags rows = .ok t → ∃ s, t.scan o lines = .ok s) ∧
    ∀ flags text, Table.ofText flags text = .ok t → ∃ s, t.scan o lines = .ok s := by
  refine ⟨?_, ?_, ?_, ?_, ?_⟩
  · intro e
    rw [scan_eq_error_iff]
    constructor
    · rintro ⟨r, hr⟩
      exact ⟨r, hr, r.line_eq⟩
    · rintro ⟨r, hr, -⟩
      exact ⟨r, hr⟩
  · intro t' h
    exact scan_refiltered h o lines
  · intro flags rows rows' h
    exact (ofRows_refiltered h flags).imp (fun _ _ he => he) fun _ _ hrules => scan_refiltered hrules o lines
  · intro flags j rows hrows ht
    exact scan_of_rowsOfJson hrows ht o lines
  · intro flags text ht
    obtain ⟨j, rows, -, hrows, ht⟩ := Table.ofText_eq_ok ht
    exact scan_of_rowsOfJson hrows ht o lines

def vetting (filter : Filter) : List Row :=
  [ { transition := .proceed, pattern := .text "(?P<word>[a-z]+)", filter },
    { pattern := .text "[a-z]+", path := some (.dotted "words[]"),
      filter := .function fun m _ => if m.whole = "no" then .error "unwanted" else .ok ⟨.str m.whole, none⟩ } ]

theorem scan_refusals_vetting : ∃ t t', Table.ofRows {} (vetting .captures) = .ok t ∧
    Table.ofRows {} (vetting (.function fun _ _ => .error "never asked")) = .ok t' ∧
    (∃ r : Refusal t {} ["yes", "no", "no"], r.error = ⟨1, 2, "unwanted"⟩ ∧ r.reading.line = "no") ∧
    t'.scan {} ["yes", "no", "no"] = .error ⟨1, 2, "unwanted"⟩ := by
  have hseen : (Table.ofRows {} (vetting .captures)).map (fun t =>
      (t.scan {} ["yes", "no", "no"]).map fun s => s.metrics.lines) = .ok (.error ⟨1, 2, "unwanted"⟩) := by
    decide +kernel
  obtain ⟨t, ht, hscan⟩ := map_eq_ok hseen
  have hfails : t.scan {} ["yes", "no", "no"] = .error ⟨1, 2, "unwanted"⟩ := map_eq_error_iff.mp hscan.symm
  obtain ⟨hiff, -, hrows, -⟩ := scan_refusals t {} ["yes", "no", "no"]
  obtain ⟨r, hr, hline⟩ := (hiff _).mp hfails
  have hbefore : r.before.length = 1 := Nat.succ.inj (congrArg ScanError.line hr)
  rw [hbefore] at hline
  have hrefiltered : List.Forall₂ Row.Refiltered (vetting .captures)
      (vetting (.function fun _ _ => .error "never asked")) :=
    .cons (Or.inr ⟨rfl, _, rfl⟩) (.cons (Or.inl rfl) .nil)
  rcases (hrows {} _ _ hrefiltered).outcome with ⟨e, e', he, -, -⟩ | ⟨t₀, t', ht₀, ht', hsame⟩
  · rw [ht] at he; cases he
  · obtain rfl : t = t₀ := by simpa [ht] using ht₀
    exact ⟨t, t', ht, ht', ⟨r, hr, (Option.some.inj hline).symm⟩, hsame.trans hfails⟩

end LineRules
