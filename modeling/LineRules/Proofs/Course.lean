/-
  LineRules.Proofs.Course — the course of a scan does not depend on what it stores.

  Two tables go the same course if their rules, one by one, admit the same states, match the same
  lines and have the same transitions (`Rule.SameCourse`); where they store and what, filter
  functions included, may differ. On each line the same rules are tried and fire, since neither
  depends on the store (`firedOf`, `triedOf`), so two scans that both succeed stay in the same
  state with the same counters from line to line (`Scan.SameCourse`). The trace is written and
  never read: leaving it out changes nothing else (`run_untraced`).
-/

import LineRules.Proofs.Dispatch
import Mathlib.Data.List.Forall2

namespace LineRules

/-- Rules that a scan treats alike: what they store may differ. -/
structure Rule.SameCourse (r r' : Rule) : Prop where
  guard : r.guard = r'.guard
  transition : r.transition = r'.transition
  found : ∀ line, (r.match? line).isSome = (r'.match? line).isSome

theorem Rule.SameCourse.of_pattern {r r' : Rule} (hguard : r.guard = r'.guard)
    (htransition : r.transition = r'.transition) (hpattern : r.pattern = r'.pattern)
    (hanchored : r.anchored = r'.anchored) : r.SameCourse r' := by
  refine ⟨hguard, htransition, fun line => ?_⟩
  rw [Rule.match?, Rule.match?, hpattern, hanchored]

/-! ## Rules of two tables, one by one -/

section Pairs

variable {α β : Type} {R : α → β → Prop} {p : α → Bool} {q : β → Bool} {l : List α} {l' : List β}

theorem forall₂_filter (h : List.Forall₂ R l l') (hpq : ∀ a b, R a b → p a = q b) :
    List.Forall₂ R (l.filter p) (l'.filter q) := by
  induction h with
  | nil => exact .nil
  | @cons a b _ _ hab _ ih =>
    rw [List.filter_cons, List.filter_cons, hpq a b hab]
    split
    · exact .cons hab ih
    · exact ih

theorem forall₂_through (h : List.Forall₂ R l l') (hpq : ∀ a b, R a b → p a = q b) :
    List.Forall₂ R (through p l) (through q l') := by
  induction h with
  | nil => exact .nil
  | @cons a b _ _ hab _ ih =>
    rw [through, through, hpq a b hab]
    split
    · exact .cons hab .nil
    · exact .cons hab ih

theorem map_eq_of_forall₂ {γ : Type} {f : α → γ} {g : β → γ} (h : List.Forall₂ R l l')
    (hfg : ∀ a b, R a b → f a = g b) : l.map f = l'.map g := by
  induction h with
  | nil => rfl
  | @cons a b _ _ hab _ ih => rw [List.map_cons, List.map_cons, hfg a b hab, ih]

theorem exists_of_forall₂ (h : List.Forall₂ R l l') {b : β} (hb : b ∈ l') : ∃ a ∈ l, R a b := by
  induction h with
  | nil => cases hb
  | cons hab _ ih =>
    rcases List.mem_cons.mp hb with rfl | hb
    · exact ⟨_, List.mem_cons_self, hab⟩
    · obtain ⟨a, ha, hab⟩ := ih hb
      exact ⟨a, List.mem_cons_of_mem _ ha, hab⟩

theorem forall₂_trans {γ : Type} {S : β → γ → Prop} {T : α → γ → Prop} {l'' : List γ} (h : List.Forall₂ R l l')
    (h' : List.Forall₂ S l' l'') (hT : ∀ a b c, R a b → S b c → T a c) : List.Forall₂ T l l'' := by
  induction h generalizing l'' with
  | nil => cases h'; exact .nil
  | cons hab _ ih =>
    cases h' with
    | cons hbc h' => exact .cons (hT _ _ _ hab hbc) (ih h')

end Pairs

section Rules

variable {R : Rule → Rule → Prop} (hR : ∀ r r', R r r' → r.SameCourse r') {rules rules' : List Rule}
variable (h : List.Forall₂ R rules rules') (state line : String)

include hR h

theorem forall₂_firedOf : List.Forall₂ R (firedOf state line rules) (firedOf state line rules') := by
  refine forall₂_through (forall₂_filter h fun r r' hr => ?_) fun r r' hr => ?_
  · rw [Rule.hits, Rule.hits, (hR r r' hr).guard, (hR r r' hr).found]
  · rw [Rule.closes, Rule.closes, (hR r r' hr).transition]

theorem forall₂_triedOf : List.Forall₂ R (triedOf state line rules) (triedOf state line rules') := by
  refine forall₂_through (forall₂_filter h fun r r' hr => ?_) fun r r' hr => ?_
  · rw [(hR r r' hr).guard]
  · rw [Rule.closes, Rule.closes, (hR r r' hr).found, (hR r r' hr).transition]

theorem lastTransition_firedOf :
    lastTransition (firedOf state line rules) = lastTransition (firedOf state line rules') := by
  have hmap := map_eq_of_forall₂ (f := (·.transition)) (g := (·.transition))
    (forall₂_firedOf hR h state line) fun r r' hr => (hR r r' hr).transition
  rw [lastTransition, lastTransition, ← List.getLast?_map, ← List.getLast?_map, hmap]

end Rules

/-! ## Rounds and records -/

/-- What is counted on a line are the rules that were tried and fired, not what they wrote. -/
theorem count_congr (m : Metrics) {r r' : Round} (htried : r.tried = r'.tried)
    (hfired : r.fired.map (·.rule) = r'.fired.map (·.rule)) : m.count r = m.count r' := by
  have hfold (fired : List Firing) (tallies : List Tally) : fired.foldl Metrics.countFired tallies =
      (fired.map (·.rule)).foldl (fun ts i => Metrics.countFired ts ⟨i, none⟩) tallies := by
    rw [List.foldl_map]; rfl
  have hempty : r.fired.isEmpty = r'.fired.isEmpty := by
    rw [← List.isEmpty_map, hfired, List.isEmpty_map]
  simp only [Metrics.count, htried, hempty, hfold, hfired]

/-- A record without the locations that were written. -/
def LineRecord.course (r : LineRecord) : LineRecord := { r with fired := r.fired.map fun f => ⟨f.rule, none⟩ }

theorem course_eq {a b : LineRecord} (hnumber : a.number = b.number) (hpreview : a.preview = b.preview)
    (hbefore : a.before = b.before) (hafter : a.after = b.after)
    (hfired : a.fired.map (·.rule) = b.fired.map (·.rule)) : a.course = b.course := by
  have hlocations (fired : List Firing) :
      (fired.map fun f => (⟨f.rule, none⟩ : Firing)) = (fired.map (·.rule)).map fun i => ⟨i, none⟩ := by
    rw [List.map_map]; rfl
  simp only [LineRecord.course, hlocations, hnumber, hpreview, hbefore, hafter, hfired]

/-! ## Two scans in step -/

/-- Scans that have gone the same course; their traces agree if `traced` says so. -/
structure Scan.SameCourse (traced : Bool) (s s' : Scan) : Prop where
  state : s.state = s'.state
  metrics : s.metrics = s'.metrics
  stopped : s.stopped = s'.stopped
  trace : traced = true → s.trace.map LineRecord.course = s'.trace.map LineRecord.course

section Scans

variable {t t' : Table} (h : List.Forall₂ (fun r r' => r.SameCourse r' ∧ r.index = r'.index) t.rules t'.rules)
variable {o o' : ScanOptions}

include h

theorem line_sameCourse {s s' u u' : Scan} {text : String} (hs : s.SameCourse (o.trace && o'.trace) s')
    (hu : s.line t o text = .ok u) (hu' : s'.line t' o' text = .ok u') :
    u.SameCourse (o.trace && o'.trace) u' := by
  obtain ⟨hstate, hstop⟩ := line_control hu
  obtain ⟨hstate', hstop'⟩ := line_control hu'
  obtain ⟨r, hr, rfl⟩ := line_eq_ok hu
  obtain ⟨r', hr', rfl⟩ := line_eq_ok hu'
  have hlast := lastTransition_firedOf (fun _ _ hr => hr.1) h s.state text
  have hfired : r.fired.map (·.rule) = r'.fired.map (·.rule) := by
    rw [(passed_fired (passed_of_tryRules hr)).1, (passed_fired (passed_of_tryRules hr')).1, ← hs.state]
    exact map_eq_of_forall₂ (forall₂_firedOf (fun _ _ hr => hr.1) h s.state text) fun _ _ hr => hr.2
  have htried : r.tried = r'.tried := by
    rw [passed_tried (passed_of_tryRules hr), passed_tried (passed_of_tryRules hr'), ← hs.state]
    exact map_eq_of_forall₂ (forall₂_triedOf (fun _ _ hr => hr.1) h s.state text) fun _ _ hr => hr.2
  have hnext : r.nextState s.state = r'.nextState s'.state := by
    refine hstate.trans (Eq.trans ?_ hstate'.symm)
    rw [← hs.state, stateAfter, stateAfter, hlast]
  refine ⟨hnext, by rw [hs.metrics, count_congr _ htried hfired], ?_, fun htraced => ?_⟩
  · refine Bool.eq_iff_iff.mpr (hstop.trans (Iff.trans ?_ hstop'.symm))
    rw [← hs.state, hlast]
  · have hrecord : (s.recordOf text r).course = (s'.recordOf text r').course :=
      course_eq (congrArg (·.lines + 1) hs.metrics) rfl hs.state hnext hfired
    simp only [Bool.and_eq_true] at htraced
    simp only [htraced.1, htraced.2, if_true, List.map_append, List.map_cons, List.map_nil,
      hs.trace (by simp [htraced]), hrecord]

theorem run_sameCourse {s s' u u' : Scan} {lines : List String} (hs : s.SameCourse (o.trace && o'.trace) s')
    (hu : s.run t o lines = .ok u) (hu' : s'.run t' o' lines = .ok u') :
    u.SameCourse (o.trace && o'.trace) u' := by
  induction lines generalizing s s' with
  | nil => cases hu; cases hu'; exact hs
  | cons text rest ih =>
    rw [Scan.run] at hu hu'
    cases hl : s.line t o text with
    | error e => rw [hl] at hu; cases hu
    | ok v =>
      cases hl' : s'.line t' o' text with
      | error e => rw [hl'] at hu'; cases hu'
      | ok v' =>
        have hv := line_sameCourse h hs hl hl'
        simp only [hl, hl', ← hv.stopped] at hu hu'
        split at hu
        · rw [if_pos ‹_›] at hu'
          cases hu; cases hu'; exact hv
        · rw [if_neg ‹_›] at hu'
          exact ih hv hu hu'

end Scans

/-! ## Without the trace -/

def Scan.untraced (s : Scan) : Scan := { s with trace := [] }

/-- A line leaves the same scan behind it, or the same error, whether a trace is kept or not. -/
theorem line_untraced (t : Table) (o : ScanOptions) (s : Scan) (text : String) :
    s.untraced.line t { o with trace := false } text = (s.line t o text).map Scan.untraced := by
  have htry : tryRules o.strip s.untraced.state text t.rules s.untraced.store =
      tryRules o.strip s.state text t.rules s.store := rfl
  simp only [Scan.line, htry]
  cases tryRules o.strip s.state text t.rules s.store with
  | error e => rfl
  | ok r => rfl

theorem run_untraced (t : Table) (o : ScanOptions) (s : Scan) (lines : List String) :
    s.untraced.run t { o with trace := false } lines = (s.run t o lines).map Scan.untraced := by
  induction lines generalizing s with
  | nil => rfl
  | cons text rest ih =>
    rw [Scan.run, Scan.run, line_untraced]
    cases s.line t o text with
    | error e => rfl
    | ok u =>
      simp only [Except.map, ih]
      have hstopped : u.untraced.stopped = u.stopped := rfl
      rw [hstopped]
      split <;> rfl

theorem scan_untraced (t : Table) (o : ScanOptions) (lines : List String) :
    t.scan { o with trace := false } lines = (t.scan o lines).map Scan.untraced :=
  run_untraced t o (Scan.start t) lines

/-! ## Rules and the rows they come from -/

def Rule.OfRow (flags : Pattern.Flags) (row : Row) (r : Rule) : Prop := ∃ index, Rule.ofRow flags index row = .ok r

theorem forall₂_rulesFrom {flags : Pattern.Flags} {k : Nat} {rows : List Row} {rules : List Rule}
    (h : Table.rulesFrom flags k rows = .ok rules) : List.Forall₂ (Rule.OfRow flags) rows rules := by
  induction rows generalizing k rules with
  | nil => cases h; exact .nil
  | cons row rest ih =>
    simp only [Table.rulesFrom] at h
    cases hrow : Rule.ofRow flags k row with
    | error e => simp [hrow] at h
    | ok r =>
      cases hrest : Table.rulesFrom flags (k + 1) rest with
      | error e => simp [hrow, hrest] at h
      | ok more =>
        simp only [hrow, hrest, Except.ok.injEq] at h
        subst h
        exact .cons ⟨k, hrow⟩ (ih hrest)

theorem forall₂_ofRows {flags : Pattern.Flags} {rows : List Row} {t : Table} (h : Table.ofRows flags rows = .ok t) :
    List.Forall₂ (Rule.OfRow flags) rows t.rules := by
  unfold Table.ofRows at h
  split at h
  · cases h
  · split at h
    · cases h
    · rename_i rules hr
      cases h
      exact forall₂_rulesFrom hr

theorem exists_row {flags : Pattern.Flags} {rows : List Row} {t : Table} (h : Table.ofRows flags rows = .ok t)
    {r : Rule} (hr : r ∈ t.rules) : ∃ row ∈ rows, Rule.OfRow flags row r :=
  exists_of_forall₂ (forall₂_ofRows h) hr

/-- What a rule takes over from its row; its pattern and its path are made from those of the row. -/
theorem Rule.OfRow.fields {flags : Pattern.Flags} {row : Row} {r : Rule} (h : Rule.OfRow flags row r) :
    r.guard = row.guard ∧ r.transition = row.transition ∧ r.filter = row.filter ∧
      Rule.makePattern flags row.pattern = .ok (r.pattern, r.anchored) ∧ Rule.makePath row.path = .ok r.path := by
  obtain ⟨index, h⟩ := h
  unfold Rule.ofRow at h
  split at h
  · cases h
  · rename_i pattern anchored hpattern
    split at h
    · cases h
    · rename_i path hpath
      cases h; exact ⟨rfl, rfl, rfl, hpattern, hpath⟩

structure Row.SameCourse (row row' : Row) : Prop where
  guard : row.guard = row'.guard
  transition : row.transition = row'.transition
  pattern : row.pattern = row'.pattern

theorem ofRow_sameCourse {flags : Pattern.Flags} {row row' : Row} {r r' : Rule} (h : row.SameCourse row')
    (hr : Rule.OfRow flags row r) (hr' : Rule.OfRow flags row' r') : r.SameCourse r' := by
  obtain ⟨hg, ht, -, hp, -⟩ := hr.fields
  obtain ⟨hg', ht', -, hp', -⟩ := hr'.fields
  rw [h.pattern, hp', Except.ok.injEq, Prod.mk.injEq] at hp
  exact .of_pattern (hg.trans (h.guard.trans hg'.symm)) (ht.trans (h.transition.trans ht'.symm)) hp.1.symm hp.2.symm

/-- What two rows have in common is passed on to the rules that are made from them. -/
theorem ofRows_related {flags : Pattern.Flags} {rows rows' : List Row} {t t' : Table} {R : Row → Row → Prop}
    {S : Rule → Rule → Prop} (h : List.Forall₂ R rows rows') (ht : Table.ofRows flags rows = .ok t)
    (ht' : Table.ofRows flags rows' = .ok t')
    (hS : ∀ row row' r r', R row row' → Rule.OfRow flags row r → Rule.OfRow flags row' r' → S r r') :
    List.Forall₂ S t.rules t'.rules := by
  have hrows := forall₂_trans (T := fun row r' => ∃ row', R row row' ∧ Rule.OfRow flags row' r') h
    (forall₂_ofRows ht') fun _ row' _ hrow hr' => ⟨row', hrow, hr'⟩
  exact forall₂_trans (forall₂_ofRows ht).flip hrows fun _ _ _ hr ⟨_, hrow, hr'⟩ => hS _ _ _ _ hrow hr hr'

theorem ofRows_sameCourse {flags : Pattern.Flags} {rows rows' : List Row} {t t' : Table}
    (h : List.Forall₂ Row.SameCourse rows rows') (ht : Table.ofRows flags rows = .ok t)
    (ht' : Table.ofRows flags rows' = .ok t') : List.Forall₂ Rule.SameCourse t.rules t'.rules :=
  ofRows_related h ht ht' fun _ _ _ _ => ofRow_sameCourse

/-! ## Tables of the same course -/

theorem forall₂_index {R : Rule → Rule → Prop} {rules rules' : List Rule} (h : List.Forall₂ R rules rules')
    (hindex : rules.map (·.index) = rules'.map (·.index)) :
    List.Forall₂ (fun r r' => R r r' ∧ r.index = r'.index) rules rules' := by
  induction h with
  | nil => exact .nil
  | cons hr _ ih =>
    rw [List.map_cons, List.map_cons, List.cons.injEq] at hindex
    exact .cons ⟨hr, hindex.1⟩ (ih hindex.2)

/-- Scans with tables whose rules admit the same states, match the same lines and have the same
    transitions count the same, move through the same states and end alike, whatever their rules
    store; with traces, the same rules fire on each line. The trace acts on nothing else: without
    it a scan has the same result, or fails with the same error. -/
theorem scan_course {flags flags' : Pattern.Flags} {rows rows' : List Row} {t t' : Table}
    (ht : Table.ofRows flags rows = .ok t) (ht' : Table.ofRows flags' rows' = .ok t')
    (h : List.Forall₂ Rule.SameCourse t.rules t'.rules) (o o' : ScanOptions) (lines : List String) :
    (∀ s s', t.scan o lines = .ok s → t'.scan o' lines = .ok s' →
      s.metrics = s'.metrics ∧ s.state = s'.state ∧ s.stopped = s'.stopped ∧
      (o.trace = true → o'.trace = true → s.trace.map LineRecord.course = s'.trace.map LineRecord.course)) ∧
    ∀ trace, (t.scan { o with trace } lines).map Scan.untraced = (t.scan o lines).map Scan.untraced := by
  have hlength : t.rules.length = t'.rules.length := h.length_eq
  have hindex : t.rules.map (·.index) = t'.rules.map (·.index) := by
    rw [indices_of_ofRows ht, indices_of_ofRows ht', hlength]
  have hrules := forall₂_index h hindex
  constructor
  · intro s s' hs hs'
    have hstart : (Scan.start t).SameCourse (o.trace && o'.trace) (Scan.start t') := by
      refine ⟨rfl, ?_, rfl, fun _ => rfl⟩
      simp only [Scan.start, List.map_const', hlength]
    obtain ⟨hstate, hmetrics, hstopped, htrace⟩ := run_sameCourse hrules hstart hs hs'
    exact ⟨hmetrics, hstate, hstopped, fun ho ho' => htrace (by rw [ho, ho']; rfl)⟩
  · intro trace
    exact (scan_untraced t { o with trace } lines).symm.trans (scan_untraced t o lines)

/-- The rules of `deferring`, storing what they match in a buffer, with a function that empties
    the context each time. -/
def emptying : List Row :=
  deferring.map fun row =>
    { row with path := some (.dotted ">rec.a"), filter := .function fun m _ => .ok ⟨.str m.whole, some .empty⟩ }

theorem scan_course_emptying :
    ∃ t t' s s', Table.ofRows {} deferring = .ok t ∧ Table.ofRows {} emptying = .ok t' ∧
      t.scan { trace := true } ["ab", "x", "ab"] = .ok s ∧
      t'.scan { strip := false, trace := true } ["ab", "x", "ab"] = .ok s' ∧
      s.store.context.entries.length = 3 ∧ s'.store.context.entries.length = 1 ∧
      s'.metrics = s.metrics ∧ s.metrics.tried = 8 ∧ s'.state = "next" ∧
      s'.trace.map LineRecord.course = s.trace.map LineRecord.course := by
  have hseen : (Table.ofRows {} deferring).map (fun t =>
      (t.scan { trace := true } ["ab", "x", "ab"]).map fun s =>
        (s.store.context.entries.length, s.metrics.tried, s.state)) = .ok (.ok (3, 8, "next")) := by decide +kernel
  have hseen' : (Table.ofRows {} emptying).map (fun t =>
      (t.scan { strip := false, trace := true } ["ab", "x", "ab"]).map fun s => s.store.context.entries.length) =
      .ok (.ok 1) := by decide +kernel
  obtain ⟨t, ht, hscan⟩ := map_eq_ok hseen
  obtain ⟨t', ht', hscan'⟩ := map_eq_ok hseen'
  obtain ⟨s, hs, hsame⟩ := map_eq_ok hscan.symm
  obtain ⟨s', hs', hsame'⟩ := map_eq_ok hscan'.symm
  simp only [Prod.mk.injEq] at hsame
  have hrows : List.Forall₂ Row.SameCourse deferring emptying := by
    rw [emptying, List.forall₂_map_right_iff]
    exact List.forall₂_same.mpr fun _ _ => ⟨rfl, rfl, rfl⟩
  obtain ⟨hcourse, -⟩ := scan_course ht ht' (ofRows_sameCourse hrows ht ht') { trace := true }
    { strip := false, trace := true } ["ab", "x", "ab"]
  obtain ⟨hmetrics, hstate, -, htrace⟩ := hcourse s s' hs hs'
  exact ⟨t, t', s, s', ht, ht', hs, hs', hsame.1.symm, hsame'.symm, hmetrics.symm, hsame.2.1.symm,
    hstate ▸ hsame.2.2.symm, (htrace rfl rfl).symm⟩

end LineRules
