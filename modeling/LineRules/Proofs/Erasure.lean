/-
  LineRules.Proofs.Erasure — lines on which no rule fires can be left out.

  A line on which no rule fires leaves the store and the state as they are (`line_unmatched`); what
  remains of it are counters and a record without fires. Lines on which rules fire do the same to two
  scans that differ in no more than that (`Scan.SameEffect`, `line_sameEffect`). So the scan of the
  lines that were matched keeps in step with the scan of all lines (`run_matchedLines`), reads each of
  them in the same state (`readings_matchedLines`) with the same outcome (`round_matchedLines`), and
  ends alike.
-/

import LineRules.Proofs.Readings

namespace LineRules

/-- The lines that are consumed from a state on and on which a rule fires. -/
def Table.matchedLines (t : Table) (state : String) (lines : List String) : List String :=
  ((t.readings state lines).filter (Reading.matched t.rules)).map (·.line)

/-- A record without the number of its line. -/
def LineRecord.unnumbered (r : LineRecord) : LineRecord := { r with number := 0 }

variable {t : Table} {o : ScanOptions}

/-! ## A line on which no rule fires -/

theorem firedOf_eq_nil_iff {state line : String} {rules : List Rule} :
    firedOf state line rules = [] ↔ ∀ rule ∈ rules, rule.hits state line = false := by
  have hthrough {l : List Rule} : through Rule.closes l = [] ↔ l = [] := by
    cases l with
    | nil => exact Iff.rfl
    | cons rule l => simp only [through]; split <;> simp
  rw [firedOf, hthrough, List.filter_eq_nil_iff]
  simp only [Bool.not_eq_true]

theorem matched_eq_false_iff {rules : List Rule} {r : Reading} :
    r.matched rules = false ↔ firedOf r.state r.line rules = [] := by
  simp [Reading.matched, Reading.fired]

theorem tryRules_unmatched (strip : Bool) {state line : String} {rules : List Rule}
    (h : ∀ rule ∈ rules, rule.hits state line = false) (s : Store) :
    ∃ r, tryRules strip state line rules s = .ok r ∧ r.store = s ∧ r.fired = [] ∧ r.transition = none := by
  induction rules with
  | nil => exact ⟨_, rfl, rfl, rfl, rfl⟩
  | cons rule rest ih =>
    obtain ⟨r, hr, hstore, hfired, hlast⟩ := ih fun rule hrule => h rule (List.mem_cons_of_mem _ hrule)
    by_cases ha : rule.guard.admits state = true
    · have hmiss : rule.match? line = none := by
        have hhits := h rule List.mem_cons_self
        rw [Rule.hits, ha, Bool.true_and] at hhits
        simpa using hhits
      refine ⟨r.afterMiss rule.index, ?_, hstore, hfired, hlast⟩
      simp only [tryRules, if_pos ha, hmiss, hr, Except.map]
    · refine ⟨r, ?_, hstore, hfired, hlast⟩
      rw [tryRules, if_neg ha, hr]

theorem line_unmatched (o : ScanOptions) (s : Scan) {text : String}
    (h : ∀ rule ∈ t.rules, rule.hits s.state text = false) :
    ∃ u, s.line t o text = .ok u ∧ u.store = s.store ∧ u.state = s.state ∧ u.stopped = false ∧
      u.trace.filter LineRecord.matched = s.trace.filter LineRecord.matched := by
  obtain ⟨r, hr, hstore, hfired, hlast⟩ := tryRules_unmatched o.strip h s.store
  refine ⟨_, line_of_tryRules hr, hstore, ?_, ?_, ?_⟩
  · simp only [Round.nextState, hlast]
  · simp [Round.stops, hlast]
  · dsimp only
    split
    · simp [LineRecord.matched, Scan.recordOf, hfired]
    · rfl

/-! ## Two scans in step -/

/-- The second scan has done what the first one did, without the lines on which no rule fired. -/
structure Scan.SameEffect (s s' : Scan) : Prop where
  state : s.state = s'.state
  store : s.store = s'.store
  stopped : s.stopped = s'.stopped
  trace : (s.trace.filter LineRecord.matched).map LineRecord.unnumbered = s'.trace.map LineRecord.unnumbered

theorem line_sameEffect {s s' u : Scan} {text : String} (hs : s.SameEffect s')
    (hmatched : firedOf s.state text t.rules ≠ []) (hl : s.line t o text = .ok u) :
    ∃ u', s'.line t o text = .ok u' ∧ u.SameEffect u' := by
  obtain ⟨r, hr, rfl⟩ := line_eq_ok hl
  have hfired : r.fired ≠ [] := by
    have hrules := (passed_fired (passed_of_tryRules hr)).1
    intro hnil
    rw [hnil, List.map_nil] at hrules
    exact hmatched (List.map_eq_nil_iff.mp hrules.symm)
  have hrecord : (s.recordOf text r).unnumbered = (s'.recordOf text r).unnumbered := by
    simp only [LineRecord.unnumbered, Scan.recordOf, hs.state]
  have hr' : tryRules o.strip s'.state text t.rules s'.store = .ok r := hs.state ▸ hs.store ▸ hr
  refine ⟨_, line_of_tryRules hr', ?_, rfl, rfl, ?_⟩
  · simp only [hs.state]
  · dsimp only
    split
    · have hkept : [s.recordOf text r].filter LineRecord.matched = [s.recordOf text r] :=
        List.filter_cons_of_pos (by simp [LineRecord.matched, Scan.recordOf, hfired])
      rw [List.filter_append, hkept, List.map_append, List.map_append, hs.trace, List.map_singleton,
        List.map_singleton, hrecord]
    · exact hs.trace

theorem matchedLines_of_line {s u : Scan} {text : String} (hl : s.line t o text = .ok u) (rest : List String) :
    t.matchedLines s.state (text :: rest) =
      (if firedOf s.state text t.rules = [] then [] else [text]) ++
        if u.stopped = true then [] else t.matchedLines u.state rest := by
  rw [Table.matchedLines, readings_of_line hl, List.filter_cons]
  by_cases hfired : firedOf s.state text t.rules = []
  · rw [if_neg (by simpa using matched_eq_false_iff.mpr hfired), if_pos hfired]
    split <;> rfl
  · have hmatched : Reading.matched t.rules ⟨s.state, text⟩ = true := by
      rw [← Bool.not_eq_false, matched_eq_false_iff]
      exact hfired
    rw [if_pos hmatched, if_neg hfired]
    split <;> rfl

theorem run_matchedLines {s s' u : Scan} {lines : List String} (h : s.run t o lines = .ok u) (hs : s.SameEffect s')
    (hgo : s.stopped = false) : ∃ u', s'.run t o (t.matchedLines s.state lines) = .ok u' ∧ u.SameEffect u' := by
  replace h := ran_of_run h
  induction h generalizing s' with
  | done s => exact ⟨s', rfl, hs⟩
  | @stop s u text rest hl hstop =>
    have hmatched : firedOf s.state text t.rules ≠ [] := by
      intro hnil
      have hlast := (line_control hl).2.mp hstop
      rw [hnil] at hlast
      cases hlast
    obtain ⟨u', hl', hu⟩ := line_sameEffect hs hmatched hl
    refine ⟨u', ?_, hu⟩
    rw [matchedLines_of_line hl, if_neg hmatched, if_pos hstop]
    exact run_of_ran (.stop hl' (hu.stopped ▸ hstop))
  | @step s u s' text rest hl hnext _ ih =>
    rw [matchedLines_of_line hl, hnext, if_neg Bool.false_ne_true]
    by_cases hmatched : firedOf s.state text t.rules = []
    · -- the line is left out, and the first scan is where it was
      obtain ⟨v, hv, hstore, hstate, hstopped, htrace⟩ := line_unmatched o s (firedOf_eq_nil_iff.mp hmatched)
      obtain rfl : u = v := by simpa [hl] using hv
      rw [if_pos hmatched, List.nil_append]
      exact ih ⟨hstate.trans hs.state, hstore.trans hs.store, hstopped.trans (hgo.symm.trans hs.stopped),
        (congrArg _ htrace).trans hs.trace⟩ hnext
    · obtain ⟨u', hl', hu⟩ := line_sameEffect hs hmatched hl
      obtain ⟨v, hv, hsame⟩ := ih hu hnext
      refine ⟨v, ?_, hsame⟩
      rw [if_neg hmatched, List.singleton_append]
      exact run_of_ran (.step hl' (hu.stopped ▸ hnext) (ran_of_run hv))

/-! ## What is read and fired -/

theorem readings_matchedLines (t : Table) (state : String) (lines : List String) :
    t.readings state (t.matchedLines state lines) = (t.readings state lines).filter (Reading.matched t.rules) := by
  induction lines generalizing state with
  | nil => rfl
  | cons line rest ih =>
    rw [Table.matchedLines, Table.readings, List.filter_cons]
    by_cases hmatched : Reading.matched t.rules ⟨state, line⟩ = true
    · rw [if_pos hmatched, List.map_cons, Table.readings]
      split
      · rfl
      · exact congrArg _ (ih _)
    · have hnil : firedOf state line t.rules = [] := matched_eq_false_iff.mp (by simpa using hmatched)
      rw [if_neg hmatched, hnil, if_neg (by simp [lastTransition])]
      exact ih state

/-- Readings without a match add nothing to what is made of the rules that fire. -/
theorem flatMap_filter_matched {α : Type} {rules : List Rule} {f : Reading → List α}
    (hf : ∀ r, firedOf r.state r.line rules = [] → f r = []) (rs : List Reading) :
    (rs.filter (Reading.matched rules)).flatMap f = rs.flatMap f := by
  induction rs with
  | nil => rfl
  | cons r rs ih =>
    rw [List.filter_cons, List.flatMap_cons, ← ih]
    by_cases hmatched : r.matched rules = true
    · rw [if_pos hmatched, List.flatMap_cons]
    · rw [if_neg hmatched, hf r (matched_eq_false_iff.mp (by simpa using hmatched)), List.nil_append]

theorem fires_matchedLines (t : Table) (state : String) (lines : List String) :
    t.fires state (t.matchedLines state lines) = t.fires state lines := by
  rw [fires_eq_flatMap, fires_eq_flatMap, readings_matchedLines]
  exact flatMap_filter_matched (fun r hnil => by rw [firesOn, hnil]; rfl) _

theorem matchedLines_sublist (t : Table) (state : String) (lines : List String) :
    (t.matchedLines state lines).Sublist lines :=
  (List.filter_sublist.map _).trans (readings_prefix_lines t state lines).sublist

/-- When a line is read, the scan of all lines and the scan of the matched ones have come to the same
    state and store, and so the rules do the same on it. -/
theorem round_matchedLines {lines : List String} {s : Scan} (h : t.scan o lines = .ok s) {before after : List Reading}
    {r : Reading} (hr : t.readings "top" lines = before ++ r :: after) :
    ∃ u u' round, t.scan o (before.map (·.line)) = .ok u ∧
      t.scan o ((before.filter (Reading.matched t.rules)).map (·.line)) = .ok u' ∧
      tryRules o.strip u.state r.line t.rules u.store = .ok round ∧
      tryRules o.strip u'.state r.line t.rules u'.store = .ok round ∧
      round.fired.map (·.rule) = (r.fired t.rules).map (·.index) := by
  obtain ⟨u, v, hu, -, hstate, hl, -⟩ := run_reading h rfl hr
  obtain ⟨u', hu', hsame⟩ := run_matchedLines hu ⟨rfl, rfl, rfl, rfl⟩ rfl
  have hlines : t.matchedLines "top" (before.map (·.line)) =
      (before.filter (Reading.matched t.rules)).map (·.line) := by rw [Table.matchedLines, readings_before hr]
  obtain ⟨round, hround, -⟩ := line_eq_ok hl
  refine ⟨u, u', round, hu, hlines ▸ hu', hround, hsame.state ▸ hsame.store ▸ hround, ?_⟩
  rw [(passed_fired (passed_of_tryRules hround)).1, hstate]
  rfl

/-- Scan only the lines on which a rule fired: the scan succeeds, writes the same and ends in the same
    state and in the same way, and every one of its lines is a match. It reads each line in the state in
    which the scan of all lines read it, and the same rules fire, in the same places. The other lines
    change neither store nor state. -/
theorem scan_matched_only {t : Table} {o : ScanOptions} {lines : List String} {s : Scan}
    (h : t.scan o lines = .ok s) :
    (t.matchedLines "top" lines).Sublist lines ∧
    (∃ s', t.scan o (t.matchedLines "top" lines) = .ok s' ∧ s'.store = s.store ∧ s'.result = s.result ∧
      s'.state = s.state ∧ s'.stopped = s.stopped ∧ s'.metrics.matchedLines = s.metrics.matchedLines ∧
      s'.metrics.tallies.map (·.fired) = s.metrics.tallies.map (·.fired) ∧
      s'.metrics.lines = s'.metrics.matchedLines ∧
      s'.trace.map LineRecord.unnumbered = (s.trace.filter LineRecord.matched).map LineRecord.unnumbered) ∧
    t.readings "top" (t.matchedLines "top" lines) = (t.readings "top" lines).filter (Reading.matched t.rules) ∧
    t.fires "top" (t.matchedLines "top" lines) = t.fires "top" lines ∧
    (∀ before r after, t.readings "top" lines = before ++ r :: after →
      ∃ u u' round, t.scan o (before.map (·.line)) = .ok u ∧
        t.scan o ((before.filter (Reading.matched t.rules)).map (·.line)) = .ok u' ∧
        tryRules o.strip u.state r.line t.rules u.store = .ok round ∧
        tryRules o.strip u'.state r.line t.rules u'.store = .ok round ∧
        round.fired.map (·.rule) = (r.fired t.rules).map (·.index)) ∧
    ∀ (u : Scan) (text : String), (∀ rule ∈ t.rules, rule.hits u.state text = false) →
      ∃ v, u.line t o text = .ok v ∧ v.store = u.store ∧ v.state = u.state ∧ v.stopped = false := by
  have hstart : (Scan.start t).SameEffect (Scan.start t) := ⟨rfl, rfl, rfl, rfl⟩
  obtain ⟨s', hs', hsame⟩ := run_matchedLines h hstart rfl
  have hreadings := readings_matchedLines t "top" lines
  have hcounted : Counted t.rules (Scan.start t).metrics (t.readings "top" lines) s.metrics := run_counted h
  have hcounted' : Counted t.rules (Scan.start t).metrics (t.readings "top" (t.matchedLines "top" lines)) s'.metrics :=
    run_counted hs'
  rw [hreadings] at hcounted'
  refine ⟨matchedLines_sublist t "top" lines, ⟨s', hs', hsame.store.symm, ?_, hsame.state.symm, hsame.stopped.symm,
    ?_, ?_, ?_, hsame.trace.symm⟩, hreadings, fires_matchedLines t "top" lines,
    fun before r after hr => round_matchedLines h hr, fun u text hno => ?_⟩
  · rw [Scan.result, Scan.result, hsame.store]
  · rw [hcounted'.matchedLines, hcounted.matchedLines, List.countP_filter]
    simp
  · have hfired : ((t.readings "top" lines).filter (Reading.matched t.rules)).flatMap (Reading.fired t.rules) =
        (t.readings "top" lines).flatMap (Reading.fired t.rules) := flatMap_filter_matched (fun _ hnil => hnil) _
    refine List.ext_getElem? fun i => ?_
    rw [List.getElem?_map, List.getElem?_map, hcounted'.tallies, hcounted.tallies, hfired, Option.map_map,
      Option.map_map]
    rfl
  · rw [hcounted'.lines, hcounted'.matchedLines, List.countP_filter]
    simp [Scan.start, List.countP_eq_length_filter]
  · obtain ⟨v, hv, hstore, hstate, hstopped, -⟩ := line_unmatched o u hno
    exact ⟨v, hv, hstore, hstate, hstopped⟩

/-- Blank lines and lines that only the other state knows are noise between pairs; `end` ends the scan. -/
def sparse : List Row :=
  [ { guard := .states ["top"], transition := .goto "in", pattern := .text "in" },
    { guard := .states ["in"], pattern := .text "(?P<k>[a-z])=(?P<v>[0-9])", path := some (.dotted "seen.{k}"),
      filter := .template "{v}" },
    { transition := .stop, pattern := .text "end" } ]

theorem scan_matched_only_sparse :
    ∃ t s s', Table.ofRows {} sparse = .ok t ∧
      t.scan { trace := true } ["a=1", "in", "", "a=2", "in", "end", "b=3"] = .ok s ∧
      t.scan { trace := true } ["in", "a=2", "end"] = .ok s' ∧ s.metrics.lines = 6 ∧ s'.metrics.lines = 3 ∧
      s.metrics.tried = 10 ∧ s'.metrics.tried = 4 ∧ s'.result = s.result ∧ s'.stopped = s.stopped ∧
      s'.trace.map LineRecord.unnumbered = (s.trace.filter LineRecord.matched).map LineRecord.unnumbered := by
  have hseen : (Table.ofRows {} sparse).map (fun t =>
      ((t.scan { trace := true } ["a=1", "in", "", "a=2", "in", "end", "b=3"]).map fun s =>
          (s.metrics.lines, s.metrics.tried),
        (t.scan { trace := true } ["in", "a=2", "end"]).map fun s => (s.metrics.lines, s.metrics.tried),
        t.matchedLines "top" ["a=1", "in", "", "a=2", "in", "end", "b=3"])) =
      .ok (.ok (6, 10), .ok (3, 4), ["in", "a=2", "end"]) := by decide +kernel
  obtain ⟨t, ht, hvalues⟩ := map_eq_ok hseen
  simp only [Prod.mk.injEq] at hvalues
  obtain ⟨hscan, hscan', hlines⟩ := hvalues
  obtain ⟨s, hs, hcounts⟩ := map_eq_ok hscan.symm
  obtain ⟨s', hs', hcounts'⟩ := map_eq_ok hscan'.symm
  rw [Prod.mk.injEq] at hcounts hcounts'
  obtain ⟨-, ⟨u, hu, -, hresult, -, hstopped, -, -, -, htrace⟩, -⟩ := scan_matched_only hs
  rw [← hlines, hs', Except.ok.injEq] at hu
  subst hu
  exact ⟨t, s, s', ht, hs, hs', hcounts.1.symm, hcounts'.1.symm, hcounts.2.symm, hcounts'.2.symm, hresult, hstopped,
    htrace⟩

end LineRules
