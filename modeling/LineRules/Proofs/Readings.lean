/-
  LineRules.Proofs.Readings — the lines that a scan consumes.

  A scan reads lines one after another, each in the state that the one before it led to, up to one
  on which a rule ends the scan (`Table.readings`). `Ran` says once what going on by lines can do, one
  constructor for each way, and `Counted` what the lines that were read add to the counters; so what a
  scan counts is told by its readings alone (`run_counted`), and each reading is one that the scan makes
  (`run_reading`).

  A scan of more lines is the scan of the first ones, gone on with the others unless it has ended
  (`run_append`). So lines that come later change nothing about an end or a failure, and a failure is
  numbered by the place of its line (`scan_append`).
-/

import LineRules.Proofs.Buffers

namespace LineRules

structure Reading where
  state : String
  line : String
  deriving DecidableEq, Repr

namespace Reading

def fired (rules : List Rule) (r : Reading) : List Rule := firedOf r.state r.line rules

def tried (rules : List Rule) (r : Reading) : List Rule := triedOf r.state r.line rules

def matched (rules : List Rule) (r : Reading) : Bool := !(r.fired rules).isEmpty

def EndsBy (rules : List Rule) (r : Reading) (rule : Rule) : Prop :=
  (r.fired rules).getLast? = some rule ∧ rule.transition = .stop

end Reading

def LineRecord.matched (r : LineRecord) : Bool := !r.fired.isEmpty

/-- The lines that are consumed from a state on: those up to the first that ends the scan. -/
def Table.readings (t : Table) (state : String) : List String → List Reading
  | [] => []
  | line :: rest =>
    ⟨state, line⟩ ::
      if lastTransition (firedOf state line t.rules) = some .stop then []
      else t.readings (stateAfter state (firedOf state line t.rules)) rest

variable {t : Table} {o : ScanOptions}

theorem readings_prefix_lines (t : Table) (state : String) (lines : List String) :
    (t.readings state lines).map (·.line) <+: lines := by
  induction lines generalizing state with
  | nil => exact List.prefix_rfl
  | cons line rest ih =>
    rw [Table.readings, List.map_cons, List.prefix_cons_inj]
    split
    · exact List.nil_prefix
    · exact ih _

/-- The lines in front of one that is consumed are read as they were. -/
theorem readings_before {state : String} {lines : List String} {before after : List Reading} {r : Reading}
    (h : t.readings state lines = before ++ r :: after) : t.readings state (before.map (·.line)) = before := by
  induction before generalizing state lines with
  | nil => rfl
  | cons first before ih =>
    cases lines with
    | nil => cases h
    | cons line rest =>
      obtain ⟨rfl, hbefore⟩ := List.cons.inj h
      by_cases hlast : lastTransition (firedOf state line t.rules) = some .stop
      · rw [if_pos hlast] at hbefore
        simp at hbefore
      · rw [if_neg hlast] at hbefore
        rw [List.map_cons, Table.readings, if_neg hlast, ih hbefore]

/-- The fires of a scan are those on the lines that it consumes. -/
theorem fires_eq_flatMap (t : Table) (state : String) (lines : List String) :
    t.fires state lines = (t.readings state lines).flatMap fun r => firesOn r.state r.line t.rules := by
  induction lines generalizing state with
  | nil => rfl
  | cons line rest ih =>
    rw [Table.fires, Table.readings, List.flatMap_cons]
    split
    · rfl
    · rw [ih]

/-- The rules of the fires on lines are those that fire on the readings. -/
theorem rules_fires (t : Table) (state : String) (lines : List String) :
    (t.fires state lines).map (·.rule) = (t.readings state lines).flatMap (Reading.fired t.rules) := by
  have hline (state line : String) : (firesOn state line t.rules).map (·.rule) = firedOf state line t.rules := by
    have hsome : ∀ rule ∈ firedOf state line t.rules,
        (((rule.match? line).map fun m => (⟨rule, state, m⟩ : Fire)).map (·.rule)) = some rule := by
      intro rule hrule
      obtain ⟨m, hm⟩ := exists_match_of_mem_firedOf hrule
      rw [hm]
      rfl
    rw [firesOn, List.map_filterMap, List.filterMap_congr hsome, List.filterMap_some]
  rw [fires_eq_flatMap, List.map_flatMap]
  simp only [hline]
  rfl

theorem readings_of_line {s u : Scan} {text : String} (h : s.line t o text = .ok u) (rest : List String) :
    t.readings s.state (text :: rest) =
      ⟨s.state, text⟩ :: if u.stopped = true then [] else t.readings u.state rest := by
  obtain ⟨hstate, hstop⟩ := line_control h
  rw [Table.readings, ← hstate]
  by_cases hs : u.stopped = true
  · rw [if_pos (hstop.mp hs), if_pos hs]
  · rw [if_neg fun hlast => hs (hstop.mpr hlast), if_neg hs]

/-! ## What going on by lines can do -/

inductive Ran (t : Table) (o : ScanOptions) : Scan → List String → Scan → Prop
  | done (s : Scan) : Ran t o s [] s
  | stop {s u : Scan} {text : String} {rest : List String} :
      s.line t o text = .ok u → u.stopped = true → Ran t o s (text :: rest) u
  | step {s u s' : Scan} {text : String} {rest : List String} :
      s.line t o text = .ok u → u.stopped = false → Ran t o u rest s' → Ran t o s (text :: rest) s'

theorem ran_of_run {s s' : Scan} {lines : List String} (h : s.run t o lines = .ok s') : Ran t o s lines s' := by
  induction lines generalizing s with
  | nil => cases h; exact .done _
  | cons text rest ih =>
    rw [Scan.run] at h
    cases hl : s.line t o text with
    | error e => rw [hl] at h; cases h
    | ok u =>
      simp only [hl] at h
      by_cases hs : u.stopped = true
      · rw [if_pos hs] at h
        cases h; exact .stop hl hs
      · rw [if_neg hs] at h
        exact .step hl (by simpa using hs) (ih h)

theorem run_of_ran {s s' : Scan} {lines : List String} (h : Ran t o s lines s') : s.run t o lines = .ok s' := by
  induction h with
  | done s => rfl
  | stop hl hs => simp only [Scan.run, hl, if_pos hs]
  | step hl hs _ ih => simp only [Scan.run, hl, hs, Bool.false_eq_true, if_false]; exact ih

/-! ## Counters -/

/-- The second counters are the first ones after these readings. -/
structure Counted (rules : List Rule) (m : Metrics) (rs : List Reading) (m' : Metrics) : Prop where
  lines : m'.lines = m.lines + rs.length
  matchedLines : m'.matchedLines = m.matchedLines + rs.countP (Reading.matched rules)
  tried : m'.tried = m.tried + (rs.flatMap (Reading.tried rules)).length
  tallies : ∀ i : Nat, m'.tallies[i]? = m.tallies[i]?.map fun c =>
    { tried := c.tried + ((rs.flatMap (Reading.tried rules)).map (·.index)).count i
      fired := c.fired + ((rs.flatMap (Reading.fired rules)).map (·.index)).count i }

theorem Counted.nil (rules : List Rule) (m : Metrics) : Counted rules m [] m :=
  ⟨rfl, rfl, rfl, fun i => by simp⟩

theorem Counted.append {rules : List Rule} {m m' m'' : Metrics} {rs rs' : List Reading} (h : Counted rules m rs m')
    (h' : Counted rules m' rs' m'') : Counted rules m (rs ++ rs') m'' := by
  refine ⟨?_, ?_, ?_, fun i => ?_⟩
  · rw [h'.lines, h.lines, List.length_append]; omega
  · rw [h'.matchedLines, h.matchedLines, List.countP_append]; omega
  · rw [h'.tried, h.tried, List.flatMap_append, List.length_append]; omega
  · rw [h'.tallies, h.tallies, Option.map_map]
    simp only [List.flatMap_append, List.map_append, List.count_append, Function.comp_def, Nat.add_assoc]

theorem line_counted {s u : Scan} {text : String} (h : s.line t o text = .ok u) :
    Counted t.rules s.metrics [⟨s.state, text⟩] u.metrics := by
  obtain ⟨r, hr, rfl⟩ := line_eq_ok h
  have hfired := (passed_fired (passed_of_tryRules hr)).1
  have htried := passed_tried (passed_of_tryRules hr)
  have hempty : r.fired.isEmpty = (firedOf s.state text t.rules).isEmpty := by
    rw [← List.isEmpty_map, hfired, List.isEmpty_map]
  refine ⟨rfl, ?_, ?_, fun i => ?_⟩
  · simp only [Metrics.count, hempty, List.countP_singleton, Reading.matched, Reading.fired]
    by_cases h : (firedOf s.state text t.rules).isEmpty = true <;> simp [h]
  · simp [Metrics.count, htried, Reading.tried]
  · rw [getElem?_count, hfired, htried]
    simp [Reading.tried, Reading.fired]

/-- What a scan counts is told by the lines that it consumes. -/
theorem run_counted {s s' : Scan} {lines : List String} (h : s.run t o lines = .ok s') :
    Counted t.rules s.metrics (t.readings s.state lines) s'.metrics := by
  replace h := ran_of_run h
  induction h with
  | done s => exact .nil t.rules s.metrics
  | stop hl hs =>
    rw [readings_of_line hl, if_pos hs]
    exact line_counted hl
  | step hl hs _ ih =>
    rw [readings_of_line hl, if_neg (by simp [hs])]
    exact (line_counted hl).append ih

theorem readings_of_not_stopped {s s' : Scan} {lines : List String} (h : s.run t o lines = .ok s')
    (hs : s'.stopped = false) : (t.readings s.state lines).map (·.line) = lines := by
  replace h := ran_of_run h
  induction h with
  | done s => rfl
  | stop hl hstop => rw [hs] at hstop; cases hstop
  | step hl hgo _ ih => rw [readings_of_line hl, if_neg (by simp [hgo]), List.map_cons, ih hs]

theorem readings_eq_nil_iff {state : String} {lines : List String} : t.readings state lines = [] ↔ lines = [] := by
  cases lines with
  | nil => simp [Table.readings]
  | cons line rest => simp [Table.readings]

/-- Each reading is one that the scan makes when it has made the ones before it. -/
theorem run_reading {s s' : Scan} {lines : List String} (h : s.run t o lines = .ok s') (hs : s.stopped = false)
    {before after : List Reading} {r : Reading} (hr : t.readings s.state lines = before ++ r :: after) :
    ∃ u v, s.run t o (before.map (·.line)) = .ok u ∧ u.stopped = false ∧ u.state = r.state ∧
      u.line t o r.line = .ok v ∧ (after = [] → s' = v) := by
  replace h := ran_of_run h
  induction h generalizing before with
  | done s => simp [Table.readings] at hr
  | @stop s u text rest hl hstop =>
    rw [readings_of_line hl, if_pos hstop] at hr
    cases before with
    | nil => cases hr; exact ⟨s, u, rfl, hs, rfl, hl, fun _ => rfl⟩
    | cons first before => simp at hr
  | @step s u s' text rest hl hgo hrest ih =>
    rw [readings_of_line hl, if_neg (by simp [hgo])] at hr
    cases before with
    | nil =>
      obtain ⟨rfl, rfl⟩ := List.cons.inj hr
      refine ⟨s, u, rfl, hs, rfl, hl, fun hnil => ?_⟩
      obtain rfl := readings_eq_nil_iff.mp hnil
      cases hrest; rfl
    | cons first before =>
      obtain ⟨rfl, hbefore⟩ := List.cons.inj hr
      obtain ⟨v, w, hv, hread⟩ := ih hgo hbefore
      refine ⟨v, w, ?_, hread⟩
      simp only [List.map_cons, Scan.run, hl, hgo, Bool.false_eq_true, if_false]
      exact hv

/-! ## More lines -/

theorem run_append (s : Scan) (hs : s.stopped = false) (xs ys : List String) :
    s.run t o (xs ++ ys) = match s.run t o xs with
      | .error e => .error e
      | .ok u => if u.stopped then .ok u else u.run t o ys := by
  induction xs generalizing s with
  | nil => simp [Scan.run, hs]
  | cons text rest ih =>
    rw [List.cons_append, Scan.run, Scan.run]
    cases hl : s.line t o text with
    | error e => rfl
    | ok u =>
      by_cases hstop : u.stopped = true
      · simp [hstop]
      · simp only [hstop, Bool.false_eq_true, if_false]
        exact ih u (by simpa using hstop)

theorem trace_prefix_run {s s' : Scan} {lines : List String} (h : s.run t o lines = .ok s') : s.trace <+: s'.trace := by
  have hline {s u : Scan} {text : String} (hl : s.line t o text = .ok u) : s.trace <+: u.trace := by
    obtain ⟨r, -, rfl⟩ := line_eq_ok hl
    dsimp only
    split
    · exact List.prefix_append _ _
    · exact List.prefix_rfl
  replace h := ran_of_run h
  induction h with
  | done s => exact List.prefix_rfl
  | stop hl _ => exact hline hl
  | step hl _ _ ih => exact (hline hl).trans ih

theorem line_eq_error {s : Scan} {text : String} {e : ScanError} (h : s.line t o text = .error e) :
    e.line = s.metrics.lines + 1 := by
  unfold Scan.line at h
  split at h
  · cases h; rfl
  · cases h

/-- A scan that fails got through all lines in front of the one that it fails on. -/
theorem run_eq_error {s : Scan} {lines : List String} {e : ScanError} (h : s.run t o lines = .error e)
    (hs : s.stopped = false) :
    ∃ before line after u, lines = before ++ line :: after ∧ s.run t o before = .ok u ∧ u.stopped = false ∧
      u.line t o line = .error e := by
  induction lines generalizing s with
  | nil => cases h
  | cons text rest ih =>
    rw [Scan.run] at h
    cases hl : s.line t o text with
    | error e' =>
      rw [hl] at h
      cases h
      exact ⟨[], text, rest, s, rfl, rfl, hs, hl⟩
    | ok u =>
      simp only [hl] at h
      by_cases hstop : u.stopped = true
      · rw [if_pos hstop] at h; cases h
      · rw [if_neg hstop] at h
        obtain ⟨before, line, after, v, rfl, hv, hgo, hfail⟩ := ih h (by simpa using hstop)
        refine ⟨text :: before, line, after, v, rfl, ?_, hgo, hfail⟩
        simp only [Scan.run, hl, if_neg hstop, hv]

/-- A scan of just the lines that are consumed is the same. -/
theorem run_consumed {s s' : Scan} {lines : List String} (h : s.run t o lines = .ok s') :
    s.run t o ((t.readings s.state lines).map (·.line)) = .ok s' := by
  replace h := ran_of_run h
  induction h with
  | done s => rfl
  | stop hl hs =>
    rw [readings_of_line hl, if_pos hs]
    exact run_of_ran (.stop hl hs)
  | step hl hs _ ih =>
    rw [readings_of_line hl, if_neg (by simp [hs]), List.map_cons, Scan.run, hl]
    simpa only [hs, Bool.false_eq_true, if_false] using ih

/-! ## The end of a scan -/

theorem lastTransition_eq_stop_iff {rules : List Rule} {r : Reading} :
    lastTransition (firedOf r.state r.line rules) = some .stop ↔ ∃ rule, r.EndsBy rules rule :=
  Option.map_eq_some_iff

theorem stopped_run_iff {s s' : Scan} {lines : List String} (h : s.run t o lines = .ok s') (hs : s.stopped = false) :
    s'.stopped = true ↔ ∃ before r rule, t.readings s.state lines = before ++ [r] ∧ r.EndsBy t.rules rule := by
  rcases List.eq_nil_or_concat (t.readings s.state lines) with hnil | ⟨before, r, hr⟩
  · obtain rfl := readings_eq_nil_iff.mp hnil
    cases h
    simp [hnil, hs]
  · rw [List.concat_eq_append] at hr
    obtain ⟨u, v, -, -, hstate, hl, hend⟩ := run_reading h hs hr
    rw [hend rfl, (line_control hl).2, hstate, lastTransition_eq_stop_iff]
    constructor
    · rintro ⟨rule, hrule⟩
      exact ⟨before, r, rule, hr, hrule⟩
    · rintro ⟨before', r', rule, hr', hrule⟩
      rw [hr] at hr'
      obtain ⟨-, hsame⟩ := List.append_inj' hr' rfl
      cases hsame
      exact ⟨rule, hrule⟩

/-- The fire of the rule that ends a scan is the last one. -/
theorem fires_of_endsBy {state : String} {lines : List String} {before : List Reading} {r : Reading} {rule : Rule}
    (hr : t.readings state lines = before ++ [r]) (hrule : r.EndsBy t.rules rule) :
    ∃ fs m, rule.match? r.line = some m ∧ t.fires state lines = fs ++ [⟨rule, r.state, m⟩] := by
  obtain ⟨others, hfired⟩ := List.getLast?_eq_some_iff.mp hrule.1
  have hfired : firedOf r.state r.line t.rules = others ++ [rule] := hfired
  obtain ⟨m, hm⟩ := exists_match_of_mem_firedOf (hfired ▸ List.mem_append_right others List.mem_cons_self)
  have hlast : firesOn r.state r.line t.rules =
      (others.filterMap fun rule => (rule.match? r.line).map fun m => ⟨rule, r.state, m⟩) ++ [⟨rule, r.state, m⟩] := by
    rw [firesOn, hfired, List.filterMap_append]
    simp [hm]
  rw [fires_eq_flatMap, hr, List.flatMap_append, List.flatMap_singleton, hlast, ← List.append_assoc]
  exact ⟨_, m, hm, rfl⟩

/-- A scan fails on one of the lines, with its number, and it had not ended before. -/
def Table.FailsOn (t : Table) (o : ScanOptions) (lines : List String) (e : ScanError) : Prop :=
  ∃ before line after u, lines = before ++ line :: after ∧ e.line = before.length + 1 ∧
    t.scan o before = .ok u ∧ u.line t o line = .error e ∧
    ∀ n ≤ before.length, ∃ v, t.scan o (lines.take n) = .ok v ∧ v.stopped = false

theorem failsOn_of_scan {lines : List String} {e : ScanError} (h : t.scan o lines = .error e) :
    t.FailsOn o lines e := by
  obtain ⟨before, line, after, u, rfl, hu, hgo, hfail⟩ := run_eq_error h rfl
  refine ⟨before, line, after, u, rfl, ?_, hu, hfail, fun n hn => ?_⟩
  · have hconsumed := congrArg List.length (readings_of_not_stopped hu hgo)
    rw [line_eq_error hfail, (run_counted hu).lines, ← hconsumed, List.length_map]
    simp [Scan.start]
  · rw [List.take_append_of_le_length hn]
    have hsplit := run_append (t := t) (o := o) (Scan.start t) rfl (before.take n) (before.drop n)
    rw [List.take_append_drop, hu] at hsplit
    cases hv : t.scan o (before.take n) with
    | error e => rw [Table.scan] at hv; rw [hv] at hsplit; cases hsplit
    | ok v =>
      refine ⟨v, rfl, ?_⟩
      rw [Table.scan] at hv
      rw [hv] at hsplit
      by_cases hstop : v.stopped = true
      · simp only [if_pos hstop, Except.ok.injEq] at hsplit
        rw [← hsplit, hgo]
      · simpa using hstop

/-- A scan that fails on some lines fails alike whatever follows them: on the line that its error
    numbers, with all lines before scanned. A scan that ends early is the same whatever follows; one
    that does not goes on from where it is, and its trace only grows. The lines it counts are those
    that it consumed, each read after the ones before it. It ends early exactly if the last rule that
    fired on the last of them ends scans, and then what this rule stores is stored last. -/
theorem scan_append (t : Table) (o : ScanOptions) (xs ys : List String) :
    (∀ e, t.scan o xs = .error e → t.scan o (xs ++ ys) = .error e ∧ t.FailsOn o xs e) ∧
    ∀ s, t.scan o xs = .ok s →
      (s.stopped = true → t.scan o (xs ++ ys) = .ok s) ∧
      (s.stopped = false → t.scan o (xs ++ ys) = s.run t o ys) ∧
      (∀ s', t.scan o (xs ++ ys) = .ok s' → s.trace <+: s'.trace) ∧
      (∃ rest, xs = (t.readings "top" xs).map (·.line) ++ rest ∧ (s.stopped = false → rest = []) ∧
        t.scan o ((t.readings "top" xs).map (·.line)) = .ok s ∧
        s.metrics.lines = (t.readings "top" xs).length) ∧
      (∀ before r after, t.readings "top" xs = before ++ r :: after → ∃ u v, t.scan o (before.map (·.line)) = .ok u ∧
        u.stopped = false ∧ u.state = r.state ∧ u.line t o r.line = .ok v ∧ (after = [] → s = v)) ∧
      (s.stopped = true ↔ ∃ before r rule, t.readings "top" xs = before ++ [r] ∧ r.EndsBy t.rules rule) ∧
      ∀ before r rule, t.readings "top" xs = before ++ [r] → r.EndsBy t.rules rule →
        ∃ fs f s₀ loc, f.rule = rule ∧ f.state = r.state ∧ rule.match? r.line = some f.found ∧
          t.fires "top" xs = fs ++ [f] ∧ Store.after o.strip {} fs = .ok s₀ ∧
          s₀.fire o.strip r.state rule f.found = .ok (s.store, loc) ∧
          ∀ path, rule.path = some path → ∃ made,
            rule.filter.apply f.found (Store.capturesOf o.strip f.found) (f.opened o.strip s₀ path) = .ok made ∧
            s.store = ({ s₀ with context := made.context.getD (f.opened o.strip s₀ path) } : Store).write path.root
              (path.place (f.opened o.strip s₀ path)) made.value := by
  have happend := run_append (t := t) (o := o) (Scan.start t) rfl xs ys
  refine ⟨fun e he => ⟨?_, failsOn_of_scan he⟩, fun s hs => ?_⟩
  · rw [Table.scan] at he ⊢
    rw [happend, he]
  rw [Table.scan] at hs
  have hstopped : s.stopped = true → t.scan o (xs ++ ys) = .ok s := fun hstop => by
    rw [Table.scan, happend, hs]; exact if_pos hstop
  have hresumed : s.stopped = false → t.scan o (xs ++ ys) = s.run t o ys := fun hgo => by
    rw [Table.scan, happend, hs]; exact if_neg (by simp [hgo])
  refine ⟨hstopped, hresumed, fun s' hs' => ?_, ?_, ?_, stopped_run_iff hs rfl, ?_⟩
  · by_cases hstop : s.stopped = true
    · rw [hstopped hstop] at hs'
      cases hs'; exact List.prefix_rfl
    · rw [hresumed (by simpa using hstop)] at hs'
      exact trace_prefix_run hs'
  · obtain ⟨rest, hrest⟩ := readings_prefix_lines t "top" xs
    refine ⟨rest, hrest.symm, fun hgo => ?_, run_consumed hs, ?_⟩
    · have hall : (t.readings "top" xs).map (·.line) = xs := readings_of_not_stopped hs hgo
      rw [hall] at hrest
      simpa using hrest
    · simpa [Scan.start] using (run_counted hs).lines
  · intro before r after hr
    exact run_reading hs rfl hr
  · intro before r rule hr hrule
    obtain ⟨fs, m, hm, hfires⟩ := fires_of_endsBy hr hrule
    have hstore := run_store hs
    rw [show t.fires (Scan.start t).state xs = _ from hfires] at hstore
    obtain ⟨s₀, hs₀, hlast⟩ := Store.after_append_eq_ok hstore
    rw [Store.after] at hlast
    split at hlast
    · cases hlast
    · rename_i s₁ loc hfire
      cases hlast
      refine ⟨fs, ⟨rule, r.state, m⟩, s₀, loc, rfl, rfl, hm, hfires, hs₀, hfire, fun path hp => ?_⟩
      obtain ⟨made, hmade, -, hwritten⟩ := fire_of_some_path (f := ⟨rule, r.state, m⟩) hp hfire
      exact ⟨made, hmade, hwritten⟩

def noting : List Row :=
  [ { pattern := .text "[a-z]", transition := .proceed, path := some (.dotted "notes[]"),
      filter := .function fun m _ => .ok ⟨.str m.whole, none⟩ },
    { pattern := .text "[a-z]\\?", path := some (.dotted "asked"),
      filter := .function fun m _ => .error ("refused " ++ m.whole) },
    { pattern := .text "[a-z]\\.", transition := .stop, path := some (.dotted "last"),
      filter := .template "{_state}" } ]

theorem scan_append_noting :
    ∃ t s f, Table.ofRows {} noting = .ok t ∧
      t.scan {} ["a", "b?"] = .error ⟨1, 2, "refused b?"⟩ ∧ t.scan {} ["a", "b?", "c."] = .error ⟨1, 2, "refused b?"⟩ ∧
      t.scan {} ["a", "c."] = .ok s ∧ t.scan {} ["a", "c.", "b?"] = .ok s ∧ s.stopped = true ∧ s.metrics.lines = 2 ∧
      s.result.compact = r#"{"notes":["a","c"],"last":"top"}"# ∧
      t.fires "top" ["a", "c."] = (t.fires "top" ["a", "c."]).take 2 ++ [f] ∧ f.rule.transition = .stop := by
  have hseen : (Table.ofRows {} noting).map (fun t =>
      ((t.scan {} ["a", "b?"]).map Scan.state,
        (t.scan {} ["a", "c."]).map fun s => (s.stopped, s.result.compact),
        (t.fires "top" ["a", "c."]).length, t.readings "top" ["a", "c."])) =
      .ok (.error ⟨1, 2, "refused b?"⟩, .ok (true, r#"{"notes":["a","c"],"last":"top"}"#), 3,
        [⟨"top", "a"⟩, ⟨"top", "c."⟩]) := by decide +kernel
  obtain ⟨t, ht, hvalues⟩ := map_eq_ok hseen
  simp only [Prod.mk.injEq] at hvalues
  obtain ⟨hfails, hscan, hlength, hreadings⟩ := hvalues
  obtain ⟨s, hs, hsame⟩ := map_eq_ok hscan.symm
  rw [Prod.mk.injEq] at hsame
  have he : t.scan {} ["a", "b?"] = .error ⟨1, 2, "refused b?"⟩ := by
    cases he : t.scan {} ["a", "b?"] with
    | ok u => rw [he] at hfails; cases hfails
    | error e => rw [he] at hfails; cases hfails; rfl
  obtain ⟨hmore, -⟩ := scan_append t {} ["a", "b?"] ["c."]
  obtain ⟨-, hends⟩ := scan_append t {} ["a", "c."] ["b?"]
  obtain ⟨hstopped, -, -, ⟨rest, -, -, -, hlines⟩, -, hiff, hlast⟩ := hends s hs
  obtain ⟨before, r, rule, hr, hrule⟩ := hiff.mp hsame.1.symm
  obtain ⟨fs, f, s₀, loc, rfl, -, -, hfires, -⟩ := hlast before r rule hr hrule
  refine ⟨t, s, f, ht, he, (hmore _ he).1, hs, hstopped hsame.1.symm, hsame.1.symm, ?_, hsame.2.symm, ?_, hrule.2⟩
  · rw [hlines, ← hreadings]; rfl
  · have htwo : fs.length = 2 := by
      rw [hfires, List.length_append] at hlength
      simpa using hlength.symm
    rw [hfires, List.take_left' htwo]

end LineRules
