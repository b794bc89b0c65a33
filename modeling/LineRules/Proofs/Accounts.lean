/-
  LineRules.Proofs.Accounts — counters and trace tell the same story.

  The counters of a scan are raised at several places of a line, the trace grows by one record at its
  end. `Scan.Accounted` says what they have to do with each other, and `accounted_line` that a line
  keeps it, whichever way its rules go: the positions that a line counts are those of rules in the table
  (`index_lt_of_tried`), each at most once, and of the rules that it tries it fires some
  (`firedOf_sublist_triedOf`). So the books balance at every moment of a scan that keeps a trace, and
  at its end (`scan_accounted`).
-/

import LineRules.Proofs.Readings
import LineRules.Proofs.Slices
import Mathlib.Algebra.GroupWithZero.Nat

namespace LineRules

/-- The records lead from a state to another one, each on from where the one before it led. -/
def Chained : String → List LineRecord → String → Prop
  | first, [], last => first = last
  | first, r :: rest, last => r.before = first ∧ Chained r.after rest last

theorem chained_concat {first last : String} {rs : List LineRecord} {r : LineRecord} (h : Chained first rs last)
    (hr : r.before = last) : Chained first (rs ++ [r]) r.after := by
  induction rs generalizing first with
  | nil => exact ⟨hr.trans (Eq.symm h), rfl⟩
  | cons a rs ih => exact ⟨h.1, ih h.2⟩

theorem chained_last {first last : String} {rs : List LineRecord} (h : Chained first rs last) :
    last = (rs.getLast?.map (·.after)).getD first := by
  induction rs generalizing first with
  | nil => exact Eq.symm h
  | cons a rs ih =>
    rw [ih h.2, List.getLast?_cons]
    cases rs.getLast? <;> rfl

/-- The rules that a record names as fired stand in the table one after another, and all but the last
    let the line go on. -/
structure LineRecord.Sound (rules : List Rule) (r : LineRecord) : Prop where
  increasing : (r.fired.map (·.rule)).Pairwise (· < ·)
  known : ∀ f ∈ r.fired, f.rule < rules.length
  passing : ∀ f ∈ r.fired.dropLast, ∃ rule, rules[f.rule]? = some rule ∧ rule.transition = .proceed

structure Scan.Accounted (t : Table) (s : Scan) : Prop where
  size : s.metrics.tallies.length = t.rules.length
  numbers : s.trace.map (·.number) = List.range' 1 s.metrics.lines
  chained : Chained "top" s.trace s.state
  matchedLines : s.metrics.matchedLines = s.trace.countP LineRecord.matched
  fired : ∀ (i : Nat) c, s.metrics.tallies[i]? = some c →
    c.fired = (s.trace.flatMap fun r => r.fired.map (·.rule)).count i
  tried : s.metrics.tried = (s.metrics.tallies.map (·.tried)).sum
  bounds : ∀ c ∈ s.metrics.tallies, c.fired ≤ c.tried ∧ c.tried ≤ s.metrics.lines
  sound : ∀ r ∈ s.trace, r.Sound t.rules

/-! ## Rules of a line -/

theorem through_filter {α : Type} (p q : α → Bool) (l : List α) :
    through p (l.filter q) = (through (fun a => q a && p a) l).filter q := by
  induction l with
  | nil => rfl
  | cons a l ih =>
    by_cases hq : q a = true
    · simp only [List.filter_cons, hq, if_true, through, Bool.true_and]
      by_cases hp : p a = true
      · simp [hp, hq]
      · simp [hp, hq, ih]
    · simp [hq, through, ih]

/-- The rules that fire on a line are those of the tried ones that match it. -/
theorem firedOf_eq_filter (state line : String) (rules : List Rule) :
    firedOf state line rules = (triedOf state line rules).filter fun r => (r.match? line).isSome := by
  have hhits : rules.filter (Rule.hits state line) =
      (rules.filter fun r => r.guard.admits state).filter fun r => (r.match? line).isSome := by
    rw [List.filter_filter]
    refine List.filter_congr fun r _ => ?_
    rw [Rule.hits, Bool.and_comm]
  rw [firedOf, hhits, through_filter, triedOf]

theorem firedOf_sublist_triedOf (state line : String) (rules : List Rule) :
    (firedOf state line rules).Sublist (triedOf state line rules) := by
  rw [firedOf_eq_filter]
  exact List.filter_sublist

theorem closes_of_mem_dropLast {rules : List Rule} {rule : Rule} (h : rule ∈ (through Rule.closes rules).dropLast) :
    rule.transition = .proceed := by
  induction rules with
  | nil => cases h
  | cons a l ih =>
    rw [through] at h
    by_cases ha : a.closes = true
    · rw [if_pos ha] at h; cases h
    · rw [if_neg ha] at h
      cases hl : through Rule.closes l with
      | nil => rw [hl] at h; cases h
      | cons b rest =>
        rw [hl, List.dropLast_cons_cons] at h
        rcases List.mem_cons.mp h with rfl | h
        · simpa [Rule.closes] using ha
        · exact ih (hl ▸ h)

section Positions

variable {rules : List Rule} (hidx : rules.map (·.index) = List.range rules.length)
include hidx

theorem getElem?_index {rule : Rule} (h : rule ∈ rules) : rules[rule.index]? = some rule := by
  obtain ⟨i, hi, rfl⟩ := List.mem_iff_getElem.mp h
  have hindex : (rules.map (·.index))[i]? = (List.range rules.length)[i]? := by rw [hidx]
  rw [List.getElem?_map, List.getElem?_eq_getElem hi, List.getElem?_range hi, Option.map_some, Option.some.injEq] at hindex
  rw [hindex, List.getElem?_eq_getElem hi]

theorem index_lt {rule : Rule} (h : rule ∈ rules) : rule.index < rules.length :=
  (List.getElem?_eq_some_iff.mp (getElem?_index hidx h)).1

theorem indices_sublist {l : List Rule} (h : l.Sublist rules) : (l.map (·.index)).Sublist (List.range rules.length) :=
  hidx ▸ h.map (·.index)

theorem index_lt_of_tried {strip : Bool} {state line : String} {s : Store} {r : Round}
    (h : tryRules strip state line rules s = .ok r) {i : Nat} (hi : i ∈ r.tried) : i < rules.length := by
  rw [passed_tried (passed_of_tryRules h)] at hi
  exact List.mem_range.mp ((indices_sublist hidx (triedOf_sublist state line rules)).subset hi)

/-- The positions that fire on a line are among those that are tried, and each of these is tried once. -/
theorem count_round {strip : Bool} {state line : String} {s : Store} {r : Round}
    (h : tryRules strip state line rules s = .ok r) (i : Nat) :
    (r.fired.map (·.rule)).count i ≤ r.tried.count i ∧ r.tried.count i ≤ 1 := by
  rw [(passed_fired (passed_of_tryRules h)).1, passed_tried (passed_of_tryRules h)]
  refine ⟨((firedOf_sublist_triedOf state line rules).map _).count_le i, ?_⟩
  have hnodup := (indices_sublist hidx (triedOf_sublist state line rules)).nodup List.nodup_range
  exact List.nodup_iff_count_le_one.mp hnodup i

theorem sound_recordOf {strip : Bool} {s : Scan} {line : String} {r : Round}
    (h : tryRules strip s.state line rules s.store = .ok r) : (s.recordOf line r).Sound rules := by
  have hfired : r.fired.map (·.rule) = (firedOf s.state line rules).map (·.index) :=
    (passed_fired (passed_of_tryRules h)).1
  have hsub := firedOf_sublist s.state line rules
  refine ⟨?_, fun f hf => ?_, fun f hf => ?_⟩
  · show (r.fired.map (·.rule)).Pairwise (· < ·)
    rw [hfired]
    exact List.pairwise_lt_range.sublist (indices_sublist hidx hsub)
  · have hmem : f.rule ∈ (firedOf s.state line rules).map (·.index) := hfired ▸ List.mem_map_of_mem hf
    exact List.mem_range.mp ((indices_sublist hidx hsub).subset hmem)
  · have hmem : f.rule ∈ (r.fired.dropLast).map (·.rule) := List.mem_map_of_mem hf
    rw [List.map_dropLast, hfired, ← List.map_dropLast] at hmem
    obtain ⟨rule, hrule, hindex⟩ := List.mem_map.mp hmem
    have hmem : rule ∈ rules := hsub.subset (List.dropLast_subset _ hrule)
    exact ⟨rule, hindex ▸ getElem?_index hidx hmem, closes_of_mem_dropLast hrule⟩

end Positions

/-! ## Sums of tallies -/

theorem length_countTried (tallies : List Tally) (i : Nat) : (Metrics.countTried tallies i).length = tallies.length :=
  List.length_modify _ _ _

theorem sum_countTried {tallies : List Tally} {i : Nat} (h : i < tallies.length) :
    ((Metrics.countTried tallies i).map (·.tried)).sum = (tallies.map (·.tried)).sum + 1 := by
  induction tallies generalizing i with
  | nil => cases h
  | cons c tallies ih =>
    cases i with
    | zero => simp [Metrics.countTried]; omega
    | succ i =>
      have hrest := ih (Nat.lt_of_succ_lt_succ h)
      simp only [Metrics.countTried, List.modify_succ_cons, List.map_cons, List.sum_cons] at hrest ⊢
      omega

theorem sum_foldl_countTried {tried : List Nat} {tallies : List Tally} (h : ∀ i ∈ tried, i < tallies.length) :
    ((tried.foldl Metrics.countTried tallies).map (·.tried)).sum = (tallies.map (·.tried)).sum + tried.length := by
  induction tried generalizing tallies with
  | nil => rfl
  | cons i tried ih =>
    have hrest : ∀ k ∈ tried, k < (Metrics.countTried tallies i).length := fun k hk => by
      rw [length_countTried]; exact h k (List.mem_cons_of_mem _ hk)
    rw [List.foldl_cons, ih hrest, sum_countTried (h i List.mem_cons_self), List.length_cons]
    omega

theorem sum_count {m : Metrics} {r : Round} (h : ∀ i ∈ r.tried, i < m.tallies.length) :
    ((m.count r).tallies.map (·.tried)).sum = (m.tallies.map (·.tried)).sum + r.tried.length := by
  rw [← sum_foldl_countTried h]
  refine congrArg List.sum (List.ext_getElem? fun i => ?_)
  simp only [Metrics.count, List.getElem?_map, getElem?_countFired, Option.map_map]
  rfl

/-! ## Lines -/

theorem accounted_start (t : Table) : (Scan.start t).Accounted t where
  size := by simp [Scan.start]
  numbers := rfl
  chained := rfl
  matchedLines := rfl
  fired i c hc := by
    rw [Scan.start, List.getElem?_map] at hc
    obtain ⟨-, -, rfl⟩ := Option.map_eq_some_iff.mp hc
    rfl
  tried := by simp [Scan.start]
  bounds c hc := by
    obtain ⟨-, -, rfl⟩ := List.mem_map.mp hc
    exact ⟨Nat.le_refl _, Nat.zero_le _⟩
  sound r hr := by cases hr

theorem accounted_line {t : Table} (hidx : t.rules.map (·.index) = List.range t.rules.length) {o : ScanOptions}
    (ho : o.trace = true) {s s' : Scan} {text : String} (hs : s.Accounted t) (h : s.line t o text = .ok s') :
    s'.Accounted t := by
  obtain ⟨r, hr, rfl⟩ := line_eq_ok h
  rw [if_pos ho]
  refine ⟨?_, ?_, ?_, ?_, ?_, ?_, ?_, ?_⟩
  · exact (length_count _ r).trans hs.size
  · show (s.trace ++ [s.recordOf text r]).map (·.number) = List.range' 1 (s.metrics.lines + 1)
    rw [List.map_append, hs.numbers, List.range'_concat, List.map_singleton]
    simp [Scan.recordOf, Nat.add_comm]
  · exact chained_concat hs.chained rfl
  · have hrecord : (s.recordOf text r).matched = !r.fired.isEmpty := rfl
    simp only [Metrics.count, List.countP_append, List.countP_singleton, hrecord, hs.matchedLines]
    cases r.fired.isEmpty <;> rfl
  · intro i c hc
    rw [getElem?_count] at hc
    obtain ⟨c₀, hc₀, rfl⟩ := Option.map_eq_some_iff.mp hc
    rw [List.flatMap_append, List.count_append, ← hs.fired i c₀ hc₀, List.flatMap_singleton]
    rfl
  · have hknown : ∀ i ∈ r.tried, i < s.metrics.tallies.length := fun i hi => hs.size ▸ index_lt_of_tried hidx hr hi
    rw [sum_count hknown, ← hs.tried]
    rfl
  · intro c hc
    obtain ⟨i, hi⟩ := List.mem_iff_getElem?.mp hc
    rw [getElem?_count] at hi
    obtain ⟨c₀, hc₀, rfl⟩ := Option.map_eq_some_iff.mp hi
    obtain ⟨hless, honce⟩ := count_round hidx hr i
    obtain ⟨hfired, htried⟩ := hs.bounds c₀ (List.mem_of_getElem? hc₀)
    exact ⟨Nat.add_le_add hfired hless, Nat.add_le_add htried honce⟩
  · intro record hrecord
    rcases List.mem_append.mp hrecord with hold | hnew
    · exact hs.sound record hold
    · rw [List.mem_singleton.mp hnew]
      exact sound_recordOf hidx hr

theorem accounted_of_reachable {t : Table} (hidx : t.rules.map (·.index) = List.range t.rules.length) {o : ScanOptions}
    (ho : o.trace = true) {s : Scan} (h : Reachable t o s) : s.Accounted t := by
  induction h with
  | start => exact accounted_start t
  | line _ hl ih => exact accounted_line hidx ho ih hl

/-- The counters and the trace of a scan that keeps one agree, its records stand for the lines that it
    counted, and the last of them leads to its state. Rules carry their positions, so at every moment
    there is a tally for each rule that a line may try or fire. -/
theorem scan_accounted {flags : Pattern.Flags} {rows : List Row} {t : Table} (ht : Table.ofRows flags rows = .ok t)
    {o : ScanOptions} (ho : o.trace = true) {lines : List String} {s : Scan} (h : t.scan o lines = .ok s) :
    s.Accounted t ∧ s.trace.length = s.metrics.lines ∧ s.metrics.lines = (t.readings "top" lines).length ∧
      (s.trace.getLast?.map (·.after)).getD "top" = s.state ∧
      (∀ (i : Nat) (rule : Rule), t.rules[i]? = some rule → rule.index = i) ∧
      ∀ u, Reachable t o u →
        (∀ rule ∈ t.rules, rule.index < u.metrics.tallies.length) ∧
        ∀ text r, tryRules o.strip u.state text t.rules u.store = .ok r →
          (∀ i ∈ r.tried, i < u.metrics.tallies.length) ∧ ∀ f ∈ r.fired, f.rule < u.metrics.tallies.length := by
  have hidx := indices_of_ofRows ht
  have haccounted := accounted_of_reachable hidx ho (reachable_run .start h)
  refine ⟨haccounted, ?_, ?_, (chained_last haccounted.chained).symm, fun i rule hrule => ?_, fun u hu => ?_⟩
  · simpa using congrArg List.length haccounted.numbers
  · simpa [Scan.start] using (run_counted h).lines
  · have hmem := List.mem_of_getElem? hrule
    have hsame : t.rules[rule.index]? = t.rules[i]? := (getElem?_index hidx hmem).trans hrule.symm
    have hnodup : t.rules.Nodup := .of_map (·.index) (hidx ▸ List.nodup_range)
    exact (List.getElem?_inj (index_lt hidx hmem) hnodup).mp hsame
  · rw [length_tallies hu]
    refine ⟨fun rule hrule => index_lt hidx hrule, fun text r hr => ⟨fun i hi => index_lt_of_tried hidx hr hi, ?_⟩⟩
    exact (sound_recordOf hidx hr).known

theorem scan_accounted_deferring :
    ∃ t s, Table.ofRows {} deferring = .ok t ∧ t.scan { trace := true } ["ab", "c", "a"] = .ok s ∧
      s.trace = [⟨1, "ab", "top", "next", [⟨0, none⟩, ⟨2, none⟩]⟩, ⟨2, "c", "next", "next", []⟩,
        ⟨3, "a", "next", "next", [⟨0, none⟩, ⟨3, none⟩]⟩] ∧
      s.metrics = ⟨3, 2, 8, [⟨3, 2⟩, ⟨1, 0⟩, ⟨1, 1⟩, ⟨2, 1⟩, ⟨1, 0⟩]⟩ ∧ s.Accounted t ∧ s.state = "next" := by
  have hseen : (Table.ofRows {} deferring).map (fun t =>
      (t.scan { trace := true } ["ab", "c", "a"]).map fun s => (s.trace, s.metrics)) =
      .ok (.ok ([⟨1, "ab", "top", "next", [⟨0, none⟩, ⟨2, none⟩]⟩, ⟨2, "c", "next", "next", []⟩,
        ⟨3, "a", "next", "next", [⟨0, none⟩, ⟨3, none⟩]⟩],
        ⟨3, 2, 8, [⟨3, 2⟩, ⟨1, 0⟩, ⟨1, 1⟩, ⟨2, 1⟩, ⟨1, 0⟩]⟩)) := by decide +kernel
  obtain ⟨t, ht, hvalues⟩ := map_eq_ok hseen
  obtain ⟨s, hs, hvalues⟩ := map_eq_ok hvalues.symm
  obtain ⟨htrace, hmetrics⟩ := Prod.mk.inj hvalues
  obtain ⟨haccounted, -, -, hlast, -⟩ := scan_accounted ht rfl hs
  refine ⟨t, s, ht, hs, htrace.symm, hmetrics.symm, haccounted, ?_⟩
  rw [← hlast, ← htrace]
  rfl

end LineRules
