/-
  LineRules.Proofs.Bookkeeping — what the context says of the last fire tells the state of the scan.

  Every fire writes three entries after its groups: the state that its line was read in, the names of its
  guard and the text of its transition. Groups of these names are overwritten, and no rule here has a buffer
  of these names or a function that could put another context in place of this one. So from the moment when
  a rule's value is made, the three entries are about its fire (`records_fire`), until the next one. At the
  end of a scan they are about the last rule that fired on the last line that was matched; lines that are
  not matched leave context and state alone.

  The state of the scan is kept apart from the context. But a transition that was read from a text is read
  from its own text again (`Transition.ofText_text`), and it decides the state after the line. So the
  entries tell the state (`scan_bookkeeping`).
-/

import LineRules.Proofs.Erasure
import LineRules.Proofs.Expansion
import LineRules.Proofs.StateNames

namespace LineRules

open Template (expand lookup Token)
open Unicode (trim)

/-- The entries that every fire writes are about a fire of the rule in the state. A guard that admits every
    state leaves an empty list. -/
structure Context.Records (c : Context) (state : String) (rule : Rule) : Prop where
  state : c.get? "_state" = some (.str state)
  anyGuard : rule.guard = .any → c.get? "_ifstate" = some (.list [])
  guard : ∀ names, rule.guard = .states names → c.get? "_ifstate" = some (.list (names.map .str))
  transition : c.get? "_gotostate" = some (.str rule.transition.text)

def recordNames : List String := ["_state", "_ifstate", "_gotostate"]

def Context.recordedState? (c : Context) : Option String :=
  match c.get? "_gotostate", c.get? "_state" with
  | some (.str text), some (.str state) =>
    some (match Transition.ofText text with
      | .goto next => next
      | _ => state)
  | _, _ => none

def Path.SparesRecords (path : Path) : Prop := ∀ name ∈ recordNames, ∀ mode, path.root ≠ .buffer name mode

/-! ## A fire -/

section Fires

variable {strip : Bool}

theorem records_absorb (c : Context) (captured : Entries Value) (state : String) (rule : Rule) :
    (Store.absorb c captured state rule).Records state rule where
  state := by simp [Store.absorb, Context.get?_insert]
  anyGuard := by
    intro hguard
    simp [Store.absorb, Context.get?_insert, hguard, Guard.names]
  guard := by
    intro names hguard
    simp [Store.absorb, Context.get?_insert, hguard, Guard.names]
  transition := by simp [Store.absorb, Context.get?_insert]

theorem Context.Records.of_get? {c c' : Context} {state : String} {rule : Rule} (h : c.Records state rule)
    (hsame : ∀ name ∈ recordNames, c'.get? name = c.get? name) : c'.Records state rule where
  state := (hsame "_state" (by simp [recordNames])).trans h.state
  anyGuard := fun hguard => (hsame "_ifstate" (by simp [recordNames])).trans (h.anyGuard hguard)
  guard := fun names hguard => (hsame "_ifstate" (by simp [recordNames])).trans (h.guard names hguard)
  transition := (hsame "_gotostate" (by simp [recordNames])).trans h.transition

/-- When the value of a fire is made, the entries are about this fire already. -/
theorem records_opened (s : Store) (f : Fire) {path : Path} (hpath : path.SparesRecords) :
    (f.opened strip s path).Records f.state f.rule :=
  (records_absorb s.context (Store.capturesOf strip f.found) f.state f.rule).of_get? fun name hname =>
    get?_prepare_of_ne (hpath name hname) _

theorem records_fire {s s' : Store} {f : Fire} {loc : Option String} (hf : f.rule.filter.isFunction = false)
    (hpath : ∀ path, f.rule.path = some path → path.SparesRecords)
    (h : s.fire strip f.state f.rule f.found = .ok (s', loc)) : s'.context.Records f.state f.rule := by
  cases hp : f.rule.path with
  | none =>
    rw [(fire_of_no_path hp h).1]
    exact records_absorb _ _ _ _
  | some path =>
    obtain ⟨v, -, -, rfl⟩ := fire_of_path hp hf h
    exact (records_opened s f (hpath path hp)).of_get? fun name hname =>
      get?_write_of_ne (hpath path hp name hname) _ _ v

/-- After fires the entries are about the last one. -/
theorem records_after {s s' : Store} {fs : List Fire} {f : Fire} (hf : f.rule.filter.isFunction = false)
    (hpath : ∀ path, f.rule.path = some path → path.SparesRecords) (h : s.after strip (fs ++ [f]) = .ok s') :
    s'.context.Records f.state f.rule := by
  obtain ⟨u, -, hlast⟩ := Store.after_append_eq_ok h
  obtain ⟨v, loc, hfire, hv⟩ := Store.after_cons_eq_ok.mp hlast
  cases hv
  exact records_fire hf hpath hfire

/-- A placeholder for the state becomes the state that the entries record. -/
theorem lookup_state {c : Context} {state : String} {rule : Rule} (h : c.Records state rule) :
    lookup c "_state".toList = state := by
  have hfield : Template.Field.ofChars "_state".toList = ⟨"_state", []⟩ := by decide
  simp only [lookup, hfield, h.state, Template.walk, Value.display]

/-- The text of a transition tells what it does to the state. -/
theorem recordedState?_of_records {c : Context} {state text : String} {rule : Rule} (h : c.Records state rule)
    (htext : rule.transition = .ofText text) :
    c.recordedState? = some (match rule.transition with
      | .goto next => next
      | _ => state) := by
  simp only [Context.recordedState?, h.transition, h.state, htext, Transition.ofText_text]

theorem state_of_mem_firesOn {state line : String} {rules : List Rule} {f : Fire}
    (h : f ∈ firesOn state line rules) : f.state = state := by
  obtain ⟨rule, -, hf⟩ := List.mem_filterMap.mp h
  obtain ⟨m, -, rfl⟩ := Option.map_eq_some_iff.mp hf
  rfl

end Fires

/-! ## The last line that was matched -/

/-- The last rule that fires on a line is the one of the last fire on it. -/
theorem firesOn_eq_concat {state line : String} {rules : List Rule} {rule : Rule}
    (h : (firedOf state line rules).getLast? = some rule) :
    ∃ fs m, firesOn state line rules = fs ++ [⟨rule, state, m⟩] := by
  obtain ⟨m, hm⟩ := exists_match_of_mem_firedOf (List.mem_of_getLast? h)
  obtain ⟨init, hinit⟩ := List.getLast?_eq_some_iff.mp h
  refine ⟨init.filterMap fun rule => (rule.match? line).map fun m => ⟨rule, state, m⟩, m, ?_⟩
  rw [firesOn, hinit, List.filterMap_append]
  simp only [List.filterMap_cons, hm, Option.map_some, List.filterMap_nil]

theorem exists_last_matched {t : Table} {state : String} {lines : List String} (h : t.fires state lines ≠ []) :
    ∃ r rule, ((t.readings state lines).filter (Reading.matched t.rules)).getLast? = some r ∧
      (r.fired t.rules).getLast? = some rule := by
  have hmatched : (t.readings state lines).filter (Reading.matched t.rules) ≠ [] := by
    intro hnil
    rw [← fires_matchedLines, fires_eq_flatMap, readings_matchedLines, hnil] at h
    exact h rfl
  obtain ⟨r, hr⟩ := Option.isSome_iff_exists.mp (List.getLast?_isSome.mpr hmatched)
  have hfired : r.fired t.rules ≠ [] := by
    have hmem := (List.mem_filter.mp (List.mem_of_getLast? hr)).2
    simpa [Reading.matched] using hmem
  obtain ⟨rule, hrule⟩ := Option.isSome_iff_exists.mp (List.getLast?_isSome.mpr hfired)
  exact ⟨r, rule, hr, hrule⟩

/-- A scan ends as it was after the last line that was matched. -/
theorem exists_line_of_last_matched {t : Table} {o : ScanOptions} {lines : List String} {s : Scan}
    (h : t.scan o lines = .ok s) {r : Reading}
    (hr : ((t.readings "top" lines).filter (Reading.matched t.rules)).getLast? = some r) :
    ∃ u v : Scan, u.line t o r.line = .ok v ∧ u.state = r.state ∧ v.state = s.state ∧ v.store = s.store := by
  obtain ⟨s', hs', hsame⟩ := run_matchedLines h ⟨rfl, rfl, rfl, rfl⟩ rfl
  obtain ⟨before, hbefore⟩ := List.getLast?_eq_some_iff.mp hr
  have hreadings : t.readings "top" (t.matchedLines "top" lines) = before ++ r :: [] := by
    rw [readings_matchedLines, hbefore]
  obtain ⟨u, v, -, -, hstate, hline, hlast⟩ := run_reading hs' rfl hreadings
  obtain rfl := hlast rfl
  exact ⟨u, s', hline, hstate, hsame.state.symm, hsame.store.symm⟩

/-- The transition of the last rule that fires on a line decides the next state. -/
theorem stateAfter_of_getLast? {state : String} {fired : List Rule} {rule : Rule} (h : fired.getLast? = some rule) :
    stateAfter state fired = match rule.transition with
      | .goto next => next
      | _ => state := by
  rw [stateAfter, lastTransition, h, Option.map_some]
  cases rule.transition <;> rfl

structure Scan.EndsAt (t : Table) (o : ScanOptions) (lines : List String) (final : Scan) (r : Reading)
    (rule : Rule) : Prop where
  scan : t.scan o lines = .ok final
  reading : ((t.readings "top" lines).filter (Reading.matched t.rules)).getLast? = some r
  fired : (r.fired t.rules).getLast? = some rule
  records : final.store.context.Records r.state rule
  /-- Of the text that the transition was read from, the white space around it is gone. -/
  trimmed : ∀ text, rule.transition = .ofText text →
    final.store.context.get? "_gotostate" = some (.str (trim text))
  state : final.store.context.recordedState? = some final.state

structure Fire.SeesState (f : Fire) (strip : Bool) (s : Store) (path : Path) (state : String) : Prop where
  entry : (f.opened strip s path).get? "_state" = some (.str state)
  written : ∃ v, f.write? strip s =
      some ⟨path.root, path.segments.map fun text => Segment.ofText (expand text (f.opened strip s path)), v⟩ ∧
    ∀ text, f.rule.filter = .template text → v = .str (expand text (f.opened strip s path))
  placeholder : ∀ left right, Token.Row (left ++ .field "_state".toList :: right) →
    expand (String.ofList (Token.spellAll (left ++ .field "_state".toList :: right))) (f.opened strip s path) =
      String.ofList (left.flatMap (Token.meaning (f.opened strip s path))) ++ state ++
        String.ofList (right.flatMap (Token.meaning (f.opened strip s path)))

theorem endsAt_of_scan {t : Table} (hf : ∀ rule ∈ t.rules, rule.filter.isFunction = false)
    (htext : ∀ rule ∈ t.rules, ∃ text, rule.transition = .ofText text)
    (hroot : ∀ rule ∈ t.rules, ∀ path, rule.path = some path → path.SparesRecords) {o : ScanOptions}
    {lines : List String} {final : Scan} (hfinal : t.scan o lines = .ok final) {r : Reading} {rule : Rule}
    (hr : ((t.readings "top" lines).filter (Reading.matched t.rules)).getLast? = some r)
    (hrule : (r.fired t.rules).getLast? = some rule) : Scan.EndsAt t o lines final r rule := by
  obtain ⟨u, v, hline, hu, hstate, hstore⟩ := exists_line_of_last_matched hfinal hr
  have hmem : rule ∈ t.rules := (firedOf_sublist _ _ _).subset (List.mem_of_getLast? hrule)
  have hrecords : final.store.context.Records r.state rule := by
    obtain ⟨round, hround, rfl⟩ := line_eq_ok hline
    have hafter := passed_store (passed_of_tryRules hround)
    obtain ⟨fs, m, hconcat⟩ := firesOn_eq_concat hrule
    rw [hu, hconcat] at hafter
    rw [← hstore]
    exact records_after (f := ⟨rule, r.state, m⟩) (hf rule hmem) (hroot rule hmem) hafter
  refine ⟨hfinal, hr, hrule, hrecords, fun text htransition => ?_, ?_⟩
  · rw [hrecords.transition, htransition, Transition.text_ofText]
  · obtain ⟨text, htransition⟩ := htext rule hmem
    have hnext : final.state = stateAfter r.state (r.fired t.rules) := by
      rw [← hstate, (line_control hline).1, hu]
      rfl
    rw [recordedState?_of_records hrecords htransition, hnext, stateAfter_of_getLast? hrule]

theorem seesState_of_path {f : Fire} {path : Path} (hp : f.rule.path = some path) (hf : f.rule.filter.isFunction = false)
    (hpath : path.SparesRecords) (strip : Bool) (s : Store) : f.SeesState strip s path f.state := by
  have hopened : (f.opened strip s path).Records f.state f.rule := records_opened s f hpath
  obtain ⟨v, hwrite, htemplate⟩ := write?_of_not_function strip s hp hf
  exact ⟨hopened.state, ⟨v, hwrite, htemplate⟩,
    fun left right hrow => Template.expand_field (lookup_state hopened) left right hrow⟩

/-- Without filter functions, and without buffers of their names, the entries `_state`, `_ifstate` and
    `_gotostate` are after every scan with a fire about the last rule that fired on the last line that was
    matched, even if groups have these names: they are the state that this line was read in, the names of
    the rule's guard and the text of its transition. So they tell the state of the scan. While the rules
    of a line fire, one after another, every segment and template is filled in from a context in which
    `_state` is the state that the line was read in. -/
theorem scan_bookkeeping {t : Table} (hf : ∀ rule ∈ t.rules, rule.filter.isFunction = false)
    (htext : ∀ rule ∈ t.rules, ∃ text, rule.transition = .ofText text)
    (hroot : ∀ rule ∈ t.rules, ∀ path, rule.path = some path → path.SparesRecords) (o : ScanOptions)
    {lines : List String} (hfired : t.fires "top" lines ≠ []) :
    (∃ final r rule, Scan.EndsAt t o lines final r rule) ∧
    ∀ before q after, t.readings "top" lines = before ++ q :: after →
      ∀ gs f more path, firesOn q.state q.line t.rules = gs ++ f :: more → f.rule.path = some path →
        ∃ s, Store.after o.strip {} (before.flatMap (fun r => firesOn r.state r.line t.rules) ++ gs) = .ok s ∧
          f.SeesState o.strip s path q.state := by
  obtain ⟨final, hfinal⟩ := run_of_no_function hf o (Scan.start t) lines
  constructor
  · obtain ⟨r, rule, hr, hrule⟩ := exists_last_matched hfired
    exact ⟨final, r, rule, endsAt_of_scan hf htext hroot hfinal hr hrule⟩
  · intro before q after hq gs f more path hfires hp
    have hmore : t.fires "top" lines = (before.flatMap (fun r => firesOn r.state r.line t.rules) ++ gs) ++
        (f :: more ++ after.flatMap fun r => firesOn r.state r.line t.rules) := by
      rw [fires_eq_flatMap, hq, List.flatMap_append, List.flatMap_cons, hfires]
      simp only [List.append_assoc]
    obtain ⟨s, hs, -⟩ := Store.after_append_eq_ok (hmore ▸ run_store hfinal)
    have hfire : f ∈ firesOn q.state q.line t.rules := by
      rw [hfires]
      exact List.mem_append_right _ List.mem_cons_self
    have hrule : f.rule ∈ t.rules := (mem_firesOn hfire).1
    have hsees := seesState_of_path hp (hf f.rule hrule) (hroot f.rule hrule path hp) o.strip s
    rw [state_of_mem_firesOn hfire] at hsees
    exact ⟨s, hs, hsees⟩

/-- A group has the name of an entry; the rule behind it changes the state after the same line. -/
def nested : List Row :=
  [ { guard := .ofNames ["top"], transition := .ofText "__continue__", pattern := .text "(?P<_state>[a-z])",
      path := some (.dotted "seen[]"), filter := .template "{_state}" },
    { guard := .ofNames ["top", "idle"], transition := .ofText " body ", pattern := .text "[a-z](?P<_gotostate>[0-9])?" } ]

theorem rules_nested {t : Table} (ht : Table.ofRows {} nested = .ok t) :
    ∀ rule ∈ t.rules, rule.filter.isFunction = false ∧ (∃ text, rule.transition = .ofText text) ∧
      ∀ path, rule.path = some path → path.SparesRecords := by
  intro rule hrule
  obtain ⟨row, hrow, hr⟩ := exists_row ht hrule
  obtain ⟨-, htransition, hfilter, -, hpath⟩ := hr.fields
  rw [htransition, hfilter]
  rcases List.mem_pair.mp hrow with rfl | rfl
  · refine ⟨rfl, ⟨"__continue__", rfl⟩, fun path hp name _ mode hroot => ?_⟩
    have htree : Rule.makePath (some (.dotted "seen[]")) = .ok (some ⟨.tree, ["seen[]"]⟩) := by decide
    obtain rfl : path = ⟨.tree, ["seen[]"]⟩ := by simpa [hpath, hp] using htree
    cases hroot
  · refine ⟨rfl, ⟨" body ", rfl⟩, fun path hp => ?_⟩
    have hnone : Rule.makePath none = .ok none := rfl
    rw [hpath, hp] at hnone
    cases hnone

/-- The letter that the group `_state` takes in is gone when the template is filled in, and the digit that the
    group `_gotostate` takes in when the line is done. -/
theorem scan_bookkeeping_nested :
    ∃ t final r rule, Table.ofRows {} nested = .ok t ∧ Scan.EndsAt t {} ["a1", "-"] final r rule ∧
      final.result.compact = r#"{"seen":["top"]}"# ∧ final.state = "body" ∧
      final.store.context.recordedState? = some "body" ∧
      final.store.context.get? "_state" = some (.str "top") ∧
      final.store.context.get? "_ifstate" = some (.list [.str "top", .str "idle"]) ∧
      final.store.context.get? "_gotostate" = some (.str "body") := by
  have hseen : (Table.ofRows {} nested).map (fun t =>
      ((t.scan {} ["a1", "-"]).map fun s => (s.result.compact, s.state), (t.fires "top" ["a1", "-"]).length)) =
      .ok (.ok (r#"{"seen":["top"]}"#, "body"), 2) := by decide +kernel
  have hlast : (Table.ofRows {} nested).map (fun t =>
      ((t.readings "top" ["a1", "-"]).filter (Reading.matched t.rules)).getLast?.bind fun r =>
        (r.fired t.rules).getLast?.map fun rule => (r.state, rule.guard, rule.transition)) =
      .ok (some ("top", .states ["top", "idle"], .ofText " body ")) := by decide +kernel
  obtain ⟨t, ht, hvalues⟩ := map_eq_ok hseen
  rw [ht] at hlast
  obtain ⟨hscan, hlength⟩ := Prod.mk.inj hvalues
  obtain ⟨final, hfinal, hresult⟩ := map_eq_ok hscan.symm
  obtain ⟨hcompact, hstate⟩ := Prod.mk.inj hresult
  have hrow := rules_nested ht
  have hfired : t.fires "top" ["a1", "-"] ≠ [] := by
    intro hnil
    rw [hnil] at hlength
    cases hlength
  obtain ⟨⟨final', r, rule, hends⟩, -⟩ :=
    scan_bookkeeping (fun rule h => (hrow rule h).1) (fun rule h => (hrow rule h).2.1)
      (fun rule h => (hrow rule h).2.2) {} hfired
  obtain rfl : final = final' := Except.ok.inj (hfinal.symm.trans hends.scan)
  simp only [Except.map, hends.reading, Option.bind_some, hends.fired, Option.map_some, Except.ok.injEq,
    Option.some.injEq, Prod.mk.injEq] at hlast
  obtain ⟨hread, hguard, htransition⟩ := hlast
  have htop := hends.records.state
  rw [hread] at htop
  have hrecorded := hends.state
  rw [← hstate] at hrecorded
  have htrimmed : trim " body " = "body" := by decide
  exact ⟨t, final, r, rule, ht, hends, hcompact.symm, hstate.symm, hrecorded, htop,
    hends.records.guard _ hguard, htrimmed ▸ hends.trimmed " body " htransition⟩

end LineRules
