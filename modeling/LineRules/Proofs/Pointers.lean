/-
  LineRules.Proofs.Pointers — the location that a trace shows finds the value that was written.

  A location joins the keys of a place by dots, and a look-up cuts it at its dots. Keys are normal, so
  they hold no dots themselves, and the look-up follows them one by one unless one is empty
  (`at?_location`). Behind plain segments the writer passes through mappings only, and puts mappings where
  anything else is in the way; so these are the keys under which the value settles
  (`Tree.follow?_store?_settled`).

  The records of a scan list the fires in their order, each with the location that it returned
  (`run_firings`). So what holds of a location when it is written holds of the text in the trace.
-/

import LineRules.Proofs.Locations

namespace LineRules

open LineRules.Tree (settled)

/-! ## Locations as pointers -/

/-- The location of a place of plain segments under keys that are not empty leads along these keys. -/
theorem at?_location {p : Path} (hroot : p.root = .tree) {place : List Segment}
    (hkeys : ∀ a ∈ place, Key.Normal a.key) (hplain : ∀ a ∈ place, a.list = false ∧ a.key ≠ "") (v : Value) :
    v.at? (p.location place) = v.follow? (place.map (·.key)) := by
  have htexts : place.map Segment.text = place.map (·.key) := by
    refine List.map_congr_left fun a ha => ?_
    rw [Segment.text, (hplain a ha).1, if_neg Bool.false_ne_true]
  have hlocation : p.location place = String.intercalate "." (place.map (·.key)) := by
    rw [Path.location, hroot, htexts]
    rfl
  by_cases hplace : place = []
  · rw [hlocation, hplace]
    rfl
  · have hdots : ∀ s ∈ place.map (·.key), '.' ∉ s.toList := by
      intro s hs hdot
      obtain ⟨a, ha, rfl⟩ := List.mem_map.mp hs
      exact absurd ((hkeys a ha).word '.' hdot) (by decide)
    have hfilled : (place.map (·.key)).filter (· ≠ "") = place.map (·.key) := by
      rw [List.filter_eq_self]
      intro s hs
      obtain ⟨a, ha, rfl⟩ := List.mem_map.mp hs
      simpa using (hplain a ha).2
    rw [Value.at?, hlocation, Text.pieces_intercalate rfl (by simpa using hplace) hdots, hfilled]

/-! ## Records -/

def Store.firings (strip : Bool) (s : Store) : List Fire → List Firing
  | [] => []
  | f :: rest =>
    match s.fire strip f.state f.rule f.found with
    | .error _ => []
    | .ok (s, location) => ⟨f.rule.index, location⟩ :: s.firings strip rest

variable {strip : Bool}

theorem firings_cons {s u : Store} {f : Fire} {loc : Option String}
    (h : s.fire strip f.state f.rule f.found = .ok (u, loc)) (rest : List Fire) :
    s.firings strip (f :: rest) = ⟨f.rule.index, loc⟩ :: u.firings strip rest := by
  simp only [Store.firings, h]

theorem firings_append {s u : Store} {fs : List Fire} (h : s.after strip fs = .ok u) (gs : List Fire) :
    s.firings strip (fs ++ gs) = s.firings strip fs ++ u.firings strip gs := by
  induction fs generalizing s with
  | nil => cases h; rfl
  | cons f fs ih =>
    obtain ⟨v, loc, hf, hfs⟩ := Store.after_cons_eq_ok.mp h
    rw [List.cons_append, firings_cons hf, firings_cons hf, ih hfs, List.cons_append]

theorem length_firings {s u : Store} {fs : List Fire} (h : s.after strip fs = .ok u) :
    (s.firings strip fs).length = fs.length := by
  induction fs generalizing s with
  | nil => rfl
  | cons f fs ih =>
    obtain ⟨v, loc, hf, hfs⟩ := Store.after_cons_eq_ok.mp h
    rw [firings_cons hf, List.length_cons, ih hfs, List.length_cons]

/-- A round lists what its fires return. -/
theorem passed_firings {state line : String} {rules : List Rule} {s : Store} {r : Round}
    (h : Passed strip state line rules s r) : r.fired = s.firings strip (firesOn state line rules) := by
  induction h with
  | done s => rfl
  | skip ha _ ih => rw [firesOn_of_not_hits (by simp [Rule.hits, ha])]; exact ih
  | miss ha hm _ ih => rw [firesOn_of_not_hits (by simp [Rule.hits, hm])]; exact ih
  | proceed ha hm hf ht _ ih =>
    rw [firesOn_of_proceed ha hm ht, firings_cons hf, ← ih]
    rfl
  | close ha hm hf ht =>
    rw [firesOn_of_close ha hm ht, firings_cons hf]
    rfl

/-- The trace of a scan lists what its fires return, one after another. -/
theorem run_firings {t : Table} {o : ScanOptions} (ho : o.trace = true) {s s' : Scan} {lines : List String}
    (h : s.run t o lines = .ok s') :
    s'.trace.flatMap (·.fired) = s.trace.flatMap (·.fired) ++ s.store.firings o.strip (t.fires s.state lines) := by
  have hline {s u : Scan} {text : String} (hl : s.line t o text = .ok u) :
      s.store.after o.strip (firesOn s.state text t.rules) = .ok u.store ∧
        u.trace.flatMap (·.fired) =
          s.trace.flatMap (·.fired) ++ s.store.firings o.strip (firesOn s.state text t.rules) := by
    obtain ⟨r, hr, rfl⟩ := line_eq_ok hl
    have hpassed := passed_of_tryRules hr
    refine ⟨passed_store hpassed, ?_⟩
    simp only [ho, if_true, List.flatMap_append, List.flatMap_singleton, Scan.recordOf, passed_firings hpassed]
  have hran := ran_of_run h
  clear h
  induction hran with
  | done s => simp [Table.fires, Store.firings]
  | stop hl hs =>
    rw [Table.fires, if_pos ((line_control hl).2.mp hs), List.append_nil]
    exact (hline hl).2
  | @step s u s' text rest hl hs _ ih =>
    obtain ⟨hstore, htrace⟩ := hline hl
    obtain ⟨hstate, hstop⟩ := line_control hl
    have hgoes : ¬lastTransition (firedOf s.state text t.rules) = some .stop := by
      rw [← hstop, hs]
      exact Bool.false_ne_true
    rw [Table.fires, if_neg hgoes, ← hstate, firings_append hstore, ← List.append_assoc, ← htrace]
    exact ih

/-! ## Written texts -/

/-- A rule with a template writes the text that it makes, and its location is the one of the place. -/
theorem fire_template (strip : Bool) (s : Store) {f : Fire} {p : Path} (hpath : f.rule.path = some p) {text : String}
    (hfilter : f.rule.filter = .template text) :
    s.fire strip f.state f.rule f.found =
      .ok (({ s with context := f.opened strip s p } : Store).write p.root (p.place (f.opened strip s p))
        (.str (Template.expand text (f.opened strip s p))), some (p.location (p.place (f.opened strip s p)))) := by
  have hmade : f.rule.filter.apply f.found (Store.capturesOf strip f.found) (f.opened strip s p) =
      .ok ⟨.str (Template.expand text (f.opened strip s p)), none⟩ := by
    rw [hfilter]
    rfl
  exact (fire_of_apply hpath hmade).1

/-- The entry of the trace that belongs to a fire shows the location that this fire returns. -/
theorem getElem?_trace {t : Table} {o : ScanOptions} (ho : o.trace = true) {lines : List String} {final : Scan}
    (h : t.scan o lines = .ok final) {fs rest : List Fire} {f : Fire} (hfires : t.fires "top" lines = fs ++ f :: rest)
    {s u : Store} {loc : Option String} (hs : Store.after o.strip {} fs = .ok s)
    (hf : s.fire o.strip f.state f.rule f.found = .ok (u, loc)) :
    (final.trace.flatMap (·.fired))[fs.length]? = some ⟨f.rule.index, loc⟩ := by
  have htrace : final.trace.flatMap (·.fired) = Store.firings o.strip {} (t.fires "top" lines) := run_firings ho h
  rw [htrace, hfires, firings_append hs, firings_cons hf, ← length_firings hs, List.getElem?_append_right le_rfl, Nat.sub_self]
  rfl

/-- A rule with a template fires at a place of plain segments in the tree, none of whose keys is empty. Then
    the location that the trace shows of this fire finds in the tree the text that the template makes; or,
    if a list was at the place, this list with the text behind its items. -/
theorem fire_at?_location (s : Store) {f : Fire} {p : Path} (hpath : f.rule.path = some p) (hroot : p.root = .tree)
    {text : String} (hfilter : f.rule.filter = .template text) {opened : Context}
    (hopened : f.opened strip s p = opened) (hplace : p.place opened ≠ [])
    (hplain : ∀ a ∈ p.place opened, a.list = false ∧ a.key ≠ "") :
    ∃ s' location, s.fire strip f.state f.rule f.found = .ok (s', some location) ∧
      (∀ items, (Value.map s.tree).follow? ((p.place opened).map (·.key)) = some (.list items) →
        (Value.map s'.tree).at? location = some (.list (items ++ [.str (Template.expand text opened)]))) ∧
      ((∀ items, (Value.map s.tree).follow? ((p.place opened).map (·.key)) ≠ some (.list items)) →
        (Value.map s'.tree).at? location = some (.str (Template.expand text opened))) ∧
      ∀ (t : Table) (o : ScanOptions) (lines : List String) (final : Scan) (fs rest : List Fire),
        o.strip = strip → o.trace = true → t.scan o lines = .ok final →
        t.fires "top" lines = fs ++ f :: rest → Store.after strip {} fs = .ok s →
        (final.trace.flatMap (·.fired))[fs.length]? = some ⟨f.rule.index, some location⟩ := by
  have hfire := fire_template strip s hpath hfilter
  rw [hopened] at hfire
  obtain ⟨parents, last, hsegments⟩ := (List.eq_nil_or_concat' (p.place opened)).resolve_left hplace
  have hlist : ∀ a ∈ parents ++ [last], a.list = false := fun a ha => (hplain a (hsegments ▸ ha)).1
  obtain ⟨tree, htree, hfollow⟩ := Tree.follow?_store?_settled s.tree (.str (Template.expand text opened))
    (fun a ha => hlist a (List.mem_append_left _ ha)) last
  rw [← hsegments] at htree hfollow
  have hfound : (Value.map tree).at? (p.location (p.place opened)) =
      some (settled ((Value.map s.tree).follow? ((p.place opened).map (·.key))) false
        (.str (Template.expand text opened))) := by
    rw [at?_location hroot (fun a ha => key_of_mem_place Key.normal_ofText ha) hplain, hfollow,
      hlist last (by simp)]
  refine ⟨⟨opened, tree⟩, p.location (p.place opened), ?_, ?_, ?_, ?_⟩
  · simpa only [hroot, Store.write, htree, Option.getD_some] using hfire
  · intro items hitems
    rw [hfound, hitems]
    rfl
  · intro hitems
    rw [hfound]
    generalize (Value.map s.tree).follow? _ = old at hitems ⊢
    rcases old with _ | (_ | _ | items)
    case some.list => exact absurd rfl (hitems items)
    all_goals rfl
  · rintro t o lines final fs rest rfl ho hscan hfires hs
    exact getElem?_trace ho hscan hfires hs hfire

def limits : List Row :=
  [ { pattern := .text "(?P<k>[A-Z ]+)=(?P<v>[0-9])", path := some (.dotted "limits.{k}"),
      filter := .template "{v}" } ]

theorem fire_at?_location_limits :
    ∃ t final f s, Table.ofRows {} limits = .ok t ∧ t.scan { trace := true } ["MAX SIZE=1"] = .ok final ∧
      t.fires "top" ["MAX SIZE=1"] = [f] ∧ Store.fire {} true f.state f.rule f.found = .ok (s, some "limits.max_size") ∧
      (Value.map s.tree).at? "limits.max_size" = some (.str "1") ∧
      (final.trace.flatMap (·.fired))[0]? = some ⟨f.rule.index, some "limits.max_size"⟩ := by
  let p : Path := ⟨.tree, ["limits", "{k}"]⟩
  have hseen : (Table.ofRows {} limits).map (fun t =>
      ((t.scan { trace := true } ["MAX SIZE=1"]).map fun final => final.trace.length,
        (t.fires "top" ["MAX SIZE=1"]).map fun f =>
          (f.rule.path, p.place (f.opened true {} p), Template.expand "{v}" (f.opened true {} p)))) =
      .ok (.ok 1, [(some p, [⟨"limits", false⟩, ⟨"max_size", false⟩], "1")]) := by decide +kernel
  obtain ⟨t, ht, hvalues⟩ := map_eq_ok hseen
  obtain ⟨hscan, hfires⟩ := Prod.mk.inj hvalues
  obtain ⟨final, hfinal, -⟩ := map_eq_ok hscan.symm
  obtain ⟨f, hfires, hmade⟩ := List.map_eq_singleton_iff.mp hfires.symm
  simp only [Prod.mk.injEq] at hmade
  obtain ⟨hpath, hplace, htext⟩ := hmade
  have hfilter : f.rule.filter = .template "{v}" := by
    have hf : f ∈ t.fires "top" ["MAX SIZE=1"] := hfires ▸ List.mem_singleton_self f
    obtain ⟨row, hrow, hr⟩ := exists_row ht (mem_fires hf).1
    rw [hr.fields.2.2.1, List.mem_singleton.mp hrow]
  obtain ⟨opened, hopened⟩ : ∃ opened, f.opened true {} p = opened := ⟨_, rfl⟩
  rw [hopened] at hplace htext
  obtain ⟨s, location, hfire, -, hfound, htrace⟩ :=
    fire_at?_location {} hpath rfl hfilter hopened (by simp [hplace]) (by simp [hplace])
  have hlocation : p.location [⟨"limits", false⟩, ⟨"max_size", false⟩] = "limits.max_size" := by decide
  obtain rfl : location = "limits.max_size" := by
    rw [fire_template true {} hpath hfilter, hopened, hplace, hlocation] at hfire
    simpa using (Prod.mk.inj (Except.ok.inj hfire)).2.symm
  refine ⟨t, final, f, s, ht, hfinal, hfires, hfire, ?_, ?_⟩
  · rw [← htext]
    exact hfound (by simp [hplace, Value.follow?, Value.get?, Value.entries?, Entries.find?])
  · exact htrace t _ _ final [] [] rfl rfl hfinal hfires rfl

end LineRules
