/-
  LineRules.Proofs.Collecting — a list that one rule alone writes to.

  A path without braces leads to the same place whenever its rule fires (`place_of_fixed`). Where such
  a path leads to a list, each fire of the rule appends the value that it makes (`follow?_fire`). Any
  other fire leaves the list as it is if it writes to a buffer, or under another first key of the tree
  (`follow?_fire_apart`), and so does a filter function that puts another context in place. So at every
  moment of a scan the list holds what the fires of the rule have made so far (`follow?_after`), and
  its length is what the tally of the rule says (`scan_collects`).
-/

import LineRules.Proofs.Accounts
import LineRules.Proofs.Expansion
import LineRules.Proofs.Isolation

namespace LineRules

open LineRules.Tree (store?)
open Entries (find? insert)

def Store.moments (strip : Bool) (s : Store) : List Fire → List (Fire × Store)
  | [] => []
  | f :: rest =>
    (f, s) ::
      match s.fire strip f.state f.rule f.found with
      | .ok (s, _) => s.moments strip rest
      | .error _ => []

def Store.made (strip : Bool) (rule : Nat) (s : Store) (fs : List Fire) : List Value :=
  (s.moments strip fs).filterMap fun (f, s) =>
    if f.rule.index = rule then (f.write? strip s).map (·.value) else none

/-- A text without braces. -/
def Template.Fixed (text : String) : Prop := '{' ∉ text.toList ∧ '}' ∉ text.toList

namespace Path

def keys (p : Path) : List String := p.segments.map fun text => (Segment.ofText text).key

structure Collects (p : Path) : Prop where
  root : p.root = .tree
  fixed : ∀ text ∈ p.segments, Template.Fixed text
  marked : ∃ parents last, p.segments = parents ++ [last] ∧
    (∀ text ∈ parents, (Segment.ofText text).list = false) ∧ (Segment.ofText last).list = true

/-- The other path leads to a buffer, or into the tree under another first key. -/
def Apart (p other : Path) : Prop :=
  other.root ≠ .tree ∨ ∃ first rest, other.segments = first :: rest ∧ Template.Fixed first ∧
    p.keys.head? ≠ some (Segment.ofText first).key

end Path

def Value.collected : List Value → Option Value
  | [] => none
  | v :: vs => some (.list (v :: vs))

/-- The items of the list that the keys lead to; none if something else or nothing is there. -/
def Tree.itemsAt (m : Entries Value) (keys : List String) : List Value :=
  (((Value.map m).follow? keys).bind Value.items?).getD []

variable {strip : Bool}

/-! ## Values made -/

theorem moments_append {s u : Store} {fs : List Fire} (h : s.after strip fs = .ok u) (gs : List Fire) :
    s.moments strip (fs ++ gs) = s.moments strip fs ++ u.moments strip gs := by
  induction fs generalizing s with
  | nil => cases h; rfl
  | cons f fs ih =>
    obtain ⟨v, loc, hf, hfs⟩ := Store.after_cons_eq_ok.mp h
    simp only [List.cons_append, Store.moments, hf]
    rw [ih hfs]

theorem made_append {s u : Store} {fs : List Fire} (h : s.after strip fs = .ok u) (rule : Nat) (gs : List Fire) :
    s.made strip rule (fs ++ gs) = s.made strip rule fs ++ u.made strip rule gs := by
  rw [Store.made, moments_append h, List.filterMap_append]
  rfl

theorem made_cons_self {s u : Store} {f : Fire} {loc : Option String} {w : Write} {rule : Nat}
    (hf : s.fire strip f.state f.rule f.found = .ok (u, loc)) (hrule : f.rule.index = rule)
    (hw : f.write? strip s = some w) (rest : List Fire) :
    s.made strip rule (f :: rest) = w.value :: u.made strip rule rest := by
  simp only [Store.made, Store.moments, hf, List.filterMap_cons, hrule, if_true, hw, Option.map_some]

theorem made_cons_of_ne {s u : Store} {f : Fire} {loc : Option String} {rule : Nat}
    (hf : s.fire strip f.state f.rule f.found = .ok (u, loc)) (hrule : f.rule.index ≠ rule) (rest : List Fire) :
    s.made strip rule (f :: rest) = u.made strip rule rest := by
  simp only [Store.made, Store.moments, hf, List.filterMap_cons, if_neg hrule]

/-! ## Places that do not change -/

theorem expand_of_fixed {text : String} (h : Template.Fixed text) (c : Context) : Template.expand text c = text := by
  have hchars := Template.expandChars_text c h.1 h.2 []
  rw [List.append_nil, Template.expandChars, List.append_nil] at hchars
  rw [Template.expand, hchars, String.ofList_toList]

theorem place_of_fixed {p : Path} (h : ∀ text ∈ p.segments, Template.Fixed text) (c : Context) :
    p.place c = p.segments.map Segment.ofText :=
  List.map_congr_left fun text htext => by rw [expand_of_fixed (h text htext)]

theorem Path.Collects.exists_keys {p : Path} (hp : p.Collects) : ∃ key rest, p.keys = key :: rest := by
  obtain ⟨parents, last, hsegments, -⟩ := hp.marked
  exact List.exists_cons_of_ne_nil (by simp [Path.keys, hsegments])

/-! ## Lists of a tree -/

namespace Tree

/-- A value that is written to a list of the tree stands behind the items that were there. -/
theorem follow?_storeAt (m : Entries Value) (v : Value) {parents : List Segment} (hplain : ∀ a ∈ parents, a.list = false)
    {last : Segment} (hlast : last.list = true) :
    ∃ m', store? m (parents ++ [last]) v = some m' ∧
      (Value.map m').follow? ((parents ++ [last]).map (·.key)) =
        some (.list (itemsAt m ((parents ++ [last]).map (·.key)) ++ [v])) := by
  obtain ⟨m', hm', hfollow⟩ := follow?_store?_settled m v hplain last
  refine ⟨m', hm', ?_⟩
  rw [hfollow, hlast, itemsAt]
  generalize (Value.map m).follow? _ = old
  rcases old with _ | (_ | _ | _) <;> rfl

theorem follow?_congr {m m' : Entries Value} {key : String} (h : find? m' key = find? m key) (rest : List String) :
    (Value.map m').follow? (key :: rest) = (Value.map m).follow? (key :: rest) := by
  simp only [Value.follow?, Value.get?, Value.entries?, Option.bind_some, h]

theorem itemsAt_of_collected {m : Entries Value} {keys : List String} {values : List Value}
    (h : (Value.map m).follow? keys = Value.collected values) : itemsAt m keys = values := by
  rw [itemsAt, h]
  cases values <;> rfl

end Tree

theorem collected_concat (values : List Value) (v : Value) :
    Value.collected (values ++ [v]) = some (.list (values ++ [v])) := by
  cases values <;> rfl

/-! ## Fires -/

section Fires

variable {p : Path} (hp : p.Collects) {f : Fire} {s s' : Store} {loc : Option String}
include hp

theorem follow?_fire (hpath : f.rule.path = some p) (h : s.fire strip f.state f.rule f.found = .ok (s', loc)) :
    ∃ w, f.write? strip s = some w ∧
      (Value.map s'.tree).follow? p.keys = some (.list (Tree.itemsAt s.tree p.keys ++ [w.value])) := by
  obtain ⟨made, -, hw, rfl⟩ := fire_of_some_path hpath h
  refine ⟨_, hw, ?_⟩
  obtain ⟨parents, last, hsegments, hplain, hlast⟩ := hp.marked
  have hplace : p.place (f.opened strip s p) = parents.map Segment.ofText ++ [Segment.ofText last] := by
    rw [place_of_fixed hp.fixed, hsegments, List.map_append, List.map_singleton]
  have hkeys : p.keys = (parents.map Segment.ofText ++ [Segment.ofText last]).map (·.key) := by
    simp [Path.keys, hsegments]
  have hplain : ∀ a ∈ parents.map Segment.ofText, a.list = false := by simpa using hplain
  obtain ⟨tree, htree, hfollow⟩ := Tree.follow?_storeAt s.tree made.value hplain hlast
  simp only [hp.root, Store.write, hplace, htree, Option.getD_some, hkeys]
  exact hfollow

theorem follow?_fire_apart (hpath : ∀ other, f.rule.path = some other → p.Apart other)
    (h : s.fire strip f.state f.rule f.found = .ok (s', loc)) :
    (Value.map s'.tree).follow? p.keys = (Value.map s.tree).follow? p.keys := by
  obtain ⟨key, rest, hkeys⟩ := hp.exists_keys
  rw [hkeys]
  cases hother : f.rule.path with
  | none => rw [(fire_of_no_path hother h).2]
  | some other =>
    by_cases hroot : other.root = .tree
    · obtain ⟨first, more, hmore, hfixed, hkey⟩ := (hpath other hother).resolve_left fun hne => hne hroot
      obtain ⟨made, -, -, rfl⟩ := fire_of_some_path hother h
      have hne : key ≠ (Segment.ofText first).key := by simpa [hkeys] using hkey
      simp only [hroot, Store.write, Path.place, hmore, List.map_cons, expand_of_fixed hfixed, store?, Option.getD_some]
      exact Tree.follow?_congr (Tree.find?_storeAt_of_ne _ _ _ _ hne) rest
    · have hroots : ∀ q, f.rule.path = some q → q.root ≠ .tree := fun q hq => by
        rw [hother, Option.some.injEq] at hq
        rwa [← hq]
      rw [tree_fire hroots h]

/-- After some fires the list holds what it held, and what the fires of its rule made. -/
theorem follow?_after {rule : Nat} {fs : List Fire}
    (hmine : ∀ f ∈ fs, f.rule.index = rule → f.rule.path = some p)
    (hothers : ∀ f ∈ fs, f.rule.index ≠ rule → ∀ other, f.rule.path = some other → p.Apart other)
    {s s' : Store} (h : s.after strip fs = .ok s') {old : List Value}
    (hold : (Value.map s.tree).follow? p.keys = Value.collected old) :
    (Value.map s'.tree).follow? p.keys = Value.collected (old ++ s.made strip rule fs) ∧
      (s.made strip rule fs).length = fs.countP (·.rule.index = rule) := by
  induction fs generalizing s old with
  | nil => cases h; exact ⟨by simpa [Store.made, Store.moments] using hold, rfl⟩
  | cons f fs ih =>
    obtain ⟨u, loc, hf, h⟩ := Store.after_cons_eq_ok.mp h
    have hrest {values : List Value} (hu : (Value.map u.tree).follow? p.keys = Value.collected values) :=
      ih (fun g hg => hmine g (List.mem_cons_of_mem f hg)) (fun g hg => hothers g (List.mem_cons_of_mem f hg)) h hu
    by_cases hrule : f.rule.index = rule
    · obtain ⟨w, hw, hu⟩ := follow?_fire hp (hmine f List.mem_cons_self hrule) hf
      rw [Tree.itemsAt_of_collected hold, ← collected_concat] at hu
      obtain ⟨hlist, hlength⟩ := hrest hu
      rw [made_cons_self hf hrule hw]
      refine ⟨by rw [hlist, List.append_assoc, List.singleton_append], ?_⟩
      rw [List.length_cons, hlength, List.countP_cons_of_pos (by simpa using hrule)]
    · have hu := (follow?_fire_apart hp (hothers f List.mem_cons_self hrule) hf).trans hold
      rw [made_cons_of_ne hf hrule, List.countP_cons_of_neg (by simpa using hrule)]
      exact hrest hu

end Fires

/-! ## Scans -/

/-- The tally of a rule says how often it fired. -/
theorem tally_fired {t : Table} {o : ScanOptions} {lines : List String} {s : Scan} (h : t.scan o lines = .ok s) {i : Nat}
    (hi : i < t.rules.length) :
    ∃ tally, s.metrics.tallies[i]? = some tally ∧
      tally.fired = (t.fires "top" lines).countP (·.rule.index = i) := by
  have htallies := (run_counted h).tallies i
  have hstart : (Scan.start t).metrics.tallies[i]? = some {} := by
    rw [Scan.start, List.getElem?_map, List.getElem?_eq_getElem hi, Option.map_some]
  have hcount : (((t.readings "top" lines).flatMap (Reading.fired t.rules)).map (·.index)).count i =
      (t.fires "top" lines).countP (·.rule.index = i) := by
    rw [← rules_fires, List.map_map, List.count_eq_countP, List.countP_map]
    rfl
  rw [hstart, Option.map_some] at htallies
  exact ⟨_, htallies, (Nat.zero_add _).trans hcount⟩

/-- A rule whose path leads to a list, the same one at every fire, and is kept apart from the paths of all
    other rules: nothing is at its place in the tree while it has not fired, and then a list of what its
    fires made, one item for each, in their order. So it is after every fire of the scan, and the items
    stay as they are. -/
theorem scan_collects {flags : Pattern.Flags} {rows : List Row} {t : Table} (ht : Table.ofRows flags rows = .ok t)
    {j : Nat} {rule : Rule} {p : Path} (hrule : t.rules[j]? = some rule) (hpath : rule.path = some p)
    (hp : p.Collects)
    (hothers : ∀ (i : Nat) (other : Rule) (q : Path), t.rules[i]? = some other → i ≠ j → other.path = some q → p.Apart q)
    {o : ScanOptions} {lines : List String} {s : Scan} (h : t.scan o lines = .ok s) :
    ∃ tally, s.metrics.tallies[j]? = some tally ∧
      (tally.fired = 0 → s.result.follow? p.keys = none) ∧
      (tally.fired ≠ 0 → s.result.follow? p.keys = some (.list (Store.made o.strip j {} (t.fires "top" lines)))) ∧
      (Store.made o.strip j {} (t.fires "top" lines)).length = tally.fired ∧
      (∀ f ∈ t.fires "top" lines, f.rule.index = j → f.rule = rule) ∧
      ∀ fs gs, t.fires "top" lines = fs ++ gs → ∃ u, Store.after o.strip {} fs = .ok u ∧
        (Value.map u.tree).follow? p.keys = Value.collected (Store.made o.strip j {} fs) ∧
        Store.made o.strip j {} (fs ++ gs) = Store.made o.strip j {} fs ++ u.made o.strip j gs := by
  have hposition : ∀ f ∈ t.fires "top" lines, t.rules[f.rule.index]? = some f.rule := fun f hf =>
    getElem?_index (indices_of_ofRows ht) (mem_fires hf).1
  have hsame : ∀ f ∈ t.fires "top" lines, f.rule.index = j → f.rule = rule := by
    intro f hf hj
    have hfound := hposition f hf
    rw [hj, hrule, Option.some.injEq] at hfound
    exact hfound.symm
  have hempty : (Value.map ({} : Store).tree).follow? p.keys = Value.collected [] := by
    obtain ⟨key, rest, hkeys⟩ := hp.exists_keys
    rw [hkeys]
    rfl
  have hlist {fs : List Fire} {u : Store} (hfs : ∀ f ∈ fs, f ∈ t.fires "top" lines)
      (hu : Store.after o.strip {} fs = .ok u) :
      (Value.map u.tree).follow? p.keys = Value.collected (Store.made o.strip j {} fs) ∧
        (Store.made o.strip j {} fs).length = fs.countP (·.rule.index = j) :=
    follow?_after hp (fun f hf hj => hsame f (hfs f hf) hj ▸ hpath)
      (fun f hf hj q hq => hothers _ _ q (hposition f (hfs f hf)) hj hq) hu hempty
  have hstore : Store.after o.strip {} (t.fires "top" lines) = .ok s.store := run_store h
  obtain ⟨hheld, hlength⟩ := hlist (fun _ hf => hf) hstore
  obtain ⟨tally, htally, hfired⟩ := tally_fired h (List.getElem?_eq_some_iff.mp hrule).1
  rw [← hfired] at hlength
  refine ⟨tally, htally, fun hzero => ?_, fun hsome => ?_, hlength, hsame, fun fs gs hfires => ?_⟩
  · rw [hzero, List.length_eq_zero_iff] at hlength
    rw [hlength] at hheld
    exact hheld
  · obtain ⟨v, vs, hvs⟩ := List.exists_cons_of_length_pos (hlength ▸ Nat.pos_of_ne_zero hsome)
    rw [hvs] at hheld ⊢
    exact hheld
  · obtain ⟨u, hu, -⟩ := Store.after_append_eq_ok (hfires ▸ hstore)
    have hfs : ∀ f ∈ fs, f ∈ t.fires "top" lines := fun f hf => hfires ▸ List.mem_append_left gs hf
    exact ⟨u, hu, (hlist hfs hu).1, made_append hu j gs⟩

/-- Letters are collected below a mapping, by a function that forgets the context. The first rule keeps
    them in a buffer too, and the last one files dashes beside the list. -/
def letters : List Row :=
  [ { pattern := .text "[a-z]", transition := .proceed, path := some (.dotted ">>seen.all[]") },
    { pattern := .text "[a-z]", path := some (.dotted "my.Letters[]"),
      filter := .function fun m _ => .ok ⟨.str m.whole, some .empty⟩ },
    { pattern := .text "-", path := some (.dotted "dashes.{_state}"), filter := .template "-" } ]

theorem scan_collects_letters :
    ∃ t s s', Table.ofRows {} letters = .ok t ∧
      t.scan {} ["b", "-", "a", "", "b"] = .ok s ∧ s.metrics.tallies.map (·.fired) = [3, 3, 1] ∧
      s.result.compact = r#"{"my":{"letters":["b","a","b"]},"dashes":{"top":"-"}}"# ∧
      s.result.follow? ["my", "letters"] = some (.list (Store.made true 1 {} (t.fires "top" ["b", "-", "a", "", "b"]))) ∧
      t.scan {} ["-"] = .ok s' ∧ s'.metrics.tallies.map (·.fired) = [0, 0, 1] ∧
      s'.result.follow? ["my", "letters"] = none := by
  have hseen : (Table.ofRows {} letters).map (fun t =>
      (t.rules.map (·.path),
        (t.scan {} ["b", "-", "a", "", "b"]).map fun s => (s.metrics.tallies.map (·.fired), s.result.compact),
        (t.scan {} ["-"]).map fun s => s.metrics.tallies.map (·.fired))) =
      .ok ([some ⟨.buffer "seen" .kept, ["all[]"]⟩, some ⟨.tree, ["my", "Letters[]"]⟩,
          some ⟨.tree, ["dashes", "{_state}"]⟩],
        .ok ([3, 3, 1], r#"{"my":{"letters":["b","a","b"]},"dashes":{"top":"-"}}"#),
        .ok [0, 0, 1]) := by decide +kernel
  obtain ⟨t, ht, hvalues⟩ := map_eq_ok hseen
  simp only [Prod.mk.injEq] at hvalues
  obtain ⟨hpaths, hscan, hscan'⟩ := hvalues
  obtain ⟨s, hs, hvalues⟩ := map_eq_ok hscan.symm
  obtain ⟨s', hs', hfired'⟩ := map_eq_ok hscan'.symm
  obtain ⟨hfired, hresult⟩ := Prod.mk.inj hvalues
  have hpathAt (i : Nat) : (t.rules[i]?).map (·.path) = (t.rules.map (·.path))[i]? := List.getElem?_map.symm
  obtain ⟨rule, hrule, hpath⟩ := Option.map_eq_some_iff.mp ((hpathAt 1).trans (by rw [← hpaths]; rfl))
  have hp : (⟨.tree, ["my", "Letters[]"]⟩ : Path).Collects :=
    ⟨rfl, by simp [Template.Fixed], ["my"], "Letters[]", rfl, by decide, by decide⟩
  have hothers : ∀ (i : Nat) (other : Rule) (q : Path), t.rules[i]? = some other → i ≠ 1 → other.path = some q →
      Path.Apart ⟨.tree, ["my", "Letters[]"]⟩ q := by
    intro i other q hother hi hq
    have hat := hpathAt i
    rw [hother, Option.map_some, hq, ← hpaths] at hat
    match i, hi, hat with
    | 0, _, hat => cases hat; exact .inl (by decide)
    | 2, _, hat => cases hat; exact .inr ⟨"dashes", _, rfl, by simp [Template.Fixed], by decide⟩
  have hkeys : Path.keys ⟨.tree, ["my", "Letters[]"]⟩ = ["my", "letters"] := by decide
  obtain ⟨tally, htally, -, hlist, -⟩ := scan_collects ht hrule hpath hp hothers hs
  obtain ⟨tally', htally', hnone, -⟩ := scan_collects ht hrule hpath hp hothers hs'
  rw [hkeys] at hlist hnone
  have hfiredAt {u : Scan} {c : Tally} {n : Nat} (hc : u.metrics.tallies[1]? = some c)
      (hn : (u.metrics.tallies.map (·.fired))[1]? = some n) : c.fired = n := by
    rw [List.getElem?_map, hc] at hn
    simpa using hn
  have hthree : tally.fired = 3 := hfiredAt htally (by rw [← hfired]; rfl)
  have hzero : tally'.fired = 0 := hfiredAt htally' (by rw [← hfired']; rfl)
  exact ⟨t, s, s', ht, hs, hfired.symm, hresult.symm, hlist (by simp [hthree]), hs', hfired'.symm, hnone hzero⟩

end LineRules
