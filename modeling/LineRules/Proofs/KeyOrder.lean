/-
  LineRules.Proofs.KeyOrder — during a scan keys are appended and never move.

  A scan writes to the context and to the tree in many ways: groups and the three entries of every fire
  are inserted, buffers are opened, emptied and overwritten, values are merged into the root, put in each
  other's place or appended to lists. At the top level all of these insert (`grows_prepare`,
  `Tree.grows_store?`), and what is inserted under a key that is there takes its place where it stands. So
  the keys before a fire are the first ones after it (`grows_fire`), and the same goes for the fires of a line
  and for the lines of a scan (`grows_after`, `scan_grows`). Only a function could have put another
  context in place of the one that is there.
-/

import LineRules.Proofs.Readings
import LineRules.Proofs.Slices

namespace LineRules

open Entries (keys Distinct Grows)

/-! ## A fire -/

theorem grows_absorb (c : Context) (captured : Entries Value) (state : String) (rule : Rule) :
    Grows c.entries (Store.absorb c captured state rule).entries :=
  (Entries.grows_insertAll _ captured).trans <| (Entries.grows_insert _ _ _).trans <|
    (Entries.grows_insert _ _ _).trans (Entries.grows_insert _ _ _)

theorem grows_prepare (path : Path) (c : Context) : Grows c.entries (path.prepare c).entries := by
  unfold Path.prepare
  split
  · exact .refl _
  · exact Entries.grows_insert _ _ _
  · exact Entries.grows_insert _ _ _

namespace Store

/-- The keys of the context and those of the tree are the first ones of what the store has become, and no
    key comes twice that did not. -/
structure Grows (s s' : Store) : Prop where
  context : Entries.Grows s.context.entries s'.context.entries
  tree : Entries.Grows s.tree s'.tree

theorem Grows.refl (s : Store) : s.Grows s := ⟨.refl _, .refl _⟩

theorem Grows.trans {s s' s'' : Store} (h : s.Grows s') (h' : s'.Grows s'') : s.Grows s'' :=
  ⟨h.context.trans h'.context, h.tree.trans h'.tree⟩

theorem grows_write (s : Store) (root : Root) (place : List Segment) (v : Value) : s.Grows (s.write root place v) := by
  cases root with
  | tree =>
    refine ⟨.refl _, ?_⟩
    simp only [write]
    cases h : Tree.store? s.tree place v with
    | none => exact .refl _
    | some tree => exact Tree.grows_store? h
  | buffer name mode =>
    refine ⟨?_, .refl _⟩
    simp only [write, storeInBuffer]
    split
    · exact Entries.grows_insert _ _ _
    · exact Entries.grows_insert _ _ _

theorem grows_fire {strip : Bool} {s s' : Store} {f : Fire} {loc : Option String}
    (hf : f.rule.filter.isFunction = false) (h : s.fire strip f.state f.rule f.found = .ok (s', loc)) :
    s.Grows s' := by
  have habsorb := grows_absorb s.context (capturesOf strip f.found) f.state f.rule
  cases hp : f.rule.path with
  | none =>
    obtain ⟨hcontext, htree⟩ := fire_of_no_path hp h
    exact ⟨hcontext ▸ habsorb, htree ▸ .refl _⟩
  | some path =>
    obtain ⟨v, -, -, rfl⟩ := fire_of_path hp hf h
    have hopened : s.Grows { s with context := f.opened strip s path } :=
      ⟨habsorb.trans (grows_prepare path _), .refl _⟩
    exact hopened.trans (grows_write _ path.root _ v)

theorem grows_after {strip : Bool} {fs : List Fire} (hf : ∀ f ∈ fs, f.rule.filter.isFunction = false) {s s' : Store}
    (h : s.after strip fs = .ok s') : s.Grows s' := by
  induction fs generalizing s with
  | nil => cases h; exact .refl _
  | cons f rest ih =>
    obtain ⟨u, loc, hfire, hrest⟩ := after_cons_eq_ok.mp h
    exact (grows_fire (hf f List.mem_cons_self) hfire).trans (ih (fun g hg => hf g (List.mem_cons_of_mem f hg)) hrest)

end Store

/-! ## Lines -/

section Lines

variable {t : Table} {o : ScanOptions} (hf : ∀ rule ∈ t.rules, rule.filter.isFunction = false)
include hf

theorem grows_run {s s' : Scan} {lines : List String} (h : s.run t o lines = .ok s') : s.store.Grows s'.store :=
  Store.grows_after (fun _ hmem => hf _ (mem_fires hmem).1) (run_store h)

theorem grows_line {s s' : Scan} {text : String} (h : s.line t o text = .ok s') : s.store.Grows s'.store := by
  have hrun : s.run t o [text] = .ok s' := by simp only [Scan.run, h, ite_self]
  exact grows_run hf hrun

theorem distinct_of_reachable {s : Scan} (hs : Reachable t o s) :
    Distinct s.store.context.entries ∧ Distinct s.store.tree := by
  induction hs with
  | start => exact ⟨List.nodup_nil, List.nodup_nil⟩
  | line _ hl ih =>
    have hgrows := grows_line hf hl
    exact ⟨hgrows.context.distinct ih.1, hgrows.tree.distinct ih.2⟩

end Lines

/-- Without filter functions every line is read, and the keys of the context before it are the first ones
    after it, in the same order; so are those of the tree. The same holds from any line of a scan to any
    later one, and from any moment of it to its end. At no moment does a key come twice in either. -/
theorem scan_grows {t : Table} (hf : ∀ rule ∈ t.rules, rule.filter.isFunction = false) (o : ScanOptions) :
    (∀ s, Reachable t o s → Distinct s.store.context.entries ∧ Distinct s.store.tree ∧
      ∀ text, ∃ s', s.line t o text = .ok s' ∧ Reachable t o s' ∧
        keys s.store.context.entries <+: keys s'.store.context.entries ∧ keys s.store.tree <+: keys s'.store.tree) ∧
    (∀ lines more, ∃ s s', t.scan o lines = .ok s ∧ t.scan o (lines ++ more) = .ok s' ∧
      Reachable t o s ∧ Reachable t o s' ∧
      keys s.store.context.entries <+: keys s'.store.context.entries ∧ keys s.store.tree <+: keys s'.store.tree) ∧
    ∀ lines fs rest, t.fires "top" lines = fs ++ rest → ∃ u s', Store.after o.strip {} fs = .ok u ∧
      t.scan o lines = .ok s' ∧ Distinct u.context.entries ∧ Distinct u.tree ∧
      keys u.context.entries <+: keys s'.store.context.entries ∧ keys u.tree <+: keys s'.store.tree := by
  refine ⟨?_, ?_, ?_⟩
  · intro s hs
    obtain ⟨hcontext, htree⟩ := distinct_of_reachable hf hs
    refine ⟨hcontext, htree, fun text => ?_⟩
    obtain ⟨r, hr⟩ := tryRules_of_sure o.strip s.state text (fun rule hmem => .inr (hf rule hmem)) s.store
    have hline := line_of_tryRules hr
    have hgrows := grows_line hf hline
    exact ⟨_, hline, hs.line hline, hgrows.context.keys_prefix, hgrows.tree.keys_prefix⟩
  · intro lines more
    obtain ⟨s, hs⟩ := run_of_no_function hf o (Scan.start t) lines
    obtain ⟨s', hs'⟩ := run_of_no_function hf o (Scan.start t) (lines ++ more)
    have hgrows : s.store.Grows s'.store := by
      have happend := run_append (t := t) (o := o) (Scan.start t) rfl lines more
      rw [hs', hs] at happend
      dsimp only at happend
      split at happend
      · cases happend; exact .refl _
      · exact grows_run hf happend.symm
    exact ⟨s, s', hs, hs', reachable_run .start hs, reachable_run .start hs', hgrows.context.keys_prefix,
      hgrows.tree.keys_prefix⟩
  · intro lines fs rest hfires
    obtain ⟨s', hs'⟩ := run_of_no_function hf o (Scan.start t) lines
    have hafter : Store.after o.strip {} (fs ++ rest) = .ok s'.store := hfires ▸ run_store hs'
    obtain ⟨u, hu, hrest⟩ := Store.after_append_eq_ok hafter
    have hfire : ∀ f ∈ fs ++ rest, f.rule.filter.isFunction = false := fun f hmem =>
      hf _ (mem_fires (hfires ▸ hmem)).1
    have hbefore := Store.grows_after (fun f hmem => hfire f (List.mem_append_left _ hmem)) hu
    have hgrows := Store.grows_after (fun f hmem => hfire f (List.mem_append_right _ hmem)) hrest
    exact ⟨u, s', hu, hs', hbefore.context.distinct List.nodup_nil, hbefore.tree.distinct List.nodup_nil,
      hgrows.context.keys_prefix, hgrows.tree.keys_prefix⟩

def merging : List Row :=
  [ { pattern := .text "(?P<k>[a-z])=(?P<v>[0-9])", path := some (.dotted ">>rec.{k}"),
      filter := .template "{v}" },
    { pattern := .text "-", path := some (.dotted ""), filter := .entry "rec" },
    { pattern := .text "!", path := some (.dotted ">rec"), filter := .literal (.str "none") } ]

theorem scan_grows_merging :
    ∃ t s s', Table.ofRows {} merging = .ok t ∧ t.scan {} ["b=1", "-"] = .ok s ∧
      t.scan {} (["b=1", "-"] ++ ["!", "a=4", "-"]) = .ok s' ∧
      s.result.compact = r#"{"b":"1"}"# ∧
      s'.result.compact = r#"{"b":"1","a":"4"}"# ∧
      keys s.store.context.entries <+: keys s'.store.context.entries ∧ keys s.store.tree <+: keys s'.store.tree := by
  have hseen : (Table.ofRows {} merging).map (fun t =>
      ((t.scan {} ["b=1", "-"]).map fun s => s.result.compact,
        (t.scan {} (["b=1", "-"] ++ ["!", "a=4", "-"])).map fun s => s.result.compact)) =
      .ok (.ok r#"{"b":"1"}"#, .ok r#"{"b":"1","a":"4"}"#) := by decide +kernel
  obtain ⟨t, ht, hvalues⟩ := map_eq_ok hseen
  obtain ⟨hscan, hscan'⟩ := Prod.mk.inj hvalues
  have hf : ∀ rule ∈ t.rules, rule.filter.isFunction = false := by
    intro rule hrule
    obtain ⟨row, hrow, hr⟩ := exists_row ht hrule
    rw [hr.fields.2.2.1]
    simp only [merging, List.mem_cons, List.not_mem_nil, or_false] at hrow
    rcases hrow with rfl | rfl | rfl <;> rfl
  obtain ⟨s, s', hs, hs', -, -, hcontext, htree⟩ :=
    (scan_grows hf {}).2.1 ["b=1", "-"] ["!", "a=4", "-"]
  rw [hs] at hscan
  rw [hs'] at hscan'
  exact ⟨t, s, s', ht, hs, hs', (Except.ok.inj hscan).symm, (Except.ok.inj hscan').symm, hcontext, htree⟩

end LineRules
