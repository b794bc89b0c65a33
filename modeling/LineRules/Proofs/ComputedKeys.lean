/-
  LineRules.Proofs.ComputedKeys — every key that a scan computes is normal.

  Mappings travel between the tree and the buffers of the context: a buffer is built key by key,
  then copied into the tree or into another buffer, or merged there key by key, and nobody looks at
  its keys again. So the invariant is about the tree and all values in the context at once
  (`Store.Throughout`). A fire keeps it, as long as the value that it writes is a text or an entry
  of the context (`throughout_fire`): the keys of the place it writes to are made by `Key.ofText`,
  and all else was in the store before.

  The names of the context's own entries are no such keys: groups and buffers are named as they are
  written.
-/

import LineRules.Proofs.Buffers
import LineRules.Proofs.Course
import LineRules.Proofs.Keys

namespace LineRules

open Entries (keys find?)

def Context.Every (P : Entries Value → Prop) (c : Context) : Prop := ∀ e ∈ c.entries, e.2.Every P

structure Store.Throughout (P : Entries Value → Prop) (s : Store) : Prop where
  tree : (Value.map s.tree).Every P
  context : s.context.Every P

/-- What the rule stores, if it stores anything, is the text of a template or an entry of the
    context. -/
def Rule.Computes (r : Rule) : Prop :=
  r.path ≠ none → (∃ text, r.filter = .template text) ∨ ∃ name, r.filter = .entry name

theorem isFunction_of_computes {filter : Filter}
    (h : (∃ text, filter = .template text) ∨ ∃ name, filter = .entry name) : filter.isFunction = false := by
  rcases h with ⟨text, rfl⟩ | ⟨name, rfl⟩ <;> rfl

theorem sure_of_computes {rule : Rule} (h : rule.Computes) : rule.Sure := by
  by_cases hp : rule.path = none
  · exact .inl hp
  · exact .inr (isFunction_of_computes (h hp))

/-! ## The context -/

namespace Context

variable {P : Entries Value → Prop} {c : Context}

theorem every_insert (hc : c.Every P) (key : String) {v : Value} (hv : v.Every P) : (c.insert key v).Every P := by
  intro e he
  rcases Entries.mem_insert he with rfl | he
  · exact hv
  · exact hc e he

theorem every_insertAll (hc : c.Every P) {news : Entries Value} (hn : ∀ e ∈ news, e.2.Every P) :
    (c.insertAll news).Every P := fun e he => (Entries.mem_insertAll he).elim (hc e) (hn e)

theorem every_of_get? (hc : c.Every P) {name : String} {v : Value} (h : c.get? name = some v) : v.Every P :=
  hc _ (Entries.mem_of_find? h)

end Context

/-- Groups are texts. -/
theorem every_capturesOf (P : Entries Value → Prop) (strip : Bool) (m : Match) :
    ∀ e ∈ Store.capturesOf strip m, e.2.Every P := by
  intro e he
  rcases Entries.mem_insertAll he with he | he
  · cases he
  · obtain ⟨g, -, rfl⟩ := List.mem_map.mp he
    exact Value.every_str P _

theorem every_absorb {P : Entries Value → Prop} {c : Context} (hc : c.Every P) (strip : Bool) (m : Match)
    (state : String) (rule : Rule) : (Store.absorb c (Store.capturesOf strip m) state rule).Every P := by
  have hnames : (Value.list (rule.guard.names.map .str)).Every P := by
    rw [Value.every_list_iff]
    intro v hv
    obtain ⟨name, -, rfl⟩ := List.mem_map.mp hv
    exact Value.every_str P name
  have hgroups := Context.every_insertAll hc (every_capturesOf P strip m)
  exact Context.every_insert (Context.every_insert (Context.every_insert hgroups _ hnames) _ (Value.every_str P _)) _
    (Value.every_str P _)

/-! ## The place -/

section Place

variable {K : String → Prop} (hK : ∀ text, K (Key.ofText text))
include hK

theorem key_ofText (text : String) : K (Segment.ofText text).key := by
  unfold Segment.ofText
  split
  · exact hK _
  · exact hK text

theorem key_of_mem_place {path : Path} {c : Context} {a : Segment} (h : a ∈ path.place c) : K a.key := by
  obtain ⟨template, -, rfl⟩ := List.mem_map.mp h
  exact key_ofText hK _

end Place

/-! ## A fire -/

section Fire

variable {K : String → Prop} {P : Entries Value → Prop} (hP : Value.KeyRule K P)
include hP

theorem every_mappingAt {c : Context} (hc : c.Every P) (name : String) : (Value.map (c.mappingAt name)).Every P := by
  unfold Context.mappingAt
  split
  · rename_i m hm; exact Context.every_of_get? hc hm
  · exact Value.every_emptyMap hP

theorem every_fetch {c : Context} (hc : c.Every P) (name : String) : (c.fetch name).Every P := by
  unfold Context.fetch
  cases h : c.get? name with
  | none => exact Value.every_emptyMap hP
  | some v => exact Context.every_of_get? hc h

theorem every_prepare {c : Context} (hc : c.Every P) (path : Path) : (path.prepare c).Every P := by
  unfold Path.prepare
  split
  · exact hc
  · exact Context.every_insert hc _ (Value.every_emptyMap hP)
  · exact Context.every_insert hc _ (every_mappingAt hP hc _)

theorem every_opened {s : Store} (hs : s.Throughout P) (strip : Bool) (f : Fire) (path : Path) :
    (f.opened strip s path).Every P :=
  every_prepare hP (every_absorb hs.context strip f.found f.state f.rule) path

/-- The value of a template or a reference is a text or stood in the context. -/
theorem every_made {filter : Filter} (hfilter : (∃ text, filter = .template text) ∨ ∃ name, filter = .entry name)
    {m : Match} {captured : Entries Value} {c : Context} (hc : c.Every P) {made : Filtered}
    (h : filter.apply m captured c = .ok made) : made.value.Every P := by
  rcases hfilter with ⟨text, rfl⟩ | ⟨name, rfl⟩
  · cases h; exact Value.every_str P _
  · cases h; exact every_fetch hP hc name

theorem throughout_write {s : Store} (hs : s.Throughout P) (root : Root) {place : List Segment}
    (hplace : ∀ a ∈ place, K a.key) {v : Value} (hv : v.Every P) : (s.write root place v).Throughout P := by
  cases root with
  | tree =>
    refine ⟨?_, hs.context⟩
    simp only [Store.write]
    cases h : Tree.store? s.tree place v with
    | none => exact hs.tree
    | some m' => exact Tree.every_store? hP hv hplace hs.tree h
  | buffer name mode =>
    refine ⟨hs.tree, ?_⟩
    simp only [Store.write, Store.storeInBuffer]
    split
    · rename_i m' h
      exact Context.every_insert hs.context name
        (Tree.every_store? hP hv hplace (every_mappingAt hP hs.context name) h)
    · exact Context.every_insert hs.context name hv

/-- A fire of a path writes a value of the store, or a text, and leaves what the write makes of the
    opened store. -/
theorem fire_computes {strip : Bool} {s s' : Store} (hs : s.Throughout P) {f : Fire} {loc : Option String}
    (hf : f.rule.Computes) {path : Path} (hp : f.rule.path = some path)
    (h : s.fire strip f.state f.rule f.found = .ok (s', loc)) :
    ∃ v, f.write? strip s = some ⟨path.root, path.place (f.opened strip s path), v⟩ ∧ v.Every P ∧
      s' = ({ s with context := f.opened strip s path } : Store).write path.root
        (path.place (f.opened strip s path)) v := by
  have hfilter := hf (by simp [hp])
  obtain ⟨v, hw, hv, hs'⟩ := fire_of_path hp (isFunction_of_computes hfilter) h
  exact ⟨v, hw, every_made hP hfilter (every_opened hP hs strip f path) hv, hs'⟩

theorem throughout_fire (hK : ∀ text, K (Key.ofText text)) {strip : Bool} {s s' : Store} (hs : s.Throughout P)
    {f : Fire} {loc : Option String} (hf : f.rule.Computes)
    (h : s.fire strip f.state f.rule f.found = .ok (s', loc)) : s'.Throughout P := by
  cases hp : f.rule.path with
  | none =>
    obtain ⟨hcontext, htree⟩ := fire_of_no_path hp h
    exact ⟨htree ▸ hs.tree, hcontext ▸ every_absorb hs.context strip f.found f.state f.rule⟩
  | some path =>
    obtain ⟨v, -, hv, rfl⟩ := fire_computes hP hs hf hp h
    have hopened : ({ s with context := f.opened strip s path } : Store).Throughout P :=
      ⟨hs.tree, every_opened hP hs strip f path⟩
    exact throughout_write hP hopened path.root (fun a ha => key_of_mem_place hK ha) hv

end Fire

/-! ## Normal keys -/

/-- The keys of the mapping are normal, and so each is its own key. -/
def NormalKeys (m : Entries Value) : Prop := ∀ key ∈ keys m, Key.ofText key = key ∧ Key.Normal key

theorem keyRule_normalKeys : Value.KeyRule (fun key => Key.ofText key = key ∧ Key.Normal key) NormalKeys :=
  Value.keyRule_keys _

theorem normal_ofText_self (text : String) :
    Key.ofText (Key.ofText text) = Key.ofText text ∧ Key.Normal (Key.ofText text) :=
  ⟨Key.ofText_of_normal (Key.normal_ofText text), Key.normal_ofText text⟩

/-- If all rules that store something store texts of templates and entries of the context, then at
    every moment of a scan the keys at all depths of the tree and of the values in the context are
    normal: between fires, and within one when its value is made and written. -/
theorem scan_normalKeys {t : Table} (ht : ∀ rule ∈ t.rules, rule.Computes) (o : ScanOptions) (lines : List String) :
    ∃ final, t.scan o lines = .ok final ∧ Store.after o.strip {} (t.fires "top" lines) = .ok final.store ∧
      ∀ fs rest, t.fires "top" lines = fs ++ rest → ∃ s, Store.after o.strip {} fs = .ok s ∧
        s.Throughout NormalKeys ∧
        ∀ f more path, rest = f :: more → f.rule.path = some path →
          (f.opened o.strip s path).Every NormalKeys ∧
          (∀ a ∈ path.place (f.opened o.strip s path), Key.ofText a.key = a.key ∧ Key.Normal a.key) ∧
          ∃ v, f.write? o.strip s = some ⟨path.root, path.place (f.opened o.strip s path), v⟩ ∧
            v.Every NormalKeys := by
  have hcomputes : ∀ f ∈ t.fires "top" lines, f.rule.Computes := fun f hf => ht _ (mem_fires hf).1
  have hempty : ({} : Store).Throughout NormalKeys :=
    ⟨Value.every_emptyMap keyRule_normalKeys, fun e he => by cases he⟩
  obtain ⟨final, hfinal, hafter, hmoments⟩ := scan_of_step (I := fun _ s => s.Throughout NormalKeys)
    (fun rule hmem => sure_of_computes (ht rule hmem)) o lines hempty
    fun f hf _ _ _ _ hs hfire => throughout_fire keyRule_normalKeys normal_ofText_self hs (hcomputes f hf) hfire
  refine ⟨final, hfinal, hafter, fun fs rest hfires => ?_⟩
  obtain ⟨s, hs, hthrough⟩ := hmoments fs rest hfires
  refine ⟨s, hs, hthrough, fun f more path hrest hp => ?_⟩
  have hf : f.rule.Computes := hcomputes f (by simp [hfires, hrest])
  obtain ⟨s', loc, hfire⟩ := fire_of_sure o.strip f.state (sure_of_computes hf) s f.found
  obtain ⟨v, hw, hv, -⟩ := fire_computes keyRule_normalKeys hthrough hf hp hfire
  refine ⟨every_opened keyRule_normalKeys hthrough o.strip f path, ?_, v, hw, hv⟩
  exact fun a ha => key_of_mem_place (K := fun key => Key.ofText key = key ∧ Key.Normal key) normal_ofText_self ha

def sizes : List Row :=
  [ { pattern := .text "(?P<k>[A-Z])=(?P<v>[0-9])", path := some (.dotted ">>rec.{k}  Size"),
      filter := .template "{v}" },
    { pattern := .text "-", path := some (.dotted "Disk-Sizes[]"), filter := .entry "rec" } ]

theorem scan_normalKeys_sizes :
    ∃ t final, Table.ofRows {} sizes = .ok t ∧ t.scan {} ["A=1", "-"] = .ok final ∧
      final.result.compact = r#"{"disk_sizes":[{"a_size":"1"}]}"# ∧
      final.store.Throughout NormalKeys := by
  have hseen : (Table.ofRows {} sizes).map (fun t => (t.scan {} ["A=1", "-"]).map fun s => s.result.compact) =
      .ok (.ok r#"{"disk_sizes":[{"a_size":"1"}]}"#) := by decide +kernel
  obtain ⟨t, ht, hscan⟩ := map_eq_ok hseen
  obtain ⟨final, hfinal, hcompact⟩ := map_eq_ok hscan.symm
  have hcomputes : ∀ rule ∈ t.rules, rule.Computes := by
    intro rule hrule _
    obtain ⟨row, hrow, hr⟩ := exists_row ht hrule
    rw [hr.fields.2.2.1]
    rcases List.mem_pair.mp hrow with rfl | rfl
    · exact .inl ⟨_, rfl⟩
    · exact .inr ⟨_, rfl⟩
  obtain ⟨final', hfinal', hafter, hmoments⟩ := scan_normalKeys hcomputes {} ["A=1", "-"]
  obtain rfl : final = final' := by simpa [hfinal] using hfinal'
  obtain ⟨s, hs, hthrough, -⟩ := hmoments _ [] (List.append_nil _).symm
  obtain rfl : final.store = s := by simpa [hafter] using hs
  exact ⟨t, final, ht, hfinal, hcompact.symm, hthrough⟩

end LineRules
