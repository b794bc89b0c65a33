/-
  LineRules.Proofs.Buffers — a buffer holds what the rules that write to it made of it.

  Buffers live among the other entries of the context. What a fire writes is a value at a place
  under a root (`Write`); written to a buffer it changes the buffer's entry by `bufferStep`.
  For a name that is none of the three entries a fire always sets, and no group of a pattern,
  nothing else touches the entry (`get?_fire`). So at every moment of a scan without filter
  functions the entry is the fold of the writes to the buffer, and a rule that commits the
  buffer into the tree commits just this fold (`buffer_eq_fold`).
-/

import LineRules.Proofs.History
import LineRules.Proofs.TreeWriting

namespace LineRules

open LineRules.Tree (store? follow? basis listAt)
open Entries (find?)

structure Write where
  root : Root
  place : List Segment
  value : Value

namespace Fire

/-- The context of a fire when its value is made: the groups are taken in and the buffer is
    ready. -/
def opened (strip : Bool) (s : Store) (f : Fire) (path : Path) : Context :=
  path.prepare (Store.absorb s.context (Store.capturesOf strip f.found) f.state f.rule)

/-- What a fire writes to a store, if its rule has a path and its filter does not refuse. -/
def write? (strip : Bool) (s : Store) (f : Fire) : Option Write :=
  f.rule.path.bind fun path =>
    match f.rule.filter.apply f.found (Store.capturesOf strip f.found) (f.opened strip s path) with
    | .ok made => some ⟨path.root, path.place (f.opened strip s path), made.value⟩
    | .error _ => none

end Fire

def Store.writes (strip : Bool) (s : Store) : List Fire → List Write
  | [] => []
  | f :: rest =>
    (f.write? strip s).toList ++
      match s.fire strip f.state f.rule f.found with
      | .ok (s, _) => s.writes strip rest
      | .error _ => []

/-- The part of a write that concerns a buffer: how it treats it, where and what it writes. -/
def Write.toBuffer? (name : String) (w : Write) : Option (BufferMode × List Segment × Value) :=
  match w.root with
  | .tree => none
  | .buffer other mode => if other = name then some (mode, w.place, w.value) else none

def bufferBase (mode : BufferMode) (entry : Option Value) : Entries Value :=
  match mode, entry with
  | .kept, some (.map m) => m
  | _, _ => []

def bufferStep (entry : Option Value) (w : BufferMode × List Segment × Value) : Option Value :=
  let base := bufferBase w.1 entry
  if w.2.1 = [] ∧ w.2.2.entries? = none then some w.2.2
  else some (.map ((store? base w.2.1 w.2.2).getD base))

def bufferAfter (name : String) (ws : List Write) : Option Value :=
  (ws.filterMap (Write.toBuffer? name)).foldl bufferStep none

/-! ## What touches an entry -/

namespace Context

theorem get?_insert (c : Context) (key k : String) (v : Value) :
    (c.insert key v).get? k = if key = k then some v else c.get? k :=
  Entries.find?_insert c.entries key k v

theorem get?_openKept (c : Context) (name : String) :
    (c.openKept name).get? name = some (.map (bufferBase .kept (c.get? name))) := by
  rw [openKept, get?_insert, if_pos rfl]
  rcases h : c.get? name with _ | (_ | _ | _) <;> simp [mappingAt, bufferBase, h]

end Context

theorem keys_insertAll_subset {α : Type} {m news : Entries α} {key : String}
    (h : key ∈ Entries.keys (Entries.insertAll m news)) : key ∈ Entries.keys m ∨ key ∈ Entries.keys news := by
  obtain ⟨e, he, rfl⟩ := List.mem_map.mp h
  exact (Entries.mem_insertAll he).imp (fun h => List.mem_map_of_mem h) (fun h => List.mem_map_of_mem h)

theorem keys_capturesOf {strip : Bool} {m : Match} {key : String} (h : key ∈ Entries.keys (Store.capturesOf strip m)) :
    some key ∈ m.groupNames := by
  rcases keys_insertAll_subset h with h | h
  · cases h
  · simp only [Entries.keys, List.map_map, List.mem_map, Function.comp, Match.named, List.mem_filterMap] at h
    obtain ⟨g, ⟨⟨name, i⟩, hmem, hname⟩, rfl⟩ := h
    obtain ⟨n, rfl, rfl⟩ := Option.map_eq_some_iff.mp hname
    exact List.fst_mem_of_mem_zipIdx hmem

theorem groupNames_of_match? {rule : Rule} {line : String} {m : Match} (h : rule.match? line = some m) :
    m.groupNames = rule.pattern.groupNames := by
  unfold Rule.match? at h
  split at h
  · obtain ⟨slots, -, rfl⟩ := Option.map_eq_some_iff.mp h; rfl
  · obtain ⟨slots, -, rfl⟩ := Option.map_eq_some_iff.mp h; rfl

/-- A name that is no group and none of the entries that a fire always sets. -/
structure FreeName (name : String) (groups : List (Option String)) : Prop where
  not_state : name ≠ "_state"
  not_guard : name ≠ "_ifstate"
  not_transition : name ≠ "_gotostate"
  not_group : some name ∉ groups

/-- Of the entries that a fire does not always set, it takes in those that it captured. -/
theorem get?_absorb_of_ne (strip : Bool) {name : String} (hstate : name ≠ "_state") (hguard : name ≠ "_ifstate")
    (htransition : name ≠ "_gotostate") (c : Context) (m : Match) (state : String) (rule : Rule) :
    (Store.absorb c (Store.capturesOf strip m) state rule).get? name =
      (find? (Store.capturesOf strip m) name).or (c.get? name) := by
  have hdistinct : Entries.Distinct (Store.capturesOf strip m) := Entries.distinct_insertAll (m := []) List.nodup_nil _
  simp only [Store.absorb, Context.get?_insert, Ne.symm hstate, Ne.symm hguard, Ne.symm htransition, if_false]
  exact Entries.find?_insertAll c.entries hdistinct name

theorem get?_absorb (strip : Bool) {name : String} {m : Match} (h : FreeName name m.groupNames) (c : Context)
    (state : String) (rule : Rule) :
    (Store.absorb c (Store.capturesOf strip m) state rule).get? name = c.get? name := by
  have hnone : find? (Store.capturesOf strip m) name = none :=
    (Entries.find?_eq_none_iff _ name).mpr fun hk => h.not_group (keys_capturesOf hk)
  rw [get?_absorb_of_ne strip h.not_state h.not_guard h.not_transition, hnone, Option.none_or]

theorem get?_prepare_of_ne {path : Path} {name : String} (h : ∀ mode, path.root ≠ .buffer name mode) (c : Context) :
    (path.prepare c).get? name = c.get? name := by
  unfold Path.prepare
  split
  · rfl
  · rename_i other hroot
    have hne : other ≠ name := fun e => h .fresh (e ▸ hroot)
    rw [Context.openFresh, Context.get?_insert, if_neg hne]
  · rename_i other hroot
    have hne : other ≠ name := fun e => h .kept (e ▸ hroot)
    rw [Context.openKept, Context.get?_insert, if_neg hne]

theorem get?_prepare_buffer {path : Path} {name : String} {mode : BufferMode} (h : path.root = .buffer name mode)
    (c : Context) : (path.prepare c).get? name = some (.map (bufferBase mode (c.get? name))) := by
  unfold Path.prepare
  rw [h]
  cases mode with
  | fresh => simp [Context.openFresh, Context.get?_insert, Value.emptyMap, bufferBase]
  | kept => exact Context.get?_openKept c name

theorem get?_write_of_ne {root : Root} {name : String} (h : ∀ mode, root ≠ .buffer name mode) (s : Store)
    (place : List Segment) (v : Value) : (s.write root place v).context.get? name = s.context.get? name := by
  cases root with
  | tree => rfl
  | buffer other mode =>
    have hne : other ≠ name := fun e => h mode (e ▸ rfl)
    simp only [Store.write, Store.storeInBuffer]
    split <;> rw [Context.get?_insert, if_neg hne]

theorem get?_write_buffer {s : Store} {name : String} {mode : BufferMode} {entry : Option Value}
    (h : s.context.get? name = some (.map (bufferBase mode entry))) (place : List Segment) (v : Value) :
    (s.write (.buffer name mode) place v).context.get? name = bufferStep entry (mode, place, v) := by
  have hbase : s.context.mappingAt name = bufferBase mode entry := by simp [Context.mappingAt, h]
  simp only [Store.write, Store.storeInBuffer, hbase, bufferStep]
  cases place with
  | cons a rest => simp [store?, Context.get?_insert]
  | nil => cases v <;> simp [store?, Context.get?_insert, Value.entries?]

/-! ## One fire -/

theorem fire_of_no_path {strip : Bool} {s s' : Store} {f : Fire} {loc : Option String} (hp : f.rule.path = none)
    (h : s.fire strip f.state f.rule f.found = .ok (s', loc)) :
    s'.context = Store.absorb s.context (Store.capturesOf strip f.found) f.state f.rule ∧ s'.tree = s.tree := by
  simp only [Store.fire, hp, Except.ok.injEq, Prod.mk.injEq] at h
  rw [← h.1]; exact ⟨rfl, rfl⟩

/-- What a fire of a rule with a path does when its filter makes something. -/
theorem fire_of_apply {strip : Bool} {s : Store} {f : Fire} {path : Path} (hp : f.rule.path = some path)
    {made : Filtered}
    (hmade : f.rule.filter.apply f.found (Store.capturesOf strip f.found) (f.opened strip s path) = .ok made) :
    s.fire strip f.state f.rule f.found =
        .ok (({ s with context := made.context.getD (f.opened strip s path) } : Store).write path.root
          (path.place (f.opened strip s path)) made.value, some (path.location (path.place (f.opened strip s path)))) ∧
      f.write? strip s = some ⟨path.root, path.place (f.opened strip s path), made.value⟩ := by
  constructor
  · rw [Fire.opened] at hmade ⊢
    simp only [Store.fire, hp, hmade]
  · simp only [Fire.write?, hp, Option.bind_some, hmade]

/-- A fire of a rule with a path writes what the filter makes, in the context that is there then or in
    the one that the filter puts in its stead. -/
theorem fire_of_some_path {strip : Bool} {s s' : Store} {f : Fire} {loc : Option String} {path : Path}
    (hp : f.rule.path = some path) (h : s.fire strip f.state f.rule f.found = .ok (s', loc)) :
    ∃ made, f.rule.filter.apply f.found (Store.capturesOf strip f.found) (f.opened strip s path) = .ok made ∧
      f.write? strip s = some ⟨path.root, path.place (f.opened strip s path), made.value⟩ ∧
      s' = ({ s with context := made.context.getD (f.opened strip s path) } : Store).write path.root
        (path.place (f.opened strip s path)) made.value := by
  unfold Store.fire at h
  simp only [hp] at h
  split at h
  · cases h
  · rename_i made hmade
    cases h
    exact ⟨made, hmade, by simp only [Fire.write?, hp, Option.bind_some, Fire.opened, hmade], rfl⟩

theorem fire_of_path {strip : Bool} {s s' : Store} {f : Fire} {loc : Option String} {path : Path}
    (hp : f.rule.path = some path) (hf : f.rule.filter.isFunction = false)
    (h : s.fire strip f.state f.rule f.found = .ok (s', loc)) :
    ∃ v, f.write? strip s = some ⟨path.root, path.place (f.opened strip s path), v⟩ ∧
      f.rule.filter.apply f.found (Store.capturesOf strip f.found) (f.opened strip s path) = .ok ⟨v, none⟩ ∧
      s' = ({ s with context := f.opened strip s path } : Store).write path.root
        (path.place (f.opened strip s path)) v := by
  obtain ⟨made, hmade, hw, rfl⟩ := fire_of_some_path hp h
  obtain ⟨v, hv⟩ := apply_of_not_function hf f.found (Store.capturesOf strip f.found) (f.opened strip s path)
  obtain rfl : made = ⟨v, none⟩ := by simpa [hmade] using hv
  exact ⟨v, hw, hv, rfl⟩

/-- The segments of the path and the template of the filter are filled in from the same context. -/
theorem write?_of_not_function (strip : Bool) (s : Store) {f : Fire} {path : Path} (hp : f.rule.path = some path)
    (hf : f.rule.filter.isFunction = false) :
    ∃ v, f.write? strip s = some ⟨path.root, path.place (f.opened strip s path), v⟩ ∧
      ∀ text, f.rule.filter = .template text → v = .str (Template.expand text (f.opened strip s path)) := by
  obtain ⟨v, hv⟩ := apply_of_not_function hf f.found (Store.capturesOf strip f.found) (f.opened strip s path)
  refine ⟨v, (fire_of_apply hp hv).2, fun text hfilter => ?_⟩
  rw [hfilter] at hv
  simp only [Filter.apply, Except.ok.injEq, Filtered.mk.injEq, and_true] at hv
  exact hv.symm

/-- A fire changes the entry of a buffer by what it writes to the buffer, and by nothing else. -/
theorem get?_fire {strip : Bool} {s s' : Store} {f : Fire} {loc : Option String} {name : String}
    (hn : FreeName name f.found.groupNames) (hf : f.rule.filter.isFunction = false)
    (h : s.fire strip f.state f.rule f.found = .ok (s', loc)) :
    s'.context.get? name =
      ((f.write? strip s).toList.filterMap (Write.toBuffer? name)).foldl bufferStep (s.context.get? name) := by
  have habsorb := get?_absorb strip hn s.context f.state f.rule
  cases hp : f.rule.path with
  | none => rw [(fire_of_no_path hp h).1, habsorb]; simp [Fire.write?, hp]
  | some path =>
    obtain ⟨v, hw, -, rfl⟩ := fire_of_path hp hf h
    rw [hw]
    by_cases hroot : ∃ mode, path.root = .buffer name mode
    · obtain ⟨mode, hroot⟩ := hroot
      have hopen := get?_prepare_buffer hroot (Store.absorb s.context (Store.capturesOf strip f.found) f.state f.rule)
      rw [habsorb] at hopen
      simpa [hroot, Write.toBuffer?] using
        get?_write_buffer (s := { s with context := f.opened strip s path }) hopen _ v
    · have hroot : ∀ mode, path.root ≠ .buffer name mode := fun mode e => hroot ⟨mode, e⟩
      have hnone : Write.toBuffer? name ⟨path.root, path.place (f.opened strip s path), v⟩ = none := by
        unfold Write.toBuffer?
        split
        · rfl
        · rename_i other mode hother
          exact if_neg fun (e : other = name) => hroot mode (e ▸ hother)
      have hkept : (f.opened strip s path).get? name = s.context.get? name :=
        (get?_prepare_of_ne hroot _).trans habsorb
      rw [get?_write_of_ne hroot]
      simpa [hnone] using hkept

/-! ## Many fires -/

/-- Each rule of some fires has no filter function and no group with the name. -/
def Plain (name : String) (fs : List Fire) : Prop :=
  ∀ f ∈ fs, f.rule.filter.isFunction = false ∧ FreeName name f.found.groupNames

theorem after_of_plain (strip : Bool) {name : String} {fs : List Fire} (h : Plain name fs) (s : Store) :
    ∃ s', s.after strip fs = .ok s' ∧
      s'.context.get? name =
        ((s.writes strip fs).filterMap (Write.toBuffer? name)).foldl bufferStep (s.context.get? name) := by
  induction fs generalizing s with
  | nil => exact ⟨s, rfl, rfl⟩
  | cons f rest ih =>
    obtain ⟨hf, hn⟩ := h f List.mem_cons_self
    obtain ⟨s₁, loc, h₁⟩ := fire_of_not_function strip f.state hf s f.found
    obtain ⟨s', hs', hget⟩ := ih (fun g hg => h g (List.mem_cons_of_mem f hg)) s₁
    refine ⟨s', by simpa only [Store.after, h₁] using hs', ?_⟩
    rw [hget, get?_fire hn hf h₁]
    simp only [Store.writes, h₁, List.filterMap_append, List.foldl_append]

theorem plain_fires {t : Table} {name state : String} {lines : List String}
    (hf : ∀ rule ∈ t.rules, rule.filter.isFunction = false)
    (hn : ∀ rule ∈ t.rules, FreeName name rule.pattern.groupNames) : Plain name (t.fires state lines) := by
  intro f hmem
  obtain ⟨hrule, line, hm⟩ := mem_fires hmem
  exact ⟨hf _ hrule, groupNames_of_match? hm ▸ hn _ hrule⟩

/-! ## Committing a buffer -/

/-- An entry that holds a mapping holds one with distinct keys. -/
def DistinctEntry (entry : Option Value) : Prop := ∀ m, entry = some (.map m) → Entries.Distinct m

theorem distinct_bufferStep {entry : Option Value} (h : DistinctEntry entry)
    (w : BufferMode × List Segment × Value) : DistinctEntry (bufferStep entry w) := by
  have hbase : Entries.Distinct (bufferBase w.1 entry) := by
    unfold bufferBase
    split
    · exact h _ rfl
    · exact List.nodup_nil
  intro m hm
  simp only [bufferStep] at hm
  split at hm
  · rename_i hv
    rw [Option.some.inj hm] at hv
    cases hv.2
  · cases hm
    cases hs : store? (bufferBase w.1 entry) w.2.1 w.2.2 with
    | none => exact hbase
    | some m' => exact (Tree.grows_store? hs).distinct hbase

theorem distinct_bufferAfter (name : String) (ws : List Write) : DistinctEntry (bufferAfter name ws) := by
  have hfold : ∀ (l : List (BufferMode × List Segment × Value)) (entry : Option Value),
      DistinctEntry entry → DistinctEntry (l.foldl bufferStep entry) := by
    intro l
    induction l with
    | nil => exact fun _ h => h
    | cons w l ih => exact fun entry h => ih _ (distinct_bufferStep h w)
  exact hfold _ none fun m hm => by cases hm

/-- A mapping with distinct keys, or any other value, comes to stand as it is in a list and where
    nothing or a text was. -/
theorem store?_whole (tree : Entries Value) (parents : List Segment) (last : Segment) {v : Value}
    (hv : DistinctEntry (some v)) :
    ∃ tree' node, store? tree (parents ++ [last]) v = some tree' ∧ follow? tree' parents = some node ∧
      (last.list = true → find? node last.key = some (.list (listAt (basis tree parents) last.key ++ [v]))) ∧
      (last.list = false → (find? (basis tree parents) last.key = none ∨
        ∃ text, find? (basis tree parents) last.key = some (.str text)) → find? node last.key = some v) := by
  obtain ⟨tree', htree, hnode⟩ := Tree.follow?_store? tree v parents last []
  refine ⟨tree', _, htree, hnode, ?_, ?_⟩ <;> rw [Tree.storeAt, Tree.storeLast_eq, Entries.find?_insert_self]
  · intro hl
    rcases hold : find? (basis tree parents) last.key with _ | (_ | _ | _) <;>
      simp [Tree.settled, listAt, hold, hl]
  · intro hl hold
    have hcopy : ∀ es, v = .map es → Entries.insertAll [] es = es :=
      fun es he => Entries.insertAll_nil (hv es (he ▸ rfl))
    rcases hold with hold | ⟨text, hold⟩ <;> rw [hold, hl] <;> cases v with
      | map es => simp [Tree.settled, hcopy es rfl]
      | str | list => rfl

theorem fire_commit {strip : Bool} {s s' : Store} {f : Fire} {loc : Option String} {name : String}
    {segments : List String} (hn : FreeName name f.found.groupNames) (hfilter : f.rule.filter = .entry name)
    (hp : f.rule.path = some ⟨.tree, segments⟩) (h : s.fire strip f.state f.rule f.found = .ok (s', loc)) :
    ∃ place, f.write? strip s = some ⟨.tree, place, (s.context.get? name).getD .emptyMap⟩ ∧
      s'.tree = (store? s.tree place ((s.context.get? name).getD .emptyMap)).getD s.tree := by
  obtain ⟨v, hw, hv, rfl⟩ := fire_of_path hp (by simp [hfilter, Filter.isFunction]) h
  have hval : v = (s.context.get? name).getD .emptyMap := by
    rw [hfilter] at hv
    simp only [Filter.apply, Except.ok.injEq, Filtered.mk.injEq, and_true] at hv
    rw [← hv, Context.fetch, Fire.opened, Path.prepare, get?_absorb _ hn]
  exact ⟨_, hval ▸ hw, hval ▸ rfl⟩

/-- Without filter functions, a name that no group and no bookkeeping entry has holds, after any
    number of fires, the fold of what was written to the buffer of that name. A rule that commits
    the buffer to the tree writes this fold, an empty mapping if the buffer was never opened, as
    it is: as the new last element of a list, or where nothing or a text was. -/
theorem buffer_eq_fold {t : Table} (hf : ∀ rule ∈ t.rules, rule.filter.isFunction = false) {name : String}
    (hn : ∀ rule ∈ t.rules, FreeName name rule.pattern.groupNames) (o : ScanOptions) (lines : List String) :
    ∃ final, t.scan o lines = .ok final ∧ Store.after o.strip {} (t.fires "top" lines) = .ok final.store ∧
      ∀ fs rest, t.fires "top" lines = fs ++ rest → ∃ s, Store.after o.strip {} fs = .ok s ∧
        s.context.get? name = bufferAfter name (Store.writes o.strip {} fs) ∧
        ∀ f more segments, rest = f :: more → f.rule.filter = .entry name → f.rule.path = some ⟨.tree, segments⟩ →
          ∃ place s' loc, s.fire o.strip f.state f.rule f.found = .ok (s', loc) ∧
            f.write? o.strip s =
              some ⟨.tree, place, (bufferAfter name (Store.writes o.strip {} fs)).getD .emptyMap⟩ ∧
            ∀ parents last, place = parents ++ [last] → ∃ node, follow? s'.tree parents = some node ∧
              (last.list = true → find? node last.key = some (.list (listAt (basis s.tree parents) last.key ++
                [(bufferAfter name (Store.writes o.strip {} fs)).getD .emptyMap]))) ∧
              (last.list = false → (find? (basis s.tree parents) last.key = none ∨
                  ∃ text, find? (basis s.tree parents) last.key = some (.str text)) →
                find? node last.key = some ((bufferAfter name (Store.writes o.strip {} fs)).getD .emptyMap)) := by
  obtain ⟨final, hfinal⟩ := run_of_no_function hf o (Scan.start t) lines
  refine ⟨final, hfinal, run_store hfinal, fun fs rest hfires => ?_⟩
  have hplain : Plain name (fs ++ rest) := hfires ▸ plain_fires hf hn
  obtain ⟨s, hs, hget⟩ := after_of_plain o.strip (fun f hmem => hplain f (List.mem_append_left _ hmem)) {}
  have hentry : s.context.get? name = bufferAfter name (Store.writes o.strip {} fs) := hget
  refine ⟨s, hs, hentry, fun f more segments hrest hfilter hp => ?_⟩
  obtain ⟨hfun, hfree⟩ := hplain f (by simp [hrest])
  obtain ⟨s', loc, hfire⟩ := fire_of_not_function o.strip f.state hfun s f.found
  obtain ⟨place, hw, htree⟩ := fire_commit hfree hfilter hp hfire
  rw [hentry] at hw htree
  refine ⟨place, s', loc, hfire, hw, fun parents last hplace => ?_⟩
  have hdistinct : DistinctEntry (some ((bufferAfter name (Store.writes o.strip {} fs)).getD .emptyMap)) := by
    cases hb : bufferAfter name (Store.writes o.strip {} fs) with
    | none => intro m hm; cases hm; exact List.nodup_nil
    | some v => exact fun m hm => distinct_bufferAfter name _ m (hb.trans hm)
  obtain ⟨tree', node, hstore, hnode, hlist, hfresh⟩ := store?_whole s.tree parents last hdistinct
  rw [hplace, hstore, Option.getD_some] at htree
  exact ⟨node, htree ▸ hnode, hlist, hfresh⟩

/-- A buffer is opened by `!`, filled from lines such as `a=1`, and committed to a list by `.`. -/
def recording : Table :=
  let sign (code : Nat) : Pattern := ⟨"", Pattern.Program.ofNode (.text [code]), [none]⟩
  let pair : Pattern.Node :=
    .cat (.capture 1 (some "k") (.set true [(0x61, 0x7A)]))
      (.cat (.text [0x3D]) (.capture 2 (some "v") (.set true [(0x30, 0x39)])))
  ⟨[ ⟨0, .any, .stay, sign 0x21, false, some ⟨.buffer "rec" .fresh, []⟩, .literal .emptyMap⟩,
     ⟨1, .any, .stay, ⟨"", Pattern.Program.ofNode pair, [none, some "k", some "v"]⟩, false,
       some ⟨.buffer "rec" .kept, ["{k}"]⟩, .template "{v}"⟩,
     ⟨2, .any, .stay, sign 0x2E, false, some ⟨.tree, ["disks[]"]⟩, .entry "rec"⟩ ]⟩

def recordingFires : List Fire := recording.fires "top" ["!", "a=1", "noise", "."]

theorem buffer_eq_fold_recording :
    ∃ s s' f loc v, recordingFires = recordingFires.take 2 ++ [f] ∧
      Store.after true {} (recordingFires.take 2) = .ok s ∧ s.context.get? "rec" = some v ∧
      v.compact = r#"{"a":"1"}"# ∧ s.fire true f.state f.rule f.found = .ok (s', loc) ∧
      find? s'.tree "disks" = some (.list [v]) := by
  have hf : ∀ rule ∈ recording.rules, rule.filter.isFunction = false := by simp [recording, Filter.isFunction]
  have hn : ∀ rule ∈ recording.rules, FreeName "rec" rule.pattern.groupNames := by
    intro rule hrule
    refine ⟨by decide, by decide, by decide, ?_⟩
    simp only [recording, List.mem_cons, List.not_mem_nil, or_false] at hrule
    rcases hrule with rfl | rfl | rfl <;> decide
  obtain ⟨f, hfires, hfilter, hpath⟩ : ∃ f, recordingFires = recordingFires.take 2 ++ [f] ∧
      f.rule.filter = .entry "rec" ∧ f.rule.path = some ⟨.tree, ["disks[]"]⟩ := ⟨_, rfl, rfl, rfl⟩
  obtain ⟨-, -, -, hfold⟩ := buffer_eq_fold hf hn {} ["!", "a=1", "noise", "."]
  obtain ⟨s, hs, hentry, hcommit⟩ := hfold _ _ hfires
  obtain ⟨place, s', loc, hfire, hw, hplace⟩ := hcommit f [] _ rfl hfilter hpath
  have hseen : (bufferAfter "rec" (Store.writes true {} (recordingFires.take 2))).map Value.compact =
      some r#"{"a":"1"}"# := by decide
  have hempty : (Store.after true {} (recordingFires.take 2)).toOption.map (·.tree.isEmpty) = some true := by
    decide
  obtain ⟨v, hv, hcompact⟩ := Option.map_eq_some_iff.mp hseen
  have htree : s.tree = [] := by
    have hs : Store.after true {} (recordingFires.take 2) = .ok s := hs
    simpa [hs, Except.toOption] using hempty
  have hlast : place = [] ++ [⟨"disks", true⟩] := by
    have hexpand : ∀ c, Template.expand "disks[]" c = "disks[]" := fun _ => rfl
    have hsegment : Segment.ofText "disks[]" = ⟨"disks", true⟩ := by decide +kernel
    simp only [Fire.write?, hpath, hfilter, Filter.apply, Option.bind_some, Option.some.injEq, Write.mk.injEq] at hw
    rw [← hw.2.1]; simp [Path.place, hexpand, hsegment]
  obtain ⟨node, hnode, hlist, -⟩ := hplace [] ⟨"disks", true⟩ hlast
  cases hnode
  refine ⟨s, s', f, loc, v, hfires, hs, hentry.trans hv, hcompact, hfire, ?_⟩
  have hv : bufferAfter "rec" (Store.writes ({} : ScanOptions).strip {} (recordingFires.take 2)) = some v := hv
  simpa [htree, basis, listAt, Entries.find?, hv] using hlist rfl

end LineRules
