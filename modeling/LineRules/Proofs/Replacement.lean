/-
  LineRules.Proofs.Replacement — which context a fire reads and which it writes to when a function makes
  its value.

  A fire takes its groups in and opens the buffer of its path, fills in the segments, and then asks the
  function, which may hand another context back. So the segments and the location are settled before the
  function answers, and no answer changes them (`Fire.Answered`). The value is written to the context that
  came back, or to the opened one if none did. A context that came back is taken as it is: what the fire
  took in is gone from it unless the function kept it, and its buffer is not opened anew, so that even a
  path that starts its buffer anew adds to what the function left there.

  `Written` says what the write can do after that, one constructor for each way. It is the same for all
  filters (`written_write`); `fire_function` puts both together.
-/

import LineRules.Filter.Named
import LineRules.Proofs.Pointers

namespace LineRules

open LineRules.Tree (store?)

def Rule.asking (rule : Rule) (run : FilterFunction) : Rule := { rule with filter := .function run }

def Fire.asking (f : Fire) (run : FilterFunction) : Fire := { f with rule := f.rule.asking run }

/-! ## Writing to a context -/

/-- A store becomes another one when a value is written at a place under a root, in a context that takes
    the place of its own. -/
inductive Written (s : Store) (base : Context) : Write → Store → Prop
  /-- Only a mapping can be put at the root of the tree. -/
  | dropped {v : Value} : (∀ m, v ≠ .map m) → Written s base ⟨.tree, [], v⟩ ⟨base, s.tree⟩
  | stored {place : List Segment} {v : Value} {tree : Entries Value} :
      store? s.tree place v = some tree → Written s base ⟨.tree, place, v⟩ ⟨base, tree⟩
  /-- A value that is no mapping takes the place of a buffer. -/
  | replaced {name : String} {mode : BufferMode} {v : Value} :
      (∀ m, v ≠ .map m) → Written s base ⟨.buffer name mode, [], v⟩ ⟨base.insert name v, s.tree⟩
  | filled {name : String} {mode : BufferMode} {place : List Segment} {v : Value} {m : Entries Value} :
      store? (base.mappingAt name) place v = some m →
      Written s base ⟨.buffer name mode, place, v⟩ ⟨base.insert name (.map m), s.tree⟩

theorem written_write (s : Store) (base : Context) (w : Write) :
    Written s base w (({ s with context := base } : Store).write w.root w.place w.value) := by
  obtain ⟨root, place, v⟩ := w
  cases root with
  | tree =>
    cases h : store? s.tree place v with
    | none =>
      obtain ⟨rfl, hv⟩ := Tree.store?_eq_none_iff.mp h
      simpa only [Store.write, h, Option.getD_none] using Written.dropped hv
    | some tree => simpa only [Store.write, h, Option.getD_some] using Written.stored h
  | buffer name mode =>
    cases h : store? (base.mappingAt name) place v with
    | none =>
      obtain ⟨rfl, hv⟩ := Tree.store?_eq_none_iff.mp h
      simpa only [Store.write, Store.storeInBuffer, h] using Written.replaced hv
    | some m => simpa only [Store.write, Store.storeInBuffer, h] using Written.filled h

/-- A write to a buffer leaves the other entries of the context as they are, one to the tree all of them. -/
theorem Written.get?_of_ne {s s' : Store} {base : Context} {w : Write} (h : Written s base w s') {name : String}
    (hname : ∀ mode, w.root ≠ .buffer name mode) : s'.context.get? name = base.get? name := by
  cases h with
  | dropped | stored => rfl
  | @replaced other mode | @filled other mode =>
    have hne : other ≠ name := by
      rintro rfl
      exact hname mode rfl
    rw [Context.get?_insert, if_neg hne]

/-! ## Asking a function -/

/-- What a fire does whose filter makes something of the opened context. Its place and its location are filled in
    from that context, and the rest is told by what was made. -/
structure Fire.Answered (f : Fire) (strip : Bool) (s : Store) (p : Path) (opened : Context) (made : Filtered)
    (s' : Store) : Prop where
  fires : s.fire strip f.state f.rule f.found = .ok (s', some (p.location (p.place opened)))
  place : f.write? strip s = some ⟨p.root, p.place opened, made.value⟩
  written : Written s (made.context.getD opened) ⟨p.root, p.place opened, made.value⟩ s'
  kept : ∀ name, (∀ mode, p.root ≠ .buffer name mode) →
    s'.context.get? name = (made.context.getD opened).get? name
  traced : ∀ (t : Table) (o : ScanOptions) (lines : List String) (final : Scan) (fs rest : List Fire),
    o.strip = strip → o.trace = true → t.scan o lines = .ok final → t.fires "top" lines = fs ++ f :: rest →
    Store.after strip {} fs = .ok s →
    (final.trace.flatMap (·.fired))[fs.length]? = some ⟨f.rule.index, some (p.location (p.place opened))⟩

section Fires

variable {strip : Bool} {f : Fire} {p : Path}

theorem exists_answered (s : Store) (hp : f.rule.path = some p) {made : Filtered}
    (hmade : f.rule.filter.apply f.found (Store.capturesOf strip f.found) (f.opened strip s p) = .ok made) :
    ∃ s', f.Answered strip s p (f.opened strip s p) made s' := by
  obtain ⟨hfire, hwrite⟩ := fire_of_apply hp hmade
  have hwritten := written_write s (made.context.getD (f.opened strip s p))
    ⟨p.root, p.place (f.opened strip s p), made.value⟩
  refine ⟨_, hfire, hwrite, hwritten, fun name hname => hwritten.get?_of_ne hname, ?_⟩
  rintro t o lines final fs rest rfl ho hscan hfires hs
  exact getElem?_trace ho hscan hfires hs hfire

/-- A rule with a path fires and its function answers. Then the location of the fire and the place that it
    writes to are filled in from the context that the function was given: whatever another function answers
    in its stead, they are the same. The value is written in the context that the function handed back, or
    in the one that it was given if it handed none back; that context remains as it is but for the buffer
    that the path leads to. The trace shows the location. -/
theorem fire_function (s : Store) (hp : f.rule.path = some p) {run : FilterFunction}
    (hfilter : f.rule.filter = .function run) {opened : Context} (hopened : f.opened strip s p = opened)
    {made : Filtered} (hrun : run f.found opened = .ok made) :
    (∃ s', f.Answered strip s p opened made s') ∧
    ∀ other answer, other f.found opened = .ok answer →
      ∃ u, (f.asking other).Answered strip s p opened answer u := by
  subst hopened
  constructor
  · apply exists_answered s hp
    rw [hfilter]
    exact hrun
  · intro other answer hother
    -- what a fire takes in and opens depends on its rule, but not on the filter
    have hmade : (f.asking other).rule.filter.apply f.found (Store.capturesOf strip f.found)
        ((f.asking other).opened strip s p) = .ok answer := hother
    exact exists_answered (f := f.asking other) s hp hmade

end Fires

def clearing : List Row :=
  [ { pattern := .text "(?P<k>[a-z])", path := some (.dotted ">rec.{k}"),
      filter := .function FilterFunction.reset } ]

/-- The group is gone from the context, yet its text is the key under which the value was written. -/
theorem fire_function_clearing :
    ∃ t final f s, Table.ofRows {} clearing = .ok t ∧ t.scan { trace := true } ["a"] = .ok final ∧
      t.fires "top" ["a"] = [f] ∧ Store.fire {} true f.state f.rule f.found = .ok (s, some ">rec.a") ∧
      Written {} .empty ⟨.buffer "rec" .fresh, [⟨"a", false⟩], .str "a"⟩ s ∧ s.context.get? "k" = none ∧
      (final.trace.flatMap (·.fired))[0]? = some ⟨f.rule.index, some ">rec.a"⟩ := by
  let p : Path := ⟨.buffer "rec" .fresh, ["{k}"]⟩
  have hseen : (Table.ofRows {} clearing).map (fun t =>
      ((t.scan { trace := true } ["a"]).map fun final => final.trace.length,
        (t.fires "top" ["a"]).map fun f => (f.rule.path, f.found.whole, p.place (f.opened true {} p)))) =
      .ok (.ok 1, [(some p, "a", [⟨"a", false⟩])]) := by decide +kernel
  obtain ⟨t, ht, hvalues⟩ := map_eq_ok hseen
  obtain ⟨hscan, hfires⟩ := Prod.mk.inj hvalues
  obtain ⟨final, hfinal, -⟩ := map_eq_ok hscan.symm
  obtain ⟨f, hfires, hmade⟩ := List.map_eq_singleton_iff.mp hfires.symm
  simp only [Prod.mk.injEq] at hmade
  obtain ⟨hpath, hwhole, hplace⟩ := hmade
  have hfilter : f.rule.filter = .function FilterFunction.reset := by
    have hf : f ∈ t.fires "top" ["a"] := hfires ▸ List.mem_singleton_self f
    obtain ⟨row, hrow, hr⟩ := exists_row ht (mem_fires hf).1
    rw [hr.fields.2.2.1, List.mem_singleton.mp hrow]
  have hrun : FilterFunction.reset f.found (f.opened true {} p) = .ok ⟨.str "a", some .empty⟩ := by
    rw [FilterFunction.reset, hwhole]
  obtain ⟨⟨s, hanswered⟩, -⟩ := fire_function {} hpath hfilter rfl hrun
  have hlocation : p.location (p.place (f.opened true {} p)) = ">rec.a" := by
    rw [hplace]
    decide
  have hwritten := hanswered.written
  rw [hplace] at hwritten
  refine ⟨t, final, f, s, ht, hfinal, hfires, hlocation ▸ hanswered.fires, hwritten, ?_, ?_⟩
  · rw [hanswered.kept "k" (by simp [p])]
    rfl
  · rw [← hlocation]
    exact hanswered.traced t _ _ final [] [] rfl rfl hfinal hfires rfl

end LineRules
