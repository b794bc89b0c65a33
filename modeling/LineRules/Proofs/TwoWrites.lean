/-
  LineRules.Proofs.TwoWrites — two values that are written one after the other.

  What a write puts under the key of its first segment depends on what stands under this key, and on
  nothing else in the mapping (`storeAt_congr`). So where two places part at different keys, each write
  does what it does alone, and the order shows in the order of the keys at most. A way of plain segments
  that both places share leads both writes through the same mappings (`store?_commute`).

  A value that is not a list, and settles where no list is, leaves no trace once it is written again or a
  text in its stead (`settled_settled`). On its way a write to a place finds what the one before it left
  there, and no key moves. So the later write alone tells what the tree is (`store?_again`).
-/

import LineRules.Proofs.SortedValues
import LineRules.Proofs.TreeWriting

namespace LineRules

open Entries (keys find? insert insertAll)

/-! ## Values that are the same -/

namespace Value

theorem same_refl {v : Value} (h : v.Distinct) : v.same v = true := by
  induction v using induction_children with
  | str s => simp [same]
  | map m ih =>
    obtain ⟨hkeys, hvalues⟩ := (distinct_map_iff m).mp h
    exact (same_map_iff m m).mpr
      ⟨rfl, fun e he => ⟨e.2, Entries.find?_of_mem hkeys he, ih e he (hvalues e he)⟩⟩
  | list l ih =>
    exact (same_list_iff l l).mpr (List.forall₂_same.mpr fun v hv => ih v hv ((distinct_list_iff l).mp h v hv))

def SameAt (m m' : Entries Value) (key : String) : Prop :=
  Option.Rel (fun v w => v.same w = true) (find? m key) (find? m' key)

theorem sameAt_of_eq {m m' : Entries Value} (hm : (Value.map m).Distinct) {key : String}
    (h : find? m' key = find? m key) : SameAt m m' key := by
  rw [SameAt, h]
  cases hv : find? m key with
  | none => exact .none
  | some v => exact .some (same_refl (((distinct_map_iff m).mp hm).2 _ (Entries.mem_of_find? hv)))

theorem SameAt.none_iff {m m' : Entries Value} {key : String} (h : SameAt m m' key) :
    find? m key = none ↔ find? m' key = none := by
  unfold SameAt at h
  generalize find? m key = v, find? m' key = w at h
  cases h <;> simp

theorem SameAt.exists_same {m m' : Entries Value} {key : String} {v : Value} (h : SameAt m m' key)
    (hv : find? m key = some v) : ∃ w, find? m' key = some w ∧ v.same w = true := by
  rw [SameAt, hv] at h
  generalize find? m' key = found at h
  cases h with
  | some hsame => exact ⟨_, rfl, hsame⟩

/-- Mappings are the same if they have the same under each key. -/
theorem same_of_sameAt {m m' : Entries Value} (hm : Entries.Distinct m) (hm' : Entries.Distinct m')
    (h : ∀ key, SameAt m m' key) : (Value.map m).same (.map m') = true := by
  have hkeys : (keys m).Perm (keys m') := by
    refine (List.perm_ext_iff_of_nodup hm hm').mpr fun key => not_iff_not.mp ?_
    rw [← Entries.find?_eq_none_iff, ← Entries.find?_eq_none_iff, (h key).none_iff]
  refine (same_map_iff m m').mpr ⟨by simpa [keys] using hkeys.length_eq, fun e he => ?_⟩
  exact (h e.1).exists_same (Entries.find?_of_mem hm he)

/-- Values that are the same make the same mapping under a key. -/
theorem same_insert {m : Entries Value} (hm : (Value.map m).Distinct) (key : String) {v w : Value}
    (h : v.same w = true) : (Value.map (insert m key v)).same (.map (insert m key w)) = true := by
  have hkeys : Entries.Distinct m := ((distinct_map_iff m).mp hm).1
  refine same_of_sameAt (Entries.distinct_insert hkeys key v) (Entries.distinct_insert hkeys key w) fun k => ?_
  by_cases hk : k = key
  · subst hk
    rw [SameAt, Entries.find?_insert_self, Entries.find?_insert_self]
    exact .some h
  · rw [SameAt, Entries.find?_insert_of_ne m v hk, Entries.find?_insert_of_ne m w hk]
    exact sameAt_of_eq hm rfl

end Value

namespace Tree

/-! ## Two places -/

/-- What a write puts under its first key depends only on what stands there. -/
theorem storeAt_congr {m m' : Entries Value} {s : Segment} (h : find? m' s.key = find? m s.key) (v : Value)
    (rest : List Segment) :
    ∃ x, storeAt m v s rest = insert m s.key x ∧ storeAt m' v s rest = insert m' s.key x := by
  cases rest with
  | nil => exact ⟨_, storeLast_eq m s v, by rw [storeAt, storeLast_eq, h]⟩
  | cons next rest =>
    have hlist : listAt m' s.key = listAt m s.key := by rw [listAt, h, listAt]
    have hunder : under m' s = under m s := by rw [under, mappingAt, h, under, mappingAt]
    exact ⟨_, storeAt_cons m v s next rest, by rw [storeAt_cons, hlist, hunder]⟩

/-- Writes under different keys make the same mapping in either order. -/
theorem storeAt_comm {m : Entries Value} {v w : Value} (hm : (Value.map m).Distinct) (hv : v.Distinct)
    (hw : w.Distinct) {a b : Segment} (hne : a.key ≠ b.key) (rest rest' : List Segment) :
    (Value.map (storeAt (storeAt m v a rest) w b rest')).same
      (.map (storeAt (storeAt m w b rest') v a rest)) = true := by
  obtain ⟨x, hx, hx'⟩ := storeAt_congr (find?_storeAt_of_ne m w b rest' hne) v rest
  obtain ⟨y, hy, hy'⟩ := storeAt_congr (find?_storeAt_of_ne m v a rest hne.symm) w rest'
  have hfirst := distinct_storeAt hw rest' (distinct_storeAt hv rest hm a) b
  have hsecond := distinct_storeAt hv rest (distinct_storeAt hw rest' hm b) a
  refine Value.same_of_sameAt ((Value.distinct_map_iff _).mp hfirst).1 ((Value.distinct_map_iff _).mp hsecond).1
    fun key => Value.sameAt_of_eq hfirst ?_
  -- Both orders put `x` under the one key and `y` under the other, though not in the same places.
  rw [hy', hx', hx, hy]
  simp only [Entries.find?_insert]
  split <;> split <;> simp_all

theorem distinct_mappingAt {m : Entries Value} (hm : (Value.map m).Distinct) (key : String) :
    (Value.map (mappingAt m key)).Distinct := by
  rw [Value.distinct_iff_every] at hm ⊢
  exact every_under Value.keyRule_distinct hm ⟨key, false⟩

/-- Two places that share some plain segments and then go on under different keys can be written in
    either order: both writes succeed, and the trees are equal but for the order of their keys. -/
theorem store?_commute {t : Entries Value} {v w : Value} (ht : (Value.map t).Distinct) (hv : v.Distinct)
    (hw : w.Distinct) {common : List Segment} (hplain : ∀ s ∈ common, s.list = false) {a b : Segment}
    (hne : a.key ≠ b.key) (rest rest' : List Segment) :
    ∃ t₁ t₁₂ t₂ t₂₁, store? t (common ++ a :: rest) v = some t₁ ∧ store? t₁ (common ++ b :: rest') w = some t₁₂ ∧
      store? t (common ++ b :: rest') w = some t₂ ∧ store? t₂ (common ++ a :: rest) v = some t₂₁ ∧
      (Value.map t₁₂).same (.map t₂₁) = true := by
  induction common generalizing t with
  | nil => exact ⟨_, _, _, _, rfl, rfl, rfl, rfl, storeAt_comm ht hv hw hne rest rest'⟩
  | cons s common ih =>
    obtain ⟨u₁, u₁₂, u₂, u₂₁, h₁, h₁₂, h₂, h₂₁, hsame⟩ :=
      ih (distinct_mappingAt ht s.key) fun c hc => hplain c (List.mem_cons_of_mem s hc)
    have hstep {m sub : Entries Value} {x : Value} {c : Segment} {more : List Segment}
        (h : store? (mappingAt m s.key) (common ++ c :: more) x = some sub) :
        store? m (s :: (common ++ c :: more)) x = some (insert m s.key (.map sub)) := by
      rw [store?_cons_of_plain (hplain s List.mem_cons_self) (by simp), h, Option.map_some]
    refine ⟨_, _, _, _, hstep h₁, hstep (by rwa [mappingAt_insert_map]), hstep h₂,
      hstep (by rwa [mappingAt_insert_map]), ?_⟩
    rw [Entries.insert_insert, Entries.insert_insert]
    exact Value.same_insert ht s.key hsame

/-- A text blocks the way that both places share; which write comes first shows in the order of the keys. -/
theorem store?_commute_blocked :
    ∃ t₁ t₁₂ t₂ t₂₁,
      store? [("x", .str "1")] ([⟨"x", false⟩] ++ ⟨"a", true⟩ :: [⟨"c", false⟩]) (.map [("k", .str "2")]) = some t₁ ∧
      store? t₁ ([⟨"x", false⟩] ++ ⟨"b", false⟩ :: []) (.str "3") = some t₁₂ ∧
      store? [("x", .str "1")] ([⟨"x", false⟩] ++ ⟨"b", false⟩ :: []) (.str "3") = some t₂ ∧
      store? t₂ ([⟨"x", false⟩] ++ ⟨"a", true⟩ :: [⟨"c", false⟩]) (.map [("k", .str "2")]) = some t₂₁ ∧
      (Value.map t₁₂).same (.map t₂₁) = true ∧
      t₁₂ = [("x", .map [("a", .list [.map [("c", .map [("k", .str "2")])]]), ("b", .str "3")])] ∧
      t₂₁ = [("x", .map [("b", .str "3"), ("a", .list [.map [("c", .map [("k", .str "2")])]])])] := by
  have hsingle (key text : String) : (Value.map [(key, .str text)]).Distinct := by
    simp [Value.Distinct, Value.DistinctEntries, Entries.Distinct, keys]
  have hplain : ∀ s ∈ [(⟨"x", false⟩ : Segment)], s.list = false := by simp
  obtain ⟨t₁, t₁₂, t₂, t₂₁, h₁, h₁₂, h₂, h₂₁, hsame⟩ :=
    store?_commute (w := .str "3") (hsingle "x" "1") (hsingle "k" "2") trivial hplain
      (a := ⟨"a", true⟩) (b := ⟨"b", false⟩) (by simp) [⟨"c", false⟩] []
  refine ⟨t₁, t₁₂, t₂, t₂₁, h₁, h₁₂, h₂, h₂₁, hsame, ?_, ?_⟩
  · cases h₁; cases h₁₂; rfl
  · cases h₂; cases h₂₁; rfl

/-! ## One place twice -/

/-- What settles under a key once a value that is not a list has settled there, is what would have
    settled without this value. -/
theorem settled_settled {old : Option Value} (hold : ∀ items, old ≠ some (.list items)) {v w : Value}
    (hv : ∀ items, v ≠ .list items) (hw : w = v ∨ ∃ text, w = .str text) :
    settled (some (settled old false v)) false w = settled old false w := by
  rcases hw with rfl | ⟨text, rfl⟩
  · rcases old with _ | (_ | es | items) <;> cases w <;> simp_all [settled, Entries.insertAll_insertAll]
  · rcases old with _ | (_ | es | items) <;> cases v <;> simp_all [settled]

/-- Of two values that are written at a place, the later one tells what the tree is, if it is the same
    as the first or a text. -/
theorem store?_store? {v w : Value} (hv : ∀ items, v ≠ .list items) (hw : w = v ∨ ∃ text, w = .str text)
    {place : List Segment} (hplace : place ≠ []) (hplain : ∀ s ∈ place, s.list = false) {t : Entries Value}
    (hold : ∀ items, (Value.map t).follow? (place.map (·.key)) ≠ some (.list items)) :
    ∃ t', store? t place v = some t' ∧ store? t' place w = store? t place w := by
  induction place generalizing t with
  | nil => exact absurd rfl hplace
  | cons s place ih =>
    have hs : s.list = false := hplain s List.mem_cons_self
    -- The value settles here, or in the mapping under the key, which both writes find.
    by_cases hlast : place = []
    · subst hlast
      have hhere : ∀ items, find? t s.key ≠ some (.list items) := by
        simpa [Value.follow?, Value.get?, Value.entries?] using hold
      refine ⟨storeAt t v s [], rfl, ?_⟩
      simp only [store?, storeAt, storeLast_eq, hs, Entries.find?_insert_self, settled_settled hhere hv hw,
        Entries.insert_insert]
    · have hbelow : ∀ items,
          (Value.map (mappingAt t s.key)).follow? (place.map (·.key)) ≠ some (.list items) := by
        intro items
        rw [follow?_mappingAt t s.key (by simpa using hlast)]
        exact hold items
      obtain ⟨sub, hsub, hagain⟩ := ih hlast (fun c hc => hplain c (List.mem_cons_of_mem s hc)) hbelow
      refine ⟨insert t s.key (.map sub), ?_, ?_⟩
      · rw [store?_cons_of_plain hs hlast, hsub, Option.map_some]
      · rw [store?_cons_of_plain hs hlast, mappingAt_insert_map, hagain, store?_cons_of_plain hs hlast]
        simp only [Entries.insert_insert]

theorem exists_store? {place : List Segment} (h : place ≠ []) (t : Entries Value) (v : Value) :
    ∃ t', store? t place v = some t' := by
  obtain ⟨s, rest, rfl⟩ := List.exists_cons_of_ne_nil h
  exact ⟨_, rfl⟩

/-- A text or a mapping that is written behind plain segments to a place without a list can be written
    again, and the tree stays as it is; and a text that is written in its stead makes the tree that it
    makes alone. The keys come in the same order, in all mappings. -/
theorem store?_again {place : List Segment} (hplace : place ≠ []) (hplain : ∀ s ∈ place, s.list = false)
    {t : Entries Value} (hold : ∀ items, (Value.map t).follow? (place.map (·.key)) ≠ some (.list items))
    {v : Value} (hv : ∀ items, v ≠ .list items) (text : String) :
    ∃ t' t'', store? t place v = some t' ∧ store? t' place v = some t' ∧
      store? t place (.str text) = some t'' ∧ store? t' place (.str text) = some t'' := by
  obtain ⟨t', ht', hsame⟩ := store?_store? hv (.inl rfl) hplace hplain hold
  obtain ⟨u, hu, htext⟩ := store?_store? hv (.inr ⟨text, rfl⟩) hplace hplain hold
  obtain ⟨t'', ht''⟩ := exists_store? hplace t (.str text)
  rw [ht'] at hu hsame
  cases hu
  exact ⟨t', t'', ht', hsame, ht'', htext.trans ht''⟩

/-- A mapping is merged into another one, twice, and a text takes its place. -/
theorem store?_again_merged :
    ∃ t' t'', store? [("x", .map [("rec", .map [("a", .str "1"), ("b", .str "2")]), ("y", .str "5")])]
        [⟨"x", false⟩, ⟨"rec", false⟩] (.map [("b", .str "3"), ("c", .str "4")]) = some t' ∧
      t' = [("x", .map [("rec", .map [("a", .str "1"), ("b", .str "3"), ("c", .str "4")]), ("y", .str "5")])] ∧
      store? t' [⟨"x", false⟩, ⟨"rec", false⟩] (.map [("b", .str "3"), ("c", .str "4")]) = some t' ∧
      t'' = [("x", .map [("rec", .str "w"), ("y", .str "5")])] ∧
      store? t' [⟨"x", false⟩, ⟨"rec", false⟩] (.str "w") = some t'' := by
  have hplain : ∀ s ∈ [(⟨"x", false⟩ : Segment), ⟨"rec", false⟩], s.list = false := by simp
  have hold : ∀ items, (Value.map [("x", .map [("rec", .map [("a", .str "1"), ("b", .str "2")]), ("y", .str "5")])]).follow?
      ([(⟨"x", false⟩ : Segment), ⟨"rec", false⟩].map (·.key)) ≠ some (.list items) := by
    simp [Value.follow?, Value.get?, Value.entries?, find?]
  obtain ⟨t', t'', ht', hsame, ht'', htext⟩ :=
    store?_again (by simp) hplain hold (v := .map [("b", .str "3"), ("c", .str "4")]) (by simp) "w"
  refine ⟨t', t'', ht', ?_, hsame, ?_, htext⟩
  · cases ht'; rfl
  · cases ht''; rfl

end Tree

end LineRules
