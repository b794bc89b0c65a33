/-
  LineRules.Proofs.Dictionary — dictionaries with distinct keys, at one level and at all levels.

  Inserting keeps keys distinct (`distinct_insertAll`), and into nothing it copies a dictionary
  with distinct keys as it is (`insertAll_nil`). A key that is inserted again stays where it is
  (`insert_insert`), so entries that have been inserted can be inserted again without any change
  (`insertAll_insertAll`). So what inserts keeps the keys that are there in front, in their order
  (`Grows`). Of pairs each key is kept where it comes first (`keys_ofPairs`).

  A value has a property of mappings throughout (`Value.Every`) if the mappings at all its depths
  have it; distinct keys are such a property (`distinct_iff_every`). One that depends on the keys
  only (`KeyRule`) is kept by inserting and merging.
-/

import LineRules.Context
import Mathlib.Data.List.Nodup

namespace LineRules

namespace Entries

variable {α : Type}

@[simp] theorem find?_insert_self (m : Entries α) (key : String) (v : α) : find? (insert m key v) key = some v := by
  simp [find?_insert]

theorem find?_insert_of_ne (m : Entries α) {key k : String} (v : α) (h : k ≠ key) :
    find? (insert m key v) k = find? m k := by
  simp [find?_insert, Ne.symm h]

theorem mem_of_find? {m : Entries α} {key : String} {v : α} (h : find? m key = some v) : (key, v) ∈ m := by
  induction m with
  | nil => simp [find?] at h
  | cons e m ih =>
    simp only [find?] at h
    split at h
    · rename_i he
      cases h; subst he; exact List.mem_cons_self
    · exact List.mem_cons_of_mem e (ih h)

theorem mem_insert {m : Entries α} {key : String} {v : α} {e : String × α} (h : e ∈ insert m key v) :
    e = (key, v) ∨ e ∈ m := by
  induction m with
  | nil => exact Or.inl (by simpa [insert] using h)
  | cons a m ih =>
    simp only [insert] at h
    split at h
    · rename_i ha
      rcases List.mem_cons.mp h with rfl | h
      · exact Or.inl (by rw [ha])
      · exact Or.inr (List.mem_cons_of_mem a h)
    · rcases List.mem_cons.mp h with rfl | h
      · exact Or.inr List.mem_cons_self
      · exact (ih h).imp_right (List.mem_cons_of_mem a)

theorem insert_of_notMem {m : Entries α} {key : String} (v : α) (h : key ∉ keys m) :
    insert m key v = m ++ [(key, v)] := by
  induction m with
  | nil => rfl
  | cons e m ih =>
    simp only [keys, List.map_cons, List.mem_cons, not_or] at h
    simp [insert, Ne.symm h.1, ih h.2]

theorem mem_keys_insert {m : Entries α} {key k : String} {v : α} :
    k ∈ keys (insert m key v) ↔ k = key ∨ k ∈ keys m := by
  rw [keys_insert]
  split
  · rename_i hkey
    exact ⟨Or.inr, fun h => h.elim (fun he => he ▸ hkey) id⟩
  · simp [or_comm]

/-- Of values that are inserted under one key, the last one stays, and it stands where the first one did. -/
theorem insert_insert (m : Entries α) (key : String) (v w : α) :
    insert (insert m key v) key w = insert m key w := by
  induction m with
  | nil => simp [insert]
  | cons e m ih =>
    by_cases he : e.1 = key
    · simp [insert, he]
    · simp [insert, he, ih]

theorem insert_of_find? {m : Entries α} {key : String} {v : α} (h : find? m key = some v) : insert m key v = m := by
  induction m with
  | nil => cases h
  | cons e m ih =>
    obtain ⟨k, u⟩ := e
    by_cases hk : k = key
    · rw [find?, if_pos hk, Option.some.injEq] at h
      rw [insert, if_pos hk, h]
    · rw [find?, if_neg hk] at h
      rw [insert, if_neg hk, ih h]

/-- Two keys can be inserted in either order if one of them has its place already. -/
theorem insert_comm_of_mem {m : Entries α} {key other : String} (h : key ∈ keys m) (hne : key ≠ other) (v w : α) :
    insert (insert m key v) other w = insert (insert m other w) key v := by
  induction m with
  | nil => cases h
  | cons e m ih =>
    by_cases he : e.1 = key
    · simp [insert, he, hne]
    · have hm : key ∈ keys m := (List.mem_cons.mp h).resolve_left (Ne.symm he)
      by_cases ho : e.1 = other
      · simp [insert, ho, Ne.symm hne]
      · simp [insert, he, ho, ih hm]

theorem insertAll_cons (m news : Entries α) (e : String × α) :
    insertAll m (e :: news) = insertAll (insert m e.1 e.2) news := rfl

/-- A value is lost if its key is inserted again later. -/
theorem insertAll_insert_of_mem {m news : Entries α} {key : String} (hm : key ∈ keys m) (hnews : key ∈ keys news)
    (v : α) : insertAll (insert m key v) news = insertAll m news := by
  induction news generalizing m with
  | nil => cases hnews
  | cons e news ih =>
    rw [insertAll_cons, insertAll_cons]
    by_cases he : key = e.1
    · rw [he, insert_insert]
    · have hkept : key ∈ keys (insert m e.1 e.2) := mem_keys_insert.mpr (.inr hm)
      rw [insert_comm_of_mem hm he, ih hkept ((List.mem_cons.mp hnews).resolve_left he)]

theorem distinct_insertAll {m : Entries α} (h : Distinct m) (news : Entries α) : Distinct (insertAll m news) := by
  induction news generalizing m with
  | nil => exact h
  | cons e news ih => rw [insertAll_cons]; exact ih (distinct_insert h e.1 e.2)

theorem find?_insertAll_of_notMem (m : Entries α) {news : Entries α} {key : String} (h : key ∉ keys news) :
    find? (insertAll m news) key = find? m key := by
  induction news generalizing m with
  | nil => rfl
  | cons e news ih =>
    simp only [keys, List.map_cons, List.mem_cons, not_or] at h
    rw [insertAll_cons, ih _ h.2, find?_insert_of_ne m e.2 h.1]

/-- Of entries with the same key that are inserted one after another, the last one stays. -/
theorem find?_insertAll_of_forall (m : Entries α) {news : Entries α} {key : String} {v : α} (hkey : key ∈ keys news)
    (hv : ∀ e ∈ news, e.1 = key → e.2 = v) : find? (insertAll m news) key = some v := by
  induction news generalizing m with
  | nil => cases hkey
  | cons e news ih =>
    rw [insertAll_cons]
    by_cases hrest : key ∈ keys news
    · exact ih _ hrest fun a ha => hv a (List.mem_cons_of_mem e ha)
    · have he : key = e.1 := (List.mem_cons.mp hkey).resolve_right hrest
      rw [find?_insertAll_of_notMem _ hrest, he, find?_insert_self, hv e List.mem_cons_self he.symm]

theorem find?_insertAll (m : Entries α) {news : Entries α} (h : Distinct news) (key : String) :
    find? (insertAll m news) key = (find? news key).or (find? m key) := by
  cases hnew : find? news key with
  | none => exact find?_insertAll_of_notMem m ((find?_eq_none_iff news key).mp hnew)
  | some v =>
    have hmem : (key, v) ∈ news := mem_of_find? hnew
    refine find?_insertAll_of_forall m (List.mem_map_of_mem hmem) fun e he hkey => ?_
    exact congrArg Prod.snd (List.inj_on_of_nodup_map h he hmem hkey)

/-- Inserted keys that are new come behind those that there are, in the order in which they come first. -/
theorem keys_insertAll (m news : Entries α) :
    keys (insertAll m news) = keys m ++ ((keys news).removeAll (keys m)).eraseDups := by
  induction news generalizing m with
  | nil => simp [insertAll, keys]
  | cons e news ih =>
    have hkeys : keys (e :: news) = e.1 :: keys news := rfl
    rw [insertAll_cons, ih, keys_insert, hkeys, List.cons_removeAll]
    by_cases he : e.1 ∈ keys m
    · rw [if_pos he, if_neg (by simp [he])]
    · have hremove : (keys news).removeAll (keys m ++ [e.1]) =
          ((keys news).removeAll (keys m)).filter fun key => !key == e.1 := by
        rw [List.removeAll, List.removeAll, List.filter_filter]
        refine List.filter_congr fun key _ => ?_
        rw [Bool.eq_iff_iff]
        simp [and_comm]
      rw [if_neg he, if_pos (by simp [he]), List.eraseDups_cons, hremove, List.append_assoc]
      rfl

/-- Entries that have been inserted are inserted again without any change. -/
theorem insertAll_insertAll (m news : Entries α) : insertAll (insertAll m news) news = insertAll m news := by
  induction news generalizing m with
  | nil => rfl
  | cons e news ih =>
    have hkept : e.1 ∈ keys (insertAll (insert m e.1 e.2) news) := by
      rw [keys_insertAll]
      exact List.mem_append_left _ (mem_keys_insert.mpr (.inl rfl))
    rw [insertAll_cons, insertAll_cons]
    by_cases he : e.1 ∈ keys news
    · rw [insertAll_insert_of_mem hkept he, ih]
    · have hfind : find? (insertAll (insert m e.1 e.2) news) e.1 = some e.2 := by
        rw [find?_insertAll_of_notMem _ he, find?_insert_self]
      rw [insert_of_find? hfind, ih]

/-- The keys of the first dictionary are the first keys of the second one, which repeats no key unless the
    first one does. -/
structure Grows (m m' : Entries α) : Prop where
  keys_prefix : keys m <+: keys m'
  distinct : Distinct m → Distinct m'

theorem Grows.refl (m : Entries α) : Grows m m := ⟨List.prefix_rfl, id⟩

theorem Grows.trans {m m' m'' : Entries α} (h : Grows m m') (h' : Grows m' m'') : Grows m m'' :=
  ⟨h.keys_prefix.trans h'.keys_prefix, h'.distinct ∘ h.distinct⟩

theorem grows_insert (m : Entries α) (key : String) (v : α) : Grows m (insert m key v) := by
  refine ⟨?_, fun h => distinct_insert h key v⟩
  rw [keys_insert]
  split
  · exact List.prefix_rfl
  · exact List.prefix_append _ _

theorem grows_insertAll (m news : Entries α) : Grows m (insertAll m news) := by
  refine ⟨?_, fun h => distinct_insertAll h news⟩
  rw [keys_insertAll]
  exact List.prefix_append _ _

theorem keys_ofPairs (pairs : List (String × α)) : keys (ofPairs pairs) = (keys pairs).eraseDups := by
  rw [ofPairs, keys_insertAll]
  simp [keys, List.removeAll]

theorem mem_insertAll {m news : Entries α} {e : String × α} (h : e ∈ insertAll m news) : e ∈ m ∨ e ∈ news := by
  induction news generalizing m with
  | nil => exact Or.inl h
  | cons a news ih =>
    rcases ih (insertAll_cons m news a ▸ h) with h | h
    · rcases mem_insert h with rfl | h
      · exact Or.inr List.mem_cons_self
      · exact Or.inl h
    · exact Or.inr (List.mem_cons_of_mem a h)

/-- Entries whose keys are new are put behind those that there are. -/
theorem insertAll_eq_append {m news : Entries α} (h : Distinct (m ++ news)) : insertAll m news = m ++ news := by
  induction news generalizing m with
  | nil => simp [insertAll]
  | cons e news ih =>
    have hnew : e.1 ∉ keys m := by
      simp only [Distinct, keys, List.map_append, List.map_cons, List.nodup_append] at h
      exact fun hm => h.2.2 e.1 hm e.1 List.mem_cons_self rfl
    rw [insertAll_cons, insert_of_notMem e.2 hnew, ih (by simpa using h)]
    simp

theorem insertAll_nil {news : Entries α} (h : Distinct news) : insertAll [] news = news :=
  insertAll_eq_append (by simpa using h)

theorem find?_of_mem {m : Entries α} (h : Distinct m) {key : String} {v : α} (hmem : (key, v) ∈ m) :
    find? m key = some v := by
  rw [← insertAll_nil h]
  refine find?_insertAll_of_forall [] (List.mem_map_of_mem hmem) ?_
  intro e he hkey
  exact congrArg Prod.snd (List.inj_on_of_nodup_map h he hmem hkey)

theorem mem_iff_find? {m : Entries α} (h : Distinct m) {key : String} {v : α} :
    (key, v) ∈ m ↔ find? m key = some v := ⟨find?_of_mem h, mem_of_find?⟩

end Entries

namespace Value

/-! ## Properties of all mappings in a value -/

mutual

def Every (P : Entries Value → Prop) : Value → Prop
  | .str _ => True
  | .map m => P m ∧ EveryEntry P m
  | .list l => EveryItem P l

def EveryEntry (P : Entries Value → Prop) : List (String × Value) → Prop
  | [] => True
  | (_, v) :: rest => Every P v ∧ EveryEntry P rest

def EveryItem (P : Entries Value → Prop) : List Value → Prop
  | [] => True
  | v :: rest => Every P v ∧ EveryItem P rest

end

/-- A property that mappings have from the empty one on, as long as keys of a kind are inserted. -/
structure KeyRule (K : String → Prop) (P : Entries Value → Prop) : Prop where
  nil : P []
  insert {m : Entries Value} {key : String} (v : Value) : P m → K key → P (Entries.insert m key v)
  keys {m : Entries Value} {key : String} : P m → key ∈ Entries.keys m → K key

theorem keyRule_distinct : KeyRule (fun _ => True) Entries.Distinct :=
  ⟨List.nodup_nil, fun v h _ => Entries.distinct_insert h _ v, fun _ _ => trivial⟩

theorem keyRule_keys (K : String → Prop) : KeyRule K fun m => ∀ key ∈ Entries.keys m, K key := by
  refine ⟨by simp [Entries.keys], fun v h hk k hmem => ?_, fun h => h _⟩
  rcases Entries.mem_keys_insert.mp hmem with rfl | hmem
  · exact hk
  · exact h k hmem

theorem everyEntry_iff {P : Entries Value → Prop} (m : List (String × Value)) :
    EveryEntry P m ↔ ∀ e ∈ m, e.2.Every P := by
  induction m with
  | nil => simp [EveryEntry]
  | cons e m ih => simp [EveryEntry, ih]

theorem everyItem_iff {P : Entries Value → Prop} (l : List Value) : EveryItem P l ↔ ∀ v ∈ l, v.Every P := by
  induction l with
  | nil => simp [EveryItem]
  | cons v l ih => simp [EveryItem, ih]

theorem every_str (P : Entries Value → Prop) (text : String) : (Value.str text).Every P := by
  rw [Every]; exact trivial

theorem every_map_iff {P : Entries Value → Prop} (m : Entries Value) :
    (Value.map m).Every P ↔ P m ∧ ∀ e ∈ m, e.2.Every P := by
  rw [Every, everyEntry_iff]

theorem every_list_iff {P : Entries Value → Prop} (l : List Value) :
    (Value.list l).Every P ↔ ∀ v ∈ l, v.Every P := by
  rw [Every, everyItem_iff]

mutual

/-- Keys are distinct at all depths if they are in the mappings at all depths. -/
theorem distinct_iff_every : ∀ v : Value, v.Distinct ↔ v.Every Entries.Distinct
  | .str _ => by simp [Distinct, Every]
  | .map m => by rw [Distinct, Every, distinctEntries_iff_every m]
  | .list l => by rw [Distinct, Every, distinctItems_iff_every l]

theorem distinctEntries_iff_every : ∀ m : List (String × Value), DistinctEntries m ↔ EveryEntry Entries.Distinct m
  | [] => by simp [DistinctEntries, EveryEntry]
  | (_, v) :: rest => by rw [DistinctEntries, EveryEntry, distinct_iff_every v, distinctEntries_iff_every rest]

theorem distinctItems_iff_every : ∀ l : List Value, DistinctItems l ↔ EveryItem Entries.Distinct l
  | [] => by simp [DistinctItems, EveryItem]
  | v :: rest => by rw [DistinctItems, EveryItem, distinct_iff_every v, distinctItems_iff_every rest]

end

section Every

variable {K : String → Prop} {P : Entries Value → Prop} (hP : KeyRule K P)
include hP

theorem every_emptyMap : emptyMap.Every P := (every_map_iff []).mpr ⟨hP.nil, by simp⟩

theorem every_insert {m : Entries Value} {key : String} {v : Value} (hm : (Value.map m).Every P) (hk : K key)
    (hv : v.Every P) : (Value.map (Entries.insert m key v)).Every P := by
  rw [every_map_iff] at hm ⊢
  refine ⟨hP.insert v hm.1 hk, fun e he => ?_⟩
  rcases Entries.mem_insert he with rfl | he
  · exact hv
  · exact hm.2 e he

theorem every_insertAll {m news : Entries Value} (hm : (Value.map m).Every P) (hn : (Value.map news).Every P) :
    (Value.map (Entries.insertAll m news)).Every P := by
  obtain ⟨hkeys, hvalues⟩ := (every_map_iff news).mp hn
  have hK : ∀ key ∈ Entries.keys news, K key := fun _ => hP.keys hkeys
  clear hn hkeys
  induction news generalizing m with
  | nil => exact hm
  | cons e news ih =>
    rw [Entries.insertAll_cons]
    have he : (Value.map (Entries.insert m e.1 e.2)).Every P :=
      every_insert hP hm (hK e.1 List.mem_cons_self) (hvalues e List.mem_cons_self)
    exact ih he (fun a ha => hvalues a (List.mem_cons_of_mem e ha)) fun k hk => hK k (List.mem_cons_of_mem e.1 hk)

end Every

theorem every_of_find? {P : Entries Value → Prop} {m : Entries Value} {key : String} {v : Value}
    (hm : (Value.map m).Every P) (h : Entries.find? m key = some v) : v.Every P :=
  ((every_map_iff m).mp hm).2 _ (Entries.mem_of_find? h)

end Value

end LineRules
