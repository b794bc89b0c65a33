/-
  LineRules.Proofs.SortedValues — values with the keys of all their mappings in order.

  Two values are the same if they differ in the order of keys at most (`Value.same`). Of all values that
  are the same as a given one, one has its keys in order at all depths (`Value.sorted`). A document keeps
  the keys of its objects in order, so a value goes over into the document that is written like its
  sorted form (`toJson_eq`), and from there into this form (`ofJson_toJson`).
-/

import LineRules.Proofs.Dictionary
import LineRules.Value.Json
import Mathlib.Data.List.Sort
import Mathlib.Data.String.Basic

namespace LineRules

namespace Entries

variable {α : Type}

def KeyLe (a b : String × α) : Prop := a.1 ≤ b.1

instance : DecidableRel (@KeyLe α) := fun a b => inferInstanceAs (Decidable (a.1 ≤ b.1))

instance : Std.Total (@KeyLe α) := ⟨fun a b => le_total a.1 b.1⟩

instance : IsTrans (String × α) KeyLe := ⟨fun _ _ _ => le_trans⟩

def sort (m : Entries α) : Entries α := m.insertionSort KeyLe

def Sorted (m : Entries α) : Prop := m.Pairwise fun a b => a.1 < b.1

theorem perm_sort (m : Entries α) : (sort m).Perm m := List.perm_insertionSort KeyLe m

theorem Sorted.distinct {m : Entries α} (h : Sorted m) : Distinct m :=
  List.pairwise_map.mpr (h.imp fun hlt => ne_of_lt hlt)

theorem sorted_of_pairwise {m : Entries α} (h : m.Pairwise KeyLe) (hm : Distinct m) : Sorted m :=
  h.imp₂ (fun _ _ hle hne => lt_of_le_of_ne hle hne) (List.pairwise_map.mp hm)

theorem distinct_of_perm {m m' : Entries α} (h : m.Perm m') (hm : Distinct m) : Distinct m' :=
  (h.map Prod.fst).nodup_iff.mp hm

theorem sorted_sort {m : Entries α} (h : Distinct m) : Sorted (sort m) :=
  sorted_of_pairwise (List.pairwise_insertionSort KeyLe m) (distinct_of_perm (perm_sort m).symm h)

theorem sort_of_sorted {m : Entries α} (h : Sorted m) : sort m = m :=
  List.Pairwise.insertionSort_eq (h.imp fun hlt => le_of_lt hlt)

/-- Entries can be put in the order of their keys in one way only. -/
theorem eq_of_perm {m m' : Entries α} (h : m.Perm m') (hm : Sorted m) (hm' : Sorted m') : m = m' :=
  h.eq_of_pairwise (fun _ _ _ _ hlt hgt => absurd hlt (not_lt_of_gt hgt)) hm hm'

/-- Values do not matter to the order. -/
theorem sort_map {β : Type} (f : α → β) (m : Entries α) :
    sort (m.map fun e => (e.1, f e.2)) = (sort m).map fun e => (e.1, f e.2) :=
  (List.map_insertionSort KeyLe KeyLe (fun e => (e.1, f e.2)) m fun _ _ _ _ => Iff.rfl).symm

end Entries

namespace Json

open Entries (Sorted Distinct KeyLe)

theorem insertSorted_of_notMem {key : String} {entries : List (String × Json)} (h : key ∉ Entries.keys entries)
    (value : Json) : insertSorted key value entries = entries.orderedInsert KeyLe (key, value) := by
  induction entries with
  | nil => rfl
  | cons e rest ih =>
    obtain ⟨k, v⟩ := e
    simp only [Entries.keys, List.map_cons, List.mem_cons, not_or] at h
    rw [insertSorted, if_neg h.1, List.orderedInsert_cons, ih h.2]
    have hle : key < k ↔ KeyLe (key, value) (k, v) := lt_iff_le_and_ne.trans (and_iff_left h.1)
    simp only [hle]

/-- The members added so far, with those still to come, are the same entries all along. -/
theorem foldl_insertSorted {entries members : List (String × Json)} (h : entries.Pairwise KeyLe)
    (hdistinct : Distinct (entries ++ members)) :
    (members.foldl (fun entries m => insertSorted m.1 m.2 entries) entries).Pairwise KeyLe ∧
      (members.foldl (fun entries m => insertSorted m.1 m.2 entries) entries).Perm (entries ++ members) := by
  induction members generalizing entries with
  | nil => simpa using h
  | cons m members ih =>
    have hnew : m.1 ∉ Entries.keys entries := by
      simp only [Distinct, Entries.keys, List.map_append, List.map_cons, List.nodup_append] at hdistinct
      exact fun hm => hdistinct.2.2 m.1 hm m.1 List.mem_cons_self rfl
    rw [List.foldl_cons, insertSorted_of_notMem hnew]
    have hperm : (entries.orderedInsert KeyLe m ++ members).Perm (entries ++ m :: members) :=
      ((List.perm_orderedInsert KeyLe m entries).append_right members).trans List.perm_middle.symm
    obtain ⟨hsorted, hsame⟩ := ih (h.orderedInsert m entries) (Entries.distinct_of_perm hperm.symm hdistinct)
    exact ⟨hsorted, hsame.trans hperm⟩

/-- Members with different keys make the object that has them in order. -/
theorem ofMembers_eq {members : List (String × Json)} (h : Distinct members) :
    ofMembers members = .object (Entries.sort members) := by
  obtain ⟨hsorted, hsame⟩ := foldl_insertSorted .nil h
  rw [ofMembers, Entries.eq_of_perm (hsame.trans (Entries.perm_sort members).symm)
    (Entries.sorted_of_pairwise hsorted (Entries.distinct_of_perm hsame.symm h)) (Entries.sorted_sort h)]

end Json

namespace Value

/-- What holds of texts, and of mappings and lists if it holds of what they contain, holds of all values. -/
@[elab_as_elim]
theorem induction_children {motive : Value → Prop} (str : ∀ s, motive (.str s))
    (map : ∀ m, (∀ e ∈ m, motive e.2) → motive (.map m)) (list : ∀ l, (∀ v ∈ l, motive v) → motive (.list l))
    (v : Value) : motive v := by
  cases v with
  | str s => exact str s
  | map m => exact map m fun e _ => induction_children str map list e.2
  | list l => exact list l fun v _ => induction_children str map list v
termination_by sizeOf v
decreasing_by
  · have hsize := List.sizeOf_lt_of_mem ‹e ∈ m›
    obtain ⟨k, w⟩ := e
    simp only [Prod.mk.sizeOf_spec, Value.map.sizeOf_spec] at hsize ⊢
    omega
  · have hsize := List.sizeOf_lt_of_mem ‹v ∈ l›
    simp only [Value.list.sizeOf_spec]
    omega

/-! ## Sorted values -/

mutual

/-- The value with the keys of its mappings in order, at all depths. -/
def sorted : Value → Value
  | .str s => .str s
  | .map m => .map (Entries.sort (sortedEntries m))
  | .list l => .list (sortedItems l)

def sortedEntries : List (String × Value) → List (String × Value)
  | [] => []
  | (k, v) :: rest => (k, sorted v) :: sortedEntries rest

def sortedItems : List Value → List Value
  | [] => []
  | v :: rest => sorted v :: sortedItems rest

end

theorem sorted_map (m : Entries Value) :
    (Value.map m).sorted = .map ((Entries.sort m).map fun e => (e.1, e.2.sorted)) := by
  have hentries : sortedEntries m = m.map fun e => (e.1, e.2.sorted) := by
    induction m with
    | nil => rfl
    | cons e rest ih => rw [sortedEntries, ih, List.map_cons]
  rw [sorted, hentries, Entries.sort_map]

theorem sorted_list (l : List Value) : (Value.list l).sorted = .list (l.map sorted) := by
  have hitems : sortedItems l = l.map sorted := by
    induction l with
    | nil => rfl
    | cons v rest ih => rw [sortedItems, ih, List.map_cons]
  rw [sorted, hitems]

def InOrder (v : Value) : Prop := v.Every Entries.Sorted

theorem distinct_map_iff (m : Entries Value) :
    (Value.map m).Distinct ↔ Entries.Distinct m ∧ ∀ e ∈ m, e.2.Distinct := by
  simp only [distinct_iff_every, every_map_iff]

theorem distinct_list_iff (l : List Value) : (Value.list l).Distinct ↔ ∀ v ∈ l, v.Distinct := by
  simp only [distinct_iff_every, every_list_iff]

theorem inOrder_sorted {v : Value} (h : v.Distinct) : v.sorted.InOrder := by
  induction v using induction_children with
  | str s => exact every_str _ s
  | map m ih =>
    obtain ⟨hkeys, hvalues⟩ := (distinct_map_iff m).mp h
    rw [sorted_map, InOrder, every_map_iff]
    constructor
    · exact List.pairwise_map.mpr (Entries.sorted_sort hkeys)
    · intro e he
      obtain ⟨a, ha, rfl⟩ := List.mem_map.mp he
      have ha := (Entries.perm_sort m).mem_iff.mp ha
      exact ih a ha (hvalues a ha)
  | list l ih =>
    rw [sorted_list, InOrder, every_list_iff]
    intro v hv
    obtain ⟨a, ha, rfl⟩ := List.mem_map.mp hv
    exact ih a ha ((distinct_list_iff l).mp h a ha)

theorem sorted_of_inOrder {v : Value} (h : v.InOrder) : v.sorted = v := by
  induction v using induction_children with
  | str s => rfl
  | map m ih =>
    obtain ⟨hkeys, hvalues⟩ := (every_map_iff m).mp h
    have hsame : m.map (fun e => (e.1, e.2.sorted)) = m :=
      (List.map_congr_left fun e he => by rw [ih e he (hvalues e he), id]).trans (List.map_id m)
    rw [sorted_map, Entries.sort_of_sorted hkeys, hsame]
  | list l ih =>
    have hsame : l.map sorted = l :=
      (List.map_congr_left fun v hv => ih v hv ((every_list_iff l).mp h v hv)).trans (List.map_id l)
    rw [sorted_list, hsame]

theorem InOrder.distinct {v : Value} (h : v.InOrder) : v.Distinct := by
  induction v using induction_children with
  | str s => exact trivial
  | map m ih =>
    obtain ⟨hkeys, hvalues⟩ := (every_map_iff m).mp h
    exact (distinct_map_iff m).mpr ⟨hkeys.distinct, fun e he => ih e he (hvalues e he)⟩
  | list l ih => exact (distinct_list_iff l).mpr fun v hv => ih v hv ((every_list_iff l).mp h v hv)

/-! ## Equality up to the order of keys -/

mutual

def same : Value → Value → Bool
  | .str s, .str t => s == t
  | .map m, .map m' => m.length == m'.length && sameEntries m m'
  | .list l, .list l' => sameItems l l'
  | _, _ => false

def sameEntries : List (String × Value) → Entries Value → Bool
  | [], _ => true
  | (k, v) :: rest, m =>
    (match Entries.find? m k with
      | some w => same v w
      | none => false) && sameEntries rest m

def sameItems : List Value → List Value → Bool
  | [], [] => true
  | v :: rest, w :: rest' => same v w && sameItems rest rest'
  | _, _ => false

end

theorem same_map_iff (m m' : Entries Value) : (Value.map m).same (.map m') = true ↔
    m.length = m'.length ∧ ∀ e ∈ m, ∃ w, Entries.find? m' e.1 = some w ∧ e.2.same w = true := by
  have hentries : sameEntries m m' = true ↔ ∀ e ∈ m, ∃ w, Entries.find? m' e.1 = some w ∧ e.2.same w = true := by
    induction m with
    | nil => simp [sameEntries]
    | cons e rest ih =>
      obtain ⟨k, v⟩ := e
      rw [sameEntries, Bool.and_eq_true, ih, List.forall_mem_cons]
      cases Entries.find? m' k <;> simp
  rw [same, Bool.and_eq_true, hentries, beq_iff_eq]

theorem same_list_iff (l l' : List Value) :
    (Value.list l).same (.list l') = true ↔ List.Forall₂ (fun v w => v.same w = true) l l' := by
  rw [same]
  induction l generalizing l' with
  | nil => cases l' <;> simp [sameItems]
  | cons v rest ih =>
    cases l' with
    | nil => simp [sameItems]
    | cons w rest' => rw [sameItems, Bool.and_eq_true, ih, List.forall₂_cons]

theorem same_sorted {v : Value} (h : v.Distinct) : v.same v.sorted = true ∧ v.sorted.same v = true := by
  induction v using induction_children with
  | str s => simp [sorted, same]
  | map m ih =>
    obtain ⟨hkeys, hvalues⟩ := (distinct_map_iff m).mp h
    have hlength : ((Entries.sort m).map fun e => (e.1, e.2.sorted)).length = m.length := by
      rw [List.length_map, (Entries.perm_sort m).length_eq]
    have hmem {e : String × Value} : e ∈ Entries.sort m ↔ e ∈ m := (Entries.perm_sort m).mem_iff
    rw [sorted_map, same_map_iff, same_map_iff]
    constructor
    · refine ⟨hlength.symm, ?_⟩
      intro e he
      have hsorted : Entries.Distinct ((Entries.sort m).map fun e => (e.1, e.2.sorted)) :=
        Entries.Sorted.distinct (List.pairwise_map.mpr (Entries.sorted_sort hkeys))
      exact ⟨_, Entries.find?_of_mem hsorted (List.mem_map_of_mem (hmem.mpr he)), (ih e he (hvalues e he)).1⟩
    · refine ⟨hlength, ?_⟩
      intro e he
      obtain ⟨a, ha, rfl⟩ := List.mem_map.mp he
      have ha := hmem.mp ha
      exact ⟨a.2, Entries.find?_of_mem hkeys ha, (ih a ha (hvalues a ha)).2⟩
  | list l ih =>
    have hitems (v : Value) (hv : v ∈ l) := ih v hv ((distinct_list_iff l).mp h v hv)
    rw [sorted_list, same_list_iff, same_list_iff, List.forall₂_map_right_iff, List.forall₂_map_left_iff]
    exact ⟨List.forall₂_same.mpr fun v hv => (hitems v hv).1, List.forall₂_same.mpr fun v hv => (hitems v hv).2⟩

/-! ## Documents -/

mutual

/-- The document that has all keys where the value has them. -/
def document : Value → Json
  | .str s => .string s
  | .map m => .object (documentEntries m)
  | .list l => .array (documentItems l)

def documentEntries : List (String × Value) → List (String × Json)
  | [] => []
  | (k, v) :: rest => (k, document v) :: documentEntries rest

def documentItems : List Value → List Json
  | [] => []
  | v :: rest => document v :: documentItems rest

end

mutual

theorem ofJson_document : ∀ v : Value, ofJson v.document = v
  | .str s => by rw [document, ofJson]
  | .map m => by rw [document, ofJson, ofJsonEntries_document m]
  | .list l => by rw [document, ofJson, ofJsonItems_document l]

theorem ofJsonEntries_document : ∀ m : List (String × Value), ofJsonEntries (documentEntries m) = m
  | [] => rfl
  | (k, v) :: rest => by rw [documentEntries, ofJsonEntries, ofJson_document v, ofJsonEntries_document rest]

theorem ofJsonItems_document : ∀ l : List Value, ofJsonItems (documentItems l) = l
  | [] => rfl
  | v :: rest => by rw [documentItems, ofJsonItems, ofJson_document v, ofJsonItems_document rest]

end

mutual

theorem render_document : ∀ v : Value, v.document.render = v.render
  | .str s => rfl
  | .map m => by rw [document, Json.render, renderEntries_document m, render]
  | .list l => by rw [document, Json.render, renderItems_document l, render]

theorem renderEntries_document : ∀ m : List (String × Value), Json.renderEntries (documentEntries m) = renderEntries m
  | [] => rfl
  | (k, v) :: [] => by
    rw [documentEntries, documentEntries, Json.renderEntries, render_document v, renderEntries]
  | (k, v) :: (k', w) :: rest => by
    have hrest := renderEntries_document ((k', w) :: rest)
    rw [documentEntries] at hrest
    rw [documentEntries, documentEntries, Json.renderEntries, render_document v, hrest, renderEntries]

theorem renderItems_document : ∀ l : List Value, Json.renderItems (documentItems l) = renderItems l
  | [] => rfl
  | v :: [] => by rw [documentItems, documentItems, Json.renderItems, render_document v, renderItems]
  | v :: w :: rest => by
    have hrest := renderItems_document (w :: rest)
    rw [documentItems] at hrest
    rw [documentItems, documentItems, Json.renderItems, render_document v, hrest, renderItems]

end

theorem documentEntries_eq_map (m : List (String × Value)) :
    documentEntries m = m.map fun e => (e.1, e.2.document) := by
  induction m with
  | nil => rfl
  | cons e rest ih => rw [documentEntries, ih, List.map_cons]

theorem documentItems_eq_map (l : List Value) : documentItems l = l.map document := by
  induction l with
  | nil => rfl
  | cons v rest ih => rw [documentItems, ih, List.map_cons]

theorem toJsonEntries_eq_map (m : List (String × Value)) : toJsonEntries m = m.map fun e => (e.1, e.2.toJson) := by
  induction m with
  | nil => rfl
  | cons e rest ih => rw [toJsonEntries, ih, List.map_cons]

theorem toJsonItems_eq_map (l : List Value) : toJsonItems l = l.map toJson := by
  induction l with
  | nil => rfl
  | cons v rest ih => rw [toJsonItems, ih, List.map_cons]

/-- A value goes over into the document of its sorted form. -/
theorem toJson_eq {v : Value} (h : v.Distinct) : v.toJson = v.sorted.document := by
  induction v using induction_children with
  | str s => rfl
  | map m ih =>
    obtain ⟨hkeys, hvalues⟩ := (distinct_map_iff m).mp h
    have hsame : m.map (fun e => (e.1, e.2.toJson)) = m.map fun e => (e.1, e.2.sorted.document) :=
      List.map_congr_left fun e he => by rw [ih e he (hvalues e he)]
    have hdistinct : Entries.Distinct (m.map fun e => (e.1, e.2.sorted.document)) := by
      rw [Entries.Distinct, Entries.keys, List.map_map]
      exact hkeys
    rw [toJson, toJsonEntries_eq_map, hsame, Json.ofMembers_eq hdistinct,
      Entries.sort_map (fun v : Value => v.sorted.document), sorted_map, document, documentEntries_eq_map, List.map_map]
    rfl
  | list l ih =>
    have hsame : l.map toJson = l.map fun v => v.sorted.document :=
      List.map_congr_left fun v hv => ih v hv ((distinct_list_iff l).mp h v hv)
    rw [toJson, toJsonItems_eq_map, hsame, sorted_list, document, documentItems_eq_map, List.map_map]
    rfl

end Value

end LineRules
