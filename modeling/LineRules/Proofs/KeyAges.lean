/-
  LineRules.Proofs.KeyAges — a context lists its keys by age.

  What a context shows is told by the operations on it, one after another (`History`). A key is held
  that was inserted and not removed since (`Held`); its age counts from the first insertion of those
  since its last removal (`Since`), whatever overwrote it later, and its value is the one inserted last
  (`Latest`). Each of the three names an operation of the history that no later one undoes (`Stands`),
  so one more operation decides them anew or leaves them as they were (`stands_concat`). From that one
  step: a context lists the keys that are held, each once, older ones first, with the latest values
  (`Listing`), and each operation answers what was there when it came (`performAll_listing`).
-/

import LineRules.Proofs.Dictionary

namespace LineRules.Context

open Entries (keys find? Distinct)

/-- Operations on a context, the earliest first. -/
abbrev History := List Operation

def insertions (pairs : List (String × Value)) : History := pairs.map fun e => .insert e.1 e.2

def performAll (c : Context) : History → List (Option Value) × Context
  | [] => ([], c)
  | op :: rest => ((c.perform op).1 :: ((c.perform op).2.performAll rest).1, ((c.perform op).2.performAll rest).2)

/-- An operation of the history, together with what came before it, is of a kind, and none of the
    later ones undoes it. -/
def Stands (kind : History → Operation → Prop) (undone : Operation → Prop) (history : History) : Prop :=
  ∃ before op after, history = before ++ op :: after ∧ kind before op ∧ ∀ later ∈ after, ¬ undone later

/-- The key was inserted and not removed since. -/
def Held (history : History) (key : String) : Prop :=
  Stands (fun _ op => ∃ v, op = .insert key v) (· = .remove key) history

/-- The key was inserted as the operation number `i`, when it was not there, and not removed since. -/
def Since (history : History) (key : String) (i : Nat) : Prop :=
  Stands (fun before op => (∃ v, op = .insert key v) ∧ before.length = i ∧ ¬ Held before key) (· = .remove key) history

/-- The key was inserted with the value, and neither inserted again nor removed since. -/
def Latest (history : History) (key : String) (v : Value) : Prop :=
  Stands (fun _ op => op = .insert key v) (fun later => later = .remove key ∨ ∃ w, later = .insert key w) history

structure Listing (history : History) (m : Entries Value) : Prop where
  distinct : (keys m).Nodup
  held : ∀ key, key ∈ keys m ↔ Held history key
  dated : ∀ key ∈ keys m, ∃ i, Since history key i
  oldest_first : (keys m).Pairwise fun a b => ∀ i j, Since history a i → Since history b j → i < j
  latest : ∀ key v, (key, v) ∈ m ↔ Latest history key v

/-! ## One more operation -/

section Concat

variable {history : History} {op : Operation}

theorem stands_concat {kind : History → Operation → Prop} {undone : Operation → Prop} :
    Stands kind undone (history ++ [op]) ↔ kind history op ∨ ¬ undone op ∧ Stands kind undone history := by
  constructor
  · rintro ⟨before, first, after, hsplit, hkind, hafter⟩
    rcases List.eq_nil_or_concat' after with rfl | ⟨after, last, rfl⟩
    · obtain ⟨rfl, hop⟩ := List.append_inj' hsplit rfl
      exact .inl (List.singleton_inj.mp hop ▸ hkind)
    · rw [← List.cons_append, ← List.append_assoc] at hsplit
      obtain ⟨rfl, hop⟩ := List.append_inj' hsplit rfl
      obtain rfl := List.singleton_inj.mp hop
      exact .inr ⟨hafter op (by simp), before, first, after, rfl, hkind,
        fun later hlater => hafter later (List.mem_append_left _ hlater)⟩
  · rintro (hkind | ⟨hop, before, first, after, rfl, hkind, hafter⟩)
    · exact ⟨history, op, [], rfl, hkind, by simp⟩
    · refine ⟨before, first, after ++ [op], by simp, hkind, fun later hlater => ?_⟩
      rcases List.mem_append.mp hlater with hlater | hlater
      · exact hafter later hlater
      · rwa [List.mem_singleton.mp hlater]

theorem not_stands_nil {kind : History → Operation → Prop} {undone : Operation → Prop} : ¬ Stands kind undone [] := by
  rintro ⟨before, op, after, hsplit, -, -⟩
  simp at hsplit

theorem held_concat {key : String} :
    Held (history ++ [op]) key ↔ (∃ v, op = .insert key v) ∨ op ≠ .remove key ∧ Held history key := stands_concat

theorem since_concat {key : String} {i : Nat} :
    Since (history ++ [op]) key i ↔
      ((∃ v, op = .insert key v) ∧ history.length = i ∧ ¬ Held history key) ∨ op ≠ .remove key ∧ Since history key i :=
  stands_concat

theorem latest_concat {key : String} {v : Value} :
    Latest (history ++ [op]) key v ↔
      op = .insert key v ∨ ¬(op = .remove key ∨ ∃ w, op = .insert key w) ∧ Latest history key v := stands_concat

end Concat

/-! ## The invariant -/

theorem Since.lt_length {history : History} {key : String} {i : Nat} (h : Since history key i) : i < history.length := by
  obtain ⟨before, op, after, rfl, ⟨-, rfl, -⟩, -⟩ := h
  simp

theorem Since.held {history : History} {key : String} {i : Nat} (h : Since history key i) : Held history key := by
  obtain ⟨before, op, after, hsplit, ⟨hop, -, -⟩, hafter⟩ := h
  exact ⟨before, op, after, hsplit, hop, hafter⟩

namespace Listing

variable {history : History} {m : Entries Value}

theorem nil : Listing [] [] where
  distinct := List.nodup_nil
  held key := by
    have hno : ¬ Held [] key := not_stands_nil
    simpa [keys] using hno
  dated _ h := by simp [keys] at h
  oldest_first := List.Pairwise.nil
  latest key v := by
    have hno : ¬ Latest [] key v := not_stands_nil
    simpa using hno

theorem find?_eq_some_iff (h : Listing history m) {key : String} {v : Value} :
    find? m key = some v ↔ Latest history key v := by
  rw [← h.latest, Entries.mem_iff_find? h.distinct]

/-- A key that is held already keeps its age when it is inserted again. -/
theorem since_of_mem (h : Listing history m) {op : Operation} {key : String} {i : Nat} (hkey : key ∈ keys m)
    (hi : Since (history ++ [op]) key i) : Since history key i := by
  rcases since_concat.mp hi with ⟨-, -, hnew⟩ | ⟨-, hi⟩
  · exact absurd ((h.held key).mp hkey) hnew
  · exact hi

theorem insert (h : Listing history m) (key : String) (v : Value) :
    Listing (history ++ [.insert key v]) (Entries.insert m key v) where
  distinct := Entries.distinct_insert h.distinct key v
  held k := by
    rw [Entries.mem_keys_insert, h.held, held_concat]
    simp [eq_comm]
  dated k hk := by
    by_cases hheld : k ∈ keys m
    · obtain ⟨i, hi⟩ := h.dated k hheld
      exact ⟨i, since_concat.mpr (.inr ⟨by simp, hi⟩)⟩
    · obtain rfl : k = key := (Entries.mem_keys_insert.mp hk).resolve_right hheld
      exact ⟨history.length, since_concat.mpr (.inl ⟨⟨v, rfl⟩, rfl, mt (h.held k).mpr hheld⟩)⟩
  oldest_first := by
    have hkept : (keys m).Pairwise fun a b => ∀ i j,
        Since (history ++ [.insert key v]) a i → Since (history ++ [.insert key v]) b j → i < j :=
      h.oldest_first.imp_of_mem fun ha hb hab i j hi hj => hab i j (h.since_of_mem ha hi) (h.since_of_mem hb hj)
    rw [Entries.keys_insert]
    split
    · exact hkept
    · rename_i hnew
      refine List.pairwise_append.mpr ⟨hkept, List.pairwise_singleton _ _, fun a ha b hb i j hi hj => ?_⟩
      obtain rfl := List.mem_singleton.mp hb
      -- the key is the youngest one: it comes with this operation
      have hlast : history.length = j := by
        rcases since_concat.mp hj with ⟨-, hlast, -⟩ | ⟨-, hj⟩
        · exact hlast
        · exact absurd ((h.held b).mpr hj.held) hnew
      exact hlast ▸ (h.since_of_mem ha hi).lt_length
  latest k w := by
    rw [Entries.mem_iff_find? (Entries.distinct_insert h.distinct key v), Entries.find?_insert, latest_concat]
    by_cases hk : key = k
    · simp [hk]
    · simp [hk, h.find?_eq_some_iff]

theorem remove (h : Listing history m) (key : String) :
    Listing (history ++ [.remove key]) (Entries.erase m key) where
  distinct := Entries.distinct_erase h.distinct key
  held k := by
    rw [Entries.keys_erase, h.distinct.mem_erase_iff, h.held, held_concat]
    simp [eq_comm]
  dated k hk := by
    rw [Entries.keys_erase, h.distinct.mem_erase_iff] at hk
    obtain ⟨i, hi⟩ := h.dated k hk.2
    exact ⟨i, since_concat.mpr (.inr ⟨by simpa using Ne.symm hk.1, hi⟩)⟩
  oldest_first := by
    rw [Entries.keys_erase]
    refine (h.oldest_first.sublist List.erase_sublist).imp_of_mem fun ha hb hab i j hi hj => ?_
    exact hab i j (h.since_of_mem (List.mem_of_mem_erase ha) hi) (h.since_of_mem (List.mem_of_mem_erase hb) hj)
  latest k w := by
    rw [Entries.mem_iff_find? (Entries.distinct_erase h.distinct key), latest_concat]
    by_cases hk : k = key
    · have hgone : find? (Entries.erase m key) key = none := by
        rw [Entries.find?_eq_none_iff, Entries.keys_erase, h.distinct.mem_erase_iff]
        simp
      simp [hk, hgone]
    · rw [Entries.find?_erase_of_ne m hk, h.find?_eq_some_iff]
      simp [Ne.symm hk]

theorem get (h : Listing history m) (key : String) : Listing (history ++ [.get key]) m where
  distinct := h.distinct
  held k := by rw [h.held, held_concat]; simp
  dated k hk := by
    obtain ⟨i, hi⟩ := h.dated k hk
    exact ⟨i, since_concat.mpr (.inr ⟨by simp, hi⟩)⟩
  oldest_first := h.oldest_first.imp_of_mem fun ha hb hab i j hi hj =>
    hab i j (h.since_of_mem ha hi) (h.since_of_mem hb hj)
  latest k w := by rw [h.latest, latest_concat]; simp

end Listing

/-! ## Runs -/

theorem perform_answer (c : Context) (op : Operation) : (c.perform op).1 = c.get? op.key := by
  cases op <;> simp [perform, Operation.key, get?, Entries.exchange_eq, Entries.withdraw_eq]

theorem listing_perform {history : History} {c : Context} (h : Listing history c.entries) (op : Operation) :
    Listing (history ++ [op]) (c.perform op).2.entries := by
  cases op with
  | insert key v => simpa [perform, Entries.exchange_eq] using h.insert key v
  | remove key => simpa [perform, Entries.withdraw_eq] using h.remove key
  | get key => exact h.get key

theorem listing_performAll {history : History} {c : Context} (h : Listing history c.entries) (ops : History) :
    Listing (history ++ ops) (c.performAll ops).2.entries := by
  induction ops generalizing history c with
  | nil => simpa [performAll] using h
  | cons op rest ih => simpa [performAll] using ih (listing_perform h op)

theorem listing_ofPairs (pairs : List (String × Value)) : Listing (insertions pairs) (ofPairs pairs).entries := by
  have hinsert {history : History} {m : Entries Value} (h : Listing history m) (news : List (String × Value)) :
      Listing (history ++ insertions news) (Entries.insertAll m news) := by
    induction news generalizing history m with
    | nil => simpa [insertions, Entries.insertAll] using h
    | cons e news ih => simpa [insertions, Entries.insertAll_cons] using ih (h.insert e.1 e.2)
  exact hinsert Listing.nil pairs

theorem length_performAll (c : Context) (ops : History) : (c.performAll ops).1.length = ops.length := by
  induction ops generalizing c with
  | nil => rfl
  | cons op rest ih => simp [performAll, ih]

/-- Each answer is the one of the context that the operations before have left. -/
theorem getElem?_performAll (c : Context) (before : History) (op : Operation) (after : History) :
    (c.performAll (before ++ op :: after)).1[before.length]? = some ((c.performAll before).2.perform op).1 := by
  induction before generalizing c with
  | nil => rfl
  | cons first before ih => simpa [performAll] using ih (c.perform first).2

/-- Whatever pairs a context is made of and whatever is done to it then, it lists the keys that were inserted
    and not removed since, each once and with its latest value, in the order of their ages. Each operation
    answers the value that its key had when the operation came, or that there was none. Taking a key away
    leaves the others as they stand. -/
theorem performAll_listing (pairs : List (String × Value)) (ops : History) :
    ∃ answers c, (ofPairs pairs).performAll ops = (answers, c) ∧ Listing (insertions pairs ++ ops) c.entries ∧
      c.size = (keys c.entries).length ∧ (c.isEmpty = true ↔ ∀ key, ¬ Held (insertions pairs ++ ops) key) ∧
      (∀ key, keys (c.perform (.remove key)).2.entries = (keys c.entries).filter (· != key)) ∧
      answers.length = ops.length ∧
      ∀ before op after, ops = before ++ op :: after → ∃ answer, answers[before.length]? = some answer ∧
        ∀ v, answer = some v ↔ Latest (insertions pairs ++ before) op.key v := by
  have hlisting := listing_performAll (listing_ofPairs pairs) ops
  refine ⟨_, _, rfl, hlisting, ?_, ?_, fun key => ?_, length_performAll _ ops, ?_⟩
  · simp [size, keys]
  · simp [isEmpty, ← hlisting.held, keys, List.eq_nil_iff_forall_not_mem]
  · simp only [perform, Entries.withdraw_eq, Entries.keys_erase]
    exact hlisting.distinct.erase_eq_filter key
  · rintro before op after rfl
    refine ⟨_, getElem?_performAll _ before op after, fun v => ?_⟩
    rw [perform_answer]
    exact (listing_performAll (listing_ofPairs pairs) before).find?_eq_some_iff

/-- A key that is overwritten keeps its place; one that comes back after its removal goes last. -/
example : ((ofPairs [("a", .str "1"), ("b", .str "2")]).performAll
      [.remove "a", .insert "b" (.str "3"), .insert "c" (.str "4"), .insert "a" (.str "5")]).2.entries.map (·.1) =
    ["b", "c", "a"] := by decide

end LineRules.Context
