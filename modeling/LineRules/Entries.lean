/-
  LineRules.Entries — dictionaries that remember the order in which their keys came.

  A dictionary is the list of its entries. `insert` overwrites a key where it stands and
  appends a new one, `erase` closes the gap, `insertAll` inserts one dictionary's entries
  into another one by one. `exchange` and `withdraw` are the first two for those who ask for
  the value that gives way. A key occurs at most once in a list built by these operations
  (`Distinct`), and only the first occurrence of a key is ever seen.
-/

namespace LineRules

/-- Entries of a dictionary, in order of first insertion. -/
abbrev Entries (α : Type) := List (String × α)

namespace Entries

variable {α : Type}

def keys (m : Entries α) : List String := m.map (·.1)

def find? : Entries α → String → Option α
  | [], _ => none
  | (k, v) :: m, key => if k = key then some v else find? m key

def insert : Entries α → String → α → Entries α
  | [], key, value => [(key, value)]
  | (k, v) :: m, key, value => if k = key then (k, value) :: m else (k, v) :: insert m key value

def erase : Entries α → String → Entries α
  | [], _ => []
  | (k, v) :: m, key => if k = key then m else (k, v) :: erase m key

/-- `insert`, and the value that it overwrites. -/
def exchange : Entries α → String → α → Option α × Entries α
  | [], key, value => (none, [(key, value)])
  | (k, v) :: m, key, value =>
    if k = key then (some v, (k, value) :: m)
    else
      match exchange m key value with
      | (old, m) => (old, (k, v) :: m)

/-- `erase`, and the value that it takes away. -/
def withdraw : Entries α → String → Option α × Entries α
  | [], _ => (none, [])
  | (k, v) :: m, key =>
    if k = key then (some v, m)
    else
      match withdraw m key with
      | (old, m) => (old, (k, v) :: m)

def insertAll (m news : Entries α) : Entries α := news.foldl (fun m e => insert m e.1 e.2) m

def ofPairs (pairs : List (String × α)) : Entries α := insertAll [] pairs

def Distinct (m : Entries α) : Prop := (keys m).Nodup

/-! ## What each operation does to a look-up -/

theorem find?_insert (m : Entries α) (key k : String) (v : α) :
    find? (insert m key v) k = if key = k then some v else find? m k := by
  induction m with
  | nil => simp [insert, find?]
  | cons e m ih =>
    simp only [insert]
    split
    · rename_i h; subst h; simp only [find?]; split <;> simp_all
    · rename_i h; simp only [find?, ih]; split
      · rename_i hk; simp [show key ≠ k from fun he => h (hk.trans he.symm)]
      · rfl

theorem keys_insert (m : Entries α) (key : String) (v : α) :
    keys (insert m key v) = if key ∈ keys m then keys m else keys m ++ [key] := by
  induction m with
  | nil => simp [insert, keys]
  | cons e m ih =>
    simp only [insert]
    split
    · rename_i h; subst h; simp [keys]
    · rename_i h
      have hne : ¬ key = e.1 := fun he => h he.symm
      simp only [keys, List.map_cons, List.mem_cons, hne, false_or] at ih ⊢
      rw [ih]; split <;> simp_all

theorem find?_eq_none_iff (m : Entries α) (key : String) : find? m key = none ↔ key ∉ keys m := by
  induction m with
  | nil => simp [find?, keys]
  | cons e m ih =>
    simp only [find?, keys, List.map_cons, List.mem_cons, not_or] at ih ⊢
    split
    · rename_i h; simp [h]
    · rename_i h; rw [ih]; exact ⟨fun hm => ⟨fun he => h he.symm, hm⟩, (·.2)⟩

theorem distinct_insert {m : Entries α} (h : Distinct m) (key : String) (v : α) : Distinct (insert m key v) := by
  simp only [Distinct, keys_insert] at h ⊢
  split
  · exact h
  · rename_i hk
    exact List.nodup_append.mpr ⟨h, by simp, fun a ha b hb => by
      simp only [List.mem_singleton] at hb; subst hb; exact fun he => hk (he ▸ ha)⟩

theorem exchange_eq (m : Entries α) (key : String) (v : α) : exchange m key v = (find? m key, insert m key v) := by
  induction m with
  | nil => rfl
  | cons e m ih =>
    simp only [exchange, find?, insert]
    split
    · rfl
    · rw [ih]

theorem withdraw_eq (m : Entries α) (key : String) : withdraw m key = (find? m key, erase m key) := by
  induction m with
  | nil => rfl
  | cons e m ih =>
    simp only [withdraw, find?, erase]
    split
    · rfl
    · rw [ih]

theorem keys_erase (m : Entries α) (key : String) : keys (erase m key) = (keys m).erase key := by
  induction m with
  | nil => rfl
  | cons e m ih =>
    simp only [erase, keys, List.map_cons, List.erase_cons, beq_iff_eq] at ih ⊢
    split
    · rfl
    · rw [List.map_cons, ih]

theorem distinct_erase {m : Entries α} (h : Distinct m) (key : String) : Distinct (erase m key) := by
  rw [Distinct, keys_erase]
  exact h.erase key

theorem find?_erase_of_ne (m : Entries α) {key k : String} (h : k ≠ key) : find? (erase m key) k = find? m k := by
  induction m with
  | nil => rfl
  | cons e m ih =>
    simp only [erase]
    split
    · rename_i he
      simp [find?, show e.1 ≠ k from fun hk => h (hk.symm.trans he)]
    · simp only [find?, ih]

end Entries

end LineRules
