/-
  LineRules.Proofs.TreeWriting — what writing a value at a place does to a tree.

  A place is followed in a tree segment by segment, a list segment into the last element of
  its list (`follow?`). What a write finds on its way is looked up in the old tree: the
  mappings under plain segments, and nothing below a list segment, which begins a new one
  (`basis`).

  A write changes the mapping that it reaches at each segment just as it changes the mapping
  that it found there (`follow?_store?`). All else follows: what stands at the end
  (`storeLast_eq`), what stays in each mapping on the way (`keys_storeAt`,
  `find?_storeAt_of_ne`), and that keys stay distinct (`distinct_storeAt`). `store?_place` puts
  this together. Behind plain segments the keys of the place lead to the written value, as it
  settles with what was there (`follow?_store?_settled`).

  A list that a place meets grows where its segment is the last one or marked as a list; a plain
  segment with others behind it puts a mapping in the list's stead (`store?_list_iff`).
-/

import LineRules.Proofs.Dictionary
import LineRules.Tree

namespace LineRules.Tree

open Entries (keys find? insert insertAll)

/-- The mapping that a segment leads into: the one under its key, or the last element of the
    list there. -/
def into? (m : Entries Value) (s : Segment) : Option (Entries Value) :=
  if s.list then (listAt m s.key).getLast?.bind Value.entries? else (find? m s.key).bind Value.entries?

def follow? (m : Entries Value) : List Segment → Option (Entries Value)
  | [] => some m
  | s :: rest => (into? m s).bind fun sub => follow? sub rest

/-- The mapping that a write goes on with after a segment: the one under a plain key, no entries
    where no mapping is and after a list segment. -/
def under (m : Entries Value) (s : Segment) : Entries Value := if s.list then [] else mappingAt m s.key

def basis (m : Entries Value) : List Segment → Entries Value
  | [] => m
  | s :: rest => basis (under m s) rest

/-! ## One segment -/

/-- What a write puts under the key of a segment that others follow. -/
theorem storeAt_cons (m : Entries Value) (v : Value) (s next : Segment) (rest : List Segment) :
    storeAt m v s (next :: rest) = insert m s.key
      (if s.list then .list (listAt m s.key ++ [.map (storeAt (under m s) v next rest)])
        else .map (storeAt (under m s) v next rest)) := by
  by_cases h : s.list = true <;> simp [storeAt, under, h]

def settled (old : Option Value) (list : Bool) (v : Value) : Value :=
  match old, list, v with
  | some (.list items), _, v => .list (items ++ [v])
  | _, true, v => .list [v]
  | some (.map es), false, .map news => .map (insertAll es news)
  | _, false, .map news => .map (insertAll [] news)
  | _, false, v => v

theorem storeLast_eq (m : Entries Value) (s : Segment) (v : Value) :
    storeLast m s v = insert m s.key (settled (find? m s.key) s.list v) := by
  unfold storeLast listAt mappingAt
  rcases hold : find? m s.key with _ | (_ | _ | _) <;> cases s.list <;> cases v <;> simp [settled]

/-- A write inserts one value under the key of its first segment. -/
theorem storeAt_eq_insert (m : Entries Value) (v : Value) (s : Segment) (rest : List Segment) :
    ∃ x, storeAt m v s rest = insert m s.key x ∧ (s.list = true → ∃ y, x = .list (listAt m s.key ++ [y])) := by
  cases rest with
  | nil =>
    refine ⟨_, storeLast_eq m s v, fun hs => ⟨v, ?_⟩⟩
    rcases hold : find? m s.key with _ | (_ | _ | _) <;> simp [settled, listAt, hold, hs]
  | cons next rest =>
    refine ⟨_, storeAt_cons m v s next rest, fun hs => ⟨.map (storeAt (under m s) v next rest), ?_⟩⟩
    rw [if_pos hs]

theorem keys_storeAt (m : Entries Value) (v : Value) (s : Segment) (rest : List Segment) :
    keys (storeAt m v s rest) = if s.key ∈ keys m then keys m else keys m ++ [s.key] := by
  obtain ⟨x, hx, -⟩ := storeAt_eq_insert m v s rest
  rw [hx, Entries.keys_insert]

theorem find?_storeAt_of_ne (m : Entries Value) (v : Value) (s : Segment) (rest : List Segment) {k : String}
    (h : k ≠ s.key) : find? (storeAt m v s rest) k = find? m k := by
  obtain ⟨x, hx, -⟩ := storeAt_eq_insert m v s rest
  rw [hx, Entries.find?_insert_of_ne m x h]

theorem find?_storeAt_list (m : Entries Value) (v : Value) {s : Segment} (rest : List Segment) (h : s.list = true) :
    ∃ y, find? (storeAt m v s rest) s.key = some (.list (listAt m s.key ++ [y])) := by
  obtain ⟨x, hx, hlist⟩ := storeAt_eq_insert m v s rest
  obtain ⟨y, rfl⟩ := hlist h
  exact ⟨y, by rw [hx, Entries.find?_insert_self]⟩

/-- A segment leads into the mapping that a write through it went on with. -/
theorem into?_storeAt (m : Entries Value) (v : Value) (s next : Segment) (rest : List Segment) :
    into? (storeAt m v s (next :: rest)) s = some (storeAt (under m s) v next rest) := by
  rw [storeAt_cons]
  by_cases h : s.list = true
  · simp [into?, h, listAt, Value.entries?]
  · simp [into?, h, Value.entries?]

/-! ## Whole places -/

/-- The mapping that a written place leads into is the one that the write found there, written
    at what is left of the place. -/
theorem follow?_store? (m : Entries Value) (v : Value) (q : List Segment) (s : Segment) (rest : List Segment) :
    ∃ m', store? m (q ++ s :: rest) v = some m' ∧ follow? m' q = some (storeAt (basis m q) v s rest) := by
  induction q generalizing m with
  | nil => exact ⟨_, rfl, rfl⟩
  | cons a q ih =>
    obtain ⟨sub, hsub, hfollow⟩ := ih (under m a)
    obtain ⟨next, more, hmore⟩ := List.exists_cons_of_ne_nil (show q ++ s :: rest ≠ [] by simp)
    rw [hmore] at hsub
    cases hsub
    refine ⟨storeAt m v a (next :: more), by rw [List.cons_append, hmore]; rfl, ?_⟩
    rw [follow?, into?_storeAt, Option.bind_some]
    exact hfollow

/-- Only a value that is no mapping cannot be stored, and that only at the root. -/
theorem store?_eq_none_iff {m : Entries Value} {place : List Segment} {v : Value} :
    store? m place v = none ↔ place = [] ∧ ∀ es, v ≠ .map es := by
  cases place with
  | cons a rest => simp [store?]
  | nil => cases v <;> simp [store?]

/-- At its top level a write keeps the keys in their places and adds at most new ones behind them. -/
theorem grows_store? {m m' : Entries Value} {place : List Segment} {v : Value}
    (h : store? m place v = some m') : Entries.Grows m m' := by
  cases place with
  | cons a rest =>
    cases h
    obtain ⟨x, hx, -⟩ := storeAt_eq_insert m v a rest
    rw [hx]
    exact Entries.grows_insert m a.key x
  | nil =>
    cases v with
    | map es => cases h; exact Entries.grows_insertAll m es
    | str | list => cases h

/-! ## Plain segments -/

@[simp] theorem mappingAt_insert_map (m : Entries Value) (key : String) (sub : Entries Value) :
    mappingAt (insert m key (.map sub)) key = sub := by
  simp [mappingAt]

/-- Behind a plain segment the mapping under its key is written. -/
theorem store?_cons_of_plain {s : Segment} (hs : s.list = false) {place : List Segment} (hplace : place ≠ [])
    (m : Entries Value) (v : Value) :
    store? m (s :: place) v = (store? (mappingAt m s.key) place v).map fun sub => insert m s.key (.map sub) := by
  obtain ⟨next, rest, rfl⟩ := List.exists_cons_of_ne_nil hplace
  simp [store?, storeAt, hs]

/-- What is behind a key is what is in the mapping under it. -/
theorem follow?_mappingAt (m : Entries Value) (key : String) {keys : List String} (hkeys : keys ≠ []) :
    (Value.map (mappingAt m key)).follow? keys = (Value.map m).follow? (key :: keys) := by
  obtain ⟨next, rest, rfl⟩ := List.exists_cons_of_ne_nil hkeys
  simp only [Value.follow?, Value.get?, Value.entries?, Option.bind_some, mappingAt]
  rcases find? m key with _ | (_ | _ | _) <;> rfl

/-- At a place behind plain segments a written value settles with what was there. -/
theorem follow?_store?_settled (m : Entries Value) (v : Value) {parents : List Segment}
    (hplain : ∀ a ∈ parents, a.list = false) (last : Segment) :
    ∃ m', store? m (parents ++ [last]) v = some m' ∧
      (Value.map m').follow? ((parents ++ [last]).map (·.key)) =
        some (settled ((Value.map m).follow? ((parents ++ [last]).map (·.key))) last.list v) := by
  induction parents generalizing m with
  | nil =>
    refine ⟨_, rfl, ?_⟩
    simp [storeAt, storeLast_eq, Value.follow?, Value.get?, Value.entries?]
  | cons a parents ih =>
    obtain ⟨sub, hsub, hfollow⟩ := ih (mappingAt m a.key) fun b hb => hplain b (List.mem_cons_of_mem a hb)
    have hkeys : (parents ++ [last]).map (·.key) ≠ [] := by simp
    refine ⟨insert m a.key (.map sub), ?_, ?_⟩
    · rw [List.cons_append, store?_cons_of_plain (hplain a List.mem_cons_self) (by simp), hsub, Option.map_some]
    · rw [List.cons_append, List.map_cons, ← follow?_mappingAt _ _ hkeys, mappingAt_insert_map, hfollow,
        follow?_mappingAt _ _ hkeys]

/-! ## What holds of all mappings -/

section Every

variable {K : String → Prop} {P : Entries Value → Prop} (hP : Value.KeyRule K P) {m : Entries Value}

theorem every_listAt (h : (Value.map m).Every P) (key : String) : (Value.list (listAt m key)).Every P := by
  unfold listAt
  split
  · rename_i items hitems; exact Value.every_of_find? h hitems
  · simp [Value.every_list_iff]

theorem every_list_concat {items : List Value} {v : Value} (hi : (Value.list items).Every P) (hv : v.Every P) :
    (Value.list (items ++ [v])).Every P := by
  rw [Value.every_list_iff] at hi ⊢
  intro w hw
  rcases List.mem_append.mp hw with hw | hw
  · exact hi w hw
  · rw [List.mem_singleton.mp hw]; exact hv

include hP

theorem every_under (h : (Value.map m).Every P) (s : Segment) : (Value.map (under m s)).Every P := by
  unfold under mappingAt
  split
  · exact Value.every_emptyMap hP
  · split
    · rename_i es hes; exact Value.every_of_find? h hes
    · exact Value.every_emptyMap hP

theorem every_settled {old : Option Value} {v : Value} (ho : ∀ o, old = some o → o.Every P) (list : Bool)
    (hv : v.Every P) : (settled old list v).Every P := by
  have hsingle : (Value.list [v]).Every P := by simpa [Value.every_list_iff] using hv
  rcases old with _ | (_ | es | items) <;> cases list <;> cases v <;>
    first
    | exact every_list_concat (ho _ rfl) hv
    | exact Value.every_insertAll hP (ho _ rfl) hv
    | exact Value.every_insertAll hP (Value.every_emptyMap hP) hv
    | exact hsingle
    | exact hv

theorem every_storeAt {v : Value} (hv : v.Every P) {s : Segment} {rest : List Segment}
    (hplace : ∀ a ∈ s :: rest, K a.key) (h : (Value.map m).Every P) : (Value.map (storeAt m v s rest)).Every P := by
  have hs : K s.key := hplace s List.mem_cons_self
  induction rest generalizing m s with
  | nil =>
    rw [storeAt, storeLast_eq]
    exact Value.every_insert hP h hs (every_settled hP (fun o ho => Value.every_of_find? h ho) s.list hv)
  | cons next rest ih =>
    have hrest : ∀ a ∈ next :: rest, K a.key := fun a ha => hplace a (List.mem_cons_of_mem s ha)
    have hsub := ih hrest (every_under hP h s) (hrest next List.mem_cons_self)
    rw [storeAt_cons]
    refine Value.every_insert hP h hs ?_
    split
    · exact every_list_concat (every_listAt h s.key) hsub
    · exact hsub

theorem every_store? {v : Value} (hv : v.Every P) {place : List Segment} (hplace : ∀ a ∈ place, K a.key)
    (h : (Value.map m).Every P) {m' : Entries Value} (hm' : store? m place v = some m') : (Value.map m').Every P := by
  cases place with
  | cons s rest => cases hm'; exact every_storeAt hP hv hplace h
  | nil =>
    cases v with
    | map news => cases hm'; exact Value.every_insertAll hP h hv
    | str | list => cases hm'

end Every

theorem distinct_storeAt {v : Value} (hv : v.Distinct) (rest : List Segment) {m : Entries Value}
    (h : (Value.map m).Distinct) (s : Segment) : (Value.map (storeAt m v s rest)).Distinct := by
  rw [Value.distinct_iff_every] at hv h ⊢
  exact every_storeAt Value.keyRule_distinct hv (fun _ _ => trivial) h

/-! ## Writing -/

/-- Writing at a place succeeds. Followed in the new tree, the place ends in a mapping that has
    under the last key: a list with the value appended, if the segment is a list segment or a
    list was there; the mapping that was there, updated by a mapping; otherwise the value. In each
    mapping on the way all other keys keep their values and their order, a new key goes last, and
    a list under a list segment grows by one element. At the root only mappings can be written. -/
theorem store?_place (t : Entries Value) (parents : List Segment) (last : Segment) (v : Value) :
    ∃ t', store? t (parents ++ [last]) v = some t' ∧
      ((Value.map t).Distinct → v.Distinct → (Value.map t').Distinct) ∧
      (∃ node, follow? t' parents = some node ∧
        (last.list = true → find? node last.key = some (.list (listAt (basis t parents) last.key ++ [v]))) ∧
        (last.list = false →
          match find? (basis t parents) last.key, v with
          | some (.list items), _ => find? node last.key = some (.list (items ++ [v]))
          | _, .map news => find? node last.key = some (.map (insertAll (mappingAt (basis t parents) last.key) news))
          | _, _ => find? node last.key = some v)) ∧
      (∀ q s rest, parents ++ [last] = q ++ s :: rest → ∃ node, follow? t' q = some node ∧
        keys node = (if s.key ∈ keys (basis t q) then keys (basis t q) else keys (basis t q) ++ [s.key]) ∧
        (∀ k, k ≠ s.key → find? node k = find? (basis t q) k) ∧
        (s.list = true → ∃ x, find? node s.key = some (.list (listAt (basis t q) s.key ++ [x])))) ∧
      (∀ news, store? t [] (.map news) = some (insertAll t news)) ∧
      (v.entries? = none → store? t [] v = none) := by
  obtain ⟨t', ht', hend⟩ := follow?_store? t v parents last []
  refine ⟨t', ht', ?_, ⟨_, hend, ?_, ?_⟩, ?_, fun _ => rfl, ?_⟩
  · intro ht hv
    obtain ⟨s, rest, hplace⟩ := List.exists_cons_of_ne_nil (show parents ++ [last] ≠ [] by simp)
    rw [hplace] at ht'
    cases ht'
    exact distinct_storeAt hv rest ht s
  · intro hl
    rw [storeAt, storeLast_eq, Entries.find?_insert_self, hl]
    rcases hold : find? (basis t parents) last.key with _ | (_ | _ | _) <;> simp [settled, listAt, hold]
  · intro hl
    rw [storeAt, storeLast_eq, Entries.find?_insert_self, hl]
    rcases hold : find? (basis t parents) last.key with _ | (_ | _ | _) <;> cases v <;>
      simp [settled, mappingAt, hold]
  · intro q s rest hplace
    obtain ⟨t'', ht'', hnode⟩ := follow?_store? t v q s rest
    rw [← hplace, ht'] at ht''
    cases ht''
    exact ⟨_, hnode, keys_storeAt _ v s rest, fun k hk => find?_storeAt_of_ne _ v s rest hk,
      find?_storeAt_list _ v rest⟩
  · intro hv
    cases v with
    | map news => cases hv
    | str | list => rfl

/-- A record of a list gets company, though a text stands where its list should go on. A mapping takes the place
    of a value in the mapping that is there, keeps another one, and adds a third one behind them. -/
theorem store?_place_record :
    (∃ t' node, store? [("users", .list [.map [("name", .str "eric")]]), ("x", .str "1")]
        ([⟨"users", true⟩, ⟨"disks", false⟩] ++ [⟨"root", true⟩]) (.map [("size", .str "8")]) = some t' ∧
      follow? t' [⟨"users", true⟩, ⟨"disks", false⟩] = some node ∧
      find? node "root" = some (.list [.map [("size", .str "8")]]) ∧ keys t' = ["users", "x"]) ∧
    ∃ t' node, store? [("disks", .map [("root", .map [("size", .str "8"), ("type", .str "ext4")])])]
        ([⟨"disks", false⟩] ++ [⟨"root", false⟩]) (.map [("size", .str "9"), ("label", .str "boot")]) = some t' ∧
      follow? t' [⟨"disks", false⟩] = some node ∧
      find? node "root" = some (.map [("size", .str "9"), ("type", .str "ext4"), ("label", .str "boot")]) := by
  constructor
  · obtain ⟨t', ht', -, ⟨node, hnode, hlist, -⟩, hframe, -⟩ :=
      store?_place [("users", .list [.map [("name", .str "eric")]]), ("x", .str "1")]
        [⟨"users", true⟩, ⟨"disks", false⟩] ⟨"root", true⟩ (.map [("size", .str "8")])
    obtain ⟨top, htop, hkeys, -⟩ := hframe [] ⟨"users", true⟩ _ rfl
    cases htop
    exact ⟨t', node, ht', hnode, hlist rfl, hkeys⟩
  · obtain ⟨t', ht', -, ⟨node, hnode, -, hmerged⟩, -⟩ :=
      store?_place [("disks", .map [("root", .map [("size", .str "8"), ("type", .str "ext4")])])]
        [⟨"disks", false⟩] ⟨"root", false⟩ (.map [("size", .str "9"), ("label", .str "boot")])
    exact ⟨t', node, ht', hnode, hmerged rfl⟩

/-! ## Lists that a place meets -/

theorem basis_of_follow? {q : List Segment} (hq : ∀ a ∈ q, a.list = false) {m node : Entries Value}
    (h : follow? m q = some node) : basis m q = node := by
  induction q generalizing m with
  | nil => cases h; rfl
  | cons a q ih =>
    obtain ⟨sub, hinto, hsub⟩ := Option.bind_eq_some_iff.mp h
    have ha : a.list = false := hq a List.mem_cons_self
    rw [into?, ha, if_neg Bool.false_ne_true] at hinto
    obtain ⟨child, hfind, hchild⟩ := Option.bind_eq_some_iff.mp hinto
    cases child with
    | map es =>
      cases hchild
      have hunder : under m a = sub := by simp [under, ha, mappingAt, hfind]
      rw [basis, hunder]
      exact ih (fun b hb => hq b (List.mem_cons_of_mem a hb)) hsub
    | str | list => cases hchild

theorem find?_storeAt_grown {m : Entries Value} {s : Segment} {old : List Value}
    (hold : find? m s.key = some (.list old)) (v : Value) {rest : List Segment} (h : s.list = true ∨ rest = []) :
    ∃ x, find? (storeAt m v s rest) s.key = some (.list (old ++ [x])) := by
  have hlist : listAt m s.key = old := by rw [listAt, hold]
  rcases h with hs | rfl
  · exact hlist ▸ find?_storeAt_list m v rest hs
  · exact ⟨v, by rw [storeAt, storeLast_eq, Entries.find?_insert_self, hold]; rfl⟩

theorem find?_storeAt_lost {m : Entries Value} {s : Segment} {old : List Value}
    (hold : find? m s.key = some (.list old)) (v : Value) (hs : s.list = false) (next : Segment) (more : List Segment) :
    find? (storeAt m v s (next :: more)) s.key = some (.map (storeAt [] v next more)) := by
  have hunder : under m s = [] := by simp [under, hs, mappingAt, hold]
  rw [storeAt_cons, Entries.find?_insert_self, hs, if_neg Bool.false_ne_true, hunder]

/-- A list that a place meets behind plain segments keeps its elements in front of new ones exactly
    if the segment is marked as a list or is the last one, and then it grows by one element. A plain
    segment with others behind it begins a new mapping where the list was. -/
theorem store?_list_iff (t : Entries Value) (v : Value) {parents : List Segment} (s : Segment) (rest : List Segment)
    (hplain : ∀ a ∈ parents, a.list = false) {node : Entries Value} (hnode : follow? t parents = some node)
    {old : List Value} (hold : find? node s.key = some (.list old)) :
    ∃ t' node', store? t (parents ++ s :: rest) v = some t' ∧ follow? t' parents = some node' ∧
      ((∃ more, find? node' s.key = some (.list (old ++ more))) ↔ s.list = true ∨ rest = []) ∧
      (s.list = true ∨ rest = [] → ∃ x, find? node' s.key = some (.list (old ++ [x]))) ∧
      ∀ next more, s.list = false → rest = next :: more →
        find? node' s.key = some (.map (storeAt [] v next more)) := by
  obtain ⟨t', ht', hnode'⟩ := follow?_store? t v parents s rest
  rw [basis_of_follow? hplain hnode] at hnode'
  refine ⟨t', _, ht', hnode', ⟨?_, ?_⟩, find?_storeAt_grown hold v, ?_⟩
  · rintro ⟨more, hkept⟩
    cases hs : s.list with
    | true => exact .inl rfl
    | false =>
      cases rest with
      | nil => exact .inr rfl
      | cons next rest =>
        rw [find?_storeAt_lost hold v hs] at hkept
        cases hkept
  · intro h
    obtain ⟨x, hx⟩ := find?_storeAt_grown hold v h
    exact ⟨[x], hx⟩
  · rintro next more hs rfl
    exact find?_storeAt_lost hold v hs next more

/-- A list of records below a mapping, met by a marked segment that others follow. -/
theorem store?_list_iff_record :
    ∃ t' node' x, store? [("disks", .map [("log", .list [.str "a", .map []])])]
        ([⟨"disks", false⟩] ++ ⟨"log", true⟩ :: [⟨"state", false⟩]) (.str "good") = some t' ∧
      follow? t' [⟨"disks", false⟩] = some node' ∧ find? node' "log" = some (.list ([.str "a", .map []] ++ [x])) := by
  have hplain : ∀ a ∈ [(⟨"disks", false⟩ : Segment)], a.list = false := by simp
  have hnode : follow? [("disks", .map [("log", .list [.str "a", .map []])])] [⟨"disks", false⟩] =
      some [("log", .list [.str "a", .map []])] := by simp [follow?, into?, find?, Value.entries?]
  have hold : find? [("log", Value.list [.str "a", .map []])] "log" = some (.list [.str "a", .map []]) := rfl
  obtain ⟨t', node', ht', hnode', -, hgrown, -⟩ :=
    store?_list_iff _ (.str "good") ⟨"log", true⟩ [⟨"state", false⟩] hplain hnode hold
  obtain ⟨x, hx⟩ := hgrown (.inl rfl)
  exact ⟨t', node', x, ht', hnode', hx⟩

/-- A list is lost where a plain segment leads through it. -/
theorem store?_list_lost :
    find? [("x", .list [.str "1"])] "x" = some (Value.list [.str "1"]) ∧
      store? [("x", .list [.str "1"])] [⟨"x", false⟩, ⟨"y", false⟩] (.str "2") =
        some [("x", .map [("y", .str "2")])] ∧
      ¬ ∃ more, find? [("x", .map [("y", .str "2")])] "x" = some (Value.list ([.str "1"] ++ more)) :=
  ⟨rfl, rfl, by simp [find?]⟩

end LineRules.Tree
