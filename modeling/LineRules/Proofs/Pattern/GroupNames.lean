/-
  LineRules.Proofs.Pattern.GroupNames — a pattern names no two groups alike.

  The normal form moves groups, drops those that can never take part, and makes no new ones: what
  the meaning of a tree captures is captured in the tree (`within_ofAst`). The tree has no two
  groups of the same name, so neither has the pattern (`groupName_injective`).
-/

import LineRules.Proofs.Pattern.Anchoring

namespace LineRules.Pattern

namespace Node

/-! ## The groups of normal forms -/

theorem flatMap_groups_parts (n : Node) : n.parts.flatMap groups = n.groups := by
  induction n with
  | cat a b _ ihb => rw [parts, List.flatMap_cons, ihb, groups]
  | empty => rfl
  | _ => simp [parts]

theorem groups_ofParts (ns : List Node) : (ofParts ns).groups = ns.flatMap groups := by
  induction ns with
  | nil => rfl
  | cons n rest ih =>
    by_cases hnil : rest = []
    · subst hnil; simp [ofParts]
    · rw [ofParts_cons hnil, groups, ih, List.flatMap_cons]

theorem flatMap_groups_consPart (n : Node) (rest : List Node) :
    (consPart n rest).flatMap groups = n.groups ++ rest.flatMap groups := by
  rcases consPart_cases n rest with ⟨heq, -⟩ | ⟨s, t, more, rfl, rfl, heq⟩
  · rw [heq, List.flatMap_cons]
  · rw [heq]; simp [groups]

theorem groups_concat (ns : List Node) : (concat ns).groups = ns.flatMap groups := by
  have hfold (ms : List Node) : (ms.foldr consPart []).flatMap groups = ms.flatMap groups := by
    induction ms with
    | nil => rfl
    | cons m rest ih => rw [List.foldr_cons, flatMap_groups_consPart, ih, List.flatMap_cons]
  rw [concat, groups_ofParts, hfold, List.flatMap_assoc]
  simp only [flatMap_groups_parts]

theorem flatMap_groups_branches (n : Node) : n.branches.flatMap groups = n.groups := by
  induction n with
  | alt a b _ ihb => rw [branches, List.flatMap_cons, ihb, groups]
  | _ => simp [branches]

theorem groups_ofBranches (ns : List Node) : (ofBranches ns).groups = ns.flatMap groups := by
  induction ns with
  | nil => rfl
  | cons n rest ih =>
    rcases rest with _ | ⟨m, rest⟩
    · simp [ofBranches]
    · rw [ofBranches, groups, ih]; exact List.flatMap_cons.symm

theorem groups_ofSet (ascii : Bool) (s : Unicode.CodeSet) : (ofSet ascii s).groups = [] := by
  unfold ofSet
  split
  · rfl
  · split <;> rfl
  · rfl

/-- The parts of some nodes capture no more than these. -/
theorem mem_groups_of_mem_parts {ns : List Node} {n x : Node} (hn : n ∈ ns) (hx : x ∈ n.parts) {g : Nat × Option String}
    (hg : g ∈ x.groups) : g ∈ ns.flatMap groups := by
  refine List.mem_flatMap.mpr ⟨n, hn, ?_⟩
  rw [← flatMap_groups_parts]
  exact List.mem_flatMap.mpr ⟨x, hx, hg⟩

theorem mem_groups_shared {bs : List Node} {x : Node} (hx : x ∈ shared bs) {g : Nat × Option String}
    (hg : g ∈ x.groups) : g ∈ bs.flatMap groups := by
  unfold shared at hx
  split at hx
  · obtain ⟨s, hs, hx⟩ := mem_of_mem_commonParts hx
    obtain ⟨b, hb, rfl⟩ := List.mem_map.mp hs
    exact mem_groups_of_mem_parts hb hx hg
  · cases hx

theorem groups_alternationWithin (fuel : Nat) (ns : List Node) :
    ∀ g ∈ (alternationWithin fuel ns).groups, g ∈ ns.flatMap groups := by
  have hflat (ms : List Node) : (ms.flatMap branches).flatMap groups = ms.flatMap groups := by
    rw [List.flatMap_assoc]
    simp only [flatMap_groups_branches]
  induction fuel generalizing ns with
  | zero =>
    rw [alternationWithin, groups_ofBranches, hflat]
    exact fun _ hg => hg
  | succ fuel ih =>
    rw [alternationWithin, ← hflat ns]
    generalize ns.flatMap branches = bs
    intro g hg
    split at hg
    · cases hg
    · exact List.mem_flatMap.mpr ⟨_, List.mem_singleton_self _, hg⟩
    · split at hg
      · rw [groups_ofSet] at hg; cases hg
      · rw [groups_ofSet] at hg; cases hg
      · split at hg
        · rwa [groups_ofBranches] at hg
        · -- the parts that the branches share, and the alternatives of what is left of each
          rw [groups_concat, List.flatMap_append, List.mem_append] at hg
          rcases hg with hg | hg
          · obtain ⟨x, hx, hg⟩ := List.mem_flatMap.mp hg
            exact mem_groups_shared hx hg
          · rw [List.flatMap_singleton] at hg
            obtain ⟨y, hy, hg⟩ := List.mem_flatMap.mp (ih _ g hg)
            obtain ⟨b, hb, rfl⟩ := List.mem_map.mp hy
            rw [groups_concat] at hg
            obtain ⟨x, hx, hg⟩ := List.mem_flatMap.mp hg
            exact mem_groups_of_mem_parts hb (List.mem_of_mem_drop hx) hg

theorem groups_repeated (min : Nat) (max : Option Nat) (greedy : Bool) (body : Node) :
    ∀ g ∈ (repeated min max greedy body).groups, g ∈ body.groups := by
  intro g hg
  unfold repeated at hg
  split at hg
  split at hg
  · cases hg
  · exact hg
  · exact hg

end Node

/-! ## Meanings -/

theorem groups_literal {fs : Flags} {l : Literal} {n : Node} (h : l.node fs = .ok n) : n.groups = [] := by
  unfold Literal.node at h
  dsimp only at h
  split at h
  · cases h
  · split at h
    · rw [← Except.ok.inj h]; rfl
    · split at h
      · rw [← Except.ok.inj h]; exact Node.groups_ofSet _ _
      · rw [← Except.ok.inj h]; exact Node.groups_ofSet _ _

/-- The node captures no more than the tree. -/
def Within (a : Ast) (n : Node) : Prop := ∀ g ∈ n.groups, g ∈ a.captures

theorem within_of_nil {a : Ast} {n : Node} (h : n.groups = []) : Within a n := by
  simp [Within, h]

mutual

/-- What the meaning of a tree captures is captured in the tree. -/
theorem within_ofAst : ∀ {a : Ast} {fs fs' : Flags} {n : Node}, Node.ofAst fs a = .ok (n, fs') → Within a n
  | .empty, _, _, _, h => by cases h; exact within_of_nil rfl
  | .flags _, _, _, _, h => by cases h; exact within_of_nil rfl
  | .literal _, _, _, _, h => fst_of_map h fun _ hn => within_of_nil (groups_literal hn)
  | .dot, _, _, _, h => fst_of_map h fun _ _ => within_of_nil (Node.groups_ofSet _ _)
  | .assertion _, _, _, _, h => by cases h; exact within_of_nil rfl
  | .shorthand _ _, _, _, _, h => fst_of_map h fun _ _ => within_of_nil (Node.groups_ofSet _ _)
  | .property _ _, _, _, _, h => fst_of_map h fun _ _ => within_of_nil (Node.groups_ofSet _ _)
  | .set _ _, _, _, _, h => by
    rw [Node.ofAst] at h
    split at h
    · exact fst_of_map h fun _ _ => within_of_nil (Node.groups_ofSet _ _)
    · cases h
  | .repetition _ _ _ body, _, _, _, h => by
    rw [Node.ofAst] at h
    split at h
    · rename_i hbody
      cases h
      exact fun g hg => within_ofAst (a := body) hbody g (Node.groups_repeated _ _ _ _ g hg)
    · cases h
  | .group (.plain _) body, _, _, _, h => by
    rw [Node.ofAst] at h
    split at h
    · rename_i hbody
      cases h
      exact within_ofAst (a := body) hbody
    · cases h
  | .group (.capture index name) body, _, _, _, h => by
    rw [Node.ofAst] at h
    split at h
    · rename_i hbody
      cases h
      intro g hg
      rcases List.mem_cons.mp hg with rfl | hg
      · exact List.mem_append_left _ (List.mem_singleton_self _)
      · exact List.mem_append_right _ (within_ofAst (a := body) hbody g hg)
    · cases h
  | .alt branches, _, _, _, h => fst_of_map h fun _ hns g hg =>
    within_ofAsts hns g (Node.groups_alternationWithin _ _ g hg)
  | .cat items, _, _, _, h => fst_of_map h fun r hns g hg =>
    within_ofAsts hns g (Node.groups_concat r.1 ▸ hg)

theorem within_ofAsts : ∀ {items : List Ast} {fs : Flags} {r : List Node × Flags}, Node.ofAsts fs items = .ok r →
    ∀ g ∈ r.1.flatMap Node.groups, g ∈ Ast.capturesAll items
  | [], _, _, h => by cases h; simp
  | a :: rest, _, _, h => by
    rw [Node.ofAsts] at h
    split at h
    · cases h
    · rename_i hnode
      split at h
      · cases h
      · rename_i hrest
        cases h
        intro g hg
        rw [List.flatMap_cons, List.mem_append] at hg
        rcases hg with hg | hg
        · exact List.mem_append_left _ (within_ofAst hnode g hg)
        · exact List.mem_append_right _ (within_ofAsts hrest g hg)

end

/-! ## Patterns -/

/-- A name in the list of a node's groups is that of a group with this number. -/
theorem mem_groups_of_groupNames {n : Node} {i : Nat} {name : String} (h : n.groupNames[i]? = some (some name)) :
    (i, some name) ∈ n.groups := by
  unfold Node.groupNames at h
  dsimp only at h
  rw [List.getElem?_map] at h
  obtain ⟨k, hk, hname⟩ := Option.map_eq_some_iff.mp h
  obtain ⟨_, hlookup, rfl⟩ := Option.bind_eq_some_iff.mp hname
  obtain ⟨before, after, hgroups, -⟩ := List.lookup_eq_some_iff.mp hlookup
  obtain ⟨hi, rfl⟩ := List.getElem?_eq_some_iff.mp hk
  rw [List.getElem_range] at hgroups
  rw [hgroups]
  exact List.mem_append_right _ List.mem_cons_self

/-- A pattern names no two groups alike. -/
theorem groupName_injective {flags : Flags} {source : String} {p : Pattern} (h : compile flags source = .ok p)
    {i j : Nat} {name : String} (hi : p.groupNames[i]? = some (some name))
    (hj : p.groupNames[j]? = some (some name)) : i = j := by
  obtain ⟨n, hnode, rfl⟩ := compile_eq_ok h
  obtain ⟨a, fs, hread, hmeaning⟩ := ofText_eq_ok hnode
  have hcaptured {k : Nat} (hk : (Node.capture 0 none n).groupNames[k]? = some (some name)) :
      (k, some name) ∈ a.captures := by
    rcases List.mem_cons.mp (mem_groups_of_groupNames hk) with hk | hk
    · cases hk
    · exact within_ofAst hmeaning _ hk
  exact name_injective_read hread (hcaptured hi) (hcaptured hj)

end LineRules.Pattern
