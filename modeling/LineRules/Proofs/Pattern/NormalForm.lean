/-
  LineRules.Proofs.Pattern.NormalForm — what the meaning of a pattern looks like.

  A tidy node is one that the constructors of the normal form leave as it is: sequences are not
  nested to the left, none ends in the empty node, and no two texts stand side by side. Every
  meaning is tidy (`tidy_ofAst`), so that putting a condition in front of it joins nothing and
  moves nothing (`concat_look`).
-/

import LineRules.Pattern.Meaning
import LineRules.Proofs.Pattern.GroupNumbers
import Mathlib.Data.List.Chain

namespace LineRules.Pattern

namespace Node

def isText : Node → Bool
  | .text _ => true
  | _ => false

/-- Two texts in sequence would be one. -/
def Apart (a b : Node) : Prop := ¬(a.isText = true ∧ b.isText = true)

/-- In normal form, with groups from number 1 on. -/
def Tidy : Node → Prop
  | .cat a b => a.parts = [a] ∧ b.parts ≠ [] ∧ (a :: b.parts).IsChain Apart ∧ a.Tidy ∧ b.Tidy
  | .alt a b => a.Tidy ∧ b.Tidy
  | .capture index _ body => index ≠ 0 ∧ body.Tidy
  | .repetition _ _ _ body => body.Tidy
  | _ => True

def Part (n : Node) : Prop := n.parts = [n] ∧ n.Tidy

/-! ## Sequences -/

theorem part_of_mem_parts {n x : Node} (hn : n.Tidy) (hx : x ∈ n.parts) : x.Part := by
  induction n with
  | empty => cases hx
  | cat a b _ ihb =>
    obtain ⟨hpart, -, -, ha, hb⟩ := hn
    rcases List.mem_cons.mp hx with rfl | hx
    · exact ⟨hpart, ha⟩
    · exact ihb hb hx
  | _ =>
    rw [List.mem_singleton.mp hx]
    exact ⟨rfl, hn⟩

theorem parts_isChain {n : Node} (hn : n.Tidy) : n.parts.IsChain Apart := by
  cases n with
  | empty => exact List.isChain_nil
  | cat a b => exact hn.2.2.1
  | _ => exact List.isChain_singleton _

theorem ofParts_cons {n : Node} {rest : List Node} (h : rest ≠ []) : ofParts (n :: rest) = .cat n (ofParts rest) := by
  obtain ⟨m, rest, rfl⟩ := List.exists_cons_of_ne_nil h
  rfl

theorem ofParts_parts {n : Node} (hn : n.Tidy) : ofParts n.parts = n := by
  induction n with
  | cat a b _ ihb =>
    obtain ⟨-, hne, -, -, hb⟩ := hn
    rw [parts, ofParts_cons hne, ihb hb]
  | _ => rfl

theorem parts_ofParts {ns : List Node} (h : ∀ n ∈ ns, n.parts = [n]) : (ofParts ns).parts = ns := by
  induction ns with
  | nil => rfl
  | cons n rest ih =>
    have hrest := ih fun m hm => h m (List.mem_cons_of_mem n hm)
    by_cases hnil : rest = []
    · subst hnil
      exact h n List.mem_cons_self
    · rw [ofParts_cons hnil, parts, hrest]

theorem tidy_ofParts {ns : List Node} (h : ∀ n ∈ ns, n.Part) (hchain : ns.IsChain Apart) : (ofParts ns).Tidy := by
  induction ns with
  | nil => exact trivial
  | cons n rest ih =>
    have hrest : ∀ m ∈ rest, m.Part := fun m hm => h m (List.mem_cons_of_mem n hm)
    have hn : n.Part := h n List.mem_cons_self
    by_cases hnil : rest = []
    · subst hnil
      exact hn.2
    · have hparts := parts_ofParts fun m hm => (hrest m hm).1
      rw [ofParts_cons hnil]
      exact ⟨hn.1, by rwa [hparts], by rwa [hparts], hn.2, ih hrest hchain.tail⟩

theorem consPart_apart {n m : Node} {rest : List Node} (h : Apart n m) : consPart n (m :: rest) = n :: m :: rest := by
  unfold consPart
  split
  · rename_i heq
    cases heq
    exact absurd ⟨rfl, rfl⟩ h
  · rfl

theorem foldr_consPart_isChain {ns : List Node} (h : ns.IsChain Apart) : ns.foldr consPart [] = ns := by
  induction ns with
  | nil => rfl
  | cons n rest ih =>
    rw [List.foldr_cons, ih h.tail]
    rcases rest with _ | ⟨m, rest⟩
    · cases n <;> rfl
    · exact consPart_apart (List.isChain_cons_cons.mp h).1

theorem consPart_cases (n : Node) (rest : List Node) :
    consPart n rest = n :: rest ∧ (∀ m ∈ rest.head?, Apart n m) ∨
      ∃ s t more, n = .text s ∧ rest = .text t :: more ∧ consPart n rest = .text (s ++ t) :: more := by
  rcases rest with _ | ⟨m, rest⟩
  · left
    cases n <;> exact ⟨rfl, by simp⟩
  · by_cases h : Apart n m
    · exact Or.inl ⟨consPart_apart h, by simpa using h⟩
    · right
      cases n <;> cases m <;> first
        | exact ⟨_, _, rest, rfl, rfl, rfl⟩
        | exact absurd (by simp [Apart, isText]) h

theorem isChain_consPart {n : Node} {rest : List Node} (h : rest.IsChain Apart) : (consPart n rest).IsChain Apart := by
  rcases consPart_cases n rest with ⟨heq, hhead⟩ | ⟨s, t, more, rfl, rfl, heq⟩
  · rw [heq]
    exact List.isChain_cons.mpr ⟨hhead, h⟩
  · rw [heq, List.isChain_cons]
    obtain ⟨hhead, htail⟩ := List.isChain_cons.mp h
    exact ⟨hhead, htail⟩

theorem part_of_mem_consPart {n : Node} {rest : List Node} (hn : n.Part) (hrest : ∀ m ∈ rest, m.Part) {x : Node}
    (hx : x ∈ consPart n rest) : x.Part := by
  rcases consPart_cases n rest with ⟨heq, -⟩ | ⟨s, t, more, rfl, rfl, heq⟩
  · rw [heq] at hx
    rcases List.mem_cons.mp hx with rfl | hx
    · exact hn
    · exact hrest x hx
  · rw [heq] at hx
    rcases List.mem_cons.mp hx with rfl | hx
    · exact ⟨rfl, trivial⟩
    · exact hrest x (List.mem_cons_of_mem _ hx)

theorem isChain_foldr (ns : List Node) : (ns.foldr consPart []).IsChain Apart := by
  induction ns with
  | nil => exact List.isChain_nil
  | cons n rest ih => exact isChain_consPart ih

theorem part_of_mem_foldr {ns : List Node} (h : ∀ n ∈ ns, n.Part) : ∀ x ∈ ns.foldr consPart [], x.Part := by
  induction ns with
  | nil => simp
  | cons n rest ih =>
    have hrest := ih fun m hm => h m (List.mem_cons_of_mem n hm)
    exact fun x hx => part_of_mem_consPart (h n List.mem_cons_self) hrest hx

theorem tidy_concat {ns : List Node} (h : ∀ n ∈ ns, n.Tidy) : (concat ns).Tidy := by
  refine tidy_ofParts (part_of_mem_foldr fun x hx => ?_) (isChain_foldr _)
  obtain ⟨n, hn, hx⟩ := List.mem_flatMap.mp hx
  exact part_of_mem_parts (h n hn) hx

/-- A condition in front of a tidy node is a part of its own. -/
theorem concat_look (l : Look) {n : Node} (hn : n.Tidy) :
    concat [.look l, n] = if n.parts = [] then .look l else .cat (.look l) n := by
  have hchain : (.look l :: n.parts).IsChain Apart :=
    List.isChain_cons.mpr ⟨fun m _ hm => Bool.false_ne_true hm.1, parts_isChain hn⟩
  have hflat : [look l, n].flatMap parts = .look l :: n.parts := by simp [parts]
  rw [concat, hflat, foldr_consPart_isChain hchain]
  split
  · rename_i hnil
    rw [hnil]; rfl
  · rename_i hne
    rw [ofParts_cons hne, ofParts_parts hn]

theorem eq_empty_of_parts {n : Node} (hn : n.Tidy) (h : n.parts = []) : n = .empty := by
  rw [← ofParts_parts hn, h]; rfl

/-! ## Alternatives and repetitions -/

theorem tidy_of_mem_branches {n b : Node} (hn : n.Tidy) (hb : b ∈ n.branches) : b.Tidy := by
  induction n with
  | alt a c _ ihc =>
    rcases List.mem_cons.mp hb with rfl | hb
    · exact hn.1
    · exact ihc hn.2 hb
  | _ =>
    rw [List.mem_singleton.mp hb]
    exact hn

theorem tidy_ofBranches {ns : List Node} (h : ∀ n ∈ ns, n.Tidy) : (ofBranches ns).Tidy := by
  induction ns with
  | nil => exact trivial
  | cons n rest ih =>
    have hrest := ih fun m hm => h m (List.mem_cons_of_mem n hm)
    rcases rest with _ | ⟨m, rest⟩
    · exact h n List.mem_cons_self
    · exact ⟨h n List.mem_cons_self, hrest⟩

theorem tidy_ofSet (ascii : Bool) (s : Unicode.CodeSet) : (ofSet ascii s).Tidy := by
  unfold ofSet
  split
  · exact trivial
  · split <;> exact trivial
  · exact trivial

theorem tidy_of_ofSet {ascii : Bool} {s : Unicode.CodeSet} {n : Node} (h : ofSet ascii s = n) : n.Tidy :=
  h ▸ tidy_ofSet ascii s

theorem mem_of_mem_commonPrefix {s t : List Node} {x : Node} (h : x ∈ commonPrefix s t) : x ∈ s := by
  induction s generalizing t with
  | nil => simp [commonPrefix] at h
  | cons a s ih =>
    rcases t with _ | ⟨b, t⟩
    · simp [commonPrefix] at h
    · simp only [commonPrefix] at h
      split at h
      · rcases List.mem_cons.mp h with rfl | h
        · exact List.mem_cons_self
        · exact List.mem_cons_of_mem a (ih h)
      · cases h

theorem mem_of_mem_commonParts {ss : List (List Node)} {x : Node} (h : x ∈ commonParts ss) : ∃ s ∈ ss, x ∈ s := by
  rcases ss with _ | ⟨s, _ | ⟨t, rest⟩⟩
  · cases h
  · exact ⟨s, List.mem_cons_self, h⟩
  · exact ⟨s, List.mem_cons_self, mem_of_mem_commonPrefix h⟩

theorem tidy_of_mem_shared {bs : List Node} (h : ∀ b ∈ bs, b.Tidy) {x : Node} (hx : x ∈ shared bs) : x.Tidy := by
  unfold shared at hx
  split at hx
  · obtain ⟨s, hs, hx⟩ := mem_of_mem_commonParts hx
    obtain ⟨b, hb, rfl⟩ := List.mem_map.mp hs
    exact (part_of_mem_parts (h b hb) hx).2
  · cases hx

theorem tidy_alternationWithin {fuel : Nat} {ns : List Node} (h : ∀ n ∈ ns, n.Tidy) :
    (alternationWithin fuel ns).Tidy := by
  induction fuel generalizing ns with
  | zero =>
    refine tidy_ofBranches fun b hb => ?_
    obtain ⟨n, hn, hb⟩ := List.mem_flatMap.mp hb
    exact tidy_of_mem_branches (h n hn) hb
  | succ fuel ih =>
    have hbs : ∀ b ∈ ns.flatMap branches, b.Tidy := by
      intro b hb
      obtain ⟨n, hn, hb⟩ := List.mem_flatMap.mp hb
      exact tidy_of_mem_branches (h n hn) hb
    rw [alternationWithin]
    split
    · exact trivial
    · rename_i n heq
      exact hbs n (by rw [heq]; exact List.mem_singleton_self n)
    · split
      · exact tidy_ofSet _ _
      · exact tidy_ofSet _ _
      · split
        · exact tidy_ofBranches hbs
        · -- the parts that the branches share, and the alternatives of what is left of each
          refine tidy_concat fun x hx => ?_
          rcases List.mem_append.mp hx with hx | hx
          · exact tidy_of_mem_shared hbs hx
          · rw [List.mem_singleton.mp hx]
            refine ih fun y hy => ?_
            obtain ⟨b, hb, rfl⟩ := List.mem_map.mp hy
            exact tidy_concat fun z hz => (part_of_mem_parts (hbs b hb) (List.mem_of_mem_drop hz)).2

theorem tidy_repeated {min : Nat} {max : Option Nat} {greedy : Bool} {body : Node} (h : body.Tidy) :
    (repeated min max greedy body).Tidy := by
  unfold repeated
  split
  split
  · exact trivial
  · exact h
  · exact h

end Node

/-! ## Meanings -/

theorem tidy_literal {fs : Flags} {l : Literal} {n : Node} (h : l.node fs = .ok n) : n.Tidy := by
  unfold Literal.node at h
  dsimp only at h
  split at h
  · cases h
  · split at h
    · rw [← Except.ok.inj h]; exact trivial
    · split at h
      · exact Node.tidy_of_ofSet (Except.ok.inj h)
      · exact Node.tidy_of_ofSet (Except.ok.inj h)

mutual

theorem tidy_ofAst : ∀ {a : Ast} {fs fs' : Flags} {n : Node}, a.Numbered → Node.ofAst fs a = .ok (n, fs') → n.Tidy
  | .empty, _, _, _, _, h => by cases h; exact trivial
  | .flags _, _, _, _, _, h => by cases h; exact trivial
  | .literal _, _, _, _, _, h => fst_of_map h fun _ hn => tidy_literal hn
  | .dot, _, _, _, _, h => fst_of_map h fun _ _ => Node.tidy_ofSet _ _
  | .assertion _, _, _, _, _, h => by cases h; exact trivial
  | .shorthand _ _, _, _, _, _, h => fst_of_map h fun _ _ => Node.tidy_ofSet _ _
  | .property _ _, _, _, _, _, h => fst_of_map h fun _ _ => Node.tidy_ofSet _ _
  | .set _ _, _, _, _, _, h => by
    rw [Node.ofAst] at h
    split at h
    · exact fst_of_map h fun _ _ => Node.tidy_ofSet _ _
    · cases h
  | .repetition _ _ _ body, _, _, _, ha, h => by
    rw [Node.ofAst] at h
    split at h
    · rename_i hbody
      cases h
      exact Node.tidy_repeated (tidy_ofAst (a := body) ha hbody)
    · cases h
  | .group (.plain _) body, _, _, _, ha, h => by
    rw [Node.ofAst] at h
    split at h
    · rename_i hbody
      cases h
      exact tidy_ofAst (a := body) ha.2 hbody
    · cases h
  | .group (.capture _ _) body, _, _, _, ha, h => by
    rw [Node.ofAst] at h
    split at h
    · rename_i hbody
      cases h
      exact ⟨ha.1, tidy_ofAst (a := body) ha.2 hbody⟩
    · cases h
  | .alt _, _, _, _, ha, h => fst_of_map h fun _ hns => Node.tidy_alternationWithin (tidy_ofAsts ha hns)
  | .cat _, _, _, _, ha, h => fst_of_map h fun _ hns => Node.tidy_concat (tidy_ofAsts ha hns)

theorem tidy_ofAsts : ∀ {items : List Ast} {fs : Flags} {r : List Node × Flags}, Ast.NumberedAll items →
    Node.ofAsts fs items = .ok r → ∀ n ∈ r.1, n.Tidy
  | [], _, _, _, h => by cases h; simp
  | a :: rest, _, _, ha, h => by
    rw [Node.ofAsts] at h
    split at h
    · cases h
    · rename_i hnode
      split at h
      · cases h
      · rename_i hrest
        cases h
        intro m hm
        rcases List.mem_cons.mp hm with rfl | hm
        · exact tidy_ofAst ha.1 hnode
        · exact tidy_ofAsts ha.2 hrest m hm

end

end LineRules.Pattern
