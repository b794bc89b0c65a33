/-
  LineRules.Proofs.Pattern.Anchoring — two ways to tie a pattern to the start of a line.

  A pattern that comes as text is tied in its text; a match of one that comes ready-made is refused
  unless it begins with the line. Both find the same match with the same groups. Reading the tied
  text yields the same tree in a group of its own behind the start of the text (`read_tied`), its
  program is that of the pattern with one instruction more (`ofNode_look`), the two run the same
  threads from the start of the text (`run_alike`), and from anywhere else the tied program has
  none (`search_ofTied`). A search prefers the first position where there is a match, so the match that begins with
  the text is the one that it finds, if that one begins there (`findAtStart?_eq_filter`).
-/

import LineRules.Proofs.Pattern.Threads
import LineRules.Rule

namespace LineRules

namespace Pattern

/-! ## The slots of the whole match -/

/-- The match began at `pos`, and it has ended where it is accepted. -/
structure Begun (insts : Array Inst) (pos a : Nat) (s : Slots) : Prop where
  lt : a < insts.size
  length : 2 ≤ s.length
  first : s[0]? = some (some pos)
  last : a = 0 → ∃ q, s[1]? = some (some q)

theorem Laid.target_ne_zero {insts : Array Inst} (h : Laid insts) {a : Nat} {i : Inst} (hi : insts[a]? = some i)
    (ha : a ≠ 1) : ∀ t ∈ i.targets, t ≠ 0 := by
  intro t ht
  by_cases h0 : a = 0
  · rw [h0, h.accept] at hi
    cases hi
    cases ht
  · rcases (h.rest a i (by omega) hi).targets t ht with rfl | ⟨h2, -⟩ <;> omega

theorem Laid.eq_zero_of_accept {insts : Array Inst} (h : Laid insts) {a : Nat} (hi : insts[a]? = some .accept) :
    a = 0 := by
  by_contra h0
  by_cases h1 : a = 1
  · rw [h1, h.finish] at hi; cases hi
  · exact (h.rest a _ (by omega) hi).not_accept rfl

theorem keeps_begun {insts : Array Inst} {p : Program} (hp : p.Extends insts) (hlaid : Laid insts) (pos : Nat) :
    p.Keeps (Begun insts pos) := by
  -- only the instruction that ends the match leads to where it is accepted
  have move {a next : Nat} {i : Inst} {s : Slots} (hi : p.insts[a]? = some i) (hnext : next ∈ i.targets)
      (hfinish : i ≠ .save 1 0) (hs : Begun insts pos a s) : Begun insts pos next s := by
    rw [hp.agree a hs.lt] at hi
    refine ⟨hlaid.target_lt hi next hnext, hs.length, hs.first, ?_⟩
    intro h0
    refine absurd h0 (hlaid.target_ne_zero hi ?_ next hnext)
    rintro rfl
    rw [hlaid.finish] at hi
    cases hi
    exact hfinish rfl
  refine
    { char := fun hi => move hi (by simp [Inst.targets]) (by simp)
      look := fun hi => move hi (by simp [Inst.targets]) (by simp)
      save := ?_
      split := fun hi hs =>
        ⟨move hi (by simp [Inst.targets]) (by simp) hs, move hi (by simp [Inst.targets]) (by simp) hs⟩ }
  intro a slot next s hi hs here
  rw [hp.agree a hs.lt] at hi
  have hslot : a = 1 ∧ slot = 1 ∨ a ≠ 1 ∧ 2 ≤ slot := by
    by_cases h1 : a = 1
    · rw [h1, hlaid.finish] at hi
      cases hi
      exact Or.inl ⟨h1, rfl⟩
    · refine Or.inr ⟨h1, (hlaid.rest a _ ?_ hi).slot slot next rfl⟩
      have h0 : a ≠ 0 := by rintro rfl; rw [hlaid.accept] at hi; cases hi
      omega
  refine ⟨hlaid.target_lt hi next (by simp [Inst.targets]), by simpa using hs.length, ?_, ?_⟩
  · rw [List.getElem?_set_ne (by omega)]
    exact hs.first
  · intro h0
    rcases hslot with ⟨-, rfl⟩ | ⟨h1, -⟩
    · exact ⟨here, by rw [List.getElem?_set_self (by have := hs.length; omega)]⟩
    · exact absurd h0 (hlaid.target_ne_zero hi h1 next (by simp [Inst.targets]))

/-! ## Entering a program -/

theorem follow_save {p : Program} {h : Here} {fuel a : Nat} (slot next : Nat) {s : Slots} {g : Gathered}
    (hseen : g.seen.has a = false) (hi : p.insts[a]? = some (.save slot next)) :
    p.follow h (fuel + 1) a s g = p.follow h fuel next (s.set slot (some h.pos)) { g with seen := g.seen.add a } := by
  rw [Program.follow, hseen, if_neg Bool.false_ne_true]
  dsimp only
  rw [hi]

theorem follow_look {p : Program} {h : Here} {fuel a : Nat} (l : Look) (next : Nat) {s : Slots} {g : Gathered}
    (hseen : g.seen.has a = false) (hi : p.insts[a]? = some (.look l next)) :
    p.follow h (fuel + 1) a s g =
      if l.holds h then p.follow h fuel next s { g with seen := g.seen.add a }
      else { g with seen := g.seen.add a } := by
  rw [Program.follow, hseen, if_neg Bool.false_ne_true]
  dsimp only
  rw [hi]

def Program.ofTied (n : Node) : Program := .ofNode (.concat [.look .textStart, n])

section Entering

variable {n : Node} (hn : n.Tidy)

theorem extends_ofNode (n : Node) : (Program.ofNode n).Extends n.laid.1 := by
  rw [ofNode_eq]
  refine ⟨fun a ha => ?_, by simp⟩
  simp only [Array.getElem?_push, if_neg (Nat.ne_of_lt ha)]

/-- Where the match begins is recorded, and then the code of the node is entered. -/
theorem enter_ofNode (n : Node) (h : Here) (s : Slots) :
    (Program.ofNode n).enter h (Program.ofNode n).start s (Program.ofNode n).ungathered =
      (Program.ofNode n).follow h (n.laid.1.size + 1) n.laid.2 (s.set 0 (some h.pos))
        { seen := (Marks.none (n.laid.1.size + 1)).add n.laid.1.size } := by
  have hsize : (Program.ofNode n).insts.size = n.laid.1.size + 1 := Array.size_push ..
  rw [Program.enter, hsize, follow_save 0 n.laid.2 (Marks.has_none _ _)]
  · simp only [Program.ungathered, hsize]; rfl
  · simp [ofNode_eq]

include hn

theorem extends_ofTied : (Program.ofTied n).Extends n.laid.1 := by
  rw [Program.ofTied, ofNode_look _ hn]
  refine ⟨fun a ha => ?_, by simp; omega⟩
  simp only [Array.getElem?_push, Array.size_push, if_neg (Nat.ne_of_lt ha),
    if_neg (Nat.ne_of_lt (Nat.lt_succ_of_lt ha))]

theorem enter_ofTied (h : Here) (s : Slots) :
    (Program.ofTied n).enter h (Program.ofTied n).start s (Program.ofTied n).ungathered =
      if h.before.isNone then
        (Program.ofTied n).follow h (n.laid.1.size + 1) n.laid.2 (s.set 0 (some h.pos))
          { seen := ((Marks.none (n.laid.1.size + 2)).add (n.laid.1.size + 1)).add n.laid.1.size }
      else { seen := ((Marks.none (n.laid.1.size + 2)).add (n.laid.1.size + 1)).add n.laid.1.size } := by
  have hform := ofNode_look .textStart hn
  have hsize : (Program.ofTied n).insts.size = n.laid.1.size + 2 := by
    rw [Program.ofTied, hform]; simp
  have hstart : (Program.ofTied n).start = n.laid.1.size + 1 := by rw [Program.ofTied, hform]
  have hroom : (Marks.none (n.laid.1.size + 2)).Fits (n.laid.1.size + 1) := Marks.fits_none (Nat.lt_succ_self _)
  rw [Program.enter, hsize, hstart, follow_save 0 n.laid.1.size (Marks.has_none _ _),
    follow_look .textStart n.laid.2]
  · simp only [Program.ungathered, hsize, Look.holds]
  · simp only [Program.ungathered, hsize, Marks.has_add hroom, Marks.has_none]
    simp
  · rw [Program.ofTied, hform, Array.getElem?_push, Array.size_push, if_neg (Nat.ne_of_lt (Nat.lt_succ_self _)),
      Array.getElem?_push, if_pos rfl]
  · rw [Program.ofTied, hform, Array.getElem?_push, Array.size_push, if_pos rfl]

theorem matchAt_ofTied_none (pos : Nat) (text : List Char) :
    (Program.ofTied n).matchAt pos none text = (Program.ofNode n).matchAt pos none text := by
  obtain ⟨hlaid, -, hentry⟩ := laid_code hn
  have hp := extends_ofNode n
  have hp' := extends_ofTied hn
  have hgroups : (Program.ofTied n).groups = (Program.ofNode n).groups := by
    rw [Program.ofTied, ofNode_look _ hn]; rfl
  have hseen : Alike n.laid.1.size
      { seen := (Marks.none (n.laid.1.size + 1)).add n.laid.1.size }
      { seen := ((Marks.none (n.laid.1.size + 2)).add (n.laid.1.size + 1)).add n.laid.1.size } := by
    have h1 : (Marks.none (n.laid.1.size + 1)).Fits n.laid.1.size := Marks.fits_none (Nat.lt_succ_self _)
    have h2 : (Marks.none (n.laid.1.size + 2)).Fits (n.laid.1.size + 1) := Marks.fits_none (Nat.lt_succ_self _)
    have h3 : ((Marks.none (n.laid.1.size + 2)).add (n.laid.1.size + 1)).Fits n.laid.1.size :=
      Marks.fits_add.mpr (Marks.fits_none (by omega))
    refine ⟨rfl, fun a ha => ?_, fun a ha => ⟨?_, ?_⟩⟩
    · rw [Marks.has_add h1, Marks.has_add h3, Marks.has_add h2, Marks.has_none, Marks.has_none]
      have hne : (n.laid.1.size + 1 == a) = false := by simp; omega
      rw [hne]
      simp
    · exact Marks.fits_add.mpr (Marks.fits_none (by omega))
    · exact Marks.fits_add.mpr (Marks.fits_add.mpr (Marks.fits_none (by omega)))
  have hfuel (m : Marks) : (m.unseen n.laid.1.size).card < n.laid.1.size + 1 :=
    Nat.lt_succ_of_le (Marks.card_unseen_le _ _)
  rw [Program.matchAt, Program.matchAt, enter_ofNode, enter_ofTied hn, hgroups]
  simp only [Option.isNone_none, if_true]
  have halike := (follow_alike hp hp' hlaid ⟨pos, none, text.head?⟩ (a := n.laid.2)
    (s := (List.replicate (2 * (Program.ofNode n).groups) none).set 0 (some pos)) hentry hseen (hfuel _) (hfuel _)).1
  rw [← halike.threads]
  refine (run_alike hp hp' hlaid ?_).symm
  exact ((keeps_lt hp hlaid).follow _ hentry (Threads.nil _)).reverse

/-- Behind a character the text does not begin, so a tied program has no thread there. -/
theorem matchAt_ofTied_some (pos : Nat) (c : Char) (text : List Char) :
    (Program.ofTied n).matchAt pos (some c) text = none := by
  rw [Program.matchAt, enter_ofTied hn]
  simp only [Option.isNone_some, Bool.false_eq_true, if_false]
  cases text <;> rfl

theorem search_ofTied_some (pos : Nat) (c : Char) (text : List Char) :
    (Program.ofTied n).search pos (some c) text = none := by
  induction text generalizing pos c with
  | nil => exact matchAt_ofTied_some hn pos c []
  | cons d rest ih =>
    rw [Program.search, matchAt_ofTied_some hn]
    exact ih (pos + 1) d

/-- Searched, a tied program finds what the program finds at the start of the text. -/
theorem search_ofTied (text : List Char) :
    (Program.ofTied n).search 0 none text = (Program.ofNode n).matchAt 0 none text := by
  cases text with
  | nil => exact matchAt_ofTied_none hn 0 []
  | cons c rest =>
    rw [Program.search, matchAt_ofTied_none hn, search_ofTied_some hn]
    cases (Program.ofNode n).matchAt 0 none (c :: rest) <;> rfl

end Entering

/-! ## Where a match begins -/

/-- The whole match is a group. -/
theorem groups_pos (n : Node) : 1 ≤ (Program.ofNode n).groups := by
  have hfold (gs : List (Nat × Option String)) (k : Nat) : k ≤ gs.foldl (fun k g => max k (g.1 + 1)) k := by
    induction gs generalizing k with
    | nil => exact Nat.le_refl k
    | cons g rest ih => exact (Nat.le_max_left k (g.1 + 1)).trans (ih _)
  have hlength : (Program.ofNode n).groups = (Node.capture 0 none n).groups.foldl (fun k g => max k (g.1 + 1)) 1 := by
    rw [ofNode_eq, Node.groupNames, List.length_map, List.length_range]
  rw [hlength]
  exact hfold _ 1

/-- A match that is found at a position begins there. -/
theorem matchAt_begun {n : Node} (hn : n.Tidy) {pos : Nat} {before : Option Char} {text : List Char} {s : Slots}
    (h : (Program.ofNode n).matchAt pos before text = some s) :
    s[0]? = some (some pos) ∧ ∃ q, s[1]? = some (some q) := by
  obtain ⟨hlaid, hpos, hentry⟩ := laid_code hn
  have hp := extends_ofNode n
  have hkeeps := keeps_begun hp hlaid pos
  have hgroups : 1 ≤ (Program.ofNode n).groups := groups_pos n
  have hbegun :
      Begun n.laid.1 pos n.laid.2 ((List.replicate (2 * (Program.ofNode n).groups) none).set 0 (some pos)) := by
    refine ⟨hentry, by simp; omega, ?_, by omega⟩
    rw [List.getElem?_set_self (by simp; omega)]
  rw [Program.matchAt, enter_ofNode] at h
  rcases hkeeps.run (hkeeps.follow _ hbegun (Threads.nil _)).reverse h with h | ⟨a, ha, hs⟩
  · cases h
  · refine ⟨hs.first, hs.last (hlaid.eq_zero_of_accept ?_)⟩
    rwa [← hp.agree a hs.lt]

theorem search_begun {n : Node} (hn : n.Tidy) {pos : Nat} {before : Option Char} {text : List Char} {s : Slots}
    (h : (Program.ofNode n).search pos before text = some s) :
    ∃ first, pos ≤ first ∧ s[0]? = some (some first) ∧ ∃ q, s[1]? = some (some q) := by
  induction text generalizing pos before with
  | nil => exact ⟨pos, Nat.le_refl _, matchAt_begun hn h⟩
  | cons c rest ih =>
    rw [Program.search] at h
    split at h
    · rename_i hmatch
      cases h
      exact ⟨pos, Nat.le_refl _, matchAt_begun hn hmatch⟩
    · obtain ⟨first, hle, hs⟩ := ih h
      exact ⟨first, by omega, hs⟩

/-! ## Patterns -/

theorem ofText_eq_ok {flags : Flags} {source : String} {n : Node} (h : Node.ofText flags source = .ok n) :
    ∃ a fs, Ast.read flags.verbose source.toList = .ok a ∧ Node.ofAst flags a = .ok (n, fs) := by
  unfold Node.ofText at h
  cases hread : Ast.read flags.verbose source.toList with
  | error e => rw [hread] at h; cases h
  | ok a =>
    rw [hread] at h
    simp only [bind, Except.bind] at h
    cases hnode : Node.ofAst flags a with
    | error e => rw [hnode] at h; cases h
    | ok out =>
      obtain ⟨m, fs⟩ := out
      rw [hnode] at h
      simp only at h
      split at h
      · cases h
        exact ⟨a, fs, rfl, hnode⟩
      · cases h

theorem tidy_ofText {flags : Flags} {source : String} {n : Node} (h : Node.ofText flags source = .ok n) : n.Tidy := by
  obtain ⟨a, fs, hread, hnode⟩ := ofText_eq_ok h
  exact tidy_ofAst (numbered_read hread) hnode

theorem compile_eq_ok {flags : Flags} {source : String} {p : Pattern} (h : compile flags source = .ok p) :
    ∃ n, Node.ofText flags source = .ok n ∧
      p = { source, program := .ofNode n, groupNames := (Node.capture 0 none n).groupNames } := by
  unfold compile at h
  cases hnode : Node.ofText flags source with
  | error e => rw [hnode] at h; cases h
  | ok n =>
    rw [hnode] at h
    cases h
    exact ⟨n, rfl, rfl⟩

theorem start?_matchOf (p : Pattern) (text : List Char) {s : Slots} {a b : Nat} (ha : s[0]? = some (some a))
    (hb : s[1]? = some (some b)) : (p.matchOf text s).start? = some a := by
  rcases s with _ | ⟨first, _ | ⟨last, rest⟩⟩
  · cases ha
  · cases hb
  · cases ha
    cases hb
    rfl

/-- The match that begins with the text is the leftmost one, if that one begins with the text. -/
theorem findAtStart?_eq_filter {flags : Flags} {source : String} {p : Pattern} (h : compile flags source = .ok p)
    (text : String) : p.findAtStart? text = (p.find? text).filter fun m => m.start? = some 0 := by
  obtain ⟨n, hnode, rfl⟩ := compile_eq_ok h
  have hn := tidy_ofText hnode
  unfold findAtStart? find?
  cases hmatch : (Program.ofNode n).matchAt 0 none text.toList with
  | some s =>
    have hsearch : (Program.ofNode n).search 0 none text.toList = some s := by
      cases htext : text.toList with
      | nil => rw [htext] at hmatch; exact hmatch
      | cons c rest => rw [htext] at hmatch; rw [Program.search, hmatch]
    obtain ⟨hfirst, q, hlast⟩ := matchAt_begun hn hmatch
    rw [hsearch, Option.map_some, Option.filter_some, if_pos]
    simpa using start?_matchOf _ _ hfirst hlast
  | none =>
    cases hsearch : (Program.ofNode n).search 0 none text.toList with
    | none => rfl
    | some s =>
      cases htext : text.toList with
      | nil => rw [htext] at hmatch hsearch; rw [Program.search, hmatch] at hsearch; cases hsearch
      | cons c rest =>
        rw [htext] at hmatch hsearch
        rw [Program.search, hmatch] at hsearch
        obtain ⟨first, hle, hfirst, q, hlast⟩ := search_begun hn hsearch
        rw [Option.map_some, Option.filter_some, if_neg]
        · rfl
        · rw [start?_matchOf _ _ hfirst hlast]
          simp; omega

/-- A pattern that is tied means what it means alone, behind the start of the text, if it ends in no
    comment and the limits of depth and size leave room. -/
theorem ofText_tie {flags fs : Flags} {source : String} {a : Ast} {n : Node}
    (hread : Ast.read flags.verbose source.toList = .ok a) (hnode : Node.ofAst flags a = .ok (n, fs)) :
    Node.ofText flags (Rule.tie false source) =
      if endsInComment flags.verbose source.toList then .error .groupUnclosed
      else if maxDepth < a.depth + 2 then .error .tooDeep
      else if (Node.concat [.look .textStart, n]).fits then .ok (.concat [.look .textStart, n])
      else .error .tooLarge := by
  have htext : (Rule.tie false source).toList = tied source.toList := by
    simp [Rule.tie, tied]
  rw [Node.ofText, htext, read_tied hread]
  cases endsInComment flags.verbose source.toList with
  | true => rfl
  | false =>
    by_cases hdepth : maxDepth < a.depth + 2
    · simp only [Bool.false_eq_true, if_false, if_pos hdepth]
      rfl
    · have htree : Node.ofAst flags (.cat [.assertion .textStart, .group (.plain []) a]) =
          .ok (.concat [.look .textStart, n], flags) := by
        simp only [Node.ofAst, Node.ofAsts, Assertion.look, Flags.setAll, List.foldl_nil, hnode]
        rfl
      simp only [Bool.false_eq_true, if_false, if_neg hdepth, bind, Except.bind, htree]
      rfl

theorem groupNames_concat_look (l : Look) {n : Node} (hn : n.Tidy) :
    (Node.capture 0 none (.concat [.look l, n])).groupNames = (Node.capture 0 none n).groupNames := by
  rw [Node.concat_look l hn]
  split
  · rename_i hnil
    rw [Node.eq_empty_of_parts hn hnil]; rfl
  · rfl

/-- A pattern that is tied in its text finds in a text what the pattern alone finds at the start. -/
theorem find?_tie {flags : Flags} {source : String} {p p' : Pattern} (hp : compile flags source = .ok p)
    (hp' : compile flags (Rule.tie false source) = .ok p') (text : String) :
    p'.find? text = p.findAtStart? text := by
  obtain ⟨n, hnode, rfl⟩ := compile_eq_ok hp
  obtain ⟨m, hnode', rfl⟩ := compile_eq_ok hp'
  obtain ⟨a, fs, hread, htree⟩ := ofText_eq_ok hnode
  obtain rfl : m = .concat [.look .textStart, n] := by
    rw [ofText_tie hread htree] at hnode'
    split at hnode'
    · cases hnode'
    · split at hnode'
      · cases hnode'
      · split at hnode'
        · cases hnode'; rfl
        · cases hnode'
  have hn := tidy_ofText hnode
  unfold find? findAtStart?
  dsimp only
  rw [← search_ofTied hn text.toList, Program.ofTied]
  congr 1
  funext s
  simp only [matchOf, groupNames_concat_look _ hn]

end Pattern

/-- A rule that is accepted with its pattern as text is accepted with the pattern ready-made, and the
    two rules match every line alike: with the same span for each group, and where the leftmost match
    of the pattern begins with the line only. -/
theorem Rule.match?_text_eq_made {flags : Pattern.Flags} {source : String} {p : Pattern} {index : Nat} (row : Row)
    {r : Rule} (hverbose : flags.verbose = false) (hp : Pattern.compile flags source = .ok p)
    (hr : Rule.ofRow flags index { row with pattern := .text source } = .ok r) :
    ∃ r', Rule.ofRow flags index { row with pattern := .made p } = .ok r' ∧
      ∀ line, r.match? line = r'.match? line ∧
        r'.match? line = (p.find? line).filter fun m => m.start? = some 0 := by
  rw [Rule.ofRow] at hr
  cases hmake : Rule.makePattern flags (.text source) with
  | error e => rw [hmake] at hr; cases hr
  | ok out =>
    obtain ⟨p', anchored⟩ := out
    rw [hmake] at hr
    obtain ⟨hp', rfl⟩ : Pattern.compile flags (Rule.tie false source) = .ok p' ∧ anchored = true := by
      rw [Rule.makePattern, hverbose] at hmake
      split at hmake
      · cases hmake
      · split at hmake
        · cases hmake
        · rename_i hcompile
          cases hmake
          exact ⟨hcompile, rfl⟩
    simp only at hr
    cases hpath : Rule.makePath row.path with
    | error e => rw [hpath] at hr; cases hr
    | ok path =>
      rw [hpath] at hr
      cases hr
      refine ⟨⟨index, row.guard, row.transition, p, false, path, row.filter⟩, ?_, fun line => ⟨?_, ?_⟩⟩
      · rw [Rule.ofRow, Rule.makePattern]
        simp only [hpath]
      · exact Pattern.find?_tie hp hp' line
      · exact Pattern.findAtStart?_eq_filter hp line

/-- Alternatives of which the second one sets a flag, and a lazy repetition before a group. -/
def alternatives : String := "a*?(b)|(?i)AC"

theorem Rule.match?_text_eq_made_alternatives :
    ∃ p r r', Pattern.compile {} alternatives = .ok p ∧ Rule.ofRow {} 0 { pattern := .text alternatives } = .ok r ∧
      Rule.ofRow {} 0 { pattern := .made p } = .ok r' ∧
      (∃ m, r.match? "aab" = some m ∧ r'.match? "aab" = some m ∧ m.spans = [some (0, 3), some (2, 3)]) ∧
      r.match? "xac" = none ∧ r'.match? "xac" = none ∧ (p.find? "xac").isSome = true := by
  have hseen : ((Pattern.compile {} alternatives).toOption.map fun p => (p.find? "xac").isSome) = some true ∧
      ((Rule.ofRow {} 0 { pattern := .text alternatives }).toOption.map fun r =>
        ((r.match? "aab").map (·.spans), r.match? "xac")) = some (some [some (0, 3), some (2, 3)], none) := by
    decide +kernel
  obtain ⟨hfind, hmatch⟩ := hseen
  cases hp : Pattern.compile {} alternatives with
  | error e => rw [hp] at hfind; cases hfind
  | ok p =>
    cases hr : Rule.ofRow {} 0 { pattern := .text alternatives } with
    | error e => rw [hr] at hmatch; cases hmatch
    | ok r =>
      rw [hp] at hfind
      rw [hr] at hmatch
      simp only [Except.toOption, Option.map_some, Option.some.injEq, Prod.mk.injEq] at hfind hmatch
      obtain ⟨r', hr', hsame⟩ := Rule.match?_text_eq_made { pattern := .text alternatives } rfl hp hr
      obtain ⟨m, hm, hspans⟩ := Option.map_eq_some_iff.mp hmatch.1
      refine ⟨p, r, r', rfl, rfl, hr', ⟨m, hm, (hsame "aab").1 ▸ hm, hspans⟩, hmatch.2, ?_, hfind⟩
      exact (hsame "xac").1 ▸ hmatch.2

end LineRules
