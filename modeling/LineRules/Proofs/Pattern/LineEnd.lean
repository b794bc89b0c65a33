/-
  LineRules.Proofs.Pattern.LineEnd — where the text of a tied pattern ends.

  The tie puts a bracket behind the text of a pattern, and a line end before it if the table is
  verbose. What the two are read as depends on the verbose flag at the end of the text, and inline
  flags may have changed it there. If it is on, a line end is read over (`read_lineEnd`), and a
  bracket without one may fall into a comment (`endsInComment`); if it is off, a line end is a
  character to be matched. So the tie leaves a pattern alone if the flag ends as the table has it,
  and also if it ends on without a comment (`Flags.seals`); `Rule.ofRow_text` says what becomes of
  a row then, and what becomes of it otherwise.
-/

import LineRules.Proofs.Pattern.Anchoring

namespace LineRules

namespace Pattern

variable {v : Bool}

def verboseAtEnd (verbose : Bool) (text : List Char) : Bool :=
  match readLevel (text.length + 1) { verbose } {} text with
  | .ok (_, st, _) => st.verbose
  | .error _ => verbose

/-! ## A line end behind a pattern -/

theorem skipVerbose_lineEnd (inComment : Bool) (t : List Char) :
    skipVerbose inComment ('\n' :: t) = skipVerbose false t := by
  have hblank : Unicode.isBlank '\n' = true := by decide
  cases inComment with
  | false => simp [skipVerbose, hblank]
  | true => simp [skipVerbose]

/-- Verbose mode reads over a line end behind a pattern; otherwise it is one more item. -/
theorem readLevel_lineEnd {text t : List Char} {a : Ast} {st : State} (ht : Closing ('\n' :: t))
    (ha : readLevel (text.length + 1) { verbose := v } {} text = .ok (a, st, [])) (d : Nat) :
    ∃ k last, a = last.close ∧ readLevel (text.length + 1 + d) { verbose := v } {} (text ++ '\n' :: t) =
      if st.verbose then readLevel (k + 1 + d) st last t
      else readLevel (k + d) st (last.push (.literal ⟨'\n', false⟩)) t := by
  rcases readLevel_follows ht d _ _ _ _ _ (Follows.append v ('\n' :: t) text) _ _ _ ha with
    ⟨hne, -⟩ | ⟨-, k, last, u, hclose, hread, hu⟩
  · exact absurd rfl hne
  refine ⟨k, last, hclose, hread.trans ?_⟩
  cases hv : st.verbose with
  | false =>
    obtain rfl : u = '\n' :: t := by
      rcases hu with hu | ⟨hu, -⟩
      · exact hu
      · rw [hv] at hu; cases hu
    have hskip : skipSpace st.verbose ('\n' :: t) = '\n' :: t := by rw [hv]; rfl
    have hrep : readRepetition? st.verbose ('\n' :: t) = .ok none := readRepetition?_other (by decide) t
    have hprim : readPrimitive st.verbose ('\n' :: t) = .ok (.literal ⟨'\n', false⟩, t) :=
      readPrimitive_other (by decide) t
    rw [Nat.add_right_comm, readLevel_eq, hskip]
    simp only [Char.reduceEq, Bool.false_eq_true, if_false]
    rw [readItem, hrep]
    simp only [hprim]
  | true =>
    have hskip : skipSpace st.verbose u = skipSpace st.verbose t := by
      rw [hv]
      rcases hu with rfl | ⟨-, -, inComment, rfl⟩
      · exact skipVerbose_lineEnd false t
      · rw [skipVerbose_lineEnd]
        exact skipVerbose_skipVerbose false t
    rw [if_pos rfl, ← readLevel_skipSpace, hskip, readLevel_skipSpace]

theorem read_lineEnd {text : List Char} {a : Ast} (ha : Ast.read v text = .ok a) (hend : verboseAtEnd v text = true) :
    Ast.read v (text ++ ['\n']) = .ok a := by
  obtain ⟨hdepth, st, hread⟩ := read_eq_ok ha
  have hv : st.verbose = true := by rwa [verboseAtEnd, hread] at hend
  obtain ⟨k, last, rfl, hlong⟩ := readLevel_lineEnd (t := []) (by simp [Closing]) hread 1
  rw [hv, if_pos rfl, readLevel_nil] at hlong
  rw [Ast.read, List.length_append, List.length_singleton, hlong]
  simp only [if_neg (Nat.not_lt.mpr hdepth)]

/-- A line end closes a comment, so that a bracket behind it is seen. -/
theorem endsInComment_lineEnd {text : List Char} {a : Ast} (ha : Ast.read v text = .ok a) :
    endsInComment v (text ++ ['\n']) = false := by
  obtain ⟨-, st, hread⟩ := read_eq_ok ha
  obtain ⟨k, last, -, hlong⟩ := readLevel_lineEnd (t := [')']) (by simp [Closing]) hread 2
  have hleft : ∃ b, readLevel (text.length + 3) { verbose := v } {} (text ++ ['\n', ')']) = .ok (b, st, [')']) := by
    rw [hlong]
    split
    · exact ⟨_, readLevel_bracket _ _ _⟩
    · exact ⟨_, readLevel_bracket _ _ _⟩
  obtain ⟨b, hleft⟩ := hleft
  have hlen : (text ++ ['\n', ')']).length + 1 = text.length + 3 := by simp
  rw [endsInComment, List.append_assoc, List.singleton_append, Ast.read, hlen, hleft]
  rfl

/-- Only in verbose mode a bracket falls into a comment. -/
theorem verboseAtEnd_of_endsInComment {text : List Char} {a : Ast} (ha : Ast.read v text = .ok a)
    (hend : endsInComment v text = true) : verboseAtEnd v text = true := by
  obtain ⟨hdepth, st, hread⟩ := read_eq_ok ha
  rw [verboseAtEnd, hread]
  exact (readLevel_bracketed hdepth hread 0).2 hend

/-! ## Patterns in the tie -/

/-- The tied pattern is within the limits of depth and size: the group around the pattern adds two
    levels, the start of the text one item. -/
def hasRoom (flags : Flags) (source : String) : Bool :=
  match Ast.read flags.verbose source.toList with
  | .error _ => false
  | .ok a =>
    match Node.ofAst flags a with
    | .error _ => false
    | .ok (n, _) => a.depth + 2 ≤ maxDepth && (Node.concat [.look .textStart, n]).fits

theorem hasRoom_eq {flags fs : Flags} {source : String} {a : Ast} {n : Node}
    (hread : Ast.read flags.verbose source.toList = .ok a) (hnode : Node.ofAst flags a = .ok (n, fs)) :
    hasRoom flags source = (decide (a.depth + 2 ≤ maxDepth) && (Node.concat [.look .textStart, n]).fits) := by
  simp only [hasRoom, hread, hnode]

theorem read_of_compile {flags : Flags} {source : String} {p : Pattern} (hp : compile flags source = .ok p) :
    ∃ a n fs, Ast.read flags.verbose source.toList = .ok a ∧ Node.ofAst flags a = .ok (n, fs) := by
  obtain ⟨n, hnode, -⟩ := compile_eq_ok hp
  obtain ⟨a, fs, hread, htree⟩ := ofText_eq_ok hnode
  exact ⟨a, n, fs, hread, htree⟩

theorem compile_of_ofText {flags : Flags} {source : String} {n : Node} (h : Node.ofText flags source = .ok n) :
    compile flags source = .ok { source, program := .ofNode n, groupNames := (Node.capture 0 none n).groupNames } := by
  rw [compile, h]
  rfl

theorem compile_error {flags : Flags} {source : String} {e : Error} (h : Node.ofText flags source = .error e) :
    compile flags source = .error e := by
  rw [compile, h]
  rfl

section Tie

variable {flags : Flags} {source : String} {p : Pattern} (hp : compile flags source = .ok p)

include hp

theorem compile_tie_comment (hend : endsInComment flags.verbose source.toList = true) :
    compile flags (Rule.tie false source) = .error .groupUnclosed := by
  obtain ⟨a, n, fs, hread, htree⟩ := read_of_compile hp
  refine compile_error ?_
  rw [ofText_tie hread htree, if_pos hend]

theorem compile_tie (hend : endsInComment flags.verbose source.toList = false) (hroom : hasRoom flags source = true) :
    ∃ p', compile flags (Rule.tie false source) = .ok p' ∧
      ∀ line, p'.find? line = (p.find? line).filter fun m => m.start? = some 0 := by
  obtain ⟨a, n, fs, hread, htree⟩ := read_of_compile hp
  rw [hasRoom_eq hread htree, Bool.and_eq_true, decide_eq_true_iff] at hroom
  obtain ⟨hdepth, hfits⟩ := hroom
  have htied := ofText_tie hread htree
  rw [hend, if_neg Bool.false_ne_true, if_neg (Nat.not_lt.mpr hdepth), if_pos hfits] at htied
  refine ⟨_, compile_of_ofText htied, fun line => ?_⟩
  rw [find?_tie hp (compile_of_ofText htied), findAtStart?_eq_filter hp]

theorem compile_tie_noRoom (hend : endsInComment flags.verbose source.toList = false)
    (hroom : hasRoom flags source = false) :
    ∃ e, compile flags (Rule.tie false source) = .error e ∧ (e = .tooDeep ∨ e = .tooLarge) := by
  obtain ⟨a, n, fs, hread, htree⟩ := read_of_compile hp
  have htied := ofText_tie hread htree
  rw [hend, if_neg Bool.false_ne_true] at htied
  rw [hasRoom_eq hread htree] at hroom
  by_cases hdepth : maxDepth < a.depth + 2
  · rw [if_pos hdepth] at htied
    exact ⟨_, compile_error htied, Or.inl rfl⟩
  · have hfits : (Node.concat [.look .textStart, n]).fits = false := by
      rwa [decide_eq_true (Nat.not_lt.mp hdepth), Bool.true_and] at hroom
    rw [if_neg hdepth, hfits, if_neg Bool.false_ne_true] at htied
    exact ⟨_, compile_error htied, Or.inr rfl⟩

theorem endsInComment_append_lineEnd : endsInComment flags.verbose (source ++ "\n").toList = false := by
  obtain ⟨a, -, -, hread, -⟩ := read_of_compile hp
  rw [String.toList_append]
  exact endsInComment_lineEnd hread

/-- Where verbose mode reads over the line end, the pattern with it is the pattern. -/
theorem compile_lineEnd (hend : verboseAtEnd flags.verbose source.toList = true) :
    compile flags (source ++ "\n") = .ok { p with source := source ++ "\n" } ∧
      hasRoom flags (source ++ "\n") = hasRoom flags source := by
  obtain ⟨n, hnode, rfl⟩ := compile_eq_ok hp
  obtain ⟨a, fs, hread, htree⟩ := ofText_eq_ok hnode
  have hread' : Ast.read flags.verbose (source ++ "\n").toList = .ok a := by
    rw [String.toList_append]
    exact read_lineEnd hread hend
  have hnode' : Node.ofText flags (source ++ "\n") = .ok n := by
    rw [Node.ofText, hread', ← hread]
    exact hnode
  exact ⟨compile_of_ofText hnode', (hasRoom_eq hread' htree).trans (hasRoom_eq hread htree).symm⟩

end Tie

/-- What the tie puts behind a pattern becomes no part of it. -/
def Flags.seals (flags : Flags) (source : String) : Bool :=
  if flags.verbose then verboseAtEnd true source.toList else !endsInComment false source.toList

end Pattern

theorem Rule.tie_verbose (source : String) : Rule.tie true source = Rule.tie false (source ++ "\n") := by
  have hclose : "\n)" = "\n" ++ ")" := rfl
  simp only [Rule.tie, if_true, Bool.false_eq_true, if_false, hclose, String.append_assoc]

/-! ## Rows -/

open Pattern (compile hasRoom)

section Rows

variable {flags : Pattern.Flags} {source : String} {p : Pattern} {row : Row} {path : Option Path}
variable (hp : compile flags source = .ok p) (hpath : Rule.makePath row.path = .ok path) (index : Nat)

include hp

theorem Rule.ofRow_of_tie_error {e : Pattern.Error} (htie : compile flags (Rule.tie flags.verbose source) = .error e) :
    Rule.ofRow flags index { row with pattern := .text source } = .error (.invalidPattern source e) := by
  obtain ⟨n, hnode, -⟩ := Pattern.compile_eq_ok hp
  simp only [Rule.ofRow, Rule.makePattern, hnode, htie]

include hpath

theorem Rule.ofRow_of_tie {p' : Pattern} (htie : compile flags (Rule.tie flags.verbose source) = .ok p') :
    ∃ r, Rule.ofRow flags index { row with pattern := .text source } = .ok r ∧
      ∀ line, r.match? line = p'.find? line := by
  obtain ⟨n, hnode, -⟩ := Pattern.compile_eq_ok hp
  refine ⟨⟨index, row.guard, row.transition, p', true, path, row.filter⟩, ?_, fun line => rfl⟩
  simp only [Rule.ofRow, Rule.makePattern, hnode, htie, hpath]

/-- A row with a pattern that is accepted alone, by what stands at the end of the pattern. Where the
    tie becomes no part of it, the row is accepted, if the limits leave room, and the rule matches
    what the pattern matches from the start of the line. Otherwise inline flags have changed the
    verbose flag: switched on, they let a comment take the bracket in, and the row is refused;
    switched off, they make the line end a part of the pattern. -/
theorem Rule.ofRow_text :
    (flags.seals source = true → hasRoom flags source = true →
      ∃ r, Rule.ofRow flags index { row with pattern := .text source } = .ok r ∧
        ∀ line, r.match? line = (p.find? line).filter fun m => m.start? = some 0) ∧
    (flags.seals source = true → hasRoom flags source = false →
      ∃ e, Rule.ofRow flags index { row with pattern := .text source } = .error (.invalidPattern source e) ∧
        (e = .tooDeep ∨ e = .tooLarge)) ∧
    (flags.verbose = false → flags.seals source = false →
      Pattern.verboseAtEnd false source.toList = true ∧
        Rule.ofRow flags index { row with pattern := .text source } = .error (.invalidPattern source .groupUnclosed)) ∧
    (flags.verbose = true → flags.seals source = false →
      Pattern.verboseAtEnd true source.toList = false ∧
        ∀ q, compile flags (source ++ "\n") = .ok q → hasRoom flags (source ++ "\n") = true →
          ∃ r, Rule.ofRow flags index { row with pattern := .text source } = .ok r ∧
            ∀ line, r.match? line = (q.find? line).filter fun m => m.start? = some 0) := by
  obtain ⟨a, -, -, hread, -⟩ := Pattern.read_of_compile hp
  -- what is tied is the pattern alone, or the pattern and a line end
  have accepted {text : String} {q : Pattern} (htext : Rule.tie flags.verbose source = Rule.tie false text)
      (hq : compile flags text = .ok q) (hend : Pattern.endsInComment flags.verbose text.toList = false)
      (hroom : hasRoom flags text = true) :
      ∃ r, Rule.ofRow flags index { row with pattern := .text source } = .ok r ∧
        ∀ line, r.match? line = (q.find? line).filter fun m => m.start? = some 0 := by
    obtain ⟨p', hp', hfind⟩ := Pattern.compile_tie hq hend hroom
    obtain ⟨r, hr, hmatch⟩ := Rule.ofRow_of_tie hp hpath index (htext ▸ hp')
    exact ⟨r, hr, fun line => (hmatch line).trans (hfind line)⟩
  have refused {text : String} {q : Pattern} (htext : Rule.tie flags.verbose source = Rule.tie false text)
      (hq : compile flags text = .ok q) (hend : Pattern.endsInComment flags.verbose text.toList = false)
      (hroom : hasRoom flags text = false) :
      ∃ e, Rule.ofRow flags index { row with pattern := .text source } = .error (.invalidPattern source e) ∧
        (e = .tooDeep ∨ e = .tooLarge) := by
    obtain ⟨e, he, hlimit⟩ := Pattern.compile_tie_noRoom hq hend hroom
    exact ⟨e, Rule.ofRow_of_tie_error hp index (htext ▸ he), hlimit⟩
  cases hv : flags.verbose with
  | false =>
    have htext : Rule.tie flags.verbose source = Rule.tie false source := by rw [hv]
    have hseals : flags.seals source = !Pattern.endsInComment flags.verbose source.toList := by
      rw [Pattern.Flags.seals, hv]; rfl
    simp only [hseals, Bool.not_eq_true', Bool.not_eq_false']
    refine ⟨accepted htext hp, refused htext hp, fun _ hend => ⟨?_, ?_⟩, nofun⟩
    · rw [← hv]; exact Pattern.verboseAtEnd_of_endsInComment hread hend
    · exact Rule.ofRow_of_tie_error hp index (htext ▸ Pattern.compile_tie_comment hp hend)
  | true =>
    have htext : Rule.tie flags.verbose source = Rule.tie false (source ++ "\n") := by rw [hv, Rule.tie_verbose]
    have hseals : flags.seals source = Pattern.verboseAtEnd flags.verbose source.toList := by
      rw [Pattern.Flags.seals, hv]; rfl
    have hclosed := Pattern.endsInComment_append_lineEnd hp
    rw [hseals]
    refine ⟨fun hend hroom => ?_, fun hend hroom => ?_, nofun, fun _ hend => ⟨by rwa [← hv], ?_⟩⟩
    · obtain ⟨hq, hsame⟩ := Pattern.compile_lineEnd hp hend
      -- the two patterns differ in their texts only, which finding a match does not read
      obtain ⟨r, hr, hmatch⟩ := accepted htext hq hclosed (hsame.trans hroom)
      exact ⟨r, hr, hmatch⟩
    · obtain ⟨hq, hsame⟩ := Pattern.compile_lineEnd hp hend
      exact refused htext hq hclosed (hsame.trans hroom)
    · intro q hq hroom
      exact accepted htext hq hclosed hroom

end Rows

theorem Rule.ofRow_text_commented :
    ∃ p r m, compile { verbose := true } " (a) b # c" = .ok p ∧
      Rule.ofRow { verbose := true } 0 { pattern := .text " (a) b # c" } = .ok r ∧
      p.find? "abab" = some m ∧ r.match? "abab" = some m ∧ m.spans = [some (0, 2), some (0, 1)] ∧
      r.match? "cab" = none ∧ (p.find? "cab").isSome = true := by
  have hseen : (compile { verbose := true } " (a) b # c").toOption.map (fun p =>
      ((p.find? "abab").map (·.spans), (p.find? "cab").map (·.start?))) =
      some (some [some (0, 2), some (0, 1)], some (some 1)) := by decide
  cases hp : compile { verbose := true } " (a) b # c" with
  | error e => rw [hp] at hseen; cases hseen
  | ok p =>
    simp only [hp, Except.toOption, Option.map_some, Option.some.injEq, Prod.mk.injEq] at hseen
    obtain ⟨m, hm, hspans⟩ := Option.map_eq_some_iff.mp hseen.1
    obtain ⟨m', hm', hstart'⟩ := Option.map_eq_some_iff.mp hseen.2
    have hstart : m.start? = some 0 := by
      rw [Match.start?, hspans]; rfl
    have hpath : Rule.makePath ({ pattern := .text "" } : Row).path = .ok none := rfl
    obtain ⟨r, hr, hmatch⟩ := (Rule.ofRow_text hp hpath 0).1 (by decide +kernel) (by decide)
    refine ⟨p, r, m, rfl, hr, hm, ?_, hspans, ?_, by rw [hm']; rfl⟩
    · rw [hmatch, hm, Option.filter_some, if_pos (by simp [hstart])]
    · rw [hmatch, hm', Option.filter_some, if_neg (by simp [hstart'])]

/-- Alone both patterns match at the start of `ab`. In the tie the first one, which switches the
    verbose flag on before a comment, is refused; the second one, which switches it off, has to
    match a line end too. -/
theorem Rule.ofRow_text_switching :
    (compile {} "(?x)a # c").map (fun p => (p.find? "ab").bind Match.start?) = .ok (some 0) ∧
      (Rule.ofRow {} 0 { pattern := .text "(?x)a # c" }).map (fun r => r.match? "ab") =
        .error (.invalidPattern "(?x)a # c" .groupUnclosed) ∧
      (compile { verbose := true } "(?-x)a").map (fun p => (p.find? "ab").bind Match.start?) = .ok (some 0) ∧
      (Rule.ofRow { verbose := true } 0 { pattern := .text "(?-x)a" }).map (fun r => r.match? "ab") = .ok none := by
  decide

end LineRules
