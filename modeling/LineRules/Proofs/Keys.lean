/-
  LineRules.Proofs.Keys — keys in normal form.

  A key is normal if it holds word characters only, no two underscores stand side by side in it, and
  lower case leaves it as it is. The key of any text is normal (`normal_ofText`): of what the steps
  of `Key.normalize` leave, each later one takes characters away or puts underscores in. A normal
  key is left as it is by every step, so the normal keys are just those that are their own keys
  (`ofText_eq_self_iff`).

  What the steps come to can be said at once: the runs of word characters in the text, joined by
  underscores (`joinGaps_strip`), of which those behind another one are left out
  (`squeeze_eq_destutter`).
-/

import LineRules.Key
import LineRules.Proofs.Characters
import Mathlib.Data.List.Chain
import Mathlib.Data.List.Destutter

namespace LineRules.Key

open Unicode (isWord isBlank IsLower)

/-- Not two underscores side by side. -/
def Single (a b : Char) : Prop := ¬(a = '_' ∧ b = '_')

structure Normal (key : String) : Prop where
  word : ∀ c ∈ key.toList, isWord c = true
  single : key.toList.IsChain Single
  lower : Unicode.lower key = key

/-! ## What the steps leave -/

theorem mem_of_mem_strip {cs : List Char} {c : Char} (h : c ∈ strip cs) : c ∈ cs := by
  rw [strip, List.mem_reverse] at h
  have h := (List.dropWhile_sublist _).subset h
  rw [List.mem_reverse] at h
  exact (List.dropWhile_sublist _).subset h

theorem mem_of_mem_joinGaps {inGap : Bool} {cs : List Char} {c : Char} (h : c ∈ joinGaps inGap cs) :
    c = '_' ∨ c ∈ cs ∧ isWord c = true := by
  induction cs generalizing inGap with
  | nil => cases h
  | cons x rest ih =>
    have hrest (g : Bool) (h : c ∈ joinGaps g rest) : c = '_' ∨ c ∈ x :: rest ∧ isWord c = true :=
      (ih h).imp_right fun hc => ⟨List.mem_cons_of_mem x hc.1, hc.2⟩
    rw [joinGaps] at h
    split at h
    · rename_i hx
      rcases List.mem_cons.mp h with rfl | h
      · exact .inr ⟨List.mem_cons_self, hx⟩
      · exact hrest false h
    · split at h
      · exact hrest true h
      · rcases List.mem_cons.mp h with rfl | h
        · exact .inl rfl
        · exact hrest true h

instance : DecidableRel Single := fun a b => inferInstanceAs (Decidable ¬(a = '_' ∧ b = '_'))

/-- What is left out are the underscores behind another one. -/
theorem squeeze_eq_destutter (cs : List Char) : squeeze false cs = cs.destutter Single := by
  have hkept (c : Char) (cs : List Char) : c :: squeeze (decide (c = '_')) cs = cs.destutter' Single c := by
    induction cs generalizing c with
    | nil => rfl
    | cons d cs ih =>
      rw [squeeze, List.destutter'_cons, ← ih c, ← ih d]
      by_cases hd : d = '_' <;> by_cases hc : c = '_' <;> simp [Single, hc, hd]
  cases cs with
  | nil => rfl
  | cons c cs =>
    rw [squeeze, List.destutter_cons', ← hkept]
    by_cases hc : c = '_' <;> simp [hc]

/-- The key of a text is normal. -/
theorem normal_ofText (text : String) : Normal (ofText text) := by
  have hmem : ∀ c ∈ (ofText text).toList, isWord c = true ∧ IsLower c := by
    intro c hc
    rw [ofText, String.toList_ofList, normalize, squeeze_eq_destutter] at hc
    rcases mem_of_mem_joinGaps ((List.destutter_sublist Single _).subset hc) with rfl | ⟨hc, hword⟩
    · exact ⟨by decide, Unicode.isLower_of_code (Unicode.lowerCode_eq_self (by simp)) (by decide)⟩
    · exact ⟨hword, Unicode.isLower_of_mem_lowerChars (mem_of_mem_strip hc)⟩
  refine ⟨fun c hc => (hmem c hc).1, ?_, ?_⟩
  · rw [ofText, String.toList_ofList, normalize, squeeze_eq_destutter]
    exact List.isChain_destutter Single _
  · rw [Unicode.lower, Unicode.lowerChars_eq_self fun c hc => (hmem c hc).2, String.ofList_toList]

/-! ## What the steps do to a normal key -/

section Word

variable {cs : List Char} (hword : ∀ c ∈ cs, isWord c = true)
include hword

theorem strip_of_word : strip cs = cs := by
  have hkept : ∀ c ∈ cs, (!isWord c) = false := fun c hc => by rw [hword c hc]; rfl
  rw [strip, Unicode.dropWhile_eq_self_of_all hkept,
    Unicode.dropWhile_eq_self_of_all fun c hc => hkept c (List.mem_reverse.mp hc), List.reverse_reverse]

theorem joinGaps_of_word (inGap : Bool) : joinGaps inGap cs = cs := by
  induction cs generalizing inGap with
  | nil => rfl
  | cons c rest ih =>
    rw [joinGaps, if_pos (hword c List.mem_cons_self), ih fun d hd => hword d (List.mem_cons_of_mem c hd)]

end Word

theorem ofText_of_normal {key : String} (h : Normal key) : ofText key = key := by
  have htrim : Unicode.trimChars key.toList = key.toList :=
    Unicode.trimChars_eq_self fun c hc => Unicode.isBlank_of_isWord (h.word c hc)
  have hlower : Unicode.lowerChars key.toList = key.toList := by
    rw [← String.toList_ofList (l := Unicode.lowerChars key.toList)]
    exact congrArg String.toList h.lower
  rw [ofText, normalize, htrim, hlower, strip_of_word h.word, joinGaps_of_word h.word,
    squeeze_eq_destutter, List.destutter_of_isChain Single _ h.single, String.ofList_toList]

/-- The normal keys are those that are their own keys. -/
theorem ofText_eq_self_iff (key : String) : ofText key = key ↔ Normal key :=
  ⟨fun h => h ▸ normal_ofText key, ofText_of_normal⟩

/-! ## Runs of word characters -/

def runs (cs : List Char) : List (List Char) := (cs.splitOnP fun c => !isWord c).filter (· ≠ [])

theorem runs_append_cons {c : Char} (hc : isWord c = false) (cs rest : List Char) :
    runs (cs ++ c :: rest) = runs cs ++ runs rest := by
  rw [runs, List.splitOnP_append_cons cs rest (by simp [hc]), List.filter_append]
  rfl

theorem runs_cons_gap {c : Char} (hc : isWord c = false) (rest : List Char) : runs (c :: rest) = runs rest :=
  runs_append_cons hc [] rest

theorem runs_of_word {cs : List Char} (hne : cs ≠ []) (hword : ∀ c ∈ cs, isWord c = true) : runs cs = [cs] := by
  rw [runs, List.splitOnP_eq_singleton fun c hc => by simp [hword c hc]]
  simp [hne]

theorem runs_cons_word {c : Char} (hc : isWord c = true) (rest : List Char) :
    runs (c :: rest) = (c :: rest.takeWhile isWord) :: runs (rest.dropWhile isWord) := by
  have hrun : runs (c :: rest.takeWhile isWord) = [c :: rest.takeWhile isWord] := by
    refine runs_of_word (List.cons_ne_nil _ _) fun d hd => ?_
    rcases List.mem_cons.mp hd with rfl | hd
    · exact hc
    · exact List.mem_takeWhile_imp hd
  have hsplit : c :: rest = (c :: rest.takeWhile isWord) ++ rest.dropWhile isWord := by simp
  rw [hsplit]
  cases htail : rest.dropWhile isWord with
  | nil => rw [List.append_nil, hrun]; rfl
  | cons d tail =>
    have hd : isWord d = false := by simpa [htail] using List.head?_dropWhile_not isWord rest
    rw [runs_append_cons hd, hrun, runs_cons_gap hd]
    rfl

theorem runs_gap_append {gap : List Char} (hgap : ∀ c ∈ gap, (!isWord c) = true) (cs : List Char) :
    runs (gap ++ cs) = runs cs := by
  induction gap with
  | nil => rfl
  | cons c gap ih =>
    rw [List.cons_append, runs_cons_gap (by simpa using hgap c List.mem_cons_self)]
    exact ih fun d hd => hgap d (List.mem_cons_of_mem c hd)

theorem runs_strip (cs : List Char) : runs (strip cs) = runs cs := by
  obtain ⟨before, after, hbefore, hafter, hcs⟩ := Unicode.exists_margins (fun c => !isWord c) cs
  have hfront : runs cs = runs (strip cs ++ after) := by
    conv_lhs => rw [hcs, List.append_assoc, runs_gap_append hbefore]
    rfl
  rw [hfront]
  cases after with
  | nil => rw [List.append_nil]
  | cons c after =>
    have hnone : runs after = [] := by
      rw [← List.append_nil after, runs_gap_append fun d hd => hafter d (List.mem_cons_of_mem c hd)]
      rfl
    rw [runs_append_cons (by simpa using hafter c List.mem_cons_self), hnone, List.append_nil]

theorem runs_ne_nil {cs : List Char} {c : Char} (h : c ∈ cs) (hc : isWord c = true) : runs cs ≠ [] := by
  induction cs with
  | nil => cases h
  | cons d cs ih =>
    cases hd : isWord d with
    | true => rw [runs_cons_word hd]; exact List.cons_ne_nil _ _
    | false =>
      rw [runs_cons_gap hd]
      refine ih ((List.mem_cons.mp h).resolve_left ?_)
      rintro rfl
      rw [hc] at hd
      cases hd

def joinRuns (cs : List Char) : List Char := ['_'].intercalate (runs cs)

theorem joinRuns_word_word {c d : Char} (hc : isWord c = true) (hd : isWord d = true) (rest : List Char) :
    joinRuns (c :: d :: rest) = c :: joinRuns (d :: rest) := by
  rw [joinRuns, joinRuns, runs_cons_word hc, runs_cons_word hd, List.takeWhile_cons_of_pos hd,
    List.dropWhile_cons_of_pos hd]
  cases runs (rest.dropWhile isWord) with
  | nil => rw [List.intercalate_singleton, List.intercalate_singleton]
  | cons run more => rw [List.intercalate_cons_cons, List.intercalate_cons_cons]; rfl

theorem joinRuns_word_gap {c d : Char} (hc : isWord c = true) (hd : isWord d = false) {rest : List Char}
    (hrest : runs rest ≠ []) : joinRuns (c :: d :: rest) = c :: '_' :: joinRuns rest := by
  have hsplit : runs (c :: d :: rest) = [c] :: runs rest := by
    rw [runs_cons_word hc, List.takeWhile_cons_of_neg (by simp [hd]), List.dropWhile_cons_of_neg (by simp [hd]),
      runs_cons_gap hd]
  rw [joinRuns, hsplit, List.intercalate_cons_of_ne_nil hrest]
  rfl

/-- Gaps are made underscores, one for each, where runs are in front of them and behind them: so the text has to
    end in a run, and to begin with one unless a gap has begun before it. -/
theorem joinGaps_eq {cs : List Char} (hlast : ∀ c, cs.getLast? = some c → isWord c = true) {inGap : Bool}
    (hhead : inGap = false → ∀ c, cs.head? = some c → isWord c = true) : joinGaps inGap cs = joinRuns cs := by
  induction cs generalizing inGap with
  | nil => rfl
  | cons c rest ih =>
    have hrest : ∀ d, rest.getLast? = some d → isWord d = true := by
      intro d hd
      refine hlast d ?_
      rw [List.getLast?_cons, hd]
      rfl
    rw [joinGaps]
    cases hc : isWord c with
    | false =>
      have hgap : inGap = true := by
        cases inGap with
        | true => rfl
        | false => rw [hhead rfl c rfl] at hc; cases hc
      rw [if_neg Bool.false_ne_true, if_pos hgap, joinRuns, runs_cons_gap hc]
      exact ih hrest (by simp)
    | true =>
      rw [if_pos rfl]
      cases rest with
      | nil => rw [joinRuns, runs_of_word (List.cons_ne_nil c []) (by simpa using hc)]; rfl
      | cons d rest =>
        cases hd : isWord d with
        | true => rw [ih hrest (by simpa using hd), joinRuns_word_word hc hd]
        | false =>
          have hne : runs rest ≠ [] := by
            rw [← runs_cons_gap hd rest]
            exact runs_ne_nil (List.getLast_mem (List.cons_ne_nil d rest)) (hrest _ (List.getLast?_eq_some_getLast _))
          have hjoin : joinGaps true (d :: rest) = joinRuns (d :: rest) := ih hrest (by simp)
          rw [joinGaps, hd, if_neg Bool.false_ne_true, if_pos rfl, joinRuns, runs_cons_gap hd] at hjoin
          rw [joinGaps, hd, if_neg Bool.false_ne_true, if_neg Bool.false_ne_true, hjoin, joinRuns_word_gap hc hd hne]
          rfl

theorem joinGaps_strip (cs : List Char) : joinGaps false (strip cs) = joinRuns cs := by
  have hlast : ∀ c, (strip cs).getLast? = some c → isWord c = true := by
    intro c hc
    simpa using Unicode.getLast?_inner (fun c => !isWord c) cs hc
  have hhead : ∀ c, (strip cs).head? = some c → isWord c = true := by
    intro c hc
    simpa using Unicode.head?_inner (fun c => !isWord c) cs hc
  rw [joinGaps_eq hlast fun _ => hhead, joinRuns, runs_strip, joinRuns]

/-- The key of a text: of the lower case of the trimmed text the runs of word characters, as long as can be and in
    their order, joined by underscores, and each run of underscores made one. So it holds word characters only and
    no two underscores side by side, and it is its own key. -/
theorem ofText_eq_runs (text : String) :
    (ofText text).toList =
        (['_'].intercalate (runs (Unicode.lower (Unicode.trim text)).toList)).destutter Single ∧
      (∀ c ∈ (ofText text).toList, isWord c = true) ∧ (ofText text).toList.IsChain Single ∧
      ofText (ofText text) = ofText text := by
  have hnormal : Normal (ofText text) := normal_ofText text
  refine ⟨?_, hnormal.word, hnormal.single, ofText_of_normal hnormal⟩
  rw [ofText, String.toList_ofList, normalize, squeeze_eq_destutter, joinGaps_strip, joinRuns, Unicode.lower,
    Unicode.trim, String.toList_ofList, String.toList_ofList]

/-- Underscores of the text stand beside those that are put in. -/
example : runs "a_ -- _b".toList = [['a', '_'], ['_', 'b']] ∧ ofText " A_ -- _B- " = "a_b" := by decide

end LineRules.Key
