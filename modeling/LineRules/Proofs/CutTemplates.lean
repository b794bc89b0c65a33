/-
  LineRules.Proofs.CutTemplates — a template that is cut at its dots.

  Cutting counts open braces and knows no tokens, expansion goes by tokens and counts nothing. They agree on
  what a dot is: inside a field, or behind a brace that nothing closes, there is no closing brace, so at least
  one brace is open (`whole_of_open`). A dot that separates is a dot of a text, and every other token stays in
  one piece (`Cut`, `exists_cut`). The pieces are rows of tokens themselves, for a token that may stand before
  a dot may stand at an end (`row_of_row_append`). So the pieces, expanded one by one and joined by dots again,
  are the expanded template (`expand_splitDotted`).
-/

import LineRules.Proofs.DottedPaths
import LineRules.Proofs.Expansion

namespace LineRules.Template

open PathText (cutDots splitDotted Whole depthStep depthAfter)
open Token (spellAll)

/-! ## Rows with dots between them -/

def joined (rows : List (List Token)) : List Token := [Token.text ['.']].intercalate rows

theorem joined_cons_cons (ts us : List Token) (rows : List (List Token)) :
    joined (ts :: us :: rows) = ts ++ .text ['.'] :: joined (us :: rows) := by
  simp [joined, List.intercalate_cons_cons]

theorem joined_put (t : Token) (ts : List Token) (rows : List (List Token)) :
    joined ((t :: ts) :: rows) = t :: joined (ts :: rows) := by
  cases rows with
  | nil => simp [joined]
  | cons us rows => simp [joined_cons_cons]

/-- What is made of tokens one by one is made of the rows, with dots between them. -/
theorem flatMap_joined {f : Token → List Char} (hf : f (.text ['.']) = ['.']) (rows : List (List Token)) :
    (joined rows).flatMap f = ['.'].intercalate (rows.map fun ts => ts.flatMap f) := by
  induction rows with
  | nil => rfl
  | cons ts rows ih =>
    cases rows with
    | nil => simp [joined]
    | cons us rows =>
      simp only [List.map_cons, List.intercalate_cons_cons] at ih ⊢
      rw [joined_cons_cons, List.flatMap_append, List.flatMap_cons, hf, ih, List.append_assoc]

theorem spellAll_joined (rows : List (List Token)) :
    spellAll (joined rows) = ['.'].intercalate (rows.map spellAll) := flatMap_joined rfl rows

/-- A row is cut into two at a dot. -/
theorem row_of_row_append {ts us : List Token} (h : Token.Row (ts ++ .text ['.'] :: us)) :
    Token.Row ts ∧ Token.Row us := by
  induction ts with
  | nil => exact ⟨trivial, h.2⟩
  | cons t ts ih =>
    rw [List.cons_append] at h
    obtain ⟨ht, hrest⟩ := h
    obtain ⟨hts, hus⟩ := ih hrest
    refine ⟨⟨?_, hts⟩, hus⟩
    cases t with
    | text cs => exact ht
    | opening => exact trivial
    | closing => exact trivial
    | field f => exact ht
    | lone =>
      intro hhead
      apply ht
      obtain ⟨cs, hcs⟩ := List.head?_eq_some_iff.mp hhead
      rw [Token.spellAll_append, hcs]
      rfl
    | unclosed w => simp [Token.Before] at ht

theorem row_of_row_joined {rows : List (List Token)} (h : Token.Row (joined rows)) : ∀ ts ∈ rows, Token.Row ts := by
  induction rows with
  | nil => simp
  | cons ts rows ih =>
    cases rows with
    | nil => simpa [joined] using h
    | cons us rows =>
      rw [joined_cons_cons] at h
      obtain ⟨hts, hrest⟩ := row_of_row_append h
      intro vs hvs
      rcases List.mem_cons.mp hvs with rfl | hvs
      · exact hts
      · exact ih hrest vs hvs

/-! ## Tokens without a dot that separates -/

/-- While a brace is open no dot separates. -/
theorem whole_of_open {cs : List Char} (h : '}' ∉ cs) (depth : Nat) : Whole (depth + 1) cs := by
  induction cs generalizing depth with
  | nil => exact trivial
  | cons c cs ih =>
    simp only [List.mem_cons, not_or] at h
    refine ⟨by simp, ?_⟩
    by_cases hopen : c = '{'
    · simp only [depthStep, hopen, if_true]
      exact ih h.2 (depth + 1)
    · simp only [depthStep, if_neg hopen, if_neg (Ne.symm h.1)]
      exact ih h.2 depth

def Token.isText : Token → Bool
  | .text _ => true
  | _ => false

theorem whole_spell {t : Token} {ts : List Token} (h : t.Before ts) (ht : t.isText = false) (depth : Nat) :
    Whole depth t.spell := by
  have hbrace : ∀ cs, Whole depth ('{' :: cs) ↔ Whole (depth + 1) cs := by
    intro cs
    simp [Whole, depthStep]
  cases t with
  | text cs => cases ht
  | opening => simp [Token.spell, Whole]
  | closing => simp [Token.spell, Whole]
  | field f =>
    show Whole depth ('{' :: (f ++ ['}']))
    rw [hbrace, PathText.whole_append]
    exact ⟨whole_of_open h.1 depth, by simp [Whole]⟩
  | lone => simp [Token.spell, Whole]
  | unclosed w =>
    show Whole depth ('{' :: w)
    rw [hbrace]
    exact whole_of_open h.1 depth

/-! ## Cutting -/

/-- The tokens that are not text. -/
def Token.marks (ts : List Token) : List Token := ts.filter fun t => !t.isText

/-- Cutting what the tokens spell yields what the rows spell. With dots between them the rows are a row
    again, and they have the tokens other than text. -/
structure Cut (depth : Nat) (ts : List Token) (rows : List (List Token)) : Prop where
  spelled : rows.map spellAll = cutDots depth (spellAll ts)
  row : Token.Row (joined rows)
  marks : Token.marks (joined rows) = Token.marks ts

theorem Cut.spellAll_joined {depth : Nat} {ts : List Token} {rows : List (List Token)} (h : Cut depth ts rows) :
    spellAll (joined rows) = spellAll ts := by
  rw [Template.spellAll_joined, h.spelled, PathText.intercalate_cutDots]

/-- A whole token goes in front of the first row. -/
theorem Cut.put {t : Token} {depth : Nat} {ts : List Token} {rows : List (List Token)}
    (hwhole : Whole depth t.spell) (h : Cut (depthAfter depth t.spell) ts rows)
    (ht : t.Before (joined rows)) : ∃ rows, Cut depth (t :: ts) rows := by
  obtain ⟨piece, pieces, hcut⟩ := List.exists_cons_of_ne_nil
    (PathText.cutDots_ne_nil (depthAfter depth t.spell) (spellAll ts))
  obtain ⟨first, rest, rfl, hfirst, hrest⟩ := List.map_eq_cons_iff.mp (h.spelled.trans hcut)
  refine ⟨(t :: first) :: rest, ?_, ?_, ?_⟩
  · rw [List.map_cons, Token.spellAll_cons, Token.spellAll_cons, hfirst, hrest,
      PathText.cutDots_append hwhole hcut]
  · rw [joined_put]
    exact ⟨ht, h.row⟩
  · rw [joined_put]
    have hmarks := h.marks
    simp only [Token.marks, List.filter_cons] at hmarks ⊢
    rw [hmarks]

/-- A text is cut at each of its dots that separates, character by character. -/
theorem exists_cut_text {cs : List Char} (hopen : '{' ∉ cs) (hclose : '}' ∉ cs) {ts : List Token}
    (h : ∀ depth, ∃ rows, Cut depth ts rows) (depth : Nat) : ∃ rows, Cut depth (.text cs :: ts) rows := by
  induction cs generalizing depth with
  | nil =>
    obtain ⟨rows, hrows⟩ := h depth
    exact ⟨rows, hrows.spelled, hrows.row, hrows.marks⟩
  | cons x cs ih =>
    simp only [List.mem_cons, not_or] at hopen hclose
    have hsplit : spellAll (.text (x :: cs) :: ts) = x :: spellAll (.text cs :: ts) := rfl
    by_cases hdot : x = '.' ∧ depth = 0
    · obtain ⟨rfl, rfl⟩ := hdot
      obtain ⟨rows, hrows⟩ := ih hopen.2 hclose.2 0
      obtain ⟨piece, pieces, hcut⟩ := List.exists_cons_of_ne_nil
        (PathText.cutDots_ne_nil 0 (spellAll (.text cs :: ts)))
      obtain ⟨first, rest, rfl, -, -⟩ := List.map_eq_cons_iff.mp (hrows.spelled.trans hcut)
      refine ⟨[] :: first :: rest, ?_, ?_, ?_⟩
      · rw [List.map_cons, hrows.spelled, hsplit, PathText.cutDots_dot]
        rfl
      · rw [joined_cons_cons]
        exact ⟨⟨by decide, by decide⟩, hrows.row⟩
      · rw [joined_cons_cons]
        exact hrows.marks
    · obtain ⟨rows, hrows⟩ := ih hopen.2 hclose.2 (depthStep depth x)
      have hx : (Token.text [x]).Before (joined rows) := ⟨by simpa using hopen.1, by simpa using hclose.1⟩
      have hwhole : Whole depth (Token.text [x]).spell := ⟨hdot, trivial⟩
      obtain ⟨rows, hput⟩ := Cut.put hwhole hrows hx
      exact ⟨rows, hput.spelled, hput.row, hput.marks⟩

/-- Every row of tokens is cut into rows, wherever it begins. -/
theorem exists_cut {ts : List Token} (h : Token.Row ts) (depth : Nat) : ∃ rows, Cut depth ts rows := by
  induction ts generalizing depth with
  | nil => exact ⟨[[]], rfl, trivial, rfl⟩
  | cons t ts ih =>
    obtain ⟨ht, hts⟩ := h
    cases t with
    | text cs => exact exists_cut_text ht.1 ht.2 (ih hts) depth
    | unclosed w =>
      -- nothing follows it, so it is the last row as it stands
      obtain ⟨hw, hhead, rfl⟩ := ht
      have hbefore : (Token.unclosed w).Before [] := ⟨hw, hhead, rfl⟩
      have hwhole := whole_spell hbefore rfl depth
      refine ⟨[[.unclosed w]], ?_, ⟨⟨hw, hhead, rfl⟩, trivial⟩, rfl⟩
      have hspell : spellAll [.unclosed w] = (Token.unclosed w).spell := by simp [spellAll]
      rw [List.map_cons, List.map_nil, hspell, PathText.cutDots_of_whole hwhole]
    | opening =>
      obtain ⟨rows, hrows⟩ := ih hts (depthAfter depth (Token.opening).spell)
      exact Cut.put (whole_spell ht rfl depth) hrows trivial
    | closing =>
      obtain ⟨rows, hrows⟩ := ih hts (depthAfter depth (Token.closing).spell)
      exact Cut.put (whole_spell ht rfl depth) hrows trivial
    | field f =>
      obtain ⟨rows, hrows⟩ := ih hts (depthAfter depth (Token.field f).spell)
      exact Cut.put (whole_spell ht rfl depth) hrows ht
    | lone =>
      obtain ⟨rows, hrows⟩ := ih hts (depthAfter depth (Token.lone).spell)
      refine Cut.put (whole_spell ht rfl depth) hrows ?_
      rw [Token.Before, hrows.spellAll_joined]
      exact ht

/-! ## Expansion piece by piece -/

theorem expandChars_joined (c : Context) {rows : List (List Token)} (h : Token.Row (joined rows)) :
    ['.'].intercalate (rows.map fun ts => expandChars c (spellAll ts)) = expandChars c (spellAll (joined rows)) := by
  have hrows : (rows.map fun ts => expandChars c (spellAll ts)) = rows.map fun ts => ts.flatMap (Token.meaning c) :=
    List.map_congr_left fun ts hts => expandChars_spellAll c (row_of_row_joined h ts hts)
  rw [hrows, expandChars_spellAll c h, flatMap_joined rfl]

/-- Cutting a template at its dots leaves every token but text whole, and each dot that cuts is a dot of a text.
    So the pieces, expanded one by one and joined by dots, are the expanded template. -/
theorem expand_splitDotted :
    (∀ ts, Token.Row ts → ∃ rows,
      rows.map (fun us => String.ofList (spellAll us)) = splitDotted (String.ofList (spellAll ts)) ∧
      (∀ us ∈ rows, Token.Row us) ∧ Token.Row (joined rows) ∧ spellAll (joined rows) = spellAll ts ∧
      Token.marks (joined rows) = Token.marks ts) ∧
    ∀ (template : String) (c : Context),
      String.intercalate "." ((splitDotted template).map fun piece => expand piece c) = expand template c := by
  have hsplit {ts : List Token} {rows : List (List Token)} (h : Cut 0 ts rows) :
      rows.map (fun us => String.ofList (spellAll us)) = splitDotted (String.ofList (spellAll ts)) := by
    rw [splitDotted, String.toList_ofList, ← h.spelled, List.map_map]
    rfl
  refine ⟨?_, ?_⟩
  · intro ts hts
    obtain ⟨rows, hrows⟩ := exists_cut hts 0
    exact ⟨rows, hsplit hrows, row_of_row_joined hrows.row, hrows.row, hrows.spellAll_joined, hrows.marks⟩
  · intro template c
    obtain ⟨ts, hts, hspell⟩ := exists_row template.toList
    obtain ⟨rows, hrows⟩ := exists_cut hts 0
    have hpieces : splitDotted template = rows.map fun us => String.ofList (spellAll us) := by
      rw [hsplit hrows, hspell, String.ofList_toList]
    apply String.toList_injective
    rw [String.toList_intercalate, hpieces, List.map_map, List.map_map, expand, String.toList_ofList, ← hspell,
      ← hrows.spellAll_joined, ← expandChars_joined c hrows.row]
    simp [Function.comp_def, expand]

/-- The tokens of `a.{b.c}}.d.{{e.f}.{g.h`: three of its dots separate, one stands in a field, one behind a brace
    that counts as open although it is doubled. -/
def scattered : List Token :=
  [.text ['a', '.'], .field ['b', '.', 'c'], .lone, .text ['.', 'd', '.'], .opening, .text ['e', '.', 'f'], .lone,
    .text ['.'], .unclosed ['g', '.', 'h']]

theorem expand_splitDotted_scattered :
    Token.Row scattered ∧
    splitDotted (String.ofList (spellAll scattered)) = ["a", r"{b.c}}", "d", r"{{e.f}.{g.h"] ∧
    ∃ rows, rows.map (fun us => String.ofList (spellAll us)) = splitDotted (String.ofList (spellAll scattered)) ∧
      (∀ us ∈ rows, Token.Row us) ∧
      Token.marks (joined rows) = [.field ['b', '.', 'c'], .lone, .opening, .lone, .unclosed ['g', '.', 'h']] := by
  have hrow : Token.Row scattered := by
    simp [scattered, Token.Row, Token.Before, spellAll, Token.spell]
  refine ⟨hrow, by decide, ?_⟩
  obtain ⟨rows, hspell, hrows, -, -, hmarks⟩ := expand_splitDotted.1 scattered hrow
  exact ⟨rows, hspell, hrows, hmarks⟩

end LineRules.Template
