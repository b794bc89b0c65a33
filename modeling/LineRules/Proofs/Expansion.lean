/-
  LineRules.Proofs.Expansion — a template as a row of tokens.

  Runs of braces look ambiguous: `{{{x}}}` could be cut in several ways. Every template is spelled
  by a row of tokens in which a lone `}` stands before no other one and a `{` that nothing closes
  comes last (`exists_row`). Whichever row spells it, the template expands to what the tokens mean,
  one after another (`expandChars_spellAll`): one lemma for each token says that expansion takes it
  off and goes on behind it. So the text of a field goes into the result as it is, and no brace in
  it is looked at again. A text with every brace doubled is spelled by tokens that mean its
  characters.
-/

import LineRules.Template

namespace LineRules.Template

inductive Token where
  | text (chars : List Char)
  /-- Two opening braces, which stand for one. -/
  | opening
  /-- Two closing braces, which stand for one. -/
  | closing
  | field (chars : List Char)
  /-- A closing brace that stands for itself. -/
  | lone
  /-- An opening brace that nothing closes, and what follows it. -/
  | unclosed (chars : List Char)
  deriving DecidableEq, Repr

namespace Token

def spell : Token → List Char
  | .text cs => cs
  | .opening => ['{', '{']
  | .closing => ['}', '}']
  | .field f => '{' :: (f ++ ['}'])
  | .lone => ['}']
  | .unclosed w => '{' :: w

def spellAll (ts : List Token) : List Char := ts.flatMap spell

def meaning (c : Context) : Token → List Char
  | .text cs => cs
  | .opening => ['{']
  | .closing => ['}']
  | .field f => (lookup c f).toList
  | .lone => ['}']
  | .unclosed w => '{' :: w

/-- The token is spelled as such a token can be, in front of these others. -/
def Before (rest : List Token) : Token → Prop
  | .text cs => '{' ∉ cs ∧ '}' ∉ cs
  | .opening => True
  | .closing => True
  | .field f => '}' ∉ f ∧ f.head? ≠ some '{'
  | .lone => (spellAll rest).head? ≠ some '}'
  | .unclosed w => '}' ∉ w ∧ w.head? ≠ some '{' ∧ rest = []

def Row : List Token → Prop
  | [] => True
  | t :: rest => t.Before rest ∧ Row rest

theorem spellAll_cons (t : Token) (ts : List Token) : spellAll (t :: ts) = t.spell ++ spellAll ts := rfl

theorem spellAll_append (ts us : List Token) : spellAll (ts ++ us) = spellAll ts ++ spellAll us := List.flatMap_append

def ofChar (x : Char) : Token := if x = '{' then .opening else if x = '}' then .closing else .text [x]

theorem before_ofChar (x : Char) (rest : List Token) : (ofChar x).Before rest := by
  unfold ofChar
  split
  · exact trivial
  · rename_i hopen
    split
    · exact trivial
    · rename_i hclose
      exact ⟨by simpa using Ne.symm hopen, by simpa using Ne.symm hclose⟩

theorem meaning_ofChar (c : Context) (x : Char) : (ofChar x).meaning c = [x] := by
  unfold ofChar
  split
  · rename_i hopen; rw [hopen]; rfl
  · split
    · rename_i hclose; rw [hclose]; rfl
    · rfl

theorem row_ofChar (cs : List Char) : Row (cs.map ofChar) := by
  induction cs with
  | nil => exact trivial
  | cons x cs ih => exact ⟨before_ofChar x _, ih⟩

end Token

open Token (spellAll)

/-! ## Every template is a row of tokens -/

theorem exists_row (cs : List Char) : ∃ ts, Token.Row ts ∧ spellAll ts = cs := by
  induction hn : cs.length using Nat.strongRecOn generalizing cs with
  | ind n ih =>
    subst hn
    -- a token in front of a row for what comes after it
    have put (t : Token) (rest : List Char) (hcs : cs = t.spell ++ rest) (hspell : t.spell ≠ [])
        (ht : ∀ ts, spellAll ts = rest → t.Before ts) : ∃ ts, Token.Row ts ∧ spellAll ts = cs := by
      have hshort : rest.length < cs.length := by
        rw [hcs, List.length_append]
        have := List.length_pos_iff.mpr hspell
        omega
      obtain ⟨ts, hts, hrest⟩ := ih rest.length hshort rest rfl
      exact ⟨t :: ts, ⟨ht ts hrest, hts⟩, by rw [Token.spellAll_cons, hrest, hcs]⟩
    rcases cs with _ | ⟨x, cs⟩
    · exact ⟨[], trivial, rfl⟩
    by_cases hopen : x = '{'
    · subst hopen
      by_cases hnext : cs.head? = some '{'
      · obtain ⟨rest, rfl⟩ := List.head?_eq_some_iff.mp hnext
        exact put .opening rest rfl (by simp [Token.spell]) fun _ _ => trivial
      by_cases hclosed : '}' ∈ cs
      · obtain ⟨f, rest, rfl, hf⟩ := List.eq_append_cons_of_mem hclosed
        refine put (.field f) rest (by simp [Token.spell]) (by simp [Token.spell]) fun _ _ => ⟨hf, ?_⟩
        intro hhead
        obtain ⟨g, rfl⟩ := List.head?_eq_some_iff.mp hhead
        exact hnext rfl
      · exact ⟨[.unclosed cs], ⟨⟨hclosed, hnext, rfl⟩, trivial⟩, by simp [spellAll, Token.spell]⟩
    by_cases hclose : x = '}'
    · subst hclose
      by_cases hnext : cs.head? = some '}'
      · obtain ⟨rest, rfl⟩ := List.head?_eq_some_iff.mp hnext
        exact put .closing rest rfl (by simp [Token.spell]) fun _ _ => trivial
      · exact put .lone cs rfl (by simp [Token.spell]) fun ts hts => by rw [Token.Before, hts]; exact hnext
    · exact put (.text [x]) cs rfl (by simp [Token.spell]) fun _ _ =>
        ⟨by simpa using Ne.symm hopen, by simpa using Ne.symm hclose⟩

/-! ## What expansion does with a token -/

section Expansion

variable (c : Context)

theorem expandChars_other {x : Char} (hopen : x ≠ '{') (hclose : x ≠ '}') (rest : List Char) :
    expandChars c (x :: rest) = x :: expandChars c rest := by
  rw [expandChars]
  · exact fun _ h => absurd h hopen
  · exact fun _ h => absurd h hclose
  · exact hopen

theorem expandChars_text {cs : List Char} (hopen : '{' ∉ cs) (hclose : '}' ∉ cs) (rest : List Char) :
    expandChars c (cs ++ rest) = cs ++ expandChars c rest := by
  induction cs with
  | nil => rfl
  | cons x cs ih =>
    simp only [List.mem_cons, not_or] at hopen hclose
    rw [List.cons_append, expandChars_other c (Ne.symm hopen.1) (Ne.symm hclose.1), ih hopen.2 hclose.2]
    rfl

theorem expandChars_lone {rest : List Char} (h : rest.head? ≠ some '}') :
    expandChars c ('}' :: rest) = '}' :: expandChars c rest := by
  rw [expandChars]
  · exact fun _ h => absurd h (by decide)
  · rintro more - rfl
    exact h rfl
  · decide

/-- A single opening brace begins a field. -/
theorem expandChars_open {rest : List Char} (h : rest.head? ≠ some '{') :
    expandChars c ('{' :: rest) = expandField c [] rest := by
  rw [expandChars]
  rintro more rfl
  exact h rfl

theorem expandField_closed {f : List Char} (hf : '}' ∉ f) (before rest : List Char) :
    expandField c before (f ++ '}' :: rest) = (lookup c (before.reverse ++ f)).toList ++ expandChars c rest := by
  induction f generalizing before with
  | nil => simp [expandField]
  | cons x f ih =>
    simp only [List.mem_cons, not_or] at hf
    rw [List.cons_append, expandField, if_neg (Ne.symm hf.1), ih hf.2]
    simp

theorem expandField_unclosed {w : List Char} (hw : '}' ∉ w) (before : List Char) :
    expandField c before w = '{' :: (before.reverse ++ w) := by
  induction w generalizing before with
  | nil => simp [expandField]
  | cons x w ih =>
    simp only [List.mem_cons, not_or] at hw
    rw [expandField, if_neg (Ne.symm hw.1), ih hw.2]
    simp

/-- A row of tokens expands to what they mean, one after another. -/
theorem expandChars_spellAll {ts : List Token} (h : Token.Row ts) :
    expandChars c (spellAll ts) = ts.flatMap (Token.meaning c) := by
  induction ts with
  | nil => rfl
  | cons t ts ih =>
    obtain ⟨ht, hts⟩ := h
    rw [Token.spellAll_cons, List.flatMap_cons, ← ih hts]
    cases t with
    | text cs => exact expandChars_text c ht.1 ht.2 _
    | opening => rfl
    | closing => rfl
    | field f =>
      have hhead : (f ++ '}' :: spellAll ts).head? ≠ some '{' := by
        cases f with
        | nil => simp
        | cons x f => simpa using ht.2
      simp only [Token.spell, List.cons_append, List.append_assoc, List.nil_append]
      rw [expandChars_open c hhead, expandField_closed c ht.1]
      rfl
    | lone => exact expandChars_lone c ht
    | unclosed w =>
      obtain ⟨hw, hhead, rfl⟩ := ht
      have hnil : spellAll [] = [] := rfl
      rw [hnil, List.append_nil, Token.spell, expandChars_open c hhead, expandField_unclosed c hw]
      simp [Token.meaning, expandChars]

end Expansion

/-- A field becomes its text, whatever stands before and after it. -/
theorem expand_field {c : Context} {field : List Char} {text : String} (hfield : lookup c field = text)
    (before after : List Token) (h : Token.Row (before ++ .field field :: after)) :
    expand (String.ofList (spellAll (before ++ .field field :: after))) c =
      String.ofList (before.flatMap (Token.meaning c)) ++ text ++ String.ofList (after.flatMap (Token.meaning c)) := by
  rw [expand, String.toList_ofList, expandChars_spellAll c h, List.flatMap_append, List.flatMap_cons, Token.meaning,
    hfield, String.ofList_append, String.ofList_append, String.ofList_toList, String.append_assoc]

/-! ## Templates -/

def doubled (text : String) : String :=
  String.ofList (text.toList.flatMap fun x => if x = '{' ∨ x = '}' then [x, x] else [x])

theorem doubled_eq (text : String) : doubled text = String.ofList (spellAll (text.toList.map Token.ofChar)) := by
  have hspell (x : Char) : (Token.ofChar x).spell = if x = '{' ∨ x = '}' then [x, x] else [x] := by
    unfold Token.ofChar
    by_cases hopen : x = '{'
    · simp [hopen, Token.spell]
    · by_cases hclose : x = '}' <;> simp [hopen, hclose, Token.spell]
  rw [doubled, spellAll, List.flatMap_map]
  simp only [hspell]

/-- Every template is spelled by a row of tokens and expands to what the tokens mean one after
    another; a text with its braces doubled expands to the text. -/
theorem expand_row :
    (∀ template : String, ∃ ts, Token.Row ts ∧ String.ofList (spellAll ts) = template) ∧
    (∀ ts, Token.Row ts → ∀ c,
      expand (String.ofList (spellAll ts)) c = String.ofList (ts.flatMap (Token.meaning c))) ∧
    ∀ (text : String) (c : Context), expand (doubled text) c = text := by
  have hexpand (ts : List Token) (h : Token.Row ts) (c : Context) :
      expand (String.ofList (spellAll ts)) c = String.ofList (ts.flatMap (Token.meaning c)) := by
    rw [expand, String.toList_ofList, expandChars_spellAll c h]
  refine ⟨fun template => ?_, hexpand, fun text c => ?_⟩
  · obtain ⟨ts, hts, hspell⟩ := exists_row template.toList
    exact ⟨ts, hts, by rw [hspell, String.ofList_toList]⟩
  · rw [doubled_eq, hexpand _ (Token.row_ofChar _) c, List.flatMap_map]
    simp only [Token.meaning_ofChar, List.flatMap_singleton', String.ofList_toList]

/-- The tokens of `{{{x}}}} {a{b}{w`: braces on both sides of a field, a lone one, and one that is
    never closed. -/
def crowded : List Token :=
  [.opening, .field ['x'], .closing, .lone, .text [' '], .field ['a', '{', 'b'], .unclosed ['w']]

/-- The text of the field `x`, which is `}{{`, is not read as braces again. -/
theorem expand_row_braces :
    Token.Row crowded ∧ spellAll crowded = r"{{{x}}}} {a{b}{w".toList ∧
      expand (String.ofList (spellAll crowded)) (.ofPairs [("x", .str r"}{{")]) =
        r"{}{{}} UNKNOWN_CONTEXT_KEY_a{b{w" := by
  have hrow : Token.Row crowded := by
    simp [crowded, Token.Row, Token.Before, spellAll, Token.spell]
  refine ⟨hrow, by decide, ?_⟩
  rw [expand_row.2.1 _ hrow]
  decide

end LineRules.Template
