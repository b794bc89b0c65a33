/-
  LineRules.Proofs.Pattern.Following — reading a pattern that something follows.

  Put closing characters behind the text of a pattern: line ends and closing parentheses, as
  those that tie a pattern to the start of a text. What a reader takes from the pattern alone it
  takes from the longer text too, and what it leaves has the closing characters behind it
  (`Follows`). There is one exception: where verbose mode skips to the end of the pattern, a
  comment or the white space skipped goes on into the closing characters.

  One lemma for each reader says so: here those of white space and escapes.
-/

import LineRules.Pattern.Reader
import Mathlib.Data.List.TakeWhile

namespace LineRules.Pattern

open Unicode (isBlank)

def Closing (t : List Char) : Prop := ∀ c ∈ t, c = ')' ∨ c = '\n'

/-- What is left of a longer text where `rest` is left of the pattern: `t` stands behind it, unless
    verbose mode has skipped the end of the pattern and a part of `t`. -/
def Follows (verbose : Bool) (t rest rest' : List Char) : Prop :=
  rest' = rest ++ t ∨ (verbose = true ∧ rest = [] ∧ ∃ inComment, rest' = skipVerbose inComment t)

variable {v : Bool} {t : List Char}

theorem Closing.ne_cons (ht : Closing t) {c : Char} (hc : c ≠ ')' ∧ c ≠ '\n') (more : List Char) : t ≠ c :: more := by
  rintro rfl
  rcases ht c List.mem_cons_self with h | h
  · exact hc.1 h
  · exact hc.2 h

theorem Follows.append (v : Bool) (t rest : List Char) : Follows v t rest (rest ++ t) := Or.inl rfl

theorem Follows.eq_append {rest rest' : List Char} (h : Follows v t rest rest') (hne : rest ≠ []) :
    rest' = rest ++ t := by
  rcases h with h | ⟨-, h, -⟩
  · exact h
  · exact absurd h hne

theorem Follows.cons {c : Char} {rest rest' : List Char} (h : Follows v t (c :: rest) rest') :
    rest' = c :: (rest ++ t) :=
  h.eq_append (List.cons_ne_nil c rest)

/-! ## White space and comments -/

theorem skipVerbose_suffix (inComment : Bool) (cs : List Char) : skipVerbose inComment cs <:+ cs := by
  induction cs generalizing inComment with
  | nil => exact List.suffix_refl []
  | cons c rest ih =>
    simp only [skipVerbose]
    split
    · exact (ih _).trans (List.suffix_cons c rest)
    · split
      · exact (ih _).trans (List.suffix_cons c rest)
      · split
        · exact (ih _).trans (List.suffix_cons c rest)
        · exact List.suffix_refl _

theorem skipVerbose_skipVerbose (inComment : Bool) (cs : List Char) :
    skipVerbose false (skipVerbose inComment cs) = skipVerbose inComment cs := by
  induction cs generalizing inComment with
  | nil => rfl
  | cons c rest ih =>
    simp only [skipVerbose]
    split
    · exact ih _
    · split
      · exact ih _
      · split
        · exact ih _
        · rename_i hb hc
          simp [skipVerbose, hb, hc]

theorem skipVerbose_append (inComment : Bool) (cs t : List Char) :
    Follows true t (skipVerbose inComment cs) (skipVerbose inComment (cs ++ t)) := by
  induction cs generalizing inComment with
  | nil => exact Or.inr ⟨rfl, rfl, inComment, rfl⟩
  | cons c rest ih =>
    simp only [List.cons_append, skipVerbose]
    split
    · exact ih _
    · split
      · exact ih _
      · split
        · exact ih _
        · exact Follows.append true t (c :: rest)

theorem Follows.skipSpace {cs cs' : List Char} (h : Follows v t cs cs') :
    Follows v t (skipSpace v cs) (skipSpace v cs') := by
  cases v with
  | false =>
    rcases h with h | ⟨h, -⟩
    · exact Or.inl h
    · cases h
  | true =>
    rcases h with rfl | ⟨-, rfl, b, rfl⟩
    · exact skipVerbose_append false cs t
    · exact Or.inr ⟨rfl, rfl, b, skipVerbose_skipVerbose b t⟩

theorem skipSpace_append {cs : List Char} (t : List Char) (h : skipSpace v cs ≠ []) :
    skipSpace v (cs ++ t) = skipSpace v cs ++ t :=
  (Follows.append v t cs).skipSpace.eq_append h

/-- Behind the end of a pattern stand closing characters only. -/
theorem Follows.closing {rest' : List Char} (ht : Closing t) (h : Follows v t [] rest') : Closing rest' := by
  rcases h with rfl | ⟨-, -, b, rfl⟩
  · exact ht
  · exact fun c hc => ht c ((skipVerbose_suffix b t).subset hc)

theorem takeSpaced_append {p : Char → Bool} {inComment : Bool} {cs taken rest : List Char} (t : List Char)
    (h : takeSpaced v p inComment cs = (taken, rest)) (hne : rest ≠ []) :
    takeSpaced v p inComment (cs ++ t) = (taken, rest ++ t) := by
  induction cs generalizing inComment taken rest with
  | nil =>
    simp only [takeSpaced, Prod.mk.injEq] at h
    exact absurd h.2.symm hne
  | cons c cs ih =>
    simp only [takeSpaced, List.cons_append] at h ⊢
    split at h
    · rw [if_pos ‹_›]; exact ih h hne
    · rw [if_neg ‹_›]
      split at h
      · rw [if_pos ‹_›]; exact ih h hne
      · rw [if_neg ‹_›]
        split at h
        · rw [if_pos ‹_›]; exact ih h hne
        · rw [if_neg ‹_›]
          split at h
          · rw [if_pos ‹_›]
            simp only [Prod.mk.injEq] at h
            obtain ⟨rfl, rfl⟩ := h
            have hmore : takeSpaced v p false cs = ((takeSpaced v p false cs).1, (takeSpaced v p false cs).2) := rfl
            rw [ih hmore hne]
          · rw [if_neg ‹_›]
            cases h; rfl

theorem dropWhile_append {p : Char → Bool} {cs : List Char} (t : List Char) (h : cs.dropWhile p ≠ []) :
    (cs ++ t).dropWhile p = cs.dropWhile p ++ t := by
  rw [List.dropWhile_append, if_neg (by simpa using h)]

theorem takeWhile_append {p : Char → Bool} {cs : List Char} (t : List Char) (h : cs.dropWhile p ≠ []) :
    (cs ++ t).takeWhile p = cs.takeWhile p := by
  induction cs with
  | nil => exact absurd rfl h
  | cons c cs ih =>
    by_cases hc : p c = true
    · simp only [List.cons_append, List.takeWhile_cons, hc, if_true]
      rw [ih (by simpa [hc] using h)]
    · simp [hc]

/-! ## Escapes -/

theorem readHexDigits_follows {n value m : Nat} {cs cs' rest : List Char}
    (h : readHexDigits v n value cs = .ok (m, rest)) (hc : Follows v t cs cs') :
    ∃ rest', readHexDigits v n value cs' = .ok (m, rest') ∧ Follows v t rest rest' := by
  induction n generalizing value cs cs' with
  | zero =>
    simp only [readHexDigits, Except.ok.injEq, Prod.mk.injEq] at h
    obtain ⟨rfl, rfl⟩ := h
    exact ⟨cs', by simp [readHexDigits], hc⟩
  | succ n ih =>
    cases cs with
    | nil => simp [readHexDigits] at h
    | cons c cs =>
      rw [hc.cons]
      simp only [readHexDigits] at h ⊢
      split at h
      · exact ih h (Follows.append v t cs).skipSpace
      · cases h

def readBraced (v : Bool) (cs : List Char) : Except Error (Literal × List Char) :=
  match takeSpaced v (· ≠ '}') false cs with
  | (number, _ :: rest) =>
    match (hexValue? number).bind charOfCode? with
    | some c => .ok (⟨c, false⟩, skipSpace v rest)
    | none => .error .badHex
  | (_, []) => .error .badHex

theorem readHex_brace {digits : Nat} {cs more : List Char} (h : skipSpace v cs = '{' :: more) :
    readHex v digits cs = readBraced v more := by
  rw [readHex, h]; rfl

theorem readHex_digits {digits : Nat} {cs more : List Char} {c : Char} (h : skipSpace v cs = c :: more) (hc : c ≠ '{') :
    readHex v digits cs =
      match readHexDigits v digits 0 (c :: more) with
      | .error e => .error e
      | .ok (n, rest) =>
        match charOfCode? n with
        | some c => .ok (⟨c, digits = 2⟩, rest)
        | none => .error .badHex := by
  unfold readHex
  rw [h]
  split
  · rename_i heq; cases heq
  · rename_i heq; cases heq; exact absurd rfl hc
  · rfl

theorem readBraced_follows {cs rest : List Char} {l : Literal} (h : readBraced v cs = .ok (l, rest)) (t : List Char) :
    ∃ rest', readBraced v (cs ++ t) = .ok (l, rest') ∧ Follows v t rest rest' := by
  unfold readBraced at h ⊢
  cases hn : takeSpaced v (· ≠ '}') false cs with
  | mk number after =>
    cases after with
    | nil => simp only [hn] at h; cases h
    | cons b after =>
      rw [takeSpaced_append t hn (List.cons_ne_nil b after)]
      simp only [hn, List.cons_append] at h ⊢
      split at h
      · cases h
        exact ⟨_, rfl, (Follows.append v t after).skipSpace⟩
      · cases h

theorem readHex_follows {digits : Nat} {cs rest : List Char} {l : Literal} (h : readHex v digits cs = .ok (l, rest))
    (t : List Char) : ∃ rest', readHex v digits (cs ++ t) = .ok (l, rest') ∧ Follows v t rest rest' := by
  cases hs : skipSpace v cs with
  | nil => simp [readHex, hs] at h
  | cons c more =>
    have hs' := skipSpace_append t (show skipSpace v cs ≠ [] by simp [hs])
    rw [hs, List.cons_append] at hs'
    by_cases hc : c = '{'
    · subst hc
      rw [readHex_brace hs] at h
      rw [readHex_brace hs']
      exact readBraced_follows h t
    · rw [readHex_digits hs hc] at h
      rw [readHex_digits hs' hc]
      cases hd : readHexDigits v digits 0 (c :: more) with
      | error e => simp only [hd] at h; cases h
      | ok out =>
        obtain ⟨n, after⟩ := out
        obtain ⟨after', hd', hf⟩ := readHexDigits_follows hd (Follows.append v t (c :: more))
        rw [List.cons_append] at hd'
        simp only [hd, hd'] at h ⊢
        split at h
        · cases h; exact ⟨after', rfl, hf⟩
        · cases h

theorem readProperty_follows {cs rest : List Char} {q : PropertyQuery × Bool}
    (h : readProperty v cs = .ok (q, rest)) (t : List Char) :
    ∃ rest', readProperty v (cs ++ t) = .ok (q, rest') ∧ Follows v t rest rest' := by
  unfold readProperty at h ⊢
  cases hs : skipSpace v cs with
  | nil => simp [hs] at h
  | cons c more =>
    rw [skipSpace_append t (by simp [hs])]
    rw [hs] at h ⊢
    by_cases hc : c = '{'
    · subst hc
      cases hn : takeSpaced v (· ≠ '}') false more with
      | mk name after =>
        cases after with
        | nil => simp only [hn] at h; cases h
        | cons b after =>
          simp only [hn, List.cons_append, takeSpaced_append t hn (List.cons_ne_nil b after)] at h ⊢
          cases h
          exact ⟨_, rfl, Follows.append v t _⟩
    · simp only [List.cons_append] at h ⊢
      split at h
      · cases h
      · rename_i hslash
        cases h
        exact ⟨_, by rw [if_neg hslash], (Follows.append v t more).skipSpace⟩

theorem readBoundary_other {c : Char} (hc : c ≠ '{') (cs : List Char) :
    readBoundary v (c :: cs) = .ok (.boundary, c :: cs) := by
  unfold readBoundary
  split
  · rename_i heq; cases heq; exact absurd rfl hc
  · rfl

theorem readBoundary_brace_follows (t : List Char) {more rest : List Char} {a : Assertion}
    (h : readBoundary v ('{' :: more) = .ok (a, rest)) :
    ∃ rest', readBoundary v ('{' :: (more ++ t)) = .ok (a, rest') ∧ Follows v t rest rest' := by
  simp only [readBoundary] at h ⊢
  cases hs : skipSpace v more with
  | nil => simp [hs] at h
  | cons d after =>
    rw [skipSpace_append t (by simp [hs])]
    simp only [hs, List.cons_append] at h ⊢
    split at h
    · rename_i hd
      cases h
      exact ⟨'{' :: (more ++ t), by rw [if_pos hd], Follows.append v t _⟩
    · rename_i hd
      rw [if_neg hd]
      cases hn : takeSpaced v isBoundaryLetter false (d :: after) with
      | mk name left =>
        cases left with
        | nil => simp only [hn] at h; cases h
        | cons b left =>
          have happ := takeSpaced_append t hn (List.cons_ne_nil b left)
          simp only [List.cons_append] at happ
          rw [happ]
          rw [hn] at h
          by_cases hb : b = '}'
          · subst hb
            simp only at h ⊢
            split at h <;> first
              | (cases h; exact ⟨_, rfl, Follows.append v t _⟩)
              | cases h
          · split at h
            · rename_i heq; cases heq; exact absurd rfl hb
            · cases h

theorem readBoundary_follows (ht : Closing t) {cs rest : List Char} {a : Assertion}
    (h : readBoundary v cs = .ok (a, rest)) :
    ∃ rest', readBoundary v (cs ++ t) = .ok (a, rest') ∧ Follows v t rest rest' := by
  cases cs with
  | nil =>
    cases h
    refine ⟨t, ?_, Follows.append v t []⟩
    rw [List.nil_append]
    unfold readBoundary
    split
    · exact absurd rfl (ht.ne_cons (by decide) _)
    · rfl
  | cons c more =>
    by_cases hc : c = '{'
    · subst hc
      exact readBoundary_brace_follows t h
    · rw [readBoundary_other hc] at h
      cases h
      exact ⟨_, readBoundary_other hc _, Follows.append v t _⟩

inductive Escape where
  | hex (digits : Nat)
  | property (negated : Bool)
  | boundary
  | whole (a : Ast)
  | refused

def Escape.ofChar (c : Char) : Escape :=
  match c with
  | 'x' => .hex 2
  | 'u' => .hex 4
  | 'U' => .hex 8
  | 'p' => .property false
  | 'P' => .property true
  | 'd' => .whole (.shorthand .digit false)
  | 'D' => .whole (.shorthand .digit true)
  | 's' => .whole (.shorthand .space false)
  | 'S' => .whole (.shorthand .space true)
  | 'w' => .whole (.shorthand .word false)
  | 'W' => .whole (.shorthand .word true)
  | 'a' => .whole (.literal ⟨Char.ofNat 0x07, false⟩)
  | 'f' => .whole (.literal ⟨Char.ofNat 0x0C, false⟩)
  | 't' => .whole (.literal ⟨Char.ofNat 0x09, false⟩)
  | 'n' => .whole (.literal ⟨Char.ofNat 0x0A, false⟩)
  | 'r' => .whole (.literal ⟨Char.ofNat 0x0D, false⟩)
  | 'v' => .whole (.literal ⟨Char.ofNat 0x0B, false⟩)
  | 'A' => .whole (.assertion .textStart)
  | 'z' => .whole (.assertion .textEnd)
  | 'B' => .whole (.assertion .notBoundary)
  | '<' => .whole (.assertion .wordStart)
  | '>' => .whole (.assertion .wordEnd)
  | 'b' => .boundary
  | _ => if isEscapable c then .whole (.literal ⟨Char.ofNat c.toNat, false⟩) else .refused

def Escape.read (v : Bool) (rest : List Char) : Escape → Except Error (Ast × List Char)
  | .hex digits => (readHex v digits rest).map fun r => (.literal r.1, r.2)
  | .property negated => (readProperty v rest).map fun r => (.property r.1.1 (negated != r.1.2), r.2)
  | .boundary => (readBoundary v rest).map fun r => (.assertion r.1, r.2)
  | .whole a => .ok (a, rest)
  | .refused => .error .badEscape

theorem readEscape_cons (v : Bool) (c : Char) (rest : List Char) :
    readEscape v (c :: rest) = (Escape.ofChar c).read v rest := by
  unfold Escape.ofChar
  split <;> first
    | rfl
    | (unfold readEscape
       dsimp only
       split <;> first
         | contradiction
         | (split <;> rfl))

/-- What follows the reader of a part follows the reader of the whole. -/
theorem map_follows {α β : Type} {f : α × List Char → β × List Char} (hf : ∀ a rest, (f (a, rest)).2 = rest)
    (hg : ∀ a rest rest', (f (a, rest)).1 = (f (a, rest')).1) {x x' : Except Error (α × List Char)}
    (hx : ∀ a rest, x = .ok (a, rest) → ∃ rest', x' = .ok (a, rest') ∧ Follows v t rest rest') {b : β}
    {rest : List Char} (h : x.map f = .ok (b, rest)) : ∃ rest', x'.map f = .ok (b, rest') ∧ Follows v t rest rest' := by
  cases x with
  | error e => cases h
  | ok out =>
    obtain ⟨a, left⟩ := out
    obtain ⟨left', rfl, hfollows⟩ := hx a left rfl
    simp only [Except.map, Except.ok.injEq] at h ⊢
    have h1 : (f (a, left)).1 = b := congrArg Prod.fst h
    have h2 : left = rest := (hf a left).symm.trans (congrArg Prod.snd h)
    exact ⟨left', Prod.ext ((hg a left' left).trans h1) (hf a left'), h2 ▸ hfollows⟩

theorem readEscape_follows (ht : Closing t) {cs rest : List Char} {a : Ast} (h : readEscape v cs = .ok (a, rest)) :
    ∃ rest', readEscape v (cs ++ t) = .ok (a, rest') ∧ Follows v t rest rest' := by
  cases cs with
  | nil => cases h
  | cons c cs =>
    rw [readEscape_cons] at h
    rw [List.cons_append, readEscape_cons]
    cases hform : Escape.ofChar c with
    | hex digits =>
      rw [hform] at h
      exact map_follows (fun _ _ => rfl) (fun _ _ _ => rfl) (fun _ _ hx => readHex_follows hx t) h
    | property negated =>
      rw [hform] at h
      exact map_follows (fun _ _ => rfl) (fun _ _ _ => rfl) (fun _ _ hx => readProperty_follows hx t) h
    | boundary =>
      rw [hform] at h
      exact map_follows (fun _ _ => rfl) (fun _ _ _ => rfl) (fun _ _ hx => readBoundary_follows ht hx) h
    | whole b =>
      rw [hform] at h
      cases h
      exact ⟨_, rfl, Follows.append v t _⟩
    | refused => rw [hform] at h; cases h

end LineRules.Pattern
