/-
  LineRules.Proofs.Pattern.ClassReading — reading a bracketed class that something follows.

  A class ends at its bracket, so that a class that was read is read alike with closing
  characters behind it. A hyphen looks ahead, in verbose mode past white space and one hash;
  `peekSpace_append` says that closing characters do not change what it sees.
-/

import LineRules.Proofs.Pattern.Following

namespace LineRules.Pattern

open Unicode (isBlank)

variable {v : Bool} {t : List Char}

def readPosixName? (negated : Bool) (cs : List Char) : Option (SetExpr × List Char) :=
  match cs.dropWhile (· ≠ ':') with
  | ':' :: ']' :: after => (Posix.ofName? (cs.takeWhile (· ≠ ':'))).map fun kind => (.posix kind negated, after)
  | _ => none

theorem readPosixName?_append (ht : Closing t) (negated : Bool) (cs : List Char) :
    readPosixName? negated (cs ++ t) = (readPosixName? negated cs).map fun r => (r.1, r.2 ++ t) := by
  unfold readPosixName?
  cases hd : cs.dropWhile (· ≠ ':') with
  | nil =>
    have hnone : (cs ++ t).dropWhile (· ≠ ':') = [] := by
      rw [List.dropWhile_eq_nil_iff] at hd ⊢
      intro c hc
      rcases List.mem_append.mp hc with hc | hc
      · exact hd c hc
      · rcases ht c hc with rfl | rfl <;> decide
    rw [hnone]; rfl
  | cons c after =>
    have hne : cs.dropWhile (· ≠ ':') ≠ [] := by rw [hd]; exact List.cons_ne_nil c after
    rw [dropWhile_append t hne, takeWhile_append t hne, hd]
    cases after with
    | nil =>
      rw [List.cons_append, List.nil_append]
      split
      · rename_i heq
        obtain ⟨-, heq⟩ := List.cons.inj heq
        exact absurd heq (ht.ne_cons (by decide) _)
      · split
        · rename_i heq; cases heq
        · rfl
    | cons d after =>
      simp only [List.cons_append]
      split
      · rename_i heq
        simp only [List.cons.injEq] at heq
        obtain ⟨rfl, rfl, rfl⟩ := heq
        simp only [Option.map_map]
        rfl
      · rename_i hno
        split
        · rename_i heq
          simp only [List.cons.injEq] at heq
          obtain ⟨rfl, rfl, rfl⟩ := heq
          exact absurd rfl (hno _)
        · rfl

theorem readPosix?_colon {cs : List Char} (h : ∀ more, cs ≠ '^' :: more) :
    readPosix? (':' :: cs) = readPosixName? false cs := by
  rcases cs with _ | ⟨d, cs⟩
  · rfl
  · have hd : d ≠ '^' := fun e => h cs (e ▸ rfl)
    simp only [readPosix?]
    rfl

theorem readPosix?_of_ne {cs : List Char} (h : ∀ more, cs ≠ ':' :: more) : readPosix? cs = none := by
  unfold readPosix?
  split
  · exact absurd rfl (h _)
  · rfl

theorem readPosix?_append (ht : Closing t) (cs : List Char) :
    readPosix? (cs ++ t) = (readPosix? cs).map fun r => (r.1, r.2 ++ t) := by
  rcases cs with _ | ⟨c, cs⟩
  · rw [List.nil_append, readPosix?_of_ne (ht.ne_cons (by decide))]; rfl
  · by_cases hc : c = ':'
    · subst hc
      rcases cs with _ | ⟨d, cs⟩
      · have ht' : ∀ more, [] ++ t ≠ '^' :: more := ht.ne_cons (by decide)
        have hnil : ∀ more : List Char, [] ≠ '^' :: more := by simp
        rw [readPosix?_colon hnil, List.cons_append, readPosix?_colon ht']
        exact readPosixName?_append ht false []
      · by_cases hd : d = '^'
        · subst hd
          exact readPosixName?_append ht true cs
        · rw [readPosix?_colon (by simp [hd]), List.cons_append, readPosix?_colon (by simp [hd])]
          exact readPosixName?_append ht false (d :: cs)
    · rw [List.cons_append, readPosix?_of_ne (by simp [hc]), readPosix?_of_ne (by simp [hc])]; rfl

/-- The members that a class begins with, after its caret. -/
def openSetBody (v negated : Bool) (cs : List Char) : Except Error (Bool × List SetExpr × List Char) :=
  match takeSpaced v (· = '-') false cs with
  | (_, []) => .error .classUnclosed
  | ([], ']' :: rest) =>
    match skipSpace v rest with
    | [] => .error .classUnclosed
    | rest => .ok (negated, [.literal ⟨']', false⟩], rest)
  | (hyphens, rest) => .ok (negated, hyphens.map fun c => .literal ⟨c, false⟩, rest)

theorem openSetBody_bracket {negated : Bool} {cs left : List Char}
    (h : takeSpaced v (· = '-') false cs = ([], ']' :: left)) :
    openSetBody v negated cs =
      match skipSpace v left with
      | [] => .error .classUnclosed
      | rest => .ok (negated, [.literal ⟨']', false⟩], rest) := by
  unfold openSetBody
  rw [h]; rfl

theorem openSetBody_other {negated : Bool} {cs hyphens left : List Char} {c : Char}
    (h : takeSpaced v (· = '-') false cs = (hyphens, c :: left)) (hc : hyphens ≠ [] ∨ c ≠ ']') :
    openSetBody v negated cs = .ok (negated, hyphens.map fun c => .literal ⟨c, false⟩, c :: left) := by
  unfold openSetBody
  rw [h]
  split
  · rename_i heq; cases heq
  · rename_i heq
    cases heq
    rcases hc with hc | hc <;> exact absurd rfl hc
  · rename_i heq; cases heq; rfl

theorem openSetBody_append {negated n : Bool} {cs rest : List Char} {first : List SetExpr}
    (h : openSetBody v negated cs = .ok (n, first, rest)) (t : List Char) :
    openSetBody v negated (cs ++ t) = .ok (n, first, rest ++ t) := by
  cases htake : takeSpaced v (· = '-') false cs with
  | mk hyphens left =>
    cases left with
    | nil => simp only [openSetBody, htake] at h; cases h
    | cons c left =>
      have htake' := takeSpaced_append t htake (List.cons_ne_nil c left)
      rw [List.cons_append] at htake'
      by_cases hc : hyphens ≠ [] ∨ c ≠ ']'
      · rw [openSetBody_other htake hc] at h
        rw [openSetBody_other htake' hc]
        cases h; rfl
      · obtain ⟨rfl, rfl⟩ : hyphens = [] ∧ c = ']' := by simpa [not_or] using hc
        rw [openSetBody_bracket htake] at h
        rw [openSetBody_bracket htake']
        cases hs : skipSpace v left with
        | nil => simp [hs] at h
        | cons d more =>
          rw [skipSpace_append t (by simp [hs])]
          simp only [hs, List.cons_append] at h ⊢
          cases h; rfl

theorem openSet_caret {cs more : List Char} (h : skipSpace v cs = '^' :: more) :
    openSet v cs = openSetBody v true (skipSpace v more) := by
  simp only [openSet, h]; rfl

theorem openSet_of_ne {cs : List Char} (h : ∀ more, skipSpace v cs ≠ '^' :: more) :
    openSet v cs = openSetBody v false (skipSpace v cs) := by
  unfold openSet
  dsimp only
  split
  · rename_i heq; exact absurd heq (h _)
  · rfl

theorem openSetBody_nil (v negated : Bool) : openSetBody v negated [] = .error .classUnclosed := rfl

theorem openSet_append {cs rest : List Char} {negated : Bool} {first : List SetExpr}
    (h : openSet v cs = .ok (negated, first, rest)) (t : List Char) :
    openSet v (cs ++ t) = .ok (negated, first, rest ++ t) := by
  cases hs : skipSpace v cs with
  | nil =>
    rw [openSet_of_ne (by simp [hs]), hs, openSetBody_nil] at h
    cases h
  | cons c more =>
    have hs' := skipSpace_append t (show skipSpace v cs ≠ [] by simp [hs])
    rw [hs, List.cons_append] at hs'
    by_cases hc : c = '^'
    · subst hc
      rw [openSet_caret hs] at h
      rw [openSet_caret hs']
      have hne : skipSpace v more ≠ [] := by
        intro hnil
        rw [hnil, openSetBody_nil] at h; cases h
      rw [skipSpace_append t hne]
      exact openSetBody_append h t
    · rw [openSet_of_ne (by simp [hs, hc]), hs] at h
      rw [openSet_of_ne (by simp [hs', hc]), hs']
      exact openSetBody_append h t

theorem readSetItem_other {c : Char} (hc : c ≠ '\\') (rest : List Char) :
    readSetItem v (c :: rest) = .ok (.literal ⟨c, false⟩, rest) := by
  unfold readSetItem
  split
  · rename_i heq; cases heq
  · rename_i heq; cases heq; exact absurd rfl hc
  · rename_i heq; cases heq; rfl

theorem readSetItem_follows (ht : Closing t) {cs rest : List Char} {a : Ast} (h : readSetItem v cs = .ok (a, rest)) :
    ∃ rest', readSetItem v (cs ++ t) = .ok (a, rest') ∧ Follows v t rest rest' := by
  cases cs with
  | nil => cases h
  | cons c cs =>
    by_cases hc : c = '\\'
    · subst hc
      exact readEscape_follows ht h
    · rw [readSetItem_other hc] at h
      cases h
      exact ⟨_, readSetItem_other hc _, Follows.append v t _⟩

theorem skipVerbose_blanks {cs : List Char} (h : cs.dropWhile isBlank = []) (inComment : Bool) :
    skipVerbose inComment cs = [] := by
  induction cs generalizing inComment with
  | nil => rfl
  | cons c cs ih =>
    rw [List.dropWhile_eq_nil_iff] at h
    have hrest := ih (List.dropWhile_eq_nil_iff.mpr fun x hx => h x (List.mem_cons_of_mem c hx))
    simp only [skipVerbose, h c List.mem_cons_self, if_true]
    split <;> exact hrest _

theorem skipVerbose_dropWhile (cs : List Char) : skipVerbose false cs = skipVerbose false (cs.dropWhile isBlank) := by
  induction cs with
  | nil => rfl
  | cons c cs ih =>
    by_cases hc : isBlank c = true
    · simp [skipVerbose, hc, ih]
    · simp [hc]

theorem isBlank_bracket : isBlank ']' = false := by decide

theorem isBlank_hyphen : isBlank '-' = false := by decide

theorem peekSpace_char {cs rest : List Char} {c : Char} (h : cs.dropWhile isBlank = c :: rest) (hc : c ≠ '#') :
    peekSpace true cs = some c := by
  simp only [peekSpace, Bool.not_true, Bool.false_eq_true, if_false, h]

theorem peekSpace_hash {cs rest : List Char} (h : cs.dropWhile isBlank = '#' :: rest) :
    peekSpace true cs = (rest.dropWhile isBlank).head?.or cs.head? := by
  simp only [peekSpace, Bool.not_true, Bool.false_eq_true, if_false, h]
  cases rest.dropWhile isBlank <;> rfl

theorem peekSpace_nil {cs : List Char} (h : cs.dropWhile isBlank = []) : peekSpace true cs = cs.head? := by
  simp only [peekSpace, Bool.not_true, Bool.false_eq_true, if_false, h]

/-- A text that begins with blanks, or with a hash after blanks, begins with neither a bracket nor
    a hyphen. -/
theorem head?_ne_of_blank {cs : List Char} {c : Char} (hc : isBlank c = false)
    (h : ∀ rest, cs.dropWhile isBlank ≠ c :: rest) : cs.head? ≠ some c := by
  cases cs with
  | nil => simp
  | cons d cs =>
    intro hd
    cases hd
    exact h cs (by simp [hc])

/-- The character after a hyphen is seen alike with closing characters behind it, unless it lies
    in what verbose mode skips up to the end. -/
theorem peekSpace_append (t cs : List Char) (hne : v = false → cs ≠ []) :
    peekSpace v (cs ++ t) = peekSpace v cs ∨
      (skipSpace v cs = [] ∧ peekSpace v cs ≠ some ']' ∧ peekSpace v cs ≠ some '-') := by
  cases v with
  | false =>
    obtain ⟨c, more, rfl⟩ := List.exists_cons_of_ne_nil (hne rfl)
    exact Or.inl rfl
  | true =>
    cases hd : cs.dropWhile isBlank with
    | nil =>
      right
      rw [peekSpace_nil hd]
      exact ⟨skipVerbose_blanks hd false, head?_ne_of_blank isBlank_bracket (by simp [hd]),
        head?_ne_of_blank isBlank_hyphen (by simp [hd])⟩
    | cons c rest =>
      have hd' := dropWhile_append t (show cs.dropWhile isBlank ≠ [] by simp [hd])
      rw [hd, List.cons_append] at hd'
      by_cases hc : c = '#'
      · subst hc
        cases hr : rest.dropWhile isBlank with
        | nil =>
          right
          rw [peekSpace_hash hd, hr]
          refine ⟨?_, head?_ne_of_blank isBlank_bracket (by simp [hd]), head?_ne_of_blank isBlank_hyphen (by simp [hd])⟩
          simp only [skipSpace, if_true]
          rw [skipVerbose_dropWhile, hd]
          simp only [skipVerbose, Bool.false_eq_true, if_false, if_true]
          split
          · exact skipVerbose_blanks hr false
          · exact skipVerbose_blanks hr true
        | cons d more =>
          left
          rw [peekSpace_hash hd, peekSpace_hash hd', dropWhile_append t (by simp [hr]), hr]
          rfl
      · exact Or.inl (by rw [peekSpace_char hd hc, peekSpace_char hd' hc])

/-- A member of a class that no hyphen follows. -/
def aloneItem (v : Bool) (first : Ast) (rest : List Char) : Except Error (SetExpr × List Char) :=
  match setItem? first with
  | some item => .ok (item, skipSpace v rest)
  | none => .error .badClass

def rangeOf (first last : Ast) (rest : List Char) : Except Error (SetExpr × List Char) :=
  match first, last with
  | .literal lo, .literal hi => if lo.char ≤ hi.char then .ok (.range lo hi, rest) else .error .badClass
  | _, _ => .error .badClass

def readSetRangeEnd (v : Bool) (first : Ast) (rest : List Char) : Except Error (SetExpr × List Char) :=
  match skipSpace v rest with
  | [] => .error .classUnclosed
  | c :: more =>
    if c = '-' ∧ peekSpace v more ≠ some ']' ∧ peekSpace v more ≠ some '-' then
      match skipSpace v more with
      | [] => .error .classUnclosed
      | cs =>
        match readSetItem v cs with
        | .error e => .error e
        | .ok (last, rest) => rangeOf first last rest
    else aloneItem v first rest

theorem readSetRange_eq (v : Bool) (cs : List Char) :
    readSetRange v cs =
      match readSetItem v cs with
      | .error e => .error e
      | .ok (first, rest) => readSetRangeEnd v first rest := by
  unfold readSetRange
  cases readSetItem v cs with
  | error e => rfl
  | ok out =>
    obtain ⟨first, rest⟩ := out
    simp only [bind, Except.bind, readSetRangeEnd]
    cases hs : skipSpace v rest with
    | nil => rfl
    | cons c more =>
      by_cases hc : c = '-'
      · subst hc
        cases hp : peekSpace v more with
        | none =>
          simp only [hp, ne_eq, reduceCtorEq, not_false_eq_true, and_self, if_true]
          cases skipSpace v more with
          | nil => rfl
          | cons d more => simp only; cases readSetItem v (d :: more) <;> rfl
        | some d =>
          by_cases hd : d = ']' ∨ d = '-'
          · rcases hd with rfl | rfl <;> cases hitem : setItem? first <;> simp [hp, hs, aloneItem, hitem]
          · obtain ⟨h1, h2⟩ := not_or.mp hd
            simp only [hp, ne_eq, Option.some.injEq, h1, h2, not_false_eq_true, and_self, if_true]
            split
            · rename_i heq; cases heq; exact absurd rfl h1
            · rename_i heq; cases heq; exact absurd rfl h2
            · cases skipSpace v more with
              | nil => rfl
              | cons d more => simp only; cases readSetItem v (d :: more) <;> rfl
      · simp only [hc, false_and, if_false]
        split
        · rename_i heq; cases heq
        · rename_i heq; cases heq; exact absurd rfl hc
        · rw [← hs]; rfl

theorem aloneItem_follows {first : Ast} {item : SetExpr} {rest rest' left : List Char}
    (h : aloneItem v first rest = .ok (item, left)) (hf : Follows v t rest rest') :
    ∃ left', aloneItem v first rest' = .ok (item, left') ∧ Follows v t left left' := by
  unfold aloneItem at h ⊢
  cases hitem : setItem? first with
  | none => rw [hitem] at h; cases h
  | some i =>
    rw [hitem] at h
    cases h
    exact ⟨_, rfl, hf.skipSpace⟩

theorem rangeOf_follows {first last : Ast} {item : SetExpr} {rest rest' left : List Char}
    (h : rangeOf first last rest = .ok (item, left)) (hf : Follows v t rest rest') :
    ∃ left', rangeOf first last rest' = .ok (item, left') ∧ Follows v t left left' := by
  unfold rangeOf at h ⊢
  split at h
  · split at h
    · cases h
      exact ⟨rest', by rw [if_pos ‹_›], hf⟩
    · cases h
  · cases h

theorem readSetRangeEnd_follows (ht : Closing t) {first : Ast} {item : SetExpr} {rest rest' left : List Char}
    (h : readSetRangeEnd v first rest = .ok (item, left)) (hf : Follows v t rest rest') :
    ∃ left', readSetRangeEnd v first rest' = .ok (item, left') ∧ Follows v t left left' := by
  unfold readSetRangeEnd at h ⊢
  cases hs : skipSpace v rest with
  | nil => rw [hs] at h; cases h
  | cons c more =>
    have hs' := hf.skipSpace
    rw [hs] at hs'
    rw [hs] at h
    rw [hs'.cons]
    simp only at h ⊢
    split at h
    · rename_i hrange
      cases hm : skipSpace v more with
      | nil => rw [hm] at h; cases h
      | cons d more' =>
        -- something stands behind the hyphen, so that the character seen there does not change
        have hpeek : peekSpace v (more ++ t) = peekSpace v more := by
          rcases peekSpace_append (v := v) t more (by rintro rfl rfl; cases hm) with hp | ⟨hnil, -⟩
          · exact hp
          · rw [hm] at hnil; cases hnil
        rw [hpeek, if_pos hrange, skipSpace_append t (by simp [hm]), hm]
        rw [hm] at h
        simp only [List.cons_append] at h ⊢
        cases hitem : readSetItem v (d :: more') with
        | error e => rw [hitem] at h; cases h
        | ok out =>
          obtain ⟨last, after⟩ := out
          obtain ⟨after', hitem', hafter⟩ := readSetItem_follows ht hitem
          rw [List.cons_append] at hitem'
          rw [hitem] at h
          rw [hitem']
          exact rangeOf_follows h hafter
    · rename_i halone
      rw [if_neg]
      · exact aloneItem_follows h hf
      · rintro ⟨rfl, h1, h2⟩
        cases more with
        | nil =>
          have hnone : peekSpace v [] = none := by cases v <;> rfl
          exact halone ⟨rfl, by simp [hnone], by simp [hnone]⟩
        | cons d more =>
          rcases peekSpace_append t (d :: more) (fun _ => List.cons_ne_nil d more) with hp | ⟨-, hp1, hp2⟩
          · rw [hp] at h1 h2
            exact halone ⟨rfl, h1, h2⟩
          · exact halone ⟨rfl, hp1, hp2⟩

theorem readSetRange_follows (ht : Closing t) {item : SetExpr} {cs rest : List Char}
    (h : readSetRange v cs = .ok (item, rest)) :
    ∃ rest', readSetRange v (cs ++ t) = .ok (item, rest') ∧ Follows v t rest rest' := by
  rw [readSetRange_eq] at h ⊢
  cases hitem : readSetItem v cs with
  | error e => rw [hitem] at h; cases h
  | ok out =>
    obtain ⟨first, after⟩ := out
    obtain ⟨after', hitem', hafter⟩ := readSetItem_follows ht hitem
    rw [hitem] at h
    rw [hitem']
    exact readSetRangeEnd_follows ht h hafter

/-- What a class goes on with is neither its end, nor a class inside it, nor an operator. -/
def MemberAhead (cs : List Char) : Prop :=
  cs ≠ [] ∧ (∀ more, cs ≠ ']' :: more) ∧ (∀ more, cs ≠ '[' :: more) ∧ (∀ more, cs ≠ '&' :: '&' :: more) ∧
    (∀ more, cs ≠ '-' :: '-' :: more) ∧ ∀ more, cs ≠ '~' :: '~' :: more

theorem MemberAhead.append (ht : Closing t) {cs : List Char} (h : MemberAhead cs) : MemberAhead (cs ++ t) := by
  obtain ⟨hne, h1, h2, h3, h4, h5⟩ := h
  obtain ⟨c, more, rfl⟩ := List.exists_cons_of_ne_nil hne
  have double (d : Char) (hd : d ≠ ')' ∧ d ≠ '\n') (h : ∀ more', c :: more ≠ d :: d :: more') (more' : List Char) :
      c :: more ++ t ≠ d :: d :: more' := by
    intro heq
    obtain ⟨rfl, heq⟩ := List.cons.inj heq
    cases more with
    | nil => exact ht.ne_cons hd more' heq
    | cons e more =>
      obtain ⟨rfl, -⟩ := List.cons.inj heq
      exact h more rfl
  refine ⟨by simp, ?_, ?_, double '&' (by decide) h3, double '-' (by decide) h4, double '~' (by decide) h5⟩
  · intro more' heq
    exact h1 more (by rw [(List.cons.inj heq).1])
  · intro more' heq
    exact h2 more (by rw [(List.cons.inj heq).1])

theorem readSet_member {fuel : Nat} {lhs : Option (SetOp × SetExpr)} {items : List SetExpr} {cs : List Char}
    (h : MemberAhead (skipSpace v cs)) :
    readSet v (fuel + 1) lhs items cs =
      match readSetRange v (skipSpace v cs) with
      | .error e => .error e
      | .ok (item, rest) => readSet v fuel lhs (item :: items) rest := by
  obtain ⟨h0, h1, h2, h3, h4, h5⟩ := h
  rw [readSet]
  split
  · exact absurd ‹_› h0
  · exact absurd ‹_› (h1 _)
  · exact absurd ‹_› (h2 _)
  · exact absurd ‹_› (h3 _)
  · exact absurd ‹_› (h4 _)
  · exact absurd ‹_› (h5 _)
  · rfl

theorem readSet_follows (ht : Closing t) {fuel : Nat} {lhs : Option (SetOp × SetExpr)} {items : List SetExpr}
    {cs cs' rest : List Char} {body : SetExpr} (h : readSet v fuel lhs items cs = .ok (body, rest))
    (hc : Follows v t cs cs') (d : Nat) : readSet v (fuel + d) lhs items cs' = .ok (body, rest ++ t) := by
  induction fuel generalizing lhs items cs cs' body rest with
  | zero => cases h
  | succ fuel ih =>
    rw [Nat.add_right_comm]
    have hc' := hc.skipSpace
    rw [readSet] at h
    split at h
    · cases h
    · rename_i heq
      cases h
      rw [heq] at hc'
      rw [readSet, hc'.cons]
      rfl
    · rename_i more heq
      rw [heq] at hc'
      rw [readSet, hc'.cons]
      simp only
      rw [readPosix?_append ht]
      split at h
      · rename_i hp
        rw [hp]
        exact ih h (Follows.append v t _)
      · rename_i hp
        rw [hp]
        split at h
        · cases h
        · rename_i hopen
          split at h
          · cases h
          · rename_i hbody
            simp only [Option.map_none, openSet_append hopen t, ih hbody (Follows.append v t _)]
            exact ih h (Follows.append v t _)
    · rename_i heq
      rw [heq] at hc'
      rw [readSet, hc'.cons]
      exact ih h (Follows.append v t _)
    · rename_i heq
      rw [heq] at hc'
      rw [readSet, hc'.cons]
      exact ih h (Follows.append v t _)
    · rename_i heq
      rw [heq] at hc'
      rw [readSet, hc'.cons]
      exact ih h (Follows.append v t _)
    · rename_i h0 h1 h2 h3 h4 h5
      have hahead : MemberAhead (skipSpace v cs) := ⟨h0, h1, h2, h3, h4, h5⟩
      have hskip := hc'.eq_append h0
      rw [readSet_member (hskip ▸ hahead.append ht), hskip]
      split at h
      · cases h
      · rename_i hitem
        obtain ⟨rest', hitem', hrest⟩ := readSetRange_follows ht hitem
        rw [hitem']
        exact ih h hrest

end LineRules.Pattern
