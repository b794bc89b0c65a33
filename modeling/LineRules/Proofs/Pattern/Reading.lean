/-
  LineRules.Proofs.Pattern.Reading — reading a whole pattern that something follows.

  Repetitions, groups and levels. `readLevel_follows` puts the readers together: a level that was
  read to the end of the pattern goes on reading behind it with all that it read before. It also
  allows more fuel, for the longer text is given more. A pattern that is tied is read as the group
  of it, unless it ends in a comment, into which the bracket falls (`read_tied`).
-/

import LineRules.Proofs.Pattern.ClassReading

namespace LineRules.Pattern

open Unicode (isBlank)

variable {v : Bool} {t : List Char}

/-! ## Repetition -/

theorem readCount_append {cs rest : List Char} {n : Nat} (h : readCount v cs = .ok (n, rest)) (hne : rest ≠ [])
    (t : List Char) : readCount v (cs ++ t) = .ok (n, rest ++ t) := by
  unfold readCount at h ⊢
  cases htake : takeSpaced v (fun c => '0' ≤ c ∧ c ≤ '9') false (cs.dropWhile isBlank) with
  | mk digits left =>
    rw [htake] at h
    simp only at h
    split at h
    · cases h
    · rename_i hdigits
      cases h
      have hleft : left ≠ [] := by rintro rfl; exact hne rfl
      have hblank : cs.dropWhile isBlank ≠ [] := by
        intro hnil
        rw [hnil] at htake
        cases htake
        exact hleft rfl
      rw [dropWhile_append t hblank, takeSpaced_append t htake hleft]
      simp only
      rw [if_neg hdigits, dropWhile_append t hne]

theorem readCount_nil (v : Bool) : readCount v [] = .error .badCount := by
  cases v <;> rfl

def readMost (v : Bool) (least : Nat) (cs : List Char) : Except Error (Nat × Option Nat × List Char) := do
  let (most, rest) ← readCount v cs
  match rest with
  | '}' :: rest => if least ≤ most then .ok (least, some most, rest) else .error .badCount
  | _ => .error .badCount

theorem readMost_append {least n : Nat} {most : Option Nat} {cs rest : List Char}
    (h : readMost v least cs = .ok (n, most, rest)) (t : List Char) :
    readMost v least (cs ++ t) = .ok (n, most, rest ++ t) := by
  unfold readMost at h ⊢
  cases hcount : readCount v cs with
  | error e => rw [hcount] at h; cases h
  | ok out =>
    obtain ⟨m, left⟩ := out
    rw [hcount] at h
    simp only [bind, Except.bind] at h ⊢
    split at h
    · rw [readCount_append hcount (List.cons_ne_nil _ _)]
      split at h
      · cases h
        simp only [List.cons_append]
        rw [if_pos ‹_›]
      · cases h
    · cases h

def readUpper (v : Bool) (least : Nat) (cs : List Char) : Except Error (Nat × Option Nat × List Char) :=
  match skipSpace v cs with
  | '}' :: rest => .ok (least, none, rest)
  | rest => readMost v least rest

theorem readUpper_append {least n : Nat} {most : Option Nat} {cs rest : List Char}
    (h : readUpper v least cs = .ok (n, most, rest)) (t : List Char) :
    readUpper v least (cs ++ t) = .ok (n, most, rest ++ t) := by
  unfold readUpper at h ⊢
  cases hs : skipSpace v cs with
  | nil =>
    rw [hs] at h
    simp only [readMost, readCount_nil] at h
    cases h
  | cons d after =>
    rw [skipSpace_append t (by simp [hs]), hs]
    rw [hs] at h
    by_cases hd : d = '}'
    · subst hd
      cases h; rfl
    · have hmost (cs : List Char) : (match d :: cs with
          | '}' :: rest => .ok (least, none, rest)
          | rest => readMost v least rest) = readMost v least (d :: cs) := by
        split
        · rename_i heq; cases heq; exact absurd rfl hd
        · rfl
      rw [hmost] at h
      rw [List.cons_append, hmost]
      exact readMost_append h t

theorem readCounts_comma {cs more : List Char} {least : Nat}
    (h : readCount v (skipSpace v cs) = .ok (least, ',' :: more)) :
    readCounts v cs = readUpper v least more := by
  unfold readCounts
  rw [h]
  rfl

theorem readCounts_brace {cs more : List Char} {least : Nat}
    (h : readCount v (skipSpace v cs) = .ok (least, '}' :: more)) :
    readCounts v cs = .ok (least, some least, more) := by
  unfold readCounts
  rw [h]
  rfl

theorem readCounts_other {cs left : List Char} {least : Nat} (h : readCount v (skipSpace v cs) = .ok (least, left))
    (hbrace : ∀ more, left ≠ '}' :: more) (hcomma : ∀ more, left ≠ ',' :: more) :
    readCounts v cs = .error .badCount := by
  unfold readCounts
  rw [h]
  simp only [bind, Except.bind]

theorem readCounts_append {cs rest : List Char} {least : Nat} {most : Option Nat}
    (h : readCounts v cs = .ok (least, most, rest)) (t : List Char) :
    readCounts v (cs ++ t) = .ok (least, most, rest ++ t) := by
  have hs : skipSpace v cs ≠ [] := by
    intro hnil
    unfold readCounts at h
    rw [hnil, readCount_nil] at h
    cases h
  cases hcount : readCount v (skipSpace v cs) with
  | error e =>
    unfold readCounts at h
    rw [hcount] at h
    cases h
  | ok out =>
    obtain ⟨n, left⟩ := out
    have hcount' (hleft : left ≠ []) : readCount v (skipSpace v (cs ++ t)) = .ok (n, left ++ t) := by
      rw [skipSpace_append t hs]
      exact readCount_append hcount hleft t
    rcases left with _ | ⟨c, more⟩
    · rw [readCounts_other hcount (by simp) (by simp)] at h
      cases h
    by_cases hbrace : c = '}'
    · subst hbrace
      rw [readCounts_brace hcount] at h
      rw [readCounts_brace (hcount' (List.cons_ne_nil _ _))]
      cases h; rfl
    by_cases hcomma : c = ','
    · subst hcomma
      have hcount' := hcount' (List.cons_ne_nil _ _)
      rw [List.cons_append] at hcount'
      rw [readCounts_comma hcount] at h
      rw [readCounts_comma hcount']
      exact readUpper_append h t
    · rw [readCounts_other hcount (by simp [hbrace]) (by simp [hcomma])] at h
      cases h

theorem ofCounts_greedy (min : Nat) (max : Option Nat) {cs : List Char} (h : ∀ more, cs ≠ '?' :: more) :
    Repetition.ofCounts min max cs = (⟨min, max, true⟩, cs) := by
  unfold Repetition.ofCounts
  split
  · exact absurd rfl (h _)
  · rfl

theorem ofCounts_follows (ht : Closing t) (min : Nat) (max : Option Nat) {cs cs' : List Char}
    (hc : Follows v t cs cs') :
    ∃ rest', Repetition.ofCounts min max cs' = ((Repetition.ofCounts min max cs).1, rest') ∧
      Follows v t (Repetition.ofCounts min max cs).2 rest' := by
  rcases cs with _ | ⟨c, more⟩
  · have hnil : ∀ more : List Char, [] ≠ '?' :: more := by simp
    rw [ofCounts_greedy min max hnil]
    exact ⟨cs', ofCounts_greedy min max ((hc.closing ht).ne_cons (by decide)), hc⟩
  · rw [hc.cons]
    by_cases hq : c = '?'
    · subst hq
      exact ⟨more ++ t, rfl, Follows.append v t more⟩
    · have hc : ∀ rest, c :: more ≠ '?' :: rest := by simp [hq]
      rw [ofCounts_greedy min max hc]
      exact ⟨c :: (more ++ t), ofCounts_greedy min max (by simp [hq]), Follows.append v t _⟩

theorem readRepetition?_other {c : Char} (hc : c ≠ '?' ∧ c ≠ '*' ∧ c ≠ '+' ∧ c ≠ '{') (more : List Char) :
    readRepetition? v (c :: more) = .ok none := by
  obtain ⟨h1, h2, h3, h4⟩ := hc
  unfold readRepetition?
  split
  · rename_i heq; cases heq; exact absurd rfl h1
  · rename_i heq; cases heq; exact absurd rfl h2
  · rename_i heq; cases heq; exact absurd rfl h3
  · rename_i heq; cases heq; exact absurd rfl h4
  · rfl

theorem readRepetition?_brace (v : Bool) (more : List Char) :
    readRepetition? v ('{' :: more) =
      (readCounts v more).map fun r => some (Repetition.ofCounts r.1 r.2.1 (skipSpace v r.2.2)) := rfl

/-- The operator that a text begins with is the one that the longer text begins with. -/
theorem readRepetition?_follows (ht : Closing t) {c : Char} {more : List Char} {o : Option (Repetition × List Char)}
    (h : readRepetition? v (c :: more) = .ok o) :
    (o = none ∧ readRepetition? v (c :: more ++ t) = .ok none) ∨
      ∃ r rest rest', o = some (r, rest) ∧ readRepetition? v (c :: more ++ t) = .ok (some (r, rest')) ∧
        Follows v t rest rest' := by
  have simple (min : Nat) (max : Option Nat) : ∃ r rest rest',
      some (Repetition.ofCounts min max more) = some (r, rest) ∧
        Except.ok (some (Repetition.ofCounts min max (more ++ t))) =
          (.ok (some (r, rest')) : Except Error (Option (Repetition × List Char))) ∧ Follows v t rest rest' := by
    obtain ⟨rest', heq, hf⟩ := ofCounts_follows ht min max (Follows.append v t more)
    exact ⟨(Repetition.ofCounts min max more).1, (Repetition.ofCounts min max more).2, rest', rfl, by rw [heq], hf⟩
  rw [List.cons_append]
  by_cases hc : c ≠ '?' ∧ c ≠ '*' ∧ c ≠ '+' ∧ c ≠ '{'
  · rw [readRepetition?_other hc] at h
    cases h
    exact Or.inl ⟨rfl, readRepetition?_other hc _⟩
  right
  by_cases h1 : c = '?'
  · subst h1; cases h; exact simple 0 (some 1)
  by_cases h2 : c = '*'
  · subst h2; cases h; exact simple 0 none
  by_cases h3 : c = '+'
  · subst h3; cases h; exact simple 1 none
  by_cases h4 : c = '{'
  · subst h4
    rw [readRepetition?_brace] at h ⊢
    cases hcounts : readCounts v more with
    | error e => rw [hcounts] at h; cases h
    | ok out =>
      obtain ⟨least, most, rest⟩ := out
      rw [hcounts] at h
      rw [readCounts_append hcounts t]
      cases h
      obtain ⟨rest', heq, hf⟩ := ofCounts_follows ht least most (Follows.append v t rest).skipSpace
      let o := Repetition.ofCounts least most (skipSpace v rest)
      exact ⟨o.1, o.2, rest', rfl, by simp only [Except.map, heq, o], hf⟩
  · exact absurd ⟨h1, h2, h3, h4⟩ hc

/-! ## Groups -/

theorem readFlags_append {negated dangling colon : Bool} {changes out : List (Flag × Bool)} {cs rest : List Char}
    (h : readFlags negated dangling changes cs = .ok (out, colon, rest)) (t : List Char) :
    readFlags negated dangling changes (cs ++ t) = .ok (out, colon, rest ++ t) := by
  induction cs generalizing negated dangling changes with
  | nil => cases h
  | cons c cs ih =>
    simp only [List.cons_append, readFlags] at h ⊢
    split at h
    · rw [if_pos ‹_›]
      split at h
      · cases h
      · rw [if_neg ‹_›]
        cases h; rfl
    · rw [if_neg ‹_›]
      split at h
      · rw [if_pos ‹_›]
        split at h
        · cases h
        · rw [if_neg ‹_›]
          exact ih h
      · rw [if_neg ‹_›]
        cases hf : Flag.ofChar? c with
        | none => rw [hf] at h; cases h
        | some f =>
          rw [hf] at h
          simp only at h ⊢
          split at h
          · cases h
          · rw [if_neg ‹_›]
            exact ih h

theorem readName_append {names : List String} {cs rest : List Char} {name : String}
    (h : readName names cs = .ok (name, rest)) (t : List Char) : readName names (cs ++ t) = .ok (name, rest ++ t) := by
  unfold readName at h ⊢
  cases hd : cs.dropWhile (· ≠ '>') with
  | nil => rw [hd] at h; cases h
  | cons c after =>
    have hne : cs.dropWhile (· ≠ '>') ≠ [] := by rw [hd]; exact List.cons_ne_nil c after
    rw [dropWhile_append t hne, takeWhile_append t hne, hd]
    rw [hd] at h
    simp only [List.cons_append] at h ⊢
    cases hw : cs.takeWhile (· ≠ '>') with
    | nil => rw [hw] at h; cases h
    | cons d more =>
      rw [hw] at h
      simp only at h ⊢
      split at h
      · cases h
      · rw [if_neg ‹_›]
        split at h
        · cases h
        · rw [if_neg ‹_›]
          cases h; rfl

def openNamed (st : State) (cs : List Char) : Except Error (Opening × State × List Char) :=
  (readName st.names cs).map fun r =>
    (.group (.capture (st.groups + 1) (some r.1)), { st with groups := st.groups + 1, names := r.1 :: st.names }, r.2)

theorem openNamed_append {st st' : State} {o : Opening} {cs rest : List Char}
    (h : openNamed st cs = .ok (o, st', rest)) (t : List Char) : openNamed st (cs ++ t) = .ok (o, st', rest ++ t) := by
  unfold openNamed at h ⊢
  cases hname : readName st.names cs with
  | error e => rw [hname] at h; cases h
  | ok out =>
    obtain ⟨name, after⟩ := out
    rw [hname] at h
    rw [readName_append hname t]
    cases h; rfl

def openFlags (st : State) (cs : List Char) : Except Error (Opening × State × List Char) :=
  match readFlags false false [] cs with
  | .error e => .error e
  | .ok (changes, true, rest) => .ok (.group (.plain changes), st, rest)
  | .ok ([], false, _) => .error .nothingToRepeat
  | .ok (changes, false, rest) => .ok (.flags changes, st, rest)

theorem openFlags_append {st st' : State} {o : Opening} {cs rest : List Char}
    (h : openFlags st cs = .ok (o, st', rest)) (t : List Char) : openFlags st (cs ++ t) = .ok (o, st', rest ++ t) := by
  unfold openFlags at h ⊢
  cases hflags : readFlags false false [] cs with
  | error e => rw [hflags] at h; cases h
  | ok out =>
    obtain ⟨changes, colon, after⟩ := out
    rw [hflags] at h
    rw [readFlags_append hflags t]
    cases colon with
    | true => cases h; rfl
    | false =>
      cases changes with
      | nil => cases h
      | cons change changes => cases h; rfl

def openMarked (st : State) (cs : List Char) : Except Error (Opening × State × List Char) :=
  if cs.head? = some '=' ∨ cs.head? = some '!' then .error .lookAround
  else if cs.head? = some '<' then
    if cs.tail.head? = some '=' ∨ cs.tail.head? = some '!' then .error .lookAround else openNamed st cs.tail
  else if cs.take 2 = ['P', '<'] then openNamed st (cs.drop 2)
  else openFlags st cs

theorem head?_ne {cs : List Char} {c : Char} (h : ∀ more, cs = c :: more → False) : cs.head? ≠ some c := by
  intro hhead
  obtain ⟨more, heq⟩ := List.head?_eq_some_iff.mp hhead
  exact h more heq

theorem openGroup_eq (st : State) (cs : List Char) :
    openGroup st cs =
      if (skipSpace st.verbose cs).head? = some '?' then openMarked st (skipSpace st.verbose cs).tail
      else .ok (.group (.capture (st.groups + 1) none), { st with groups := st.groups + 1 }, skipSpace st.verbose cs) := by
  unfold openGroup
  dsimp only
  split
  · rename_i heq; rw [heq]; rfl
  · rename_i heq; rw [heq]; rfl
  · rename_i heq; rw [heq]; rfl
  · rename_i heq; rw [heq]; rfl
  · rename_i heq; rw [heq]; rfl
  · rename_i h1 h2 heq
    simp only [heq, List.head?_cons, List.tail_cons, if_true]
    rw [openMarked, List.head?_cons, if_neg (by simp), if_pos rfl, List.tail_cons,
      if_neg (not_or.mpr ⟨head?_ne h1, head?_ne h2⟩)]
    rfl
  · rename_i more h1 h2 h3 h4 h5 h6 heq
    simp only [heq, List.head?_cons, List.tail_cons, if_true]
    rw [openMarked, if_neg (not_or.mpr ⟨head?_ne h1, head?_ne h2⟩), if_neg (head?_ne h6), if_neg]
    · rfl
    · intro htake
      exact h5 (more.drop 2) (by rw [← List.take_append_drop 2 more, htake]; rfl)
  · rename_i h
    rw [if_neg (head?_ne h)]

theorem openMarked_append (ht : Closing t) {st st' : State} {o : Opening} {cs rest : List Char}
    (h : openMarked st cs = .ok (o, st', rest)) : openMarked st (cs ++ t) = .ok (o, st', rest ++ t) := by
  rcases cs with _ | ⟨c, more⟩
  · cases h
  unfold openMarked at h ⊢
  have hhead : (c :: more ++ t).head? = (c :: more).head? := rfl
  rw [hhead]
  split at h
  · cases h
  · rw [if_neg ‹_›]
    split at h
    · rw [if_pos ‹_›]
      split at h
      · cases h
      · rename_i hlook
        rcases more with _ | ⟨d, more⟩
        · cases h
        · rw [if_neg (by exact hlook)]
          exact openNamed_append h t
    · rw [if_neg ‹_›]
      have htake : (c :: more ++ t).take 2 = ['P', '<'] ↔ (c :: more).take 2 = ['P', '<'] := by
        rcases more with _ | ⟨d, more⟩
        · have hsign := head?_ne (ht.ne_cons (c := '<') (by decide))
          cases t <;> simp_all
        · rfl
      split at h
      · rename_i hname
        rw [if_pos (htake.mpr hname)]
        rcases more with _ | ⟨d, more⟩
        · cases hname
        · exact openNamed_append h t
      · rename_i hname
        rw [if_neg (hname ∘ htake.mp)]
        exact openFlags_append h t

/-- The group that a text begins is the one that the longer text begins. -/
theorem openGroup_follows (ht : Closing t) {st st' : State} {o : Opening} {cs rest : List Char}
    (h : openGroup st cs = .ok (o, st', rest)) :
    ∃ rest', openGroup st (cs ++ t) = .ok (o, st', rest') ∧
      (rest' = rest ++ t ∨ rest = [] ∧ ∃ kind, o = .group kind) := by
  have hskip := (Follows.append st.verbose t cs).skipSpace
  rw [openGroup_eq] at h ⊢
  cases hs : skipSpace st.verbose cs with
  | nil =>
    rw [hs] at h hskip
    cases h
    exact ⟨skipSpace st.verbose (cs ++ t), if_neg (head?_ne ((hskip.closing ht).ne_cons (by decide))),
      Or.inr ⟨rfl, _, rfl⟩⟩
  | cons c more =>
    rw [hs] at h hskip
    rw [hskip.cons]
    by_cases hq : c = '?'
    · subst hq
      simp only [List.head?_cons, List.tail_cons, if_true] at h ⊢
      exact ⟨_, openMarked_append ht h, Or.inl rfl⟩
    · have hhead (cs : List Char) : (c :: cs).head? ≠ some '?' := by simp [hq]
      rw [if_neg (hhead more)] at h
      rw [if_neg (hhead (more ++ t))]
      cases h
      exact ⟨_, rfl, Or.inl rfl⟩

/-! ## Patterns -/

theorem readPrimitive_other {c : Char} (hc : c ≠ '\\' ∧ c ≠ '.' ∧ c ≠ '^' ∧ c ≠ '$') (rest : List Char) :
    readPrimitive v (c :: rest) = .ok (.literal ⟨c, false⟩, rest) := by
  obtain ⟨h1, h2, h3, h4⟩ := hc
  unfold readPrimitive
  split
  · rename_i heq; cases heq
  · rename_i heq; cases heq; exact absurd rfl h1
  · rename_i heq; cases heq; exact absurd rfl h2
  · rename_i heq; cases heq; exact absurd rfl h3
  · rename_i heq; cases heq; exact absurd rfl h4
  · rename_i heq; cases heq; rfl

theorem readPrimitive_follows (ht : Closing t) {cs rest : List Char} {a : Ast}
    (h : readPrimitive v cs = .ok (a, rest)) :
    ∃ rest', readPrimitive v (cs ++ t) = .ok (a, rest') ∧ Follows v t rest rest' := by
  rcases cs with _ | ⟨c, cs⟩
  · cases h
  by_cases h1 : c = '\\'
  · subst h1
    exact readEscape_follows ht h
  by_cases h2 : c = '.'
  · subst h2; cases h
    exact ⟨_, rfl, Follows.append v t _⟩
  by_cases h3 : c = '^'
  · subst h3; cases h
    exact ⟨_, rfl, Follows.append v t _⟩
  by_cases h4 : c = '$'
  · subst h4; cases h
    exact ⟨_, rfl, Follows.append v t _⟩
  · rw [readPrimitive_other ⟨h1, h2, h3, h4⟩] at h
    cases h
    exact ⟨_, readPrimitive_other ⟨h1, h2, h3, h4⟩ _, Follows.append v t _⟩

def readGroup (fuel : Nat) (st : State) (level : Level) (cs : List Char) : Except Error (Ast × State × List Char) :=
  match openGroup st cs with
  | .error e => .error e
  | .ok (.flags changes, st, rest) =>
    readLevel fuel { st with verbose := verboseAfter st.verbose changes } (level.push (.flags changes)) rest
  | .ok (.group kind, st, rest) =>
    match readLevel fuel { st with verbose := kind.verbose st.verbose } {} rest with
    | .error e => .error e
    | .ok (body, inner, ')' :: rest) =>
      readLevel fuel { inner with verbose := st.verbose } (level.push (.group kind body)) rest
    | .ok _ => .error .groupUnclosed

def readClass (fuel : Nat) (st : State) (level : Level) (cs : List Char) : Except Error (Ast × State × List Char) :=
  match openSet st.verbose cs with
  | .error e => .error e
  | .ok (negated, first, rest) =>
    match readSet st.verbose fuel none first.reverse rest with
    | .error e => .error e
    | .ok (body, rest) => readLevel fuel st (level.push (.set negated body)) rest

def readItem (fuel : Nat) (st : State) (level : Level) (cs : List Char) : Except Error (Ast × State × List Char) :=
  match readRepetition? st.verbose cs with
  | .error e => .error e
  | .ok (some (r, rest)) =>
    match level.repeatLast r with
    | .error e => .error e
    | .ok level => readLevel fuel st level rest
  | .ok none =>
    match readPrimitive st.verbose cs with
    | .error e => .error e
    | .ok (a, rest) => readLevel fuel st (level.push a) rest

theorem readLevel_eq (fuel : Nat) (st : State) (level : Level) (cs : List Char) :
    readLevel (fuel + 1) st level cs =
      match skipSpace st.verbose cs with
      | [] => .ok (level.close, st, [])
      | c :: more =>
        if c = ')' then .ok (level.close, st, c :: more)
        else if c = '|' then readLevel fuel st level.nextBranch more
        else if c = '(' then readGroup fuel st level more
        else if c = '[' then readClass fuel st level more
        else readItem fuel st level (c :: more) := by
  rw [readLevel]
  split
  · rename_i heq; rw [heq]
  · rename_i heq; rw [heq]; rfl
  · rename_i heq; rw [heq]; rfl
  · rename_i heq; rw [heq]; rfl
  · rename_i heq; rw [heq]; rfl
  · rename_i h0 h1 h2 h3 h4
    cases hs : skipSpace st.verbose cs with
    | nil => exact absurd hs h0
    | cons c more =>
      have h1 : c ≠ ')' := by rintro rfl; exact h1 more hs
      have h2 : c ≠ '|' := by rintro rfl; exact h2 more hs
      have h3 : c ≠ '(' := by rintro rfl; exact h3 more hs
      have h4 : c ≠ '[' := by rintro rfl; exact h4 more hs
      simp only [h1, h2, h3, h4, if_false]
      rfl

theorem skipSpace_skipSpace (v : Bool) (cs : List Char) : skipSpace v (skipSpace v cs) = skipSpace v cs := by
  cases v with
  | false => rfl
  | true => exact skipVerbose_skipVerbose false cs

theorem readLevel_skipSpace (fuel : Nat) (st : State) (level : Level) (cs : List Char) :
    readLevel fuel st level (skipSpace st.verbose cs) = readLevel fuel st level cs := by
  cases fuel with
  | zero => rfl
  | succ fuel => rw [readLevel_eq, readLevel_eq, skipSpace_skipSpace]

theorem readLevel_nil (fuel : Nat) (st : State) (level : Level) :
    readLevel (fuel + 1) st level [] = .ok (level.close, st, []) := by
  have hnil : skipSpace st.verbose [] = [] := by cases st.verbose <;> rfl
  rw [readLevel_eq, hnil]

/-- Read with `t` behind it, a level that ends at its closing parenthesis ends there again. A level
    that ends with the pattern goes on reading behind it, with everything that was read before. -/
def Continued (t : List Char) (d : Nat) (x x' : Except Error (Ast × State × List Char)) : Prop :=
  ∀ a st rest, x = .ok (a, st, rest) →
    (rest ≠ [] ∧ x' = .ok (a, st, rest ++ t)) ∨
      (rest = [] ∧ ∃ n last u, a = last.close ∧ x' = readLevel (n + 1 + d) st last u ∧ Follows st.verbose t [] u)

section Levels

variable {fuel d : Nat} (ht : Closing t)
variable (hlevel : ∀ st level cs cs', Follows st.verbose t cs cs' →
  Continued t d (readLevel fuel st level cs) (readLevel (fuel + d) st level cs'))

include ht hlevel

theorem readGroup_follows (st : State) (level : Level) (cs : List Char) :
    Continued t d (readGroup fuel st level cs) (readGroup (fuel + d) st level (cs ++ t)) := by
  intro a st' rest h
  unfold readGroup at h ⊢
  cases hopen : openGroup st cs with
  | error e => rw [hopen] at h; cases h
  | ok out =>
    obtain ⟨o, st₁, after⟩ := out
    obtain ⟨after', hopen', hafter⟩ := openGroup_follows ht hopen
    rw [hopen] at h
    rw [hopen']
    cases o with
    | flags changes =>
      obtain rfl : after' = after ++ t := by
        rcases hafter with hafter | ⟨-, kind, hkind⟩
        · exact hafter
        · cases hkind
      exact hlevel _ _ _ _ (Follows.append _ t after) a st' rest h
    | group kind =>
      simp only at h ⊢
      cases hbody : readLevel fuel { st₁ with verbose := kind.verbose st₁.verbose } {} after with
      | error e => rw [hbody] at h; cases h
      | ok out =>
        obtain ⟨body, inner, left⟩ := out
        rw [hbody] at h
        split at h
        · rename_i heq; cases heq
        · rename_i heq
          cases heq
          -- the group ends in the pattern, and so begins in it
          have hafter' : after' = after ++ t := by
            rcases hafter with hafter | ⟨rfl, -⟩
            · exact hafter
            · cases fuel with
              | zero => cases hbody
              | succ fuel => rw [readLevel_nil] at hbody; cases hbody
          rcases hlevel _ _ _ _ (Follows.append _ t after) _ _ _ hbody with ⟨-, hbody'⟩ | ⟨hnil, -⟩
          · rw [hafter', hbody']
            exact hlevel _ _ _ _ (Follows.append _ t _) a st' rest h
          · cases hnil
        · cases h

theorem readClass_follows (st : State) (level : Level) (cs : List Char) :
    Continued t d (readClass fuel st level cs) (readClass (fuel + d) st level (cs ++ t)) := by
  intro a st' rest h
  unfold readClass at h ⊢
  cases hopen : openSet st.verbose cs with
  | error e => rw [hopen] at h; cases h
  | ok out =>
    obtain ⟨negated, first, after⟩ := out
    rw [hopen] at h
    rw [openSet_append hopen t]
    simp only at h ⊢
    cases hset : readSet st.verbose fuel none first.reverse after with
    | error e => rw [hset] at h; cases h
    | ok out =>
      obtain ⟨body, left⟩ := out
      rw [hset] at h
      rw [readSet_follows ht hset (Follows.append _ t after) d]
      exact hlevel _ _ _ _ (Follows.append _ t left) a st' rest h

theorem readItem_follows (st : State) (level : Level) (c : Char) (more : List Char) :
    Continued t d (readItem fuel st level (c :: more)) (readItem (fuel + d) st level (c :: more ++ t)) := by
  intro a st' rest h
  unfold readItem at h ⊢
  cases hrep : readRepetition? st.verbose (c :: more) with
  | error e => rw [hrep] at h; cases h
  | ok o =>
    rw [hrep] at h
    rcases readRepetition?_follows ht hrep with ⟨rfl, hrep'⟩ | ⟨r, after, after', rfl, hrep', hafter⟩
    · rw [hrep']
      simp only at h ⊢
      cases hprim : readPrimitive st.verbose (c :: more) with
      | error e => rw [hprim] at h; cases h
      | ok out =>
        obtain ⟨b, after⟩ := out
        obtain ⟨after', hprim', hafter⟩ := readPrimitive_follows ht hprim
        rw [hprim] at h
        rw [hprim']
        exact hlevel _ _ _ _ hafter a st' rest h
    · rw [hrep']
      simp only at h ⊢
      cases hlast : level.repeatLast r with
      | error e => rw [hlast] at h; cases h
      | ok level₁ =>
        rw [hlast] at h
        exact hlevel _ _ _ _ hafter a st' rest h

end Levels

theorem readLevel_follows (ht : Closing t) (d fuel : Nat) (st : State) (level : Level) (cs cs' : List Char)
    (hc : Follows st.verbose t cs cs') :
    Continued t d (readLevel fuel st level cs) (readLevel (fuel + d) st level cs') := by
  induction fuel generalizing st level cs cs' with
  | zero => intro a st' rest h; cases h
  | succ fuel ih =>
    intro a st' rest h
    have hc' := hc.skipSpace
    cases hs : skipSpace st.verbose cs with
    | nil =>
      rw [hs] at hc'
      rw [← readLevel_skipSpace, hs, readLevel_nil] at h
      cases h
      exact Or.inr ⟨rfl, fuel, level, skipSpace st.verbose cs', rfl, (readLevel_skipSpace _ _ _ _).symm, hc'⟩
    | cons c more =>
      rw [hs] at hc'
      rw [readLevel_eq, hs] at h
      rw [Nat.add_right_comm, readLevel_eq, hc'.cons]
      simp only at h ⊢
      split at h
      · rw [if_pos ‹_›]
        cases h
        exact Or.inl ⟨List.cons_ne_nil _ _, rfl⟩
      rw [if_neg ‹_›]
      split at h
      · rw [if_pos ‹_›]
        exact ih _ _ _ _ (Follows.append _ t more) a st' rest h
      rw [if_neg ‹_›]
      split at h
      · rw [if_pos ‹_›]
        exact readGroup_follows ht ih st level more a st' rest h
      rw [if_neg ‹_›]
      split at h
      · rw [if_pos ‹_›]
        exact readClass_follows ht ih st level more a st' rest h
      · rw [if_neg ‹_›]
        exact readItem_follows ht ih st level c more a st' rest h

/-- More fuel changes nothing for a level that was read. -/
theorem readLevel_fuel {fuel : Nat} {st st' : State} {level : Level} {cs rest : List Char} {a : Ast}
    (h : readLevel fuel st level cs = .ok (a, st', rest)) (d : Nat) :
    readLevel (fuel + d) st level cs = .ok (a, st', rest) := by
  have hnone : Closing [] := by simp [Closing]
  have hsame : Follows st.verbose [] cs cs := Or.inl (List.append_nil cs).symm
  rcases readLevel_follows hnone d fuel st level cs cs hsame a st' rest h with ⟨-, h'⟩ | ⟨rfl, n, last, u, rfl, h', hu⟩
  · rw [h', List.append_nil]
  · have hu : u = [] := by
      rcases hu with rfl | ⟨-, -, inComment, rfl⟩ <;> rfl
    rw [h', hu, Nat.add_right_comm, readLevel_nil]

/-! ## A pattern between brackets -/

theorem read_eq_ok {text : List Char} {a : Ast} (h : Ast.read v text = .ok a) :
    a.depth ≤ maxDepth ∧ ∃ st, readLevel (text.length + 1) { verbose := v } {} text = .ok (a, st, []) := by
  unfold Ast.read at h
  split at h
  · cases h
  · cases h
  · rename_i st hread
    split at h
    · cases h
    · cases h
      exact ⟨by omega, st, hread⟩

theorem skipSpace_cons {c : Char} (hblank : isBlank c = false) (hsharp : c ≠ '#') (v : Bool) (rest : List Char) :
    skipSpace v (c :: rest) = c :: rest := by
  cases v with
  | false => rfl
  | true => simp [skipSpace, skipVerbose, hblank, hsharp]

theorem skipSpace_bracket (v : Bool) : skipSpace v [')'] = [')'] := skipSpace_cons (by decide) (by decide) v []

theorem readLevel_bracket (fuel : Nat) (st : State) (level : Level) :
    readLevel (fuel + 1) st level [')'] = .ok (level.close, st, [')']) := by
  rw [readLevel_eq, skipSpace_bracket]
  rfl

/-- Behind the end of a pattern a bracket stands, or verbose mode has taken it into a comment. -/
theorem Follows.bracket {u : List Char} (h : Follows v [')'] [] u) : u = [')'] ∨ u = [] ∧ v = true := by
  rcases h with rfl | ⟨hv, -, inComment, rfl⟩
  · exact Or.inl rfl
  · cases inComment with
    | false => exact Or.inl (skipSpace_bracket true)
    | true => exact Or.inr ⟨rfl, hv⟩

/-- A closing bracket behind the pattern goes unnoticed: a comment takes it in. -/
def endsInComment (verbose : Bool) (text : List Char) : Bool := (Ast.read verbose (text ++ [')'])).isOk

/-- A tree that was read alone is read with a bracket behind it, which is left unless a comment takes
    it in. -/
theorem readLevel_bracketed {text : List Char} {a : Ast} {st : State} (hdepth : a.depth ≤ maxDepth)
    (ha : readLevel (text.length + 1) { verbose := v } {} text = .ok (a, st, [])) (d : Nat) :
    readLevel (text.length + 2 + d) { verbose := v } {} (text ++ [')']) =
        .ok (a, st, if endsInComment v text then [] else [')']) ∧
      (endsInComment v text = true → st.verbose = true) := by
  have hclosing : Closing [')'] := by simp [Closing]
  rcases readLevel_follows hclosing 1 _ _ _ _ _ (Follows.append v [')'] text) _ _ _ ha with
    ⟨hne, -⟩ | ⟨-, n, last, u, rfl, hread, hu⟩
  · exact absurd rfl hne
  have hend : readLevel (text.length + 2) { verbose := v } {} (text ++ [')']) = .ok (last.close, st, u) := by
    rcases hu.bracket with rfl | ⟨rfl, -⟩
    · exact hread.trans (readLevel_bracket _ st last)
    · exact hread.trans (readLevel_nil _ st last)
  have hcomment : endsInComment v text = u.isEmpty := by
    rw [endsInComment, Ast.read, List.length_append, List.length_singleton, hend]
    rcases hu.bracket with rfl | ⟨rfl, -⟩
    · rfl
    · simp only [if_neg (Nat.not_lt.mpr hdepth)]; rfl
  rw [hcomment]
  rcases hu.bracket with rfl | ⟨rfl, hv⟩
  · exact ⟨readLevel_fuel hend d, fun h => by cases h⟩
  · exact ⟨readLevel_fuel hend d, fun _ => hv⟩

def tied (text : List Char) : List Char := '\\' :: 'A' :: '(' :: '?' :: ':' :: (text ++ [')'])

def startLevel : Level := { items := [.assertion .textStart] }

theorem readLevel_tied (fuel : Nat) (st : State) (text : List Char) :
    readLevel (fuel + 2) st {} (tied text) =
      match readLevel fuel st {} (text ++ [')']) with
      | .error e => .error e
      | .ok (body, inner, ')' :: rest) =>
        readLevel fuel { inner with verbose := st.verbose } (startLevel.push (.group (.plain []) body)) rest
      | .ok _ => .error .groupUnclosed := by
  have hslash (rest : List Char) := skipSpace_cons (c := '\\') (by decide) (by decide) st.verbose rest
  have hparen (rest : List Char) := skipSpace_cons (c := '(') (by decide) (by decide) st.verbose rest
  have hmark (rest : List Char) := skipSpace_cons (c := '?') (by decide) (by decide) st.verbose rest
  have hitem (rest : List Char) :
      readItem (fuel + 1) st {} ('\\' :: 'A' :: rest) = readLevel (fuel + 1) st startLevel rest := rfl
  have hgroup (rest : List Char) : openGroup st ('?' :: ':' :: rest) = .ok (.group (.plain []), st, rest) := by
    rw [openGroup_eq, hmark]
    rfl
  rw [tied, readLevel_eq, hslash]
  simp only [Char.reduceEq, if_false]
  rw [hitem, readLevel_eq, hparen]
  simp only [Char.reduceEq, if_false, if_true]
  rw [readGroup, hgroup]
  rfl

/-- A tree that was read alone is read between brackets as the group of it. A comment at its end
    takes the bracket in; the group lies two levels deeper than its body. -/
theorem read_tied {text : List Char} {a : Ast} (ha : Ast.read v text = .ok a) :
    Ast.read v (tied text) =
      if endsInComment v text then .error .groupUnclosed
      else if maxDepth < a.depth + 2 then .error .tooDeep
      else .ok (.cat [.assertion .textStart, .group (.plain []) a]) := by
  obtain ⟨hdepth, st, ha⟩ := read_eq_ok ha
  have hlen : (tied text).length + 1 = text.length + 2 + 3 + 2 := by simp [tied]
  rw [Ast.read, hlen, readLevel_tied, (readLevel_bracketed hdepth ha 3).1]
  cases endsInComment v text with
  | true => rfl
  | false =>
    have hclose : (startLevel.push (.group (.plain []) a)).close =
        .cat [.assertion .textStart, .group (.plain []) a] := rfl
    have hcat : (Ast.cat [.assertion .textStart, .group (.plain []) a]).depth = a.depth + 2 := by
      simp [Ast.depth, Ast.depthAll]
    simp only [Bool.false_eq_true, if_false, readLevel_nil, hclose, hcat]

end LineRules.Pattern
