/-
  LineRules.Proofs.DottedPaths — how the text of a path is read.

  A dot separates segments if no brace is open before it. So it is enough to know, of a text, how
  many braces are open behind it (`depthAfter`) and that none of its dots separates (`Whole`): a whole
  text behind which no brace is open is cut off by a dot that follows it (`cutDots_append_dot`), and
  segments of this kind, joined by dots, are cut apart again (`splitDotted_intercalate`). The other way
  round, each piece that cutting yields is whole, and all but the last leave no brace open
  (`cutDots_eq_cons`); joined by dots again the pieces are the text (`intercalate_cutDots`).

  The first segment may begin with the sign of a buffer. `bufferSign?_cases` says once what can be
  read there; the sign of a buffer, written without white space, is read as this buffer again
  (`bufferSign?_sign`), and its braces are those of the segment (`sign_of_bufferSign?`).
-/

import LineRules.Path
import LineRules.Proofs.Characters

namespace LineRules.PathText

/-- The number of open braces behind a character, with `depth` of them before it. -/
def depthStep (depth : Nat) (c : Char) : Nat :=
  if c = '{' then depth + 1 else if c = '}' then depth - 1 else depth

def depthAfter (depth : Nat) (cs : List Char) : Nat := cs.foldl depthStep depth

/-- No dot of the text separates segments. -/
def Whole (depth : Nat) : List Char → Prop
  | [] => True
  | c :: cs => ¬(c = '.' ∧ depth = 0) ∧ Whole (depthStep depth c) cs

theorem depthAfter_append (depth : Nat) (cs ds : List Char) :
    depthAfter depth (cs ++ ds) = depthAfter (depthAfter depth cs) ds := List.foldl_append

theorem whole_append {depth : Nat} {cs ds : List Char} :
    Whole depth (cs ++ ds) ↔ Whole depth cs ∧ Whole (depthAfter depth cs) ds := by
  induction cs generalizing depth with
  | nil => simp [Whole, depthAfter]
  | cons c cs ih => simp only [List.cons_append, Whole, ih, depthAfter, List.foldl_cons, and_assoc]

/-- Neither dots nor braces. -/
def Neutral (cs : List Char) : Prop := ∀ c ∈ cs, c ≠ '.' ∧ c ≠ '{' ∧ c ≠ '}'

theorem depthAfter_of_neutral {cs : List Char} (h : Neutral cs) (depth : Nat) : depthAfter depth cs = depth := by
  induction cs with
  | nil => rfl
  | cons c cs ih =>
    obtain ⟨-, hopen, hclose⟩ := h c List.mem_cons_self
    have hstep : depthStep depth c = depth := by rw [depthStep, if_neg hopen, if_neg hclose]
    rw [depthAfter, List.foldl_cons, hstep]
    exact ih fun d hd => h d (List.mem_cons_of_mem c hd)

theorem whole_of_neutral {cs : List Char} (h : Neutral cs) (depth : Nat) : Whole depth cs := by
  induction cs generalizing depth with
  | nil => exact trivial
  | cons c cs ih =>
    exact ⟨fun hc => (h c List.mem_cons_self).1 hc.1, ih (fun d hd => h d (List.mem_cons_of_mem c hd)) _⟩

/-! ## Cutting -/

theorem cutDots_dot (rest : List Char) : cutDots 0 ('.' :: rest) = [] :: cutDots 0 rest := by
  rw [cutDots, if_pos ⟨rfl, rfl⟩]

theorem cutDots_ne_nil (depth : Nat) (cs : List Char) : cutDots depth cs ≠ [] := by
  cases cs with
  | nil => simp [cutDots]
  | cons c rest => simp only [cutDots]; split <;> (try split) <;> simp

theorem cutDots_cons {depth : Nat} {c : Char} (h : ¬(c = '.' ∧ depth = 0)) {rest piece : List Char}
    {pieces : List (List Char)} (hrest : cutDots (depthStep depth c) rest = piece :: pieces) :
    cutDots depth (c :: rest) = (c :: piece) :: pieces := by
  rw [depthStep] at hrest
  rw [cutDots, if_neg h, hrest]

/-- A whole text goes in front of the first piece of what follows it. -/
theorem cutDots_append {depth : Nat} {cs : List Char} (h : Whole depth cs) {rest piece : List Char}
    {pieces : List (List Char)} (hrest : cutDots (depthAfter depth cs) rest = piece :: pieces) :
    cutDots depth (cs ++ rest) = (cs ++ piece) :: pieces := by
  induction cs generalizing depth with
  | nil => exact hrest
  | cons c cs ih => exact cutDots_cons h.1 (ih h.2 hrest)

theorem cutDots_of_whole {depth : Nat} {cs : List Char} (h : Whole depth cs) : cutDots depth cs = [cs] := by
  have hend : cutDots (depthAfter depth cs) [] = [[]] := rfl
  have hcut := cutDots_append h hend
  simpa using hcut

/-- A dot behind a whole text that leaves no brace open cuts the text off. -/
theorem cutDots_append_dot {depth : Nat} {cs : List Char} (h : Whole depth cs) (hdepth : depthAfter depth cs = 0)
    (rest : List Char) : cutDots depth (cs ++ '.' :: rest) = cs :: cutDots 0 rest := by
  have hrest : cutDots (depthAfter depth cs) ('.' :: rest) = [] :: cutDots 0 rest := by
    rw [hdepth, cutDots_dot]
  have hcut := cutDots_append h hrest
  rwa [List.append_nil] at hcut

/-- What is cut and put together again is the same text. -/
theorem intercalate_cutDots (depth : Nat) (cs : List Char) : ['.'].intercalate (cutDots depth cs) = cs := by
  induction cs generalizing depth with
  | nil => rfl
  | cons c cs ih =>
    by_cases hdot : c = '.' ∧ depth = 0
    · obtain ⟨rfl, rfl⟩ := hdot
      rw [cutDots_dot, List.intercalate_cons_of_ne_nil (cutDots_ne_nil 0 cs), ih]
      rfl
    · obtain ⟨piece, pieces, hcut⟩ := List.exists_cons_of_ne_nil (cutDots_ne_nil (depthStep depth c) cs)
      have hrest := ih (depthStep depth c)
      rw [hcut] at hrest
      rw [cutDots_cons hdot hcut]
      cases pieces with
      | nil => simpa using hrest
      | cons p pieces =>
        rw [List.intercalate_cons_cons] at hrest ⊢
        rw [← hrest]
        rfl

/-- Each piece is whole, and one that a dot cut off leaves no brace open. -/
theorem cutDots_eq_cons {depth : Nat} {cs piece : List Char} {pieces : List (List Char)}
    (h : cutDots depth cs = piece :: pieces) :
    Whole depth piece ∧ (pieces ≠ [] → depthAfter depth piece = 0) := by
  induction cs generalizing depth piece pieces with
  | nil =>
    rw [cutDots, List.cons.injEq] at h
    rw [← h.1, ← h.2]
    exact ⟨trivial, fun hne => absurd rfl hne⟩
  | cons c rest ih =>
    by_cases hdot : c = '.' ∧ depth = 0
    · rw [cutDots, if_pos hdot, List.cons.injEq] at h
      rw [← h.1]
      exact ⟨trivial, fun _ => hdot.2⟩
    · obtain ⟨piece', pieces', hrest⟩ := List.exists_cons_of_ne_nil (cutDots_ne_nil (depthStep depth c) rest)
      rw [cutDots_cons hdot hrest, List.cons.injEq] at h
      obtain ⟨hwhole, hdepth⟩ := ih hrest
      rw [← h.1, ← h.2]
      exact ⟨⟨hdot, hwhole⟩, hdepth⟩

theorem cutDots_intercalate {pieces : List (List Char)} (hne : pieces ≠ []) (hwhole : ∀ p ∈ pieces, Whole 0 p)
    (hdepth : ∀ p ∈ pieces.dropLast, depthAfter 0 p = 0) : cutDots 0 (['.'].intercalate pieces) = pieces := by
  induction pieces with
  | nil => exact absurd rfl hne
  | cons p pieces ih =>
    have hp : Whole 0 p := hwhole p List.mem_cons_self
    cases pieces with
    | nil => rw [List.intercalate_singleton, cutDots_of_whole hp]
    | cons q pieces =>
      have hrest := ih (by simp) (fun r hr => hwhole r (List.mem_cons_of_mem p hr))
        fun r hr => hdepth r (List.mem_cons_of_mem p hr)
      rw [List.intercalate_cons_cons, List.append_assoc, List.singleton_append,
        cutDots_append_dot hp (hdepth p List.mem_cons_self), hrest]

theorem splitDotted_intercalate {parts : List String} (hne : parts ≠ []) (hwhole : ∀ s ∈ parts, Whole 0 s.toList)
    (hdepth : ∀ s ∈ parts.dropLast, depthAfter 0 s.toList = 0) :
    splitDotted (String.intercalate "." parts) = parts := by
  have hcut : cutDots 0 (['.'].intercalate (parts.map String.toList)) = parts.map String.toList := by
    apply cutDots_intercalate
    · simpa using hne
    · simpa using hwhole
    · simpa [← List.map_dropLast] using hdepth
  have hchars : (String.intercalate "." parts).toList = ['.'].intercalate (parts.map String.toList) :=
    String.toList_intercalate
  rw [splitDotted, hchars, hcut, List.map_map]
  simp

end LineRules.PathText

/-! ## The sign of a buffer -/

namespace LineRules

/-- A buffer has a name without white space around it, and the name of one that is started anew does not
    begin as a second sign would. -/
def Root.Named : Root → Prop
  | .tree => True
  | .buffer name mode => name ≠ "" ∧ Unicode.trimChars name.toList = name.toList ∧
      (mode = .fresh → name.toList.head? ≠ some '>')

namespace Path

open PathText (Whole Neutral depthAfter whole_append depthAfter_append whole_of_neutral depthAfter_of_neutral)
open Unicode (isBlank trimChars)

/-- What the first segment of a path can be: without a sign, with the sign of a buffer that is kept, and with
    that of one that is started anew. -/
theorem bufferSign?_cases (segment : String) :
    (segment.toList.head? ≠ some '>' ∧ bufferSign? segment = none) ∨
    (∃ gap name, (∀ c ∈ gap, isBlank c = true) ∧ segment.toList = '>' :: (gap ++ '>' :: name) ∧
      bufferSign? segment = some (.kept, String.ofList (trimChars name))) ∨
    ∃ name, segment.toList = '>' :: name ∧ (name.dropWhile isBlank).head? ≠ some '>' ∧
      bufferSign? segment = some (.fresh, String.ofList (trimChars name)) := by
  unfold bufferSign?
  split
  · rename_i rest hsegment
    right
    split
    · rename_i name hname
      refine Or.inl ⟨rest.takeWhile isBlank, name, ?_, ?_, rfl⟩
      · intro c hc
        exact List.mem_takeWhile_imp hc
      · rw [hsegment, ← hname, List.takeWhile_append_dropWhile]
    · rename_i hname
      refine Or.inr ⟨rest, hsegment, ?_, rfl⟩
      intro hhead
      obtain ⟨name, hrest⟩ := List.head?_eq_some_iff.mp hhead
      exact hname name hrest
  · rename_i hsegment
    refine Or.inl ⟨?_, rfl⟩
    intro hhead
    obtain ⟨rest, hrest⟩ := List.head?_eq_some_iff.mp hhead
    exact hsegment rest hrest

theorem dropWhile_blanks {gap : List Char} (hgap : ∀ c ∈ gap, isBlank c = true) (rest : List Char) :
    (gap ++ '>' :: rest).dropWhile isBlank = '>' :: rest := by
  have hnot : isBlank '>' = false := by decide
  rw [List.dropWhile_append_of_pos hgap, List.dropWhile_cons_of_neg (by simp [hnot])]

/-- The segment is the sign of a buffer, `>` or `>>`, perhaps with white space inside, and nothing but white
    space stands behind it. -/
def Nameless (segment : String) : Prop :=
  ∃ blanks, (∀ c ∈ blanks, isBlank c = true) ∧ (segment.toList = '>' :: blanks ∨
    ∃ gap, (∀ c ∈ gap, isBlank c = true) ∧ segment.toList = '>' :: (gap ++ '>' :: blanks))

theorem bufferSign?_nameless_iff (segment : String) :
    (∃ mode, bufferSign? segment = some (mode, "")) ↔ Nameless segment := by
  have hnot : isBlank '>' = false := by decide
  constructor
  · rintro ⟨mode, hsign⟩
    have hblank {mode' : BufferMode} {name : List Char}
        (h : bufferSign? segment = some (mode', String.ofList (trimChars name))) : ∀ c ∈ name, isBlank c = true := by
      rw [hsign, Option.some.injEq, Prod.mk.injEq] at h
      rw [← Unicode.trimChars_eq_nil_iff, ← String.toList_ofList (l := trimChars name), ← h.2]
      rfl
    rcases bufferSign?_cases segment with ⟨-, h⟩ | ⟨gap, name, hgap, htext, h⟩ | ⟨name, htext, -, h⟩
    · rw [hsign] at h; cases h
    · exact ⟨name, hblank h, Or.inr ⟨gap, hgap, htext⟩⟩
    · exact ⟨name, hblank h, Or.inl htext⟩
  · rintro ⟨blanks, hblanks, htext⟩
    have hempty : String.ofList (trimChars blanks) = "" := by rw [Unicode.trimChars_eq_nil_iff.mpr hblanks, String.ofList_nil]
    rcases bufferSign?_cases segment with ⟨hhead, -⟩ | ⟨gap, name, hgap, htext', h⟩ | ⟨name, htext', hhead, h⟩
    · rcases htext with htext | ⟨gap, -, htext⟩ <;> simp [htext] at hhead
    · refine ⟨.kept, ?_⟩
      rw [htext', List.cons.injEq] at htext
      rcases htext with ⟨-, htext⟩ | ⟨gap', hgap', htext⟩
      · have hsign := hblanks '>' (htext ▸ List.mem_append_right gap List.mem_cons_self)
        rw [hnot] at hsign; cases hsign
      · have hsame : (gap ++ '>' :: name).dropWhile isBlank = (gap' ++ '>' :: blanks).dropWhile isBlank := by
          rw [(List.cons.inj htext).2]
        rw [dropWhile_blanks hgap, dropWhile_blanks hgap', List.cons.injEq] at hsame
        rw [h, hsame.2, hempty]
    · refine ⟨.fresh, ?_⟩
      rcases htext with htext | ⟨gap, hgap, htext⟩
      · rw [htext', List.cons.injEq] at htext
        rw [h, htext.2, hempty]
      · rw [htext', List.cons.injEq] at htext
        rw [htext.2, dropWhile_blanks hgap] at hhead
        exact absurd rfl hhead

/-- A text stands for no path if its first segment names a buffer without a name. -/
theorem ofText?_eq_none_iff (text : PathText) :
    ofText? text = none ↔ ∃ first rest, text.toSegments = first :: rest ∧ Nameless first := by
  simp only [← bufferSign?_nameless_iff]
  rw [ofText?]
  cases text.toSegments with
  | nil => simp
  | cons first rest =>
    cases hsign : bufferSign? first with
    | none => simp [hsign]
    | some named =>
      obtain ⟨mode, name⟩ := named
      by_cases hname : name = ""
      · simp [hname, hsign]
      · simp [hname, hsign]

theorem bufferSign?_sign {name : String} {mode : BufferMode} (h : (Root.buffer name mode).Named) {sign : String}
    (hsign : (Root.buffer name mode).sign = some sign) : bufferSign? sign = some (mode, name) := by
  obtain ⟨hname, htrim, hhead⟩ := h
  have hdrop : name.toList.dropWhile isBlank = name.toList := by
    rw [← htrim, Unicode.dropWhile_trimChars]
  have hnot : isBlank '>' = false := by decide +kernel
  cases mode with
  | fresh =>
    obtain rfl := Option.some.inj hsign
    rcases bufferSign?_cases (">" ++ name) with ⟨hne, -⟩ | ⟨gap, more, hgap, htext, -⟩ | ⟨more, htext, -, h⟩
    · simp at hne
    · have hmore : name.toList = gap ++ '>' :: more := by simpa using htext
      rw [← hdrop, hmore, dropWhile_blanks hgap] at hhead
      exact absurd rfl (hhead rfl)
    · have hmore : name.toList = more := by simpa using htext
      rw [h, ← hmore, htrim, String.ofList_toList]
  | kept =>
    obtain rfl := Option.some.inj hsign
    rcases bufferSign?_cases (">>" ++ name) with ⟨hne, -⟩ | ⟨gap, more, hgap, htext, h⟩ | ⟨more, htext, hne, -⟩
    · simp at hne
    · have hmore : '>' :: name.toList = gap ++ '>' :: more := by simpa using htext
      have hsame := congrArg (List.dropWhile isBlank) hmore
      rw [dropWhile_blanks hgap, List.dropWhile_cons_of_neg (by simp [hnot]), List.cons.injEq] at hsame
      rw [h, ← hsame.2, htrim, String.ofList_toList]
    · have hmore : '>' :: name.toList = more := by simpa using htext
      rw [← hmore, List.dropWhile_cons_of_neg (by simp [hnot])] at hne
      exact absurd rfl hne

theorem neutral_of_blank {cs : List Char} (h : ∀ c ∈ cs, isBlank c = true) : Neutral cs := by
  intro c hc
  have hblank := h c hc
  refine ⟨?_, ?_, ?_⟩ <;>
  · rintro rfl
    exact absurd hblank (by decide)

theorem neutral_of_sign {cs : List Char} (h : ∀ c ∈ cs, c = '>') : Neutral cs := by
  intro c hc
  rw [h c hc]
  decide

/-- White space around a text and what stands for a sign in front of it change neither its braces nor which
    of its dots separate. -/
theorem braces_trimChars {front signs : List Char} (hfront : Neutral front) (hsigns : Neutral signs)
    (text : List Char) (depth : Nat) :
    (Whole depth (front ++ text) ↔ Whole depth (signs ++ trimChars text)) ∧
      depthAfter depth (front ++ text) = depthAfter depth (signs ++ trimChars text) := by
  obtain ⟨before, after, hbefore, hafter, htext⟩ := Unicode.exists_blanks_of_trimChars text
  have hbefore : Neutral before := neutral_of_blank hbefore
  have hafter : Neutral after := neutral_of_blank hafter
  nth_rewrite 1 3 [htext]
  simp only [whole_append, depthAfter_append, depthAfter_of_neutral hfront, depthAfter_of_neutral hsigns,
    depthAfter_of_neutral hbefore, depthAfter_of_neutral hafter, whole_of_neutral hfront, whole_of_neutral hsigns,
    whole_of_neutral hbefore, whole_of_neutral hafter, true_and, and_true]

/-- A segment that names a buffer has the dots and braces of the sign. -/
theorem sign_of_bufferSign? {segment name : String} {mode : BufferMode} (h : bufferSign? segment = some (mode, name))
    (hname : name ≠ "") : (Root.buffer name mode).Named ∧ ∃ sign, (Root.buffer name mode).sign = some sign ∧
      ∀ depth, (Whole depth segment.toList ↔ Whole depth sign.toList) ∧
        depthAfter depth segment.toList = depthAfter depth sign.toList := by
  rcases bufferSign?_cases segment with ⟨-, hnone⟩ | ⟨gap, text, hgap, htext, hkept⟩ | ⟨text, htext, hhead, hfresh⟩
  · rw [hnone] at h; cases h
  · rw [hkept, Option.some.injEq, Prod.mk.injEq] at h
    obtain ⟨rfl, rfl⟩ := h
    have htrim : trimChars (String.ofList (trimChars text)).toList = (String.ofList (trimChars text)).toList := by
      rw [String.toList_ofList, Unicode.trimChars_trimChars]
    refine ⟨⟨hname, htrim, by simp⟩, ">>" ++ String.ofList (trimChars text), rfl, ?_⟩
    intro depth
    have hfront : Neutral ('>' :: (gap ++ ['>'])) := by
      intro c hc
      have hc : c = '>' ∨ c ∈ gap ∨ c = '>' := by simpa using hc
      rcases hc with rfl | hc | rfl
      · decide
      · exact neutral_of_blank hgap c hc
      · decide
    have hsegment : segment.toList = '>' :: (gap ++ ['>']) ++ text := by simp [htext]
    have hsign : (">>" ++ String.ofList (trimChars text)).toList = ['>', '>'] ++ trimChars text := by simp
    rw [hsegment, hsign]
    exact braces_trimChars hfront (neutral_of_sign (by simp)) text depth
  · rw [hfresh, Option.some.injEq, Prod.mk.injEq] at h
    obtain ⟨rfl, rfl⟩ := h
    have htrim : trimChars (String.ofList (trimChars text)).toList = (String.ofList (trimChars text)).toList := by
      rw [String.toList_ofList, Unicode.trimChars_trimChars]
    have hfirst : (String.ofList (trimChars text)).toList.head? ≠ some '>' := by
      rw [String.toList_ofList]
      intro hsign
      exact hhead (Unicode.head?_trimChars hsign)
    refine ⟨⟨hname, htrim, fun _ => hfirst⟩, ">" ++ String.ofList (trimChars text), rfl, ?_⟩
    intro depth
    have hsign : (">" ++ String.ofList (trimChars text)).toList = ['>'] ++ trimChars text := by simp
    have hone : Neutral ['>'] := neutral_of_sign (by simp)
    rw [htext, hsign]
    exact braces_trimChars hone hone text depth

end Path

end LineRules
