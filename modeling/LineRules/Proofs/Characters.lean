/-
  LineRules.Proofs.Characters — what other theorems need of the character data.

  White space is neither a word character nor a letter or digit (`isBlank_of_isWord`,
  `isBlank_of_isAlphanumeric`). Trimming leaves a text without white space at its ends, and such a text as it
  is (`bare_trim`, `trim_of_bare`). Lower case leaves its own results as they are
  (`isLower_of_mem_lowerChars`, `lowerChars_eq_self`). The tables are compared interval by interval and
  row by row, never character by character: two sets have no member in common if no two of their
  intervals meet (`CodeSet.apart`), and a map leaves an interval as it is if none of its rows reaches
  into it (`CodeMap.spares`).
-/

import LineRules.Unicode.Alphanumeric
import LineRules.Unicode.Casing
import LineRules.Unicode.Word
import Mathlib.Data.List.DropRight
import Mathlib.Data.List.TakeWhile

namespace LineRules.Unicode

/-! ## White space -/

namespace CodeSet

theorem exists_of_contains {s : CodeSet} {n : Nat} (h : s.contains n = true) : ∃ i ∈ s, i.1 ≤ n ∧ n ≤ i.2 := by
  induction s with
  | nil => cases h
  | cons i s ih =>
    obtain ⟨lo, hi⟩ := i
    rw [contains] at h
    by_cases hlo : n < lo
    · rw [if_pos hlo] at h; cases h
    · by_cases hhi : n ≤ hi
      · exact ⟨(lo, hi), List.mem_cons_self, Nat.le_of_not_lt hlo, hhi⟩
      · rw [if_neg hlo, if_neg hhi] at h
        obtain ⟨i, hi, hn⟩ := ih h
        exact ⟨i, List.mem_cons_of_mem _ hi, hn⟩

def apart (s t : CodeSet) : Bool := s.all fun i => t.all fun j => i.2.blt j.1 || j.2.blt i.1

theorem contains_of_apart {s t : CodeSet} (hst : s.apart t = true) {n : Nat} (h : s.contains n = true) :
    t.contains n = false := by
  cases ht : t.contains n with
  | false => rfl
  | true =>
    obtain ⟨i, hi, hin⟩ := exists_of_contains h
    obtain ⟨j, hj, hjn⟩ := exists_of_contains ht
    have hij := List.all_eq_true.mp (List.all_eq_true.mp hst i hi) j hj
    simp only [Bool.or_eq_true, Nat.blt_eq] at hij
    omega

end CodeSet

theorem isBlank_of_isWord {c : Char} (h : isWord c = true) : isBlank c = false :=
  CodeSet.contains_of_apart (s := wordCodes) (by decide +kernel) h

theorem isBlank_of_isAlphanumeric {c : Char} (h : isAlphanumeric c = true) : isBlank c = false := by
  rcases (Bool.or_eq_true _ _).mp h with h | h
  · exact CodeSet.contains_of_apart (s := alphabeticCodes) (by decide +kernel) h
  · exact CodeSet.contains_of_apart (s := numericCodes) (by decide +kernel) h

theorem dropWhile_eq_self_of_all {p : Char → Bool} {cs : List Char} (h : ∀ c ∈ cs, p c = false) :
    cs.dropWhile p = cs :=
  List.dropWhile_eq_self_iff.mpr fun hl => by rw [h _ (List.getElem_mem hl)]; exact Bool.false_ne_true

theorem trimChars_eq_self {cs : List Char} (h : ∀ c ∈ cs, isBlank c = false) : trimChars cs = cs := by
  rw [trimChars, trimEnd, dropWhile_eq_self_of_all h,
    dropWhile_eq_self_of_all fun c hc => h c (List.mem_reverse.mp hc), List.reverse_reverse]

/-! ## Text without white space at its ends -/

section Ends

variable (p : Char → Bool) (cs : List Char)

/-- A text is what is left without the characters that `p` picks out at its ends, between such characters. -/
theorem exists_margins : ∃ before after, (∀ c ∈ before, p c = true) ∧ (∀ c ∈ after, p c = true) ∧
    cs = before ++ (cs.dropWhile p).rdropWhile p ++ after := by
  refine ⟨cs.takeWhile p, (cs.dropWhile p).rtakeWhile p, ?_, ?_, ?_⟩
  · exact fun c hc => List.mem_takeWhile_imp hc
  · exact fun c hc => List.mem_rtakeWhile_imp hc
  · rw [List.append_assoc, List.rdropWhile_append_rtakeWhile, List.takeWhile_append_dropWhile]

theorem head?_of_rdropWhile {p : Char → Bool} {cs : List Char} {c : Char} (h : (cs.rdropWhile p).head? = some c) :
    cs.head? = some c := by
  obtain ⟨rest, hrest⟩ := List.head?_eq_some_iff.mp h
  obtain ⟨more, hmore⟩ : cs.rdropWhile p <+: cs := List.rdropWhile_prefix p _
  rw [← hmore, hrest]
  rfl

theorem head?_inner {c : Char} (h : ((cs.dropWhile p).rdropWhile p).head? = some c) : p c = false := by
  have hfirst := List.head?_dropWhile_not p cs
  rw [head?_of_rdropWhile h] at hfirst
  simpa using hfirst

theorem getLast?_inner {c : Char} (h : ((cs.dropWhile p).rdropWhile p).getLast? = some c) : p c = false := by
  obtain ⟨hne, rfl⟩ := List.mem_getLast?_eq_getLast h
  simpa using List.rdropWhile_last_not p (cs.dropWhile p) hne

end Ends

/-- A text is what trimming leaves of it, between white space. -/
theorem exists_blanks_of_trimChars (cs : List Char) : ∃ before after, (∀ c ∈ before, isBlank c = true) ∧
    (∀ c ∈ after, isBlank c = true) ∧ cs = before ++ trimChars cs ++ after :=
  exists_margins isBlank cs

theorem trimChars_eq_nil_iff {cs : List Char} : trimChars cs = [] ↔ ∀ c ∈ cs, isBlank c = true := by
  constructor
  · intro h c hc
    obtain ⟨before, after, hbefore, hafter, hcs⟩ := exists_blanks_of_trimChars cs
    rw [hcs, h, List.append_nil] at hc
    exact (List.mem_append.mp hc).elim (hbefore c) (hafter c)
  · intro h
    rw [trimChars, List.dropWhile_eq_nil_iff.mpr h]
    rfl

/-- The text neither begins nor ends with white space. -/
def Bare (cs : List Char) : Prop :=
  (∀ c, cs.head? = some c → isBlank c = false) ∧ ∀ c, cs.getLast? = some c → isBlank c = false

/-- Trimming takes all white space around such a text away. -/
theorem trimChars_of_bare {before cs after : List Char} (hbefore : ∀ c ∈ before, isBlank c = true) (hcs : Bare cs)
    (hafter : ∀ c ∈ after, isBlank c = true) : trimChars (before ++ (cs ++ after)) = cs := by
  have hstart : (cs ++ after).dropWhile isBlank = cs ++ after ∨ cs = [] := by
    cases cs with
    | nil => exact Or.inr rfl
    | cons c rest => exact Or.inl (List.dropWhile_cons_of_neg (by simp [hcs.1 c rfl]))
  rw [trimChars, List.dropWhile_append_of_pos hbefore]
  rcases hstart with hstart | rfl
  · have hend : cs.reverse.dropWhile isBlank = cs.reverse := by
      cases hlast : cs.reverse with
      | nil => rfl
      | cons c rest =>
        have hc : isBlank c = false := hcs.2 c (by rw [← List.head?_reverse, hlast, List.head?_cons])
        exact List.dropWhile_cons_of_neg (by simp [hc])
    have hafter' : ∀ c ∈ after.reverse, isBlank c = true := fun c hc => hafter c (List.mem_reverse.mp hc)
    rw [hstart, trimEnd, List.reverse_append, List.dropWhile_append_of_pos hafter', hend, List.reverse_reverse]
  · rw [List.nil_append, List.dropWhile_eq_nil_iff.mpr hafter]
    rfl

/-- What trimming leaves begins as the text does behind the white space in front of it. -/
theorem head?_trimChars {cs : List Char} {c : Char} (h : (trimChars cs).head? = some c) :
    (cs.dropWhile isBlank).head? = some c :=
  head?_of_rdropWhile h

theorem dropWhile_trimChars (cs : List Char) : (trimChars cs).dropWhile isBlank = trimChars cs := by
  cases h : trimChars cs with
  | nil => rfl
  | cons c rest =>
    have hc : isBlank c = false := head?_inner isBlank cs (congrArg List.head? h)
    exact List.dropWhile_cons_of_neg (by simp [hc])

theorem trimChars_trimChars (cs : List Char) : trimChars (trimChars cs) = trimChars cs := by
  rw [trimChars, dropWhile_trimChars]
  exact List.rdropWhile_idempotent isBlank (cs.dropWhile isBlank)

def Blank (text : String) : Prop := ∀ c ∈ text.toList, isBlank c = true

theorem trim_eq_empty_iff {text : String} : trim text = "" ↔ Blank text := by
  rw [Blank, ← trimChars_eq_nil_iff, trim, String.ofList_eq_empty_iff]

theorem bare_trim (text : String) : Bare (trim text).toList := by
  rw [trim, String.toList_ofList]
  exact ⟨fun c hc => head?_inner isBlank text.toList hc, fun c hc => getLast?_inner isBlank text.toList hc⟩

theorem trim_of_bare {text : String} (h : Bare text.toList) : trim text = text := by
  have hchars : trimChars ([] ++ (text.toList ++ [])) = text.toList := trimChars_of_bare (by simp) h (by simp)
  rw [List.nil_append, List.append_nil] at hchars
  rw [trim, hchars, String.ofList_toList]

theorem trim_trim (text : String) : trim (trim text) = trim text := trim_of_bare (bare_trim text)

theorem mem_of_mem_trim {text : String} {c : Char} (h : c ∈ (trim text).toList) : c ∈ text.toList := by
  obtain ⟨before, after, -, -, htext⟩ := exists_blanks_of_trimChars text.toList
  rw [trim, String.toList_ofList] at h
  rw [htext]
  exact List.mem_append_left after (List.mem_append_right before h)

/-! ## Lower case -/

namespace CodeMap

/-- No row moves a number from `a` to `b`, of which only every second one counts if `sparse`. -/
def spares (a b : Nat) (sparse : Bool) : CodeMap → Bool
  | [] => true
  | (lo, hi, step, _) :: rest =>
    b.blt lo || ((hi.blt a || (sparse && step.beq 2 && ((a + lo) % 2).beq 1)) && spares a b sparse rest)

theorem apply_of_spares {m : CodeMap} {a b : Nat} {sparse : Bool} (h : spares a b sparse m = true) {n : Nat}
    (ha : a ≤ n) (hb : n ≤ b) (hn : sparse = true → (n - a) % 2 = 0) : m.apply n = n := by
  induction m with
  | nil => rfl
  | cons row m ih =>
    obtain ⟨lo, hi, step, image⟩ := row
    simp only [spares, Bool.or_eq_true, Bool.and_eq_true, Nat.blt_eq, Nat.beq_eq] at h
    rw [apply]
    by_cases hlo : n < lo
    · rw [if_pos hlo]
    · rw [if_neg hlo]
      rcases h with h | ⟨h | ⟨⟨hsparse, rfl⟩, hodd⟩, hrest⟩
      · omega
      · rw [if_neg (by omega)]; exact ih hrest
      · have heven := hn hsparse
        have hmiss : (n - lo) % 2 ≠ 0 := by omega
        rw [if_neg hmiss, ih hrest, ite_self]

/-- A number that is moved is moved by a row. -/
theorem apply_cases (m : CodeMap) (n : Nat) :
    m.apply n = n ∨ ∃ row ∈ m, row.1 ≤ n ∧ n ≤ row.2.1 ∧ (n - row.1) % row.2.2.1 = 0 ∧
      m.apply n = row.2.2.2 + (n - row.1) := by
  induction m with
  | nil => exact .inl rfl
  | cons row m ih =>
    obtain ⟨lo, hi, step, image⟩ := row
    rw [apply]
    have hlater : CodeMap.apply m n = n ∨ ∃ row ∈ (lo, hi, step, image) :: m, row.1 ≤ n ∧ n ≤ row.2.1 ∧
        (n - row.1) % row.2.2.1 = 0 ∧ CodeMap.apply m n = row.2.2.2 + (n - row.1) :=
      ih.imp_right fun ⟨row, hrow, h⟩ => ⟨row, List.mem_cons_of_mem _ hrow, h⟩
    split
    · exact .inl rfl
    · split
      · split
        · exact .inr ⟨_, List.mem_cons_self, by omega, by assumption, by assumption, rfl⟩
        · exact hlater
      · exact hlater

end CodeMap

def lowerCode (n : Nat) : Nat := newLowerMap.apply (lowerMap.apply n)

/-- What a row leads to is a character that no row moves and that is no special case. -/
def settledRow (row : Nat × Nat × Nat × Nat) : Bool :=
  let last := row.2.2.2 + (row.2.1 - row.1)
  let sparse := row.2.2.1.beq 2 || row.1.beq row.2.1
  lowerMap.spares row.2.2.2 last sparse && newLowerMap.spares row.2.2.2 last sparse &&
    (last.blt 0xD800 || (Nat.blt 0xDFFF row.2.2.2 && last.blt 0x110000)) &&
    (last.blt 0x130 || Nat.blt 0x130 row.2.2.2)

theorem settledRow_of_mem {row : Nat × Nat × Nat × Nat} (h : row ∈ lowerMap ∨ row ∈ newLowerMap) :
    settledRow row = true ∧ (row.2.2.1 = 1 ∨ row.2.2.1 = 2) := by
  have hall : ∀ m ∈ [lowerMap, newLowerMap], m.all (fun row => settledRow row && (row.2.2.1.beq 1 || row.2.2.1.beq 2)) =
      true := by decide +kernel
  have hrow : (settledRow row && (row.2.2.1.beq 1 || row.2.2.1.beq 2)) = true := by
    rcases h with h | h
    · exact List.all_eq_true.mp (hall lowerMap (by simp)) row h
    · exact List.all_eq_true.mp (hall newLowerMap (by simp)) row h
  simpa using hrow

/-- A number that `lowerCode` moves goes to one that it leaves, and that is no special case. -/
theorem lowerCode_cases (n : Nat) :
    lowerCode n = n ∨ lowerCode (lowerCode n) = lowerCode n ∧ (lowerCode n).isValidChar ∧ lowerCode n ≠ 0x130 := by
  have hrow {row : Nat × Nat × Nat × Nat} (hmem : row ∈ lowerMap ∨ row ∈ newLowerMap) {k : Nat} (hlo : row.1 ≤ k)
      (hhi : k ≤ row.2.1) (hstep : (k - row.1) % row.2.2.1 = 0) (heq : lowerCode n = row.2.2.2 + (k - row.1)) :
      lowerCode (lowerCode n) = lowerCode n ∧ (lowerCode n).isValidChar ∧ lowerCode n ≠ 0x130 := by
    obtain ⟨hsettled, hsteps⟩ := settledRow_of_mem hmem
    obtain ⟨lo, hi, step, image⟩ := row
    simp only [settledRow, Bool.and_eq_true] at hsettled hlo hhi hstep hsteps heq
    obtain ⟨⟨⟨hold, hnew⟩, hvalid⟩, hspecial⟩ := hsettled
    have hsparse : (step.beq 2 || lo.beq hi) = true → (lowerCode n - image) % 2 = 0 := by
      simp only [Bool.or_eq_true, Nat.beq_eq]
      rintro (rfl | rfl) <;> omega
    have hfirst : image ≤ lowerCode n := by omega
    have hlast : lowerCode n ≤ image + (hi - lo) := by omega
    refine ⟨?_, ?_, ?_⟩
    · rw [lowerCode, CodeMap.apply_of_spares hold hfirst hlast hsparse,
        CodeMap.apply_of_spares hnew hfirst hlast hsparse]
    · simp only [Bool.or_eq_true, Bool.and_eq_true, Nat.blt_eq] at hvalid
      rw [Nat.isValidChar]; omega
    · simp only [Bool.or_eq_true, Nat.blt_eq] at hspecial
      omega
  rcases CodeMap.apply_cases newLowerMap (lowerMap.apply n) with hnew | ⟨row, hmem, hlo, hhi, hstep, heq⟩
  · rcases CodeMap.apply_cases lowerMap n with hold | ⟨row, hmem, hlo, hhi, hstep, heq⟩
    · exact .inl (by rw [lowerCode, hnew, hold])
    · exact .inr (hrow (.inl hmem) hlo hhi hstep (by rw [lowerCode, hnew, heq]))
  · exact .inr (hrow (.inr hmem) hlo hhi hstep (by rw [lowerCode, heq]))

def IsLower (c : Char) : Prop := c ≠ 'Σ' ∧ lowerChar c = [c]

theorem lowerChar_of_ne {c : Char} (h : c ≠ 'İ') : lowerChar c = [Char.ofNat (lowerCode c.toNat)] := by
  rw [lowerChar, if_neg h]; rfl

/-- No row moves the letters that special cases lead to, nor the underscore. -/
theorem lowerCode_eq_self {c : Char} (h : c ∈ ['i', '\u0307', 'ς', 'σ', '_']) : lowerCode c.toNat = c.toNat := by
  have hspared : ['i', '\u0307', 'ς', 'σ', '_'].all (fun c =>
      lowerMap.spares c.toNat c.toNat false && newLowerMap.spares c.toNat c.toNat false) = true := by decide +kernel
  obtain ⟨hold, hnew⟩ := (Bool.and_eq_true _ _).mp (List.all_eq_true.mp hspared c h)
  rw [lowerCode, CodeMap.apply_of_spares hold le_rfl le_rfl (by simp),
    CodeMap.apply_of_spares hnew le_rfl le_rfl (by simp)]

theorem isLower_of_code {c : Char} (hcode : lowerCode c.toNat = c.toNat) (hspecial : c.toNat ≠ 0x130) : IsLower c := by
  refine ⟨?_, ?_⟩
  · rintro rfl
    exact absurd hcode (by decide)
  · have hne : c ≠ 'İ' := by rintro rfl; exact hspecial rfl
    rw [lowerChar_of_ne hne, hcode, Char.ofNat_toNat]

/-- What lower case makes of a character is lower case. -/
theorem isLower_of_mem_lowerChar {c d : Char} (hc : c ≠ 'Σ') (h : d ∈ lowerChar c) : IsLower d := by
  by_cases hspecial : c = 'İ'
  · subst hspecial
    have hd : d = 'i' ∨ d = '\u0307' := by simpa [lowerChar] using h
    rcases hd with rfl | rfl <;> exact isLower_of_code (lowerCode_eq_self (by simp)) (by decide)
  · rw [lowerChar_of_ne hspecial] at h
    obtain rfl := List.mem_singleton.mp h
    rcases lowerCode_cases c.toNat with hsame | ⟨hcode, hvalid, hne⟩
    · rw [hsame, Char.ofNat_toNat]
      refine isLower_of_code hsame fun hc => hspecial (Char.toNat_inj.mp hc)
    · have hnat : (Char.ofNat (lowerCode c.toNat)).toNat = lowerCode c.toNat := by
        rw [Char.ofNat, dif_pos hvalid]; rfl
      exact isLower_of_code (by rw [hnat, hcode]) (by rw [hnat]; exact hne)

theorem isLower_of_mem_lowerFrom {before cs : List Char} {d : Char} (h : d ∈ lowerFrom before cs) : IsLower d := by
  induction cs generalizing before with
  | nil => cases h
  | cons c rest ih =>
    rw [lowerFrom] at h
    split at h
    · rcases List.mem_cons.mp h with rfl | h
      · split <;> exact isLower_of_code (lowerCode_eq_self (by simp)) (by decide)
      · exact ih h
    · rename_i hc
      rcases List.mem_append.mp h with h | h
      · exact isLower_of_mem_lowerChar hc h
      · exact ih h

theorem isLower_of_mem_lowerChars {cs : List Char} {d : Char} (h : d ∈ lowerChars cs) : IsLower d :=
  isLower_of_mem_lowerFrom h

/-- Lower case leaves a text of lower case characters as it is. -/
theorem lowerChars_eq_self {cs : List Char} (h : ∀ c ∈ cs, IsLower c) : lowerChars cs = cs := by
  have hfrom : ∀ before, lowerFrom before cs = cs := by
    induction cs with
    | nil => exact fun _ => rfl
    | cons c rest ih =>
      intro before
      obtain ⟨hc, hlower⟩ := h c List.mem_cons_self
      rw [lowerFrom, if_neg hc, hlower, ih fun d hd => h d (List.mem_cons_of_mem c hd)]
      rfl
  exact hfrom []

end LineRules.Unicode
