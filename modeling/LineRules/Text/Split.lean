/-
  LineRules.Text.Split — cutting text at characters and at line ends.

  `cut p` divides a text at every character that `p` picks out: the pieces, joined by the
  picked characters, are the text, and there is always at least one piece. `lines` divides at
  line feeds, leaves out one carriage return before each and adds no empty line at the end.
-/

namespace LineRules.Text

/-- The pieces between the characters that `p` picks out. -/
def cut (p : Char → Bool) : List Char → List (List Char)
  | [] => [[]]
  | c :: rest =>
    if p c then [] :: cut p rest
    else match cut p rest with
      | [] => [[c]]
      | piece :: pieces => (c :: piece) :: pieces

theorem cut_ne_nil (p : Char → Bool) (cs : List Char) : cut p cs ≠ [] := by
  cases cs with
  | nil => simp [cut]
  | cons c rest => simp only [cut]; split <;> (try split) <;> simp

theorem cut_eq_splitOnP (p : Char → Bool) (cs : List Char) : cut p cs = cs.splitOnP p := by
  induction cs with
  | nil => simp [cut]
  | cons c rest ih =>
    obtain ⟨piece, pieces, hrest⟩ := List.exists_cons_of_ne_nil (cut_ne_nil p rest)
    rw [cut, List.splitOnP_cons_eq_if_modifyHead, ← ih, hrest]
    rfl

/-- No piece holds a character that was cut at. -/
theorem not_of_mem_cut {p : Char → Bool} {cs piece : List Char} (h : piece ∈ cut p cs) : ∀ c ∈ piece, p c = false := by
  induction cs generalizing piece with
  | nil =>
    obtain rfl := List.mem_singleton.mp h
    simp
  | cons c rest ih =>
    rw [cut] at h
    split at h
    · rcases List.mem_cons.mp h with rfl | h
      · simp
      · exact ih h
    · rename_i hc
      obtain ⟨first, more, hrest⟩ := List.exists_cons_of_ne_nil (cut_ne_nil p rest)
      simp only [hrest] at h ih
      rcases List.mem_cons.mp h with rfl | h
      · intro d hd
        rcases List.mem_cons.mp hd with rfl | hd
        · simpa using hc
        · exact ih List.mem_cons_self d hd
      · exact ih (List.mem_cons_of_mem first h)

def pieces (sep : Char) (s : String) : List String := (cut (· == sep) s.toList).map String.ofList

section Pieces

variable {sep : Char}

theorem notMem_of_mem_pieces {s piece : String} (h : piece ∈ pieces sep s) : sep ∉ piece.toList := by
  obtain ⟨cs, hcs, rfl⟩ := List.mem_map.mp h
  rw [String.toList_ofList]
  intro hsep
  simpa using not_of_mem_cut hcs sep hsep

/-- Texts without the character are the pieces of the text that joins them by it. -/
theorem pieces_intercalate {joint : String} (hjoint : joint.toList = [sep]) {parts : List String} (hne : parts ≠ [])
    (hparts : ∀ s ∈ parts, sep ∉ s.toList) : pieces sep (joint.intercalate parts) = parts := by
  have hsplit : ([sep].intercalate (parts.map String.toList)).splitOn sep = parts.map String.toList := by
    apply List.splitOn_intercalate
    · simpa using hparts
    · simpa using hne
  have hchars : (joint.intercalate parts).toList = [sep].intercalate (parts.map String.toList) := by
    rw [String.toList_intercalate, hjoint]
  rw [pieces, cut_eq_splitOnP, hchars]
  rw [List.splitOn] at hsplit
  rw [hsplit, List.map_map]
  simp

theorem pieces_of_notMem {s : String} (h : sep ∉ s.toList) : pieces sep s = [s] := by
  rw [pieces, cut_eq_splitOnP, List.splitOnP_eq_singleton]
  · simp
  · intro c hc
    have hne : c ≠ sep := fun heq => h (heq ▸ hc)
    simpa using hne

end Pieces

def chomp (line : List Char) : List Char :=
  match line.reverse with
  | '\r' :: rest => rest.reverse
  | _ => line

/-- The lines of a text. What follows the last line feed is a line only if it is not empty,
    and keeps its carriage return. -/
def linesOf : List (List Char) → List (List Char)
  | [] => []
  | [last] => if last.isEmpty then [] else [last]
  | line :: rest => chomp line :: linesOf rest

def lines (s : String) : List String := (linesOf (cut (· == '\n') s.toList)).map String.ofList

end LineRules.Text
