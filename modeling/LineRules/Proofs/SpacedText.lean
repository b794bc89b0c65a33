/-
  LineRules.Proofs.SpacedText — JSON text, with or without blanks, is read back.

  The compact text of a value and the one with a line for each entry and item differ in blanks only
  (`Spacing`, `spell_compact`, `spell_indented`), and the reader passes over blanks wherever they stand.
  So both are dealt with at once: a string is read back character by character
  (`readString_escapeChar`), items and entries one after another up to the bracket that closes them
  (`readItems_spell`, `readMembers_spell`), and by induction over the value all of it (`readsBack`). The
  reader leaves what follows, and it needs no more fuel than the text has characters and no more
  depth than the value.
-/

import LineRules.Json.Reader
import LineRules.Proofs.SortedValues

namespace LineRules

namespace Json

/-! ## Strings -/

theorem hex4?_hexDigit : ∀ n < 32, hex4? '0' '0' (hexDigit (n / 16)) (hexDigit (n % 16)) = some n := by decide

/-- A character is written with one letter behind a backslash, or with its code, or as it is. -/
theorem escapeChar_cases (c : Char) :
    (∃ e, e ≠ 'u' ∧ simpleEscape? e = some c ∧ escapeChar c = ['\\', e]) ∨
    (c.toNat < 0x20 ∧ escapeChar c = ['\\', 'u', '0', '0', hexDigit (c.toNat / 16), hexDigit (c.toNat % 16)]) ∨
    (c ≠ '"' ∧ c ≠ '\\' ∧ ¬c.toNat < 0x20 ∧ escapeChar c = [c]) := by
  unfold escapeChar
  by_cases hquote : c = '"'
  · subst hquote; exact Or.inl ⟨'"', by decide, rfl, rfl⟩
  by_cases hslash : c = '\\'
  · subst hslash; exact Or.inl ⟨'\\', by decide, rfl, rfl⟩
  by_cases hback : c.toNat = 8
  · obtain rfl : c = '\x08' := Char.toNat_inj.mp hback
    exact Or.inl ⟨'b', by decide, rfl, rfl⟩
  by_cases hform : c.toNat = 12
  · obtain rfl : c = '\x0c' := Char.toNat_inj.mp hform
    exact Or.inl ⟨'f', by decide, rfl, rfl⟩
  by_cases hfeed : c = '\n'
  · subst hfeed; exact Or.inl ⟨'n', by decide, rfl, rfl⟩
  by_cases hreturn : c = '\r'
  · subst hreturn; exact Or.inl ⟨'r', by decide, rfl, rfl⟩
  by_cases htab : c = '\t'
  · subst htab; exact Or.inl ⟨'t', by decide, rfl, rfl⟩
  rw [if_neg hquote, if_neg hslash, if_neg hback, if_neg hform, if_neg hfeed, if_neg hreturn, if_neg htab]
  by_cases hcontrol : c.toNat < 0x20
  · exact Or.inr (Or.inl ⟨hcontrol, if_pos hcontrol⟩)
  · exact Or.inr (Or.inr ⟨hquote, hslash, hcontrol, if_neg hcontrol⟩)

theorem readString_escapeChar (c : Char) (done rest : List Char) :
    readString done (escapeChar c ++ rest) = readString (c :: done) rest := by
  rcases escapeChar_cases c with ⟨e, hu, hsimple, h⟩ | ⟨hcontrol, h⟩ | ⟨hquote, hslash, hcontrol, h⟩
  · rw [h, List.cons_append, List.singleton_append, readString]
    · simp only [hsimple]
    · intro a b c d rest' he
      exact absurd he hu
  · have hhex := hex4?_hexDigit c.toNat hcontrol
    have hlow : ¬(0xDC00 ≤ c.toNat ∧ c.toNat ≤ 0xDFFF) := by omega
    have hhigh : ¬(0xD800 ≤ c.toNat ∧ c.toNat ≤ 0xDBFF) := by omega
    simp only [h, List.cons_append, List.nil_append, readString, hhex, if_neg hlow, if_neg hhigh, Char.ofNat_toNat]
  · have hplain : ¬(c.toNat < 0x20 ∨ c = '\\') := by simp [hcontrol, hslash]
    rw [h, List.singleton_append, readString]
    · rw [if_neg hplain]
    · simp [hquote]
    · simp [hslash]
    · simp [hslash]

theorem readString_quoteChars (cs done rest : List Char) :
    readString done (cs.flatMap escapeChar ++ '"' :: rest) = some (String.ofList (done.reverse ++ cs), rest) := by
  induction cs generalizing done with
  | nil => simp [readString]
  | cons c cs ih =>
    rw [List.flatMap_cons, List.append_assoc, readString_escapeChar, ih, List.reverse_cons, List.append_assoc]
    rfl

/-- Different texts are written differently, whatever follows them. -/
theorem quoteChars_inj {cs ds rest rest' : List Char} (h : quoteChars cs ++ rest = quoteChars ds ++ rest') :
    cs = ds ∧ rest = rest' := by
  have htail : cs.flatMap escapeChar ++ '"' :: rest = ds.flatMap escapeChar ++ '"' :: rest' := by
    simpa [quoteChars] using h
  have hread := readString_quoteChars cs [] rest
  rw [htail, readString_quoteChars ds [] rest'] at hread
  simp only [List.reverse_nil, List.nil_append, Option.some.injEq, Prod.mk.injEq] at hread
  exact ⟨(String.ofList_injective hread.1).symm, hread.2.symm⟩

/-! ## Brackets -/

section Read

variable (fuel depth : Nat) (cs rest : List Char)

theorem readValue_string (text : List Char) :
    readValue (fuel + 1) depth (quoteChars text ++ rest) = some (.string (String.ofList text), rest) := by
  have hstart : quoteChars text ++ rest = '"' :: (text.flatMap escapeChar ++ '"' :: rest) := by simp [quoteChars]
  rw [hstart, readValue, skipBlank_cons (by decide)]
  simp [readString_quoteChars]

theorem readValue_emptyArray : readValue (fuel + 1) (depth + 1) ('[' :: ']' :: rest) = some (.array [], rest) := by
  rw [readValue, skipBlank_cons (by decide)]
  simp [skipBlank_cons (show isBlank ']' = false by decide)]

theorem readValue_array (h : (skipBlank cs).head? ≠ some ']') :
    readValue (fuel + 1) (depth + 1) ('[' :: cs) = (readItems fuel depth cs).map fun r => (.array r.1, r.2) := by
  rw [readValue, skipBlank_cons (by decide)]
  simp only
  split
  · rename_i more hmore
    simp [hmore] at h
  · rfl

theorem readValue_emptyObject : readValue (fuel + 1) (depth + 1) ('{' :: '}' :: rest) = some (.object [], rest) := by
  rw [readValue, skipBlank_cons (by decide)]
  simp [skipBlank_cons (show isBlank '}' = false by decide)]

theorem readValue_object (h : (skipBlank cs).head? ≠ some '}') :
    readValue (fuel + 1) (depth + 1) ('{' :: cs) = (readMembers fuel depth cs).map fun r => (ofMembers r.1, r.2) := by
  rw [readValue, skipBlank_cons (by decide)]
  simp only
  split
  · rename_i more hmore
    simp [hmore] at h
  · rfl

variable {fuel depth cs rest}

theorem readItems_last {j : Json} {more : List Char} (h : readValue fuel depth cs = some (j, more))
    (hend : skipBlank more = ']' :: rest) : readItems (fuel + 1) depth cs = some ([j], rest) := by
  rw [readItems, h]
  simp [hend]

theorem readItems_more {j : Json} {more : List Char} (h : readValue fuel depth cs = some (j, more))
    (hnext : skipBlank more = ',' :: rest) :
    readItems (fuel + 1) depth cs = (readItems fuel depth rest).map fun r => (j :: r.1, r.2) := by
  rw [readItems, h]
  simp [hnext]

theorem readMembers_last (key : String) {j : Json} {more : List Char} (h : readValue fuel depth cs = some (j, more))
    (hend : skipBlank more = '}' :: rest) :
    readMembers (fuel + 1) depth (quoteChars key.toList ++ ':' :: cs) = some ([(key, j)], rest) := by
  have hstart : quoteChars key.toList ++ ':' :: cs = '"' :: (key.toList.flatMap escapeChar ++ '"' :: ':' :: cs) := by
    simp [quoteChars]
  rw [readMembers, hstart, skipBlank_cons (by decide)]
  simp [readString_quoteChars, skipBlank_cons (show isBlank ':' = false by decide), h, hend]

theorem readMembers_more (key : String) {j : Json} {more : List Char} (h : readValue fuel depth cs = some (j, more))
    (hnext : skipBlank more = ',' :: rest) :
    readMembers (fuel + 1) depth (quoteChars key.toList ++ ':' :: cs) =
      (readMembers fuel depth rest).map fun r => ((key, j) :: r.1, r.2) := by
  have hstart : quoteChars key.toList ++ ':' :: cs = '"' :: (key.toList.flatMap escapeChar ++ '"' :: ':' :: cs) := by
    simp [quoteChars]
  rw [readMembers, hstart, skipBlank_cons (by decide)]
  simp [readString_quoteChars, skipBlank_cons (show isBlank ':' = false by decide), h, hnext]

end Read

end Json

/-! ## Spaced text -/

structure Spacing where
  /-- What stands in front of an entry or an item at a level, and in front of the bracket that closes them. -/
  gap : Nat → List Char
  /-- What stands behind the colon of an entry. -/
  space : List Char
  blank_gap : ∀ n, ∀ c ∈ gap n, Json.isBlank c = true
  blank_space : ∀ c ∈ space, Json.isBlank c = true

namespace Spacing

def compact : Spacing := ⟨fun _ => [], [], by simp, by simp⟩

def indented : Spacing where
  gap n := '\n' :: List.replicate (2 * n) ' '
  space := [' ']
  blank_gap n c hc := by
    rcases List.mem_cons.mp hc with rfl | hc
    · decide
    · rw [List.eq_of_mem_replicate hc]; decide
  blank_space c hc := by
    rw [List.mem_singleton.mp hc]; decide

end Spacing

namespace Value

variable (sp : Spacing)

mutual

def spell (n : Nat) : Value → List Char
  | .str s => Json.quoteChars s.toList
  | .map [] => ['{', '}']
  | .map (e :: m) => '{' :: (spellEntries (n + 1) (e :: m) ++ sp.gap n ++ ['}'])
  | .list [] => ['[', ']']
  | .list (v :: l) => '[' :: (spellItems (n + 1) (v :: l) ++ sp.gap n ++ [']'])

def spellEntries (n : Nat) : List (String × Value) → List Char
  | [] => []
  | (k, v) :: rest =>
    sp.gap n ++ (Json.quoteChars k.toList ++ ':' :: (sp.space ++ (spell n v ++ match rest with
      | [] => []
      | _ :: _ => ',' :: spellEntries n rest)))

def spellItems (n : Nat) : List Value → List Char
  | [] => []
  | v :: rest =>
    sp.gap n ++ (spell n v ++ match rest with
      | [] => []
      | _ :: _ => ',' :: spellItems n rest)

end

mutual

theorem spell_compact : ∀ (v : Value) (n : Nat), v.spell .compact n = v.render
  | .str s, n => rfl
  | .map [], n => rfl
  | .map ((k, v) :: m), n => by
    rw [spell, render, spellEntries_compact ((k, v) :: m) (n + 1)]
    simp [Spacing.compact]
  | .list [], n => rfl
  | .list (v :: l), n => by
    rw [spell, render, spellItems_compact (v :: l) (n + 1)]
    simp [Spacing.compact]

theorem spellEntries_compact : ∀ (m : List (String × Value)) (n : Nat), spellEntries .compact n m = renderEntries m
  | [], n => rfl
  | [(k, v)], n => by
    rw [spellEntries, renderEntries, spell_compact v n]
    rfl
  | (k, v) :: (k', w) :: m, n => by
    rw [spellEntries, renderEntries, spell_compact v n, spellEntries_compact ((k', w) :: m) n]
    rfl

theorem spellItems_compact : ∀ (l : List Value) (n : Nat), spellItems .compact n l = renderItems l
  | [], n => rfl
  | [v], n => by
    rw [spellItems, renderItems, spell_compact v n]
    rfl
  | v :: w :: l, n => by
    rw [spellItems, renderItems, spell_compact v n, spellItems_compact (w :: l) n]
    rfl

end

mutual

theorem spell_indented : ∀ (v : Value) (n : Nat), v.spell .indented n = v.layout (List.replicate (2 * n) ' ')
  | .str s, n => rfl
  | .map [], n => rfl
  | .map ((k, v) :: m), n => by
    rw [spell, layout, spellEntries_indented ((k, v) :: m) (n + 1)]
    simp [Spacing.indented, Nat.mul_add, List.replicate_succ]
  | .list [], n => rfl
  | .list (v :: l), n => by
    rw [spell, layout, spellItems_indented (v :: l) (n + 1)]
    simp [Spacing.indented, Nat.mul_add, List.replicate_succ]

theorem spellEntries_indented : ∀ (m : List (String × Value)) (n : Nat),
    spellEntries .indented n m = layoutEntries (List.replicate (2 * n) ' ') m
  | [], n => rfl
  | [(k, v)], n => by
    rw [spellEntries, layoutEntries, spell_indented v n]
    simp [Spacing.indented]
  | (k, v) :: (k', w) :: m, n => by
    rw [spellEntries, layoutEntries, spell_indented v n, spellEntries_indented ((k', w) :: m) n]
    simp [Spacing.indented]

theorem spellItems_indented : ∀ (l : List Value) (n : Nat),
    spellItems .indented n l = layoutItems (List.replicate (2 * n) ' ') l
  | [], n => rfl
  | [v], n => by
    rw [spellItems, layoutItems, spell_indented v n]
    simp [Spacing.indented]
  | v :: w :: l, n => by
    rw [spellItems, layoutItems, spell_indented v n, spellItems_indented (w :: l) n]
    simp [Spacing.indented]

end

/-! ## Depth -/

mutual

def depth : Value → Nat
  | .str _ => 0
  | .map m => depthEntries m + 1
  | .list l => depthItems l + 1

def depthEntries : List (String × Value) → Nat
  | [] => 0
  | (_, v) :: rest => max (depth v) (depthEntries rest)

def depthItems : List Value → Nat
  | [] => 0
  | v :: rest => max (depth v) (depthItems rest)

end

theorem depth_map_le_iff {m : List (String × Value)} {d : Nat} :
    (Value.map m).depth ≤ d ↔ ∃ d', d = d' + 1 ∧ ∀ e ∈ m, e.2.depth ≤ d' := by
  have hentries (d : Nat) : depthEntries m ≤ d ↔ ∀ e ∈ m, e.2.depth ≤ d := by
    induction m with
    | nil => simp [depthEntries]
    | cons e rest ih => rw [depthEntries, max_le_iff, ih, List.forall_mem_cons]
  simp only [← hentries]
  rw [depth]
  cases d with
  | zero => simp
  | succ d => simp

theorem depth_list_le_iff {l : List Value} {d : Nat} :
    (Value.list l).depth ≤ d ↔ ∃ d', d = d' + 1 ∧ ∀ v ∈ l, v.depth ≤ d' := by
  have hitems (d : Nat) : depthItems l ≤ d ↔ ∀ v ∈ l, v.depth ≤ d := by
    induction l with
    | nil => simp [depthItems]
    | cons v rest ih => rw [depthItems, max_le_iff, ih, List.forall_mem_cons]
  simp only [← hitems]
  rw [depth]
  cases d with
  | zero => simp
  | succ d => simp

theorem depth_sorted_le {v : Value} {d : Nat} (h : v.depth ≤ d) : v.sorted.depth ≤ d := by
  induction v using induction_children generalizing d with
  | str s => exact h
  | map m ih =>
    obtain ⟨d', rfl, hm⟩ := depth_map_le_iff.mp h
    rw [sorted_map, depth_map_le_iff]
    refine ⟨d', rfl, ?_⟩
    intro e he
    obtain ⟨a, ha, rfl⟩ := List.mem_map.mp he
    have ha := (Entries.perm_sort m).mem_iff.mp ha
    exact ih a ha (hm a ha)
  | list l ih =>
    obtain ⟨d', rfl, hl⟩ := depth_list_le_iff.mp h
    rw [sorted_list, depth_list_le_iff]
    refine ⟨d', rfl, ?_⟩
    intro v hv
    obtain ⟨a, ha, rfl⟩ := List.mem_map.mp hv
    exact ih a ha (hl a ha)

/-! ## Reading -/

open Json (readValue readItems readMembers skipBlank isBlank)

/-- Reading what is written of the value yields its document and leaves what follows. -/
def ReadsBack (v : Value) : Prop :=
  ∀ n fuel depth rest, (v.spell sp n).length ≤ fuel → v.depth ≤ depth →
    readValue fuel depth (v.spell sp n ++ rest) = some (v.toJson, rest)

/-- The first character of what is written is neither a blank nor a closing bracket. -/
theorem exists_head_spell (n : Nat) (v : Value) :
    ∃ c cs, v.spell sp n = c :: cs ∧ isBlank c = false ∧ c ≠ ']' := by
  match v with
  | .str s => exact ⟨'"', _, rfl, by decide, by decide⟩
  | .map [] => exact ⟨'{', _, rfl, by decide, by decide⟩
  | .map (e :: m) => exact ⟨'{', _, by rw [spell], by decide, by decide⟩
  | .list [] => exact ⟨'[', _, rfl, by decide, by decide⟩
  | .list (v :: l) => exact ⟨'[', _, by rw [spell], by decide, by decide⟩

theorem head?_spellItems (n : Nat) {l : List Value} (h : l ≠ []) (rest : List Char) :
    (skipBlank (spellItems sp n l ++ rest)).head? ≠ some ']' := by
  obtain ⟨v, l, rfl⟩ := List.exists_cons_of_ne_nil h
  obtain ⟨c, cs, hv, hblank, hclose⟩ := exists_head_spell sp n v
  obtain ⟨more, hmore⟩ : ∃ more, spellItems sp n (v :: l) = sp.gap n ++ (c :: more) := by
    cases l with
    | nil => rw [spellItems, hv]; exact ⟨_, rfl⟩
    | cons w l => rw [spellItems, hv]; exact ⟨_, rfl⟩
  rw [hmore, List.append_assoc, Json.skipBlank_append (sp.blank_gap n), List.cons_append, Json.skipBlank_cons hblank]
  simpa using hclose

theorem head?_spellEntries (n : Nat) {m : List (String × Value)} (h : m ≠ []) (rest : List Char) :
    (skipBlank (spellEntries sp n m ++ rest)).head? ≠ some '}' := by
  obtain ⟨⟨k, v⟩, m, rfl⟩ := List.exists_cons_of_ne_nil h
  obtain ⟨more, hmore⟩ : ∃ more, spellEntries sp n ((k, v) :: m) = sp.gap n ++ ('"' :: more) := by
    cases m with
    | nil => rw [spellEntries]; exact ⟨_, rfl⟩
    | cons e m => rw [spellEntries]; exact ⟨_, rfl⟩
  rw [hmore, List.append_assoc, Json.skipBlank_append (sp.blank_gap n), List.cons_append,
    Json.skipBlank_cons (by decide)]
  simp

variable {sp}

theorem readItems_spell {l : List Value} (hl : ∀ v ∈ l, v.ReadsBack sp) (hne : l ≠ []) {n fuel depth : Nat}
    (hfuel : (spellItems sp n l).length + 1 ≤ fuel) (hdepth : ∀ v ∈ l, v.depth ≤ depth) {close : List Char}
    (hclose : ∀ c ∈ close, isBlank c = true) (rest : List Char) :
    readItems fuel depth (spellItems sp n l ++ (close ++ ']' :: rest)) = some (toJsonItems l, rest) := by
  induction l generalizing fuel with
  | nil => exact absurd rfl hne
  | cons v l ih =>
    obtain ⟨fuel, rfl⟩ : ∃ f, fuel = f + 1 := ⟨fuel - 1, by omega⟩
    have hread (more : List Char) (hfuel : (v.spell sp n).length ≤ fuel) :
        readValue fuel depth (sp.gap n ++ (v.spell sp n ++ more)) = some (v.toJson, more) := by
      rw [Json.readValue_blanks (sp.blank_gap n)]
      exact hl v List.mem_cons_self n fuel depth more hfuel (hdepth v List.mem_cons_self)
    cases l with
    | nil =>
      simp only [spellItems, List.append_nil, List.length_append, List.append_assoc] at hfuel ⊢
      have hend : skipBlank (close ++ ']' :: rest) = ']' :: rest := by
        rw [Json.skipBlank_append hclose, Json.skipBlank_cons (by decide)]
      rw [Json.readItems_last (hread _ (by omega)) hend]
      rfl
    | cons w l =>
      rw [spellItems] at hfuel ⊢
      simp only [List.length_append, List.length_cons, List.append_assoc, List.cons_append] at hfuel ⊢
      have hnext (more : List Char) : skipBlank (',' :: more) = ',' :: more := Json.skipBlank_cons (by decide) more
      rw [Json.readItems_more (hread _ (by omega)) (hnext _),
        ih (fun a ha => hl a (List.mem_cons_of_mem v ha)) (by simp) (by omega)
          fun a ha => hdepth a (List.mem_cons_of_mem v ha)]
      rfl

theorem readMembers_spell {m : List (String × Value)} (hm : ∀ e ∈ m, e.2.ReadsBack sp) (hne : m ≠ [])
    {n fuel depth : Nat} (hfuel : (spellEntries sp n m).length + 1 ≤ fuel) (hdepth : ∀ e ∈ m, e.2.depth ≤ depth)
    {close : List Char} (hclose : ∀ c ∈ close, isBlank c = true) (rest : List Char) :
    readMembers fuel depth (spellEntries sp n m ++ (close ++ '}' :: rest)) = some (toJsonEntries m, rest) := by
  induction m generalizing fuel with
  | nil => exact absurd rfl hne
  | cons e m ih =>
    obtain ⟨k, v⟩ := e
    obtain ⟨fuel, rfl⟩ : ∃ f, fuel = f + 1 := ⟨fuel - 1, by omega⟩
    have hread (more : List Char) (hfuel : (v.spell sp n).length ≤ fuel) :
        readValue fuel depth (sp.space ++ (v.spell sp n ++ more)) = some (v.toJson, more) := by
      rw [Json.readValue_blanks sp.blank_space]
      exact hm (k, v) List.mem_cons_self n fuel depth more hfuel (hdepth (k, v) List.mem_cons_self)
    cases m with
    | nil =>
      simp only [spellEntries, List.append_nil, List.length_append, List.length_cons, List.append_assoc,
        List.cons_append] at hfuel ⊢
      have hend : skipBlank (close ++ '}' :: rest) = '}' :: rest := by
        rw [Json.skipBlank_append hclose, Json.skipBlank_cons (by decide)]
      rw [Json.readMembers_blanks (sp.blank_gap n), Json.readMembers_last k (hread _ (by omega)) hend]
      rfl
    | cons e' m =>
      rw [spellEntries] at hfuel ⊢
      simp only [List.length_append, List.length_cons, List.append_assoc, List.cons_append] at hfuel ⊢
      have hnext (more : List Char) : skipBlank (',' :: more) = ',' :: more := Json.skipBlank_cons (by decide) more
      rw [Json.readMembers_blanks (sp.blank_gap n), Json.readMembers_more k (hread _ (by omega)) (hnext _),
        ih (fun a ha => hm a (List.mem_cons_of_mem (k, v) ha)) (by simp) (by omega)
          fun a ha => hdepth a (List.mem_cons_of_mem (k, v) ha)]
      rfl

theorem readsBack (sp : Spacing) (v : Value) : v.ReadsBack sp := by
  induction v using induction_children with
  | str s =>
    intro n fuel depth rest hfuel hdepth
    obtain ⟨fuel, rfl⟩ : ∃ f, fuel = f + 1 := ⟨fuel - 1, by simp [spell, Json.quoteChars] at hfuel; omega⟩
    rw [spell, Json.readValue_string, String.ofList_toList]
    rfl
  | map m ih =>
    intro n fuel depth rest hfuel hdepth
    obtain ⟨depth, rfl, hm⟩ := depth_map_le_iff.mp hdepth
    cases m with
    | nil =>
      obtain ⟨fuel, rfl⟩ : ∃ f, fuel = f + 1 := ⟨fuel - 1, by simp [spell] at hfuel; omega⟩
      exact Json.readValue_emptyObject fuel depth rest
    | cons e m =>
      rw [spell] at hfuel ⊢
      simp only [List.length_append, List.length_cons, List.length_nil] at hfuel
      obtain ⟨fuel, rfl⟩ : ∃ f, fuel = f + 1 := ⟨fuel - 1, by omega⟩
      simp only [List.cons_append, List.append_assoc, List.nil_append]
      rw [Json.readValue_object, readMembers_spell ih (by simp) (by omega) hm (sp.blank_gap n)]
      · rfl
      · exact head?_spellEntries sp (n + 1) (by simp) _
  | list l ih =>
    intro n fuel depth rest hfuel hdepth
    obtain ⟨depth, rfl, hl⟩ := depth_list_le_iff.mp hdepth
    cases l with
    | nil =>
      obtain ⟨fuel, rfl⟩ : ∃ f, fuel = f + 1 := ⟨fuel - 1, by simp [spell] at hfuel; omega⟩
      exact Json.readValue_emptyArray fuel depth rest
    | cons v l =>
      rw [spell] at hfuel ⊢
      simp only [List.length_append, List.length_cons, List.length_nil] at hfuel
      obtain ⟨fuel, rfl⟩ : ∃ f, fuel = f + 1 := ⟨fuel - 1, by omega⟩
      simp only [List.cons_append, List.append_assoc, List.nil_append]
      rw [Json.readValue_array, readItems_spell ih (by simp) (by omega) hl (sp.blank_gap n)]
      · rfl
      · exact head?_spellItems sp (n + 1) (by simp) _

/-- Blanks behind the text of a value do not count. -/
theorem readWithin?_spell (sp : Spacing) {v : Value} {d : Nat} (h : v.depth ≤ d) (n : Nat) {blanks : List Char}
    (hblanks : ∀ c ∈ blanks, Json.isBlank c = true) :
    Json.readWithin? d (String.ofList (v.spell sp n ++ blanks)) = some v.toJson := by
  have hfuel : (v.spell sp n).length ≤ 2 * (v.spell sp n ++ blanks).length + 2 := by
    rw [List.length_append]
    omega
  have hread := readsBack sp v n (2 * (v.spell sp n ++ blanks).length + 2) d blanks hfuel h
  have hskip : Json.skipBlank blanks = [] := by
    have hend := Json.skipBlank_append hblanks []
    rwa [List.append_nil] at hend
  simp only [Json.readWithin?, String.toList_ofList, hread, hskip]
  rfl

/-- A value that nests less than 128 deep is read back from both of its JSON texts, whatever blanks follow. -/
theorem read?_compact_append {v : Value} (h : v.depth < 128) {blanks : List Char}
    (hblanks : ∀ c ∈ blanks, Json.isBlank c = true) :
    Json.read? (v.compact ++ String.ofList blanks) = some v.toJson := by
  have hread := readWithin?_spell .compact (Nat.le_of_lt_succ h) 0 hblanks
  rwa [spell_compact, String.ofList_append] at hread

theorem read?_pretty_append {v : Value} (h : v.depth < 128) {blanks : List Char}
    (hblanks : ∀ c ∈ blanks, Json.isBlank c = true) :
    Json.read? (v.pretty ++ String.ofList blanks) = some v.toJson := by
  have hread := readWithin?_spell .indented (Nat.le_of_lt_succ h) 0 hblanks
  rwa [spell_indented, String.ofList_append] at hread

theorem read?_compact {v : Value} (h : v.depth < 128) : Json.read? v.compact = some v.toJson := by
  simpa using read?_compact_append h (List.forall_mem_nil _)

end Value

end LineRules
