/-
  LineRules.Proofs.ReadingBack — a value and its JSON text.

  What is read from the text of a value is the document of the value, so it is the value with its keys in
  order (`ofJson_read_compact`). The order of keys is lost by the document only, not by the text: two
  values with the same text are the same, entry by entry (`compact_inj`). For this it does not matter how
  deep they nest; the text of a value does not begin like the text of any other one (`legible`).
-/

import LineRules.Proofs.SpacedText

namespace LineRules.Value

/-! ## Different values, different texts -/

theorem renderEntries_cons (k : String) (v : Value) (m : List (String × Value)) :
    renderEntries ((k, v) :: m) = Json.quoteChars k.toList ++ ':' :: (v.render ++
      if m.isEmpty then [] else ',' :: renderEntries m) := by cases m <;> rfl

theorem renderItems_cons (v : Value) (l : List Value) :
    renderItems (v :: l) = v.render ++ if l.isEmpty then [] else ',' :: renderItems l := by cases l <;> rfl

/-- Other values are written differently, whatever follows them. -/
def Legible (v : Value) : Prop := ∀ w rest rest', v.render ++ rest = w.render ++ rest' → v = w ∧ rest = rest'

/-- What follows the first entry or item tells whether there are more of them. -/
theorem tail_inj {α : Type} {write : List α → List Char} {xs ys : List α} {close : Char} (hclose : close ≠ ',')
    {rest rest' : List Char} (h : (if xs.isEmpty then [] else ',' :: write xs) ++ close :: rest =
      (if ys.isEmpty then [] else ',' :: write ys) ++ close :: rest') :
    (xs = [] ∧ ys = [] ∧ rest = rest') ∨ write xs ++ close :: rest = write ys ++ close :: rest' := by
  cases xs with
  | nil =>
    cases ys with
    | nil => simpa using h
    | cons y ys => simp [hclose] at h
  | cons x xs =>
    cases ys with
    | nil => simp [hclose.symm] at h
    | cons y ys =>
      right
      simpa using h

theorem renderEntries_inj {m m' : List (String × Value)} (hm : ∀ e ∈ m, e.2.Legible) {rest rest' : List Char}
    (h : renderEntries m ++ '}' :: rest = renderEntries m' ++ '}' :: rest') : m = m' ∧ rest = rest' := by
  induction m generalizing m' with
  | nil =>
    cases m' with
    | nil => exact ⟨rfl, (List.cons.inj h).2⟩
    | cons e' m' =>
      rw [renderEntries_cons] at h
      simp [renderEntries, Json.quoteChars] at h
  | cons e m ih =>
    cases m' with
    | nil =>
      rw [renderEntries_cons] at h
      simp [renderEntries, Json.quoteChars] at h
    | cons e' m' =>
      obtain ⟨k, v⟩ := e
      obtain ⟨k', v'⟩ := e'
      simp only [renderEntries_cons, List.append_assoc, List.cons_append] at h
      obtain ⟨hkey, hvalue⟩ := Json.quoteChars_inj h
      obtain ⟨rfl, htail⟩ := hm (k, v) List.mem_cons_self v' _ _ (List.cons.inj hvalue).2
      obtain rfl := String.toList_inj.mp hkey
      rcases tail_inj (by decide) htail with ⟨rfl, rfl, hrest⟩ | hmore
      · exact ⟨rfl, hrest⟩
      · obtain ⟨rfl, hrest⟩ := ih (fun a ha => hm a (List.mem_cons_of_mem (k, v) ha)) hmore
        exact ⟨rfl, hrest⟩

theorem renderItems_inj {l l' : List Value} (hl : ∀ v ∈ l, v.Legible) {rest rest' : List Char}
    (h : renderItems l ++ ']' :: rest = renderItems l' ++ ']' :: rest') : l = l' ∧ rest = rest' := by
  have hopen (v : Value) (cs : List Char) : v.render ++ cs ≠ ']' :: rest ∧ v.render ++ cs ≠ ']' :: rest' := by
    obtain ⟨c, more, hc, -, hne⟩ := exists_head_spell .compact 0 v
    rw [← spell_compact v 0, hc]
    simp [hne]
  induction l generalizing l' with
  | nil =>
    cases l' with
    | nil => exact ⟨rfl, (List.cons.inj h).2⟩
    | cons v' l' =>
      rw [renderItems_cons, List.append_assoc] at h
      exact absurd h.symm (hopen v' _).1
  | cons v l ih =>
    cases l' with
    | nil =>
      rw [renderItems_cons, List.append_assoc] at h
      exact absurd h (hopen v _).2
    | cons v' l' =>
      simp only [renderItems_cons, List.append_assoc] at h
      obtain ⟨rfl, htail⟩ := hl v List.mem_cons_self v' _ _ h
      rcases tail_inj (by decide) htail with ⟨rfl, rfl, hrest⟩ | hmore
      · exact ⟨rfl, hrest⟩
      · obtain ⟨rfl, hrest⟩ := ih (fun a ha => hl a (List.mem_cons_of_mem v ha)) hmore
        exact ⟨rfl, hrest⟩

theorem legible (v : Value) : v.Legible := by
  induction v using induction_children with
  | str s =>
    intro w rest rest' h
    cases w with
    | str t =>
      obtain ⟨htext, hrest⟩ := Json.quoteChars_inj h
      exact ⟨by rw [String.toList_inj.mp htext], hrest⟩
    | map m => simp [render, Json.quoteChars] at h
    | list l => simp [render, Json.quoteChars] at h
  | map m ih =>
    intro w rest rest' h
    cases w with
    | map m' =>
      simp only [render, List.cons_append, List.append_assoc, List.nil_append, List.cons.injEq, true_and] at h
      obtain ⟨rfl, hrest⟩ := renderEntries_inj ih h
      exact ⟨rfl, hrest⟩
    | str s => simp [render, Json.quoteChars] at h
    | list l => simp [render] at h
  | list l ih =>
    intro w rest rest' h
    cases w with
    | list l' =>
      simp only [render, List.cons_append, List.append_assoc, List.nil_append, List.cons.injEq, true_and] at h
      obtain ⟨rfl, hrest⟩ := renderItems_inj ih h
      exact ⟨rfl, hrest⟩
    | str s => simp [render, Json.quoteChars] at h
    | map m => simp [render] at h

theorem compact_inj {v w : Value} (h : v.compact = w.compact) : v = w := by
  have hchars : v.render ++ [] = w.render ++ [] := by rw [String.ofList_injective h]
  exact (legible v w [] [] hchars).1

theorem compact_toJson {v : Value} (h : v.Distinct) : v.toJson.compact = v.sorted.compact := by
  rw [Json.compact, toJson_eq h, render_document, compact]

theorem ofJson_toJson {v : Value} (h : v.Distinct) : ofJson v.toJson = v.sorted := by
  rw [toJson_eq h, ofJson_document]

/-- A value that nests less than 128 deep is read back from its JSON text, with the keys of its mappings in order,
    and so it is by way of its document, which is written as the sorted value is. No two values have the same text,
    however deep they nest, and this text is how mappings and lists are displayed. -/
theorem ofJson_read_compact (v : Value) :
    (v.Distinct →
      (v.depth < 128 → ∃ j, Json.read? v.compact = some j ∧ ofJson j = v.sorted) ∧
      (v.depth < 128 → ∃ j, Json.read? v.toJson.compact = some j ∧ ofJson j = v.sorted) ∧
      ofJson v.toJson = v.sorted ∧ v.toJson.compact = v.sorted.compact ∧
      v.sorted.InOrder ∧ v.same v.sorted = true ∧ v.sorted.same v = true) ∧
    (∀ w : Value, v.compact = w.compact → v = w) ∧
    ((∀ s, v ≠ .str s) → v.display = v.compact) := by
  refine ⟨?_, ?_, ?_⟩
  · intro hv
    have hsorted : v.sorted.InOrder := inOrder_sorted hv
    refine ⟨?_, ?_, ofJson_toJson hv, compact_toJson hv, hsorted, same_sorted hv⟩
    · intro hdepth
      exact ⟨v.toJson, read?_compact hdepth, ofJson_toJson hv⟩
    · intro hdepth
      have hread : Json.read? v.sorted.compact = some v.sorted.toJson :=
        read?_compact (Nat.lt_succ_of_le (depth_sorted_le (Nat.le_of_lt_succ hdepth)))
      refine ⟨v.sorted.toJson, by rw [compact_toJson hv, hread], ?_⟩
      rw [ofJson_toJson hsorted.distinct, sorted_of_inOrder hsorted]
  · intro w h
    exact compact_inj h
  · intro h
    cases v with
    | str s => exact absurd rfl (h s)
    | map m => rfl
    | list l => rfl

/-- Keys out of order, with a quote, a control character and an empty mapping further inside. -/
theorem ofJson_read_compact_unsorted :
    let v := Value.map [("b", .list [.str "\x01\"", .map []]), ("a", .str "é\\")]
    v.Distinct ∧ v.depth < 128 ∧ v.compact = r#"{"b":["\u0001\"",{}],"a":"é\\"}"# ∧
      ∃ j, Json.read? v.compact = some j ∧
        ofJson j = .map [("a", .str "é\\"), ("b", .list [.str "\x01\"", .map []])] := by
  intro v
  have hdistinct : v.Distinct := by
    simp [v, Distinct, DistinctEntries, DistinctItems, Entries.Distinct, Entries.keys]
  have hdepth : v.depth < 128 := by decide
  have hsorted : v.sorted = .map [("a", .str "é\\"), ("b", .list [.str "\x01\"", .map []])] := by
    rfl
  refine ⟨hdistinct, hdepth, by decide, ?_⟩
  rw [← hsorted]
  exact ((ofJson_read_compact v).1 hdistinct).1 hdepth

end LineRules.Value
