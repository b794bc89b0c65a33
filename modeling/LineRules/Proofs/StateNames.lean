/-
  LineRules.Proofs.StateNames — texts that name states.

  States are named in two places. A guard lists the states in which its rule is tried, between commas; a
  transition leads to one, unless its text is blank or one of the two words for what is no state. Both take
  white space away around a name, and for both a blank text names nothing.

  The names of a guard hold no commas and need no trimming, so between commas they are read again as the
  same guard (`Guard.ofText_names`). What transitions lead to are the texts that are bare and none of the
  two words (`StateName`, `Transition.exists_text_iff`). A guard with the text of such a transition admits
  this state only (`admits_of_goto`), unless there is a comma in it: then the guard has a name for each
  piece, and the transition still leads to one state. The states of a scan are the first one and those that
  transitions lead to, so each of them has such a name (`stateName_of_reachable`).
-/

import LineRules.Proofs.Characters
import LineRules.Proofs.Loading
import LineRules.Proofs.Slices

namespace LineRules

open Unicode (Bare Blank trim trim_trim trim_eq_empty_iff)

/-! ## Guards -/

namespace Guard

theorem admits_iff (g : Guard) (state : String) : g.admits state = true ↔ g = .any ∨ state ∈ g.names := by
  cases g with
  | any => simp [admits]
  | states names => simp [admits, Guard.names]

theorem names_ofNames (names : List String) : (ofNames names).names = (names.map trim).filter (· ≠ "") := by
  unfold ofNames
  split
  · rename_i hnone
    rw [hnone, Guard.names]
  · rfl

theorem ofNames_eq_any_iff {names : List String} : ofNames names = .any ↔ (ofNames names).names = [] := by
  rw [names_ofNames]
  unfold ofNames
  split <;> simp_all

/-- A guard that names were made into is known by the names that are left. -/
theorem ofNames_congr {names names' : List String} (h : (ofNames names).names = (ofNames names').names) :
    ofNames names = ofNames names' := by
  rw [names_ofNames, names_ofNames] at h
  rw [ofNames, ofNames, h]

theorem ofNames_names (names : List String) : ofNames (ofNames names).names = ofNames names := by
  apply ofNames_congr
  have htrimmed : (ofNames names).names.map trim = (ofNames names).names := by
    have hself : ∀ s ∈ (ofNames names).names, trim s = id s := by
      intro s hs
      rw [names_ofNames, List.mem_filter] at hs
      obtain ⟨piece, -, rfl⟩ := List.mem_map.mp hs.1
      exact trim_trim piece
    rw [List.map_congr_left hself, List.map_id]
  rw [names_ofNames, htrimmed, names_ofNames, List.filter_filter]
  simp

theorem mem_names_ofText {text state : String} :
    state ∈ (ofText text).names ↔ ∃ piece ∈ Text.pieces ',' text, ¬Blank piece ∧ trim piece = state := by
  rw [ofText, names_ofNames, List.mem_filter, List.mem_map]
  constructor
  · rintro ⟨⟨piece, hpiece, rfl⟩, hfilled⟩
    exact ⟨piece, hpiece, by simpa [trim_eq_empty_iff] using hfilled, rfl⟩
  · rintro ⟨piece, hpiece, hfilled, rfl⟩
    exact ⟨⟨piece, hpiece, rfl⟩, by simpa [trim_eq_empty_iff] using hfilled⟩

theorem ofText_eq_any_iff (text : String) : ofText text = .any ↔ ∀ piece ∈ Text.pieces ',' text, Blank piece := by
  rw [ofText, ofNames_eq_any_iff, ← ofText, List.eq_nil_iff_forall_not_mem]
  constructor
  · intro h piece hpiece
    by_contra hfilled
    exact h (trim piece) (mem_names_ofText.mpr ⟨piece, hpiece, hfilled, rfl⟩)
  · intro h state hstate
    obtain ⟨piece, hpiece, hfilled, -⟩ := mem_names_ofText.mp hstate
    exact hfilled (h piece hpiece)

/-- The names of a guard, with commas between them, are read as this guard again. -/
theorem ofText_names (text : String) : ofText (String.intercalate "," (ofText text).names) = ofText text := by
  by_cases hnone : (ofText text).names = []
  · have hany : ofText text = .any := ofNames_eq_any_iff.mpr hnone
    rw [hnone, hany]
    decide
  · have hcommas : ∀ state ∈ (ofText text).names, ',' ∉ state.toList := by
      intro state hstate hcomma
      obtain ⟨piece, hpiece, -, rfl⟩ := mem_names_ofText.mp hstate
      exact Text.notMem_of_mem_pieces hpiece (Unicode.mem_of_mem_trim hcomma)
    have hpieces : Text.pieces ',' (String.intercalate "," (ofText text).names) = (ofText text).names :=
      Text.pieces_intercalate rfl hnone hcommas
    rw [ofText, hpieces]
    exact ofNames_names _

end Guard

/-! ## Transitions -/

/-- A text that names a state: neither empty nor with white space at an end, and none of the words for what
    is no state. -/
structure StateName (state : String) : Prop where
  filled : state ≠ ""
  bare : Bare state.toList
  not_proceed : state ≠ Transition.proceedText
  not_stop : state ≠ Transition.stopText

namespace Transition

/-- A transition leads to what trimming leaves of its text, if that can be the name of a state. -/
theorem ofText_eq_goto_iff {text next : String} : ofText text = .goto next ↔ next = trim text ∧ StateName next := by
  constructor
  · intro h
    simp only [ofText] at h
    split at h
    · cases h
    · rename_i hfilled
      split at h
      · cases h
      · rename_i hproceed
        split at h
        · cases h
        · rename_i hstop
          cases h
          exact ⟨rfl, hfilled, Unicode.bare_trim text, hproceed, hstop⟩
  · rintro ⟨rfl, hname⟩
    simp only [ofText, hname.filled, hname.not_proceed, hname.not_stop, if_false]

/-- A transition can lead to a state just if it has such a name. -/
theorem exists_text_iff {next : String} : (∃ text, ofText text = .goto next) ↔ StateName next := by
  constructor
  · rintro ⟨text, htext⟩
    exact (ofText_eq_goto_iff.mp htext).2
  · intro h
    exact ⟨next, ofText_eq_goto_iff.mpr ⟨(Unicode.trim_of_bare h.bare).symm, h⟩⟩

/-- The text of a transition is what trimming leaves of the text it was read from. -/
theorem text_ofText (text : String) : (ofText text).text = trim text := by
  simp only [ofText]
  split
  · rename_i hblank
    exact hblank.symm
  · split
    · rename_i hproceed
      exact hproceed.symm
    · split
      · rename_i hstop
        exact hstop.symm
      · rfl

/-- A transition that was read from a text is read from its own text again. -/
theorem ofText_text (text : String) : ofText (ofText text).text = ofText text := by
  rw [text_ofText]
  simp only [ofText, trim_trim]

end Transition

/-- Without commas, the text of a transition to a state is the text of the guard for this state. -/
theorem admits_of_goto {text next : String} (hcomma : ',' ∉ text.toList) (h : Transition.ofText text = .goto next)
    (state : String) : (Guard.ofText text).admits state = true ↔ state = next := by
  obtain ⟨rfl, hname⟩ := Transition.ofText_eq_goto_iff.mp h
  have hguard : Guard.ofText text = .states [trim text] := by
    rw [Guard.ofText, Text.pieces_of_notMem hcomma, Guard.ofNames]
    simp [hname.filled]
  simp [hguard, Guard.admits]

/-! ## The states of a scan -/

theorem stateName_of_attainable {t : Table} (ht : ∀ rule ∈ t.rules, ∃ text, rule.transition = .ofText text)
    {state : String} (h : t.Attainable state) : StateName state := by
  cases h with
  | top => exact Transition.exists_text_iff.mp ⟨"top", by decide⟩
  | @goto rule _ next _ hmem _ hgoto =>
    obtain ⟨text, htext⟩ := ht rule hmem
    exact Transition.exists_text_iff.mp ⟨text, htext.symm.trans hgoto⟩

/-- A field of a row says what its transition is by a text, or by nothing, which counts as the empty text. -/
theorem exists_text_of_transitionOfJson? {j : Json} {transition : Transition}
    (h : Table.transitionOfJson? j = some transition) : ∃ text, transition = .ofText text := by
  cases j with
  | null =>
    obtain rfl := Option.some.inj h
    exact ⟨"", by decide⟩
  | string s => exact ⟨s, (Option.some.inj h).symm⟩
  | _ => cases h

theorem exists_text_of_rowsOfJson {j : Json} {rows : List Row} (h : Table.rowsOfJson j = .ok rows) :
    ∀ row ∈ rows, ∃ text, row.transition = .ofText text := by
  intro row hrow
  obtain ⟨rule, item, hitem⟩ := Table.exists_rowOfJson h hrow
  obtain ⟨guard, transition, pattern, path, filter, -, -, htransition, -⟩ := Table.rowOfJson_eq_ok hitem
  exact exists_text_of_transitionOfJson? htransition

/-- Where the transitions of the rows were read from texts, every state that a scan comes to has such a name. -/
theorem stateName_of_reachable {flags : Pattern.Flags} {rows : List Row} {t : Table}
    (ht : Table.ofRows flags rows = .ok t) (htext : ∀ row ∈ rows, ∃ text, row.transition = .ofText text)
    {o : ScanOptions} {s : Scan} (hs : Reachable t o s) : StateName s.state := by
  refine stateName_of_attainable (fun rule hrule => ?_) (attainable_of_reachable hs)
  obtain ⟨row, hrow, hof⟩ := exists_row ht hrule
  rw [hof.fields.2.1]
  exact htext row hrow

/-- A guard that was read from a text is read again from its names with commas between them. It admits every
    state if all pieces of the text are blank, and otherwise the pieces that are not, without the white space
    around them. A transition is read again from its own text. If it leads to a state, then the same text is,
    unless it holds a comma, the one of the guard that admits this state and no other. So no scan with a table
    whose transitions were read from texts, such as one read from JSON, comes to a state that has no name. -/
theorem state_texts :
    (∀ text, Guard.ofText (String.intercalate "," (Guard.ofText text).names) = Guard.ofText text ∧
      (Guard.ofText text = .any ↔ ∀ piece ∈ Text.pieces ',' text, Blank piece) ∧
      (Guard.ofText text ≠ .any → ∀ state, (Guard.ofText text).admits state = true ↔
        ∃ piece ∈ Text.pieces ',' text, ¬Blank piece ∧ trim piece = state)) ∧
    (∀ text, Transition.ofText (Transition.ofText text).text = Transition.ofText text) ∧
    (∀ next, (∃ text, Transition.ofText text = .goto next) ↔ StateName next) ∧
    (∀ text next, ',' ∉ text.toList → Transition.ofText text = .goto next →
      ∀ state, (Guard.ofText text).admits state = true ↔ state = next) ∧
    (∀ flags rows t, Table.ofRows flags rows = .ok t → (∀ row ∈ rows, ∃ text, row.transition = .ofText text) →
      ∀ o s, Reachable t o s → StateName s.state) ∧
    ∀ flags text t, Table.ofText flags text = .ok t → ∀ o s, Reachable t o s → StateName s.state := by
  refine ⟨?_, Transition.ofText_text, ?_, ?_, ?_, ?_⟩
  · intro text
    refine ⟨Guard.ofText_names text, Guard.ofText_eq_any_iff text, fun hany state => ?_⟩
    rw [Guard.admits_iff, Guard.mem_names_ofText]
    exact or_iff_right hany
  · intro next
    exact Transition.exists_text_iff
  · intro text next hcomma hgoto
    exact admits_of_goto hcomma hgoto
  · intro flags rows t ht htext o s hs
    exact stateName_of_reachable ht htext hs
  · intro flags text t ht o s hs
    obtain ⟨j, rows, -, hrows, hof⟩ := Table.ofText_eq_ok ht
    exact stateName_of_reachable hof (exists_text_of_rowsOfJson hrows) hs

def padded : List Row :=
  [ { guard := .ofText " top,\t, idle ", transition := .ofText "\tbody ", pattern := .text "a" },
    { guard := .ofText "body", transition := .ofText " __continue__ ", pattern := .text "b" } ]

theorem state_texts_padded :
    (Guard.ofText " top,\t, idle ").names = ["top", "idle"] ∧
    Guard.ofText "top,idle" = Guard.ofText " top,\t, idle " ∧
    (∃ piece ∈ Text.pieces ',' " top,\t, idle ", ¬Blank piece ∧ trim piece = "idle") ∧
    Transition.ofText "__continue__" = Transition.ofText " __continue__ " ∧
    (∀ state, (Guard.ofText "\tbody ").admits state = true ↔ state = "body") ∧
    (∃ t s, Table.ofRows {} padded = .ok t ∧ Reachable t {} s ∧ s.state = "body" ∧ StateName s.state) ∧
    ∃ t s, Table.ofText {} r#"[[" top ","body ","a",null,null]]"# = .ok t ∧ Reachable t {} s ∧
      s.state = "body" ∧ StateName s.state := by
  obtain ⟨hguard, htransition, -, hgoto, hrows, htable⟩ := state_texts
  obtain ⟨hnames, -, hadmits⟩ := hguard " top,\t, idle "
  have hlist : (Guard.ofText " top,\t, idle ").names = ["top", "idle"] := by decide +kernel
  rw [hlist] at hnames
  have hidle := (hadmits (by decide +kernel) "idle").mp (by decide +kernel)
  refine ⟨hlist, hnames, hidle, htransition " __continue__ ",
    hgoto "\tbody " "body" (by decide) (by decide +kernel), ?_, ?_⟩
  · have hseen : (Table.ofRows {} padded).map (fun t => (t.scan {} ["a", "b"]).map Scan.state) = .ok (.ok "body") := by
      decide +kernel
    obtain ⟨t, ht, hscan⟩ := map_eq_ok hseen
    obtain ⟨s, hs, hstate⟩ := map_eq_ok hscan.symm
    have htexts : ∀ row ∈ padded, ∃ text, row.transition = .ofText text := by
      simp only [padded, List.forall_mem_cons]
      exact ⟨⟨_, rfl⟩, ⟨_, rfl⟩, by simp⟩
    have hreach : Reachable t {} s := reachable_run .start hs
    exact ⟨t, s, ht, hreach, hstate.symm, hrows {} padded t ht htexts {} s hreach⟩
  · have hseen : (Table.ofText {} r#"[[" top ","body ","a",null,null]]"#).map
        (fun t => (t.scan {} ["a"]).map Scan.state) = .ok (.ok "body") := by
      decide +kernel
    obtain ⟨t, ht, hscan⟩ := map_eq_ok hseen
    obtain ⟨s, hs, hstate⟩ := map_eq_ok hscan.symm
    have hreach : Reachable t {} s := reachable_run .start hs
    exact ⟨t, s, ht, hreach, hstate.symm, htable {} _ t ht {} s hreach⟩

end LineRules
