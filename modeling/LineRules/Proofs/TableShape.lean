/-
  LineRules.Proofs.TableShape — which documents are tables, and what is said of the others.

  A row has five columns, and each column takes JSON of some kinds (`columns`). Reading a field
  succeeds if and only if its column takes it (`Column.Reads`), so a row is read if and only if its
  fields fit the columns one by one (`RowShape`), and otherwise the first that does not fit is named
  (`FirstMisfit`). The faults of a document are ordered by `ShapeError`: the document itself, then its
  first faulty item, and of that item that it is no array, then its length, then its fields
  (`rowsOfJson_shape`).
-/

import LineRules.Proofs.Loading

namespace LineRules.Table

/-! ## Columns -/

inductive Kind where
  | null
  | text
  | texts
  | object
  deriving DecidableEq, Repr

inductive Kind.Fits : Kind → Json → Prop
  | null : Fits .null .null
  | text (s : String) : Fits .text (.string s)
  | texts (ss : List String) : Fits .texts (.array (ss.map .string))
  | object (entries : List (String × Json)) : Fits .object (.object entries)

/-- A field of every row: its name, what errors say it must be, and what it may be. -/
structure Column where
  name : String
  expected : String
  kinds : List Kind

namespace Column

def Fits (c : Column) (j : Json) : Prop := ∃ kind ∈ c.kinds, kind.Fits j

def error (rule : Nat) (c : Column) : TableError := .invalidField rule c.name c.expected

def guard : Column := ⟨"ifstate", "a string, an array of strings or null", [.null, .text, .texts]⟩

def transition : Column := ⟨"gotostate", "a string or null", [.null, .text]⟩

def pattern : Column := ⟨"pattern", "a string", [.text]⟩

def path : Column := ⟨"datapath", "a string, an array of strings or null", [.null, .text, .texts]⟩

def filter : Column := ⟨"outfilter", "null, a string or an object", [.null, .text, .object]⟩

/-- A reader yields something exactly for what the column takes. -/
def Reads {α : Type} (c : Column) (read : Json → Option α) : Prop := ∀ j, c.Fits j ↔ ∃ a, read j = some a

end Column

def columns : List Column := [.guard, .transition, .pattern, .path, .filter]

theorem textsOf?_map_string (ss : List String) : textsOf? (ss.map .string) = some ss := by
  induction ss with
  | nil => rfl
  | cons s ss ih => rw [List.map_cons, textsOf?, ih, Option.map_some]

theorem textsOf?_eq_some {items : List Json} {ss : List String} (h : textsOf? items = some ss) :
    items = ss.map .string := by
  induction items generalizing ss with
  | nil => cases h; rfl
  | cons item rest ih =>
    cases item with
    | string s =>
      obtain ⟨ss', hrest, rfl⟩ := Option.map_eq_some_iff.mp h
      rw [ih hrest, List.map_cons]
    | _ => cases h

/-- An array fits a column of texts if and only if all its items are texts. -/
theorem texts_fits_iff {items : List Json} : Kind.texts.Fits (.array items) ↔ ∃ ss, textsOf? items = some ss := by
  constructor
  · intro h
    cases h with
    | texts ss => exact ⟨ss, textsOf?_map_string ss⟩
  · rintro ⟨ss, h⟩
    rw [textsOf?_eq_some h]
    exact .texts ss

section Fits

variable {c : Column} {items : List Json} {entries : List (String × Json)} {s : String}

@[simp] theorem fits_null_iff : c.Fits .null ↔ .null ∈ c.kinds := by
  constructor
  · rintro ⟨kind, hkind, ⟨⟩⟩
    exact hkind
  · intro h
    exact ⟨_, h, .null⟩

@[simp] theorem fits_string_iff : c.Fits (.string s) ↔ .text ∈ c.kinds := by
  constructor
  · rintro ⟨kind, hkind, ⟨⟩⟩
    exact hkind
  · intro h
    exact ⟨_, h, .text s⟩

@[simp] theorem fits_object_iff : c.Fits (.object entries) ↔ .object ∈ c.kinds := by
  constructor
  · rintro ⟨kind, hkind, ⟨⟩⟩
    exact hkind
  · intro h
    exact ⟨_, h, .object entries⟩

@[simp] theorem fits_array_iff : c.Fits (.array items) ↔ .texts ∈ c.kinds ∧ ∃ ss, textsOf? items = some ss := by
  rw [← texts_fits_iff]
  constructor
  · rintro ⟨kind, hkind, hfits⟩
    cases hfits with
    | texts ss => exact ⟨hkind, .texts ss⟩
  · rintro ⟨hkind, hfits⟩
    exact ⟨_, hkind, hfits⟩

@[simp] theorem not_fits_bool (b : Bool) : ¬c.Fits (.bool b) := by
  rintro ⟨kind, -, ⟨⟩⟩

@[simp] theorem not_fits_number (n : Json.Number) : ¬c.Fits (.number n) := by
  rintro ⟨kind, -, ⟨⟩⟩

end Fits

theorem reads_guard : Column.guard.Reads guardOfJson? := by
  intro j
  cases j <;> simp [guardOfJson?, Column.guard]

theorem reads_transition : Column.transition.Reads transitionOfJson? := by
  intro j
  cases j <;> simp [transitionOfJson?, Column.transition]

theorem reads_pattern : Column.pattern.Reads patternOfJson? := by
  intro j
  cases j <;> simp [patternOfJson?, Column.pattern]

theorem reads_path : Column.path.Reads pathOfJson? := by
  intro j
  cases j <;> simp [pathOfJson?, Column.path]

theorem reads_filter : Column.filter.Reads filterOfJson? := by
  intro j
  cases j <;> simp [filterOfJson?, Column.filter]

/-! ## Rows -/

def RowShape (item : Json) : Prop := ∃ fields, item = .array fields ∧ List.Forall₂ Column.Fits columns fields

inductive FirstMisfit : List Column → List Json → Column → Prop
  | here {c : Column} {j : Json} (cs : List Column) (js : List Json) : ¬c.Fits j → FirstMisfit (c :: cs) (j :: js) c
  | behind {c d : Column} {j : Json} {cs : List Column} {js : List Json} :
      c.Fits j → FirstMisfit cs js d → FirstMisfit (c :: cs) (j :: js) d

inductive RowFault (rule : Nat) : Json → TableError → Prop
  | notSequence {item : Json} : (∀ fields, item ≠ .array fields) → RowFault rule item (.ruleNotSequence rule)
  | arity {fields : List Json} : fields.length ≠ 5 → RowFault rule (.array fields) (.wrongArity rule fields.length)
  | field {fields : List Json} {c : Column} : fields.length = 5 → FirstMisfit columns fields c →
      RowFault rule (.array fields) (c.error rule)

theorem firstMisfit_cons_iff {c d : Column} {j : Json} {cs : List Column} {js : List Json} :
    FirstMisfit (c :: cs) (j :: js) d ↔ (¬c.Fits j ∧ d = c) ∨ (c.Fits j ∧ FirstMisfit cs js d) := by
  constructor
  · intro h
    cases h with
    | here _ _ hj => exact Or.inl ⟨hj, rfl⟩
    | behind hj hd => exact Or.inr ⟨hj, hd⟩
  · rintro (⟨hj, rfl⟩ | ⟨hj, hd⟩)
    · exact .here cs js hj
    · exact .behind hj hd

/-- Of as many fields as columns either all fit, or one is the first that does not. -/
theorem forall₂_fits_iff {cs : List Column} {js : List Json} (h : cs.length = js.length) :
    List.Forall₂ Column.Fits cs js ↔ ∀ c, ¬FirstMisfit cs js c := by
  induction cs generalizing js with
  | nil =>
    obtain rfl : js = [] := List.eq_nil_of_length_eq_zero h.symm
    constructor
    · intro _ c hc
      cases hc
    · intro _
      exact .nil
  | cons c cs ih =>
    cases js with
    | nil => cases h
    | cons j js =>
      rw [List.forall₂_cons, ih (Nat.succ.inj h)]
      simp only [firstMisfit_cons_iff]
      by_cases hj : c.Fits j
      · simp [hj]
      · simp [hj]

/-- Reading one more field: what does not fit is reported, and otherwise the rest decides. -/
theorem bind_field_eq_error_iff {α β : Type} {c : Column} {read : Json → Option α} (hread : c.Reads read) {rule : Nat}
    {j : Json} {next : α → Except TableError β} {e : TableError} {cs : List Column} {js : List Json}
    (hnext : ∀ a, next a = .error e ↔ ∃ d, FirstMisfit cs js d ∧ e = d.error rule) :
    (field rule c.name c.expected (read j) >>= next) = .error e ↔
      ∃ d, FirstMisfit (c :: cs) (j :: js) d ∧ e = d.error rule := by
  have hfits := hread j
  simp only [firstMisfit_cons_iff]
  cases hj : read j with
  | none =>
    have hno : ¬c.Fits j := by simp [hfits, hj]
    have hfound : (field rule c.name c.expected (none : Option α) >>= next) = .error (c.error rule) := rfl
    rw [hfound, Except.error.injEq]
    simp [hno, eq_comm]
  | some a =>
    have hyes : c.Fits j := hfits.mpr ⟨a, hj⟩
    have hfound : (field rule c.name c.expected (some a) >>= next) = next a := rfl
    rw [hfound, hnext]
    simp [hyes]

theorem rowOfFields_eq_error_iff {rule : Nat} {guard transition pattern path filter : Json} {e : TableError} :
    rowOfFields rule guard transition pattern path filter = .error e ↔
      ∃ c, FirstMisfit columns [guard, transition, pattern, path, filter] c ∧ e = c.error rule := by
  refine bind_field_eq_error_iff reads_guard fun g => ?_
  refine bind_field_eq_error_iff reads_transition fun t => ?_
  refine bind_field_eq_error_iff reads_pattern fun p => ?_
  refine bind_field_eq_error_iff reads_path fun d => ?_
  refine bind_field_eq_error_iff reads_filter fun f => ?_
  constructor
  · intro h
    cases h
  · rintro ⟨c, hc, -⟩
    cases hc

theorem rowOfJson_eq_error_iff {rule : Nat} {item : Json} {e : TableError} :
    rowOfJson rule item = .error e ↔ RowFault rule item e := by
  unfold rowOfJson
  split
  · rename_i guard transition pattern path filter
    rw [rowOfFields_eq_error_iff]
    constructor
    · rintro ⟨c, hc, rfl⟩
      exact .field rfl hc
    · intro h
      cases h with
      | notSequence hno => exact absurd rfl (hno _)
      | arity hlength => exact absurd rfl hlength
      | field _ hc => exact ⟨_, hc, rfl⟩
  · rename_i fields hfive
    have hlength : fields.length ≠ 5 := by
      intro hlength
      match fields, hlength with
      | [guard, transition, pattern, path, filter], _ => exact hfive guard transition pattern path filter rfl
    constructor
    · rintro ⟨⟩
      exact .arity hlength
    · intro h
      cases h with
      | notSequence hno => exact absurd rfl (hno _)
      | arity _ => rfl
      | field hfive' _ => exact absurd hfive' hlength
  · rename_i hfive hno
    constructor
    · rintro ⟨⟩
      exact .notSequence hno
    · intro h
      cases h with
      | notSequence _ => rfl
      | arity _ => exact absurd rfl (hno _)
      | field _ _ => exact absurd rfl (hno _)

theorem exists_rowOfJson_iff {rule : Nat} {item : Json} : (∃ row, rowOfJson rule item = .ok row) ↔ RowShape item := by
  constructor
  · rintro ⟨row, hrow⟩
    obtain ⟨guard, transition, pattern, path, filter, rfl, -⟩ := rowOfJson_eq_ok hrow
    refine ⟨_, rfl, (forall₂_fits_iff rfl).mpr ?_⟩
    intro c hc
    have hfault : RowFault rule (.array [guard, transition, pattern, path, filter]) (c.error rule) := .field rfl hc
    have herror := rowOfJson_eq_error_iff.mpr hfault
    rw [hrow] at herror
    cases herror
  · rintro ⟨fields, rfl, hfields⟩
    have hlength : fields.length = 5 := hfields.length_eq.symm
    cases hrow : rowOfJson rule (.array fields) with
    | ok row => exact ⟨row, rfl⟩
    | error e =>
      cases rowOfJson_eq_error_iff.mp hrow with
      | notSequence hno => exact absurd rfl (hno _)
      | arity hne => exact absurd hlength hne
      | field _ hc => exact absurd hc ((forall₂_fits_iff hfields.length_eq).mp hfields _)

/-- The position of an item does not show in the row that it makes. -/
theorem rowOfJson_eq_ok_of_eq_ok {rule other : Nat} {item : Json} {row : Row} (h : rowOfJson rule item = .ok row) :
    rowOfJson other item = .ok row := by
  obtain ⟨guard, transition, pattern, path, filter, rfl, hguard, htransition, hpattern, hpath, hfilter⟩ :=
    rowOfJson_eq_ok h
  simp only [rowOfJson, rowOfFields, hguard, htransition, hpattern, hpath, hfilter]
  rfl

/-! ## Documents -/

inductive ShapeError : Json → TableError → Prop
  | notSequence {j : Json} : (∀ items, j ≠ .array items) → ShapeError j .notSequence
  | empty : ShapeError (.array []) .empty
  | row {before after : List Json} {item : Json} {e : TableError} : (∀ item ∈ before, RowShape item) →
      RowFault before.length item e → ShapeError (.array (before ++ item :: after)) e

theorem rowsOfJson_error_iff {j : Json} {e : TableError} : rowsOfJson j = .error e ↔ ShapeError j e := by
  rw [rowsOfJson_eq_error_iff]
  constructor
  · rintro (⟨hno, rfl⟩ | ⟨rfl, rfl⟩ | ⟨items, rfl, i, ⟨item, hi, herror⟩, hbefore⟩)
    · exact .notSequence hno
    · exact .empty
    · obtain ⟨hlt, rfl⟩ := List.getElem?_eq_some_iff.mp hi
      have hlength : (items.take i).length = i := List.length_take_of_le (Nat.le_of_lt hlt)
      have hitems : items = items.take i ++ items[i] :: items.drop (i + 1) := by
        rw [List.getElem_cons_drop, List.take_append_drop]
      rw [hitems]
      refine .row ?_ (by rw [hlength]; exact rowOfJson_eq_error_iff.mp herror)
      intro item hitem
      obtain ⟨k, hk, rfl⟩ := List.mem_take_iff_getElem.mp hitem
      exact exists_rowOfJson_iff.mp (hbefore k (by omega) _ (List.getElem?_eq_getElem _))
  · intro h
    cases h with
    | notSequence hno => exact Or.inl ⟨hno, rfl⟩
    | empty => exact Or.inr (Or.inl ⟨rfl, rfl⟩)
    | @row before after item _ hbefore hfault =>
      refine Or.inr (Or.inr ⟨_, rfl, before.length, ⟨item, by simp, rowOfJson_eq_error_iff.mpr hfault⟩, ?_⟩)
      intro k hk item' hitem'
      rw [List.getElem?_append_left hk] at hitem'
      exact exists_rowOfJson_iff.mpr (hbefore item' (List.mem_of_getElem? hitem'))

/-- The items of a table that is read, and its rows, one for each. -/
theorem forall₂_of_rowsOfJson {j : Json} {rows : List Row} (h : rowsOfJson j = .ok rows) :
    ∃ items, j = .array items ∧ List.Forall₂ (fun item row => ∀ rule, rowOfJson rule item = .ok row) items rows := by
  obtain ⟨items, rfl, hitems⟩ := rowsOfJson_eq_ok h
  refine ⟨items, rfl, List.forall₂_iff_get.mpr ⟨length_eq_of_getElem? hitems, ?_⟩⟩
  intro i hi hi' rule
  have hrow := hitems i
  rw [List.getElem?_eq_getElem hi, List.getElem?_eq_getElem hi', Option.map_some, Option.map_some,
    Option.some.injEq] at hrow
  exact rowOfJson_eq_ok_of_eq_ok hrow

theorem exists_rowsOfJson_iff {j : Json} :
    (∃ rows, rowsOfJson j = .ok rows) ↔ ∃ items, j = .array items ∧ items ≠ [] ∧ ∀ item ∈ items, RowShape item := by
  constructor
  · rintro ⟨rows, hrows⟩
    obtain ⟨items, rfl, hmade⟩ := forall₂_of_rowsOfJson hrows
    refine ⟨items, rfl, ?_, ?_⟩
    · rintro rfl
      cases hrows
    · intro item hitem
      obtain ⟨i, hi, rfl⟩ := List.mem_iff_getElem.mp hitem
      have hi' : i < rows.length := by rw [← hmade.length_eq]; exact hi
      exact exists_rowOfJson_iff.mp ⟨_, hmade.get hi hi' 0⟩
  · rintro ⟨items, rfl, hne, hitems⟩
    cases hrows : rowsOfJson (.array items) with
    | ok rows => exact ⟨rows, rfl⟩
    | error e =>
      cases rowsOfJson_error_iff.mp hrows with
      | notSequence hno => exact absurd rfl (hno _)
      | empty => exact absurd rfl hne
      | @row before after item _ _ hfault =>
        obtain ⟨row, hrow⟩ := exists_rowOfJson_iff.mpr (hitems item (by simp))
        rw [rowOfJson_eq_error_iff.mpr hfault] at hrow
        cases hrow

/-- The documents that are read as tables are the arrays of items that have the shape of a row, and each item makes
    the row at its own place. Any other document is refused for what `ShapeError` says of it, and for nothing else. -/
theorem rowsOfJson_shape (j : Json) :
    ((∃ rows, rowsOfJson j = .ok rows) ↔
      ∃ items, j = .array items ∧ items ≠ [] ∧ ∀ item ∈ items, RowShape item) ∧
    (∀ rows, rowsOfJson j = .ok rows → ∃ items, j = .array items ∧
      List.Forall₂ (fun item row => ∀ rule, rowOfJson rule item = .ok row) items rows) ∧
    ∀ e, rowsOfJson j = .error e ↔ ShapeError j e :=
  ⟨exists_rowsOfJson_iff, fun _ => forall₂_of_rowsOfJson, fun _ => rowsOfJson_error_iff⟩

/-- The second row has two fields that do not fit, the third one is too short and the last item is no row. -/
theorem rowsOfJson_shape_faults :
    rowsOfJson (.array [
      .array [.null, .null, .string "a", .null, .null],
      .array [.array [.string "top"], .bool true, .string "b", .array [.string "x", .null], .null],
      .array [.null, .null, .string "c"],
      .string "d"]) = .error (.invalidField 1 "gotostate" "a string or null") := by
  refine ((rowsOfJson_shape _).2.2 _).mpr ?_
  have hbefore : ∀ item ∈ [Json.array [.null, .null, .string "a", .null, .null]], RowShape item := by
    intro item hitem
    obtain rfl := List.mem_singleton.mp hitem
    exact ⟨_, rfl, by simp [columns, Column.guard, Column.transition, Column.pattern, Column.path, Column.filter]⟩
  refine ShapeError.row hbefore (RowFault.field (c := .transition) rfl ?_)
  refine .behind ?_ (.here _ _ ?_)
  · simp [Column.guard, textsOf?]
  · simp

end LineRules.Table
