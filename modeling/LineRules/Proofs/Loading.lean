/-
  LineRules.Proofs.Loading — which fault of a table is reported.

  A table is read from its text in three stages: the text must be JSON, the document must have the
  shape of a table, and each row must make a rule. The last two go through the table from its beginning
  and stop at the first thing that they refuse; both are `collect`, so `collect_eq_error_iff` says for
  both which one that is. Within a row the pattern is made before the path (`makePattern_eq_error_iff`,
  `makePath_eq_error_iff`). So a fault is reported only if no stage before it has found one, and if there
  is none further up in the table (`ofText_cases`).
-/

import LineRules.Proofs.Course
import LineRules.Proofs.DottedPaths
import LineRules.Table.Json

namespace LineRules

/-! ## Collecting -/

section Collect

variable {ε α β : Type}

/-- What the elements of a list yield, each with its position from `k` on; the first one that is refused
    decides the error. -/
def collect (f : Nat → α → Except ε β) (k : Nat) : List α → Except ε (List β)
  | [] => .ok []
  | a :: rest =>
    match f k a with
    | .error e => .error e
    | .ok b =>
      match collect f (k + 1) rest with
      | .error e => .error e
      | .ok bs => .ok (b :: bs)

variable {f : Nat → α → Except ε β} {k : Nat}

theorem collect_eq_ok_iff {l : List α} {bs : List β} :
    collect f k l = .ok bs ↔ ∀ i : Nat, l[i]?.map (f (k + i)) = bs[i]?.map .ok := by
  induction l generalizing k bs with
  | nil =>
    rw [collect, Except.ok.injEq]
    constructor
    · rintro rfl i; rfl
    · intro h
      cases bs with
      | nil => rfl
      | cons b bs => cases h 0
  | cons a rest ih =>
    rw [collect, ← Nat.and_forall_add_one]
    cases bs with
    | nil =>
      cases ha : f k a with
      | error e => simp
      | ok b => simp only; split <;> simp
    | cons b bs =>
      simp only [List.getElem?_cons_zero, List.getElem?_cons_succ, Option.map_some, Option.some.injEq, Nat.add_zero,
        ← Nat.add_assoc, Nat.add_right_comm k _ 1, ← ih]
      cases f k a with
      | error e => simp
      | ok b' => cases collect f (k + 1) rest <;> simp

theorem collect_eq_error_iff {l : List α} {e : ε} :
    collect f k l = .error e ↔ ∃ i : Nat, (∃ a, l[i]? = some a ∧ f (k + i) a = .error e) ∧
      ∀ j < i, ∀ b, l[j]? = some b → ∃ c, f (k + j) b = .ok c := by
  induction l generalizing k with
  | nil => simp [collect]
  | cons a rest ih =>
    rw [collect, ← Nat.or_exists_add_one]
    simp only [List.getElem?_cons_zero, List.getElem?_cons_succ, Option.some.injEq, Nat.add_zero,
      ← Nat.add_assoc, Nat.add_right_comm k _ 1, Nat.forall_lt_succ_left, exists_eq_left', forall_eq']
    cases ha : f k a with
    | error e' => simp
    | ok b =>
      have hrest := ih (k := k + 1)
      cases hc : collect f (k + 1) rest with
      | error e' => simpa [hc] using hrest
      | ok bs => simpa [hc] using hrest

theorem length_eq_of_getElem? {γ : Type} {f : Nat → α → γ} {g : β → γ} {l : List α} {bs : List β}
    (h : ∀ i : Nat, l[i]?.map (f i) = bs[i]?.map g) : l.length = bs.length := by
  have hnone (i : Nat) : l.length ≤ i ↔ bs.length ≤ i := by
    rw [← List.getElem?_eq_none_iff, ← List.getElem?_eq_none_iff, ← Option.map_eq_none_iff (f := f i), h,
      Option.map_eq_none_iff]
  have hl := (hnone l.length).mp (Nat.le_refl _)
  have hbs := (hnone bs.length).mpr (Nat.le_refl _)
  omega

end Collect

/-! ## The shape of a document -/

namespace Table

theorem rowsFrom_eq_collect (k : Nat) (items : List Json) : rowsFrom k items = collect rowOfJson k items := by
  induction items generalizing k with
  | nil => rfl
  | cons item rest ih =>
    rw [rowsFrom, collect, ih]
    cases rowOfJson k item with
    | error e => rfl
    | ok row => cases collect rowOfJson (k + 1) rest <;> rfl

theorem rowsOfJson_eq_ok {j : Json} {rows : List Row} (h : rowsOfJson j = .ok rows) :
    ∃ items, j = .array items ∧ ∀ i : Nat, items[i]?.map (rowOfJson i) = rows[i]?.map .ok := by
  unfold rowsOfJson at h
  split at h
  · cases h
  · rename_i items _
    rw [rowsFrom_eq_collect] at h
    exact ⟨items, rfl, by simpa using collect_eq_ok_iff.mp h⟩
  · cases h

/-- Every row of a table was made from an item. -/
theorem exists_rowOfJson {j : Json} {rows : List Row} (h : rowsOfJson j = .ok rows) {row : Row} (hrow : row ∈ rows) :
    ∃ rule item, rowOfJson rule item = .ok row := by
  obtain ⟨items, -, hitems⟩ := rowsOfJson_eq_ok h
  obtain ⟨rule, hrule⟩ := List.getElem?_of_mem hrow
  have hitem := hitems rule
  rw [hrule, Option.map_some] at hitem
  obtain ⟨item, -, hitem⟩ := Option.map_eq_some_iff.mp hitem
  exact ⟨rule, item, hitem⟩

/-- A document is no list, or it is empty, or one of its items is no row, all items before it being rows. -/
theorem rowsOfJson_eq_error_iff {j : Json} {e : TableError} : rowsOfJson j = .error e ↔
    ((∀ items, j ≠ .array items) ∧ e = .notSequence) ∨ (j = .array [] ∧ e = .empty) ∨
    ∃ items, j = .array items ∧ ∃ i : Nat, (∃ item, items[i]? = some item ∧ rowOfJson i item = .error e) ∧
      ∀ k < i, ∀ item, items[k]? = some item → ∃ row, rowOfJson k item = .ok row := by
  cases j with
  | array items =>
    cases items with
    | nil => simp [rowsOfJson, eq_comm]
    | cons item rest =>
      rw [rowsOfJson, rowsFrom_eq_collect, collect_eq_error_iff]
      · simp
      · simp
  | _ => simp [rowsOfJson, eq_comm]

theorem bind_eq_ok {ε α β : Type} {x : Except ε α} {f : α → Except ε β} {b : β} (h : x >>= f = .ok b) :
    ∃ a, x = .ok a ∧ f a = .ok b := by
  cases x with
  | error e => cases h
  | ok a => exact ⟨a, rfl, h⟩

theorem field_eq_ok {α : Type} {rule : Nat} {name expected : String} {found : Option α} {a : α}
    (h : field rule name expected found = .ok a) : found = some a := by
  cases found with
  | none => cases h
  | some b => rw [field, Except.ok.injEq] at h; rw [h]

/-- What a document is that makes a row. -/
theorem rowOfJson_eq_ok {rule : Nat} {j : Json} {row : Row} (h : rowOfJson rule j = .ok row) :
    ∃ guard transition pattern path filter, j = .array [guard, transition, pattern, path, filter] ∧
      guardOfJson? guard = some row.guard ∧ transitionOfJson? transition = some row.transition ∧
      patternOfJson? pattern = some row.pattern ∧ pathOfJson? path = some row.path ∧
      filterOfJson? filter = some row.filter := by
  unfold rowOfJson at h
  split at h
  · rename_i guard transition pattern path filter
    refine ⟨guard, transition, pattern, path, filter, rfl, ?_⟩
    obtain ⟨g, hg, h⟩ := bind_eq_ok h
    obtain ⟨t, ht, h⟩ := bind_eq_ok h
    obtain ⟨p, hp, h⟩ := bind_eq_ok h
    obtain ⟨d, hd, h⟩ := bind_eq_ok h
    obtain ⟨f, hf, h⟩ := bind_eq_ok h
    cases h
    exact ⟨field_eq_ok hg, field_eq_ok ht, field_eq_ok hp, field_eq_ok hd, field_eq_ok hf⟩
  · cases h
  · cases h

end Table

/-! ## Rows -/

namespace Row

/-- The pattern of the row does not build, alone or tied to the start of the line. -/
def BadPattern (flags : Pattern.Flags) (row : Row) (source : String) (cause : Pattern.Error) : Prop :=
  row.pattern = .text source ∧ (Pattern.Node.ofText flags source = .error cause ∨
    (∃ n, Pattern.Node.ofText flags source = .ok n) ∧
      Pattern.compile flags (Rule.tie flags.verbose source) = .error cause)

def BadPath (row : Row) (path : PathText) : Prop :=
  row.path = some path ∧ ∃ first rest, path.toSegments = first :: rest ∧ Path.Nameless first

structure Sound (flags : Pattern.Flags) (row : Row) : Prop where
  pattern : ∀ source cause, ¬row.BadPattern flags source cause
  path : ∀ path, ¬row.BadPath path

end Row

variable {flags : Pattern.Flags} {row : Row}

theorem makePattern_eq_error_iff {e : RowError} : Rule.makePattern flags row.pattern = .error e ↔
    ∃ source cause, row.BadPattern flags source cause ∧ e = .invalidPattern source cause := by
  unfold Row.BadPattern
  cases row.pattern with
  | made p => simp [Rule.makePattern]
  | text source =>
    rw [Rule.makePattern]
    cases hnode : Pattern.Node.ofText flags source with
    | error cause => simp [hnode, eq_comm]
    | ok n =>
      cases htie : Pattern.compile flags (Rule.tie flags.verbose source) with
      | error cause => simp [hnode, htie, eq_comm]
      | ok p => simp [hnode, htie]

theorem makePath_eq_error_iff {e : RowError} :
    Rule.makePath row.path = .error e ↔ ∃ path, row.BadPath path ∧ e = .emptyBufferName path := by
  simp only [Row.BadPath, ← Path.ofText?_eq_none_iff]
  cases row.path with
  | none => simp [Rule.makePath]
  | some path =>
    rw [Rule.makePath]
    cases hpath : Path.ofText? path with
    | none => simp [hpath, eq_comm]
    | some p => simp [hpath]

/-- A row is refused for its pattern, or else for its path. -/
theorem ofRow_eq_error_iff {k : Nat} {e : RowError} : Rule.ofRow flags k row = .error e ↔
    (∃ source cause, row.BadPattern flags source cause ∧ e = .invalidPattern source cause) ∨
    (∀ source cause, ¬row.BadPattern flags source cause) ∧ ∃ path, row.BadPath path ∧ e = .emptyBufferName path := by
  rw [← makePattern_eq_error_iff, ← makePath_eq_error_iff, Rule.ofRow]
  cases hpattern : Rule.makePattern flags row.pattern with
  | error e' =>
    obtain ⟨source, cause, hbad, -⟩ := makePattern_eq_error_iff.mp hpattern
    have hno : ¬∀ source cause, ¬row.BadPattern flags source cause := fun h => h source cause hbad
    simp [hno]
  | ok made =>
    have hgood : ∀ source cause, ¬row.BadPattern flags source cause := by
      intro source cause hbad
      have herror := makePattern_eq_error_iff.mpr ⟨source, cause, hbad, rfl⟩
      rw [hpattern] at herror
      cases herror
    cases Rule.makePath row.path with
    | error e' => simp [hgood]
    | ok path => simp

theorem exists_ofRow_iff {k : Nat} : (∃ r, Rule.ofRow flags k row = .ok r) ↔ row.Sound flags := by
  constructor
  · rintro ⟨r, hr⟩
    have hno (e : RowError) : Rule.ofRow flags k row ≠ .error e := by rw [hr]; simp
    have hpattern : ∀ source cause, ¬row.BadPattern flags source cause := fun source cause hbad =>
      hno _ (ofRow_eq_error_iff.mpr (Or.inl ⟨source, cause, hbad, rfl⟩))
    exact ⟨hpattern, fun path hbad => hno _ (ofRow_eq_error_iff.mpr (Or.inr ⟨hpattern, path, hbad, rfl⟩))⟩
  · intro h
    cases hr : Rule.ofRow flags k row with
    | ok r => exact ⟨r, rfl⟩
    | error e =>
      rcases ofRow_eq_error_iff.mp hr with ⟨source, cause, hbad, -⟩ | ⟨-, path, hbad, -⟩
      · exact absurd hbad (h.pattern source cause)
      · exact absurd hbad (h.path path)

/-! ## Tables -/

namespace Table

def ruleAt (flags : Pattern.Flags) (k : Nat) (row : Row) : Except TableError Rule :=
  (Rule.ofRow flags k row).mapError (.ofRowError k)

theorem ruleAt_eq_error {k : Nat} {e : RowError} (h : Rule.ofRow flags k row = .error e) :
    ruleAt flags k row = .error (.ofRowError k e) := by
  rw [ruleAt, h]; rfl

theorem ruleAt_eq_ok_iff {k : Nat} {r : Rule} : ruleAt flags k row = .ok r ↔ Rule.ofRow flags k row = .ok r := by
  rw [ruleAt]
  cases Rule.ofRow flags k row <;> simp [Except.mapError]

theorem rulesFrom_eq_collect (flags : Pattern.Flags) (k : Nat) (rows : List Row) :
    rulesFrom flags k rows = collect (ruleAt flags) k rows := by
  induction rows generalizing k with
  | nil => rfl
  | cons row rest ih =>
    rw [rulesFrom, collect, ih, ruleAt]
    cases Rule.ofRow flags k row with
    | error e => rfl
    | ok r => cases collect (ruleAt flags) (k + 1) rest <;> rfl

theorem ne_nil_of_rowsOfJson {j : Json} {rows : List Row} (h : rowsOfJson j = .ok rows) : rows ≠ [] := by
  obtain ⟨items, rfl, hitems⟩ := rowsOfJson_eq_ok h
  rintro rfl
  cases items with
  | nil => cases h
  | cons item items => cases hitems 0

theorem ofText_of_rows (flags : Pattern.Flags) {text : String} {j : Json} {rows : List Row} (hj : Json.read? text = some j)
    (hrows : rowsOfJson j = .ok rows) : ofText flags text =
      match collect (ruleAt flags) 0 rows with
      | .error e => .error (.table e)
      | .ok rules => .ok ⟨rules⟩ := by
  have htext : rowsOfText text = .ok rows := by simp only [rowsOfText, hj, hrows]
  rw [ofText, htext]
  simp only [ofRows, List.isEmpty_iff, if_neg (ne_nil_of_rowsOfJson hrows), rulesFrom_eq_collect]
  cases collect (ruleAt flags) 0 rows <;> rfl

theorem ofText_eq_ok {text : String} {t : Table} (h : ofText flags text = .ok t) :
    ∃ j rows, Json.read? text = some j ∧ rowsOfJson j = .ok rows ∧ ofRows flags rows = .ok t := by
  unfold ofText rowsOfText at h
  cases hj : Json.read? text with
  | none => simp [hj] at h
  | some j =>
    cases hrows : rowsOfJson j with
    | error e => simp [hj, hrows] at h
    | ok rows =>
      refine ⟨j, rows, rfl, hrows, ?_⟩
      simp only [hj, hrows] at h
      split at h
      · cases h
      · rename_i hof
        rw [Except.ok.injEq] at h
        rw [hof, h]

theorem ofText_eq_notJson_iff {text : String} :
    ofText flags text = .error .notJson ↔ Json.read? text = none := by
  constructor
  · intro h
    cases hj : Json.read? text with
    | none => rfl
    | some j =>
      cases hrows : rowsOfJson j with
      | error e => simp [ofText, rowsOfText, hj, hrows] at h
      | ok rows =>
        rw [ofText_of_rows flags hj hrows] at h
        split at h <;> cases h
  · intro hj
    simp only [ofText, rowsOfText, hj]

/-- The first row with a fault decides the error. -/
theorem collect_of_unsound {rows : List Row} {i : Nat} {e : RowError} (hi : rows[i]? = some row)
    (hbefore : ∀ k < i, ∀ row, rows[k]? = some row → row.Sound flags) (he : Rule.ofRow flags i row = .error e) :
    collect (ruleAt flags) 0 rows = .error (.ofRowError i e) := by
  refine collect_eq_error_iff.mpr ⟨i, ⟨row, hi, by rw [Nat.zero_add, ruleAt_eq_error he]⟩, ?_⟩
  intro k hk row' hk'
  obtain ⟨r, hr⟩ := exists_ofRow_iff.mpr (hbefore k hk row' hk')
  exact ⟨r, by rw [Nat.zero_add, ruleAt_eq_ok_iff.mpr hr]⟩

/-- Rows without a fault make the rules at their positions. -/
theorem collect_of_sound {rows : List Row} (h : ∀ row ∈ rows, row.Sound flags) :
    ∃ rules, collect (ruleAt flags) 0 rows = .ok rules ∧ rules.length = rows.length ∧
      ∀ (i : Nat) row, rows[i]? = some row → ∃ rule, rules[i]? = some rule ∧ Rule.ofRow flags i row = .ok rule := by
  cases hcollect : collect (ruleAt flags) 0 rows with
  | error e =>
    obtain ⟨i, ⟨row, hi, he⟩, -⟩ := collect_eq_error_iff.mp hcollect
    obtain ⟨r, hr⟩ := exists_ofRow_iff.mpr (h row (List.mem_of_getElem? hi))
    rw [ruleAt_eq_ok_iff.mpr hr] at he
    cases he
  | ok rules =>
    have hrules := collect_eq_ok_iff.mp hcollect
    refine ⟨rules, rfl, (length_eq_of_getElem? hrules).symm, ?_⟩
    intro i row hi
    have hrule := hrules i
    rw [hi, Option.map_some] at hrule
    obtain ⟨rule, hrule, hok⟩ := Option.map_eq_some_iff.mp hrule.symm
    rw [Nat.zero_add] at hok
    exact ⟨rule, hrule, ruleAt_eq_ok_iff.mp hok.symm⟩

/-- A text that is no JSON is refused as such, and one of the wrong shape for its shape, whatever its rows say. Of
    the rows of any other text the first one with a fault decides, and of its faults the one of the pattern goes
    first. Without a fault there is one rule for each row. -/
theorem ofText_cases (flags : Pattern.Flags) (text : String) :
    (ofText flags text = .error .notJson ↔ Json.read? text = none) ∧
    (∀ j, Json.read? text = some j →
      (∀ e, rowsOfJson j = .error e → ofText flags text = .error (.table e)) ∧
      ∀ rows, rowsOfJson j = .ok rows →
        (∀ (i : Nat) row, rows[i]? = some row → (∀ k < i, ∀ row, rows[k]? = some row → row.Sound flags) →
          (∀ source cause, row.BadPattern flags source cause →
            ofText flags text = .error (.table (.invalidPattern i source cause))) ∧
          ∀ path, row.BadPath path → (∀ source cause, ¬row.BadPattern flags source cause) →
            ofText flags text = .error (.table (.emptyBufferName i path))) ∧
        ((∀ row ∈ rows, row.Sound flags) → ∃ t items, ofText flags text = .ok t ∧ j = .array items ∧
          items.length = rows.length ∧ t.rules.length = rows.length ∧
          ∀ (i : Nat) row, rows[i]? = some row → ∃ item rule, items[i]? = some item ∧ t.rules[i]? = some rule ∧
            rowOfJson i item = .ok row ∧ rule.index = i ∧ rule.guard = row.guard ∧
            rule.transition = row.transition ∧ rule.filter = row.filter ∧
            Rule.makePattern flags row.pattern = .ok (rule.pattern, rule.anchored) ∧
            Rule.makePath row.path = .ok rule.path)) ∧
    ∀ path, Path.ofText? path = none ↔ ∃ first rest, path.toSegments = first :: rest ∧ Path.Nameless first := by
  refine ⟨ofText_eq_notJson_iff, ?_, Path.ofText?_eq_none_iff⟩
  intro j hj
  constructor
  · intro e he
    simp only [ofText, rowsOfText, hj, he]
  intro rows hrows
  have htext := ofText_of_rows flags hj hrows
  constructor
  · intro i row hi hbefore
    have hfirst {e : RowError} (he : Rule.ofRow flags i row = .error e) :
        ofText flags text = .error (.table (.ofRowError i e)) := by
      rw [htext, collect_of_unsound hi hbefore he]
    constructor
    · intro source cause hbad
      exact hfirst (ofRow_eq_error_iff.mpr (Or.inl ⟨source, cause, hbad, rfl⟩))
    · intro path hbad hpattern
      exact hfirst (ofRow_eq_error_iff.mpr (Or.inr ⟨hpattern, path, hbad, rfl⟩))
  · intro hsound
    obtain ⟨items, rfl, hitems⟩ := rowsOfJson_eq_ok hrows
    obtain ⟨rules, hcollect, hlength, hrules⟩ := collect_of_sound hsound
    refine ⟨⟨rules⟩, items, by rw [htext, hcollect], rfl, length_eq_of_getElem? hitems, hlength, ?_⟩
    intro i row hi
    have hitem := hitems i
    rw [hi, Option.map_some] at hitem
    obtain ⟨item, hitem, hrow⟩ := Option.map_eq_some_iff.mp hitem
    obtain ⟨rule, hrule, hok⟩ := hrules i row hi
    obtain ⟨hguard, htransition, hfilter, hpattern, hpath⟩ := Rule.OfRow.fields ⟨i, hok⟩
    exact ⟨item, rule, hitem, hrule, hrow, index_ofRow hok, hguard, htransition, hfilter, hpattern, hpath⟩

def templateOf? : Filter → Option String
  | .template text => some text
  | _ => none

/-- The first table loads. In the second one the second row has two faults and the third one another, but in the
    third table the last item is no row. -/
theorem ofText_cases_faults :
    (∃ t, ofText {} r#"[["a,b"," c ","d","e","{f}"],[null,null,"g",null,null]]"# = .ok t ∧
      t.rules.map (fun rule => (rule.guard, rule.transition, templateOf? rule.filter)) =
        [(.states ["a", "b"], .goto "c", some "{f}"), (.any, .stay, none)]) ∧
    ofText {} r#"[[null,null,"a","b",null],[null,null,"(","> >",null],[null,null,"a",">",null]]"# =
      .error (.table (.invalidPattern 1 "(" .groupUnclosed)) ∧
    ofText {} r#"[[null,null,"(",">",null],null]"# = .error (.table (.ruleNotSequence 1)) := by
  refine ⟨?_, ?_, ?_⟩
  · let text := r#"[["a,b"," c ","d","e","{f}"],[null,null,"g",null,null]]"#
    have hmade : (Json.read? text).map (fun j => (rowsOfJson j).map fun rows =>
        rows.map fun row => (Rule.ofRow {} 0 row).map (·.index)) = some (.ok [.ok 0, .ok 0]) := by
      decide +kernel
    have hshown : (Json.read? text).map (fun j => (rowsOfJson j).map fun rows =>
        rows.map fun row => (row.guard, row.transition, templateOf? row.filter)) =
        some (.ok [(.states ["a", "b"], .goto "c", some "{f}"), (.any, .stay, none)]) := by
      decide +kernel
    obtain ⟨j, hj, hvalues⟩ := Option.map_eq_some_iff.mp hmade
    obtain ⟨rows, hrows, hlist⟩ := map_eq_ok hvalues
    simp only [hj, Option.map_some, hrows, Except.map, Option.some.injEq, Except.ok.injEq] at hshown
    have hsound : ∀ row ∈ rows, row.Sound {} := by
      intro row hrow
      have hmem := List.mem_map_of_mem (f := fun row => (Rule.ofRow {} 0 row).map (·.index)) hrow
      rw [← hlist] at hmem
      have hok : (Rule.ofRow {} 0 row).map (·.index) = .ok 0 := by simpa using hmem
      obtain ⟨rule, hrule, -⟩ := map_eq_ok hok
      exact exists_ofRow_iff.mp ⟨rule, hrule⟩
    obtain ⟨t, items, ht, -, -, hlength, hrules⟩ := (((ofText_cases {} text).2.1 j hj).2 rows hrows).2 hsound
    refine ⟨t, ht, Eq.trans ?_ hshown⟩
    refine List.ext_getElem (by simp only [List.length_map, hlength]) fun i hi hi' => ?_
    rw [List.length_map] at hi hi'
    obtain ⟨-, rule, -, hrule, -, -, hguard, htransition, hfilter, -⟩ := hrules i rows[i] (List.getElem?_eq_getElem hi')
    obtain ⟨_, hrule⟩ := List.getElem?_eq_some_iff.mp hrule
    rw [List.getElem_map, List.getElem_map, hrule, hguard, htransition, hfilter]
  · let text := r#"[[null,null,"a","b",null],[null,null,"(","> >",null],[null,null,"a",">",null]]"#
    have hseen : (Json.read? text).map (fun j => (rowsOfJson j).map fun rows =>
        rows.map fun row => (Rule.ofRow {} 0 row).map (·.index)) =
        some (.ok [.ok 0, .error (.invalidPattern "(" .groupUnclosed), .error (.emptyBufferName (.dotted ">"))]) := by
      decide +kernel
    obtain ⟨j, hj, hvalues⟩ := Option.map_eq_some_iff.mp hseen
    obtain ⟨rows, hrows, hlist⟩ := map_eq_ok hvalues
    obtain ⟨first, rest, rfl, hfirst, hlist⟩ := List.map_eq_cons_iff.mp hlist.symm
    obtain ⟨second, rest, rfl, hsecond, -⟩ := List.map_eq_cons_iff.mp hlist
    obtain ⟨rule, hrule, -⟩ := map_eq_ok hfirst
    have hbad : Rule.ofRow {} 0 second = .error (.invalidPattern "(" .groupUnclosed) :=
      map_eq_error_iff.mp hsecond
    obtain ⟨source, cause, hpattern, hsame⟩ : ∃ source cause, second.BadPattern {} source cause ∧
        RowError.invalidPattern "(" .groupUnclosed = .invalidPattern source cause := by
      simpa using ofRow_eq_error_iff.mp hbad
    cases hsame
    have hcases := (ofText_cases {} text).2.1 j hj
    refine ((hcases.2 _ hrows).1 1 second rfl ?_).1 "(" .groupUnclosed hpattern
    intro k hk row hrow
    obtain rfl : k = 0 := by omega
    cases hrow
    exact exists_ofRow_iff.mp ⟨rule, hrule⟩
  · let text := r#"[[null,null,"(",">",null],null]"#
    have hseen : (Json.read? text).map (fun j => (rowsOfJson j).map List.length) =
        some (.error (.ruleNotSequence 1)) := by decide +kernel
    obtain ⟨j, hj, hvalues⟩ := Option.map_eq_some_iff.mp hseen
    exact ((ofText_cases {} text).2.1 j hj).1 _ (map_eq_error_iff.mp hvalues)

end Table

end LineRules
