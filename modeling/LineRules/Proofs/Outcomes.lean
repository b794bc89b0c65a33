/-
  LineRules.Proofs.Outcomes — what a run prints, and how it ends.

  A run fails if its table or one of its sources cannot be had (`Blocked`), with one line that says which is the
  first (`Complaint`) and nothing else. Nothing can go wrong after that: a table that was read from JSON has no
  filter that refuses, so every source has a tree (`exists_trees`), which depends neither on the other sources nor
  on how the run is shown. The document is the only tree, or holds each one under the label of its source, and is
  read back from either of its texts (`respond_shown`).
-/

import LineRules.CommandLine
import LineRules.Proofs.Refusals
import LineRules.Proofs.SpacedText
import LineRules.Proofs.Switches

namespace LineRules

def Table.TreeOf (t : Table) (strip : Bool) (text : String) (tree : Value) : Prop :=
  ∃ s, t.scanText { strip } text = .ok s ∧ s.result = tree

theorem Table.TreeOf.unique {t : Table} {strip : Bool} {text : String} {tree tree' : Value}
    (h : t.TreeOf strip text tree) (h' : t.TreeOf strip text tree') : tree = tree' := by
  obtain ⟨s, hs, rfl⟩ := h
  obtain ⟨s', hs', rfl⟩ := h'
  rw [Except.ok.inj (hs.symm.trans hs')]

/-- The trace that a report asks for changes no tree. -/
theorem treeOf_of_scanText {t : Table} {o : ScanOptions} {text : String} {s : Scan} (h : t.scanText o text = .ok s) :
    t.TreeOf o.strip text s.result := by
  have huntraced := scan_untraced t o (Text.lines text)
  have hscan : t.scan o (Text.lines text) = .ok s := h
  rw [hscan] at huntraced
  exact ⟨s.untraced, huntraced, rfl⟩

namespace CommandLine.Invocation

variable {inv : Invocation} {read : String → Content} {stdin : Content}

/-! ## What a run needs -/

/-- The sources of a run by their labels, each with its text or why it cannot be read. -/
def texts (inv : Invocation) (read : String → Content) (stdin : Content) : List (String × Except FileFault String) :=
  match inv.sources with
  | .text text => [("--input", .ok text)]
  | .standardInput => [("<stdin>", textOf stdin)]
  | .files first rest => (first :: rest).map fun file => (file, textOf (read file))

inductive Blocked (inv : Invocation) (read : String → Content) (stdin : Content) : Prop
  | rules {f : FileFault} : textOf (read inv.rules) = .error f → Blocked inv read stdin
  | table {text : String} {e : Table.LoadError} : textOf (read inv.rules) = .ok text →
      Table.ofText inv.flags text = .error e → Blocked inv read stdin
  | source {label : String} {f : FileFault} : (label, .error f) ∈ inv.texts read stdin → Blocked inv read stdin

/-- The first source without a text, in words. -/
inductive Unreadable (inv : Invocation) (read : String → Content) (stdin : Content) : String → Prop
  | standardInput {f : FileFault} : inv.sources = .standardInput → textOf stdin = .error f →
      Unreadable inv read stdin ("failed to read stdin: " ++ f.message)
  | file {first file : String} {rest before after : List String} {f : FileFault} :
      inv.sources = .files first rest → first :: rest = before ++ file :: after →
      (∀ other ∈ before, ∃ text, textOf (read other) = .ok text) → textOf (read file) = .error f →
      Unreadable inv read stdin ("failed to read '" ++ file ++ "': " ++ f.message)

inductive Complaint (inv : Invocation) (read : String → Content) (stdin : Content) : String → Prop
  | rules {f : FileFault} : textOf (read inv.rules) = .error f →
      Complaint inv read stdin ("failed to read rules '" ++ inv.rules ++ "': " ++ f.message)
  | table {text : String} {e : Table.LoadError} : textOf (read inv.rules) = .ok text →
      Table.ofText inv.flags text = .error e → Complaint inv read stdin (inv.rules ++ ": " ++ e.message)
  | source {text : String} {t : Table} {message : String} : textOf (read inv.rules) = .ok text →
      Table.ofText inv.flags text = .ok t → Unreadable inv read stdin message → Complaint inv read stdin message

theorem table_cases (inv : Invocation) (read : String → Content) (stdin : Content) :
    (∃ message, inv.Complaint read stdin message ∧ inv.table (read inv.rules) = .error (.failure 2 message)) ∨
    ∃ text t, textOf (read inv.rules) = .ok text ∧ Table.ofText inv.flags text = .ok t ∧
      inv.table (read inv.rules) = .ok t := by
  unfold table
  cases htext : textOf (read inv.rules) with
  | error f => exact Or.inl ⟨_, .rules htext, rfl⟩
  | ok text =>
    cases ht : Table.ofText inv.flags text with
    | error e => exact Or.inl ⟨_, .table htext ht, by simp only [ht]⟩
    | ok t => exact Or.inr ⟨text, t, rfl, ht, by simp only [ht]⟩

/-- Files are read up to the first one that cannot be. -/
theorem fileSources_cases (read : String → Content) (files : List String) :
    (∃ before file after f, files = before ++ file :: after ∧
      (∀ other ∈ before, ∃ text, textOf (read other) = .ok text) ∧ textOf (read file) = .error f ∧
      fileSources read files = .error (.failure 2 ("failed to read '" ++ file ++ "': " ++ f.message))) ∨
    ∃ sources, fileSources read files = .ok sources ∧
      files.map (fun file => (file, textOf (read file))) =
        sources.map fun source => (source.label, .ok source.text) := by
  induction files with
  | nil => exact Or.inr ⟨[], rfl, rfl⟩
  | cons file rest ih =>
    rw [fileSources]
    cases htext : textOf (read file) with
    | error f => exact Or.inl ⟨[], file, rest, f, rfl, by simp, htext, rfl⟩
    | ok text =>
      rcases ih with ⟨before, bad, after, f, rfl, hbefore, hbad, hfail⟩ | ⟨sources, hsources, hmap⟩
      · refine Or.inl ⟨file :: before, bad, after, f, rfl, ?_, hbad, by simp only [hfail]⟩
        intro other hother
        rcases List.mem_cons.mp hother with rfl | hother
        · exact ⟨text, htext⟩
        · exact hbefore other hother
      · refine Or.inr ⟨⟨file, text⟩ :: sources, by simp only [hsources], ?_⟩
        rw [List.map_cons, List.map_cons, hmap, htext]

theorem readSources_cases (inv : Invocation) (read : String → Content) (stdin : Content) :
    (∃ message, inv.Unreadable read stdin message ∧ inv.readSources read stdin = .error (.failure 2 message)) ∨
    ∃ sources, inv.readSources read stdin = .ok sources ∧
      inv.texts read stdin = sources.map fun source => (source.label, .ok source.text) := by
  unfold readSources texts
  cases hsources : inv.sources with
  | text text => exact Or.inr ⟨[⟨"--input", text⟩], rfl, rfl⟩
  | standardInput =>
    cases htext : textOf stdin with
    | error f => exact Or.inl ⟨_, .standardInput hsources htext, rfl⟩
    | ok text => exact Or.inr ⟨[⟨"<stdin>", text⟩], rfl, rfl⟩
  | files first rest =>
    rcases fileSources_cases read (first :: rest) with ⟨before, file, after, f, hfiles, hbefore, hfile, hfail⟩ | hread
    · exact Or.inl ⟨_, .file hsources hfiles hbefore hfile, hfail⟩
    · exact Or.inr hread

theorem blocked_of_unreadable {message : String} (h : inv.Unreadable read stdin message) : inv.Blocked read stdin := by
  cases h with
  | @standardInput f hsources hstdin =>
    have hmem : ("<stdin>", .error f) ∈ inv.texts read stdin := by simp [texts, hsources, hstdin]
    exact .source hmem
  | @file first file rest before after f hsources hfiles _ hfile =>
    have hmem : (file, .error f) ∈ inv.texts read stdin := by
      simp only [texts, hsources, ← hfile]
      exact List.mem_map_of_mem (by rw [hfiles]; simp)
    exact .source hmem

theorem blocked_of_complaint {message : String} (h : inv.Complaint read stdin message) : inv.Blocked read stdin := by
  cases h with
  | rules hrules => exact .rules hrules
  | table htext ht => exact .table htext ht
  | source _ _ hsource => exact blocked_of_unreadable hsource

/-! ## Trees -/

def shown (inv : Invocation) (compact report color : Bool) : Invocation := { inv with compact, report, color }

/-- Every source has its tree, however the run is shown. -/
theorem exists_trees {t : Table} (ht : ∀ o lines, ∃ s, t.scan o lines = .ok s) (inv : Invocation)
    (sources : List Source) : ∃ trees : List (String × Value),
      List.Forall₂ (fun e source => e.1 = source.label ∧ t.TreeOf inv.strip source.text e.2) trees sources ∧
      ∀ compact report color, ∃ reports,
        (inv.shown compact report color).scanSources t sources = .ok (trees, reports) := by
  induction sources with
  | nil => exact ⟨[], .nil, fun _ _ _ => ⟨"", rfl⟩⟩
  | cons source rest ih =>
    obtain ⟨trees, htrees, hrest⟩ := ih
    obtain ⟨s, hs⟩ := ht { strip := inv.strip } (Text.lines source.text)
    refine ⟨(source.label, s.result) :: trees, .cons ⟨rfl, s, hs, rfl⟩ htrees, ?_⟩
    intro compact report color
    obtain ⟨reports, hreports⟩ := hrest compact report color
    obtain ⟨u, hu⟩ := ht (inv.shown compact report color).options (Text.lines source.text)
    have hscan : t.scanText (inv.shown compact report color).options source.text = .ok u := hu
    have hsame : u.result = s.result := (treeOf_of_scanText hscan).unique ⟨s, hs, rfl⟩
    rw [scanSources, hscan]
    simp only [hreports, hsame]
    exact ⟨_, rfl⟩

/-! ## Documents -/

/-- What is printed of the texts of sources: the tree of the only one, or the trees of all of them by their labels. -/
structure Documents (t : Table) (strip : Bool) (texts : List (String × Except FileFault String)) (doc : Value) :
    Prop where
  one : ∀ label text, texts = [(label, .ok text)] → t.TreeOf strip text doc
  several : texts.length ≠ 1 → ∃ entries, doc = .map entries ∧ Entries.keys entries = (texts.map (·.1)).eraseDups ∧
    ∀ label text, (label, .ok text) ∈ texts → ∃ tree, Entries.find? entries label = some tree ∧ t.TreeOf strip text tree

/-- A label stands for one text. -/
theorem texts_unique {label : String} {x y : Except FileFault String} (hx : (label, x) ∈ inv.texts read stdin)
    (hy : (label, y) ∈ inv.texts read stdin) : x = y := by
  unfold texts at hx hy
  cases hsources : inv.sources with
  | text text =>
    rw [hsources, List.mem_singleton, Prod.mk.injEq] at hx hy
    rw [hx.2, hy.2]
  | standardInput =>
    rw [hsources, List.mem_singleton, Prod.mk.injEq] at hx hy
    rw [hx.2, hy.2]
  | files first rest =>
    rw [hsources] at hx hy
    obtain ⟨file, -, hfile⟩ := List.mem_map.mp hx
    obtain ⟨file', -, hfile'⟩ := List.mem_map.mp hy
    cases hfile
    cases hfile'
    rfl

theorem document_of_length {trees : List (String × Value)} (h : trees.length ≠ 1) :
    document trees = .map (Entries.ofPairs trees) := by
  unfold document
  split
  · exact absurd rfl h
  · rfl

theorem documents_of_trees {t : Table} {sources : List Source} {trees : List (String × Value)}
    (htexts : inv.texts read stdin = sources.map fun source => (source.label, .ok source.text))
    (h : List.Forall₂ (fun e source => e.1 = source.label ∧ t.TreeOf inv.strip source.text e.2) trees sources) :
    Documents t inv.strip (inv.texts read stdin) (document trees) := by
  have hmem {label text : String} (htext : (label, .ok text) ∈ inv.texts read stdin) : ⟨label, text⟩ ∈ sources := by
    rw [htexts] at htext
    obtain ⟨source, hsource, heq⟩ := List.mem_map.mp htext
    cases heq
    exact hsource
  constructor
  · intro label text hone
    rw [htexts] at hone
    obtain ⟨source, rfl, heq⟩ := List.map_eq_singleton_iff.mp hone
    cases heq
    cases h with
    | cons htree hrest =>
      cases hrest
      exact htree.2
  · intro hlength
    have hlength : trees.length ≠ 1 := by
      rw [h.length_eq]
      rwa [htexts, List.length_map] at hlength
    refine ⟨Entries.ofPairs trees, document_of_length hlength, ?_, ?_⟩
    · have hlabels : Entries.keys trees = sources.map (·.label) := map_eq_of_forall₂ h fun _ _ he => he.1
      rw [Entries.keys_ofPairs, hlabels, htexts, List.map_map]
      rfl
    · intro label text htext
      obtain ⟨e, he, hlabel, htree⟩ := exists_of_forall₂ h (hmem htext)
      refine ⟨e.2, ?_, htree⟩
      refine Entries.find?_insertAll_of_forall [] ?_ ?_
      · exact List.mem_map.mpr ⟨e, he, hlabel⟩
      -- a file that is named again is scanned again, and has the same tree
      · intro e' he' hlabel'
        obtain ⟨source, hsource, hsame, htree'⟩ := exists_of_forall₂ h.flip he'
        have htext' : (label, .ok source.text) ∈ inv.texts read stdin := by
          rw [htexts, ← hlabel', hsame]
          exact List.mem_map_of_mem hsource
        have hsource' : Except.ok source.text = Except.ok (ε := FileFault) text := texts_unique htext' htext
        rw [Except.ok.inj hsource'] at htree'
        exact htree'.unique htree

theorem read?_render {doc : Value} (h : doc.depth < 128) :
    Json.read? (inv.render doc ++ "\n") = some doc.toJson := by
  have hline : ∀ c ∈ ['\n'], Json.isBlank c = true := by
    intro c hc
    rw [List.mem_singleton.mp hc]
    decide
  rw [render]
  split
  · exact Value.read?_compact_append h hline
  · exact Value.read?_pretty_append h hline

/-! ## Outcomes -/

theorem respond_of_table {o : Outcome} (h : inv.table (read inv.rules) = .error o) : inv.respond read stdin = o := by
  rw [respond, h]

theorem respond_of_readSources {t : Table} {o : Outcome} (h : inv.table (read inv.rules) = .ok t)
    (hsources : inv.readSources read stdin = .error o) : inv.respond read stdin = o := by
  rw [respond, h]
  simp only [hsources]

theorem respond_of_scanSources {t : Table} {sources : List Source} {trees : List (String × Value)} {reports : String}
    (h : inv.table (read inv.rules) = .ok t) (hsources : inv.readSources read stdin = .ok sources)
    (htrees : inv.scanSources t sources = .ok (trees, reports)) :
    inv.respond read stdin = { stdout := inv.render (document trees) ++ "\n", stderr := reports } := by
  rw [respond, h]
  simp only [hsources, finish, htrees]

structure Fails (inv : Invocation) (read : String → Content) (stdin : Content) (message : String) : Prop where
  complaint : inv.Complaint read stdin message
  response : inv.respond read stdin = { code := 2, stdout := "", stderr := "error: " ++ message ++ "\n" }

structure Prints (inv : Invocation) (read : String → Content) (stdin : Content) (t : Table) (doc : Value) : Prop where
  table : ∃ text, textOf (read inv.rules) = .ok text ∧ Table.ofText inv.flags text = .ok t
  document : Documents t inv.strip (inv.texts read stdin) doc
  code : (inv.respond read stdin).code = 0
  stdout : (inv.respond read stdin).stdout = (if inv.compact then doc.compact else doc.pretty) ++ "\n"
  readBack : doc.depth < 128 → Json.read? (inv.respond read stdin).stdout = some doc.toJson

theorem prints_of_respond {text : String} {t : Table} {doc : Value} {reports : String}
    (htext : textOf (read inv.rules) = .ok text) (ht : Table.ofText inv.flags text = .ok t)
    (hdoc : Documents t inv.strip (inv.texts read stdin) doc)
    (h : inv.respond read stdin = { stdout := inv.render doc ++ "\n", stderr := reports }) :
    inv.Prints read stdin t doc where
  table := ⟨text, htext, ht⟩
  document := hdoc
  code := by rw [h]
  stdout := by rw [h, render]
  readBack := by
    intro hdepth
    rw [h]
    exact read?_render hdepth

theorem not_blocked {text : String} {t : Table} {sources : List Source} (htext : textOf (read inv.rules) = .ok text)
    (ht : Table.ofText inv.flags text = .ok t)
    (htexts : inv.texts read stdin = sources.map fun source => (source.label, .ok source.text)) :
    ¬inv.Blocked read stdin := by
  intro hblocked
  cases hblocked with
  | rules hno => rw [htext] at hno; cases hno
  | table htext' hno =>
    obtain rfl := Except.ok.inj (htext.symm.trans htext')
    rw [ht] at hno
    cases hno
  | source hno =>
    rw [htexts] at hno
    obtain ⟨source, -, heq⟩ := List.mem_map.mp hno
    cases heq

/-- However a run is shown, it fails with the same complaint, or prints the same document. -/
theorem respond_shown (inv : Invocation) (read : String → Content) (stdin : Content) :
    (∃ message, inv.Complaint read stdin message ∧
      ∀ compact report color, (inv.shown compact report color).respond read stdin = .failure 2 message) ∨
    ¬inv.Blocked read stdin ∧ ∃ t doc, ∀ compact report color, (inv.shown compact report color).Prints read stdin t doc := by
  rcases table_cases inv read stdin with ⟨message, hcomplaint, hfail⟩ | ⟨text, t, htext, ht, htable⟩
  · exact Or.inl ⟨message, hcomplaint, fun _ _ _ => respond_of_table hfail⟩
  rcases readSources_cases inv read stdin with ⟨message, hunreadable, hfail⟩ | ⟨sources, hsources, htexts⟩
  · exact Or.inl ⟨message, .source htext ht hunreadable, fun _ _ _ => respond_of_readSources htable hfail⟩
  refine Or.inr ⟨not_blocked htext ht htexts, ?_⟩
  obtain ⟨j, rows, -, hrows, hof⟩ := Table.ofText_eq_ok ht
  obtain ⟨trees, htrees, hscan⟩ := exists_trees (scan_of_rowsOfJson hrows hof) inv sources
  refine ⟨t, document trees, ?_⟩
  intro compact report color
  obtain ⟨reports, hreports⟩ := hscan compact report color
  exact prints_of_respond htext ht (documents_of_trees htexts htrees)
    (respond_of_scanSources htable hsources hreports)

/-! ## Arguments -/

/-- Switches that act on what is said aside: the report, its colour and the log. -/
def aside : Switch → Bool
  | .report => true
  | .color => true
  | .noColor => true
  | .verbose => true
  | _ => false

theorem without_aside (inv : Invocation) : inv.without aside = inv.shown inv.compact false false := by
  simp [without, aside, shown]

theorem without_compact (inv : Invocation) :
    inv.without (· = .compact) = inv.shown false inv.report inv.color := by
  simp [without, shown]

structure Alike (o o' : Outcome) : Prop where
  code : o.code = o'.code
  stdout : o.stdout = o'.stdout

theorem textOf_toUTF8 (text : String) : textOf (.ok text.toUTF8) = .ok text := by
  have hread : String.fromUTF8? text.toUTF8 = some text := by
    rw [String.fromUTF8?]
    exact dif_pos text.isValidUTF8
  simp only [textOf, hread]

/-- A run with a report over two files, one of which is named twice. -/
def twice : Invocation :=
  { rules := "rules", sources := .files "b" ["a", "b"], flags := {}, strip := true, compact := true, report := true
    color := false }

end CommandLine.Invocation

end LineRules
