/-
  LineRules.Proofs.Switches — leaving switches out of the arguments.

  Switches can be dropped from a list of arguments wherever they stand: a long one with its argument, a
  short one out of its cluster, and nothing behind `--` (`omitAll`). What the other arguments say stays the
  same, so reading the shorter list yields what the longer one yields without these switches
  (`readFrom_omitAll`). The switches that choose the colour override one another, and only both of them can be
  left out: of `--no-color --color --no-color`, which is accepted, the first and last are one switch twice.
-/

import LineRules.CommandLine.Arguments

namespace LineRules.CommandLine

/-! ## Arguments -/

def dropsLetter (drop : Switch → Bool) (c : Char) : Bool := (Switch.ofShort? c).any drop

def dropsName (drop : Switch → Bool) (name : String) : Bool :=
  match Named.ofLong? name with
  | some (.switch s) => drop s
  | _ => false

def omitAll (drop : Switch → Bool) : List String → List String
  | [] => []
  | argument :: rest =>
    match Arguments.kindOf argument with
    | .restAreFiles => argument :: rest
    | .file => argument :: omitAll drop rest
    | .long name _ => if dropsName drop name then omitAll drop rest else argument :: omitAll drop rest
    | .shorts letters =>
      match letters.filter (!dropsLetter drop ·) with
      | [] => omitAll drop rest
      | kept => String.ofList ('-' :: kept) :: omitAll drop rest

namespace Arguments

def without (drop : Switch → Bool) (a : Arguments) : Arguments :=
  { a with switches := a.switches.filter (!drop ·), color := if drop .color then none else a.color }

variable {drop : Switch → Bool} {a b : Arguments}

@[simp] theorem rules_without : (a.without drop).rules = a.rules := rfl

@[simp] theorem input_without : (a.without drop).input = a.input := rfl

@[simp] theorem files_without : (a.without drop).files = a.files := rfl

@[simp] theorem has_without (s : Switch) : (a.without drop).has s = (a.has s && !drop s) := by
  rw [has, has, without, Bool.eq_iff_iff, Bool.and_eq_true, List.contains_iff_mem, List.contains_iff_mem,
    List.mem_filter]

@[simp] theorem color_without : (a.without drop).color.getD false = (a.color.getD false && !drop .color) := by
  rw [without]
  cases drop .color <;> simp

theorem addColor_eq_ok {on : Bool} {option : String} (h : a.addColor on option = .ok b) :
    a.color ≠ some on ∧ b = { a with color := some on } := by
  unfold addColor at h
  split at h
  · cases h
  · rename_i hcolor
    exact ⟨hcolor, (Except.ok.inj h).symm⟩

theorem addColor_dropped {on : Bool} {option : String} (h : a.addColor on option = .ok b) (hdrop : drop .color = true) :
    b.without drop = a.without drop := by
  obtain ⟨-, rfl⟩ := addColor_eq_ok h
  simp [without, hdrop]

theorem addColor_without {on : Bool} {option : String} (h : a.addColor on option = .ok b)
    (hdrop : drop .color = false) : (a.without drop).addColor on option = .ok (b.without drop) := by
  obtain ⟨hcolor, rfl⟩ := addColor_eq_ok h
  simp [addColor, without, hdrop, hcolor]

/-- A switch that is left out is not missed. -/
theorem addSwitch_dropped {option : String} {s : Switch} (hpair : drop .color = drop .noColor)
    (h : a.addSwitch option s = .ok b) (hdrop : drop s = true) : b.without drop = a.without drop := by
  cases s with
  | help => cases h
  | version => cases h
  | verbose => cases h; rfl
  | color => exact addColor_dropped h hdrop
  | noColor => exact addColor_dropped h (hpair.trans hdrop)
  | _ =>
    simp only [addSwitch] at h
    split at h
    · cases h
    · cases h
      simp [without, hdrop]

theorem addSwitch_without {option : String} {s : Switch} (hpair : drop .color = drop .noColor)
    (h : a.addSwitch option s = .ok b) (hkeep : drop s = false) :
    (a.without drop).addSwitch option s = .ok (b.without drop) := by
  cases s with
  | help => cases h
  | version => cases h
  | verbose => cases h; rfl
  | color => exact addColor_without h hkeep
  | noColor => exact addColor_without h (hpair.trans hkeep)
  | _ =>
    simp only [addSwitch] at h ⊢
    split at h
    · cases h
    · rename_i hnew
      cases h
      rw [has_without, if_neg (by simp [hnew])]
      simp [without, hkeep]

theorem addFile_without {file : String} (h : a.addFile file = .ok b) :
    (a.without drop).addFile file = .ok (b.without drop) := by
  unfold addFile at h ⊢
  split at h
  · cases h
  · rename_i hname
    cases h
    rw [if_neg hname]
    rfl

theorem addFiles_without {files : List String} (h : a.addFiles files = .ok b) :
    (a.without drop).addFiles files = .ok (b.without drop) := by
  induction files generalizing a with
  | nil => cases h; rfl
  | cons file rest ih =>
    rw [addFiles] at h ⊢
    cases hfile : a.addFile file with
    | error e => simp [hfile] at h
    | ok a' =>
      rw [hfile] at h
      rw [addFile_without hfile]
      exact ih h

theorem addSetting_without {option value : String} {s : Setting} (h : a.addSetting option value s = .ok b) :
    (a.without drop).addSetting option value s = .ok (b.without drop) := by
  cases s with
  | rules =>
    simp only [addSetting] at h ⊢
    split at h
    · cases h
    · rename_i hnew
      split at h
      · cases h
      · rename_i hvalue
        cases h
        have hstill : ¬(a.without drop).rules.isSome = true := hnew
        rw [if_neg hstill, if_neg hvalue]
        rfl
  | input =>
    simp only [addSetting] at h ⊢
    split at h
    · cases h
    · rename_i hnew
      cases h
      have hstill : ¬(a.without drop).input.isSome = true := hnew
      rw [if_neg hstill]
      rfl

theorem addShorts_cons_eq_ok {c : Char} {rest : List Char} (h : a.addShorts (c :: rest) = .ok b) :
    ∃ s a', Switch.ofShort? c = some s ∧ a.addSwitch ("-" ++ c.toString) s = .ok a' ∧ a'.addShorts rest = .ok b := by
  rw [addShorts] at h
  split at h
  · cases h
  · rename_i s hs
    split at h
    · cases h
    · rename_i a' ha'
      exact ⟨s, a', hs, ha', h⟩

/-- Letters are left out of a cluster one by one. -/
theorem addShorts_without (hpair : drop .color = drop .noColor) {letters : List Char}
    (h : a.addShorts letters = .ok b) :
    (a.without drop).addShorts (letters.filter (!dropsLetter drop ·)) = .ok (b.without drop) := by
  induction letters generalizing a with
  | nil => cases h; rfl
  | cons c rest ih =>
    obtain ⟨s, a', hc, hs, hrest⟩ := addShorts_cons_eq_ok h
    have hletter : dropsLetter drop c = drop s := by simp [dropsLetter, hc]
    cases hdrop : drop s with
    | true =>
      rw [List.filter_cons_of_neg (by simp [hletter, hdrop]), ← addSwitch_dropped hpair hs hdrop]
      exact ih hrest
    | false =>
      rw [List.filter_cons_of_pos (by simp [hletter, hdrop]), addShorts, hc]
      simp only [addSwitch_without hpair hs hdrop]
      exact ih hrest

/-- No letter of a cluster that is read is a hyphen. -/
theorem hyphen_notMem_of_addShorts {letters : List Char} (h : a.addShorts letters = .ok b) : '-' ∉ letters := by
  induction letters generalizing a with
  | nil => simp
  | cons c rest ih =>
    obtain ⟨s, a', hc, -, hrest⟩ := addShorts_cons_eq_ok h
    have hne : '-' ≠ c := by
      rintro rfl
      cases hc
    simp [hne, ih hrest]

/-! ## Kinds -/

theorem kindOf_cluster {c : Char} {rest : List Char} (h : c ≠ '-') :
    kindOf (String.ofList ('-' :: c :: rest)) = .shorts (c :: rest) := by
  unfold kindOf
  rw [String.toList_ofList]
  split
  · rename_i heq
    cases heq
    exact absurd rfl h
  · rename_i heq
    cases heq
    exact absurd rfl h
  · rename_i heq
    cases heq
    rfl
  · rename_i hno
    exact absurd rfl (hno c rest)

/-- The value of a setting is no option. -/
theorem kindOf_of_value {value : String} (h : looksLikeOption value = false) : kindOf value = .file := by
  unfold looksLikeOption at h
  unfold kindOf
  split at h
  · cases h
  · rename_i hno
    split
    · rename_i heq
      exact absurd heq (hno _ _)
    · rename_i heq
      exact absurd heq (hno _ _)
    · rename_i heq
      exact absurd heq (hno _ _)
    · rfl

/-! ## Whole lists -/

/-- Reading the arguments adds them to what was read before. -/
inductive Reads : Arguments → List String → Arguments → Prop
  | done (a : Arguments) : Reads a [] a
  | files {a b : Arguments} {argument : String} {rest : List String} :
      kindOf argument = .restAreFiles → a.addFiles rest = .ok b → Reads a (argument :: rest) b
  | file {a a' b : Arguments} {argument : String} {rest : List String} :
      kindOf argument = .file → a.addFile argument = .ok a' → Reads a' rest b → Reads a (argument :: rest) b
  | shorts {a a' b : Arguments} {argument : String} {letters : List Char} {rest : List String} :
      kindOf argument = .shorts letters → a.addShorts letters = .ok a' → Reads a' rest b → Reads a (argument :: rest) b
  | switch {a a' b : Arguments} {argument name : String} {s : Switch} {rest : List String} :
      kindOf argument = .long name none → Named.ofLong? name = some (.switch s) → a.addSwitch argument s = .ok a' →
      Reads a' rest b → Reads a (argument :: rest) b
  /-- A value behind `=`. -/
  | setting {a a' b : Arguments} {argument name value : String} {s : Setting} {rest : List String} :
      kindOf argument = .long name (some value) → Named.ofLong? name = some (.setting s) →
      a.addSetting name value s = .ok a' → Reads a' rest b → Reads a (argument :: rest) b
  /-- A value in an argument of its own. -/
  | settingApart {a a' b : Arguments} {argument name value : String} {s : Setting} {rest : List String} :
      kindOf argument = .long name none → Named.ofLong? name = some (.setting s) → looksLikeOption value = false →
      a.addSetting name value s = .ok a' → Reads a' rest b → Reads a (argument :: value :: rest) b

theorem reads_of_readFrom {args : List String} (h : a.readFrom args = .ok b) : Reads a args b := by
  fun_induction readFrom a args with
  | case1 => cases h; exact .done _
  | case2 a argument rest hkind => exact .files hkind h
  | case4 a argument rest letters hkind a' ha ih => exact .shorts hkind ha (ih h)
  | case6 a argument rest hkind a' ha ih => exact .file hkind ha (ih h)
  | case10 a argument rest name s hname a' ha hkind ih => exact .switch hkind hname ha (ih h)
  | case12 a argument rest name s value hname a' ha hkind ih => exact .setting hkind hname ha (ih h)
  | case16 a argument name s hname value rest hvalue a' ha hkind ih =>
    exact .settingApart hkind hname (by simpa using hvalue) ha (ih h)
  | _ => cases h

theorem readFrom_of_reads {args : List String} (h : Reads a args b) : a.readFrom args = .ok b := by
  induction h with
  | done a => rfl
  | files hkind hfiles => simp only [readFrom, hkind, hfiles]
  | file hkind hfile _ ih => simp only [readFrom, hkind, hfile, ih]
  | shorts hkind hletters _ ih => simp only [readFrom, hkind, hletters, ih]
  | switch hkind hname hs _ ih => simp only [readFrom, hkind, hname, hs, ih]
  | setting hkind hname hs _ ih => simp only [readFrom, hkind, hname, hs, ih]
  | settingApart hkind hname hvalue hs _ ih => simp [readFrom, hkind, hname, hvalue, hs, ih]

/-- Each argument is read as before, or left out with what it says. -/
theorem reads_omitAll (hpair : drop .color = drop .noColor) {args : List String} (h : Reads a args b) :
    Reads (a.without drop) (omitAll drop args) (b.without drop) := by
  induction h with
  | done a => exact .done _
  | files hkind hfiles =>
    simp only [omitAll, hkind]
    exact .files hkind (addFiles_without hfiles)
  | file hkind hfile _ ih =>
    simp only [omitAll, hkind]
    exact .file hkind (addFile_without hfile) ih
  | shorts hkind hletters _ ih =>
    have hadd := addShorts_without hpair hletters
    have hhyphen := hyphen_notMem_of_addShorts hletters
    simp only [omitAll, hkind]
    split
    · rename_i hnone
      rw [hnone, addShorts, Except.ok.injEq] at hadd
      rw [hadd]
      exact ih
    · rename_i hne
      obtain ⟨c, kept, hkept⟩ := List.exists_cons_of_ne_nil hne
      have hc : c ≠ '-' := by
        rintro rfl
        exact hhyphen (List.mem_filter.mp (hkept ▸ List.mem_cons_self)).1
      rw [hkept] at hadd ⊢
      exact .shorts (kindOf_cluster hc) hadd ih
  | @switch a a' b argument name s rest hkind hname hs _ ih =>
    have hdrops : dropsName drop name = drop s := by simp [dropsName, hname]
    simp only [omitAll, hkind, hdrops]
    cases hdrop : drop s with
    | true =>
      rw [if_pos rfl, ← addSwitch_dropped hpair hs hdrop]
      exact ih
    | false =>
      rw [if_neg (by decide)]
      exact .switch hkind hname (addSwitch_without hpair hs hdrop) ih
  | @setting a a' b argument name value s rest hkind hname hs _ ih =>
    have hkept : ¬dropsName drop name = true := by simp [dropsName, hname]
    simp only [omitAll, hkind, if_neg hkept]
    exact .setting hkind hname (addSetting_without hs) ih
  | @settingApart a a' b argument name value s rest hkind hname hvalue hs _ ih =>
    have hkept : ¬dropsName drop name = true := by simp [dropsName, hname]
    simp only [omitAll, hkind, if_neg hkept, kindOf_of_value hvalue]
    exact .settingApart hkind hname hvalue (addSetting_without hs) ih

theorem readFrom_omitAll (hpair : drop .color = drop .noColor) {args : List String} (h : a.readFrom args = .ok b) :
    (a.without drop).readFrom (omitAll drop args) = .ok (b.without drop) :=
  readFrom_of_reads (reads_omitAll hpair (reads_of_readFrom h))

end Arguments

/-! ## Runs -/

namespace Invocation

def without (drop : Switch → Bool) (inv : Invocation) : Invocation :=
  { inv with
    flags := { inv.flags with
      ignoreCase := inv.flags.ignoreCase && !drop .ignoreCase
      multiLine := inv.flags.multiLine && !drop .multiLine
      dotAll := inv.flags.dotAll && !drop .dotAll }
    strip := inv.strip || drop .noStrip
    compact := inv.compact && !drop .compact
    report := inv.report && !drop .report
    color := inv.color && !drop .color }

variable {drop : Switch → Bool}

theorem ofArguments_without {a : Arguments} {inv : Invocation} (h : ofArguments a = .ok inv) :
    ofArguments (a.without drop) = .ok (inv.without drop) := by
  unfold ofArguments at h ⊢
  split at h
  · cases h
  · rename_i rules hrules
    simp only [Arguments.rules_without, hrules]
    split at h
    · cases h
    all_goals
      rename_i hinput hfiles
      cases h
      simp [hinput, hfiles, without]

/-- A run asked for in fewer words is the same run without what the other words ask for. -/
theorem ofArgs_omitAll (hpair : drop .color = drop .noColor) {args : List String} {inv : Invocation}
    (h : ofArgs args = .ok inv) : ofArgs (omitAll drop args) = .ok (inv.without drop) := by
  unfold ofArgs at h ⊢
  cases hread : Arguments.readFrom {} args with
  | error e => simp [hread] at h
  | ok a =>
    rw [hread] at h
    have hstart : Arguments.without drop {} = {} := by simp [Arguments.without]
    have homit := Arguments.readFrom_omitAll hpair hread
    rw [hstart] at homit
    rw [homit]
    exact ofArguments_without h

example : omitAll (· = .verbose) ["--rules", "r", "-iv", "-v", "--", "-v"] = ["--rules", "r", "-i", "--", "-v"] := by
  decide

end Invocation

end LineRules.CommandLine
