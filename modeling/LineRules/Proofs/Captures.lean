/-
  LineRules.Proofs.Captures — what a group captured stays in the context until it captures again.

  Groups of all rules share the context's entries by name. A fire of a rule with a group of the name
  sets the entry, to the empty text if the group took no part in the match; a pattern has no other
  group of that name (`groupName_injective`), so it is clear to what. Buffers and the three entries
  that every fire sets have other names. So a fire changes the entry by what it captures and by
  nothing else (`get?_fire_captured`), and after any number of fires it is what the last of them that
  captured it left there (`lastCaptured`).

  The name of a group stands in a placeholder as it is: nothing in it ends a field or is stripped
  (`ofChars_groupName`). So a placeholder with the name becomes this text in every segment and every
  template of a rule that fires, and its own fire counts (`scan_lastCaptured`).
-/

import LineRules.Proofs.Buffers
import LineRules.Proofs.Characters
import LineRules.Proofs.Course
import LineRules.Proofs.Expansion
import LineRules.Proofs.Pattern.GroupNames

namespace LineRules

open Entries (keys find?)

/-! ## The names of groups -/

def Pattern.IsGroupName (name : String) : Prop :=
  ∃ names cs rest, Pattern.readName names cs = .ok (name, rest)

namespace Pattern

theorem isNamePart_of_isNameStart {c : Char} (h : isNameStart c = true) : isNamePart c = true := by
  simp only [isNameStart, isNamePart, Unicode.isAlphanumeric, Bool.or_eq_true] at h ⊢
  exact h.elim (fun h => .inl (.inl (.inl (.inl h)))) fun h => .inr (.inl h)

theorem isNamePart_of_isGroupName {name : String} (h : IsGroupName name) : ∀ c ∈ name.toList, isNamePart c = true := by
  obtain ⟨names, cs, rest, h⟩ := h
  unfold readName at h
  split at h
  · cases h
  split at h
  · cases h
  rename_i first more _
  dsimp only at h
  split at h
  · cases h
  rename_i hparts
  split at h
  · cases h
  cases h
  simp only [Bool.not_eq_true', Bool.not_eq_false, Bool.and_eq_true, List.all_eq_true] at hparts
  intro c hc
  rw [String.toList_ofList] at hc
  rcases List.mem_cons.mp hc with rfl | hc
  · exact isNamePart_of_isNameStart hparts.1
  · exact hparts.2 c hc

theorem ne_of_isNamePart {c d : Char} (hc : isNamePart c = true) (hd : isNamePart d = false) : c ≠ d := by
  rintro rfl
  rw [hc] at hd
  cases hd

theorem isBlank_of_isNamePart {c : Char} (h : isNamePart c = true) : Unicode.isBlank c = false := by
  simp only [isNamePart, Bool.or_eq_true, decide_eq_true_eq] at h
  rcases h with (((rfl | rfl) | rfl) | rfl) | h
  · decide
  · decide
  · decide
  · decide
  · exact Unicode.isBlank_of_isAlphanumeric h

end Pattern

/-- The name of a group without dots and opening brackets is a field of its own. -/
theorem ofChars_groupName {name : String} (h : Pattern.IsGroupName name) (hdot : '.' ∉ name.toList)
    (hbracket : '[' ∉ name.toList) : Template.Field.ofChars name.toList = ⟨name, []⟩ := by
  have hparts := Pattern.isNamePart_of_isGroupName h
  have hsigns : name.toList.takeWhile (fun c => decide (c ≠ ':' ∧ c ≠ '!')) = name.toList :=
    List.takeWhile_eq_self_iff.mpr fun c hc => decide_eq_true
      ⟨Pattern.ne_of_isNamePart (hparts c hc) (by decide),
        Pattern.ne_of_isNamePart (hparts c hc) (by decide)⟩
  have htrim : Unicode.trimChars name.toList = name.toList :=
    Unicode.trimChars_eq_self fun c hc => Pattern.isBlank_of_isNamePart (hparts c hc)
  have hhead : ∀ c ∈ name.toList, decide (c ≠ '[' ∧ c ≠ '.') = true := by
    intro c hc
    refine decide_eq_true ⟨?_, ?_⟩
    · rintro rfl; exact hbracket hc
    · rintro rfl; exact hdot hc
  unfold Template.Field.ofChars
  simp only [hsigns, htrim, List.takeWhile_eq_self_iff.mpr hhead, List.dropWhile_eq_nil_iff.mpr hhead,
    String.ofList_toList, Template.accessors, List.map_nil]

/-- A group's name that stands in a field as it is, and that none of the entries has that every fire
    sets. -/
structure CaptureName (name : String) : Prop where
  group : Pattern.IsGroupName name
  no_dot : '.' ∉ name.toList
  no_bracket : '[' ∉ name.toList
  not_state : name ≠ "_state"
  not_guard : name ≠ "_ifstate"
  not_transition : name ≠ "_gotostate"

theorem lookup_captureName {name : String} (h : CaptureName name) {c : Context} {captured : Option String}
    (hc : c.get? name = captured.map .str) :
    Template.lookup c name.toList = captured.getD ("UNKNOWN_CONTEXT_KEY_" ++ name) := by
  rw [Template.lookup, ofChars_groupName h.group h.no_dot h.no_bracket]
  cases captured with
  | none => simp only [hc, Option.map_none, Option.getD_none]
  | some text => simp only [hc, Option.map_some, Template.walk, Value.display, Option.getD_some]

/-! ## What a fire captures -/

/-- The text of the group with the name, if the rule's pattern has one: stripped if asked, empty if
    the group took no part in the match. -/
def Fire.captured? (strip : Bool) (name : String) (f : Fire) : Option String :=
  (f.rule.pattern.groupNames.idxOf? (some name)).map fun i =>
    let text := (f.found.group? i).getD ""
    if strip then Unicode.trim text else text

def lastCaptured (strip : Bool) (name : String) (fs : List Fire) : Option String :=
  fs.reverse.findSome? (Fire.captured? strip name)

theorem lastCaptured_concat (strip : Bool) (name : String) (fs : List Fire) (f : Fire) :
    lastCaptured strip name (fs ++ [f]) = (f.captured? strip name).or (lastCaptured strip name fs) := by
  simp only [lastCaptured, List.reverse_append, List.findSome?_append, List.reverse_singleton,
    List.findSome?_singleton]

/-- The match is one with the pattern, which names no two groups alike. -/
structure Fire.Sound (name : String) (f : Fire) : Prop where
  groupNames : f.found.groupNames = f.rule.pattern.groupNames
  single : ∀ i j : Nat, f.rule.pattern.groupNames[i]? = some (some name) →
    f.rule.pattern.groupNames[j]? = some (some name) → i = j

theorem find?_capturesOf (strip : Bool) {name : String} {f : Fire} (h : f.Sound name) :
    find? (Store.capturesOf strip f.found) name = (f.captured? strip name).map .str := by
  unfold Fire.captured?
  cases hidx : f.rule.pattern.groupNames.idxOf? (some name) with
  | none =>
    rw [List.idxOf?_eq_none_iff, ← h.groupNames] at hidx
    exact (Entries.find?_eq_none_iff _ name).mpr fun hkey => hidx (keys_capturesOf hkey)
  | some i =>
    obtain ⟨hi, hname, -⟩ := List.idxOf?_eq_some_iff.mp hidx
    have hgroup : f.rule.pattern.groupNames[i]? = some (some name) := List.getElem?_eq_some_iff.mpr ⟨hi, hname⟩
    have hmem : (name, f.found.group i) ∈ f.found.named :=
      List.mem_filterMap.mpr ⟨(some name, i), List.mem_zipIdx_iff_getElem?.mpr (h.groupNames ▸ hgroup), rfl⟩
    refine Entries.find?_insertAll_of_forall [] ?_ fun e he hkey => ?_
    · rw [keys, List.map_map]
      exact List.mem_map_of_mem (f := fun g : String × String => g.1) hmem
    · obtain ⟨g, hg, rfl⟩ := List.mem_map.mp he
      obtain ⟨⟨other, j⟩, hj, hother⟩ := List.mem_filterMap.mp hg
      obtain ⟨n, rfl, rfl⟩ := Option.map_eq_some_iff.mp hother
      have hj : f.rule.pattern.groupNames[j]? = some (some name) := by
        rw [← h.groupNames, List.mem_zipIdx_iff_getElem?.mp hj]
        exact congrArg (fun n => some (some n)) hkey
      obtain rfl := h.single i j hgroup hj
      rfl

/-- The fire asks no function and writes to no buffer of the name. -/
structure Fire.Leaves (name : String) (f : Fire) : Prop extends f.Sound name where
  sure : f.rule.filter.isFunction = false
  root : ∀ path mode, f.rule.path = some path → path.root ≠ .buffer name mode

section Fires

variable {strip : Bool} {name : String} (hn : CaptureName name)
include hn

theorem get?_absorb_captured {f : Fire} (hf : f.Sound name) (c : Context) :
    (Store.absorb c (Store.capturesOf strip f.found) f.state f.rule).get? name =
      ((f.captured? strip name).map .str).or (c.get? name) := by
  rw [get?_absorb_of_ne strip hn.not_state hn.not_guard hn.not_transition, find?_capturesOf strip hf]

theorem get?_opened_captured {f : Fire} (hf : f.Leaves name) (s : Store) {path : Path} (hp : f.rule.path = some path) :
    (f.opened strip s path).get? name = ((f.captured? strip name).map .str).or (s.context.get? name) := by
  rw [Fire.opened, get?_prepare_of_ne (fun mode => hf.root path mode hp), get?_absorb_captured hn hf.toSound]

/-- A fire changes the entry by what it captures, and by nothing else. -/
theorem get?_fire_captured {s s' : Store} {f : Fire} {loc : Option String} (hf : f.Leaves name)
    (h : s.fire strip f.state f.rule f.found = .ok (s', loc)) :
    s'.context.get? name = ((f.captured? strip name).map .str).or (s.context.get? name) := by
  cases hp : f.rule.path with
  | none => rw [(fire_of_no_path hp h).1, get?_absorb_captured hn hf.toSound]
  | some path =>
    obtain ⟨v, -, -, rfl⟩ := fire_of_path hp hf.sure h
    rw [get?_write_of_ne (fun mode => hf.root path mode hp)]
    exact get?_opened_captured hn hf s hp

end Fires

/-! ## Tables -/

/-- The pattern, if it comes ready-made, is one that was read from some text. -/
def RowPattern.Compiled (pattern : RowPattern) : Prop :=
  ∀ p, pattern = .made p → ∃ flags source, Pattern.compile flags source = .ok p

theorem exists_compile {flags : Pattern.Flags} {pattern : RowPattern} (h : pattern.Compiled) {p : Pattern}
    {anchored : Bool} (hmake : Rule.makePattern flags pattern = .ok (p, anchored)) :
    ∃ flags source, Pattern.compile flags source = .ok p := by
  unfold Rule.makePattern at hmake
  split at hmake
  · cases hmake; exact h p rfl
  · split at hmake
    · cases hmake
    · split at hmake
      · cases hmake
      · rename_i hcompile
        cases hmake
        exact ⟨_, _, hcompile⟩

theorem sound_fires {flags : Pattern.Flags} {rows : List Row} {t : Table} (ht : Table.ofRows flags rows = .ok t)
    (hrows : ∀ row ∈ rows, row.pattern.Compiled) (name : String) {state : String} {lines : List String} {f : Fire}
    (hf : f ∈ t.fires state lines) : f.Sound name := by
  obtain ⟨hrule, line, hm⟩ := mem_fires hf
  obtain ⟨row, hrow, hr⟩ := exists_row ht hrule
  obtain ⟨_, _, hcompile⟩ := exists_compile (hrows row hrow) hr.fields.2.2.2.1
  exact ⟨groupNames_of_match? hm, fun i j hi hj => Pattern.groupName_injective hcompile hi hj⟩

/-! ## Placeholders -/

open Template (expand Token)

theorem row_captureName {name : String} (hn : CaptureName name) : Token.Row [.field name.toList] := by
  have hparts := Pattern.isNamePart_of_isGroupName hn.group
  refine ⟨⟨fun h => ?_, fun h => ?_⟩, trivial⟩
  · exact Pattern.ne_of_isNamePart (hparts _ h) (by decide +kernel) rfl
  · exact Pattern.ne_of_isNamePart (hparts _ (List.mem_of_mem_head? h)) (by decide +kernel) rfl

/-- A placeholder with the name becomes the entry's text, wherever it stands in a template. -/
theorem expand_captureName {name : String} (hn : CaptureName name) {c : Context} {captured : Option String}
    (hc : c.get? name = captured.map .str) (before after : List Token)
    (h : Token.Row (before ++ .field name.toList :: after)) :
    expand (String.ofList (Token.spellAll (before ++ .field name.toList :: after))) c =
      String.ofList (before.flatMap (Token.meaning c)) ++ captured.getD ("UNKNOWN_CONTEXT_KEY_" ++ name) ++
        String.ofList (after.flatMap (Token.meaning c)) :=
  Template.expand_field (lookup_captureName hn hc) before after h

theorem expand_placeholder {name : String} (hn : CaptureName name) {c : Context} {captured : Option String}
    (hc : c.get? name = captured.map .str) :
    expand (r"{" ++ name ++ r"}") c = captured.getD ("UNKNOWN_CONTEXT_KEY_" ++ name) := by
  have hspell : r"{" ++ name ++ r"}" = String.ofList (Token.spellAll ([] ++ .field name.toList :: [])) := by
    apply String.toList_inj.mp
    simp [Token.spellAll, Token.spell]
  have hexpand := expand_captureName hn hc [] [] (row_captureName hn)
  rw [← hspell] at hexpand
  simpa using hexpand

/-- Without filter functions, the entry of a group's name that no buffer has is at every moment of a
    scan what the last fire captured whose rule has the group, or missing if there was none: fires
    of other rules and lines without fires leave it alone. When a rule with a path fires, a
    placeholder with the name becomes this text in every segment and in its template, the
    current fire included, or says that the entry is missing. -/
theorem scan_lastCaptured {flags : Pattern.Flags} {rows : List Row} {t : Table} (ht : Table.ofRows flags rows = .ok t)
    (hrows : ∀ row ∈ rows, row.pattern.Compiled) (hfilter : ∀ rule ∈ t.rules, rule.filter.isFunction = false)
    {name : String} (hn : CaptureName name)
    (hroot : ∀ rule ∈ t.rules, ∀ path mode, rule.path = some path → path.root ≠ .buffer name mode)
    (o : ScanOptions) (lines : List String) :
    ∃ final, t.scan o lines = .ok final ∧ Store.after o.strip {} (t.fires "top" lines) = .ok final.store ∧
      ∀ fs rest, t.fires "top" lines = fs ++ rest → ∃ s, Store.after o.strip {} fs = .ok s ∧
        s.context.get? name = (lastCaptured o.strip name fs).map .str ∧
        ∀ f more path opened, rest = f :: more → f.rule.path = some path → opened = f.opened o.strip s path →
          ∃ v, f.write? o.strip s =
              some ⟨path.root, path.segments.map fun text => Segment.ofText (expand text opened), v⟩ ∧
            (∀ text, f.rule.filter = .template text → v = .str (expand text opened)) ∧
            expand (r"{" ++ name ++ r"}") opened =
              (lastCaptured o.strip name (fs ++ [f])).getD ("UNKNOWN_CONTEXT_KEY_" ++ name) ∧
            ∀ before after, Token.Row (before ++ .field name.toList :: after) →
              expand (String.ofList (Token.spellAll (before ++ .field name.toList :: after))) opened =
                String.ofList (before.flatMap (Token.meaning opened)) ++
                  (lastCaptured o.strip name (fs ++ [f])).getD ("UNKNOWN_CONTEXT_KEY_" ++ name) ++
                  String.ofList (after.flatMap (Token.meaning opened)) := by
  have hleaves : ∀ f ∈ t.fires "top" lines, f.Leaves name := fun f hf =>
    ⟨sound_fires ht hrows name hf, hfilter _ (mem_fires hf).1, hroot _ (mem_fires hf).1⟩
  -- a fire changes the entry just as it changes what was captured last
  obtain ⟨final, hfinal, hafter, hmoments⟩ := scan_of_step
    (I := fun fs s => s.context.get? name = (lastCaptured o.strip name fs).map .str)
    (fun rule hmem => .inr (hfilter rule hmem)) o lines rfl fun f hf before s s' loc hs hfire => by
      rw [get?_fire_captured hn (hleaves f hf) hfire, hs, lastCaptured_concat, Option.map_or]
  refine ⟨final, hfinal, hafter, fun fs rest hfires => ?_⟩
  obtain ⟨s, hs, hentry⟩ := hmoments fs rest hfires
  refine ⟨s, hs, hentry, ?_⟩
  rintro f more path _ hrest hp rfl
  have hf : f.Leaves name := hleaves f (by simp [hfires, hrest])
  obtain ⟨v, hw, htemplate⟩ := write?_of_not_function o.strip s hp hf.sure
  have hopened : (f.opened o.strip s path).get? name = (lastCaptured o.strip name (fs ++ [f])).map .str := by
    rw [get?_opened_captured hn hf s hp, hentry, lastCaptured_concat, Option.map_or]
  exact ⟨v, hw, htemplate, expand_placeholder hn hopened,
    fun before after hrow => expand_captureName hn hopened before after hrow⟩

def tagging : List Row :=
  [ { pattern := .text "(?P<k>[a-z])(?P<v>[0-9])?" },
    { pattern := .text "-", path := some (.dotted "seen.{k}"), filter := .template "<{v}>" } ]

/-- The second name has no size, so the size of the first one is gone. -/
theorem scan_lastCaptured_tagging :
    ∃ t final f s path, Table.ofRows {} tagging = .ok t ∧ t.scan {} ["a1", "b", "-"] = .ok final ∧
      final.result.compact = r#"{"seen":{"b":"<>"}}"# ∧
      t.fires "top" ["a1", "b", "-"] = (t.fires "top" ["a1", "b", "-"]).take 2 ++ [f] ∧
      Store.after true {} ((t.fires "top" ["a1", "b", "-"]).take 2) = .ok s ∧ f.rule.path = some path ∧
      expand "{v}" (f.opened true s path) = "" := by
  have hseen : (Table.ofRows {} tagging).map (fun t =>
      ((t.scan {} ["a1", "b", "-"]).map fun s => s.result.compact,
        (t.fires "top" ["a1", "b", "-"]).map fun f => f.rule.path,
        lastCaptured true "v" (t.fires "top" ["a1", "b", "-"]))) =
      .ok (.ok r#"{"seen":{"b":"<>"}}"#, [none, none, some ⟨.tree, ["seen", "{k}"]⟩],
        some "") := by decide +kernel
  obtain ⟨t, ht, hvalues⟩ := map_eq_ok hseen
  simp only [Prod.mk.injEq] at hvalues
  obtain ⟨hscan, hpaths, hlast⟩ := hvalues
  obtain ⟨final, hfinal, hcompact⟩ := map_eq_ok hscan.symm
  have hrows : ∀ row ∈ tagging, row.pattern.Compiled := by
    intro row hrow p hp
    rcases List.mem_pair.mp hrow with rfl | rfl <;> cases hp
  have hfilter : ∀ rule ∈ t.rules, rule.filter.isFunction = false := by
    intro rule hrule
    obtain ⟨row, hrow, hr⟩ := exists_row ht hrule
    rw [hr.fields.2.2.1]
    rcases List.mem_pair.mp hrow with rfl | rfl <;> rfl
  have htree : Rule.makePath (some (.dotted "seen.{k}")) = .ok (some ⟨.tree, ["seen", "{k}"]⟩) := by
    decide +kernel
  have hroot : ∀ rule ∈ t.rules, ∀ path mode, rule.path = some path → path.root ≠ .buffer "v" mode := by
    intro rule hrule path mode hp
    obtain ⟨row, hrow, hr⟩ := exists_row ht hrule
    have hpath : Rule.makePath row.path = .ok (some path) := hp ▸ hr.fields.2.2.2.2
    rcases List.mem_pair.mp hrow with rfl | rfl
    · cases hpath
    · rw [htree, Except.ok.injEq, Option.some.injEq] at hpath
      simp [← hpath]
  have hgroup : Pattern.readName [] ['v', '>'] = .ok ("v", []) := by decide
  have hname : CaptureName "v" :=
    ⟨⟨[], ['v', '>'], [], hgroup⟩, by decide, by decide, by decide, by decide, by decide⟩
  obtain ⟨-, -, -, hmoments⟩ :=
    scan_lastCaptured ht hrows hfilter hname hroot {} ["a1", "b", "-"]
  obtain ⟨f₀, l, hl, -, hpaths⟩ := List.map_eq_cons_iff.mp hpaths.symm
  obtain ⟨f₁, l, rfl, -, hpaths⟩ := List.map_eq_cons_iff.mp hpaths
  obtain ⟨f₂, l, rfl, hp, hnil⟩ := List.map_eq_cons_iff.mp hpaths
  obtain rfl := List.map_eq_nil_iff.mp hnil
  obtain ⟨s, hs, -, hnext⟩ := hmoments [f₀, f₁] [f₂] hl
  obtain ⟨v, -, -, hexpand, -⟩ := hnext f₂ [] _ _ rfl hp rfl
  have hempty : lastCaptured ({} : ScanOptions).strip "v" ([f₀, f₁] ++ [f₂]) = some "" := by
    rw [hl] at hlast
    exact hlast.symm
  rw [hempty] at hexpand
  refine ⟨t, final, f₂, s, _, ht, hfinal, hcompact.symm, ?_, ?_, hp, hexpand⟩
  · rw [hl]; rfl
  · rw [hl]; exact hs

end LineRules
