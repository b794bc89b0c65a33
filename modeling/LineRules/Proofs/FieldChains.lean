/-
  LineRules.Proofs.FieldChains — what a placeholder with a chain of keys stands for.

  A placeholder holds a head and a chain of keys, each in brackets or behind a dot, perhaps with white space
  around them and with a suffix. Reading takes the parts as they were written (`ofChars_chars`): the suffix
  and the white space go first, the head ends where the chain begins, and each link ends where the next one
  begins (`accessors_spell`).

  The keys lead from value to value (`Leads`), by name or by position (`Child`). Either they lead all the way,
  or there is a first one that leads nowhere (`leads_or_stuck`), and the text is what stands at the end or
  names this key (`walk_of_leads`, `walk_of_stuck`).
-/

import LineRules.Proofs.Characters
import LineRules.Proofs.Expansion
import Mathlib.Data.Nat.Digits.Defs

namespace LineRules.Template

open Unicode (isBlank Bare trimChars)

/-! ## Placeholders -/

def Free (stops cs : List Char) : Prop := ∀ c ∈ cs, c ∉ stops

theorem Free.append {stops cs ds : List Char} (hcs : Free stops cs) (hds : Free stops ds) : Free stops (cs ++ ds) := by
  intro c hc
  exact (List.mem_append.mp hc).elim (hcs c) (hds c)

theorem Free.mono {stops stops' cs : List Char} (h : Free stops cs) (hsub : stops' ⊆ stops) : Free stops' cs :=
  fun c hc hstop => h c hc (hsub hstop)

inductive Link where
  | bracket (key : String)
  | dot (key : String)
  deriving DecidableEq, Repr

namespace Link

def key : Link → String
  | .bracket k => k
  | .dot k => k

def spell : Link → List Char
  | .bracket k => '[' :: (k.toList ++ [']'])
  | .dot k => '.' :: k.toList

/-- The key has no character that would end it, or the field. -/
def Sound : Link → Prop
  | .bracket k => Free [']', ':', '!', '{', '}'] k.toList
  | .dot k => Free ['[', '.', ':', '!', '{', '}'] k.toList

end Link

structure Chain where
  before : List Char := []
  head : String
  links : List Link := []
  after : List Char := []
  /-- A format or a conversion, with its sign. -/
  suffix : List Char := []
  blank_before : ∀ c ∈ before, isBlank c = true
  blank_after : ∀ c ∈ after, isBlank c = true
  head_free : Free ['[', '.', ':', '!', '{', '}'] head.toList
  head_bare : Bare head.toList
  sound : ∀ l ∈ links, l.Sound
  /-- White space at the end would not belong to the key. -/
  last_bare : ∀ k, links.getLast? = some (.dot k) → ∀ c, k.toList.getLast? = some c → isBlank c = false
  suffix_sign : ∀ c, suffix.head? = some c → c = ':' ∨ c = '!'
  suffix_closed : '}' ∉ suffix

namespace Chain

def keys (p : Chain) : List String := p.links.map Link.key

/-- The field that the placeholder means, without white space and suffix. -/
def core (p : Chain) : List Char := p.head.toList ++ p.links.flatMap Link.spell

def chars (p : Chain) : List Char := p.before ++ (p.core ++ p.after) ++ p.suffix

def text (p : Chain) : String := String.ofList ('{' :: (p.chars ++ ['}']))

end Chain

/-! ## Reading a chain -/

theorem bracketed_key {key : List Char} (h : ']' ∉ key) (before rest : List Char) :
    bracketed before (key ++ ']' :: rest) = (before.reverse ++ key) :: accessors rest := by
  induction key generalizing before with
  | nil => simp [bracketed]
  | cons c key ih =>
    simp only [List.mem_cons, not_or] at h
    rw [List.cons_append, bracketed, if_neg (Ne.symm h.1), ih h.2]
    simp

/-- A key behind a dot ends where the next link begins. -/
theorem dotted_key {key : List Char} (h : Free ['[', '.'] key) {rest : List Char}
    (hrest : ∀ c, rest.head? = some c → c = '[' ∨ c = '.') (before : List Char) :
    dotted before (key ++ rest) = (before.reverse ++ key) :: accessors rest := by
  induction key generalizing before with
  | nil =>
    cases rest with
    | nil => simp [dotted, accessors]
    | cons c rest =>
      rcases hrest c rfl with rfl | rfl
      · simp [dotted, accessors]
      · simp [dotted, accessors]
  | cons c key ih =>
    have hc : c ≠ '[' ∧ c ≠ '.' := by simpa using h c List.mem_cons_self
    rw [List.cons_append, dotted, if_neg hc.1, if_neg hc.2, ih fun d hd => h d (List.mem_cons_of_mem c hd)]
    simp

theorem head?_spell (links : List Link) (c : Char) (h : (links.flatMap Link.spell).head? = some c) :
    c = '[' ∨ c = '.' := by
  cases links with
  | nil => simp at h
  | cons l links =>
    cases l with
    | bracket k =>
      have hc : '[' = c := by simpa [Link.spell] using h
      exact Or.inl hc.symm
    | dot k =>
      have hc : '.' = c := by simpa [Link.spell] using h
      exact Or.inr hc.symm

theorem accessors_spell {links : List Link} (h : ∀ l ∈ links, l.Sound) :
    accessors (links.flatMap Link.spell) = links.map fun l => l.key.toList := by
  induction links with
  | nil => rfl
  | cons l links ih =>
    have hrest := ih fun a ha => h a (List.mem_cons_of_mem l ha)
    have hl : l.Sound := h l List.mem_cons_self
    rw [List.flatMap_cons, List.map_cons]
    cases l with
    | bracket k =>
      have hk : ']' ∉ k.toList := fun hmem => hl ']' hmem (by simp)
      rw [Link.spell, List.cons_append, List.append_assoc, List.singleton_append, accessors, bracketed_key hk, hrest]
      rfl
    | dot k =>
      have hk : Free ['[', '.'] k.toList := hl.mono (by simp)
      rw [Link.spell, List.cons_append, accessors, dotted_key hk (head?_spell links), hrest]
      rfl

namespace Chain

variable (p : Chain)

theorem free_of_blank {cs : List Char} (h : ∀ c ∈ cs, isBlank c = true) : Free [':', '!', '{', '}'] cs := by
  have hstops : [':', '!', '{', '}'].all (!isBlank ·) = true := by decide
  intro c hc hstop
  have hblank := h c hc
  have hno := List.all_eq_true.mp hstops c hstop
  simp [hblank] at hno

theorem free_links : Free [':', '!', '{', '}'] (p.links.flatMap Link.spell) := by
  intro c hc
  obtain ⟨l, hl, hc⟩ := List.mem_flatMap.mp hc
  have hsound := p.sound l hl
  cases l with
  | bracket k =>
    have hc : c = '[' ∨ c ∈ k.toList ∨ c = ']' := by simpa [Link.spell] using hc
    rcases hc with rfl | hc | rfl
    · decide
    · exact hsound.mono (by simp) c hc
    · decide
  | dot k =>
    have hc : c = '.' ∨ c ∈ k.toList := by simpa [Link.spell] using hc
    rcases hc with rfl | hc
    · decide
    · exact hsound.mono (by simp) c hc

/-- Nothing in front of the suffix ends the field. -/
theorem free_front : Free [':', '!', '{', '}'] (p.before ++ (p.core ++ p.after)) := by
  have hcore : Free [':', '!', '{', '}'] p.core := (p.head_free.mono (by simp)).append p.free_links
  exact (free_of_blank p.blank_before).append (hcore.append (free_of_blank p.blank_after))

theorem getLast?_spell {l : Link} {c : Char} (h : l.spell.getLast? = some c) :
    c = ']' ∨ c = '.' ∨ ∃ k, l = .dot k ∧ k.toList.getLast? = some c := by
  cases l with
  | bracket k =>
    have hc : ']' = c := by simpa [Link.spell, List.getLast?_cons, List.getLast?_append] using h
    exact Or.inl hc.symm
  | dot k =>
    cases hk : k.toList.getLast? with
    | none =>
      have hnil : k.toList = [] := List.getLast?_eq_none_iff.mp hk
      have hc : '.' = c := by simpa [Link.spell, hnil] using h
      exact Or.inr (Or.inl hc.symm)
    | some d =>
      have hc : d = c := by simpa [Link.spell, List.getLast?_cons, hk] using h
      exact Or.inr (Or.inr ⟨k, rfl, by rw [hk, hc]⟩)

theorem bare_core : Bare p.core := by
  have hmarks : isBlank '[' = false ∧ isBlank ']' = false ∧ isBlank '.' = false := by decide
  constructor
  · intro c hc
    rw [core, List.head?_append, Option.or_eq_some_iff] at hc
    rcases hc with hc | ⟨-, hc⟩
    · exact p.head_bare.1 c hc
    · rcases head?_spell p.links c hc with rfl | rfl
      · exact hmarks.1
      · exact hmarks.2.2
  · intro c hc
    rw [core, List.getLast?_append, Option.or_eq_some_iff] at hc
    rcases hc with hc | ⟨-, hc⟩
    · rcases List.eq_nil_or_concat p.links with hnil | ⟨front, l, hlinks⟩
      · simp [hnil] at hc
      · have hlast : p.links.getLast? = some l := by simp [hlinks]
        have hne : l.spell ≠ [] := by cases l <;> simp [Link.spell]
        rw [hlinks, List.concat_eq_append, List.flatMap_append, List.flatMap_singleton,
          List.getLast?_append_of_ne_nil _ hne] at hc
        rcases getLast?_spell hc with rfl | rfl | ⟨k, rfl, hk⟩
        · exact hmarks.2.1
        · exact hmarks.2.2
        · exact p.last_bare k hlast c hk
    · exact p.head_bare.2 c hc

/-- The parts are read as they were written. -/
theorem ofChars_chars : Field.ofChars p.chars = ⟨p.head, p.keys⟩ := by
  have hfront : p.chars.takeWhile (fun c => decide (c ≠ ':' ∧ c ≠ '!')) = p.before ++ (p.core ++ p.after) := by
    have hsuffix : p.suffix.takeWhile (fun c => decide (c ≠ ':' ∧ c ≠ '!')) = [] := by
      cases hs : p.suffix with
      | nil => rfl
      | cons c rest => rcases p.suffix_sign c (by rw [hs]; rfl) with rfl | rfl <;> rfl
    rw [chars, List.takeWhile_append_of_pos, hsuffix, List.append_nil]
    intro c hc
    have hfree := p.free_front c hc
    simp only [List.mem_cons, not_or] at hfree
    exact decide_eq_true ⟨hfree.1, hfree.2.1⟩
  have htrim : trimChars (p.before ++ (p.core ++ p.after)) = p.core :=
    Unicode.trimChars_of_bare p.blank_before p.bare_core p.blank_after
  have hhead : ∀ c ∈ p.head.toList, decide (c ≠ '[' ∧ c ≠ '.') = true := by
    intro c hc
    have hfree := p.head_free c hc
    simp only [List.mem_cons, not_or] at hfree
    exact decide_eq_true ⟨hfree.1, hfree.2.1⟩
  have hlinks : (p.links.flatMap Link.spell).takeWhile (fun c => decide (c ≠ '[' ∧ c ≠ '.')) = [] ∧
      (p.links.flatMap Link.spell).dropWhile (fun c => decide (c ≠ '[' ∧ c ≠ '.')) = p.links.flatMap Link.spell := by
    cases hl : p.links.flatMap Link.spell with
    | nil => exact ⟨rfl, rfl⟩
    | cons c rest => rcases head?_spell p.links c (by rw [hl]; rfl) with rfl | rfl <;> exact ⟨rfl, rfl⟩
  unfold Field.ofChars
  simp only [hfront, htrim]
  simp only [core, List.takeWhile_append_of_pos hhead, List.dropWhile_append_of_pos hhead, hlinks.1, hlinks.2,
    accessors_spell p.sound, List.append_nil, String.ofList_toList, List.map_map]
  simp [keys, Function.comp_def]

theorem expand_text (c : Context) : expand p.text c = lookup c p.chars := by
  have hclosed : '}' ∉ p.chars := by
    intro hmem
    rcases List.mem_append.mp hmem with hmem | hmem
    · exact p.free_front '}' hmem (by simp)
    · exact p.suffix_closed hmem
  have hopen : p.chars.head? ≠ some '{' := by
    rw [chars, List.head?_append, Ne, Option.or_eq_some_iff]
    rintro (hhead | ⟨-, hhead⟩)
    · exact p.free_front '{' (List.mem_of_head? hhead) (by simp)
    · rcases p.suffix_sign '{' hhead with h | h <;> cases h
  have hrow : Token.Row [.field p.chars] := ⟨⟨hclosed, hopen⟩, trivial⟩
  have hspell : Token.spellAll [.field p.chars] = '{' :: (p.chars ++ ['}']) := by simp [Token.spellAll, Token.spell]
  rw [expand, text, String.toList_ofList, ← hspell, expandChars_spellAll c hrow, List.flatMap_singleton]
  exact String.ofList_toList

end Chain

/-! ## Following keys -/

/-- The text denotes the number: decimal digits, perhaps with a plus sign in front. -/
def Denotes (key : String) (i : Nat) : Prop :=
  ∃ digits, (key.toList = digits ∨ key.toList = '+' :: digits) ∧ digits ≠ [] ∧
    (∀ d ∈ digits, '0' ≤ d ∧ d ≤ '9') ∧ i = Nat.ofDigits 10 (digits.reverse.map fun d => d.toNat - '0'.toNat)

theorem decimalValue?_eq_some_iff {digits : List Char} {i : Nat} : decimalValue? digits = some i ↔
    digits ≠ [] ∧ (∀ d ∈ digits, '0' ≤ d ∧ d ≤ '9') ∧
      i = Nat.ofDigits 10 (digits.reverse.map fun d => d.toNat - '0'.toNat) := by
  have hnone (cs : List Char) : cs.foldl (fun n c => n.bind fun n =>
      if '0' ≤ c ∧ c ≤ '9' then some (10 * n + (c.toNat - '0'.toNat)) else none) none = none := by
    induction cs with
    | nil => rfl
    | cons c cs ih => exact ih
  have hfold (cs : List Char) (n : Nat) : cs.foldl (fun n c => n.bind fun n =>
      if '0' ≤ c ∧ c ≤ '9' then some (10 * n + (c.toNat - '0'.toNat)) else none) (some n) = some i ↔
      (∀ d ∈ cs, '0' ≤ d ∧ d ≤ '9') ∧ i = cs.foldl (fun n d => 10 * n + (d.toNat - '0'.toNat)) n := by
    induction cs generalizing n with
    | nil => simp [eq_comm]
    | cons c cs ih =>
      rw [List.foldl_cons, List.foldl_cons, List.forall_mem_cons]
      by_cases hc : '0' ≤ c ∧ c ≤ '9'
      · rw [Option.bind_some, if_pos hc, ih]
        simp [hc]
      · rw [Option.bind_some, if_neg hc, hnone]
        simp [hc]
  have hvalue : Nat.ofDigits 10 (digits.reverse.map fun d => d.toNat - '0'.toNat) =
      digits.foldl (fun n d => 10 * n + (d.toNat - '0'.toNat)) 0 := by
    simp [Nat.ofDigits_eq_foldr, List.foldr_reverse, List.foldl_map, Nat.add_comm]
  rw [decimalValue?, hvalue]
  cases digits with
  | nil => simp
  | cons d digits => simpa using hfold (d :: digits) 0

theorem position?_eq_some_iff {key : String} {i : Nat} : position? key = some i ↔ Denotes key i ∧ i ≤ maxPosition := by
  have hplus : ¬('0' ≤ '+' ∧ '+' ≤ '9') := by decide
  rw [position?, Option.filter_eq_some_iff, decimalValue?_eq_some_iff, decide_eq_true_iff]
  refine and_congr_left fun _ => ?_
  unfold Denotes
  split
  · rename_i rest hkey
    constructor
    · intro h
      exact ⟨rest, Or.inr hkey, h⟩
    · rintro ⟨digits, hdigits | hdigits, hne, hall, hi⟩
      · exact absurd (hall '+' (by rw [← hdigits, hkey]; exact List.mem_cons_self)) hplus
      · rw [hkey, List.cons.injEq] at hdigits
        rw [hdigits.2]
        exact ⟨hne, hall, hi⟩
  · rename_i hkey
    constructor
    · intro h
      exact ⟨key.toList, Or.inl rfl, h⟩
    · rintro ⟨digits, hdigits | hdigits, hne, hall, hi⟩
      · rw [hdigits]
        exact ⟨hne, hall, hi⟩
      · exact absurd hdigits (hkey digits)

/-- The second value stands in the first one: in a mapping under the key, or in a list at the position that the
    key denotes. -/
inductive Child : Value → String → Value → Prop
  | key {m : Entries Value} {k : String} {w : Value} : Entries.find? m k = some w → Child (.map m) k w
  | position {l : List Value} {k : String} {i : Nat} {w : Value} :
      Denotes k i → i ≤ maxPosition → l[i]? = some w → Child (.list l) k w

theorem child?_eq_some_iff {v w : Value} {k : String} : child? v k = some w ↔ Child v k w := by
  constructor
  · intro h
    cases v with
    | str s => cases h
    | map m => exact .key h
    | list l =>
      obtain ⟨i, hi, hw⟩ := Option.bind_eq_some_iff.mp h
      obtain ⟨hkey, hfits⟩ := position?_eq_some_iff.mp hi
      exact .position hkey hfits hw
  · intro h
    cases h with
    | key h => exact h
    | position hkey hfits hw =>
      exact Option.bind_eq_some_iff.mpr ⟨_, position?_eq_some_iff.mpr ⟨hkey, hfits⟩, hw⟩

inductive Leads : Value → List String → Value → Prop
  | here (v : Value) : Leads v [] v
  | step {v w u : Value} {k : String} {ks : List String} : Child v k w → Leads w ks u → Leads v (k :: ks) u

theorem walk_of_leads {v w : Value} {ks : List String} (h : Leads v ks w) (rest : List String) :
    walk v (ks ++ rest) = walk w rest := by
  induction h with
  | here v => rfl
  | step hchild _ ih =>
    rw [List.cons_append, walk, child?_eq_some_iff.mpr hchild]
    exact ih

theorem walk_of_stuck {v : Value} {k : String} (h : ∀ w, ¬Child v k w) (rest : List String) :
    walk v (k :: rest) = "_" ++ k ++ "_not_found" := by
  have hnone : child? v k = none := Option.eq_none_iff_forall_ne_some.mpr fun w hw => h w (child?_eq_some_iff.mp hw)
  rw [walk, hnone]

theorem leads_or_stuck (v : Value) (ks : List String) : (∃ w, Leads v ks w) ∨
    ∃ before k after w, ks = before ++ k :: after ∧ Leads v before w ∧ ∀ u, ¬Child w k u := by
  induction ks generalizing v with
  | nil => exact Or.inl ⟨v, .here v⟩
  | cons k ks ih =>
    by_cases hchild : ∃ w, Child v k w
    · obtain ⟨w, hw⟩ := hchild
      rcases ih w with ⟨u, hu⟩ | ⟨before, k', after, u, rfl, hleads, hstuck⟩
      · exact Or.inl ⟨u, .step hw hu⟩
      · exact Or.inr ⟨k :: before, k', after, u, rfl, .step hw hleads, hstuck⟩
    · exact Or.inr ⟨[], k, ks, v, rfl, .here v, fun u hu => hchild ⟨u, hu⟩⟩

/-- A placeholder stands for the value that its keys lead to from the entry of its head, as text. If there is no
    such entry it names the head, and if a key leads nowhere it names the first such key. White space around the
    field and a suffix do not matter. -/
theorem expand_chain (p : Chain) (c : Context) :
    (c.get? p.head = none → expand p.text c = "UNKNOWN_CONTEXT_KEY_" ++ p.head) ∧
    ∀ v, c.get? p.head = some v →
      (∀ w, Leads v p.keys w → expand p.text c = w.display) ∧
      (∀ before k after w, p.keys = before ++ k :: after → Leads v before w → (∀ u, ¬Child w k u) →
        expand p.text c = "_" ++ k ++ "_not_found") ∧
      ((∃ w, Leads v p.keys w) ∨
        ∃ before k after w, p.keys = before ++ k :: after ∧ Leads v before w ∧ ∀ u, ¬Child w k u) := by
  have hexpand : expand p.text c = lookup c p.chars := p.expand_text c
  rw [lookup, p.ofChars_chars] at hexpand
  constructor
  · intro hnone
    simpa only [hnone] using hexpand
  intro v hv
  have hwalk : expand p.text c = walk v p.keys := by simpa only [hv] using hexpand
  refine ⟨?_, ?_, leads_or_stuck v p.keys⟩
  · intro w hw
    have hend := walk_of_leads hw []
    rw [List.append_nil] at hend
    rw [hwalk, hend]
    rfl
  · intro before k after w hkeys hleads hstuck
    rw [hwalk, hkeys, walk_of_leads hleads, walk_of_stuck hstuck]

def winding : Chain where
  before := [' ']
  head := "rec"
  links := [.bracket "a.b[", .bracket "+1", .dot ""]
  after := [' ']
  suffix := [':', '>', '8']
  blank_before c hc := by rw [List.mem_singleton.mp hc]; decide
  blank_after c hc := by rw [List.mem_singleton.mp hc]; decide
  head_free := by simp [Free]
  head_bare := by
    constructor
    · simp; decide
    · simp; decide
  sound := by simp [Link.Sound, Free]
  last_bare := by simp
  suffix_sign := by simp
  suffix_closed := by simp

/-- The keys lead to a text, or, if the list is shorter, the position is named. -/
theorem expand_chain_winding :
    let deep := Value.map [("", .str "deep")]
    let full := Value.map [("a.b[", .list [.str "x", deep])]
    let short := Value.map [("a.b[", .list [.str "x"])]
    winding.text = "{ rec[a.b[][+1]. :>8}" ∧ Leads full winding.keys (.str "deep") ∧
      expand winding.text (.ofPairs [("rec", full)]) = "deep" ∧
      Leads short ["a.b["] (.list [.str "x"]) ∧ (∀ u, ¬Child (.list [.str "x"]) "+1" u) ∧
      expand winding.text (.ofPairs [("rec", short)]) = "_+1_not_found" ∧
      expand winding.text .empty = "UNKNOWN_CONTEXT_KEY_rec" := by
  intro deep full short
  have hfull : Leads full winding.keys (.str "deep") :=
    .step (child?_eq_some_iff.mp rfl) (.step (child?_eq_some_iff.mp rfl) (.step (child?_eq_some_iff.mp rfl) (.here _)))
  have hshort : Leads short ["a.b["] (.list [.str "x"]) := .step (child?_eq_some_iff.mp rfl) (.here _)
  have hstuck : ∀ u, ¬Child (.list [.str "x"]) "+1" u := by
    intro u hu
    cases child?_eq_some_iff.mpr hu
  refine ⟨by decide, hfull, ?_, hshort, hstuck, ?_, ?_⟩
  · exact ((expand_chain winding (.ofPairs [("rec", full)])).2 full rfl).1 (.str "deep") hfull
  · exact ((expand_chain winding (.ofPairs [("rec", short)])).2 short rfl).2.1 ["a.b["] "+1" [""] _ rfl hshort hstuck
  · exact (expand_chain winding .empty).1 rfl

end LineRules.Template
