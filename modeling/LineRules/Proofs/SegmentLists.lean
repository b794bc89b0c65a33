/-
  LineRules.Proofs.SegmentLists — a path as dotted text and the same path as a list of segments.

  Cutting loses nothing: the pieces of a text, joined by dots, are the text (`intercalate_splitDotted`).
  Joining loses the borders between the parts unless each part is in one piece by itself and none but the
  last leaves a brace open, behind which the next dot would not separate (`Joinable`). The pieces of a text
  are always such parts, so these are the only lists that come back (`splitDotted_intercalate_iff`).

  A path is made from its segments alone. So the two ways to write it lead to the same root and the same
  segments, or to two refusals, each of which shows the path as it was written (`Agree`). The one exception
  is the list of one empty segment: joined it is the empty text, and the empty text stands for the root,
  not for the empty key (`agree_joined_iff`).
-/

import LineRules.Proofs.DottedPaths
import LineRules.Rule

namespace LineRules.PathText

/-! ## Cutting and joining -/

theorem intercalate_splitDotted (text : String) : String.intercalate "." (splitDotted text) = text := by
  apply String.toList_injective
  have hpieces : (splitDotted text).map String.toList = cutDots 0 text.toList := by
    simp [splitDotted, Function.comp_def]
  rw [String.toList_intercalate, hpieces]
  exact intercalate_cutDots 0 text.toList

/-- All pieces are whole, and only the last one may leave a brace open. -/
theorem whole_of_cutDots {cs : List Char} {pieces : List (List Char)} (h : cutDots 0 cs = pieces) :
    (∀ p ∈ pieces, Whole 0 p) ∧ ∀ p ∈ pieces.dropLast, depthAfter 0 p = 0 := by
  induction pieces generalizing cs with
  | nil => simp
  | cons p pieces ih =>
    obtain ⟨hwhole, hclosed⟩ := cutDots_eq_cons h
    cases pieces with
    | nil => simpa using hwhole
    | cons q pieces =>
      have hdepth : depthAfter 0 p = 0 := hclosed (by simp)
      -- what stands behind the first dot that separates is cut into the pieces that are left
      have hrest : cutDots 0 (['.'].intercalate (q :: pieces)) = q :: pieces := by
        have hcs : cs = p ++ '.' :: ['.'].intercalate (q :: pieces) := by
          rw [← intercalate_cutDots 0 cs, h, List.intercalate_cons_cons, List.append_assoc, List.singleton_append]
        rw [hcs, cutDots_append_dot hwhole hdepth] at h
        exact (List.cons.inj h).2
      obtain ⟨hwholes, hdepths⟩ := ih hrest
      exact ⟨List.forall_mem_cons.mpr ⟨hwhole, hwholes⟩, List.forall_mem_cons.mpr ⟨hdepth, hdepths⟩⟩

theorem splitDotted_eq_self_iff (text : String) : splitDotted text = [text] ↔ Whole 0 text.toList := by
  constructor
  · intro h
    obtain ⟨piece, hcut, hpiece⟩ := List.map_eq_singleton_iff.mp h
    rw [← hpiece, String.toList_ofList]
    exact (cutDots_eq_cons hcut).1
  · intro h
    rw [splitDotted, cutDots_of_whole h, List.map_singleton, String.ofList_toList]

/-- With dots between them the parts stay apart: none of them is cut by itself, and behind none but the last
    a brace is open. -/
structure Joinable (parts : List String) : Prop where
  uncut : ∀ s ∈ parts, splitDotted s = [s]
  closed : ∀ s ∈ parts.dropLast, depthAfter 0 s.toList = 0

theorem splitDotted_intercalate_iff {parts : List String} (hne : parts ≠ []) :
    splitDotted (String.intercalate "." parts) = parts ↔ Joinable parts := by
  constructor
  · intro h
    have hcut : cutDots 0 (String.intercalate "." parts).toList = parts.map String.toList := by
      have hchars := congrArg (List.map String.toList) h
      simpa [splitDotted, Function.comp_def] using hchars
    obtain ⟨hwhole, hdepth⟩ := whole_of_cutDots hcut
    rw [← List.map_dropLast] at hdepth
    refine ⟨fun s hs => ?_, fun s hs => ?_⟩
    · rw [splitDotted_eq_self_iff]
      exact hwhole s.toList (List.mem_map_of_mem hs)
    · exact hdepth s.toList (List.mem_map_of_mem hs)
  · intro h
    exact splitDotted_intercalate hne (fun s hs => (splitDotted_eq_self_iff s).mp (h.uncut s hs)) h.closed

theorem splitDotted_ne_nil (text : String) : splitDotted text ≠ [] := by
  simpa [splitDotted] using cutDots_ne_nil 0 text.toList

theorem joinable_splitDotted (text : String) : Joinable (splitDotted text) := by
  rw [← splitDotted_intercalate_iff (splitDotted_ne_nil text), intercalate_splitDotted]

theorem intercalate_eq_empty_iff {parts : List String} (hne : parts ≠ []) :
    String.intercalate "." parts = "" ↔ parts = [""] := by
  match parts, hne with
  | [p], _ => simp
  | p :: q :: parts, _ =>
    have hdot : '.' ∈ (String.intercalate "." (p :: q :: parts)).toList := by
      rw [String.toList_intercalate]
      simp [List.intercalate_cons_cons]
    constructor
    · intro h
      rw [h] at hdot
      cases hdot
    · intro h
      cases h

/-! ## Two ways to write a path -/

/-- Rules with the two paths have the same root and segments, or both paths are refused because their buffer
    has no name, each shown as it is written. -/
inductive Agree (a b : PathText) : Prop
  | made (p : Path) : Rule.makePath (some a) = .ok (some p) → Rule.makePath (some b) = .ok (some p) → Agree a b
  | refused : Rule.makePath (some a) = .error (.emptyBufferName a) →
      Rule.makePath (some b) = .error (.emptyBufferName b) → Agree a b

/-- Nothing but the segments of a text counts. -/
theorem agree_of_toSegments {a b : PathText} (h : a.toSegments = b.toSegments) : Agree a b := by
  have hsame : Path.ofText? a = Path.ofText? b := by
    rw [Path.ofText?, Path.ofText?, h]
  cases hb : Path.ofText? b with
  | none =>
    rw [hb] at hsame
    exact .refused (by rw [Rule.makePath, hsame]) (by rw [Rule.makePath, hb])
  | some p =>
    rw [hb] at hsame
    exact .made p (by rw [Rule.makePath, hsame]) (by rw [Rule.makePath, hb])

theorem toSegments_dotted {text : String} (h : text ≠ "") : (PathText.dotted text).toSegments = splitDotted text :=
  if_neg h

/-- The empty text is the root, the list of the empty segment is the place under the empty key. -/
theorem not_agree_empty : ¬Agree (.dotted "") (.segments [""]) := by
  have hroot : Rule.makePath (some (.dotted "")) = .ok (some ⟨.tree, []⟩) := by decide
  have hkey : Rule.makePath (some (.segments [""])) = .ok (some ⟨.tree, [""]⟩) := by decide
  rintro (⟨p, ha, hb⟩ | ⟨ha, -⟩)
  · rw [hroot] at ha
    rw [hkey, ← ha] at hb
    cases hb
  · rw [hroot] at ha
    cases ha

theorem agree_joined_iff {parts : List String} (hne : parts ≠ []) (h : Joinable parts) :
    Agree (.dotted (String.intercalate "." parts)) (.segments parts) ↔ parts ≠ [""] := by
  constructor
  · rintro hagree rfl
    exact not_agree_empty (by simpa using hagree)
  · intro hempty
    apply agree_of_toSegments
    rw [toSegments_dotted ((intercalate_eq_empty_iff hne).not.mpr hempty), (splitDotted_intercalate_iff hne).mpr h]
    rfl

/-- A list of segments is refused just if its first one is the sign of a buffer without a name. -/
theorem makePath_segments_eq_error_iff (parts : List String) (e : RowError) :
    Rule.makePath (some (.segments parts)) = .error e ↔
      e = .emptyBufferName (.segments parts) ∧ ∃ first rest, parts = first :: rest ∧ Path.Nameless first := by
  have hnone := Path.ofText?_eq_none_iff (.segments parts)
  rw [toSegments] at hnone
  rw [← hnone, Rule.makePath]
  cases hp : Path.ofText? (.segments parts) with
  | none => simp [eq_comm]
  | some p => simp

/-- A text is its pieces joined by dots, and parts joined by dots are cut apart again just if each of them is
    in one piece by itself and none but the last leaves a brace open, as it is with the pieces of a text. So a
    path may be written as dotted text or as the list of its segments: what is made of it is the same, and
    refused are the lists whose first segment is the sign of a buffer without a name. Only the empty text and
    the list of the empty segment are different paths. -/
theorem splitDotted_segments :
    (∀ text, String.intercalate "." (splitDotted text) = text ∧ Joinable (splitDotted text)) ∧
    (∀ parts, parts ≠ [] → (splitDotted (String.intercalate "." parts) = parts ↔ Joinable parts)) ∧
    (∀ parts, parts ≠ [] → Joinable parts →
      (Agree (.dotted (String.intercalate "." parts)) (.segments parts) ↔ parts ≠ [""])) ∧
    (∀ text, text ≠ "" → Agree (.dotted text) (.segments (splitDotted text))) ∧
    ∀ parts e, Rule.makePath (some (.segments parts)) = .error e ↔
      e = .emptyBufferName (.segments parts) ∧ ∃ first rest, parts = first :: rest ∧ Path.Nameless first := by
  refine ⟨?_, ?_, ?_, ?_, makePath_segments_eq_error_iff⟩
  · intro text
    exact ⟨intercalate_splitDotted text, joinable_splitDotted text⟩
  · intro parts hne
    exact splitDotted_intercalate_iff hne
  · intro parts hne hjoinable
    exact agree_joined_iff hne hjoinable
  · intro text htext
    apply agree_of_toSegments
    rw [toSegments_dotted htext]
    rfl

/-- The segments of `>> rec .{a.b}c.x}.{y.z`: a dot stands in a field, a brace closes nothing, and a brace is
    open at the end. -/
def signed : List String := [">> rec ", "{a.b}c", r"x}", r"{y.z"]

theorem splitDotted_segments_signed :
    Joinable signed ∧ splitDotted r">> rec .{a.b}c.x}.{y.z" = signed ∧
    Agree (.dotted r">> rec .{a.b}c.x}.{y.z") (.segments signed) ∧
    Rule.makePath (some (.segments signed)) = .ok (some ⟨.buffer "rec" .kept, signed.tail⟩) ∧
    Agree (.dotted "> >.x") (.segments ["> >", "x"]) ∧
    Rule.makePath (some (.segments ["> >", "x"])) = .error (.emptyBufferName (.segments ["> >", "x"])) := by
  obtain ⟨-, hcut, hagree, htext, hrefused⟩ := splitDotted_segments
  have hsigned : Joinable signed := ⟨by decide, by decide⟩
  have hjoined : String.intercalate "." signed = r">> rec .{a.b}c.x}.{y.z" := by decide +kernel
  have hsplit : splitDotted (String.intercalate "." signed) = signed := (hcut signed (by decide)).mpr hsigned
  have hsame := (hagree signed (by decide) hsigned).mpr (by decide)
  rw [hjoined] at hsplit hsame
  have hcut' : splitDotted "> >.x" = ["> >", "x"] := by decide +kernel
  have hsame' := htext "> >.x" (by decide)
  rw [hcut'] at hsame'
  have hnameless : Path.Nameless "> >" := ⟨[], by simp, .inr ⟨[' '], by decide +kernel, rfl⟩⟩
  exact ⟨hsigned, hsplit, hsame, by decide, hsame', (hrefused _ _).mpr ⟨rfl, "> >", ["x"], rfl, hnameless⟩⟩

end LineRules.PathText
