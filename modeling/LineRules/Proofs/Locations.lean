/-
  LineRules.Proofs.Locations — the location that a trace shows leads back to the place.

  A location joins the sign of the buffer and the texts of the segments by dots. The keys of a place
  are normal, so their texts hold neither dots nor braces nor the sign of a buffer (`ne_of_mem_text`),
  and each one stands for its segment again (`ofText_text`). The name of a buffer may hold all of these.
  But it was read from dotted text itself, which leaves its own dots inside braces
  (`readable_of_ofText?`). So a location, read as dotted text, has the root and the segments that it was
  made of (`ofText?_location_eq`), and these lead to one place in whatever context.

  One place of the tree cannot be told from another one: the place under the empty key has the location
  of the root.
-/

import LineRules.Proofs.Collecting
import LineRules.Proofs.ComputedKeys
import LineRules.Proofs.DottedPaths

namespace LineRules

open PathText (Whole Neutral depthAfter cutDots splitDotted)
open Unicode (isWord)

/-! ## Segments -/

namespace Segment

variable {a : Segment} (ha : Key.Normal a.key)

/-- The characters of a segment's text are those of its key and the brackets of its mark. -/
theorem mem_text {c : Char} (h : c ∈ a.text.toList) : c ∈ a.key.toList ∨ c = '[' ∨ c = ']' := by
  unfold Segment.text at h
  split at h
  · rw [String.toList_append, List.mem_append] at h
    exact h.imp_right fun hc => by simpa using hc
  · exact Or.inl h

include ha

theorem ne_of_mem_text {c d : Char} (h : c ∈ a.text.toList) (hword : isWord d = false) (hopen : d ≠ '[')
    (hclose : d ≠ ']') : c ≠ d := by
  intro heq
  rcases mem_text h with hc | hc | hc
  · have hc := ha.word c hc
    rw [heq, hword] at hc
    cases hc
  · exact hopen (heq ▸ hc)
  · exact hclose (heq ▸ hc)

theorem neutral_text : Neutral a.text.toList := by
  intro c hc
  refine ⟨?_, ?_, ?_⟩
  · exact ne_of_mem_text ha hc (by decide) (by decide) (by decide)
  · exact ne_of_mem_text ha hc (by decide) (by decide) (by decide)
  · exact ne_of_mem_text ha hc (by decide) (by decide) (by decide)

theorem fixed_text : Template.Fixed a.text :=
  ⟨fun h => (neutral_text ha _ h).2.1 rfl, fun h => (neutral_text ha _ h).2.2 rfl⟩

theorem bufferSign?_text : Path.bufferSign? a.text = none := by
  have hfirst : a.text.toList.head? ≠ some '>' := by
    intro hhead
    exact ne_of_mem_text ha (List.mem_of_mem_head? hhead) (by decide) (by decide) (by decide) rfl
  rcases Path.bufferSign?_cases a.text with ⟨-, h⟩ | ⟨gap, name, -, htext, -⟩ | ⟨name, htext, -, -⟩
  · exact h
  · exact absurd (by rw [htext, List.head?_cons]) hfirst
  · exact absurd (by rw [htext, List.head?_cons]) hfirst

/-- A segment with a normal key is the one that its text stands for. -/
theorem ofText_text : Segment.ofText a.text = a := by
  obtain ⟨key, list⟩ := a
  have hkey : Key.ofText key = key := Key.ofText_of_normal ha
  cases list with
  | true =>
    have hreverse : (key ++ "[]").toList.reverse = ']' :: '[' :: key.toList.reverse := by simp
    simp only [Segment.text, if_true, Segment.ofText, hreverse, List.reverse_reverse, String.ofList_toList, hkey]
  | false =>
    have hlast : ∀ rest, key.toList.reverse ≠ ']' :: '[' :: rest := by
      intro rest hrest
      have hmem : ']' ∈ key.toList := by
        rw [← List.mem_reverse, hrest]
        exact List.mem_cons_self
      exact absurd (ha.word _ hmem) (by decide)
    simp only [Segment.text, Bool.false_eq_true, if_false, Segment.ofText, hkey]

end Segment

namespace Path

/-! ## Paths that were read from dotted text -/

/-- The sign of the root can be read back, alone or in front of segments. -/
structure Readable (p : Path) : Prop where
  named : p.root.Named
  whole : ∀ sign ∈ p.root.sign, Whole 0 sign.toList
  closed : p.segments ≠ [] → ∀ sign ∈ p.root.sign, depthAfter 0 sign.toList = 0

theorem readable_of_ofText? {text : String} {p : Path} (h : ofText? (.dotted text) = some p) : p.Readable := by
  have htree (segments : List String) : Readable ⟨.tree, segments⟩ := by
    refine ⟨trivial, ?_, ?_⟩
    · intro sign hsign; cases hsign
    · intro _ sign hsign; cases hsign
  rw [ofText?] at h
  split at h
  · rw [← Option.some.inj h]
    exact htree []
  · rename_i first rest hsegments
    split at h
    · rw [← Option.some.inj h]
      exact htree (first :: rest)
    · rename_i mode name hbuffer
      by_cases hname : name = ""
      · rw [if_pos hname] at h; cases h
      rw [if_neg hname, Option.some.injEq] at h
      subst h
      obtain ⟨hnamed, sign, hsign, hbraces⟩ := sign_of_bufferSign? hbuffer hname
      obtain ⟨hwhole, hdepth⟩ : Whole 0 first.toList ∧ (rest ≠ [] → depthAfter 0 first.toList = 0) := by
        rw [PathText.toSegments] at hsegments
        split at hsegments
        · cases hsegments
        obtain ⟨piece, pieces, hcut, rfl, rfl⟩ := List.map_eq_cons_iff.mp hsegments
        rw [String.toList_ofList]
        obtain ⟨hwhole, hdepth⟩ := PathText.cutDots_eq_cons hcut
        exact ⟨hwhole, fun hrest => hdepth fun hnil => hrest (by rw [hnil]; rfl)⟩
      refine ⟨hnamed, ?_, ?_⟩
      · intro sign' hsign'
        obtain rfl := Option.some.inj (hsign.symm.trans hsign')
        exact (hbraces 0).1.mp hwhole
      · intro hrest sign' hsign'
        obtain rfl := Option.some.inj (hsign.symm.trans hsign')
        rw [← (hbraces 0).2]
        exact hdepth hrest

/-! ## Locations -/

variable {p : Path} {place : List Segment}

/-- The parts of a location are cut apart where they were joined. -/
theorem splitDotted_location (hp : p.Readable) (hsegments : place ≠ [] → p.segments ≠ [])
    (hkeys : ∀ a ∈ place, Key.Normal a.key) (hne : p.root.sign.toList ++ place.map Segment.text ≠ []) :
    splitDotted (p.location place) = p.root.sign.toList ++ place.map Segment.text := by
  have htexts : ∀ s ∈ place.map Segment.text, Whole 0 s.toList ∧ depthAfter 0 s.toList = 0 := by
    intro s hs
    obtain ⟨a, ha, rfl⟩ := List.mem_map.mp hs
    have hneutral := Segment.neutral_text (hkeys a ha)
    exact ⟨PathText.whole_of_neutral hneutral 0, PathText.depthAfter_of_neutral hneutral 0⟩
  apply PathText.splitDotted_intercalate hne
  · intro s hs
    rcases List.mem_append.mp hs with hs | hs
    · exact hp.whole s (Option.mem_toList.mp hs)
    · exact (htexts s hs).1
  · intro s hs
    by_cases hplace : place = []
    · rw [hplace, List.map_nil, List.append_nil] at hs
      cases hsign : p.root.sign with
      | none => rw [hsign] at hs; cases hs
      | some sign => rw [hsign] at hs; cases hs
    · rcases List.mem_append.mp ((List.dropLast_sublist _).subset hs) with hs | hs
      · exact hp.closed (hsegments hplace) s (Option.mem_toList.mp hs)
      · exact (htexts s hs).2

/-- A location, read as dotted text, has the root and the segments that it was made of. -/
theorem ofText?_location_eq (hp : p.Readable) (hsegments : place ≠ [] → p.segments ≠ [])
    (hkeys : ∀ a ∈ place, Key.Normal a.key) (hplain : ¬(p.root = .tree ∧ place = [⟨"", false⟩])) :
    ofText? (.dotted (p.location place)) = some ⟨p.root, place.map Segment.text⟩ := by
  obtain ⟨root, segments⟩ := p
  have hsplit := splitDotted_location hp hsegments hkeys
  cases root with
  | tree =>
    cases place with
    | nil => rfl
    | cons a rest =>
      have hparts := hsplit (by simp)
      have hne : location ⟨.tree, segments⟩ (a :: rest) ≠ "" := by
        intro hempty
        rw [hempty] at hparts
        have hone : [""] = a.text :: rest.map Segment.text := hparts
        rw [List.cons.injEq] at hone
        have ha : a = ⟨"", false⟩ := by
          rw [← Segment.ofText_text (hkeys a List.mem_cons_self), ← hone.1]
          decide
        exact hplain ⟨rfl, by rw [ha, List.map_eq_nil_iff.mp hone.2.symm]⟩
      have hfirst : bufferSign? a.text = none := Segment.bufferSign?_text (hkeys a List.mem_cons_self)
      rw [ofText?, PathText.toSegments, if_neg hne, hparts]
      simp only [Root.sign, Option.toList_none, List.nil_append, List.map_cons, hfirst]
  | buffer name mode =>
    obtain ⟨sign, hsign⟩ : ∃ sign, (Root.buffer name mode).sign = some sign := by cases mode <;> exact ⟨_, rfl⟩
    have hread := bufferSign?_sign hp.named hsign
    have hparts := hsplit (by simp [hsign])
    have hne : location ⟨.buffer name mode, segments⟩ place ≠ "" := by
      intro hempty
      rw [hempty, hsign] at hparts
      have hone : [""] = sign :: place.map Segment.text := hparts
      rw [List.cons.injEq] at hone
      rw [← hone.1] at hread
      cases hread
    rw [ofText?, PathText.toSegments, if_neg hne, hparts, hsign]
    simp only [Option.toList_some, List.singleton_append, hread, if_neg hp.named.1]

/-- The segments of a location lead to its place in every context. -/
theorem place_location (root : Root) (hkeys : ∀ a ∈ place, Key.Normal a.key) (c : Context) :
    (Path.mk root (place.map Segment.text)).place c = place := by
  rw [place_of_fixed]
  · rw [List.map_map]
    exact (List.map_congr_left fun a ha => Segment.ofText_text (hkeys a ha)).trans (List.map_id place)
  · intro text htext
    obtain ⟨a, ha, rfl⟩ := List.mem_map.mp htext
    exact Segment.fixed_text (hkeys a ha)

/-- The location of a place, read as dotted text, leads to this place in every context. So paths with one
    location lead to one place. -/
theorem ofText?_location {text : String} (h : ofText? (.dotted text) = some p) (c : Context)
    (hplain : ¬(p.root = .tree ∧ p.place c = [⟨"", false⟩])) :
    (∃ q, ofText? (.dotted (p.location (p.place c))) = some q ∧ q.root = p.root ∧
      ∀ c', q.place c' = p.place c) ∧
    ∀ text' p' c', ofText? (.dotted text') = some p' → ¬(p'.root = .tree ∧ p'.place c' = [⟨"", false⟩]) →
      p'.location (p'.place c') = p.location (p.place c) → p'.root = p.root ∧ p'.place c' = p.place c := by
  have hread {text : String} {p : Path} (h : ofText? (.dotted text) = some p) (c : Context)
      (hplain : ¬(p.root = .tree ∧ p.place c = [⟨"", false⟩])) :
      ofText? (.dotted (p.location (p.place c))) = some ⟨p.root, (p.place c).map Segment.text⟩ := by
    apply ofText?_location_eq (readable_of_ofText? h) _ (fun a ha => key_of_mem_place Key.normal_ofText ha) hplain
    intro hne hnil
    exact hne (by rw [place, hnil]; rfl)
  have hlead (p : Path) (c c' : Context) : (Path.mk p.root ((p.place c).map Segment.text)).place c' = p.place c :=
    place_location p.root (fun a ha => key_of_mem_place Key.normal_ofText ha) c'
  constructor
  · exact ⟨_, hread h c hplain, rfl, hlead p c⟩
  · intro text' p' c' h' hplain' hsame
    have hpaths := hread h' c' hplain'
    rw [hsame, hread h c hplain, Option.some.injEq] at hpaths
    refine ⟨(Path.mk.inj hpaths).1.symm, ?_⟩
    rw [← hlead p' c' c', ← hpaths, hlead p c c']

/-- A buffer with a dot and braces in its name, and a key made from an entry of the context. -/
theorem ofText?_location_record :
    let c := Context.empty.insert "k" (.str "Max Size")
    ∃ p, ofText? (.dotted ">> rec{a.b} .{k}[].x") = some p ∧
      p.location (p.place c) = ">>rec{a.b}.max_size[].x" ∧
      ∃ q, ofText? (.dotted ">>rec{a.b}.max_size[].x") = some q ∧
        q.root = .buffer "rec{a.b}" .kept ∧ ∀ c', q.place c' = [⟨"max_size", true⟩, ⟨"x", false⟩] := by
  intro c
  let p : Path := ⟨.buffer "rec{a.b}" .kept, ["{k}[]", "x"]⟩
  have hp : ofText? (.dotted ">> rec{a.b} .{k}[].x") = some p := by decide
  have hplace : p.place c = [⟨"max_size", true⟩, ⟨"x", false⟩] := by decide
  have hlocation : p.location (p.place c) = ">>rec{a.b}.max_size[].x" := by decide
  refine ⟨p, hp, hlocation, ?_⟩
  have hread := (ofText?_location hp c (by simp [p])).1
  rwa [hlocation, hplace] at hread

end Path

end LineRules
