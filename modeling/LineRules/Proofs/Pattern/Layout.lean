/-
  LineRules.Proofs.Pattern.Layout — where the code of a node lies in a program.

  The code of a node is put behind the instructions that there are and changes none of them. It
  leads nowhere but to itself and to the address that it is to lead to (`written_code`). So a
  program is entered at its back, and the last instructions that begin it can be taken for others
  without the rest noticing.
-/

import LineRules.Pattern.Program
import LineRules.Proofs.Pattern.NormalForm

namespace LineRules.Pattern

def Inst.targets : Inst → List Nat
  | .accept => []
  | .char _ next => [next]
  | .look _ next => [next]
  | .save _ next => [next]
  | .split first second => [first, second]

/-- The exit of a code, or an address of the code itself. -/
def Reached (exit lo hi address : Nat) : Prop := address = exit ∨ (lo ≤ address ∧ address < hi)

theorem Reached.mono {exit lo hi hi' address : Nat} (h : Reached exit lo hi address) (hle : hi ≤ hi') :
    Reached exit lo hi' address := by
  rcases h with h | ⟨h1, h2⟩
  · exact Or.inl h
  · exact Or.inr ⟨h1, by omega⟩

/-- An instruction that belongs to the code between two addresses: it does not accept, it leads to
    the code or its exit, and it leaves the slots of the whole match alone. -/
structure Inst.Inside (exit lo hi : Nat) (i : Inst) : Prop where
  not_accept : i ≠ .accept
  targets : ∀ t ∈ i.targets, Reached exit lo hi t
  slot : ∀ slot next, i = .save slot next → 2 ≤ slot

theorem Inst.Inside.mono {exit lo hi hi' : Nat} {i : Inst} (h : i.Inside exit lo hi) (hle : hi ≤ hi') :
    i.Inside exit lo hi' :=
  ⟨h.not_accept, fun t ht => (h.targets t ht).mono hle, h.slot⟩

/-- A code of some length was written behind `insts`, leading to `exit`. -/
structure Written (insts : Array Inst) (exit length : Nat) (out : Code) : Prop where
  size : out.1.size = insts.size + length
  kept : ∀ a, a < insts.size → out.1[a]? = insts[a]?
  entry : Reached exit insts.size out.1.size out.2
  added : ∀ a i, insts.size ≤ a → out.1[a]? = some i → i.Inside exit insts.size out.1.size

namespace Written

variable {insts : Array Inst} {exit length : Nat}

/-- Nothing was written yet. -/
theorem nothing (insts : Array Inst) (exit : Nat) : Written insts exit 0 (insts, exit) := by
  refine ⟨rfl, fun _ _ => rfl, Or.inl rfl, ?_⟩
  intro a i ha hi
  rw [Array.getElem?_eq_none ha] at hi
  cases hi

/-- One code after another; the second leads to the first, or to where the first leads. -/
theorem append {out out' : Code} {middle length' : Nat} (h : Written insts exit length out)
    (h' : Written out.1 middle length' out') (hmiddle : Reached exit insts.size out.1.size middle) :
    Written insts exit (length + length') out' := by
  have hle : out.1.size ≤ out'.1.size := by rw [h'.size]; omega
  have reached {a : Nat} (ha : Reached middle out.1.size out'.1.size a) : Reached exit insts.size out'.1.size a := by
    rcases ha with rfl | ⟨h1, h2⟩
    · exact hmiddle.mono hle
    · exact Or.inr ⟨by have := h.size; omega, h2⟩
  refine ⟨by rw [h'.size, h.size]; omega, ?_, reached h'.entry, ?_⟩
  · intro a ha
    rw [h'.kept a (by have := h.size; omega), h.kept a ha]
  · intro a i ha hi
    by_cases hout : a < out.1.size
    · rw [h'.kept a hout] at hi
      exact (h.added a i ha hi).mono hle
    · have hin := h'.added a i (by omega) hi
      exact ⟨hin.not_accept, fun t ht => reached (hin.targets t ht), hin.slot⟩

/-- One instruction more, which is entered or not. -/
theorem push {out : Code} {i : Inst} {entry : Nat} (h : Written insts exit length out)
    (hi : i.Inside exit insts.size (out.1.size + 1)) (hentry : Reached exit insts.size (out.1.size + 1) entry) :
    Written insts exit (length + 1) (out.1.push i, entry) := by
  refine ⟨by rw [Array.size_push, h.size]; omega, ?_, by rw [Array.size_push]; exact hentry, ?_⟩
  · intro a ha
    rw [Array.getElem?_push, if_neg (by have := h.size; omega), h.kept a ha]
  · intro a j ha hj
    rw [Array.size_push]
    rw [Array.getElem?_push] at hj
    split at hj
    · cases hj; exact hi
    · exact (h.added a j ha hj).mono (Nat.le_succ _)

theorem write {out : Code} {i : Inst} (h : Written insts exit length out)
    (hi : i.Inside exit insts.size (out.1.size + 1)) : Written insts exit (length + 1) (write i out.1) :=
  h.push hi (Or.inr ⟨by have := h.size; omega, Nat.lt_succ_self _⟩)

/-- The same code, entered elsewhere. -/
theorem enter {out : Code} {entry : Nat} (h : Written insts exit length out)
    (hentry : Reached exit insts.size out.1.size entry) : Written insts exit length (out.1, entry) :=
  ⟨h.size, h.kept, hentry, h.added⟩

/-- What a code that leads to the instruction behind it leads to, that instruction included. -/
theorem reached_loop {out : Code} (h : Written insts (insts.size + length) length out) (exit : Nat) {a : Nat}
    (ha : Reached (insts.size + length) insts.size out.1.size a) : Reached exit insts.size (out.1.size + 1) a := by
  have hsize := h.size
  rcases ha with rfl | ⟨h1, h2⟩
  · exact Or.inr ⟨by omega, by omega⟩
  · exact Or.inr ⟨h1, by omega⟩

/-- A code that leads to the instruction behind it, and that instruction. -/
theorem loop {out : Code} {i : Inst} (h : Written insts (insts.size + length) length out)
    (hi : i.Inside exit insts.size (out.1.size + 1)) : Written insts exit (length + 1) (out.1.push i, out.2) := by
  have hsize := h.size
  refine ⟨by rw [Array.size_push]; omega, ?_, by rw [Array.size_push]; exact h.reached_loop exit h.entry, ?_⟩
  · intro a ha
    rw [Array.getElem?_push, if_neg (by omega), h.kept a ha]
  · intro a j ha hj
    rw [Array.size_push]
    rw [Array.getElem?_push] at hj
    split at hj
    · cases hj; exact hi
    · have hin := h.added a j ha hj
      exact ⟨hin.not_accept, fun t ht => h.reached_loop exit (hin.targets t ht), hin.slot⟩

end Written

variable {insts : Array Inst} {exit : Nat}

theorem inside_choice {lo hi inner outer : Nat} (greedy : Bool) (hinner : Reached exit lo hi inner)
    (houter : Reached exit lo hi outer) : (Inst.choice greedy inner outer).Inside exit lo hi := by
  cases greedy <;> refine ⟨by simp [Inst.choice], ?_, by simp [Inst.choice]⟩ <;> intro t ht
  · rcases List.mem_cons.mp ht with rfl | ht
    · exact houter
    · rw [List.mem_singleton.mp ht]; exact hinner
  · rcases List.mem_cons.mp ht with rfl | ht
    · exact hinner
    · rw [List.mem_singleton.mp ht]; exact houter

theorem written_text (codes : List Nat) (insts : Array Inst) (exit : Nat) :
    Written insts exit codes.length (textCode codes insts exit) := by
  induction codes with
  | nil => exact Written.nothing insts exit
  | cons n rest ih =>
    refine ih.write ⟨by simp, ?_, by simp⟩
    intro t ht
    rw [List.mem_singleton.mp ht]
    exact ih.entry.mono (Nat.le_succ _)

section Repetition

variable {body : Array Inst → Nat → Code} {length : Nat}
variable (hbody : ∀ insts exit, Written insts exit length (body insts exit))

include hbody

theorem written_copies {n written : Nat} {out : Code} (h : Written insts exit written out) :
    Written insts exit (written + n * length) (copies body n out.1 out.2) := by
  induction n generalizing written out with
  | zero => rw [Nat.zero_mul]; exact h
  | succ n ih =>
    have hone := h.append (hbody out.1 out.2) h.entry
    have := ih hone
    rwa [show written + (n + 1) * length = written + length + n * length by rw [Nat.add_mul]; omega]

theorem written_optionals {n written : Nat} (greedy : Bool) {out : Code} (h : Written insts exit written out) :
    Written insts exit (written + n * (length + 1)) (optionals body greedy exit n out.1 out.2) := by
  induction n generalizing written out with
  | zero => rw [Nat.zero_mul]; exact h
  | succ n ih =>
    have hone := h.append (hbody out.1 out.2) h.entry
    have hchoice := hone.write (inside_choice greedy (hone.entry.mono (Nat.le_succ _)) (Or.inl rfl))
    have := ih hchoice
    rwa [show written + (n + 1) * (length + 1) = written + length + 1 + n * (length + 1) by rw [Nat.add_mul]; omega]

theorem written_oneOrMore (greedy : Bool) (insts : Array Inst) (exit : Nat) :
    Written insts exit (length + 1) (oneOrMore body length greedy insts exit) := by
  have h := hbody insts (insts.size + length)
  exact h.loop (inside_choice greedy (h.reached_loop exit h.entry) (Or.inl rfl))

theorem written_zeroOrMore (nullable greedy : Bool) (insts : Array Inst) (exit : Nat) :
    Written insts exit (length + if nullable then 2 else 1) (zeroOrMore body length nullable greedy insts exit) := by
  have h := written_oneOrMore hbody greedy insts exit
  unfold zeroOrMore
  cases nullable with
  | true => exact h.write (inside_choice greedy (h.entry.mono (Nat.le_succ _)) (Or.inl rfl))
  | false => exact h.enter (Or.inr ⟨by omega, by have := h.size; omega⟩)

end Repetition

theorem written_alt {a b : Node} (ha : ∀ insts exit, Written insts exit a.length (a.code insts exit))
    (hb : ∀ insts exit, Written insts exit b.length (b.code insts exit)) (insts : Array Inst) (exit : Nat) :
    Written insts exit (Node.alt a b).length ((Node.alt a b).code insts exit) := by
  have hsecond := hb insts exit
  have hfirst := ha (b.code insts exit).1 exit
  have hboth := hsecond.append hfirst (Or.inl rfl)
  rw [Node.length, Nat.add_comm a.length]
  refine hboth.write ⟨by simp, ?_, by simp⟩
  intro t ht
  rcases List.mem_cons.mp ht with rfl | ht
  · exact hboth.entry.mono (Nat.le_succ _)
  · rw [List.mem_singleton.mp ht]
    exact hsecond.entry.mono (by rw [hfirst.size]; omega)

theorem inside_save {lo hi next slot : Nat} (hslot : 2 ≤ slot) (hnext : Reached exit lo hi next) :
    (Inst.save slot next).Inside exit lo hi := by
  refine ⟨by simp, ?_, ?_⟩
  · intro t ht
    rw [List.mem_singleton.mp ht]; exact hnext
  · intro slot' next' heq
    cases heq; exact hslot

theorem written_capture {body : Node} (hbody : ∀ insts exit, Written insts exit body.length (body.code insts exit))
    {index : Nat} (hindex : index ≠ 0) (name : Option String) (insts : Array Inst) (exit : Nat) :
    Written insts exit (Node.capture index name body).length ((Node.capture index name body).code insts exit) := by
  have hfrom : 2 ≤ 2 * index := by omega
  have hend := (Written.nothing insts exit).write (inside_save (Nat.le_succ_of_le hfrom) (Or.inl rfl))
  have hwhole := hend.append (hbody _ _) hend.entry
  have := hwhole.write (inside_save hfrom (hwhole.entry.mono (Nat.le_succ _)))
  rw [Node.length, show body.length + 2 = 0 + 1 + body.length + 1 by omega]
  exact this

theorem written_repetition {body : Node} (hbody : ∀ insts exit, Written insts exit body.length (body.code insts exit))
    (min : Nat) (max : Option Nat) (greedy : Bool) (insts : Array Inst) (exit : Nat) :
    Written insts exit (Node.repetition min max greedy body).length
      ((Node.repetition min max greedy body).code insts exit) := by
  cases max with
  | some max =>
    have hoptional := written_optionals hbody (n := max - min) greedy (Written.nothing insts exit)
    have hcopies := written_copies hbody (n := min) hoptional
    rw [Node.length, Nat.add_comm]
    rwa [Nat.zero_add] at hcopies
  | none =>
    cases min with
    | zero =>
      have hlength : (Node.repetition 0 none greedy body).length = body.length + if body.nullable then 2 else 1 := by
        simp [Node.length]
      rw [hlength]
      exact written_zeroOrMore hbody body.nullable greedy insts exit
    | succ min =>
      have hloop := written_oneOrMore hbody greedy insts exit
      have hcopies := written_copies hbody (n := min) hloop
      rw [Node.length, show Nat.max (min + 1) 1 = min + 1 from Nat.max_eq_left (by omega), if_neg (by omega),
        show (min + 1) * body.length + 1 = body.length + 1 + min * body.length by rw [Nat.add_mul]; omega]
      exact hcopies

/-- The code of a node has the length of the node and stays by itself. -/
theorem written_code {n : Node} (hn : n.Tidy) (insts : Array Inst) (exit : Nat) :
    Written insts exit n.length (n.code insts exit) := by
  induction n generalizing insts exit with
  | empty => exact Written.nothing insts exit
  | text codes => exact written_text codes insts exit
  | set ascii s =>
    refine (Written.nothing insts exit).write ⟨by simp, ?_, by simp⟩
    intro t ht
    exact Or.inl (List.mem_singleton.mp ht)
  | look l =>
    refine (Written.nothing insts exit).write ⟨by simp, ?_, by simp⟩
    intro t ht
    exact Or.inl (List.mem_singleton.mp ht)
  | cat a b iha ihb =>
    obtain ⟨-, -, -, ha, hb⟩ := hn
    have hsecond := ihb hb insts exit
    have := hsecond.append (iha ha (b.code insts exit).1 (b.code insts exit).2) hsecond.entry
    rw [Node.length, Nat.add_comm]
    exact this
  | alt a b iha ihb => exact written_alt (iha hn.1) (ihb hn.2) insts exit
  | capture index name body ih => exact written_capture (ih hn.2) hn.1 name insts exit
  | repetition min max greedy body ih => exact written_repetition (ih hn) min max greedy insts exit

/-! ## Whole programs -/

def Node.laid (n : Node) : Code := n.code #[.accept, .save 1 0] 1

/-- Instructions that end a match at their first two addresses. All others lead to the end of the
    match or to each other, and leave the slots of the whole match alone. -/
structure Laid (insts : Array Inst) : Prop where
  accept : insts[0]? = some .accept
  finish : insts[1]? = some (.save 1 0)
  rest : ∀ a i, 2 ≤ a → insts[a]? = some i → i.Inside 1 2 insts.size

theorem laid_code {n : Node} (hn : n.Tidy) :
    Laid n.laid.1 ∧ 1 ≤ n.laid.2 ∧ n.laid.2 < n.laid.1.size := by
  have h := written_code hn #[.accept, .save 1 0] 1
  have hsize : 2 ≤ n.laid.1.size := by
    have := h.size
    simp only [Node.laid]
    rw [this]
    exact Nat.le_add_right _ _
  refine ⟨⟨h.kept 0 (by simp), h.kept 1 (by simp), fun a i ha hi => h.added a i ha hi⟩, ?_⟩
  rcases h.entry with hentry | ⟨h1, h2⟩
  · exact ⟨Nat.le_of_eq hentry.symm, by simp only [Node.laid] at hsize ⊢; omega⟩
  · exact ⟨by simp only [Node.laid]; exact Nat.le_of_succ_le h1, h2⟩

theorem Laid.target_lt {insts : Array Inst} (h : Laid insts) {a : Nat} {i : Inst} (hi : insts[a]? = some i) :
    ∀ t ∈ i.targets, t < insts.size := by
  have hfinish : 1 < insts.size := by
    have := h.finish
    grind
  intro t ht
  rcases Nat.lt_or_ge a 2 with ha | ha
  · obtain rfl | rfl : a = 0 ∨ a = 1 := by omega
    · rw [h.accept] at hi; cases hi; cases ht
    · rw [h.finish] at hi; cases hi
      rw [List.mem_singleton.mp ht]; omega
  · rcases (h.rest a i ha hi).targets t ht with rfl | ⟨-, hlt⟩
    · exact hfinish
    · exact hlt

theorem ofNode_eq (n : Node) :
    Program.ofNode n =
      { insts := n.laid.1.push (.save 0 n.laid.2), start := n.laid.1.size
        groups := (Node.capture 0 none n).groupNames.length } := rfl

/-- A condition in front of a node comes between the last instruction and the others. -/
theorem ofNode_look (l : Look) {n : Node} (hn : n.Tidy) :
    Program.ofNode (Node.concat [.look l, n]) =
      { insts := (n.laid.1.push (.look l n.laid.2)).push (.save 0 n.laid.1.size), start := n.laid.1.size + 1
        groups := (Node.capture 0 none n).groupNames.length } := by
  rw [Node.concat_look l hn]
  split
  · rename_i hnil
    rw [Node.eq_empty_of_parts hn hnil]; rfl
  · rw [ofNode_eq]
    have hsize : ((Node.look l).cat n).laid.1.size = n.laid.1.size + 1 := Array.size_push ..
    rw [hsize]
    rfl

end LineRules.Pattern
