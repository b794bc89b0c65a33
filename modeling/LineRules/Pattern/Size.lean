/-
  LineRules.Pattern.Size — how large a pattern is.

  The size of a pattern is that of the automaton over the bytes of a text that would match it,
  read from its front or from its back. A state takes 32 bytes, each of several transitions
  that leave a state 8 bytes, and each of several states that follow without a byte 4 bytes. A
  pattern fits if neither automaton exceeds `maxSize`.

  A set of code points beyond ASCII is an automaton of its own. Read from the front, states with
  equal transitions are one state; read from the back, equal ways to the end of a character are
  one way. Either is remembered in a table of fixed size, where what comes later takes the place
  of what came before, so what is shared depends on the numbers of the states.
-/

import LineRules.Pattern.Node
import LineRules.Unicode.Encoding

namespace LineRules.Pattern

open Unicode (CodeSet)

def maxSize : Nat := 10 * 0x100000

inductive Reading where
  | forward
  | backward
  deriving DecidableEq, Repr

structure Transition where
  lo : Nat
  hi : Nat
  target : Nat
  deriving DecidableEq, Repr

/-- What was counted so far, and the states that are remembered by what they do. -/
structure Meter where
  states : Nat := 0
  /-- Bytes besides those that every state takes. -/
  extra : Nat := 0
  /-- States with several transitions. -/
  forks : Array (Option (List Transition × Nat)) := Array.replicate 10000 none
  /-- States with a single transition towards the end of a character. -/
  tails : Array (Option (Transition × Nat)) := Array.replicate 1000 none

namespace Meter

def charge (m : Meter) (bytes : Nat) : Option Meter :=
  if maxSize < 32 * m.states + m.extra + bytes then none else some { m with extra := m.extra + bytes }

/-- One more state, with bytes besides. Its number is the number of states before. -/
def add (m : Meter) (bytes : Nat) : Option Meter := { m with states := m.states + 1 }.charge bytes

end Meter

def placeOf (size : Nat) (row : List Nat) : Nat :=
  (row.foldl (fun (h : UInt64) n => (h ^^^ UInt64.ofNat n) * 1099511628211) 14695981039346656037).toNat % size

/-! ## Sets, read from the front -/

def rememberedAt {κ : Type} [DecidableEq κ] (table : Array (Option (κ × Nat))) (place : Nat) (key : κ) : Option Nat :=
  match table[place]? with
  | some (some (known, state)) => if known = key then some state else none
  | _ => none

def Meter.rememberFork (m : Meter) (place : Nat) (ts : List Transition) (state : Nat) : Meter :=
  { m with forks := m.forks.setIfInBounds place (some (ts, state)) }

/-- The state with these transitions: one that is remembered, or a new one. -/
def Meter.fork (m : Meter) (ts : List Transition) : Option (Meter × Nat) :=
  let place := placeOf 10000 (ts.flatMap fun t => [t.lo, t.hi, t.target])
  match rememberedAt m.forks place ts with
  | some state => some (m, state)
  | none =>
    let state := m.states
    match m.add (8 * ts.length) with
    | some m => some (m.rememberFork place ts state, state)
    | none => none

/-- A state under work: its transitions, last first, and the bytes of one whose target is open. -/
structure Draft where
  done : List Transition := []
  last : Option (Nat × Nat) := none

def Draft.close (d : Draft) (target : Nat) : Draft :=
  match d.last with
  | some (lo, hi) => ⟨⟨lo, hi, target⟩ :: d.done, none⟩
  | none => d

/-- Finish all but the first `keep` drafts, deepest first, and close the one before them. -/
def finishDrafts (keep : Nat) (target : Nat) : List Draft → Meter → Option (Meter × List Draft)
  | [], m => some (m, [])
  | d :: above, m =>
    if above.length < keep then some (m, d.close target :: above)
    else
      match above with
      | [] => some (m, [d.close target])
      | _ :: _ =>
        match m.fork (d.close target).done.reverse with
        | none => none
        | some (m, state) => finishDrafts keep state above m

/-- How many drafts, from the root on, are at work on the beginning of a row. -/
def sharedDrafts : List (Nat × Nat) → List Draft → Nat
  | r :: row, d :: drafts => if d.last = some r then sharedDrafts row drafts + 1 else 0
  | _, _ => 0

def openDrafts (row : List (Nat × Nat)) (drafts : List Draft) : List Draft :=
  match row, drafts with
  | r :: more, d :: above => more.foldl (fun ds r => ⟨[], some r⟩ :: ds) ({ d with last := some r } :: above)
  | _, _ => drafts

/-- Add rows of byte intervals one after another; the rows ascend. -/
def addRows (target : Nat) : List (List (Nat × Nat)) → Meter → List Draft → Option (Meter × List Draft)
  | [], m, drafts => some (m, drafts)
  | row :: rest, m, drafts =>
    let keep := sharedDrafts row drafts.reverse
    match finishDrafts (keep + 1) target drafts m with
    | none => none
    | some (m, drafts) => addRows target rest m (openDrafts (row.drop keep) drafts)

def Meter.setForward (m : Meter) (rows : List (List (Nat × Nat))) : Option Meter := do
  let target := m.states
  let m ← m.add 0
  let (m, drafts) ← addRows target rows m [{}]
  let (m, drafts) ← finishDrafts 1 target drafts m
  let (m, _) ← m.fork ((drafts.headD {}).done.reverse)
  return m

/-! ## Sets, read from the back -/

def Meter.rememberTail (m : Meter) (place : Nat) (t : Transition) (state : Nat) : Meter :=
  { m with tails := m.tails.setIfInBounds place (some (t, state)) }

def Meter.tail (m : Meter) (t : Transition) : Option (Meter × Nat) :=
  let place := placeOf 1000 [t.target, t.lo, t.hi]
  match rememberedAt m.tails place t with
  | some state => some (m, state)
  | none =>
    let state := m.states
    match m.add 0 with
    | some m => some (m.rememberTail place t state, state)
    | none => none

/-- The states of a row of byte intervals, from the one that its end leads to. -/
def addTails (target : Nat) : List (Nat × Nat) → Meter → Option Meter
  | [], m => some m
  | (lo, hi) :: rest, m =>
    match m.tail ⟨lo, hi, target⟩ with
    | none => none
    | some (m, state) => addTails state rest m

def addRowsBackward (target : Nat) : List (List (Nat × Nat)) → Meter → Option Meter
  | [], m => some m
  | row :: rest, m =>
    match addTails target row m with
    | none => none
    | some m =>
      match m.charge 4 with
      | none => none
      | some m => addRowsBackward target rest m

def Meter.setBackward (m : Meter) (rows : List (List (Nat × Nat))) : Option Meter := do
  let m ← m.add 0
  let target := m.states
  let m ← m.add 0
  addRowsBackward target rows m

def Meter.set (m : Meter) (way : Reading) (s : CodeSet) : Option Meter :=
  if s.isAscii then do
    let m ← m.add 0
    m.add (8 * s.length)
  else
    match way with
    | .forward => m.setForward (s.flatMap Unicode.byteRows)
    | .backward => m.setBackward (s.flatMap Unicode.byteRows)

/-! ## Alternatives that are texts -/

/-- Words between empty words. An empty word that is first of all, or follows such a one, ends
    nothing more than the one before it. -/
def chunks (begun : Bool) : List (List Nat) → List (List (List Nat))
  | [] => [[]]
  | [] :: rest => if begun then [] :: chunks true rest else chunks false rest
  | w :: rest =>
    match chunks true rest with
    | c :: cs => (w :: c) :: cs
    | [] => [[w]]

def total (sizes : List (Nat × Nat)) : Nat × Nat := sizes.foldl (fun t n => (t.1 + n.1, t.2 + n.2)) (0, 0)

/-- States and further bytes of the tree that tells words apart byte by byte, given in order of
    preference. Where a word ends inside others, those before it are tried before that end and
    those after it are tried afterwards, in states of their own. -/
def treeSize : Nat → List (List Nat) → Nat × Nat
  | 0, _ => (0, 0)
  | fuel + 1, words =>
    let leading := match words with
      | [] :: _ => 1
      | _ => 0
    let cs := chunks false words
    let ofChunk (chunk : List (List Nat)) : Nat × Nat :=
      let bytes := (chunk.filterMap List.head?).eraseDups
      let below := bytes.map fun b =>
        let rest := chunk.filterMap fun w => if w.head? = some b then some w.tail else none
        if rest.all List.isEmpty then (0, 0) else treeSize fuel rest
      let here := match bytes with
        | [] => (0, 0)
        | [_] => (1, 4)
        | _ => (1, 8 * bytes.length + 4)
      total (here :: below)
    total ((1, 4 * (cs.length - 1 + leading)) :: cs.map ofChunk)

def Meter.addAll (m : Meter) (states extra : Nat) : Option Meter := { m with states := m.states + states }.charge extra

def Meter.texts (m : Meter) (way : Reading) (texts : List (List Nat)) : Option Meter :=
  let words := texts.map fun codes =>
    match way with
    | .forward => codes.flatMap Unicode.encode
    | .backward => (codes.flatMap Unicode.encode).reverse
  let size := treeSize (words.foldl (fun n w => max n w.length) 0 + 1) words
  m.addAll (size.1 + 1) size.2

/-! ## Nodes -/

def Node.least : Node → Option Nat
  | .empty => some 0
  | .text codes => some codes.length
  | .set _ s => if s.isEmpty then none else some 1
  | .look _ => some 0
  | .cat a b =>
    match a.least, b.least with
    | some m, some n => some (m + n)
    | _, _ => none
  | .alt a b =>
    match a.least, b.least with
    | some m, some n => some (min m n)
    | _, _ => none
  | .capture _ _ body => body.least
  | .repetition min _ _ body => body.least.map (min * ·)

/-- Part of an automaton was counted; does it end in a choice, which takes 4 bytes more for what
    follows it? -/
abbrev Counted := Meter × Bool

def Counted.join (c : Counted) : Option Meter := if c.2 then c.1.charge 4 else some c.1

def furtherCopies (body : Meter → Option Counted) : Nat → Counted → Option Counted
  | 0, c => some c
  | n + 1, c =>
    match c.join with
    | none => none
    | some m =>
      match body m with
      | none => none
      | some c => furtherCopies body n c

def exactCopies (body : Meter → Option Counted) (n : Nat) (m : Meter) : Option Counted :=
  match n with
  | 0 => (m.add 0).map fun m => (m, false)
  | n + 1 =>
    match body m with
    | none => none
    | some c => furtherCopies body n c

def optionalCopies (body : Meter → Option Counted) : Nat → Counted → Option Counted
  | 0, c => some c
  | n + 1, c =>
    match c.join with
    | none => none
    | some m =>
      match m.add 8 with
      | none => none
      | some m =>
        match body m with
        | none => none
        | some c => optionalCopies body n c

def countRepetition (body : Meter → Option Counted) (takes : Bool) (min : Nat) (max : Option Nat) (m : Meter) :
    Option Counted := do
  match min, max with
  | 0, some 1 =>
    let m ← m.add 8
    let c ← body m
    let m ← c.join
    let m ← m.add 0
    return (m, false)
  | 0, none =>
    if takes then
      let m ← m.add 4
      let c ← body m
      let m ← c.join
      return (m, true)
    else
      let c ← body m
      let m ← c.join
      let m ← m.add 8
      let m ← m.add 8
      let m ← m.add 0
      return (m, false)
  | 1, none =>
    let c ← body m
    let m ← c.join
    let m ← m.add 4
    return (m, true)
  | n + 2, none =>
    let c ← exactCopies body (n + 2) m
    let m ← c.join
    let m ← m.add 4
    return (m, true)
  | min, some max =>
    if min = max then exactCopies body min m
    else
      let (m, choice) ← exactCopies body min m
      let m ← m.add 0
      let c ← optionalCopies body (max - min) (m, choice)
      let m ← c.join
      return (m, false)

def Node.texts? (n : Node) : Option (List (List Nat)) :=
  n.branches.mapM fun b =>
    match b with
    | .text codes => some codes
    | _ => none

/-- A branch was counted, after `done` others. The states where branches part and meet are made
    with the second branch. -/
def Counted.branch (c : Counted) (done : Nat) : Option Meter := do
  let m ← c.join
  let m ← m.charge 4
  if done = 1 then m.addAll 2 0 else return m

/-- Count a node that is the last of an alternation, or none of one if `done` is 0. -/
def Counted.last (c : Counted) (done : Nat) : Option Counted :=
  if done = 0 then some c else (c.branch done).map fun m => (m, false)

/-- The automaton of a node. `done` branches before it were counted if it is the rest of an
    alternation. -/
def Node.count (way : Reading) : Node → Nat → Meter → Option Counted
  | .empty, done, m => do
    let m ← m.add 0
    Counted.last (m, false) done
  | .text codes, done, m => do
    let m ← m.addAll (codes.flatMap Unicode.encode).length 0
    Counted.last (m, false) done
  | .set _ s, done, m => do
    let m ← m.set way s
    Counted.last (m, false) done
  | .look _, done, m => do
    let m ← m.add 0
    Counted.last (m, false) done
  | .cat a b, done, m => do
    let c ← match way with
      | .forward => do
        let c ← a.count way 0 m
        let m ← c.join
        b.count way 0 m
      | .backward => do
        let c ← b.count way 0 m
        let m ← c.join
        a.count way 0 m
    c.last done
  | .alt a b, done, m =>
    match if done = 0 then Node.texts? (.alt a b) else none with
    | some texts => (m.texts way texts).map fun m => (m, false)
    | none => do
      let c ← a.count way 0 m
      let m ← c.branch done
      b.count way (done + 1) m
  | .capture _ _ body, done, m => do
    match way with
    | .forward =>
      let m ← m.add 0
      let c ← body.count way 0 m
      let m ← c.join
      let m ← m.add 0
      Counted.last (m, false) done
    | .backward =>
      let c ← body.count way 0 m
      c.last done
  | .repetition min max _ body, done, m => do
    let c ← countRepetition (body.count way 0) (body.least.any (0 < ·)) min max m
    c.last done

def Node.anchored (way : Reading) : Node → Bool
  | .look .textStart => way = .forward
  | .look .textEnd => way = .backward
  | .cat a b =>
    match way with
    | .forward => a.anchored way || (a.blank && b.anchored way)
    | .backward => b.anchored way || (b.blank && a.anchored way)
  | .alt a b => a.anchored way && b.anchored way
  | .capture _ _ body => body.anchored way
  | .repetition min _ _ body => 0 < min && body.anchored way
  | _ => false

/-- The automaton of a whole pattern. One that is not anchored begins with a loop over any byte;
    the first group is counted when reading from the front. -/
def Node.countWhole (way : Reading) (n : Node) : Option Meter := do
  let m : Meter := {}
  let m ← if n.anchored way then m.add 0 else m.addAll 3 16
  let c ← (Node.capture 0 none n).count way 0 m
  let m ← c.join
  m.add 0

def Node.fits (n : Node) : Bool := (n.countWhole .forward).isSome && (n.countWhole .backward).isSome

end LineRules.Pattern
