/-
  LineRules.Pattern.Run — running a program over a text.

  All ways to match are followed in step, in order of preference. At each position a way that
  reaches an instruction another one has reached before it is dropped, for whatever it could
  find the earlier one finds too. A way that accepts cuts off the ways after it; the ways
  before it may still replace its match by one that is preferred. So the time is bounded by
  the length of the text times the size of the program.
-/

import LineRules.Pattern.Classes
import LineRules.Pattern.Marks
import LineRules.Pattern.Program

namespace LineRules.Pattern

/-- The positions recorded so far, two slots for each group. -/
abbrev Slots := List (Option Nat)

structure Here where
  pos : Nat
  before : Option Char
  after : Option Char
  deriving Repr

def isWordIn (unicode : Bool) (c : Option Char) : Bool :=
  match c with
  | none => false
  | some c => if unicode then Unicode.isWord c else Posix.word.codes.contains c.toNat

def Look.holds (h : Here) : Look → Bool
  | .textStart => h.before.isNone
  | .textEnd => h.after.isNone
  | .lineStart false => h.before.isNone || h.before == some '\n'
  | .lineEnd false => h.after.isNone || h.after == some '\n'
  | .lineStart true => h.before.isNone || h.before == some '\n' || (h.before == some '\r' && h.after != some '\n')
  | .lineEnd true => h.after.isNone || h.after == some '\r' || (h.after == some '\n' && h.before != some '\r')
  | .boundary u => isWordIn u h.before != isWordIn u h.after
  | .notBoundary u => isWordIn u h.before == isWordIn u h.after
  | .wordStart u => !isWordIn u h.before && isWordIn u h.after
  | .wordEnd u => isWordIn u h.before && !isWordIn u h.after
  | .wordStartHalf u => !isWordIn u h.before
  | .wordEndHalf u => !isWordIn u h.after

/-- A way to match: the instruction that it waits at, and what it recorded. -/
structure Thread where
  address : Nat
  slots : Slots
  deriving Repr

/-- The threads gathered at a position, last first, and the addresses seen there. -/
structure Gathered where
  seen : Marks
  threads : List Thread := []
  deriving Repr

def Program.ungathered (p : Program) : Gathered := { seen := .none p.insts.size }

/-- Follow instructions from an address to those that take a character or accept. Each address
    is visited once, so as many steps as there are addresses are deep enough. -/
def Program.follow (p : Program) (h : Here) : Nat → Nat → Slots → Gathered → Gathered
  | 0, _, _, g => g
  | fuel + 1, address, slots, g =>
    if g.seen.has address then g
    else
      let g := { g with seen := g.seen.add address }
      match p.insts[address]? with
      | none => g
      | some .accept => { g with threads := ⟨address, slots⟩ :: g.threads }
      | some (.char _ _) => { g with threads := ⟨address, slots⟩ :: g.threads }
      | some (.look l next) => if l.holds h then p.follow h fuel next slots g else g
      | some (.save slot next) => p.follow h fuel next (slots.set slot (some h.pos)) g
      | some (.split first second) => p.follow h fuel second slots (p.follow h fuel first slots g)

def Program.enter (p : Program) (h : Here) (address : Nat) (slots : Slots) (g : Gathered) : Gathered :=
  p.follow h (p.insts.size + 1) address slots g

/-- Let the threads take the next character, in order. The first one that accepts yields a match
    and ends the round. -/
def Program.advance (p : Program) (c : Option Char) (h : Here) : List Thread → Gathered → Option Slots × List Thread
  | [], g => (none, g.threads.reverse)
  | t :: rest, g =>
    match p.insts[t.address]? with
    | some .accept => (some t.slots, g.threads.reverse)
    | some (.char set next) =>
      match c with
      | some c => if set.contains c.toNat then p.advance c h rest (p.enter h next t.slots g) else p.advance c h rest g
      | none => p.advance c h rest g
    | _ => p.advance c h rest g

/-- Run the threads over the rest of a text. `best` is the match found so far. -/
def Program.run (p : Program) (threads : List Thread) (best : Option Slots) (pos : Nat) : List Char → Option Slots
  | [] => ((p.advance none ⟨pos, none, none⟩ threads p.ungathered).1).or best
  | c :: rest =>
    let (found, threads) := p.advance (some c) ⟨pos + 1, some c, rest.head?⟩ threads p.ungathered
    let best := found.or best
    if threads.isEmpty then best else p.run threads best (pos + 1) rest

def Program.matchAt (p : Program) (pos : Nat) (before : Option Char) (text : List Char) : Option Slots :=
  let slots := List.replicate (2 * p.groups) none
  let threads := (p.enter ⟨pos, before, text.head?⟩ p.start slots p.ungathered).threads.reverse
  p.run threads none pos text

def Program.search (p : Program) (pos : Nat) (before : Option Char) : List Char → Option Slots
  | [] => p.matchAt pos before []
  | c :: rest =>
    match p.matchAt pos before (c :: rest) with
    | some slots => some slots
    | none => p.search (pos + 1) (some c) rest

end LineRules.Pattern
