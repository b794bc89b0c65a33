/-
  LineRules.Pattern.Program — patterns as programs.

  A program is a list of instructions, each at its address. It is written from the back of a
  pattern to its front: what comes later in a pattern gets lower addresses, so that putting
  something before a pattern moves none of its instructions. `Node.code` puts the instructions
  of a node after those that there are, leading to a given address, and tells the address
  where the node begins.
-/

import LineRules.Pattern.Node

namespace LineRules.Pattern

open Unicode (CodeSet)

inductive Inst where
  | accept
  /-- Take one character of a set. -/
  | char (set : CodeSet) (next : Nat)
  | look (l : Look) (next : Nat)
  /-- Record the position in a slot. -/
  | save (slot next : Nat)
  /-- Try the first address before the second. -/
  | split (first second : Nat)
  deriving Repr

/-- A choice between going on in a loop and leaving it. -/
def Inst.choice (greedy : Bool) (inner outer : Nat) : Inst := if greedy then .split inner outer else .split outer inner

/-- Instructions, and the address where the last part that was written begins. -/
abbrev Code := Array Inst × Nat

def write (i : Inst) (insts : Array Inst) : Code :=
  let here := insts.size
  (insts.push i, here)

def textCode : List Nat → Array Inst → Nat → Code
  | [], insts, next => (insts, next)
  | n :: rest, insts, next =>
    match textCode rest insts next with
    | (insts, entry) => write (.char [(n, n)] entry) insts

def copies (body : Array Inst → Nat → Code) : Nat → Array Inst → Nat → Code
  | 0, insts, next => (insts, next)
  | n + 1, insts, next =>
    match body insts next with
    | (insts, entry) => copies body n insts entry

/-- Up to `n` copies, each of which may be left out together with those after it. -/
def optionals (body : Array Inst → Nat → Code) (greedy : Bool) (exit : Nat) : Nat → Array Inst → Nat → Code
  | 0, insts, next => (insts, next)
  | n + 1, insts, next =>
    match body insts next with
    | (insts, entry) =>
      match write (Inst.choice greedy entry exit) insts with
      | (insts, entry) => optionals body greedy exit n insts entry

/-- One copy or more: after each, the choice to go round again, which comes after the `length`
    instructions of the copy. -/
def oneOrMore (body : Array Inst → Nat → Code) (length : Nat) (greedy : Bool) (insts : Array Inst) (next : Nat) : Code :=
  let choice := insts.size + length
  match body insts choice with
  | (insts, entry) => (insts.push (Inst.choice greedy entry next), entry)

/-- Any number of copies. A body that may take no character is entered through a choice of its
    own, so that an empty pass still counts as one. -/
def zeroOrMore (body : Array Inst → Nat → Code) (length : Nat) (nullable greedy : Bool) (insts : Array Inst)
    (next : Nat) : Code :=
  let choice := insts.size + length
  match oneOrMore body length greedy insts next with
  | (insts, entry) => if nullable then write (Inst.choice greedy entry next) insts else (insts, choice)

def Node.length : Node → Nat
  | .empty => 0
  | .text codes => codes.length
  | .set _ _ => 1
  | .look _ => 1
  | .cat a b => a.length + b.length
  | .alt a b => a.length + b.length + 1
  | .capture _ _ body => body.length + 2
  | .repetition min max _ body =>
    match max with
    | some max => min * body.length + (max - min) * (body.length + 1)
    | none => Nat.max min 1 * body.length + (if min = 0 ∧ body.nullable then 2 else 1)

/-- Write a node after the instructions that there are, leading to `next`. -/
def Node.code : Node → Array Inst → Nat → Code
  | .empty, insts, next => (insts, next)
  | .text codes, insts, next => textCode codes insts next
  | .set _ s, insts, next => write (.char s next) insts
  | .look l, insts, next => write (.look l next) insts
  | .cat a b, insts, next =>
    match b.code insts next with
    | (insts, entry) => a.code insts entry
  | .alt a b, insts, next =>
    match b.code insts next with
    | (insts, second) =>
      match a.code insts next with
      | (insts, first) => write (.split first second) insts
  | .capture index _ body, insts, next =>
    match write (.save (2 * index + 1) next) insts with
    | (insts, entry) =>
      match body.code insts entry with
      | (insts, entry) => write (.save (2 * index) entry) insts
  | .repetition min max greedy body, insts, next =>
    match max with
    | some max =>
      match optionals body.code greedy next (max - min) insts next with
      | (insts, entry) => copies body.code min insts entry
    | none =>
      match min with
      | 0 => zeroOrMore body.code body.length body.nullable greedy insts next
      | min + 1 =>
        match oneOrMore body.code body.length greedy insts next with
        | (insts, entry) => copies body.code min insts entry

structure Program where
  insts : Array Inst
  start : Nat
  /-- The number of groups, group 0 included. -/
  groups : Nat
  deriving Repr, Inhabited

/-- The program of a node: the whole match is group 0. -/
def Program.ofNode (n : Node) : Program :=
  let whole := Node.capture 0 none n
  match whole.code #[.accept] 0 with
  | (insts, start) => { insts, start, groups := whole.groupNames.length }

end LineRules.Pattern
