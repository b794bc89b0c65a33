/-
  LineRules.Pattern.Marks — sets of the addresses of a program.

  A set is kept as bits in words of 32, so that adding an address takes the same time however
  long the program is. `has_add` says what adding does.
-/

namespace LineRules.Pattern

/-- A set of addresses. -/
structure Marks where
  words : Array Nat
  deriving Repr, Inhabited

namespace Marks

def none (size : Nat) : Marks := ⟨Array.replicate (size / 32 + 1) 0⟩

def has (m : Marks) (address : Nat) : Bool :=
  match m.words[address / 32]? with
  | some word => word.testBit (address % 32)
  | .none => false

def add (m : Marks) (address : Nat) : Marks := ⟨m.words.modify (address / 32) fun word => word ||| 1 <<< (address % 32)⟩

def Fits (m : Marks) (address : Nat) : Prop := address / 32 < m.words.size

theorem has_none (size address : Nat) : (none size).has address = false := by
  simp only [has, none]
  split
  · next word h =>
    obtain ⟨_, rfl⟩ : address / 32 < size / 32 + 1 ∧ 0 = word := by
      simpa [Array.getElem?_replicate] using h
    simp
  · rfl

theorem has_add {m : Marks} {a : Nat} (h : m.Fits a) (b : Nat) : (m.add a).has b = (a == b || m.has b) := by
  simp only [has, add, Array.getElem?_modify]
  by_cases hw : a / 32 = b / 32
  · have hb : b / 32 < m.words.size := hw ▸ h
    simp only [hw, hb, getElem?_pos, if_true, Option.map_some, Nat.testBit_or, Nat.one_shiftLeft,
      Nat.testBit_two_pow]
    have : (a % 32 = b % 32) ↔ a = b := by omega
    by_cases hab : a = b <;> simp_all [Bool.or_comm]
  · have : a ≠ b := fun h => hw (h ▸ rfl)
    simp [hw, this]

end Marks

end LineRules.Pattern
