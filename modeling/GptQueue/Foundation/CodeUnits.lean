import Mathlib.Tactic

/-! # UTF-16 units

A `String` stands for a text of the scripting language. A surrogate that is no part of a pair
is carried by two characters: the noncharacter U+FFFF, and a character of the last plane that
says which surrogate it is. This pair of characters is taken to mean nothing else.
-/

namespace GptQueue.CodeUnits

/-- The first character that carries an unpaired surrogate. -/
def mark : Char := Char.ofNat 0xFFFF

/-- What carries an unpaired surrogate. -/
def unpaired (code : Nat) : List Char := [mark, Char.ofNat (0x10F800 + (code - 0xD800))]

/-- The unpaired surrogate that two characters carry. -/
def unpairedCode (first second : Char) : Option Nat :=
  if first = mark ∧ 0x10F800 ≤ second.toNat then some (second.toNat - 0x10F800 + 0xD800) else none

def unitsOf (char : Char) : List Nat :=
  if char.toNat < 0x10000 then [char.toNat]
  else [0xD800 + (char.toNat - 0x10000) / 0x400, 0xDC00 + (char.toNat - 0x10000) % 0x400]

def units : List Char → List Nat
  | [] => []
  | [char] => unitsOf char
  | first :: second :: rest =>
      match unpairedCode first second with
      | some code => code :: units rest
      | none => unitsOf first ++ units (second :: rest)

/-- The units of a text, which texts are compared by. -/
def codeUnits (text : String) : List Nat := units text.toList

/-- `length`. -/
def length (text : String) : Nat := (codeUnits text).length

theorem unpairedCode_bounds {first second : Char} {code : Nat}
    (carried : unpairedCode first second = some code) : 0xD800 ≤ code ∧ code < 0xE000 := by
  unfold unpairedCode at carried
  split at carried
  · next marked =>
      have valid : second.toNat < 0x110000 := by
        rcases second.valid with small | large
        · exact small.trans (by decide)
        · exact large.2
      cases carried
      omega
  · cases carried

theorem unpaired_of_unpairedCode {first second : Char} {code : Nat}
    (carried : unpairedCode first second = some code) : unpaired code = [first, second] := by
  unfold unpairedCode at carried
  split at carried
  · next marked =>
      cases carried
      have number : 0x10F800 + (second.toNat - 0x10F800 + 0xD800 - 0xD800) = second.toNat := by
        omega
      rw [unpaired, number, Char.ofNat_toNat, marked.1]
  · cases carried

example : codeUnits (String.ofList ('a' :: unpaired 0xD83D ++ [Char.ofNat 0x1F600])) =
    [97, 0xD83D, 0xD83D, 0xDE00] := by decide +kernel

end GptQueue.CodeUnits
