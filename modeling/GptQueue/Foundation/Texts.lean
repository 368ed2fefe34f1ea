import Mathlib.Data.List.DropRight
import Mathlib.Tactic

/-! # Texts and paths

Functions of the host on texts, and those of a POSIX host on paths.
-/

namespace GptQueue.Texts

def isAbsolute (path : String) : Bool := path.toList.head? = some '/'

/-- The segments of a path after `.` and `..`, latest first. -/
def walk (before : List (List Char)) : List (List Char) → List (List Char)
  | [] => before
  | segment :: rest =>
      if segment = [] ∨ segment = ['.'] then walk before rest
      else if segment = ['.', '.'] then walk before.tail rest
      else walk (segment :: before) rest

/-- `path.resolve` in a working directory. -/
def resolve (cwd path : String) : String :=
  let base := if isAbsolute path then [] else walk [] (cwd.toList.splitOn '/')
  let segments := (walk base (path.toList.splitOn '/')).reverse
  String.ofList ('/' :: List.intercalate ['/'] segments)

/-- `path.basename`. -/
def basename (path : String) : String :=
  String.ofList ((path.toList.reverse.dropWhile (· = '/')).takeWhile (· ≠ '/')).reverse

/-- The white space and line ends of the language. -/
def isWhite (char : Char) : Bool :=
  char.toNat ∈ [9, 10, 11, 12, 13, 32, 0xA0, 0x1680, 0x2028, 0x2029, 0x202F, 0x205F, 0x3000,
    0xFEFF] || (0x2000 ≤ char.toNat && char.toNat ≤ 0x200A)

def trim (text : String) : String :=
  String.ofList ((text.toList.dropWhile isWhite).reverse.dropWhile isWhite).reverse

def startsWith (text start : String) : Bool := start.toList.isPrefixOf text.toList

/-- A trimmed text has no white space at its ends. -/
theorem trim_trim (text : String) : trim (trim text) = trim text := by
  rw [trim, trim, String.toList_ofList]
  have ends : List.rdropWhile isWhite ((text.toList.dropWhile isWhite).rdropWhile isWhite) =
      (text.toList.dropWhile isWhite).rdropWhile isWhite := List.rdropWhile_idempotent _ _
  have starts : List.dropWhile isWhite ((text.toList.dropWhile isWhite).rdropWhile isWhite) =
      (text.toList.dropWhile isWhite).rdropWhile isWhite := by
    rw [List.dropWhile_eq_self_iff]
    intro nonempty
    have isPrefix := List.rdropWhile_prefix isWhite (text.toList.dropWhile isWhite)
    have longer := Nat.lt_of_lt_of_le nonempty isPrefix.length_le
    rw [isPrefix.getElem nonempty]
    exact List.dropWhile_get_zero_not isWhite text.toList longer
  rw [List.rdropWhile] at starts ends
  rw [starts]
  exact congrArg String.ofList ends

end GptQueue.Texts
