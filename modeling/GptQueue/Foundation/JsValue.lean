import GptQueue.Foundation.Json

/-! # Script values

How the scripting language treats a parsed document: its truth, its identity and its
text. An absent value is `none`. Number tokens go through functions of the host.
-/

namespace GptQueue.JsValue

/-- What the host does with number tokens. -/
structure Numbers where
  isZero : Numeral → Bool
  same : Numeral → Numeral → Bool
  text : Numeral → String

/-- The digits of a token without a point, and the power of ten they are taken with. -/
def decimal (token : Numeral) : Nat × Int :=
  let magnitude := token.text.dropWhile (· == '-')
  let whole := magnitude.takeWhile Char.isDigit
  let fraction :=
    match magnitude.dropWhile Char.isDigit with
    | '.' :: rest => rest.takeWhile Char.isDigit
    | _ => []
  let power : Int :=
    match (magnitude.dropWhile fun char => char != 'e' && char != 'E').drop 1 with
    | '-' :: digits => -Decimal.value digits
    | '+' :: digits => Decimal.value digits
    | digits => Decimal.value digits
  (Decimal.value (whole ++ fraction), power - fraction.length)

/-- `=== 1`: one is the double nearest to the number, which is between `1 - 2⁻⁵⁴` and
`1 + 2⁻⁵³`. -/
def isOne (token : Numeral) : Bool :=
  let (digits, power) := decimal token
  let above := digits * 10 ^ power.toNat * 2 ^ 54
  let below := 10 ^ (-power).toNat
  token.text.head? != some '-' && Nat.ble ((2 ^ 54 - 1) * below) above &&
    Nat.ble above ((2 ^ 54 + 2) * below)

example : isOne ⟨"10.0e-1".toList, rfl, rfl⟩ = true := by decide +kernel

def truthy (isZero : Numeral → Bool) : Json → Bool
  | .null => false
  | .bool value => value
  | .number token => !isZero token
  | .string text => text ≠ ""
  | .array _ => true
  | .object _ => true

/-- `===` on values of different documents: two objects are never the same. -/
def strictEq (numbers : Numbers) : Option Json → Option Json → Bool
  | none, none => true
  | some .null, some .null => true
  | some (.bool left), some (.bool right) => left == right
  | some (.number left), some (.number right) => numbers.same left right
  | some (.string left), some (.string right) => left == right
  | _, _ => false

mutual

/-- `String(value)`; an object with a `toString` of its own raises. -/
def toText (numbers : Numbers) : Json → Option String
  | .null => some "null"
  | .bool true => some "true"
  | .bool false => some "false"
  | .number token => some (numbers.text token)
  | .string text => some text
  | .array items => joined numbers items
  | .object fields =>
      if fields.any fun entry => entry.1 = "toString" then none else some "[object Object]"

/-- The elements of an array, with commas. -/
def joined (numbers : Numbers) : List Json → Option String
  | [] => some ""
  | [item] => element numbers item
  | item :: items => do
      let first ← element numbers item
      let later ← joined numbers items
      some (first ++ "," ++ later)

def element (numbers : Numbers) : Json → Option String
  | .null => some ""
  | .bool value => some (if value then "true" else "false")
  | .number token => some (numbers.text token)
  | .string text => some text
  | .array items => joined numbers items
  | .object fields =>
      if fields.any fun entry => entry.1 = "toString" then none else some "[object Object]"

end

end GptQueue.JsValue
