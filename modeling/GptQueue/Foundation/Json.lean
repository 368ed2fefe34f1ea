import GptQueue.Foundation.CodeUnits
import GptQueue.Foundation.Decimal

/-! # JSON documents and their text

A document type, its compact rendering, and a reader. `parse_render` states that
reading a rendered document gives the document back. A text inside a document may hold
unpaired surrogates, which are read from escapes and written as escapes.
-/

namespace GptQueue

/-! ## Number tokens -/

namespace Numeral

def isNumberChar (char : Char) : Bool :=
  char.isDigit || char == '-' || char == '+' || char == '.' || char == 'e' || char == 'E'

def isExponent : List Char → Bool
  | [] => true
  | marker :: rest =>
      let digits := match rest with
        | '-' :: digits => digits
        | '+' :: digits => digits
        | digits => digits
      (marker == 'e' || marker == 'E') && digits != [] && digits.all Char.isDigit

def isFraction : List Char → Bool
  | '.' :: rest => (rest.head?.any Char.isDigit) && isExponent (rest.dropWhile Char.isDigit)
  | rest => isExponent rest

/-- The JSON number grammar. -/
def isNumeral (text : List Char) : Bool :=
  let magnitude := match text with
    | '-' :: rest => rest
    | rest => rest
  Decimal.isCanonical (magnitude.takeWhile Char.isDigit) &&
    isFraction (magnitude.dropWhile Char.isDigit)

end Numeral

/-- A number, carried as the token it is written with. -/
structure Numeral where
  text : List Char
  numeric : text.all Numeral.isNumberChar = true
  grammar : Numeral.isNumeral text = true
deriving DecidableEq

namespace Numeral

def one : Numeral := ⟨['1'], by decide, by decide⟩

theorem text_ne_nil (numeral : Numeral) : numeral.text ≠ [] := by
  intro empty
  have grammar := numeral.grammar
  rw [empty] at grammar
  exact absurd grammar (by decide)

end Numeral

/-! ## Documents -/

inductive Json
  | null
  | bool (value : Bool)
  | number (token : Numeral)
  | string (text : String)
  | array (items : List Json)
  | object (fields : List (String × Json))

namespace Json

/-- The value of a field of an object. A repeated field counts with its last
value; anything that is not an object has no fields. -/
def field : Json → String → Option Json
  | .object fields, name => fields.reverse.lookup name
  | _, _ => none

/-- Replace the value of a field of an object, keeping its place, or add it. -/
def setField : Json → String → Json → Json
  | .object fields, name, value =>
      .object <|
        if fields.any (·.1 == name) then
          fields.map fun entry => if entry.1 = name then (name, value) else entry
        else fields ++ [(name, value)]
  | other, _, _ => other

def asString : Option Json → Option String
  | some (.string text) => some text
  | _ => none

/-! ## Rendering -/

def hexDigit (digit : Nat) : Char :=
  if digit < 10 then Char.ofNat (48 + digit) else Char.ofNat (87 + digit)

def escapeChar (char : Char) : List Char :=
  if char = '"' then ['\\', '"']
  else if char = '\\' then ['\\', '\\']
  else if char = '\n' then ['\\', 'n']
  else if char = '\r' then ['\\', 'r']
  else if char = '\t' then ['\\', 't']
  else if char.toNat = 8 then ['\\', 'b']
  else if char.toNat = 12 then ['\\', 'f']
  else if char.toNat < 32 then
    ['\\', 'u', '0', '0', hexDigit (char.toNat / 16), hexDigit (char.toNat % 16)]
  else [char]

/-- The escape of one UTF-16 unit. -/
def unicodeEscape (code : Nat) : List Char :=
  ['\\', 'u', hexDigit (code / 0x1000), hexDigit (code / 0x100 % 16), hexDigit (code / 16 % 16),
    hexDigit (code % 16)]

/-- The characters of a text between its quotes. Behind the escape of a high surrogate a low
one is not escaped, since the two would be read as a pair. -/
def escape (afterHigh : Bool) : List Char → List Char
  | [] => []
  | [char] => escapeChar char
  | first :: second :: rest =>
      match CodeUnits.unpairedCode first second with
      | some code =>
          if afterHigh ∧ 0xDC00 ≤ code then first :: second :: escape false rest
          else unicodeEscape code ++ escape (decide (code < 0xDC00)) rest
      | none => escapeChar first ++ escape false (second :: rest)

def quote (text : List Char) : List Char :=
  '"' :: escape false text ++ ['"']

mutual

def chars : Json → List Char
  | .null => ['n', 'u', 'l', 'l']
  | .bool true => ['t', 'r', 'u', 'e']
  | .bool false => ['f', 'a', 'l', 's', 'e']
  | .number token => token.text
  | .string text => quote text.toList
  | .array items => '[' :: (itemChars items ++ [']'])
  | .object fields => '\x7b' :: (fieldChars fields ++ ['\x7d'])

def itemChars : List Json → List Char
  | [] => []
  | [item] => item.chars
  | item :: items => item.chars ++ ',' :: itemChars items

def fieldChars : List (String × Json) → List Char
  | [] => []
  | [(name, value)] => quote name.toList ++ ':' :: value.chars
  | (name, value) :: fields => quote name.toList ++ ':' :: value.chars ++ ',' :: fieldChars fields

end

/-- `JSON.stringify`. -/
def render (document : Json) : String := String.ofList document.chars

/-! ## Reading -/

def isBlank (char : Char) : Bool :=
  char == ' ' || char == '\n' || char == '\r' || char == '\t'

def skip (text : List Char) : List Char := text.dropWhile isBlank

def hexValue (char : Char) : Option Nat :=
  if char.isDigit then some (char.toNat - 48)
  else if 97 ≤ char.toNat ∧ char.toNat ≤ 102 then some (char.toNat - 87)
  else if 65 ≤ char.toNat ∧ char.toNat ≤ 70 then some (char.toNat - 55)
  else none

def hexCode (first second third fourth : Char) : Option Nat := do
  let first ← hexValue first
  let second ← hexValue second
  let third ← hexValue third
  let fourth ← hexValue fourth
  some (((first * 16 + second) * 16 + third) * 16 + fourth)

/-- The character of one escape. -/
def codeChar (code : Nat) : Option Char :=
  if code.isValidChar then some (Char.ofNat code) else none

/-- The character of the escapes of a surrogate pair. -/
def pairChar (high low : Nat) : Option Char :=
  if 0xD800 ≤ high ∧ high < 0xDC00 ∧ 0xDC00 ≤ low ∧ low < 0xE000 then
    some (Char.ofNat (0x10000 + (high - 0xD800) * 0x400 + (low - 0xDC00)))
  else none

/-- Read the characters of a string up to its closing quote. -/
def readString : List Char → Option (List Char × List Char)
  | [] => none
  | '"' :: rest => some ([], rest)
  | '\\' :: '"' :: rest => (readString rest).map fun (text, rest) => ('"' :: text, rest)
  | '\\' :: '\\' :: rest => (readString rest).map fun (text, rest) => ('\\' :: text, rest)
  | '\\' :: '/' :: rest => (readString rest).map fun (text, rest) => ('/' :: text, rest)
  | '\\' :: 'n' :: rest => (readString rest).map fun (text, rest) => ('\n' :: text, rest)
  | '\\' :: 'r' :: rest => (readString rest).map fun (text, rest) => ('\r' :: text, rest)
  | '\\' :: 't' :: rest => (readString rest).map fun (text, rest) => ('\t' :: text, rest)
  | '\\' :: 'b' :: rest => (readString rest).map fun (text, rest) => (Char.ofNat 8 :: text, rest)
  | '\\' :: 'f' :: rest => (readString rest).map fun (text, rest) => (Char.ofNat 12 :: text, rest)
  | '\\' :: 'u' :: first :: second :: third :: fourth :: rest =>
      match hexCode first second third fourth with
      | none => none
      | some code =>
          match codeChar code, rest with
          | some char, rest => (readString rest).map fun (text, rest) => (char :: text, rest)
          | none, '\\' :: 'u' :: first :: second :: third :: fourth :: later =>
              match (hexCode first second third fourth).bind (pairChar code) with
              | some char => (readString later).map fun (text, rest) => (char :: text, rest)
              | none =>
                  (readString ('\\' :: 'u' :: first :: second :: third :: fourth :: later)).map
                    fun (text, rest) => (CodeUnits.unpaired code ++ text, rest)
          | none, rest =>
              (readString rest).map fun (text, rest) => (CodeUnits.unpaired code ++ text, rest)
  | char :: rest =>
      if char = '\\' ∨ char.toNat < 32 then none
      else (readString rest).map fun (text, rest) => (char :: text, rest)

example : readString ['\\', 'u', 'd', '8', '3', 'd', '\\', 'u', 'd', 'e', '0', '0', '"'] =
    some ([Char.ofNat 0x1F600], []) := by decide +kernel

example : readString ['\\', 'u', 'd', '8', '3', 'd', 'a', '"'] =
    some (CodeUnits.unpaired 0xD83D ++ ['a'], []) := by decide +kernel

def readNumber (text : List Char) : Option (Json × List Char) :=
  let token := text.takeWhile Numeral.isNumberChar
  if numeric : token.all Numeral.isNumberChar = true then
    if grammar : Numeral.isNumeral token = true then
      some (.number ⟨token, numeric, grammar⟩, text.dropWhile Numeral.isNumberChar)
    else none
  else none

mutual

def readValue : Nat → List Char → Option (Json × List Char)
  | 0, _ => none
  | fuel + 1, text =>
      match skip text with
      | '"' :: rest =>
          (readString rest).map fun (text, rest) => (.string (String.ofList text), rest)
      | '[' :: rest =>
          match skip rest with
          | ']' :: rest => some (.array [], rest)
          | _ => (readItems fuel rest).map fun (items, rest) => (.array items, rest)
      | '\x7b' :: rest =>
          match skip rest with
          | '\x7d' :: rest => some (.object [], rest)
          | _ => (readFields fuel rest).map fun (fields, rest) => (.object fields, rest)
      | 'n' :: 'u' :: 'l' :: 'l' :: rest => some (.null, rest)
      | 't' :: 'r' :: 'u' :: 'e' :: rest => some (.bool true, rest)
      | 'f' :: 'a' :: 'l' :: 's' :: 'e' :: rest => some (.bool false, rest)
      | other => readNumber other

def readItems : Nat → List Char → Option (List Json × List Char)
  | 0, _ => none
  | fuel + 1, text => do
      let (item, rest) ← readValue fuel text
      match skip rest with
      | ']' :: rest => some ([item], rest)
      | ',' :: rest =>
          (readItems fuel rest).map fun (items, rest) => (item :: items, rest)
      | _ => none

def readFields : Nat → List Char → Option (List (String × Json) × List Char)
  | 0, _ => none
  | fuel + 1, text => do
      match skip text with
      | '"' :: rest =>
          let (name, rest) ← readString rest
          match skip rest with
          | ':' :: rest =>
              let (value, rest) ← readValue fuel rest
              match skip rest with
              | '\x7d' :: rest => some ([(String.ofList name, value)], rest)
              | ',' :: rest =>
                  (readFields fuel rest).map fun (fields, rest) =>
                    ((String.ofList name, value) :: fields, rest)
              | _ => none
          | _ => none
      | _ => none

end

/-- `JSON.parse`, with `none` for a text it rejects. -/
def parse (text : String) : Option Json :=
  match readValue (text.toList.length + 1) text.toList with
  | some (document, rest) => if skip rest = [] then some document else none
  | none => none

/-! ## Reading what was rendered -/

theorem hexValue_hexDigit {digit : Nat} (small : digit < 16) :
    hexValue (hexDigit digit) = some digit := by
  interval_cases digit <;> rfl

theorem hexCode_of_control {char : Char} (control : char.toNat < 32) :
    hexCode '0' '0' (hexDigit (char.toNat / 16)) (hexDigit (char.toNat % 16)) =
      some char.toNat := by
  have high := @hexValue_hexDigit (char.toNat / 16) (by omega)
  have low := @hexValue_hexDigit (char.toNat % 16) (by omega)
  have zero : hexValue '0' = some 0 := rfl
  have code : ((0 * 16 + 0) * 16 + char.toNat / 16) * 16 + char.toNat % 16 = char.toNat := by
    omega
  simp only [hexCode, zero, high, low, Option.bind_eq_bind, Option.bind_some, code]

theorem codeChar_toNat (char : Char) : codeChar char.toNat = some char := by
  have valid : char.toNat.isValidChar := char.valid
  rw [codeChar, if_pos valid, Char.ofNat_toNat]

theorem readString_escapeChar (char : Char) (text : List Char) :
    readString (escapeChar char ++ text) =
      (readString text).map fun (read, rest) => (char :: read, rest) := by
  by_cases backspace : char.toNat = 8
  · have equal : char = Char.ofNat 8 := by rw [← backspace, Char.ofNat_toNat]
    subst equal
    rfl
  by_cases formFeed : char.toNat = 12
  · have equal : char = Char.ofNat 12 := by rw [← formFeed, Char.ofNat_toNat]
    subst equal
    rfl
  unfold escapeChar
  split
  · next equal => subst equal; rfl
  split
  · next equal => subst equal; rfl
  split
  · next equal => subst equal; rfl
  split
  · next equal => subst equal; rfl
  split
  · next equal => subst equal; rfl
  split
  · next control =>
      simp only [List.cons_append, List.nil_append]
      rw [readString]
      simp only [hexCode_of_control control, codeChar_toNat]
  · next notQuote notBackslash _ _ _ printable =>
      simp only [List.cons_append, List.nil_append]
      rw [readString.eq_def]
      split <;> simp_all

theorem hexCode_unicodeEscape {code : Nat} (small : code < 0x10000) :
    hexCode (hexDigit (code / 0x1000)) (hexDigit (code / 0x100 % 16)) (hexDigit (code / 16 % 16))
      (hexDigit (code % 16)) = some code := by
  have first := @hexValue_hexDigit (code / 0x1000) (by omega)
  have second := @hexValue_hexDigit (code / 0x100 % 16) (by omega)
  have third := @hexValue_hexDigit (code / 16 % 16) (by omega)
  have fourth := @hexValue_hexDigit (code % 16) (by omega)
  have joined : ((code / 0x1000 * 16 + code / 0x100 % 16) * 16 + code / 16 % 16) * 16 + code % 16 =
      code := by omega
  simp only [hexCode, first, second, third, fourth, Option.bind_eq_bind, Option.bind_some, joined]

theorem codeChar_surrogate {code : Nat} (high : 0xD800 ≤ code) (low : code < 0xE000) :
    codeChar code = none := by
  have invalid : ¬code.isValidChar := by
    intro valid
    rcases valid with small | large
    · omega
    · omega
  rw [codeChar, if_neg invalid]

/-- No escape at the front is the second of a pair. -/
def NoLow (text : List Char) : Prop :=
  ∀ first second third fourth later,
    text = '\\' :: 'u' :: first :: second :: third :: fourth :: later →
      ∀ high, (hexCode first second third fourth).bind (pairChar high) = none

theorem NoLow.of_head {char : Char} (plain : char ≠ '\\') (text : List Char) :
    NoLow (char :: text) := by
  intro first second third fourth later equal
  cases equal
  exact absurd rfl plain

theorem pairChar_of_not_low {high low : Nat} (notLow : low < 0xDC00) :
    pairChar high low = none := by
  rw [pairChar, if_neg (by omega)]

theorem readString_unpaired {code : Nat} {text : List Char} (high : 0xD800 ≤ code)
    (low : code < 0xE000) (alone : code < 0xDC00 → NoLow text) :
    readString (unicodeEscape code ++ text) =
      (readString text).map fun (read, rest) => (CodeUnits.unpaired code ++ read, rest) := by
  rw [unicodeEscape]
  simp only [List.cons_append, List.nil_append]
  rw [readString]
  simp only [hexCode_unicodeEscape (show code < 0x10000 by omega), codeChar_surrogate high low]
  split
  · next equal => cases equal
  · next first second third fourth later _ =>
      have apart : (hexCode first second third fourth).bind (pairChar code) = none := by
        by_cases isHigh : code < 0xDC00
        · exact alone isHigh first second third fourth later rfl code
        · cases hexCode first second third fourth with
          | none => rfl
          | some other =>
              rw [Option.bind_some, pairChar, if_neg (by omega)]
      rw [apart]
  · rfl

theorem noLow_escapeChar (char : Char) (text : List Char) : NoLow (escapeChar char ++ text) := by
  intro first second third fourth later equal high
  unfold escapeChar at equal
  split at equal
  · cases equal
  split at equal
  · cases equal
  split at equal
  · cases equal
  split at equal
  · cases equal
  split at equal
  · cases equal
  split at equal
  · cases equal
  split at equal
  · cases equal
  split at equal
  · next control =>
      cases equal
      rw [hexCode_of_control control, Option.bind_some]
      exact pairChar_of_not_low (by omega)
  · next notBackslash _ _ _ _ _ _ =>
      cases equal
      exact absurd rfl notBackslash

/-- After the escape of a high surrogate nothing is written that would make it a pair. -/
theorem noLow_escape (text rest : List Char) : NoLow (escape true text ++ '"' :: rest) := by
  match text with
  | [] => exact NoLow.of_head (by decide) _
  | [char] => exact noLow_escapeChar char _
  | first :: second :: text =>
      rw [escape]
      cases carried : CodeUnits.unpairedCode first second with
      | none =>
          rw [List.append_assoc]
          exact noLow_escapeChar first _
      | some code =>
          have bounds := CodeUnits.unpairedCode_bounds carried
          have marked : first = CodeUnits.mark := by
            have same := CodeUnits.unpaired_of_unpairedCode carried
            exact (List.cons.inj same).1.symm
          by_cases isLow : 0xDC00 ≤ code
          · simp only [isLow, and_self, if_true]
            exact NoLow.of_head (marked ▸ by decide) _
          · simp only [isLow, and_false, if_false]
            intro first second third fourth later equal high
            cases equal
            rw [hexCode_unicodeEscape (by omega), Option.bind_some]
            exact pairChar_of_not_low (by omega)

theorem readString_plain {char : Char} (notQuote : char ≠ '"') (notBackslash : char ≠ '\\')
    (printable : 32 ≤ char.toNat) (text : List Char) :
    readString (char :: text) = (readString text).map fun (read, rest) => (char :: read, rest) := by
  rw [readString.eq_def]
  split <;> simp_all

/-- The characters that carry a surrogate are read as they are. -/
theorem readString_carried {first second : Char} {code : Nat}
    (carried : CodeUnits.unpairedCode first second = some code) (text : List Char) :
    readString (first :: second :: text) =
      (readString text).map fun (read, rest) => (first :: second :: read, rest) := by
  unfold CodeUnits.unpairedCode at carried
  split at carried
  · next marked =>
      have large : 0x10F800 ≤ second.toNat := marked.2
      have notQuote : second ≠ '"' := by
        rintro rfl
        exact absurd large (by decide)
      have notBackslash : second ≠ '\\' := by
        rintro rfl
        exact absurd large (by decide)
      rw [marked.1, readString_plain (by decide) (by decide) (by decide),
        readString_plain notQuote notBackslash (by omega), Option.map_map]
      rfl
  · cases carried

theorem readString_escape (afterHigh : Bool) (text rest : List Char) :
    readString (escape afterHigh text ++ '"' :: rest) = some (text, rest) := by
  induction afterHigh, text using escape.induct with
  | case1 => rfl
  | case2 afterHigh char =>
      rw [escape, readString_escapeChar]
      rfl
  | case3 afterHigh first second text code carried raw induction =>
      rw [escape, carried]
      simp only [if_pos raw, List.cons_append]
      rw [readString_carried carried, induction]
      rfl
  | case4 afterHigh first second text code carried escaped induction =>
      have bounds := CodeUnits.unpairedCode_bounds carried
      rw [escape, carried]
      simp only [if_neg escaped, List.append_assoc]
      rw [readString_unpaired bounds.1 bounds.2, induction]
      · simp only [Option.map_some, CodeUnits.unpaired_of_unpairedCode carried]
        rfl
      · intro high
        rw [decide_eq_true high]
        exact noLow_escape text rest
  | case5 afterHigh first second text carried induction =>
      rw [escape, carried]
      simp only [List.append_assoc]
      rw [readString_escapeChar, induction]
      rfl

theorem readString_quoted (text rest : List Char) :
    readString (escape false text ++ '"' :: rest) = some (text, rest) :=
  readString_escape false text rest

/-- A text that cannot extend the token read before it. -/
def Ends (rest : List Char) : Prop :=
  ∀ char ∈ rest.head?, Numeral.isNumberChar char = false

theorem Ends.of_cons {char : Char} (rest : List Char)
    (plain : Numeral.isNumberChar char = false) : Ends (char :: rest) := by
  intro head member
  simp only [List.head?_cons, Option.mem_def, Option.some.injEq] at member
  exact member ▸ plain

theorem Ends.nil : Ends [] := by
  intro char member
  cases member

theorem takeWhile_token {token rest : List Char}
    (numeric : token.all Numeral.isNumberChar = true) (ends : Ends rest) :
    (token ++ rest).takeWhile Numeral.isNumberChar = token ∧
      (token ++ rest).dropWhile Numeral.isNumberChar = rest := by
  have all := List.all_eq_true.mp numeric
  rw [List.takeWhile_append_of_pos all, List.dropWhile_append_of_pos all]
  cases rest with
  | nil => simp
  | cons head tail =>
      have stop := ends head (by simp)
      simp [stop]

theorem readNumber_token (token : Numeral) {rest : List Char} (ends : Ends rest) :
    readNumber (token.text ++ rest) = some (.number token, rest) := by
  rcases takeWhile_token token.numeric ends with ⟨taken, dropped⟩
  unfold readNumber
  simp only [taken, dropped, token.numeric, token.grammar, dite_true]

/-! The fuel a reader needs is the depth of its calls. -/

mutual

def depth : Json → Nat
  | .array items => itemsDepth items + 1
  | .object fields => fieldsDepth fields + 1
  | _ => 1

def itemsDepth : List Json → Nat
  | [] => 0
  | item :: items => max item.depth (itemsDepth items) + 1

def fieldsDepth : List (String × Json) → Nat
  | [] => 0
  | (_, value) :: fields => max value.depth (fieldsDepth fields) + 1

end

/-- A character that can start a document, and closes neither an array nor an
object. -/
@[reducible] def Opens (char : Char) : Prop :=
  isBlank char = false ∧ char ≠ ']' ∧ char ≠ '\x7d'

theorem opens_of_isNumberChar {char : Char} (numeric : Numeral.isNumberChar char = true) :
    Opens char := by
  refine ⟨?_, ?_, ?_⟩
  · by_contra blank
    simp only [isBlank, Bool.not_eq_false, Bool.or_eq_true, beq_iff_eq] at blank
    rcases blank with ((rfl | rfl) | rfl) | rfl <;> exact absurd numeric (by decide)
  · rintro rfl
    exact absurd numeric (by decide)
  · rintro rfl
    exact absurd numeric (by decide)

theorem chars_opens (document : Json) :
    ∃ head tail, document.chars = head :: tail ∧ Opens head := by
  cases document with
  | null => exact ⟨_, _, by rw [chars], by decide⟩
  | bool value => cases value <;> exact ⟨_, _, by rw [chars], by decide⟩
  | number token =>
      rcases List.exists_cons_of_ne_nil token.text_ne_nil with ⟨head, tail, shape⟩
      refine ⟨head, tail, by rw [chars, shape], opens_of_isNumberChar ?_⟩
      exact List.all_eq_true.mp token.numeric head (by simp [shape])
  | string text => exact ⟨_, _, by rw [chars, quote]; rfl, by decide⟩
  | array items => exact ⟨_, _, by rw [chars], by decide⟩
  | object fields => exact ⟨_, _, by rw [chars], by decide⟩

theorem skip_of_opens {head : Char} (opens : Opens head) (tail : List Char) :
    skip (head :: tail) = head :: tail := by
  simp [skip, opens.1]

/-- The reader reaches the number case on a text that starts like a number. -/
theorem readValue_of_isNumberChar {head : Char}
    (numeric : Numeral.isNumberChar head = true) (fuel : Nat) (tail : List Char) :
    readValue (fuel + 1) (head :: tail) = readNumber (head :: tail) := by
  rw [readValue, skip_of_opens (opens_of_isNumberChar numeric)]
  split <;> first
    | rfl
    | (next equal =>
        simp only [List.cons.injEq] at equal
        rw [equal.1] at numeric
        exact absurd numeric (by decide))

theorem readItems_step {fuel : Nat} {text rest : List Char} {item : Json}
    (read : readValue fuel text = some (item, ',' :: rest)) :
    readItems (fuel + 1) text =
      (readItems fuel rest).map fun (items, rest) => (item :: items, rest) := by
  rw [readItems, read]
  rfl

theorem readItems_last {fuel : Nat} {text rest : List Char} {item : Json}
    (read : readValue fuel text = some (item, ']' :: rest)) :
    readItems (fuel + 1) text = some ([item], rest) := by
  rw [readItems, read]
  rfl

theorem readFields_step {fuel : Nat} {text rest : List Char} {name : String} {value : Json}
    (read : readValue fuel text = some (value, ',' :: rest)) :
    readFields (fuel + 1) (quote name.toList ++ ':' :: text) =
      (readFields fuel rest).map fun (fields, rest) => ((name, value) :: fields, rest) := by
  have quoted := readString_quoted name.toList (':' :: text)
  simp only [quote, List.cons_append, List.append_assoc, List.nil_append]
  rw [readFields, skip_of_opens (by decide)]
  simp only [quoted, Option.bind_eq_bind, Option.bind_some]
  rw [skip_of_opens (by decide)]
  simp only [read, Option.bind_some]
  rw [skip_of_opens (by decide)]
  simp only [String.ofList_toList]

theorem readFields_last {fuel : Nat} {text rest : List Char} {name : String} {value : Json}
    (read : readValue fuel text = some (value, '\x7d' :: rest)) :
    readFields (fuel + 1) (quote name.toList ++ ':' :: text) = some ([(name, value)], rest) := by
  have quoted := readString_quoted name.toList (':' :: text)
  simp only [quote, List.cons_append, List.append_assoc, List.nil_append]
  rw [readFields, skip_of_opens (by decide)]
  simp only [quoted, Option.bind_eq_bind, Option.bind_some]
  rw [skip_of_opens (by decide)]
  simp only [read, Option.bind_some]
  have blank : skip ('\x7d' :: rest) = '\x7d' :: rest := rfl
  rw [blank]
  simp only [String.ofList_toList]

theorem itemChars_cons (item second : Json) (items : List Json) :
    itemChars (item :: second :: items) =
      item.chars ++ ',' :: itemChars (second :: items) := by
  rw [itemChars]
  simp

theorem fieldChars_cons (name : String) (value : Json) (second : String × Json)
    (fields : List (String × Json)) :
    fieldChars ((name, value) :: second :: fields) =
      quote name.toList ++ ':' :: (value.chars ++ ',' :: fieldChars (second :: fields)) := by
  rw [fieldChars]
  · simp
  · simp

theorem itemChars_opens (item : Json) (items : List Json) (rest : List Char) :
    ∃ head tail, itemChars (item :: items) ++ rest = head :: tail ∧ Opens head := by
  rcases item.chars_opens with ⟨head, tail, shape, opens⟩
  cases items with
  | nil => exact ⟨head, tail ++ rest, by rw [itemChars, shape]; rfl, opens⟩
  | cons second items =>
      exact ⟨head, tail ++ ',' :: itemChars (second :: items) ++ rest,
        by rw [itemChars_cons, shape]; simp, opens⟩

theorem readValue_array_cons {fuel : Nat} (item : Json) (items : List Json)
    (rest : List Char) {read : List Json × List Char}
    (inside : readItems fuel (itemChars (item :: items) ++ ']' :: rest) = some read) :
    readValue (fuel + 1) ((Json.array (item :: items)).chars ++ rest) =
      some (.array read.1, read.2) := by
  rcases itemChars_opens item items (']' :: rest) with ⟨head, tail, shape, opens⟩
  have text : (Json.array (item :: items)).chars ++ rest = '[' :: head :: tail := by
    rw [chars, ← shape]
    simp
  rw [text, readValue, skip_of_opens (by decide)]
  simp only [skip_of_opens opens]
  rw [shape] at inside
  split
  · next closing =>
      simp only [List.cons.injEq] at closing
      exact absurd closing.1 opens.2.1
  · rw [inside]
    rfl

theorem readValue_object_cons {fuel : Nat} (name : String) (value : Json)
    (fields : List (String × Json)) (rest : List Char)
    {read : List (String × Json) × List Char}
    (inside : readFields fuel (fieldChars ((name, value) :: fields) ++ '\x7d' :: rest) =
      some read) :
    readValue (fuel + 1) ((Json.object ((name, value) :: fields)).chars ++ rest) =
      some (.object read.1, read.2) := by
  have starts : ∃ tail, fieldChars ((name, value) :: fields) ++ '\x7d' :: rest = '"' :: tail := by
    cases fields with
    | nil => exact ⟨_, by rw [fieldChars, quote]; rfl⟩
    | cons field fields => exact ⟨_, by rw [fieldChars_cons, quote]; rfl⟩
  rcases starts with ⟨tail, shape⟩
  have text : (Json.object ((name, value) :: fields)).chars ++ rest =
      '\x7b' :: '"' :: tail := by
    rw [chars, ← shape]
    simp
  rw [text, readValue, skip_of_opens (by decide)]
  simp only [skip_of_opens (show Opens '"' by decide)]
  rw [shape] at inside
  rw [inside]
  rfl

mutual

theorem readValue_chars (document : Json) (fuel : Nat) (rest : List Char)
    (enough : document.depth ≤ fuel) (ends : Ends rest) :
    readValue fuel (document.chars ++ rest) = some (document, rest) := by
  obtain ⟨fuel, rfl⟩ : ∃ more, fuel = more + 1 := by
    cases fuel with
    | zero => cases document <;> simp [depth] at enough
    | succ fuel => exact ⟨fuel, rfl⟩
  match document with
  | .null => rfl
  | .bool true => rfl
  | .bool false => rfl
  | .number token =>
      rcases List.exists_cons_of_ne_nil token.text_ne_nil with ⟨head, tail, shape⟩
      have numeric : Numeral.isNumberChar head = true :=
        List.all_eq_true.mp token.numeric head (by simp [shape])
      have reached := readValue_of_isNumberChar numeric fuel (tail ++ rest)
      rw [← List.cons_append, ← shape] at reached
      rw [chars, reached, readNumber_token token ends]
  | .string text =>
      have quoted := readString_quoted text.toList rest
      rw [chars, quote]
      simp only [List.cons_append, List.append_assoc, List.nil_append]
      rw [readValue, skip_of_opens (by decide)]
      simp only [quoted, Option.map_some, String.ofList_toList]
  | .array [] => rfl
  | .array (item :: items) =>
      rw [depth] at enough
      exact readValue_array_cons item items rest
        (readItems_itemChars item items fuel rest (by omega))
  | .object [] => rfl
  | .object ((name, value) :: fields) =>
      rw [depth] at enough
      exact readValue_object_cons name value fields rest
        (readFields_fieldChars name value fields fuel rest (by omega))
termination_by fuel

theorem readItems_itemChars (item : Json) (items : List Json) (fuel : Nat)
    (rest : List Char) (enough : itemsDepth (item :: items) ≤ fuel) :
    readItems fuel (itemChars (item :: items) ++ ']' :: rest) = some (item :: items, rest) := by
  rw [itemsDepth] at enough
  obtain ⟨fuel, rfl⟩ : ∃ more, fuel = more + 1 := ⟨fuel - 1, by omega⟩
  match items with
  | [] =>
      rw [itemChars]
      exact readItems_last
        (readValue_chars item fuel _ (by omega) (Ends.of_cons _ (by decide)))
  | second :: items =>
      rw [itemChars_cons, List.append_assoc, List.cons_append]
      rw [readItems_step
        (readValue_chars item fuel _ (by omega) (Ends.of_cons _ (by decide)))]
      rw [readItems_itemChars second items fuel rest (by omega)]
      rfl
termination_by fuel

theorem readFields_fieldChars (name : String) (value : Json)
    (fields : List (String × Json)) (fuel : Nat) (rest : List Char)
    (enough : fieldsDepth ((name, value) :: fields) ≤ fuel) :
    readFields fuel (fieldChars ((name, value) :: fields) ++ '\x7d' :: rest) =
      some ((name, value) :: fields, rest) := by
  rw [fieldsDepth] at enough
  obtain ⟨fuel, rfl⟩ : ∃ more, fuel = more + 1 := ⟨fuel - 1, by omega⟩
  match fields with
  | [] =>
      rw [fieldChars, List.append_assoc, List.cons_append]
      exact readFields_last
        (readValue_chars value fuel _ (by omega) (Ends.of_cons _ (by decide)))
  | (second, other) :: fields =>
      rw [fieldChars_cons, List.append_assoc, List.cons_append, List.append_assoc,
        List.cons_append]
      rw [readFields_step
        (readValue_chars value fuel _ (by omega) (Ends.of_cons _ (by decide)))]
      rw [readFields_fieldChars second other fields fuel rest (by omega)]
      rfl
termination_by fuel

end

mutual

theorem depth_le_length (document : Json) : document.depth ≤ document.chars.length := by
  match document with
  | .null => decide
  | .bool true => decide
  | .bool false => decide
  | .number token =>
      rw [depth, chars]
      exact List.length_pos_iff.mpr token.text_ne_nil
      all_goals simp
  | .string text =>
      rw [depth, chars]
      · simp [quote]
      all_goals simp
  | .array items =>
      have inside := itemsDepth_le_length items
      rw [depth, chars]
      simp only [List.length_cons, List.length_append, List.length_nil]
      omega
  | .object fields =>
      have inside := fieldsDepth_le_length fields
      rw [depth, chars]
      simp only [List.length_cons, List.length_append, List.length_nil]
      omega

theorem itemsDepth_le_length (items : List Json) :
    itemsDepth items ≤ (itemChars items).length + 1 := by
  match items with
  | [] => decide
  | [item] =>
      have head := depth_le_length item
      simp only [itemsDepth, itemChars]
      omega
  | item :: second :: items =>
      have head := depth_le_length item
      have tail := itemsDepth_le_length (second :: items)
      rw [itemsDepth, itemChars_cons]
      simp only [List.length_append, List.length_cons]
      omega

theorem fieldsDepth_le_length (fields : List (String × Json)) :
    fieldsDepth fields ≤ (fieldChars fields).length + 1 := by
  match fields with
  | [] => decide
  | [(name, value)] =>
      have head := depth_le_length value
      simp only [fieldsDepth, fieldChars, List.length_append, List.length_cons]
      omega
  | (name, value) :: second :: fields =>
      have head := depth_le_length value
      have tail := fieldsDepth_le_length (second :: fields)
      rw [fieldsDepth, fieldChars_cons]
      simp only [List.length_append, List.length_cons]
      omega

end

/-- Reading a rendered document gives it back. -/
@[simp] theorem parse_render (document : Json) : parse document.render = some document := by
  have enough := depth_le_length document
  have read := readValue_chars document (document.chars.length + 1) [] (by omega) Ends.nil
  rw [List.append_nil] at read
  simp only [parse, render, String.toList_ofList, read]
  rfl

theorem render_injective : Function.Injective render := by
  intro left right equal
  have parsed := congrArg parse equal
  simpa using parsed

end Json

end GptQueue
