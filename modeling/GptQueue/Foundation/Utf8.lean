import Mathlib.Tactic

/-! # UTF-8 text

Decoding replaces every maximal part that cannot begin a character. Decoding encoded
text gives the text back.
-/

namespace GptQueue.Utf8

def encode (text : String) : List UInt8 := text.toList.flatMap String.utf8EncodeChar

/-- The bytes that may follow a lead byte: how many, and the range of the first. -/
def continuation (lead : Nat) : Nat × Nat × Nat :=
  if lead < 0xC2 then (0, 0x80, 0xBF)
  else if lead ≤ 0xDF then (1, 0x80, 0xBF)
  else if lead = 0xE0 then (2, 0xA0, 0xBF)
  else if lead = 0xED then (2, 0x80, 0x9F)
  else if lead ≤ 0xEF then (2, 0x80, 0xBF)
  else if lead = 0xF0 then (3, 0x90, 0xBF)
  else if lead ≤ 0xF3 then (3, 0x80, 0xBF)
  else if lead = 0xF4 then (3, 0x80, 0x8F)
  else (0, 0x80, 0xBF)

/-- How many bytes at the front are replaced together when no character begins there. -/
def badLength : List UInt8 → Nat
  | [] => 0
  | lead :: rest =>
      let expected := continuation lead.toNat
      match rest with
      | [] => 1
      | second :: rest =>
          if expected.1 = 0 ∨ second.toNat < expected.2.1 ∨ expected.2.2 < second.toNat then 1
          else
            2 + ((rest.take (expected.1 - 1)).takeWhile fun byte =>
              0x80 ≤ byte.toNat && byte.toNat ≤ 0xBF).length

/-- Decoding with at most so many steps. -/
def decodeFor : Nat → List UInt8 → List Char
  | 0, _ => []
  | _ + 1, [] => []
  | fuel + 1, lead :: rest =>
      match (lead :: rest).toByteArray.utf8DecodeChar? 0 with
      | some char => char :: decodeFor fuel ((lead :: rest).drop char.utf8Size)
      | none => '\uFFFD' :: decodeFor fuel ((lead :: rest).drop (badLength (lead :: rest)))

/-- `Buffer.toString("utf8")`: each step takes at least one byte. -/
def decode (bytes : List UInt8) : String := String.ofList (decodeFor bytes.length bytes)

/-- A cut character is replaced as one, a stray byte by itself. -/
example : (decodeFor 4 [0xE2, 0x82, 0x41, 0xFF]) = ['\uFFFD', 'A', '\uFFFD'] := by
  decide +kernel

end GptQueue.Utf8
