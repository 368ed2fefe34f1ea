import Mathlib.Tactic

/-! # Percent encoding

`encodeURIComponent` writes the letters, the digits and a few marks as they are
and every other byte of the UTF-8 text as a percent sign and two digits. It is
injective, and its output has no separator.
-/

namespace GptQueue.PercentEncoding

/-- The bytes that stand for themselves. -/
def unreserved (byte : UInt8) : Bool :=
  let char := Char.ofNat byte.toNat
  byte.toNat < 128 && (char.isAlphanum || "-_.!~*'()".toList.contains char)

def hexDigit (digit : Nat) : Char :=
  if digit < 10 then Char.ofNat (48 + digit) else Char.ofNat (55 + digit)

def hexValue (char : Char) : Nat :=
  if char.toNat < 58 then char.toNat - 48 else char.toNat - 55

def escapeByte (byte : UInt8) : List Char :=
  if unreserved byte then [Char.ofNat byte.toNat]
  else ['%', hexDigit (byte.toNat / 16), hexDigit (byte.toNat % 16)]

/-- `encodeURIComponent` of a well-formed string. -/
def encodeURIComponent (text : String) : String :=
  String.ofList (text.toByteArray.data.toList.flatMap escapeByte)

example : encodeURIComponent "a:é" = "a%3A%C3%A9" := by decide +kernel

/-! ## Decoding -/

def unescape : List Char → List UInt8
  | '%' :: high :: low :: rest => UInt8.ofNat (hexValue high * 16 + hexValue low) :: unescape rest
  | char :: rest => UInt8.ofNat char.toNat :: unescape rest
  | [] => []

theorem byte_cases : ∀ byte : UInt8,
    (unreserved byte = true → Char.ofNat byte.toNat ≠ '%' ∧ Char.ofNat byte.toNat ≠ ':' ∧
      UInt8.ofNat (Char.ofNat byte.toNat).toNat = byte) ∧
    hexDigit (byte.toNat / 16) ≠ ':' ∧ hexDigit (byte.toNat % 16) ≠ ':' ∧
    UInt8.ofNat (hexValue (hexDigit (byte.toNat / 16)) * 16 +
      hexValue (hexDigit (byte.toNat % 16))) = byte := by
  intro byte
  obtain ⟨small, rfl⟩ : ∃ small : Fin 256, byte = UInt8.ofNat small.val :=
    ⟨⟨byte.toNat, byte.toNat_lt⟩, by simp⟩
  revert small
  decide +kernel

theorem unescape_escapeByte (byte : UInt8) (rest : List Char) :
    unescape (escapeByte byte ++ rest) = byte :: unescape rest := by
  have facts := byte_cases byte
  unfold escapeByte
  split
  · next plain =>
      rcases facts.1 plain with ⟨notPercent, -, same⟩
      rw [List.singleton_append]
      rw [unescape, same]
      rintro high low tail equal
      exact absurd equal notPercent
  · simp [unescape, facts.2.2.2]

theorem unescape_flatMap (bytes : List UInt8) : unescape (bytes.flatMap escapeByte) = bytes := by
  induction bytes with
  | nil => rfl
  | cons byte bytes induction => rw [List.flatMap_cons, unescape_escapeByte, induction]

theorem encodeURIComponent_injective : Function.Injective encodeURIComponent := by
  intro first second equal
  have chars := congrArg String.toList equal
  simp only [encodeURIComponent, String.toList_ofList] at chars
  have bytes := congrArg unescape chars
  rw [unescape_flatMap, unescape_flatMap] at bytes
  apply String.toByteArray_inj.mp
  apply ByteArray.ext
  exact Array.toList_inj.mp bytes

theorem separator_notMem_encodeURIComponent (text : String) :
    ':' ∉ (encodeURIComponent text).toList := by
  simp only [encodeURIComponent, String.toList_ofList, List.mem_flatMap, not_exists, not_and]
  intro byte _ member
  have facts := byte_cases byte
  unfold escapeByte at member
  split at member
  · next plain => exact (facts.1 plain).2.1 (List.mem_singleton.mp member).symm
  · simp only [List.mem_cons, List.not_mem_nil, or_false] at member
    rcases member with percent | high | low
    · exact absurd percent (by decide)
    · exact facts.2.1 high.symm
    · exact facts.2.2.1 low.symm

end GptQueue.PercentEncoding
