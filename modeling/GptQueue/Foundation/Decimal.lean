import Mathlib

/-! # Decimal numerals

Natural and integer numerals as lists of characters: writing them without and
with zero padding, reading digits back, and the canonical form that an integer
parser without leniency accepts.
-/

namespace GptQueue.Decimal

/-! ## Digits -/

def digitChar (digit : Nat) : Char := Char.ofNat (48 + digit)

def digitValue (char : Char) : Nat := char.toNat - 48

theorem digitValue_digitChar {digit : Nat} (small : digit < 10) :
    digitValue (digitChar digit) = digit := by
  interval_cases digit <;> rfl

theorem isDigit_digitChar {digit : Nat} (small : digit < 10) :
    (digitChar digit).isDigit = true := by
  interval_cases digit <;> rfl

theorem digitChar_eq_zero_iff {digit : Nat} (small : digit < 10) :
    digitChar digit = '0' ↔ digit = 0 := by
  interval_cases digit <;> decide

theorem digitValue_lt {char : Char} (isDigit : char.isDigit = true) :
    digitValue char < 10 := by
  simp only [Char.isDigit, Bool.and_eq_true, decide_eq_true_eq] at isDigit
  have upper : char.toNat ≤ 57 := isDigit.2
  unfold digitValue
  omega

/-! ## Reading digits -/

/-- The number a list of digits denotes, most significant digit first. -/
def value (digits : List Char) : Nat :=
  Nat.ofDigits 10 (digits.reverse.map digitValue)

theorem value_append (left right : List Char) :
    value (left ++ right) = value left * 10 ^ right.length + value right := by
  simp [value, Nat.ofDigits_append, Nat.add_comm, Nat.mul_comm]

@[simp] theorem value_replicate_zero (count : Nat) :
    value (List.replicate count '0') = 0 := by
  have zeros : (List.replicate count '0').reverse.map digitValue =
      List.replicate count 0 := by
    simp [digitValue]
  rw [value, zeros, Nat.ofDigits_replicate_zero]

theorem value_lt_pow {digits : List Char} (allDigits : digits.all Char.isDigit) :
    value digits < 10 ^ digits.length := by
  have bound := Nat.ofDigits_lt_base_pow_length (b := 10) (l := digits.reverse.map digitValue)
    (by decide) (by
      intro digit member
      rcases List.mem_map.mp member with ⟨char, charMember, rfl⟩
      exact digitValue_lt (List.all_eq_true.mp allDigits char (List.mem_reverse.mp charMember)))
  simpa [value] using bound

/-! ## Writing numerals -/

/-- The numeral of `number`, without leading zeros. -/
def numeral (number : Nat) : List Char :=
  if number = 0 then ['0'] else ((Nat.digits 10 number).map digitChar).reverse

/-- The numeral padded with zeros on the left to at least `width` characters. -/
def padded (width number : Nat) : List Char :=
  List.replicate (width - (numeral number).length) '0' ++ numeral number

/-- The numeral of an integer, with a sign only when it is negative. -/
def signed : Int → List Char
  | .ofNat number => numeral number
  | .negSucc number => '-' :: numeral (number + 1)

example : padded 4 70 = ['0', '0', '7', '0'] := by decide

@[simp] theorem value_numeral (number : Nat) : value (numeral number) = number := by
  unfold numeral
  split
  · next zero =>
      subst zero
      rfl
  · have digits : ((Nat.digits 10 number).map digitChar).map digitValue =
        Nat.digits 10 number := by
      rw [List.map_map]
      conv_rhs => rw [← List.map_id (Nat.digits 10 number)]
      apply List.map_congr_left
      intro digit member
      exact digitValue_digitChar (Nat.digits_lt_base (by decide) member)
    rw [value, List.reverse_reverse, digits, Nat.ofDigits_digits]

theorem isDigit_of_mem_numeral {number : Nat} {char : Char}
    (member : char ∈ numeral number) : char.isDigit = true := by
  unfold numeral at member
  split at member
  · simp only [List.mem_singleton] at member
    subst member
    rfl
  · rcases List.mem_map.mp (List.mem_reverse.mp member) with ⟨digit, digitMember, rfl⟩
    exact isDigit_digitChar (Nat.digits_lt_base (by decide) digitMember)

theorem numeral_ne_nil (number : Nat) : numeral number ≠ [] := by
  unfold numeral
  split
  · simp
  · next positive => simpa [Nat.digits_eq_nil_iff_eq_zero] using positive

theorem length_numeral_le {number width : Nat} (positive : 0 < width)
    (small : number < 10 ^ width) : (numeral number).length ≤ width := by
  unfold numeral
  split
  · exact positive
  · simpa using (Nat.digits_length_le_iff (by decide) number).mpr small

theorem all_isDigit_padded (width number : Nat) :
    (padded width number).all Char.isDigit = true := by
  rw [List.all_eq_true]
  intro char member
  rcases List.mem_append.mp member with zero | digit
  · rw [List.eq_of_mem_replicate zero]
    rfl
  · exact isDigit_of_mem_numeral digit

theorem padded_ne_nil (width number : Nat) : padded width number ≠ [] := by
  intro empty
  exact numeral_ne_nil number (List.append_eq_nil_iff.mp empty).2

@[simp] theorem value_padded (width number : Nat) :
    value (padded width number) = number := by
  rw [padded, value_append, value_replicate_zero, value_numeral]
  simp

theorem length_padded {width number : Nat} (positive : 0 < width)
    (small : number < 10 ^ width) : (padded width number).length = width := by
  have bound := length_numeral_le positive small
  simp only [padded, List.length_append, List.length_replicate]
  omega

/-! ## Canonical integers -/

/-- Digits without a leading zero, other than the numeral `0` itself. -/
def isCanonical (digits : List Char) : Bool :=
  digits.all Char.isDigit && (digits == ['0'] || (digits != [] && digits.head? != some '0'))

/-- Read a canonical integer: no plus sign, blank, leading zero or `-0`. -/
def readInt : List Char → Option Int
  | '-' :: digits =>
      if isCanonical digits && digits != ['0'] then some (-(value digits : Int)) else none
  | digits => if isCanonical digits then some (value digits : Int) else none

theorem isCanonical_numeral (number : Nat) : isCanonical (numeral number) = true := by
  have allDigits : (numeral number).all Char.isDigit = true :=
    List.all_eq_true.mpr fun _ member => isDigit_of_mem_numeral member
  by_cases zero : number = 0
  · subst zero
    rfl
  · have nonempty := numeral_ne_nil number
    have leading : (numeral number).head? ≠ some '0' := by
      unfold numeral
      rw [if_neg zero, List.head?_reverse, List.getLast?_map]
      have lastNonzero := Nat.getLast_digit_ne_zero 10 zero
      have nonempty : Nat.digits 10 number ≠ [] := Nat.digits_ne_nil_iff_ne_zero.mpr zero
      rw [List.getLast?_eq_some_getLast nonempty]
      intro equal
      have small := Nat.digits_lt_base (b := 10) (m := number) (by decide)
        (List.getLast_mem nonempty)
      simp only [Option.map_some, Option.some.injEq] at equal
      exact lastNonzero ((digitChar_eq_zero_iff small).mp equal)
    simp [isCanonical, allDigits, nonempty, leading]

theorem numeral_eq_zero_iff (number : Nat) : numeral number = ['0'] ↔ number = 0 := by
  constructor
  · intro equal
    have read := value_numeral number
    rw [equal] at read
    exact read.symm
  · rintro rfl
    rfl

theorem readInt_of_digits {digits : List Char} (canonical : isCanonical digits = true) :
    readInt digits = some (value digits : Int) := by
  unfold readInt
  split
  · next rest =>
      have allDigits := (Bool.and_eq_true_iff.mp canonical).1
      simp at allDigits
  · simp [canonical]

@[simp] theorem readInt_signed (number : Int) : readInt (signed number) = some number := by
  cases number with
  | ofNat number =>
      rw [signed, readInt_of_digits (isCanonical_numeral number), value_numeral]
      rfl
  | negSucc number =>
      have nonzero : numeral (number + 1) ≠ ['0'] := by
        rw [Ne, numeral_eq_zero_iff]
        omega
      simp [signed, readInt, isCanonical_numeral, nonzero, Int.negSucc_eq]

end GptQueue.Decimal
