import ImageTags.Text.Blank

/-!
# Decimal numerals

Writing and reading of whole numbers.  Numbers that the program stores have a width; a numeral
whose value does not fit is refused, never cut.
-/

namespace ImageTags.Numeral

/-- The numeral of a natural number, without leading zeros. -/
def ofNat (n : Nat) : List Char :=
  Nat.toDigits 10 n

/-- The numeral of an integer. -/
def ofInt (n : Int) : List Char :=
  if n < 0 then '-' :: ofNat n.natAbs else ofNat n.natAbs

/-- The value of a run of digits; the empty run is worth 0. -/
def value (digits : List Char) : Nat :=
  Nat.ofDigitChars 10 digits 0

/-- A numeral is worth the number that it was written for. -/
theorem value_ofNat (n : Nat) : value (ofNat n) = n :=
  Nat.ofDigitChars_toDigits (by decide) (by decide)

theorem isDigit_of_mem_ofNat {n : Nat} {c : Char} (h : c ∈ ofNat n) : c.isDigit = true :=
  Nat.isDigit_of_mem_toDigits (b := 10) (by decide) (by decide) h

/-- The digits with zeros in front up to `width` characters. -/
def padded (width : Nat) (digits : List Char) : List Char :=
  List.replicate (width - digits.length) '0' ++ digits

/-- The numeral of an integer with zeros after its sign, up to `width` characters in all. -/
def paddedInt (width : Nat) (n : Int) : List Char :=
  if n < 0 then '-' :: padded (width - 1) (ofNat n.natAbs) else padded width (ofNat n.natAbs)

/-- The run of digits at the start of a text and what follows it. -/
def spanDigits (cs : List Char) : List Char × List Char :=
  (cs.takeWhile Char.isDigit, cs.dropWhile Char.isDigit)

/-- The greatest number of 64 bits without sign. -/
def maxWord : Nat := 18446744073709551615

/-- The greatest number of 64 bits of which one is the sign. -/
def maxSigned : Nat := 9223372036854775807

/-- Reads a non-empty run of digits whose value fits in 64 bits. -/
def readWord? (digits : List Char) : Option Nat :=
  if digits ≠ [] ∧ digits.all Char.isDigit ∧ value digits ≤ maxWord then some (value digits)
  else none

/-- Reads a natural number of 64 bits, which may have a plus sign. -/
def readUnsigned? : List Char → Option Nat
  | '+' :: digits => readWord? digits
  | digits => readWord? digits

/-- Reads an integer of 64 bits, which may have a sign. -/
def readSigned? : List Char → Option Int
  | '-' :: digits =>
    if digits ≠ [] ∧ digits.all Char.isDigit ∧ value digits ≤ maxSigned + 1 then
      some (-(value digits : Int))
    else none
  | cs =>
    match readUnsigned? cs with
    | some n => if n ≤ maxSigned then some n else none
    | none => none

end ImageTags.Numeral
