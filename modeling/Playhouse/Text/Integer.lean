/-
Module: Playhouse.Text.Integer
Purpose: Whole numbers in decimal notation: reading them from text, writing
  them, and the longest numeral that may be read or written.
Main exports: digitLimit, digitValue?, IntegerFault, readInteger, writeInteger, DigitLimit
-/
import Playhouse.Text.Blank

namespace Playhouse.Text

/-! ### Digits -/

/-- The digit zero of every script with decimal digits.  Its nine successors
follow it directly. -/
def decimalZeros : List Nat := [
  0x30, 0x660, 0x6f0, 0x7c0, 0x966, 0x9e6, 0xa66, 0xae6, 0xb66, 0xbe6, 0xc66, 0xce6, 0xd66, 0xde6,
  0xe50, 0xed0, 0xf20, 0x1040, 0x1090, 0x17e0, 0x1810, 0x1946, 0x19d0, 0x1a80, 0x1a90, 0x1b50,
  0x1bb0, 0x1c40, 0x1c50, 0xa620, 0xa8d0, 0xa900, 0xa9d0, 0xa9f0, 0xaa50, 0xabf0, 0xff10, 0x104a0,
  0x10d30, 0x11066, 0x110f0, 0x11136, 0x111d0, 0x112f0, 0x11450, 0x114d0, 0x11650, 0x116c0, 0x11730,
  0x118e0, 0x11950, 0x11c50, 0x11d50, 0x11da0, 0x16a60, 0x16ac0, 0x16b50, 0x1d7ce, 0x1d7d8, 0x1d7e2,
  0x1d7ec, 0x1d7f6, 0x1e140, 0x1e2f0, 0x1e950, 0x1fbf0]

/-- The value of a decimal digit of any script. -/
def digitValue? (c : Char) : Option Nat :=
  if c.toNat < 128 then if c.isDigit then some (c.toNat - 48) else none
  else decimalZeros.findSome? fun start =>
    if start ≤ c.toNat && c.toNat < start + 10 then some (c.toNat - start) else none

/-- The most digits that a numeral may have. -/
def digitLimit : Nat := 4300

/-! ### Reading -/

/-- Why a text is no integer. -/
inductive IntegerFault where
  | malformed
  | tooLong (digits : Nat)
deriving Repr, Inhabited, DecidableEq

/-- The blanks allowed around a numeral: white space without the four separator
controls. -/
def isNumeralBlank (c : Char) : Bool :=
  isBlank c && !(28 ≤ c.toNat && c.toNat ≤ 31)

/-- The digits at the start of a text, in order, with what follows them.  Single
low lines may stand between two digits; `afterDigit` says that a digit was read
just before. -/
def digitsFrom (afterDigit : Bool) : List Char → Option (List Nat × List Char)
  | [] => if afterDigit then some ([], []) else none
  | c :: rest =>
      match digitValue? c with
      | some digit => do
          let (digits, remaining) ← digitsFrom true rest
          pure (digit :: digits, remaining)
      | none =>
          if c == '_' then if afterDigit then digitsFrom false rest else none
          else if afterDigit then some ([], c :: rest) else none

/-- The number that decimal digits stand for, first digit first. -/
def numberOfDigits (digits : List Nat) : Nat :=
  digits.foldl (fun value digit => 10 * value + digit) 0

/-- Read digits up to the end of the text, trailing blanks aside. -/
def readNatural (text : List Char) : Except IntegerFault Nat :=
  match digitsFrom false text with
  | none => .error .malformed
  | some (digits, remaining) =>
      if digitLimit < digits.length then .error (.tooLong digits.length)
      else if remaining.all isNumeralBlank then .ok (numberOfDigits digits)
      else .error .malformed

/-- Read an integer: blanks, an optional sign, digits, blanks. -/
def readInteger (text : List Char) : Except IntegerFault Int :=
  match text.dropWhile isNumeralBlank with
  | '-' :: rest => (readNatural rest).map fun magnitude => -(magnitude : Int)
  | '+' :: rest => (readNatural rest).map fun magnitude => (magnitude : Int)
  | rest => (readNatural rest).map fun magnitude => (magnitude : Int)

/-! ### Writing -/

/-- Signal that an integer has more digits than may be written. -/
structure DigitLimit where
deriving Repr, Inhabited, DecidableEq

/-- The least magnitude whose numeral exceeds the digit limit. -/
def firstUnwritable : Nat := Nat.pow 10 digitLimit

/-- Whether an integer has few enough digits to be written. -/
def isWritable (value : Int) : Bool :=
  value.natAbs < firstUnwritable

/-- The decimal numeral of a natural number. -/
def naturalNumeral (value : Nat) : List Char :=
  Nat.toDigits 10 value

/-- The decimal numeral of an integer, of whatever length. -/
def numeral (value : Int) : List Char :=
  if value < 0 then '-' :: naturalNumeral value.natAbs else naturalNumeral value.natAbs

/-- Write an integer unless it has too many digits. -/
def writeInteger (value : Int) : Except DigitLimit (List Char) :=
  if isWritable value then .ok (numeral value) else .error ⟨⟩

end Playhouse.Text
