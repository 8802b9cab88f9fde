import Songbook.Number.Decimal

/-!
# Numbers in song files

A number is a JSON numeral. Its digits make a whole number of at most 64 bits; digits that no longer
fit only move the point. The number is that whole number, rounded, times or divided by a rounded power
of ten, so that the last bit of a long numeral can differ from that of the nearest number. A numeral
beyond the largest finite number is refused.
-/

namespace Songbook.SongFile

/-- The greatest whole number that digits can make. -/
def maxSignificand : Nat := Nat.pow 2 64 - 1

/-- Append digits to a whole number as long as it fits, and give the digits that are left. -/
def appendDigits (significand : Nat) : List Char → Nat × List Char
  | [] => (significand, [])
  | digit :: rest =>
    let extended := 10 * significand + (digit.toNat - '0'.toNat)
    if extended ≤ maxSignificand then appendDigits extended rest else (significand, digit :: rest)

/-- A power of ten, rounded. -/
def powerOfTen (exponent : Nat) : Binary64 :=
  Binary64.ofInt (Nat.pow 10 exponent)

/-- Move the point of a number to the left, by at most 308 places at a time. -/
def scaleDown (x : Binary64) (places : Nat) : Binary64 :=
  if places ≤ 308 then x / powerOfTen places
  else if x = 0 then x
  else scaleDown (x / powerOfTen 308) (places - 308)
termination_by places

/-- A whole number times a power of ten, unless it is too large. -/
def scale? (significand : Nat) (exponent : Int) : Option Binary64 :=
  let x := Binary64.ofInt significand
  if exponent < 0 then some (scaleDown x exponent.natAbs)
  else if significand = 0 then some x
  else if 308 < exponent then none
  else
    let scaled := x * powerOfTen exponent.toNat
    if scaled = .infinity false then none else some scaled

/-- The digits at the start of a text, and the rest. -/
def spanDigits (text : List Char) : List Char × List Char :=
  (text.takeWhile Char.isDigit, text.dropWhile Char.isDigit)

/-- The exponent that follows a numeral, and the rest: none, or `e` with an optional sign and at least
one digit. -/
def readExponent? (text : List Char) : Option (Int × List Char) :=
  let signed (negative : Bool) (text : List Char) : Option (Int × List Char) :=
    let (digits, rest) := spanDigits text
    (Decimal.readNat? digits).map fun n => (if negative then -(n : Int) else n, rest)
  match text with
  | mark :: rest =>
    if mark = 'e' ∨ mark = 'E' then
      match rest with
      | '+' :: rest => signed false rest
      | '-' :: rest => signed true rest
      | rest => signed false rest
    else some (0, text)
  | [] => some (0, text)

/-- The fraction that follows the whole part of a numeral: its digits, and the rest. -/
def readFraction? (text : List Char) : Option (List Char × List Char) :=
  match text with
  | '.' :: rest =>
    let (digits, rest) := spanDigits rest
    if digits.isEmpty then none else some (digits, rest)
  | rest => some ([], rest)

/-- Read a numeral without its sign. A whole part of several digits does not start with zero. -/
def readUnsigned? (text : List Char) : Option (Binary64 × List Char) := do
  let (whole, rest) := spanDigits text
  if whole.isEmpty || (whole.head? = some '0' && whole.length != 1) then none
  else
    let (significand, dropped) := appendDigits 0 whole
    let (fraction, rest) ← readFraction? rest
    let (significand, unused) := appendDigits significand fraction
    let (exponent, rest) ← readExponent? rest
    let places : Int := dropped.length - (fraction.length - unused.length : Nat)
    let x ← scale? significand (exponent + places)
    some (x, rest)

/-- Read a numeral. -/
def readNumber? (text : List Char) : Option (Binary64 × List Char) :=
  match text with
  | '-' :: rest => (readUnsigned? rest).map fun (x, rest) => (-x, rest)
  | rest => readUnsigned? rest

end Songbook.SongFile
