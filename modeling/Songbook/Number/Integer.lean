import Songbook.Number.Decimal

/-!
# Whole numbers of 64 bits

Counts and track numbers are read as decimal numerals with an optional sign and refused beyond the
range of 64 bits.
-/

namespace Songbook.Integer

/-- Read a signed whole number of 64 bits. -/
def readSigned? (text : List Char) : Option Int :=
  let within (n : Int) : Option Int := if -Int.pow 2 63 ≤ n ∧ n < Int.pow 2 63 then some n else none
  match text with
  | '-' :: digits => (Decimal.readNat? digits).bind fun n => within (-(n : Int))
  | '+' :: digits => (Decimal.readNat? digits).bind fun n => within n
  | digits => (Decimal.readNat? digits).bind fun n => within n

/-- Read a count of 64 bits. -/
def readCount? (text : List Char) : Option Nat :=
  let within (n : Nat) : Option Nat := if n < Nat.pow 2 64 then some n else none
  match text with
  | '+' :: digits => (Decimal.readNat? digits).bind within
  | digits => (Decimal.readNat? digits).bind within

/-- Write a whole number with zeros after its sign, to make at least `width` characters. -/
def padded (width : Nat) (n : Int) : String :=
  let sign := if n < 0 then "-" else ""
  let digits := toString n.natAbs
  sign ++ String.ofList (List.replicate (width - sign.length - digits.length) '0') ++ digits

end Songbook.Integer
