import Songbook.Number.Binary64

/-!
# Decimal text of numbers

A `Decimal` is a whole number of tenths, hundredths and so on: `digits * 10 ^ scale`. It is what a
numeral says before it is rounded to the format, and what the writer chooses before it is laid out.

Reading accepts an optional sign, then ASCII digits with an optional point (a digit on at least one
side of it) and an optional exponent, or one of the words `inf`, `infinity` and `nan` in any case.
Writing uses the fewest digits that still denote the number, always positionally.
-/

namespace Songbook

/-- The number `digits * 10 ^ scale`. -/
structure Decimal where
  digits : Nat
  scale : Int
  deriving DecidableEq, Repr

namespace Decimal

/-- The natural number a list of decimal digits denotes, the most significant digit first. -/
def natOfDigits (digits : List Char) : Nat :=
  digits.foldl (fun n digit => 10 * n + (digit.toNat - '0'.toNat)) 0

/-- Read one or more ASCII digits and nothing else. -/
def readNat? (text : List Char) : Option Nat :=
  if text ≠ [] ∧ text.all Char.isDigit then some (natOfDigits text) else none

/-- Read an exponent: nothing at all, or `e` with an optional sign and digits. -/
def readExponent? : List Char → Option Int
  | [] => some 0
  | mark :: rest =>
    if mark = 'e' ∨ mark = 'E' then
      match rest with
      | '+' :: digits => (readNat? digits).map Int.ofNat
      | '-' :: digits => (readNat? digits).map fun n => -(n : Int)
      | digits => (readNat? digits).map Int.ofNat
    else none

/-- Read an unsigned numeral. -/
def read? (text : List Char) : Option Decimal :=
  let whole := text.takeWhile Char.isDigit
  let rest := text.dropWhile Char.isDigit
  let fraction :=
    match rest with
    | '.' :: after => after.takeWhile Char.isDigit
    | _ => []
  let exponent :=
    match rest with
    | '.' :: after => after.dropWhile Char.isDigit
    | _ => rest
  if whole.isEmpty && fraction.isEmpty then none
  else
    (readExponent? exponent).map fun e =>
      { digits := natOfDigits (whole ++ fraction), scale := e - (fraction.length : Int) }

/-- The rational a decimal denotes. -/
def toRat (d : Decimal) : Rat :=
  (d.digits : Rat) * (10 : Rat) ^ d.scale

/-- The number nearest to a decimal. Decimals of a magnitude that no finite number comes near are
decided without computing the power of ten. -/
def toBinary64 (negative : Bool) (d : Decimal) : Binary64 :=
  let magnitude : Int := ((toString d.digits).length : Int) + d.scale
  if d.digits = 0 then Binary64.zero negative
  else if 400 < magnitude then .infinity negative
  else if magnitude < -400 then Binary64.zero negative
  else Binary64.ofRat negative (if negative then -d.toRat else d.toRat)

/-- Digits without the zeros they end in. -/
def dropTrailingZeros (digits : List Char) : List Char :=
  (digits.reverse.dropWhile (· = '0')).reverse

/-- Lay a decimal out positionally: no exponent, and no zero at the end of a fraction. -/
def toText (d : Decimal) : String :=
  if 0 ≤ d.scale then toString (d.digits * Nat.pow 10 d.scale.toNat)
  else
    let places := (-d.scale).toNat
    let unit := Nat.pow 10 places
    let whole := d.digits / unit
    let part := (toString (d.digits % unit)).toList
    let fraction := dropTrailingZeros (List.replicate (places - part.length) '0' ++ part)
    if fraction.isEmpty then toString whole
    else toString whole ++ "." ++ String.ofList fraction

end Decimal

namespace Binary64

/-- Read a number as the module's header describes. -/
def read? (text : List Char) : Option Binary64 :=
  let negative := text.head? = some '-'
  let unsigned :=
    match text with
    | '+' :: rest => rest
    | '-' :: rest => rest
    | _ => text
  let word := String.ofList (unsigned.map Char.toLower)
  if word = "inf" ∨ word = "infinity" then some (infinity negative)
  else if word = "nan" then some nan
  else (Decimal.read? unsigned).map (·.toBinary64 negative)

/-- The greatest `k` with `10 ^ k ≤ value`, for a positive value. -/
def decimalExponent (value : Rat) : Int :=
  let guess : Int :=
    ((toString value.num.natAbs).length : Int) - ((toString value.den).length : Int)
  if (10 : Rat) ^ guess ≤ value then guess else guess - 1

/-- Whether a rational rounds to a given positive number: it lies between the midpoints to the
neighbours, the midpoints themselves belonging to the numbers with an even significand. Below a
power of two the neighbour is half as far away. -/
def roundsTo (value candidate : Rat) : Bool :=
  let unit := spacing value
  let even := (value / unit).floor % 2 = 0
  let below := if value = (2 : Rat) ^ binaryExponent value ∧ (2 : Rat) ^ (-1022 : Int) < value
    then value - unit / 4 else value - unit / 2
  let above := value + unit / 2
  if even then below ≤ candidate ∧ candidate ≤ above else below < candidate ∧ candidate < above

/-- The nearest multiple of `10 ^ scale` that rounds to a positive number, if one of the two
multiples next to it does. Of two at the same distance it is the greater. -/
def nearestOnGrid? (value : Rat) (scale : Int) : Option Decimal :=
  let unit := (10 : Rat) ^ scale
  let low := (value / unit).floor.toNat
  let below : Decimal := { digits := low, scale }
  let above : Decimal := { digits := low + 1, scale }
  match roundsTo value below.toRat, roundsTo value above.toRat with
  | true, true => some (if value - below.toRat < above.toRat - value then below else above)
  | true, false => some below
  | false, true => some above
  | false, false => none

/-- The decimal with the fewest digits that rounds to a positive number. Seventeen digits always
do. -/
def shortest (value : Rat) : Decimal :=
  let exponent := decimalExponent value
  ((List.range 17).findSome? fun (more : Nat) => nearestOnGrid? value (exponent - (more : Int))).getD
    { digits := 0, scale := 0 }

/-- Write a number with the fewest digits that read back as it. -/
def toText : Binary64 → String
  | nan => "NaN"
  | infinity negative => if negative then "-inf" else "inf"
  | negativeZero => "-0"
  | finite value =>
    if value = 0 then "0"
    else (if value < 0 then "-" else "") ++ (shortest value.abs).toText

end Binary64

end Songbook
