/-!
# Double-precision numbers

A `Binary64` is a number of the IEEE 754 binary64 format, held as the exact rational it denotes.
Every operation is the exact rational operation followed by one rounding, `Binary64.ofRat`, so what
an operation does is read off the rationals. No runtime floating-point operation is involved.

There is one NaN: neither its sign nor its payload is modelled, since no text shows them.
-/

namespace Songbook

/-- A double-precision number. Positive zero is `finite 0`; negative zero has a constructor of its
own, because the rational it denotes has no sign. -/
inductive Binary64 where
  | nan
  | infinity (negative : Bool)
  | negativeZero
  | finite (value : Rat)
  deriving DecidableEq, Repr

namespace Binary64

instance : Inhabited Binary64 := ⟨finite 0⟩

/-! ## Rounding -/

/-- The nearest integer, a half going to the even neighbour. -/
def roundHalfEven (value : Rat) : Int :=
  let below := value.floor
  let part := value - below
  if part < 1 / 2 then below
  else if 1 / 2 < part then below + 1
  else if below % 2 = 0 then below
  else below + 1

/-- The nearest integer, a half going away from zero. -/
def roundHalfAway (value : Rat) : Int :=
  if value < 0 then -(1 / 2 - value).floor else (value + 1 / 2).floor

/-- The greatest `k` with `2 ^ k ≤ value`, for a positive value. -/
def binaryExponent (value : Rat) : Int :=
  let guess : Int := (Nat.log2 value.num.natAbs : Int) - (Nat.log2 value.den : Int)
  if (2 : Rat) ^ guess ≤ value then guess else guess - 1

/-- The distance between neighbouring numbers of the format at a positive value: 53 significant
bits, and never finer than the smallest subnormal number. -/
def spacing (value : Rat) : Rat :=
  (2 : Rat) ^ max (binaryExponent value - 52) (-1074)

/-- A zero of the given sign. -/
def zero (negative : Bool) : Binary64 :=
  if negative then negativeZero else finite 0

/-- A finite rational as a number, keeping the sign of a zero. -/
def signed (negative : Bool) (value : Rat) : Binary64 :=
  if value = 0 then zero negative else finite value

/-- The number nearest to a rational, ties to even, beyond the largest finite number an infinity.
`negative` is the sign that an exact zero takes; a result that rounds to zero keeps its own. -/
def ofRat (negative : Bool) (value : Rat) : Binary64 :=
  if value = 0 then zero negative
  else
    let unit := spacing value.abs
    let rounded := (roundHalfEven (value.abs / unit) : Rat) * unit
    if (2 : Rat) ^ (1024 : Int) ≤ rounded then infinity (value < 0)
    else signed (value < 0) (if value < 0 then -rounded else rounded)

/-- The number nearest to an integer. -/
def ofInt (value : Int) : Binary64 :=
  ofRat false value

instance (n : Nat) : OfNat Binary64 n := ⟨ofInt n⟩

/-! ## Reading a number -/

/-- The rational a finite number denotes. -/
def toRat? : Binary64 → Option Rat
  | nan => none
  | infinity _ => none
  | negativeZero => some 0
  | finite value => some value

/-- Whether the sign is negative; a NaN counts as positive. -/
def isNegative : Binary64 → Bool
  | nan => false
  | infinity negative => negative
  | negativeZero => true
  | finite value => value < 0

/-- The integer a number denotes, if it is finite and whole. -/
def toInt? (x : Binary64) : Option Int :=
  x.toRat?.bind fun value => if value.den = 1 then some value.num else none

/-- The whole part toward zero of a number, kept within `0` and `limit`; a NaN gives `0`. -/
def clampToNat (x : Binary64) (limit : Nat) : Nat :=
  match x with
  | nan => 0
  | infinity negative => if negative then 0 else limit
  | negativeZero => 0
  | finite value => min value.floor.toNat limit

/-! ## Arithmetic -/

/-- The number with the opposite sign. -/
def neg : Binary64 → Binary64
  | nan => nan
  | infinity negative => infinity !negative
  | negativeZero => finite 0
  | finite value => if value = 0 then negativeZero else finite (-value)

instance : Neg Binary64 := ⟨neg⟩

/-- The sum. A zero sum of two numbers is negative only if both of them are. -/
def add : Binary64 → Binary64 → Binary64
  | nan, _ => nan
  | _, nan => nan
  | infinity a, infinity b => if a = b then infinity a else nan
  | infinity a, _ => infinity a
  | _, infinity b => infinity b
  | negativeZero, negativeZero => negativeZero
  | negativeZero, finite y => finite y
  | finite x, negativeZero => finite x
  | finite x, finite y => ofRat false (x + y)

instance : Add Binary64 := ⟨add⟩

/-- The difference, which is the sum with the opposite. -/
def sub (x y : Binary64) : Binary64 :=
  x + -y

instance : Sub Binary64 := ⟨sub⟩

/-- The product. An infinity times a zero is no number. -/
def mul (x y : Binary64) : Binary64 :=
  let negative := x.isNegative != y.isNegative
  match x, y with
  | nan, _ => nan
  | _, nan => nan
  | infinity _, y => if y.toRat? = some 0 then nan else infinity negative
  | x, infinity _ => if x.toRat? = some 0 then nan else infinity negative
  | x, y => ofRat negative (x.toRat?.getD 0 * y.toRat?.getD 0)

instance : Mul Binary64 := ⟨mul⟩

/-- The quotient. Zero by zero and infinity by infinity are no numbers; any other number by zero is
an infinity. -/
def div (x y : Binary64) : Binary64 :=
  let negative := x.isNegative != y.isNegative
  match x, y with
  | nan, _ => nan
  | _, nan => nan
  | infinity _, infinity _ => nan
  | infinity _, _ => infinity negative
  | _, infinity _ => zero negative
  | x, y =>
    if y.toRat? = some 0 then
      if x.toRat? = some 0 then nan else infinity negative
    else ofRat negative (x.toRat?.getD 0 / y.toRat?.getD 0)

instance : Div Binary64 := ⟨div⟩

/-- Apply an integer rounding to a finite number. A zero result keeps the sign of the number. -/
def roundWith (rounding : Rat → Int) : Binary64 → Binary64
  | finite value => ofRat (value < 0) (rounding value)
  | x => x

/-- The greatest whole number that is not greater. -/
def floor (x : Binary64) : Binary64 :=
  x.roundWith Rat.floor

/-- The nearest whole number, a half going away from zero. -/
def round (x : Binary64) : Binary64 :=
  x.roundWith roundHalfAway

/-! ## Order -/

/-- How two numbers compare. A NaN compares with nothing, and the two zeros are equal. -/
def compare? : Binary64 → Binary64 → Option Ordering
  | nan, _ => none
  | _, nan => none
  | infinity a, infinity b =>
    some (if a = b then .eq else if a then .lt else .gt)
  | infinity a, _ => some (if a then .lt else .gt)
  | _, infinity b => some (if b then .gt else .lt)
  | x, y =>
    let x := x.toRat?.getD 0
    let y := y.toRat?.getD 0
    some (if x < y then .lt else if x = y then .eq else .gt)

end Binary64

end Songbook
