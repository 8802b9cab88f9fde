import Songbook.Number.Decimal
import Songbook.Text

/-!
# Clock readings

Lengths are shown as minutes and seconds, `3:05`, from an hour on with the hours before them,
`1:00:00`. The first field takes the digits it needs; the others have two.
-/

namespace Songbook.Clock

/-- Write a number of seconds as a clock reading. -/
def ofSeconds (total : Nat) : String :=
  let hours := total / 3600
  let minutes := total % 3600 / 60
  let seconds := total % 60
  if 0 < hours then
    toString hours ++ ":" ++ Text.twoDigits minutes ++ ":" ++ Text.twoDigits seconds
  else toString minutes ++ ":" ++ Text.twoDigits seconds

/-- Write a length as a clock reading: the nearest whole second, and zero for a negative length or no
number. A length beyond 64 bits of seconds shows the greatest that fits. -/
def ofNumber (length : Binary64) : String :=
  ofSeconds (length.round.clampToNat (Nat.pow 2 64 - 1))

end Songbook.Clock
