import Songbook.Number.Decimal
import Songbook.Query.Calendar
import Songbook.Query.Error

/-!
# Quantities

The value of a comparison: a bare number, a clock reading such as `3:20`, a number with a unit of
time or size, one of the words `now` and `today`, or a date such as `2020-02-29` or `2020-02`. Case
and blanks around the text do not matter. Durations are seconds, sizes bytes, and instants seconds
since 1970; all arithmetic is rounded as that of `Binary64`.
-/

namespace Songbook

/-- A value with its dimension. -/
inductive Quantity where
  | number (value : Binary64)
  | duration (seconds : Binary64)
  | size (bytes : Binary64)
  | instant (seconds : Binary64)
  deriving DecidableEq, Repr

namespace Quantity

/-- The value without its dimension. -/
def value : Quantity → Binary64
  | number x => x
  | duration x => x
  | size x => x
  | instant x => x

/-- The number of seconds of a day. -/
def day : Binary64 := 86400

/-- The quantity that a number with a unit denotes, if the unit is known. -/
def ofUnit? (x : Binary64) (unit : String) : Option Quantity :=
  if unit = "" then some (number x)
  else if ["s", "sec", "secs", "second", "seconds"].contains unit then some (duration x)
  else if ["m", "min", "mins", "minute", "minutes"].contains unit then some (duration (x * 60))
  else if ["h", "hr", "hrs", "hour", "hours"].contains unit then some (duration (x * 3600))
  else if ["d", "day", "days"].contains unit then some (duration (x * day))
  else if ["w", "week", "weeks"].contains unit then some (duration (x * 7 * day))
  else if ["month", "months"].contains unit then some (duration (x * 30 * day))
  else if ["y", "year", "years"].contains unit then some (duration (x * 365 * day))
  else if ["b", "byte", "bytes"].contains unit then some (size x)
  else if ["k", "kb", "kib"].contains unit then some (size (x * 1024))
  else if ["mb", "mib"].contains unit then some (size (x * 1024 * 1024))
  else if ["gb", "gib"].contains unit then some (size (x * 1024 * 1024 * 1024))
  else none

/-- Read the fields of a clock reading, each one sixtieth of the one before. A field is any number
that is not below zero. -/
def ofClockFields? (total : Binary64) : List (List Char) → Option Binary64
  | [] => some total
  | field :: rest =>
    match Binary64.read? (Text.trim field) with
    | none => none
    | some x =>
      if x.compare? 0 = some .lt then none else ofClockFields? (total * 60 + x) rest

/-- Read a clock reading of two or three fields. -/
def ofClock? (text : List Char) : Option Quantity :=
  let fields := text.splitOn ':'
  if fields.length = 2 ∨ fields.length = 3 then (ofClockFields? 0 fields).map duration else none

/-- Read a number of at least `least` and at most `most` digits. -/
def dateField? (least most : Nat) (text : List Char) : Option Int :=
  if least ≤ text.length ∧ text.length ≤ most then (Decimal.readNat? text).map Int.ofNat else none

/-- The number of the day that a date of the form `YYYY-MM-DD` or `YYYY-MM` names; a month stands for
its first day. -/
def ofDate? (text : List Char) : Option Int :=
  let named (year month day : List Char) : Option Int := do
    let year ← dateField? 4 4 year
    let month ← dateField? 1 2 month
    let day ← dateField? 1 2 day
    if Calendar.isDate year month day then some (Calendar.dayNumber year month day) else none
  match text.splitOn '-' with
  | [year, month] => named year month ['1']
  | [year, month, day] => named year month day
  | _ => none

/-- Read a quantity. `now` is the instant that the words `now` and `today` refer to. Only a number
with a word after it can fail on its unit; everything else that cannot be read is no number. -/
def read (raw : String) (now : Binary64) : Except ComparisonError Quantity :=
  let text := Unicode.lowercase (Text.trim raw.toList)
  let invalid := ComparisonError.invalidNumber (Text.trimmed raw)
  if text = "now".toList then .ok (instant now)
  else if text = "today".toList then .ok (instant ((now / day).floor * day))
  else
    match ofDate? text with
    | some date => .ok (instant (Binary64.ofInt date * day))
    | none =>
      if text.contains ':' then
        match ofClock? text with
        | some quantity => .ok quantity
        | none => .error invalid
      else
        let isDigitSide (c : Char) : Bool := !Unicode.Property.isAlphabetic c
        match Binary64.read? (Text.trim (text.takeWhile isDigitSide)) with
        | none => .error invalid
        | some x =>
          let unit := String.ofList (Text.trim (text.dropWhile isDigitSide))
          match ofUnit? x unit with
          | some quantity => .ok quantity
          | none => .error (.unknownUnit unit (Text.trimmed raw))

end Quantity

end Songbook
