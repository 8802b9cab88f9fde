/-!
# Tables of code points

Character properties are kept as text: one word for each range, `41-5A` or `AA`, or for each run,
`41:Lu`, a run reaching to the start of the next one. The numbers are hexadecimal and increase along
the table. A lookup finds the last word that starts at or before a code point.
-/

namespace Songbook.Unicode

/-- The value of a hexadecimal digit; any other character counts as zero. -/
def hexDigitValue (c : Char) : Nat :=
  if c.isDigit then c.toNat - '0'.toNat
  else if 'a' ≤ c ∧ c ≤ 'f' then c.toNat - 'a'.toNat + 10
  else if 'A' ≤ c ∧ c ≤ 'F' then c.toNat - 'A'.toNat + 10
  else 0

/-- The number a hexadecimal numeral denotes. -/
def hexValue (digits : List Char) : Nat :=
  digits.foldl (fun n digit => 16 * n + hexDigitValue digit) 0

/-- The last entry between two indices that starts at or before a code point. -/
def lastStart? {α : Type} (entries : Array (Nat × α)) (point low high : Nat) : Option (Nat × α) :=
  if low + 1 < high then
    let middle := (low + high) / 2
    if (entries[middle]?.map fun entry => decide (entry.1 ≤ point)).getD false then
      lastStart? entries point middle high
    else
      lastStart? entries point low middle
  else
    entries[low]?.filter fun entry => decide (entry.1 ≤ point)
termination_by high - low

/-- The code points of one property: the first and the last of each range, in increasing order. -/
structure RangeTable where
  ranges : Array (Nat × Nat)

namespace RangeTable

/-- Read the words of a table of ranges. -/
def ofWords (words : List String) : RangeTable where
  ranges := (words.map fun word =>
    match word.toList.splitOn '-' with
    | [first, last] => (hexValue first, hexValue last)
    | _ => (hexValue word.toList, hexValue word.toList)).toArray

/-- Whether a character lies in one of the ranges. -/
def contains (table : RangeTable) (c : Char) : Bool :=
  match lastStart? table.ranges c.toNat 0 table.ranges.size with
  | some (_, last) => c.toNat ≤ last
  | none => false

end RangeTable

/-- A value for every code point: where each run starts, and its value. -/
structure RunTable (α : Type) where
  runs : Array (Nat × α)

namespace RunTable

/-- Read the words of a table of runs. -/
def ofWords {α : Type} (value : String → α) (words : List String) : RunTable α where
  runs := (words.map fun word =>
    match word.toList.splitOn ':' with
    | [start, name] => (hexValue start, value (String.ofList name))
    | _ => (hexValue word.toList, value "")).toArray

/-- The value of a character. -/
def valueAt? {α : Type} (table : RunTable α) (c : Char) : Option α :=
  (lastStart? table.runs c.toNat 0 table.runs.size).map (·.2)

end RunTable

end Songbook.Unicode
