import Songbook.RegexEngine.Expression

/-!
# Sizes of expressions

An expression stands for an automaton that reads the bytes of a text from the back, and it is refused
if that automaton would be too large. A state takes 32 bytes, and 4 more for each way to go on if
there are several. A character has a state for each of its bytes. The characters of a class make a
tree, in which those whose bytes begin alike share the states of the common beginning, and a counted
repetition makes one copy of the automaton of its body for each time.
-/

namespace Songbook.RegexEngine

/-- A run of numbers: the first and the last. -/
abbrev Range := Nat × Nat

/-! ## Bytes -/

/-- The ways to write the numbers of a range with some digits of base 64 after a leading one, as
ranges for each digit. -/
def digitRanges : (digits : Nat) → (first last : Nat) → List (List Range)
  | 0, first, last => [[(first, last)]]
  | digits + 1, first, last =>
    let block := Nat.pow 64 (digits + 1)
    let one (leading first last : Nat) :=
      (digitRanges digits first last).map ((leading, leading) :: ·)
    if first / block = last / block then one (first / block) (first % block) (last % block)
    else
      let opens := first % block = 0
      let closes := last % block = block - 1
      let opening := if opens then [] else one (first / block) (first % block) (block - 1)
      let closing := if closes then [] else one (last / block) 0 (last % block)
      let start := if opens then first / block else first / block + 1
      let stop := if closes then last / block + 1 else last / block
      let middle :=
        if start < stop then [(start, stop - 1) :: List.replicate (digits + 1) (0, 63)] else []
      opening ++ middle ++ closing

/-- The code points that are written with some bytes after a leading one. -/
def encodedWith : (following : Nat) → Range
  | 0 => (0, 0x7F)
  | 1 => (0x80, 0x7FF)
  | 2 => (0x800, 0xFFFF)
  | _ => (0x10000, 0x10FFFF)

/-- The ways to write the code points of some ranges with a number of following bytes. -/
def byteRanges (following : Nat) (ranges : List Range) : List (List Range) :=
  ranges.flatMap fun range =>
    let first := max range.1 (encodedWith following).1
    let last := min range.2 (encodedWith following).2
    if first ≤ last then digitRanges following first last else []

/-- The number of elements that a list does not begin with in common with another one. -/
def lengthAfter {α : Type} [DecidableEq α] : (earlier list : List α) → Nat
  | _, [] => 0
  | [], list => list.length
  | first :: earlier, second :: list =>
    if first = second then lengthAfter earlier list else list.length + 1

/-- The size of a tree of byte ranges that are given in ascending order. -/
def treeSize : (before : List Range) → List (List Range) → Nat
  | _, [] => 0
  | before, ranges :: rest => 32 * lengthAfter before ranges + 4 + treeSize ranges rest

/-! ## Classes -/

/-- Put a number into an ascending list. -/
def insertAscending (n : Nat) : List Nat → List Nat
  | [] => [n]
  | first :: rest =>
    if n ≤ first then n :: first :: rest else first :: insertAscending n rest

/-- Put the next lower code point of a set before the ranges of the higher ones. -/
def addPoint (point : Nat) : List Range → List Range
  | [] => [(point, point)]
  | (first, last) :: rest =>
    if first = point + 1 then (point, last) :: rest else (point, point) :: (first, last) :: rest

/-- The ranges of a set below a code point, before those of the higher ones. -/
def rangesBelow (accepts : CharSet) : (point : Nat) → List Range → List Range
  | 0, ranges => ranges
  | point + 1, ranges =>
    rangesBelow accepts point
      (if point.isValidChar && accepts (Char.ofNat point) then addPoint point ranges else ranges)

/-- The size of a class with the given ranges in ascending order. -/
def sizeOfRanges (ranges : List Range) : Nat :=
  if ranges.all fun range => range.2 < 128 then 64 + 8 * ranges.length
  else 64 + (List.range 4).foldl (fun total following =>
    total + treeSize [] (byteRanges following ranges)) 0

/-- The size of a set of characters, which takes a look at all of them. -/
def sizeOfSet (accepts : CharSet) : Nat :=
  sizeOfRanges (rangesBelow accepts 0x110000 [])

/-- The size of one of a few characters. -/
def sizeOfCharacters : List Char → Nat
  | [c] => 32 * c.utf8Size
  | characters =>
    let points := characters.foldr (fun c points => insertAscending c.toNat points) []
    sizeOfRanges (points.map fun point => (point, point))

/-! ## Expressions -/

namespace Expression

/-- The size of an expression, given those of its characters and of its classes. -/
def size (ofCharacters : List Char → Nat) (ofSet : CharSet → Nat) : Expression → Nat
  | empty => 32
  | oneOf characters => ofCharacters characters
  | chars accepts => ofSet accepts
  | assertion _ => 32
  | sequence first second => first.size ofCharacters ofSet + second.size ofCharacters ofSet
  | alternative left right => left.size ofCharacters ofSet + right.size ofCharacters ofSet + 40
  | repeated body least most =>
    let once := body.size ofCharacters ofSet
    match most with
    | none => max least 1 * once + 64
    | some most => least * once + (most - least) * (once + 40)

/-- The greatest size that is taken. -/
def sizeLimit : Nat := 10485760

/-- Whether an expression is not too large. What it reads is measured only if it is too large with 64
kilobytes for each character and each class, which is more than any character or any class with a
name takes. -/
def fits (expression : Expression) : Bool :=
  expression.size (fun _ => 65536) (fun _ => 65536) ≤ sizeLimit
    || expression.size sizeOfCharacters sizeOfSet ≤ sizeLimit

end Expression

end Songbook.RegexEngine
