import Songbook.Unicode.CaseMapping

/-!
# Trees of regular expressions

The tree of a regular expression after its flags have been resolved. Groups leave no trace in it, and
neither does the preference between a greedy and a lazy repetition: the engine only tells whether an
expression matches somewhere in a text.
-/

namespace Songbook.RegexEngine

/-- A set of characters. -/
abbrev CharSet := Char → Bool

/-- Characters of words: letters, marks, decimal digits, connectors and joiners. -/
def isWordChar (c : Char) : Bool :=
  if c.toNat < 128 then c.isAlphanum || c = '_'
  else Unicode.Property.isAlphabetic c
    || [.nonspacingMark, .spacingMark, .enclosingMark, .decimalNumber,
        .connectorPunctuation].contains (Unicode.GeneralCategory.ofChar c)
    || c.toNat = 0x200C || c.toNat = 0x200D

/-- Word characters among the first 128 code points. -/
def isAsciiWordChar (c : Char) : Bool :=
  c.isAlphanum || c = '_'

/-- A condition on a place in a text that reads no character. -/
inductive Assertion where
  | textStart
  | textEnd
  | lineStart
  | lineEnd
  /-- A line start where `\r\n` counts as one line end, and `\r` alone as another. -/
  | crlfLineStart
  | crlfLineEnd
  | wordBoundary (isWord : CharSet)
  | notWordBoundary (isWord : CharSet)
  | wordStart (isWord : CharSet)
  | wordEnd (isWord : CharSet)
  | wordStartHalf (isWord : CharSet)
  | wordEndHalf (isWord : CharSet)

/-- Whether the assertion holds between the character before a place and the one after it. -/
def Assertion.holds (assertion : Assertion) (before after : Option Char) : Bool :=
  let within (isWord : CharSet) (c : Option Char) : Bool := (c.map isWord).getD false
  match assertion with
  | textStart => before.isNone
  | textEnd => after.isNone
  | lineStart => before.isNone || before = some '\n'
  | lineEnd => after.isNone || after = some '\n'
  | crlfLineStart =>
    before.isNone || before = some '\n' || (before = some '\r' && after != some '\n')
  | crlfLineEnd =>
    after.isNone || after = some '\r' || (after = some '\n' && before != some '\r')
  | wordBoundary isWord => within isWord before != within isWord after
  | notWordBoundary isWord => within isWord before == within isWord after
  | wordStart isWord => !within isWord before && within isWord after
  | wordEnd isWord => within isWord before && !within isWord after
  | wordStartHalf isWord => !within isWord before
  | wordEndHalf isWord => !within isWord after

/-- A regular expression. -/
inductive Expression where
  | empty
  /-- One of a few characters. -/
  | oneOf (characters : List Char)
  /-- One character of a class. -/
  | chars (accepts : CharSet)
  | assertion (condition : Assertion)
  | sequence (first second : Expression)
  | alternative (left right : Expression)
  | repeated (body : Expression) (least : Nat) (most : Option Nat)

namespace Expression

/-- The expressions of a list one after the other. -/
def sequenceOf : List Expression → Expression
  | [] => empty
  | [expression] => expression
  | expression :: rest => sequence expression (sequenceOf rest)

/-- One of the expressions of a nonempty list; the empty expression for an empty list. -/
def alternativeOf : List Expression → Expression
  | [] => empty
  | [expression] => expression
  | expression :: rest => alternative expression (alternativeOf rest)

/-- Whether an expression can only match where it reads no character. -/
def readsNothing : Expression → Bool
  | empty => true
  | oneOf _ => false
  | chars _ => false
  | assertion _ => true
  | sequence first second => first.readsNothing && second.readsNothing
  | alternative left right => left.readsNothing && right.readsNothing
  | repeated body _ most => most = some 0 || body.readsNothing

/-! ## Matching

A set of places in a text is an ascending list of positions, so that a match is followed from all of
its places at once. -/

/-- The union of two sets of places. -/
def union : List Nat → List Nat → List Nat
  | [], right => right
  | left, [] => left
  | first :: left, second :: right =>
    if first < second then first :: union left (second :: right)
    else if second < first then second :: union (first :: left) right
    else first :: union left right
termination_by left right => left.length + right.length

/-- The places of one set that another does not have. -/
def difference : List Nat → List Nat → List Nat
  | [], _ => []
  | left, [] => left
  | first :: left, second :: right =>
    if first < second then first :: difference left (second :: right)
    else if second < first then difference (first :: left) right
    else difference left right
termination_by left right => left.length + right.length

/-- The places reached by exactly `n` steps. -/
def stepExactly (step : List Nat → List Nat) : (n : Nat) → List Nat → List Nat
  | 0, places => places
  | _ + 1, [] => []
  | n + 1, places => stepExactly step n (step places)

/-- The places reached by at most `n` steps. `reached` are those found before, and `latest` are
those the last step found. -/
def stepUpTo (step : List Nat → List Nat) : (n : Nat) → (reached latest : List Nat) → List Nat
  | 0, reached, _ => reached
  | _ + 1, reached, [] => reached
  | n + 1, reached, latest =>
    let found := difference (step latest) reached
    stepUpTo step n (union reached found) found

/-- The character before a place. -/
def before? (text : Array Char) (place : Nat) : Option Char :=
  if place = 0 then none else text[place - 1]?

/-- The places after those where a character of a set stands. -/
def placesAfter (text : Array Char) (accepts : CharSet) (starts : List Nat) : List Nat :=
  (starts.filter fun place => (text[place]?.map accepts).getD false).map (· + 1)

/-- The places where a match that starts at one of the given places can end. Each further repetition
that counts reaches a new place, so an open repetition takes at most as many as the text has
places. -/
def ends (text : Array Char) : Expression → List Nat → List Nat
  | empty, starts => starts
  | oneOf characters, starts => placesAfter text characters.contains starts
  | chars accepts, starts => placesAfter text accepts starts
  | assertion condition, starts =>
    starts.filter fun place => condition.holds (before? text place) text[place]?
  | sequence first second, starts => ends text second (ends text first starts)
  | alternative left right, starts => union (ends text left starts) (ends text right starts)
  | repeated body least most, starts =>
    let needed := stepExactly (ends text body) least starts
    let places := text.size + 1
    let further := match most with
      | none => places
      | some most => min (most - least) places
    stepUpTo (ends text body) further needed needed

/-- Whether the expression matches somewhere in a text. -/
def matchesText (expression : Expression) (text : List Char) : Bool :=
  let characters := text.toArray
  !(expression.ends characters (List.range (characters.size + 1))).isEmpty

end Expression

end Songbook.RegexEngine
