import Songbook.Query.Quantity
import Songbook.Record

/-!
# Numeric comparisons

A comparison holds the number of a tag against a threshold, both rounded to hundredths. Some tags
hold instants, but a question about them says how long ago: `lastplayed < 2 days` asks for songs
played within the last two days. A duration against such a tag therefore becomes the instant that
long before now, and the order turns round.
-/

namespace Songbook

/-- How two numbers are compared. -/
inductive Comparator where
  | greater
  | less
  | equal
  | greaterEqual
  | lessEqual
  | notEqual
  deriving DecidableEq, Repr

namespace Comparator

/-- The operator as it is written. -/
def symbol : Comparator → String
  | greater => ">"
  | less => "<"
  | equal => "="
  | greaterEqual => ">="
  | lessEqual => "<="
  | notEqual => "!="

/-- The comparator of an operator. -/
def ofSymbol? (text : String) : Option Comparator :=
  [greater, less, equal, greaterEqual, lessEqual, notEqual].find? fun comparator =>
    comparator.symbol = text

/-- The comparator with its order turned round. -/
def inverted : Comparator → Comparator
  | greater => less
  | less => greater
  | greaterEqual => lessEqual
  | lessEqual => greaterEqual
  | equal => equal
  | notEqual => notEqual

/-- Whether two numbers compare so. A number that is none differs from everything. -/
def holds (comparator : Comparator) (left right : Binary64) : Bool :=
  let order := left.compare? right
  match comparator with
  | greater => order = some .gt
  | less => order = some .lt
  | equal => order = some .eq
  | greaterEqual => order = some .gt || order = some .eq
  | lessEqual => order = some .lt || order = some .eq
  | notEqual => order != some .eq

end Comparator

/-- A comparison of a tag's number with a threshold. -/
structure Comparison where
  tag : String
  comparator : Comparator
  threshold : Binary64
  deriving DecidableEq, Repr

namespace Comparison

/-- The tags whose numbers are instants. -/
def timeTags : List String :=
  ["added", "mtime", "lastplayed", "laststarted"]

/-- The name that a comparison looks up: in lower case, without `~#` or `#` in front. -/
def tagName (tag : String) : String :=
  let name := Unicode.lowercase (Text.trim tag.toList)
  match name with
  | '~' :: '#' :: rest => String.ofList rest
  | '#' :: rest => String.ofList rest
  | _ => String.ofList name

/-- A number rounded to hundredths. -/
def hundredths (x : Binary64) : Binary64 :=
  (x * 100).round / 100

/-- The comparison of a tag with a quantity at an instant. -/
def ofQuantity (tag : String) (comparator : Comparator) (quantity : Quantity) (raw : String)
    (now : Binary64) : Except ComparisonError Comparison :=
  if timeTags.contains tag then
    match quantity with
    | .duration ago =>
      .ok { tag, comparator := comparator.inverted, threshold := hundredths (now - ago) }
    | .instant moment => .ok { tag, comparator, threshold := hundredths moment }
    | .number _ => .error (.timeValueRequired tag (Text.trimmed raw))
    | .size _ => .error (.timeValueRequired tag (Text.trimmed raw))
  else .ok { tag, comparator, threshold := hundredths quantity.value }

/-- Read a comparison from its tag, its operator and its value. -/
def read (tag operator raw : String) (now : Binary64) : Except ComparisonError Comparison :=
  match Comparator.ofSymbol? (Text.trimmed operator) with
  | none => .error (.unknownOperator (Text.trimmed operator))
  | some comparator =>
    match Quantity.read raw now with
    | .error error => .error error
    | .ok quantity => ofQuantity (tagName tag) comparator quantity raw now

/-- Whether the number of a record compares so. A record without the number does not. -/
def holds (comparison : Comparison) (record : Record) : Bool :=
  match record.numeric? comparison.tag with
  | none => false
  | some actual => comparison.comparator.holds (hundredths actual) comparison.threshold

end Comparison

end Songbook
