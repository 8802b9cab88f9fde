import Songbook.Text

/-!
# Why a query is refused

A query fails on its shape, on a regular expression, or on a comparison whose operator, number or
unit cannot be read. Each cause carries the texts that its message names.
-/

namespace Songbook

/-- Why a comparison is refused. -/
inductive ComparisonError where
  | unknownOperator (operator : String)
  | unknownUnit (unit value : String)
  | timeValueRequired (tag value : String)
  | invalidNumber (value : String)
  deriving DecidableEq, Repr

/-- What the message of a refused comparison says. -/
def ComparisonError.message : ComparisonError → String
  | unknownOperator operator => s!"unknown comparison operator `{operator}`"
  | unknownUnit unit value => s!"unknown unit `{unit}` in `{value}`"
  | timeValueRequired tag value => s!"`{tag}` holds a timestamp; `{value}` needs a duration unit"
  | invalidNumber value => s!"invalid numeric value `{value}`"

/-- What the shape of a query lacks. -/
inductive SyntaxFault where
  | nestedTooDeeply
  | missingParenthesis
  | expectedSeparator
  | missingClosing (delimiter : Char)
  | expectedValue (found : Option Char)
  | unknownFlag (flag : Char)
  | expectedTag
  | expectedOperator
  deriving DecidableEq, Repr

/-- The reason that the message of a misshapen query gives. -/
def SyntaxFault.reason : SyntaxFault → String
  | nestedTooDeeply => "query nested too deeply"
  | missingParenthesis => "missing ')'"
  | expectedSeparator => "expected ',' or ')'"
  | missingClosing delimiter => s!"missing closing '{delimiter}'"
  | expectedValue none => "expected a value"
  | expectedValue (some found) => s!"expected a value but found '{found}'"
  | unknownFlag flag => s!"unknown match flag '{flag}'"
  | expectedTag => "expected a tag name"
  | expectedOperator => "expected a comparison operator"

/-- Why a query is refused. The offset of a fault counts the bytes before it. -/
inductive QueryError where
  | malformed (offset : Nat) (fault : SyntaxFault)
  | invalidRegex
  | comparison (error : ComparisonError)
  deriving DecidableEq, Repr

/-- What the message of a refused query says. A refused regular expression gives no reason. -/
def QueryError.message? : QueryError → Option String
  | malformed offset fault => some s!"invalid query at byte {offset}: {fault.reason}"
  | invalidRegex => none
  | comparison error => some error.message

end Songbook
