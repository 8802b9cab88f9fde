/-!
# Regular expressions

Queries leave regular expressions to a library, which decides what sources it takes, looks for what
they match, and escapes texts. Nothing here depends on how it does so: the library is an instance
that every use refers to.
-/

namespace Songbook

/-- A regular expression: its source, and whether it ignores case. -/
structure Regex where
  source : String
  ignoreCase : Bool
  deriving DecidableEq, Repr

/-- A library of regular expressions. -/
class RegexLibrary where
  /-- Whether the library takes an expression. -/
  builds : Regex → Bool
  /-- Whether an expression matches somewhere in a text. -/
  finds : Regex → List Char → Bool
  /-- The source that stands for a text as it is. -/
  escape : List Char → List Char

/-- Build the expression of a source. -/
def Regex.parse? [RegexLibrary] (source : String) (ignoreCase : Bool) : Option Regex :=
  let regex : Regex := { source, ignoreCase }
  if RegexLibrary.builds regex then some regex else none

end Songbook
