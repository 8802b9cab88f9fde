import Songbook.Regex
import Songbook.RegexEngine.Parser

/-!
# The engine as a library

The engine takes the expressions that it can read and that are not too large.
-/

namespace Songbook.RegexEngine

/-- Read a regular expression. -/
def read? (regex : Regex) : Option Expression :=
  parseWith? { ignoreCase := regex.ignoreCase } regex.source.toList

instance library : RegexLibrary where
  builds regex := (read? regex).any Expression.fits
  finds regex text := (read? regex).any fun expression => expression.matchesText text
  escape := escapeText

end Songbook.RegexEngine
