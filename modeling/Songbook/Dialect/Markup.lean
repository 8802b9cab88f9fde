/-!
# Markup

The five characters that markup gives a meaning are written as entities. Everything else, blanks and
line ends included, stands for itself.
-/

namespace Songbook.Markup

/-- A character as markup text. -/
def escapeChar (c : Char) : List Char :=
  if c = '&' then "&amp;".toList
  else if c = '<' then "&lt;".toList
  else if c = '>' then "&gt;".toList
  else if c = '"' then "&quot;".toList
  else if c = '\'' then "&#39;".toList
  else [c]

/-- A text as markup text. -/
def escape (text : List Char) : List Char :=
  text.flatMap escapeChar

end Songbook.Markup
