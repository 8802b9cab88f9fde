import Songbook.Dialect.Brackets
import Songbook.Dialect.Markup
import Songbook.Path

/-!
# Dialects

A dialect says how tag values are rendered before they are put into the output. Literal text of a
pattern is never rendered.
-/

namespace Songbook

/-- The kinds of output a pattern can have. -/
inductive Dialect where
  | plain
  | path
  | markup
  | bracketMarkup
  deriving DecidableEq, Repr, Inhabited

namespace Dialect

/-- Every dialect. -/
def all : List Dialect :=
  [plain, path, markup, bracketMarkup]

/-- The name of a dialect. -/
def name : Dialect → String
  | plain => "plain"
  | path => "path"
  | markup => "markup"
  | bracketMarkup => "bracket-markup"

/-- The dialect of a name; ASCII case and blanks around it do not matter. -/
def ofName? (text : String) : Option Dialect :=
  let wanted := String.ofList ((Text.trim text.toList).map Char.toLower)
  all.find? fun dialect => dialect.name = wanted

/-- A pattern as it is read in a dialect. -/
def preprocess (dialect : Dialect) (source : String) : String :=
  match dialect with
  | bracketMarkup => String.ofList (Brackets.toPattern source.toList)
  | _ => source

/-- A tag value as it is shown in a dialect. -/
def formatValue (dialect : Dialect) (tag value : String) : String :=
  match dialect with
  | plain => value
  | path => Path.formatValue tag value
  | markup => String.ofList (Markup.escape value.toList)
  | bracketMarkup => String.ofList (Markup.escape value.toList)

end Dialect

end Songbook
