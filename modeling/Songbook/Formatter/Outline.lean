import Songbook.Formatter

/-!
# Outlines of formatters

A formatter can be described on one line: its source, dialect, tags and settings, and the size of its
program, once as it runs for one text and once as it runs for all combinations. Texts are quoted: a
quote, a backslash and a tab or line end get a backslash, and characters that do not print, or that
would combine with the one before them, are written by their code point.
-/

namespace Songbook.Outline

open Unicode

/-- A number in hexadecimal digits. -/
def hexText (n : Nat) : String :=
  String.ofList (Nat.toDigits 16 n)

/-- Whether a character prints as it is. -/
def isPrintable (c : Char) : Bool :=
  c = ' ' || !(GeneralCategory.others ++ GeneralCategory.separators).contains
    (GeneralCategory.ofChar c)

/-- A character inside quotes. -/
def quotedChar (c : Char) : String :=
  if c = '"' then "\\\""
  else if c = '\\' then "\\\\"
  else if c = '\n' then "\\n"
  else if c = '\t' then "\\t"
  else if c = '\r' then "\\r"
  else if c.toNat = 0 then "\\0"
  else if isPrintable c && !Property.isGraphemeExtend c then String.ofList [c]
  else "\\u\x7b" ++ hexText c.toNat ++ "\x7d"

/-- A text in quotes. -/
def quoted (text : String) : String :=
  "\"" ++ String.join (text.toList.map quotedChar) ++ "\""

/-- The name of a dialect in an outline. -/
def dialectName : Dialect → String
  | .plain => "Plain"
  | .path => "Path"
  | .markup => "Markup"
  | .bracketMarkup => "BracketMarkup"

/-- A record of named parts. -/
def fields (name : String) (parts : List (String × String)) : String :=
  name ++ " \x7b " ++ String.intercalate ", " (parts.map fun part => part.1 ++ ": " ++ part.2)
    ++ " \x7d"

/-- The outline of settings. -/
def ofSettings (settings : Path.Settings) : String :=
  fields "PathSettings"
    [("segment_limit", toString settings.segmentLimit),
      ("home", match settings.home with
        | none => "None"
        | some home => "Some(" ++ quoted home ++ ")")]

/-- The outline of a program: how many steps it has outside all branches, and its slots. -/
def ofProgram (program : Pattern.Program) : String :=
  fields "Program"
    [("steps", toString program.steps.length), ("slots", toString program.slots)]

/-- The outline of a formatter. -/
def ofFormatter (formatter : Formatter) : String :=
  fields "Formatter"
    [("source", quoted formatter.source),
      ("dialect", dialectName formatter.dialect),
      ("tags", "[" ++ String.intercalate ", " (formatter.tags.map quoted) ++ "]"),
      ("path", ofSettings formatter.settings),
      ("scalar", ofProgram formatter.program),
      ("list", ofProgram formatter.program)]

end Songbook.Outline
