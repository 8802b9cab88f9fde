import Songbook.Dialect
import Songbook.Pattern.Parser
import Songbook.Pattern.Program

/-!
# Formatters

A formatter is a compiled pattern together with its dialect and the settings of path output, both
fixed when it is made. It shows a record as one text, or as the set of all texts that a choice of one
value for each reference to a tag of several values gives.

A path pattern is tried out on the sample record when it is compiled, so that a pattern whose paths
are never absolute is refused early. A pattern that passes may still show a relative path for some
record, and only `tryFormat` checks that.
-/

namespace Songbook

/-- Why a pattern is refused, or a path that it shows. -/
inductive PatternError where
  | danglingEscape (position : Nat)
  | notRooted (output : String)
  | homeUnavailable (output : String)
  | unknownDialect (name : String)
  deriving DecidableEq, Repr

/-- What the message of a refusal says. -/
def PatternError.message : PatternError → String
  | danglingEscape position => s!"dangling escape character at byte {position} (zero-based)"
  | notRooted output => s!"pattern output `{output}` is not rooted"
  | homeUnavailable output => s!"pattern output `{output}` starts at `~` but HOME is not set"
  | unknownDialect name => s!"unknown pattern dialect `{name}`"

/-- Read the name of a dialect. -/
def Dialect.read (name : String) : Except PatternError Dialect :=
  match ofName? name with
  | some dialect => .ok dialect
  | none => .error (.unknownDialect name)

/-- A compiled pattern. -/
structure Formatter where
  source : String
  dialect : Dialect
  tags : List String
  settings : Path.Settings
  program : Pattern.Program

namespace Formatter

open Pattern

/-- The text of a piece of output. -/
def pieceText (dialect : Dialect) : Piece String → String
  | .literal text => text
  | .value name content => dialect.formatValue name content

/-- The texts that a piece of output can have: one for each value, and nothing if there is none. -/
def pieceChoices (dialect : Dialect) : Piece (List String) → List String
  | .literal text => [text]
  | .value _ [] => [""]
  | .value name contents => contents.map (dialect.formatValue name)

/-- Follow every text by every choice of the next piece. -/
def extendAll (texts choices : List String) : List String :=
  choices.flatMap fun choice => texts.map fun text => text ++ choice

/-- Every text that a choice for each piece gives. -/
def combinations (dialect : Dialect) (pieces : List (Piece (List String))) : List String :=
  (pieces.map (pieceChoices dialect)).foldl extendAll [""]

/-- Leave out elements equal to the one before them. -/
def dropRepeats : List String → List String
  | [] => []
  | text :: rest =>
    match dropRepeats rest with
    | [] => [text]
    | next :: more => if text = next then next :: more else text :: next :: more

/-- The elements of a list without repetition, in code point order. -/
def sortedSet (texts : List String) : List String :=
  dropRepeats (texts.mergeSort fun left right => !decide (right < left))

/-- The output of a dialect from what a program shows. -/
def finish (formatter : Formatter) (record : Record) (output : String) : String :=
  match formatter.dialect with
  | .path => Path.finish formatter.settings record output
  | _ => output

section Library

variable [RegexLibrary]

/-- What the program shows for a record, before the dialect finishes it. -/
def rawOutput (formatter : Formatter) (record : Record) : String :=
  String.join ((formatter.program.pieces (.text record)).map (pieceText formatter.dialect))

/-- Show a record as one text. -/
def format (formatter : Formatter) (record : Record) : String :=
  formatter.finish record (formatter.rawOutput record)

/-- Show a record as the set of all its texts, in code point order. -/
def formatAll (formatter : Formatter) (record : Record) : List String :=
  sortedSet ((combinations formatter.dialect (formatter.program.pieces (.values record))).map
    (formatter.finish record))

/-- Show a record as one text, refusing a path that is not absolute. -/
def tryFormat (formatter : Formatter) (record : Record) : Except PatternError String :=
  let output := formatter.format record
  if formatter.dialect != .path then .ok output
  else if Path.isUnexpandedHome output then .error (.homeUnavailable output)
  else if Path.isUnrooted output formatter.source then .error (.notRooted output)
  else .ok output

/-- The formatter of a tree, before it is tried out. -/
def ofTree (source : String) (dialect : Dialect) (settings : Path.Settings) (now : Binary64)
    (nodes : List Node) : Formatter :=
  let queries := queryOf? now
  { source, dialect, settings
    tags := referencedTags queries nodes
    program := Pattern.compile queries nodes }

/-- Compile a pattern. `now` is the instant that the queries in it refer to. -/
def compile (source : String) (dialect : Dialect) (settings : Path.Settings) (now : Binary64) :
    Except PatternError Formatter :=
  match Pattern.parse (dialect.preprocess source) with
  | .error position => .error (.danglingEscape position)
  | .ok nodes =>
    let formatter := ofTree source dialect settings now nodes
    match formatter.tryFormat .sample with
    | .error error => .error error
    | .ok _ => .ok formatter

end Library

end Formatter

end Songbook
