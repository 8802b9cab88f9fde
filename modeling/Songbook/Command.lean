import Songbook.Formatter
import Songbook.Settings
import Songbook.SongFile

/-!
# Commands

What the command line tool does: format every song of a file, print all combinations, print the songs
that match a query, or list the tags of a pattern. A command is carried out line by line: what it has
written before it fails stays written. The query is read first, then the pattern, and the song file
last.

How a file is read is a parameter, so nothing here touches a file system.
-/

namespace Songbook

/-- Why the text of a file cannot be had. -/
inductive ReadFailure where
  | notFound
  | notUtf8
  | other (reason : String)
  deriving DecidableEq, Repr

/-- What is said about a file that cannot be read. -/
def ReadFailure.reason : ReadFailure → String
  | notFound => "No such file or directory (os error 2)"
  | notUtf8 => "stream did not contain valid UTF-8"
  | other reason => reason

/-- Why a command fails. -/
inductive CommandError where
  | unknownLogLevel (text : String)
  | pattern (error : PatternError)
  | query (error : QueryError)
  | unreadableSongs (path : String) (failure : ReadFailure)
  | malformedSongs (path : String)
  deriving DecidableEq, Repr

/-- What the message of a failed command says. A malformed song file gives no reason. -/
def CommandError.message? : CommandError → Option String
  | unknownLogLevel text =>
    some s!"invalid configuration: unknown log level '{text}', expected one of: trace, debug, info, warn, error"
  | pattern error => some error.message
  | query error => error.message?
  | unreadableSongs path failure => some s!"cannot read songs from {path}: {failure.reason}"
  | malformedSongs _ => none

/-- A command with its arguments. -/
inductive Command where
  | format (pattern songs : String) (dialect : Dialect)
  | combinations (pattern songs : String) (dialect : Dialect)
  | filter (query songs pattern : String)
  | tags (pattern : String)
  deriving DecidableEq, Repr

namespace Command

/-- The pattern that shows the songs of a filter if none is given. -/
def defaultFilterPattern : String := "<artist> - <title>"

/-- What a command runs under: the settings, the instant, and what reading a file gives. -/
structure Context where
  settings : Settings
  now : Binary64
  read : String → Except ReadFailure String

/-- Lines of output. -/
def linesText (lines : List String) : String :=
  String.join (lines.map fun line => line ++ "\n")

section Library

variable [RegexLibrary]

/-- Compile a pattern. -/
def compilePattern (context : Context) (pattern : String) (dialect : Dialect) :
    Except CommandError Formatter :=
  (Formatter.compile pattern dialect context.settings.path context.now).mapError .pattern

/-- Read a query. -/
def readQuery (context : Context) (query : String) : Except CommandError Predicate :=
  (Query.parse query context.now).mapError .query

/-- Load the songs of a file. -/
def loadSongs [SongFile.Decoder] (context : Context) (path : String) :
    Except CommandError (List Song) :=
  match context.read path with
  | .error failure => .error (.unreadableSongs path failure)
  | .ok text =>
    match SongFile.parse? text with
    | none => .error (.malformedSongs path)
    | some songs => .ok songs

/-- What is carried out line by line. It may fail, and the lines written before stay written. -/
abbrev Printing := ExceptT CommandError (StateM (List String))

/-- Write a line. -/
def writeLine (line : String) : Printing Unit :=
  modify (· ++ [line])

/-- Carry out a command. -/
def print [SongFile.Decoder] (context : Context) : Command → Printing Unit
  | format pattern songs dialect => do
    let formatter ← compilePattern context pattern dialect
    let songs ← loadSongs context songs
    songs.forM fun song => writeLine (formatter.format song.toRecord)
  | combinations pattern songs dialect => do
    let formatter ← compilePattern context pattern dialect
    let songs ← loadSongs context songs
    songs.forM fun song => (formatter.formatAll song.toRecord).forM writeLine
  | filter query songs pattern => do
    let predicate ← readQuery context query
    let formatter ← compilePattern context pattern .plain
    let songs ← loadSongs context songs
    (songs.filter fun song => predicate.holds song.toRecord).forM fun song =>
      writeLine (formatter.format song.toRecord)
  | tags pattern => do
    let formatter ← compilePattern context pattern .plain
    formatter.tags.forM writeLine

/-- How a command ends, and the lines that it has written by then. -/
def outcome [SongFile.Decoder] (context : Context) (command : Command) :
    Except CommandError Unit × List String :=
  (command.print context).run.run []

/-- The output of a command that does not fail. -/
def run [SongFile.Decoder] (context : Context) (command : Command) :
    Except CommandError String :=
  let (ending, written) := command.outcome context
  ending.map fun _ => linesText written

end Library

/-- The path of the song file that a command reads, if it reads one. -/
def songsPath? : Command → Option String
  | format _ songs _ => some songs
  | combinations _ songs _ => some songs
  | filter _ songs _ => some songs
  | tags _ => none

end Command

end Songbook
