import Songbook.CommandLine.Arguments
import Songbook.RegexEngine.Library
import Songbook.SongFile.Json

/-!
# The tool

Where everything that the commands leave open comes together: the engine for regular expressions, the
decoder for song files, and the reader of the arguments.
-/

namespace Songbook.CommandLine

/-- Run the tool on its arguments. -/
def run (arguments : List String) (environment : Environment) (now : Binary64)
    (read : String → Except ReadFailure String) : Outcome :=
  conclude environment now read (Arguments.read arguments)

end Songbook.CommandLine
