import Songbook.CommandLine.Config

/-!
# Runs of the tool

A run has a request, reads the configuration, and then carries out the command. Arguments or a
configuration that cannot be read end it with status 2, a command that fails with status 1. The output
is what the command has written, whether or not it fails.
-/

namespace Songbook.CommandLine

/-- What a run is asked to do. -/
structure Request where
  logLevel : Option LogLevel
  cacheCapacity : Option Nat
  command : Command
  deriving DecidableEq, Repr

/-- Why reading the arguments ends without a command. -/
inductive Stop where
  | usage
  | help
  | version
  deriving DecidableEq, Repr

/-- How a run ends. -/
structure Outcome where
  status : Nat
  output : String := ""
  complaint : String := ""
  deriving DecidableEq, Repr

/-- What is shown for `--version`. -/
def versionText : String := "songpat 0.1.0\n"

/-- What is shown for `--help`. -/
def helpText : String :=
  "Usage: songpat [--log-level LEVEL] [--cache-capacity COUNT] COMMAND\n\n" ++
  "Commands:\n" ++
  "  format PATTERN SONGS [--dialect DIALECT]\n" ++
  "  combinations PATTERN SONGS [--dialect DIALECT]\n" ++
  "  filter QUERY SONGS [--pattern PATTERN]\n" ++
  "  tags PATTERN\n"

/-- The end of a run that fails. -/
def failure (status : Nat) (error : CommandError) : Outcome where
  status
  complaint := (error.message?.getD "invalid input") ++ "\n"

/-- Carry out a request. -/
def execute [RegexLibrary] [SongFile.Decoder] (environment : Environment) (now : Binary64)
    (read : String → Except ReadFailure String) (request : Request) : Outcome :=
  match Config.ofEnvironment environment with
  | .error error => failure 2 error
  | .ok config =>
    let settings :=
      (config.override request.logLevel request.cacheCapacity).apply { environment }
    let (ending, written) := request.command.outcome { settings, now, read }
    let output := Command.linesText written
    match ending with
    | .error error => { failure 1 error with output }
    | .ok () => { status := 0, output }

/-- End a run for which the arguments give a request or a reason to stop. -/
def conclude [RegexLibrary] [SongFile.Decoder] (environment : Environment) (now : Binary64)
    (read : String → Except ReadFailure String) : Except Stop Request → Outcome
  | .error .usage => { status := 2, complaint := helpText }
  | .error .help => { status := 0, output := helpText }
  | .error .version => { status := 0, output := versionText }
  | .ok request => execute environment now read request

end Songbook.CommandLine
