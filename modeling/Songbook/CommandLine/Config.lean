import Songbook.Command

/-!
# Configuration of a run

How much is logged, and how many formatters the cache keeps. The environment gives the log level, and
options of the command line win over it. Nothing is logged here; the level is only read and shown.
-/

namespace Songbook

/-- How much is logged, from most to least. -/
inductive LogLevel where
  | trace
  | debug
  | info
  | warn
  | error
  deriving DecidableEq, Repr

namespace LogLevel

/-- The name of a level. -/
def name : LogLevel → String
  | trace => "trace"
  | debug => "debug"
  | info => "info"
  | warn => "warn"
  | error => "error"

/-- The level of a name; case and blanks around it do not matter. -/
def ofName? (text : String) : Option LogLevel :=
  let wanted := String.ofList (Unicode.lowercase (Text.trim text.toList))
  if wanted = "warning" then some warn
  else [trace, debug, info, warn, error].find? fun level => level.name = wanted

/-- Read the name of a level. -/
def read (text : String) : Except CommandError LogLevel :=
  match ofName? text with
  | some level => .ok level
  | none => .error (.unknownLogLevel text)

end LogLevel

/-- The configuration of a run. Without a capacity the settings keep theirs. -/
structure Config where
  logLevel : LogLevel := .warn
  cacheCapacity : Option Nat := none
  deriving DecidableEq, Repr

namespace Config

/-- The configuration that the environment asks for. -/
def ofEnvironment (environment : Environment) : Except CommandError Config :=
  match environment.logLevel with
  | none => .ok {}
  | some text => (LogLevel.read text).map fun logLevel => { logLevel }

/-- Let options that are given win. -/
def override (config : Config) (logLevel : Option LogLevel) (cacheCapacity : Option Nat) :
    Config where
  logLevel := logLevel.getD config.logLevel
  cacheCapacity := cacheCapacity <|> config.cacheCapacity

/-- Set the log level. -/
def withLogLevel (config : Config) (logLevel : LogLevel) : Config :=
  { config with logLevel }

/-- Pass the capacity on to the settings, if there is one. -/
def apply (config : Config) (settings : Settings) : Settings :=
  match config.cacheCapacity with
  | none => settings
  | some count => settings.setCacheCapacity count

end Config

end Songbook
