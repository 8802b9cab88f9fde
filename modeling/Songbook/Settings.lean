import Songbook.Path

/-!
# Settings

Two limits can be tuned: how many formatters a cache keeps, and how many bytes a path segment may
have. A limit that was set in the program wins over the environment, and the environment over the
default. A text in the environment that is no positive count says nothing.
-/

namespace Songbook

/-- The environment variables that matter, where they are set. -/
structure Environment where
  home : Option String := none
  cacheCapacity : Option String := none
  segmentLimit : Option String := none
  logLevel : Option String := none
  deriving DecidableEq, Repr

/-- The environment and the limits set in the program. -/
structure Settings where
  environment : Environment := {}
  cacheOverride : Option Nat := none
  segmentOverride : Option Nat := none
  deriving DecidableEq, Repr

namespace Settings

/-- How many formatters a cache keeps if nothing else is said. -/
def defaultCacheCapacity : Nat := 100

/-- How many bytes a path segment may have if nothing else is said. -/
def defaultSegmentLimit : Nat := 255

/-- A positive count given as a text, with blanks around it ignored. -/
def readCount? (text : String) : Option Nat :=
  (Integer.readCount? (Text.trim text.toList)).filter fun count => 0 < count

/-- The number of formatters that a cache keeps. -/
def cacheCapacity (settings : Settings) : Nat :=
  (settings.cacheOverride <|> settings.environment.cacheCapacity.bind readCount?).getD
    defaultCacheCapacity

/-- The number of bytes that a path segment may have. -/
def segmentLimit (settings : Settings) : Nat :=
  (settings.segmentOverride <|> settings.environment.segmentLimit.bind readCount?).getD
    defaultSegmentLimit

/-- Set the number of formatters that a cache keeps; it keeps at least one. -/
def setCacheCapacity (settings : Settings) (count : Nat) : Settings :=
  { settings with cacheOverride := some (max count 1) }

/-- Set the number of bytes that a path segment may have; there is at least one. -/
def setSegmentLimit (settings : Settings) (count : Nat) : Settings :=
  { settings with segmentOverride := some (max count 1) }

/-- Forget the number of formatters that was set. -/
def clearCacheCapacity (settings : Settings) : Settings :=
  { settings with cacheOverride := none }

/-- Forget the number of bytes that was set. -/
def clearSegmentLimit (settings : Settings) : Settings :=
  { settings with segmentOverride := none }

/-- Set or unset the home directory. -/
def setHome (settings : Settings) (home : Option String) : Settings :=
  { settings with environment := { settings.environment with home } }

/-- The settings of path output. An empty home directory counts as unknown. -/
def path (settings : Settings) : Path.Settings where
  segmentLimit := settings.segmentLimit
  home := settings.environment.home.filter fun home => home != ""

end Settings

end Songbook
