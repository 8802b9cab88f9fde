import Songbook.Formatter
import Songbook.Settings

/-!
# Formatter caches

A cache keeps the formatters it compiled, by dialect and pattern, so that a pattern used again gives
the very same formatter. When a full cache has to take another one, it is emptied first. A formatter
keeps the settings it was compiled under, whatever happens to the cache or to the settings later.

Formatters are told apart by the order in which a cache compiled them: two answers are the same shared
formatter when their serial numbers agree.
-/

namespace Songbook

/-- A formatter that a cache handed out, with its place in the order of compilation. -/
structure SharedFormatter where
  serial : Nat
  formatter : Formatter

/-- A cache of formatters. -/
structure FormatterCache where
  capacity : Nat
  entries : List ((Dialect × String) × SharedFormatter) := []
  compiled : Nat := 0

namespace FormatterCache

/-- An empty cache, which can keep at least one formatter. -/
def ofCapacity (capacity : Nat) : FormatterCache where
  capacity := max capacity 1

/-- An empty cache of the capacity that the settings ask for. -/
def ofSettings (settings : Settings) : FormatterCache :=
  ofCapacity settings.cacheCapacity

/-- The number of formatters kept. -/
def size (cache : FormatterCache) : Nat :=
  cache.entries.length

/-- Whether nothing is kept. -/
def isEmpty (cache : FormatterCache) : Bool :=
  cache.entries.isEmpty

/-- Keep nothing. -/
def clear (cache : FormatterCache) : FormatterCache :=
  { cache with entries := [] }

/-- The formatter kept for a pattern. -/
def get? (cache : FormatterCache) (dialect : Dialect) (source : String) : Option SharedFormatter :=
  cache.entries.lookup (dialect, source)

/-- Keep a formatter that was just compiled, emptying a full cache first. -/
def insert (cache : FormatterCache) (formatter : Formatter) : SharedFormatter × FormatterCache :=
  let shared : SharedFormatter := { serial := cache.compiled, formatter }
  let kept := if cache.capacity ≤ cache.size then [] else cache.entries
  (shared,
    { cache with
      entries := ((formatter.dialect, formatter.source), shared) :: kept
      compiled := cache.compiled + 1 })

/-- The formatter of a pattern: the one that is kept, or else one compiled under the given settings.
A pattern that does not compile leaves the cache as it was. -/
def getOrCompile [RegexLibrary] (cache : FormatterCache) (settings : Settings) (now : Binary64)
    (dialect : Dialect) (source : String) :
    Except PatternError SharedFormatter × FormatterCache :=
  match cache.get? dialect source with
  | some shared => (.ok shared, cache)
  | none =>
    match Formatter.compile source dialect settings.path now with
    | .error error => (.error error, cache)
    | .ok formatter =>
      let (shared, cache) := cache.insert formatter
      (.ok shared, cache)

end FormatterCache

end Songbook
