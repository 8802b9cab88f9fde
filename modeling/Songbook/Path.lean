import Songbook.Number.Integer
import Songbook.Record

/-!
# Path output

Patterns can show songs as file paths. A tag value is cleaned so that it adds no directory level, and
track and disc numbers get leading zeros. The finished output takes the extension of the song's file
name, a leading `~` becomes the home directory, and segments that are too long are cut.

Paths are texts with `/` between their segments; nothing here looks at a file system.
-/

namespace Songbook.Path

/-- What path output depends on besides the record: the most bytes a segment may have, and the home
directory if it is known. -/
structure Settings where
  segmentLimit : Nat
  home : Option String
  deriving DecidableEq, Repr

/-! ## Values -/

/-- The slash and the characters that look like it. -/
def isSeparatorLike (c : Char) : Bool :=
  c = '/' || c.toNat = 0xFF0F || c.toNat = 0x2215

/-- The width that the number of a tag is filled to with zeros: that of the total after a slash for
tracks, and never less than two. -/
def numberWidth? (tag : String) (parts : List (List Char)) : Option Nat :=
  if tag = "tracknumber" then
    let total := parts[1]?.bind fun part => Integer.readSigned? (Text.trim part)
    some (max 2 ((total.map fun n => (toString n).length).getD 1))
  else if tag = "discnumber" then some 2
  else none

/-- A track or disc number with leading zeros, if the tag is one and its first part is a number. -/
def paddedNumber? (tag : String) (value : List Char) : Option (List Char) := do
  let parts := value.splitOn '/'
  let width ← numberWidth? tag parts
  let number ← Integer.readSigned? (Text.trim (parts.headD []))
  some (Integer.padded width number).toList

/-- A tag value as it stands in a path. Only the tags that hold paths keep their slashes. -/
def formatValue (tag value : String) : String :=
  if tag = "~filename" ∨ tag = "~dirname" then Text.trimmed value
  else
    let shown := (paddedNumber? tag value.toList).getD value.toList
    String.ofList (Text.trim (shown.map fun c => if isSeparatorLike c then '_' else c))

/-! ## Completion -/

/-- The last segment of a path that names a file. Empty segments and single dots do not count. -/
def fileName? (path : List Char) : Option (List Char) :=
  match ((path.splitOn '/').filter fun part => part != [] && part != ['.']).getLast? with
  | none => none
  | some name => if name = ['.', '.'] then none else some name

/-- The extension of a path: what follows the last dot of its file name, unless that dot is the first
character. -/
def extension? (path : List Char) : Option (List Char) :=
  match fileName? path with
  | none => none
  | some name =>
    if (name.drop 1).contains '.' then some (name.reverse.takeWhile (· != '.')).reverse else none

/-- The extension of a file name in lower case, with its dot. -/
def suffixOf? (filename : String) : Option (List Char) :=
  (extension? filename.toList).map fun extension => '.' :: Unicode.lowercase extension

/-- A path with an extension at its end, unless it has it there already in some case. -/
def withSuffix (path suffix : List Char) : List Char :=
  if suffix.isSuffixOf (Unicode.lowercase path) then path else path ++ suffix

/-- What follows the `~` of a path that starts at the home directory. -/
def homeRelative? : List Char → Option (List Char)
  | ['~'] => some []
  | '~' :: '/' :: rest => some ('/' :: rest)
  | _ => none

/-- A path with the home directory in place of its `~`. -/
def expandHome (home : Option String) (path : List Char) : List Char :=
  match homeRelative? path, home with
  | some rest, some home => (home.toList.reverse.dropWhile (· = '/')).reverse ++ rest
  | _, _ => path

/-- A path before the extension of its last segment, and that extension with its dot. Dots that a
segment starts with begin no extension. -/
def splitExtension (path : List Char) : List Char × List Char :=
  let name := (path.reverse.takeWhile (· != '/')).reverse
  let stem := name.dropWhile (· = '.')
  if stem.contains '.' then
    let extension := '.' :: (stem.reverse.takeWhile (· != '.')).reverse
    (path.take (path.length - extension.length), extension)
  else (path, [])

/-- A segment cut to a number of bytes, ending in two dots if anything was cut. -/
def cutSegment (budget : Nat) (segment : List Char) : List Char :=
  if Text.byteLength segment ≤ budget then segment
  else Text.takeBytes (budget - 2) segment ++ ['.', '.']

/-- The segments of a path cut to a number of bytes, the last one to another. -/
def cutSegments (limit last : Nat) : List (List Char) → List (List Char)
  | [] => []
  | [segment] => [cutSegment last segment]
  | segment :: rest => cutSegment limit segment :: cutSegments limit last rest

/-- A path with every segment cut to a number of bytes. The last one keeps its extension. -/
def limitPath (limit : Nat) (path : List Char) : List Char :=
  let (main, extension) := splitExtension path
  let segments := cutSegments limit (limit - Text.byteLength extension) (main.splitOn '/')
  ['/'].intercalate segments ++ extension

/-- Path output from what a pattern shows. Nothing shown stays nothing. -/
def finish (settings : Settings) (record : Record) (output : String) : String :=
  if output = "" then ""
  else
    let path := match suffixOf? (record.comma "~filename") with
      | some suffix => withSuffix output.toList suffix
      | none => output.toList
    String.ofList (limitPath settings.segmentLimit (expandHome settings.home path))

/-- Whether a path still starts at an unknown home directory. -/
def isUnexpandedHome (output : String) : Bool :=
  (homeRelative? output.toList).isSome

/-- Whether a path that should be absolute is not: it has directories, or its pattern starts with `/`
or `~`, but it does not start with `/`. -/
def isUnrooted (output source : String) : Bool :=
  if output = "" || output.toList.head? = some '/' then false
  else
    let start := (Text.trimStart source.toList).head?
    output.toList.contains '/' || start = some '/' || start = some '~'

end Songbook.Path
