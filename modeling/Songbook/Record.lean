import Songbook.Number.Binary64
import Songbook.Tag

/-!
# Records

What patterns and queries may ask about a song. A record is any four answers; nothing ties them to
each other, so a statement about every record covers sources of metadata other than `Song`.
-/

namespace Songbook

/-- The answers a record gives for a tag name. -/
structure Record where
  /-- The stored text of a tag, if there is one. -/
  get? : String → Option String
  /-- The text shown for a tag; empty if there is nothing to show. -/
  comma : String → String
  /-- The values of a tag one by one. -/
  list : String → List String
  /-- The number of a tag, if it has one. -/
  numeric? : String → Option Binary64

namespace Record

/-- The text shown by the sample record, which has an answer for every tag: the name itself, `1` for
a number, and a file name with its parts. -/
def sampleText (tag : String) : String :=
  if tag = "~filename" then "/dummy/dummy.mp3"
  else if tag = "~dirname" then "/dummy"
  else if tag = "~basename" then "dummy.mp3"
  else if (Tag.numericName? tag).isSome then "1"
  else tag

/-- The sample record, on which patterns are tried out. -/
def sample : Record where
  get? tag := some (sampleText tag)
  comma := sampleText
  list tag := [sampleText tag]
  numeric? _ := some 1

end Record

end Songbook
