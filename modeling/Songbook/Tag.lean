import Songbook.Text

/-!
# Tag names

A tag is a name such as `artist`. A `~` in front marks a synthetic tag, whose value a record computes
instead of storing it, and `~#` marks a numeric one. A `~` anywhere after the first character ties
several tags together: `~artist~title` asks for the artist and the title.

Any text is a tag name; nothing here checks that a record knows it.
-/

namespace Songbook.Tag

/-- The character that starts synthetic names and separates tied ones. -/
def sigil : Char := '~'

/-- What numeric names start with. -/
def numericMark : List Char := ['~', '#']

/-- What is written between the values of tied tags. -/
def tiedJoin : String := " - "

/-- Whether a name ties several tags together. -/
def isTied (tag : String) : Bool :=
  (tag.toList.drop 1).contains sigil

/-- Whether a name is that of a synthetic tag. -/
def isSynthetic (tag : String) : Bool :=
  tag.toList.head? = some sigil

/-- The name after the mark of a numeric tag, if the tag is numeric. -/
def numericName? (tag : String) : Option String :=
  (numericMark.isPrefixOf? tag.toList).map String.ofList

/-- The name of a tag without the numeric mark. -/
def plainName (tag : String) : String :=
  (numericName? tag).getD tag

/-- The name under which the number of a tag is stored. -/
def numericTag (name : String) : String :=
  String.ofList (numericMark ++ name.toList)

/-- A part of a tied name as a name of its own: a part that starts with `#` is numeric. -/
def partName (part : List Char) : String :=
  if part.head? = some '#' then String.ofList (sigil :: part) else String.ofList part

/-- The names that a tied name ties together; any other name by itself. -/
def split (tag : String) : List String :=
  if isTied tag then
    let name := if isSynthetic tag then tag.toList.drop 1 else tag.toList
    ((name.splitOn sigil).filter fun part => !part.isEmpty).map partName
  else [tag]

end Songbook.Tag
