import Songbook.Number.Clock
import Songbook.Record

/-!
# Songs

A song keeps for each tag an ordered list of texts. Numbers are stored as text under their `~#` name
and read when they are asked for. Three synthetic tags are computed: the last part of the file name,
its directory, and the length as a clock reading.
-/

namespace Songbook

/-- A song: the values of its tags, in code point order of the names, and the text written between
several values. -/
structure Song where
  fields : List (String × List String) := []
  join : String := ", "
  deriving DecidableEq, Repr

namespace Song

/-- Put what belongs to a tag into a list of fields in order, replacing what the tag had. -/
def insertField {α : Type} (tag : String) (content : α) : List (String × α) → List (String × α)
  | [] => [(tag, content)]
  | field :: rest =>
    if tag < field.1 then (tag, content) :: field :: rest
    else if tag = field.1 then (tag, content) :: rest
    else field :: insertField tag content rest

/-- The stored values of a tag. -/
def values (song : Song) (tag : String) : List String :=
  ((song.fields.find? fun field => field.1 = tag).map (·.2)).getD []

/-- The names of the stored tags. -/
def tags (song : Song) : List String :=
  song.fields.map (·.1)

/-- Replace the values of a tag. -/
def setValues (song : Song) (tag : String) (values : List String) : Song :=
  { song with fields := insertField tag values song.fields }

/-- Replace the values of a tag by one. -/
def set (song : Song) (tag value : String) : Song :=
  song.setValues tag [value]

/-- Add a value to those of a tag. -/
def add (song : Song) (tag value : String) : Song :=
  song.setValues tag (song.values tag ++ [value])

/-- The text of a number in a song: a whole number in all its digits, any other with the fewest that
read back. -/
def numberText (x : Binary64) : String :=
  match x.toInt? with
  | some n => if n = 0 && x.isNegative then "-0" else toString n
  | none => x.toText

/-- Replace the number of a tag. -/
def setNumeric (song : Song) (tag : String) (value : Binary64) : Song :=
  song.set (Tag.numericTag (Tag.plainName tag)) (numberText value)

/-- The first stored value of a tag. -/
def first? (song : Song) (tag : String) : Option String :=
  (song.values tag).head?

/-- The stored text of a tag, several values on lines of their own. -/
def get? (song : Song) (tag : String) : Option String :=
  match song.values tag with
  | [] => none
  | values => some (String.intercalate "\n" values)

/-- The number of a tag: the one stored under its `~#` name, whether or not it can be read, or else
the first part of its text, so that a track `3/12` counts as 3. -/
def numeric? (song : Song) (tag : String) : Option Binary64 :=
  let name := Tag.plainName tag
  match song.first? (Tag.numericTag name) with
  | some raw => Binary64.read? (Text.trim raw.toList)
  | none =>
    (song.first? name).bind fun raw =>
      Binary64.read? (Text.trim (raw.toList.takeWhile (· != '/')))

/-- The last part of a path. -/
def baseName (path : String) : String :=
  String.ofList (path.toList.reverse.takeWhile (· != '/')).reverse

/-- The path before its last part; nothing if there is only one. -/
def directoryName (path : String) : String :=
  String.ofList ((path.toList.reverse.dropWhile (· != '/')).drop 1).reverse

/-- The value of a computed tag, if the song has what it is computed from. -/
def computed? (song : Song) (tag : String) : Option String :=
  if tag = "~basename" then (song.first? "~filename").map baseName
  else if tag = "~dirname" then (song.first? "~filename").map directoryName
  else if tag = "~length" then (song.numeric? "length").map Clock.ofNumber
  else none

/-- The text shown for a tag that ties nothing. -/
def singleComma (song : Song) (tag : String) : String :=
  match Tag.numericName? tag with
  | some name => ((song.numeric? name).map numberText).getD ""
  | none => (song.computed? tag).getD (String.intercalate song.join (song.values tag))

/-- The text shown for a tag: for a tied one the texts of its parts that have any. -/
def comma (song : Song) (tag : String) : String :=
  if Tag.isTied tag then
    String.intercalate Tag.tiedJoin
      (((Tag.split tag).map song.singleComma).filter fun value => value != "")
  else song.singleComma tag

/-- The values of a tag that ties nothing; a number or computed text is one value, if it shows. -/
def singleList (song : Song) (tag : String) : List String :=
  if (Tag.numericName? tag).isSome || (song.computed? tag).isSome then
    let value := song.singleComma tag
    if value = "" then [] else [value]
  else song.values tag

/-- Follow every text by every value of the next part. -/
def tieNext (texts values : List String) : List String :=
  texts.flatMap fun text =>
    values.map fun value => if text = "" then value else text ++ Tag.tiedJoin ++ value

/-- The values of a tag one by one: for a tied one every choice of one value from each part that has
any. -/
def list (song : Song) (tag : String) : List String :=
  if Tag.isTied tag then
    let parts := ((Tag.split tag).map song.singleList).filter fun values => !values.isEmpty
    if parts.isEmpty then [] else parts.foldl tieNext [""]
  else song.singleList tag

/-- The song as a record. -/
def toRecord (song : Song) : Record where
  get? := song.get?
  comma := song.comma
  list := song.list
  numeric? := song.numeric?

end Song

end Songbook
