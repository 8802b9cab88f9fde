import Songbook.Song

/-!
# Song files

A song file is an array of objects. Each key is a tag, and its value is a string, a number or an
array of strings. Of two equal keys in an object the later one counts, and numbers are stored as
numeric tags. Nothing else is a song file, and no reason is given for a refusal.

The text of a file is left to a decoder, an instance that every use refers to.
-/

namespace Songbook.SongFile

/-- The value of a key. -/
inductive FieldValue where
  | text (value : String)
  | number (value : Binary64)
  | list (values : List String)
  deriving DecidableEq, Repr

/-- The keys of an object with their values, in the order of the text. -/
abbrev Fields := List (String × FieldValue)

/-- A decoder of song files. -/
class Decoder where
  /-- The objects of a file, if the text is one. -/
  decode? : String → Option (List Fields)

/-- Store the value of a key in a song. -/
def storeField (song : Song) (entry : String × FieldValue) : Song :=
  match entry.2 with
  | .text value => song.set entry.1 value
  | .number value => song.setNumeric entry.1 value
  | .list values => song.setValues entry.1 values

/-- The song of an object: its keys in code point order, each with its last value. -/
def songOfFields (fields : Fields) : Song :=
  (fields.foldl (fun sorted entry => Song.insertField entry.1 entry.2 sorted) []).foldl storeField {}

/-- Read the songs of a file. -/
def parse? [Decoder] (text : String) : Option (List Song) :=
  (Decoder.decode? text).map fun objects => objects.map songOfFields

end Songbook.SongFile
