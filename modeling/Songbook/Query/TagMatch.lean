import Songbook.Record
import Songbook.Regex
import Songbook.Unicode.CaseMapping

/-!
# Tag matches

A tag match asks whether one of several regular expressions matches somewhere in the text of one of
several tags. Stored tags give their text as it is, several values on lines of their own; synthetic
tags give the text they show.
-/

namespace Songbook

/-- A match of regular expressions against tags. -/
structure TagMatch where
  stored : List String
  computed : List String
  patterns : List Regex

namespace TagMatch

/-- The short forms of tag names. -/
def abbreviations : List (String × String) :=
  [("a", "artist"), ("b", "album"), ("v", "version"), ("t", "title"), ("n", "tracknumber"),
    ("d", "date")]

/-- The name a query means by a name: in lower case, with a short form written out. -/
def fullName (name : String) : String :=
  let name := String.ofList (Unicode.lowercase (Text.trim name.toList))
  ((abbreviations.find? fun entry => entry.1 = name).map (·.2)).getD name

/-- The match of regular expressions against the tags of the given names. -/
def ofNames (names : List String) (patterns : List Regex) : TagMatch :=
  let names := names.map fullName
  { stored := names.filter fun name => !Tag.isSynthetic name
    computed := names.filter Tag.isSynthetic
    patterns }

/-- The names of the tags, the stored ones first. -/
def names (tagMatch : TagMatch) : List String :=
  tagMatch.stored ++ tagMatch.computed

/-- Whether one of the expressions matches in a text. -/
def matchesValue [RegexLibrary] (tagMatch : TagMatch) (value : String) : Bool :=
  tagMatch.patterns.any fun pattern => RegexLibrary.finds pattern value.toList

/-- Whether one of the expressions matches in one of the tags. -/
def holds [RegexLibrary] (tagMatch : TagMatch) (record : Record) : Bool :=
  (tagMatch.stored.any fun name => tagMatch.matchesValue ((record.get? name).getD ""))
    || tagMatch.computed.any fun name => tagMatch.matchesValue (record.comma name)

end TagMatch

end Songbook
