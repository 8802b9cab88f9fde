import Songbook.RegexEngine.Expression
import Songbook.Unicode.Script

/-!
# Named character classes

The sets that a regular expression names: `\d`, `\s` and `\w`, the bracketed classes such as
`[:alpha:]`, and the Unicode classes such as `\p{Greek}` or `\p{gc=Lu}`. Names of Unicode classes are
compared without case, blanks, underscores, hyphens and a leading `is`.
-/

namespace Songbook.RegexEngine

open Unicode

/-- The decimal digits. -/
def digits (unicode : Bool) : CharSet := fun c =>
  if unicode && 128 ≤ c.toNat then GeneralCategory.ofChar c = .decimalNumber else c.isDigit

/-- The blank characters. -/
def blanks (unicode : Bool) : CharSet := fun c =>
  Property.isWhiteSpace c && (unicode || c.toNat < 128)

/-- The word characters. -/
def wordChars (unicode : Bool) : CharSet :=
  if unicode then isWordChar else isAsciiWordChar

/-- The set of a bracketed class name. -/
def posixClass? (name : String) : Option CharSet :=
  match name with
  | "alnum" => some Char.isAlphanum
  | "alpha" => some Char.isAlpha
  | "ascii" => some fun c => c.toNat < 128
  | "blank" => some fun c => c = '\t' || c = ' '
  | "cntrl" => some fun c => c.toNat < 32 || c.toNat = 127
  | "digit" => some Char.isDigit
  | "graph" => some fun c => 33 ≤ c.toNat && c.toNat ≤ 126
  | "lower" => some Char.isLower
  | "print" => some fun c => 32 ≤ c.toNat && c.toNat ≤ 126
  | "punct" => some fun c => 33 ≤ c.toNat && c.toNat ≤ 126 && !c.isAlphanum
  | "space" => some fun c => (9 ≤ c.toNat && c.toNat ≤ 13) || c = ' '
  | "upper" => some Char.isUpper
  | "word" => some isAsciiWordChar
  | "xdigit" => some fun c => c.isDigit || ('a' ≤ c && c ≤ 'f') || ('A' ≤ c && c ≤ 'F')
  | _ => none

/-- The form in which names of Unicode classes are compared. -/
def looseName (name : List Char) : String :=
  let lowered := (name.filter fun c => c.toNat < 128).map Char.toLower
  let plain (text : List Char) := text.filter fun c => !(c = ' ' || c = '_' || c = '-')
  match name.take 2 with
  | [first, second] =>
    if first.toLower = 'i' && second.toLower = 's' then
      if plain (lowered.drop 2) = ['c'] then "isc" else String.ofList (plain (lowered.drop 2))
    else String.ofList (plain lowered)
  | _ => String.ofList (plain lowered)

/-- The set of a general category name. -/
def categoryClass? (name : String) : Option CharSet :=
  match name with
  | "any" => some fun _ => true
  | "assigned" => some fun c => GeneralCategory.ofChar c != .unassigned
  | "ascii" => some fun c => c.toNat < 128
  | _ => (GeneralCategory.ofName? name).map fun categories c =>
      categories.contains (GeneralCategory.ofChar c)

/-- The set of a script name. -/
def scriptClass? (name : String) : Option CharSet :=
  (Script.ofName? name).map fun code c => Script.ofChar c = code

/-- The set of a script name, by script extensions. -/
def scriptExtensionClass? (name : String) : Option CharSet :=
  (Script.ofName? name).map fun code c => (Script.extensionsOf c).contains code

/-- The set of a name that stands alone: a binary property, a general category or a script. Three
short names that are properties as well count as categories. -/
def loneClass? (name : List Char) : Option CharSet :=
  let name := looseName name
  let property := if ["cf", "sc", "lc"].contains name then none else Property.ofName? name
  property <|> categoryClass? name <|> scriptClass? name

/-- The set of a property name with a value. -/
def valueClass? (property value : List Char) : Option CharSet :=
  let value := looseName value
  match looseName property with
  | "gc" => categoryClass? value
  | "generalcategory" => categoryClass? value
  | "sc" => scriptClass? value
  | "script" => scriptClass? value
  | "scx" => scriptExtensionClass? value
  | "scriptextensions" => scriptExtensionClass? value
  | _ => none

/-- The text before the first place where a text starts with `mark`, and the text after that mark. -/
def splitAtMark? (mark : List Char) : List Char → Option (List Char × List Char)
  | [] => none
  | c :: rest =>
    if mark.isPrefixOf (c :: rest) then some ([], (c :: rest).drop mark.length)
    else (splitAtMark? mark rest).map fun (before, after) => (c :: before, after)

/-- The set of the text between the braces of a Unicode class. A property and its value stand around
`!=`, `:` or `=`, of which the first in this order that the text has counts; all three mean the
same. -/
def bracedClass? (text : List Char) : Option CharSet :=
  match [['!', '='], [':'], ['=']].findSome? (splitAtMark? · text) with
  | some (property, value) => valueClass? property value
  | none => loneClass? text

end Songbook.RegexEngine
