import Songbook.Unicode.CaseMapping

/-!
# Texts

Operations on texts that the tag names, patterns and queries share. They work on lists of characters;
a position in a text is measured in the bytes of its UTF-8 form.
-/

namespace Songbook.Text

/-- Whether a character is blank. -/
abbrev isBlank (c : Char) : Bool :=
  Unicode.Property.isWhiteSpace c

/-- A text without the blanks it starts with. -/
def trimStart (text : List Char) : List Char :=
  text.dropWhile isBlank

theorem length_trimStart_le (text : List Char) : (trimStart text).length ≤ text.length :=
  (List.dropWhile_sublist _).length_le

/-- A text without the blanks it ends with. -/
def trimEnd (text : List Char) : List Char :=
  (text.reverse.dropWhile isBlank).reverse

/-- A text without the blanks around it. -/
def trim (text : List Char) : List Char :=
  trimEnd (trimStart text)

/-- A string without the blanks around it. -/
def trimmed (text : String) : String :=
  String.ofList (trim text.toList)

/-- A string in lower case. -/
def lowercase (text : String) : String :=
  String.ofList (Unicode.lowercase text.toList)

/-- The number of bytes of a text. -/
def byteLength : List Char → Nat
  | [] => 0
  | c :: rest => c.utf8Size + byteLength rest

/-- The longest part of a text, from its start, that takes at most the given number of bytes. -/
def takeBytes (budget : Nat) : List Char → List Char
  | [] => []
  | c :: rest =>
    if c.utf8Size ≤ budget then c :: takeBytes (budget - c.utf8Size) rest else []

/-- Whether a string contains a character. -/
def contains (text : String) (c : Char) : Bool :=
  text.toList.contains c

/-- A number in decimal digits, with zeros in front to make at least two. -/
def twoDigits (n : Nat) : String :=
  if n < 10 then "0" ++ toString n else toString n

end Songbook.Text
