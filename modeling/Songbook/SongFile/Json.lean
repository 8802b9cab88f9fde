import Songbook.SongFile
import Songbook.SongFile.Number

/-!
# Song files as JSON

A decoder for song files that are JSON arrays. An object holds nothing but strings, numbers and arrays
of strings.
-/

namespace Songbook.SongFile

/-- Skip the blanks of JSON. -/
def skipBlanks (text : List Char) : List Char :=
  text.dropWhile fun c => c = ' ' || c = '\n' || c = '\t' || c = '\r'

/-- The value of four hexadecimal digits. -/
def hexUnit? (a b c d : Char) : Option Nat :=
  if [a, b, c, d].all fun digit =>
      digit.isDigit || ('a' ≤ digit && digit ≤ 'f') || ('A' ≤ digit && digit ≤ 'F') then
    some (Unicode.hexValue [a, b, c, d])
  else none

/-- The character that a backslash and one letter stand for. -/
def shortEscape? : Char → Option Char
  | '"' => some '"'
  | '\\' => some '\\'
  | '/' => some '/'
  | 'b' => some '\x08'
  | 'f' => some '\x0c'
  | 'n' => some '\n'
  | 'r' => some '\r'
  | 't' => some '\t'
  | _ => none

/-- Whether a 16-bit unit is the first half of a character. -/
def isHighSurrogate (unit : Nat) : Bool :=
  0xD800 ≤ unit && unit ≤ 0xDBFF

/-- Whether a 16-bit unit is the second half of a character. -/
def isLowSurrogate (unit : Nat) : Bool :=
  0xDC00 ≤ unit && unit ≤ 0xDFFF

/-- The characters of a string, with the text after its opening quote, and the rest. A character
beyond 16 bits is written as its two halves, and no half stands alone. -/
def readCharacters? : List Char → Option (List Char × List Char)
  | [] => none
  | '"' :: rest => some ([], rest)
  | '\\' :: 'u' :: a :: b :: c :: d :: rest => do
    let unit ← hexUnit? a b c d
    if isLowSurrogate unit then none
    else if isHighSurrogate unit then
      match rest with
      | '\\' :: 'u' :: a :: b :: c :: d :: rest =>
        let low ← hexUnit? a b c d
        if isLowSurrogate low then
          let point := 0x10000 + (unit - 0xD800) * 0x400 + (low - 0xDC00)
          let (characters, after) ← readCharacters? rest
          some (Char.ofNat point :: characters, after)
        else none
      | _ => none
    else
      let (characters, after) ← readCharacters? rest
      some (Char.ofNat unit :: characters, after)
  | '\\' :: letter :: rest => do
    let c ← shortEscape? letter
    let (characters, after) ← readCharacters? rest
    some (c :: characters, after)
  | c :: rest =>
    if c.toNat < 0x20 || c = '\\' then none
    else (readCharacters? rest).map fun (characters, after) => (c :: characters, after)

/-- Read a string. -/
def readString? (text : List Char) : Option (String × List Char) :=
  match skipBlanks text with
  | '"' :: rest => (readCharacters? rest).map fun (characters, after) => (String.ofList characters, after)
  | _ => none

/-- Read items up to a closing bracket, with commas between them; each round reads one. -/
def readItems? {α : Type} (item? : List Char → Option (α × List Char)) (closing : Char) :
    (rounds : Nat) → List Char → Option (List α × List Char)
  | 0, _ => none
  | rounds + 1, text => do
    let (first, rest) ← item? text
    match skipBlanks rest with
    | [] => none
    | c :: rest =>
      if c = closing then some ([first], rest)
      else if c = ',' then
        let (more, rest) ← readItems? item? closing rounds rest
        some (first :: more, rest)
      else none

/-- Read items between brackets, with the text after the opening one. -/
def readBracketed? {α : Type} (item? : List Char → Option (α × List Char)) (closing : Char)
    (text : List Char) : Option (List α × List Char) :=
  match skipBlanks text with
  | [] => none
  | c :: rest => if c = closing then some ([], rest) else readItems? item? closing text.length text

/-- Read the value of a key. -/
def readFieldValue? (text : List Char) : Option (FieldValue × List Char) :=
  match skipBlanks text with
  | [] => none
  | c :: rest =>
    if c = '"' then (readString? (c :: rest)).map fun (value, after) => (.text value, after)
    else if c = '[' then
      (readBracketed? readString? ']' rest).map fun (values, after) => (.list values, after)
    else (readNumber? (c :: rest)).map fun (value, after) => (.number value, after)

/-- Read a key with its value. -/
def readField? (text : List Char) : Option ((String × FieldValue) × List Char) := do
  let (key, rest) ← readString? text
  match skipBlanks rest with
  | ':' :: rest =>
    let (value, rest) ← readFieldValue? rest
    some ((key, value), rest)
  | _ => none

/-- Read an object. -/
def readObject? (text : List Char) : Option (Fields × List Char) :=
  match skipBlanks text with
  | '\x7b' :: rest => readBracketed? readField? '\x7d' rest
  | _ => none

/-- Read the objects of a file. -/
def readFile? (text : List Char) : Option (List Fields) :=
  match skipBlanks text with
  | '[' :: rest =>
    match readBracketed? readObject? ']' rest with
    | some (objects, after) => if (skipBlanks after).isEmpty then some objects else none
    | none => none
  | _ => none

instance decoder : Decoder where
  decode? text := readFile? text.toList

end Songbook.SongFile
