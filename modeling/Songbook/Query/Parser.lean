import Songbook.Query.Predicate

/-!
# Reading queries

```text
query      := expression*                                    all of them
expression := "&(" expression ("," expression)* ")"          all of
            | "|(" expression ("," expression)* ")"          any of
            | "#(" comparison ("," comparison)* ")"          all of the comparisons
            | "!" expression                                 not
            | tag ("," tag)* "=" value                       a match of the tags
            | matcher                                        a match of the default tags
value      := "!" value | "&(" value ... ")" | "|(" value ... ")" | matcher
matcher    := "/" regex "/" flags | "\"" text "\"" flags | word
comparison := tag operator quantity
```

A word matches as a part of a value and quoted text as the whole of it. Case is ignored unless the
flag `c` follows. A group of one item is that item.

Each rule reads from the front of a text and leaves the rest. A fault is placed at the rest of the
text it was met at, so that a rule does not depend on what stands before it; only `Query.parse` turns
places into offsets. At most 128 rules may be open at once.
-/

namespace Songbook

namespace Query

/-- Why a rule fails, with the rest of the text from the place of a syntax fault on. -/
inductive Fault where
  | misplaced (rest : List Char) (fault : SyntaxFault)
  | invalidRegex
  | comparison (error : ComparisonError)
  deriving DecidableEq, Repr

/-- What a rule makes of a text: a value and the rest, or a fault. -/
abbrev Rule (α : Type) := List Char → Except Fault (α × List Char)

/-- The tags that a matcher without names reads. -/
def defaultTags : List String :=
  ["artist", "album", "title", "version", "albumartist", "performer", "composer", "genre"]

/-- The number of rules that may be open at once. -/
def maxDepth : Nat := 128

/-- The characters of tag names. -/
def isTagChar (c : Char) : Bool :=
  Unicode.Property.isAlphanumeric c || ['_', '-', '~', '#', ':'].contains c

/-- The characters of words. -/
def isWordChar (c : Char) : Bool :=
  !Text.isBlank c && !(c = ',' || c = '(' || c = ')')

/-- The characters of operators. -/
def isOperatorChar (c : Char) : Bool :=
  ['<', '>', '=', '!'].contains c

/-- Whether a character is an ASCII letter. -/
def isFlagChar (c : Char) : Bool :=
  c.isAlpha

/-! ## Matchers -/

/-- The text up to the delimiter, and the rest after it. A backslash makes a delimiter or a backslash
literal, and stays before any other character. -/
def readDelimited? (delimiter : Char) : List Char → Option (List Char × List Char)
  | [] => none
  | '\\' :: next :: rest =>
    (readDelimited? delimiter rest).map fun (text, after) =>
      if next = delimiter || next = '\\' then (next :: text, after)
      else ('\\' :: next :: text, after)
  | c :: rest =>
    if c = delimiter then some ([], rest)
    else (readDelimited? delimiter rest).map fun (text, after) => (c :: text, after)

/-- Whether flags make a match ignore case: the last of them decides. The first unknown flag is
refused. -/
def ignoresCase (ignored : Bool) : List Char → Except Char Bool
  | [] => .ok ignored
  | flag :: rest =>
    if flag = 'c' then ignoresCase false rest
    else if flag = 'i' then ignoresCase true rest
    else .error flag

section Library

variable [RegexLibrary]

/-- Build the regular expression of a source with the flags that follow it. -/
def flagged (source : List Char) : Rule Regex := fun text =>
  match ignoresCase true (text.takeWhile isFlagChar) with
  | .error flag => .error (.misplaced text (.unknownFlag flag))
  | .ok ignoreCase =>
    match Regex.parse? (String.ofList source) ignoreCase with
    | none => .error .invalidRegex
    | some regex => .ok (regex, text.dropWhile isFlagChar)

/-- The source of the expression that matches exactly a text. -/
def wholeSource (text : List Char) : List Char :=
  '^' :: RegexLibrary.escape text ++ ['$']

/-- A regular expression between slashes, quoted text or a word. -/
def matcher : Rule Regex := fun text =>
  let text := Text.trimStart text
  match text with
  | '/' :: rest =>
    match readDelimited? '/' rest with
    | none => .error (.misplaced text (.missingClosing '/'))
    | some (source, after) => flagged source after
  | '"' :: rest =>
    match readDelimited? '"' rest with
    | none => .error (.misplaced text (.missingClosing '"'))
    | some (quoted, after) => flagged (wholeSource quoted) after
  | _ =>
    match text.takeWhile isWordChar with
    | [] => .error (.misplaced text (.expectedValue text.head?))
    | word => flagged (RegexLibrary.escape word) (text.dropWhile isWordChar)

end Library

/-! ## Names and comparisons -/

/-- A list of tag names up to its `=`, and the rest after that, if the text starts with one. -/
def tagNames? (text : List Char) : Option (List String × List Char) :=
  let start := Text.trimStart text
  match start.takeWhile isTagChar with
  | [] => none
  | name =>
    match _hrest : Text.trimStart (start.dropWhile isTagChar) with
    | '=' :: rest => some ([String.ofList name], rest)
    | ',' :: rest =>
      (tagNames? rest).map fun (names, after) => (String.ofList name :: names, after)
    | _ => none
termination_by text.length
decreasing_by
  have hname := Text.length_trimStart_le (start.dropWhile isTagChar)
  have hstart : start.length ≤ text.length := Text.length_trimStart_le text
  have hdrop := (List.dropWhile_sublist (l := start) (p := isTagChar)).length_le
  rw [_hrest, List.length_cons] at hname
  omega

/-- A comparison of a tag with a quantity. -/
def comparison (now : Binary64) : Rule Predicate := fun text =>
  let text := Text.trimStart text
  match text.takeWhile isTagChar with
  | [] => .error (.misplaced text .expectedTag)
  | tag =>
    let text := Text.trimStart (text.dropWhile isTagChar)
    match text.takeWhile isOperatorChar with
    | [] => .error (.misplaced text .expectedOperator)
    | operator =>
      let text := text.dropWhile isOperatorChar
      let isValueChar (c : Char) : Bool := !(c = ',' || c = ')')
      let raw := text.takeWhile isValueChar
      match Comparison.read (String.ofList tag) (String.ofList operator) (String.ofList raw) now with
      | .error error => .error (.comparison error)
      | .ok comparison => .ok (.comparison comparison, text.dropWhile isValueChar)

/-! ## Groups -/

/-- The items after the first one, up to the closing parenthesis. `opened` is the text from the
opening parenthesis on, and each round reads a comma. -/
def moreItems (item : Rule Predicate) (opened : List Char) :
    (rounds : Nat) → Rule (List Predicate)
  | 0, text => .error (.misplaced text .expectedSeparator)
  | rounds + 1, text =>
    match Text.trimStart text with
    | ',' :: rest =>
      match item rest with
      | .error fault => .error fault
      | .ok (first, rest) =>
        match moreItems item opened rounds rest with
        | .error fault => .error fault
        | .ok (items, rest) => .ok (first :: items, rest)
    | ')' :: rest => .ok ([], rest)
    | [] => .error (.misplaced opened .missingParenthesis)
    | rest => .error (.misplaced rest .expectedSeparator)

/-- A group of one or more items, with the text from its opening parenthesis on. -/
def group (combine : List Predicate → Predicate) (item : Rule Predicate) (opened : List Char) :
    Except Fault (Predicate × List Char) :=
  match item (opened.drop 1) with
  | .error fault => .error fault
  | .ok (first, rest) =>
    match moreItems item opened (rest.length + 1) rest with
    | .error fault => .error fault
    | .ok (items, rest) => .ok (.collapse combine (first :: items), rest)

/-- Negate what a rule reads. -/
def negated (rule : Rule Predicate) : Rule Predicate := fun text =>
  match rule text with
  | .error fault => .error fault
  | .ok (predicate, rest) => .ok (.negation predicate, rest)

section Library

variable [RegexLibrary]

/-- Match tags against what follows. -/
def matching (names : List String) : Rule Predicate := fun text =>
  match matcher text with
  | .error fault => .error fault
  | .ok (regex, rest) => .ok (.tagMatch (.ofNames names [regex]), rest)

/-- The value of a tag match, with the number of rules that may still be opened. -/
def value (names : List String) : (allowed : Nat) → Rule Predicate
  | 0, text => .error (.misplaced text .nestedTooDeeply)
  | allowed + 1, text =>
    match Text.trimStart text with
    | '!' :: rest => negated (value names allowed) rest
    | '&' :: '(' :: rest => group .intersection (value names allowed) ('(' :: rest)
    | '|' :: '(' :: rest => group .union (value names allowed) ('(' :: rest)
    | rest => matching names rest

/-- An expression, with the number of rules that may still be opened. -/
def expression (now : Binary64) : (allowed : Nat) → Rule Predicate
  | 0, text => .error (.misplaced text .nestedTooDeeply)
  | allowed + 1, text =>
    match Text.trimStart text with
    | '&' :: '(' :: rest => group .intersection (expression now allowed) ('(' :: rest)
    | '|' :: '(' :: rest => group .union (expression now allowed) ('(' :: rest)
    | '#' :: '(' :: rest => group .intersection (comparison now) ('(' :: rest)
    | '!' :: rest => negated (expression now allowed) rest
    | rest =>
      match tagNames? rest with
      | some (names, rest) => value names allowed rest
      | none => matching defaultTags rest

/-- The expressions to the end of the text, if at most `limit` rules may be open at once; each round
reads one. -/
def expressions (now : Binary64) (limit : Nat) :
    (rounds : Nat) → List Char → Except Fault (List Predicate)
  | 0, text => .error (.misplaced text (.expectedValue text.head?))
  | rounds + 1, text =>
    match Text.trimStart text with
    | [] => .ok []
    | start =>
      match expression now limit start with
      | .error fault => .error fault
      | .ok (first, rest) =>
        match expressions now limit rounds rest with
        | .error fault => .error fault
        | .ok more => .ok (first :: more)

/-- A fault met while reading a text, with its place as an offset. -/
def Fault.toError (text : List Char) : Fault → QueryError
  | misplaced rest fault => .malformed (Text.byteLength text - Text.byteLength rest) fault
  | invalidRegex => .invalidRegex
  | comparison error => .comparison error

/-- Read a query at an instant, if at most `limit` rules may be open at once. -/
def parseWithin (limit : Nat) (text : String) (now : Binary64) : Except QueryError Predicate :=
  match expressions now limit (text.toList.length + 1) text.toList with
  | .error fault => .error (fault.toError text.toList)
  | .ok items => .ok (.collapse .intersection items)

/-- Read a query at an instant. -/
def parse (text : String) (now : Binary64) : Except QueryError Predicate :=
  parseWithin maxDepth text now

/-- Whether a text is a query. No instant changes that. -/
def isParsable (text : String) : Bool :=
  (parse text 0).toOption.isSome

end Library

end Query

end Songbook
