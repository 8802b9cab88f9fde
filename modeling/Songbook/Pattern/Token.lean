import Songbook.Text

/-!
# Pattern tokens

A pattern is a text in which `<`, `|` and `>` delimit tag expressions and a backslash makes the next
character literal. Blanks around the pattern do not count, not even behind a backslash, so the only
text that has no tokens is one that ends in a lone backslash once they are gone.
-/

namespace Songbook.Pattern

/-- The tokens of a pattern. -/
inductive Token where
  | text (literal : List Char)
  | opening
  | closing
  | bar
  | endOfPattern
  deriving DecidableEq, Repr

/-- What a character of a pattern means once escapes have been resolved. -/
inductive Glyph where
  | literal (c : Char)
  | opening
  | closing
  | bar
  deriving DecidableEq, Repr

/-- The glyph of a character that no backslash stands before. -/
def Glyph.ofChar (c : Char) : Glyph :=
  if c = '<' then opening
  else if c = '>' then closing
  else if c = '|' then bar
  else literal c

/-- The glyphs of a text, unless it ends in a lone backslash. -/
def glyphs? : List Char → Option (List Glyph)
  | [] => some []
  | ['\\'] => none
  | '\\' :: c :: rest => (glyphs? rest).map (.literal c :: ·)
  | c :: rest => (glyphs? rest).map (.ofChar c :: ·)

/-- Whether a character means something in a pattern. -/
def isSpecial (c : Char) : Bool :=
  ['\\', '<', '>', '|'].contains c

/-- A character as it is written into a pattern. -/
def escapeChar (c : Char) : List Char :=
  if isSpecial c then ['\\', c] else [c]

/-- A text as it is written into a pattern. -/
def escape (text : List Char) : List Char :=
  text.flatMap escapeChar

/-- The tokens of glyphs: neighbouring literal characters make one text. -/
def tokensOfGlyphs : List Glyph → List Token
  | [] => [.endOfPattern]
  | .opening :: rest => .opening :: tokensOfGlyphs rest
  | .closing :: rest => .closing :: tokensOfGlyphs rest
  | .bar :: rest => .bar :: tokensOfGlyphs rest
  | .literal c :: rest =>
    match tokensOfGlyphs rest with
    | .text literal :: more => .text (c :: literal) :: more
    | more => .text [c] :: more

/-- The tokens of a pattern, or the byte offset of the lone backslash that it ends in. -/
def tokenize (source : String) : Except Nat (List Token) :=
  let start := Text.trimStart source.toList
  let body := Text.trimEnd start
  match glyphs? body with
  | some glyphs => .ok (tokensOfGlyphs glyphs)
  | none =>
    .error (Text.byteLength source.toList - Text.byteLength start + (Text.byteLength body - 1))

end Songbook.Pattern
