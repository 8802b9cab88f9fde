import Songbook.Regex
import Songbook.Unicode.CaseMapping

/-!
# Laws of regular expressions

Queries make expressions of escaped texts and of the marks for the start and the end of a text. A
library is lawful if it takes an escaped text for the text, and if to ignore case means to fold each
character on its own.
-/

namespace Songbook

namespace Regex

/-- What counts of a character: its case folding if case is ignored, and else the character itself. -/
def caseKey (ignoreCase : Bool) (c : Char) : Char :=
  if ignoreCase then Unicode.foldCase c else c

/-- A piece of an expression: the start or the end of a text, or some text as it is. -/
inductive Piece where
  | start
  | stop
  | text (characters : List Char)

/-- Pieces match one after the other at a place of a text, where `before` stands before the place and
`rest` behind it. -/
def MatchesAt (ignoreCase : Bool) : List Piece → (before rest : List Char) → Prop
  | [], _, _ => True
  | .start :: pieces, before, rest => before = [] ∧ MatchesAt ignoreCase pieces before rest
  | .stop :: pieces, before, rest => rest = [] ∧ MatchesAt ignoreCase pieces before rest
  | .text characters :: pieces, before, rest =>
    ∃ part after, rest = part ++ after ∧
      part.map (caseKey ignoreCase) = characters.map (caseKey ignoreCase) ∧
      MatchesAt ignoreCase pieces (before ++ part) after

section Library

variable [RegexLibrary]

/-- The source of a piece. -/
def Piece.source : Piece → List Char
  | start => ['^']
  | stop => ['$']
  | text characters => RegexLibrary.escape characters

/-- The expression of some pieces. -/
def ofPieces (ignoreCase : Bool) (pieces : List Piece) : Regex where
  source := String.ofList (pieces.flatMap Piece.source)
  ignoreCase

end Library

end Regex

/-- A library that takes pieces of expressions for what they stand for. -/
class LawfulRegexLibrary [RegexLibrary] : Prop where
  /-- An expression that is taken is found in the texts that have a place where its pieces match. -/
  finds_ofPieces (ignoreCase : Bool) (pieces : List Regex.Piece) (text : List Char) :
    RegexLibrary.builds (Regex.ofPieces ignoreCase pieces) = true →
    (RegexLibrary.finds (Regex.ofPieces ignoreCase pieces) text = true ↔
      ∃ before rest, text = before ++ rest ∧ Regex.MatchesAt ignoreCase pieces before rest)

namespace Regex

variable [RegexLibrary] [LawfulRegexLibrary] {ignoreCase : Bool} {word : List Char}

end Regex

end Songbook
