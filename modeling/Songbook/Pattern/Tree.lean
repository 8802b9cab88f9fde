import Songbook.Tag

/-!
# Pattern trees

A pattern is a sequence of literal texts, tag references and conditionals. A conditional with an
empty second branch is not the same tree as one without it, though both show the same.
-/

namespace Songbook.Pattern

/-- An element of a pattern. -/
inductive Node where
  | literal (text : String)
  | tag (name : String)
  | conditional (name : String) (yes : List Node) (no : Option (List Node))
  deriving Repr

/-- The name of a tag expression as patterns use it: one that ties tags without a `~` in front gets
it. -/
def tiedName (name : String) : String :=
  if !Tag.isSynthetic name && name.toList.contains Tag.sigil then
    String.ofList (Tag.sigil :: name.toList)
  else name

/-- Whether a conditional shows nothing whatever it tests. -/
def Node.isVoid : Node → Bool
  | literal _ => false
  | tag _ => false
  | conditional _ yes no => yes.isEmpty && (no.getD []).isEmpty

end Songbook.Pattern
