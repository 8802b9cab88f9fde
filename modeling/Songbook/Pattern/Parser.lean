import Songbook.Pattern.Token
import Songbook.Pattern.Tree

/-!
# Reading patterns

```text
pattern        := (text | tag expression)*
tag expression := "<" name ("|" pattern ("|" pattern)?)? ">"
```

No sequence of tokens is refused. A tag expression without a name or without its `>` is dropped,
together with the tokens up to the next `<`; so is one inside 128 others. A `>` or `|` outside every
tag expression is dropped by itself, and a conditional that cannot show anything is left out.
-/

namespace Songbook.Pattern

/-- The number of tag expressions that may be open around another one, itself included. -/
def maxDepth : Nat := 128

/-- Drop tokens up to the next `<` or to the end. -/
def resync : List Token → List Token
  | [] => []
  | token :: rest =>
    if token = .opening ∨ token = .endOfPattern then token :: rest else resync rest

/-- What reads the branches of a conditional: nodes and the tokens after them. -/
abbrev Branch := List Token → List Node × List Token

/-- Finish a tag expression that has been read up to its `>`. -/
def close (node : Node) : List Token → Option Node × List Token
  | .closing :: rest => (if node.isVoid then none else some node, rest)
  | tokens => (none, resync tokens)

/-- Read a tag expression, with the tokens after its `<`. Without a reader for branches it is nested
too deeply. -/
def expression (branch? : Option Branch) (tokens : List Token) : Option Node × List Token :=
  match branch?, tokens with
  | some branch, .text name :: .bar :: rest =>
    let (yes, rest) := branch rest
    match rest with
    | .bar :: rest =>
      let (no, rest) := branch rest
      close (.conditional (tiedName (String.ofList name)) yes (some no)) rest
    | rest => close (.conditional (tiedName (String.ofList name)) yes none) rest
  | some _, .text name :: rest => close (.tag (tiedName (String.ofList name))) rest
  | _, tokens => (none, resync tokens)

/-- Read texts and tag expressions as long as they follow; each round reads one. -/
def nodes (branch? : Option Branch) : (rounds : Nat) → Branch
  | 0, tokens => ([], tokens)
  | rounds + 1, .text literal :: rest =>
    let (more, rest) := nodes branch? rounds rest
    (.literal (String.ofList literal) :: more, rest)
  | rounds + 1, .opening :: rest =>
    let (node, rest) := expression branch? rest
    let (more, rest) := nodes branch? rounds rest
    (node.toList ++ more, rest)
  | _ + 1, tokens => ([], tokens)

/-- Read a sequence in which so many tag expressions may still be opened inside each other. -/
def sequence : (allowed : Nat) → Branch
  | 0, tokens => nodes none tokens.length tokens
  | allowed + 1, tokens => nodes (some (sequence allowed)) tokens.length tokens

/-- Read sequences to the end, dropping the token that ends each; each round drops one. -/
def sequences : (rounds : Nat) → List Token → List Node
  | 0, _ => []
  | rounds + 1, tokens =>
    let (children, rest) := sequence maxDepth tokens
    match rest with
    | [] => children
    | .endOfPattern :: _ => children
    | _ :: rest => children ++ sequences rounds rest

/-- The tree of a list of tokens. -/
def ofTokens (tokens : List Token) : List Node :=
  sequences tokens.length tokens

/-- The tree of a pattern, or the byte offset of the lone backslash that it ends in. -/
def parse (source : String) : Except Nat (List Node) :=
  (tokenize source).map ofTokens

end Songbook.Pattern
