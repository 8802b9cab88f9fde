import Mathlib.Data.List.Chain
import Songbook.Proofs.Pattern.Escape
import Songbook.Proofs.Pattern.Reading

/-!
# Written patterns

A tree in normal form has a written form, and reading that gives the tree back. The trip goes through
the tokens of the tree: they are what the written form is read as, provided no two texts stand side by
side, and a sequence of the tree is what reading its tokens adds in front of whatever follows them.

Only the blanks around a pattern are lost, so a written form that starts or ends with one is left out.
-/

namespace Songbook.Pattern

/-! ## Normal form -/

/-- A tag name as tag expressions have it once they are read: one that holds a `~` starts with one. -/
structure IsName (name : String) : Prop where
  nonempty : name ≠ ""
  untied : Tag.isSynthetic name = true ∨ Tag.sigil ∉ name.toList

/-- A sequence of proper texts and names, in which conditionals show something and no more than
`allowed` tag expressions are opened inside each other. -/
inductive Proper : (allowed : Nat) → List Node → Prop
  | nil {allowed} : Proper allowed []
  | literal {allowed text rest} (htext : text ≠ "") (hrest : Proper allowed rest) :
      Proper allowed (.literal text :: rest)
  | tag {allowed name rest} (hname : IsName name) (hrest : Proper (allowed + 1) rest) :
      Proper (allowed + 1) (.tag name :: rest)
  | conditional {allowed name yes no rest} (hname : IsName name)
      (hshows : yes ≠ [] ∨ no.getD [] ≠ []) (hyes : Proper allowed yes)
      (hno : Proper allowed (no.getD [])) (hrest : Proper (allowed + 1) rest) :
      Proper (allowed + 1) (.conditional name yes no :: rest)

/-- A sequence in which no literal follows another one, in its branches neither. -/
inductive Apart : List Node → Prop
  | nil : Apart []
  | literal {text rest} (hnext : ∀ next more, rest ≠ .literal next :: more)
      (hrest : Apart rest) : Apart (.literal text :: rest)
  | tag {name rest} (hrest : Apart rest) : Apart (.tag name :: rest)
  | conditional {name yes no rest} (hyes : Apart yes) (hno : Apart (no.getD []))
      (hrest : Apart rest) : Apart (.conditional name yes no :: rest)

/-- A tree in normal form. A tag expression stands in at most 127 conditionals, so that with it at
most 128 are open. -/
structure NormalForm (nodes : List Node) : Prop where
  proper : Proper maxDepth nodes
  apart : Apart nodes

/-! ## Written forms -/

mutual

/-- A sequence as it is written. -/
def writeAll : List Node → List Char
  | [] => []
  | node :: rest => writeNode node ++ writeAll rest

/-- The second branch of a conditional as it is written, with the bar before it. A missing branch has
no bar, an empty one has. -/
def writeElse : Option (List Node) → List Char
  | none => []
  | some nodes => '|' :: writeAll nodes

/-- A node as it is written. -/
def writeNode : Node → List Char
  | .literal text => escape text.toList
  | .tag name => '<' :: (escape name.toList ++ ['>'])
  | .conditional name yes no =>
    '<' :: (escape name.toList ++ '|' :: (writeAll yes ++ writeElse no ++ ['>']))

end

/-- A tree as it is written. -/
def write (nodes : List Node) : String :=
  String.ofList (writeAll nodes)

mutual

/-- The tokens of a sequence. -/
def tokensOfAll : List Node → List Token
  | [] => []
  | node :: rest => tokensOfNode node ++ tokensOfAll rest

/-- The tokens of the second branch of a conditional, with the bar before it. -/
def tokensOfElse : Option (List Node) → List Token
  | none => []
  | some nodes => .bar :: tokensOfAll nodes

/-- The tokens of a node. -/
def tokensOfNode : Node → List Token
  | .literal text => [.text text.toList]
  | .tag name => [.opening, .text name.toList, .closing]
  | .conditional name yes no =>
    .opening :: .text name.toList :: .bar :: (tokensOfAll yes ++ tokensOfElse no ++ [.closing])

end

/-! ## From the written form to tokens -/

/-- A token as it is written. -/
def Token.write : Token → List Char
  | text literal => escape literal
  | opening => ['<']
  | closing => ['>']
  | bar => ['|']
  | endOfPattern => []

/-- The glyphs that a token consists of. -/
def Token.glyphs : Token → List Glyph
  | text literal => literal.map .literal
  | opening => [.opening]
  | closing => [.closing]
  | bar => [.bar]
  | endOfPattern => []

theorem glyphs?_write (token : Token) (rest : List Char) :
    glyphs? (token.write ++ rest) = (glyphs? rest).map (token.glyphs ++ ·) := by
  cases token with
  | text literal => exact glyphs?_escape literal rest
  | opening | closing | bar => exact glyphs?_cons (by decide) rest
  | endOfPattern => simp [Token.write, Token.glyphs]

/-- Written tokens are read as their glyphs, whichever way each token is written. -/
theorem glyphs?_flatMap {write : Token → List Char}
    (hwrite : ∀ token rest, glyphs? (write token ++ rest) = (glyphs? rest).map (token.glyphs ++ ·))
    (tokens : List Token) (rest : List Char) :
    glyphs? (tokens.flatMap write ++ rest) =
      (glyphs? rest).map (tokens.flatMap Token.glyphs ++ ·) := by
  induction tokens with
  | nil => simp
  | cons token tokens ih =>
      rw [List.flatMap_cons, List.append_assoc, hwrite, ih, Option.map_map, List.flatMap_cons]
      simp only [Function.comp_def, List.append_assoc]

theorem glyphs?_flatMap_write (tokens : List Token) (rest : List Char) :
    glyphs? (tokens.flatMap Token.write ++ rest) =
      (glyphs? rest).map (tokens.flatMap Token.glyphs ++ ·) :=
  glyphs?_flatMap glyphs?_write tokens rest

/-- A token that can stand in a pattern: no empty text, and not the end. -/
def Token.IsWritten (token : Token) : Prop :=
  token ≠ .text [] ∧ token ≠ .endOfPattern

/-- Two tokens that stay apart when they are written next to each other. -/
def Token.Separate (left right : Token) : Prop :=
  ∀ literal, left = .text literal → ∀ next, right ≠ .text next

/-- Only a text can run into the token after it. -/
theorem isChain_cons_of_delimiter {token : Token} (htoken : ∀ literal, token ≠ .text literal)
    {tokens : List Token} :
    (token :: tokens).IsChain Token.Separate ↔ tokens.IsChain Token.Separate := by
  rw [List.isChain_cons, and_iff_right]
  intro next _ literal heq
  exact absurd heq (htoken literal)

/-- The glyphs of tokens are read as these tokens, if no text runs into the next one. -/
theorem tokensOfGlyphs_flatMap {tokens : List Token} (rest : List Glyph)
    (hwritten : ∀ token ∈ tokens, token.IsWritten)
    (hseparate : (tokens ++ tokensOfGlyphs rest).IsChain Token.Separate) :
    tokensOfGlyphs (tokens.flatMap Token.glyphs ++ rest) = tokens ++ tokensOfGlyphs rest := by
  induction tokens with
  | nil => rfl
  | cons token tokens ih =>
      rw [List.forall_mem_cons] at hwritten
      rw [List.cons_append, List.isChain_cons] at hseparate
      have hrest := ih hwritten.2 hseparate.2
      rw [List.flatMap_cons, List.append_assoc, List.cons_append, ← hrest]
      cases token with
      | text literal =>
          have hliteral : literal ≠ [] := by
            rintro rfl
            exact hwritten.1.1 rfl
          refine tokensOfGlyphs_literal hliteral fun next more heq => ?_
          rw [hrest] at heq
          exact hseparate.1 (.text next) (by rw [heq]; rfl) literal rfl next rfl
      | opening | closing | bar => rfl
      | endOfPattern => exact absurd rfl hwritten.1.2

mutual

theorem writeAll_eq_flatMap : (nodes : List Node) →
    writeAll nodes = (tokensOfAll nodes).flatMap Token.write
  | [] => rfl
  | node :: rest => by
    rw [writeAll, tokensOfAll, List.flatMap_append, writeNode_eq_flatMap node,
      writeAll_eq_flatMap rest]

theorem writeElse_eq_flatMap : (no : Option (List Node)) →
    writeElse no = (tokensOfElse no).flatMap Token.write
  | none => rfl
  | some nodes => by
    rw [writeElse, tokensOfElse, List.flatMap_cons, writeAll_eq_flatMap nodes]
    rfl

theorem writeNode_eq_flatMap : (node : Node) →
    writeNode node = (tokensOfNode node).flatMap Token.write
  | .literal text => by simp [writeNode, tokensOfNode, Token.write]
  | .tag name => by simp [writeNode, tokensOfNode, Token.write]
  | .conditional name yes no => by
    simp [writeNode, tokensOfNode, Token.write, writeAll_eq_flatMap yes, writeElse_eq_flatMap no]

end

/-! ## The tokens of a normal form -/

theorem isWritten_of_proper {allowed : Nat} {nodes : List Node} (hproper : Proper allowed nodes) :
    ∀ token ∈ tokensOfAll nodes, token.IsWritten := by
  have htext : ∀ {text : String}, text ≠ "" → (Token.text text.toList).IsWritten := by
    intro text hne
    refine ⟨fun heq => hne ?_, by simp⟩
    simpa using heq
  have hdelimiter : ∀ token : Token, token = .opening ∨ token = .closing ∨ token = .bar →
      token.IsWritten := by
    rintro token (rfl | rfl | rfl) <;> exact ⟨by simp, by simp⟩
  induction hproper with
  | nil => simp [tokensOfAll]
  | literal hne hrest ih =>
      simp only [tokensOfAll, tokensOfNode, List.singleton_append, List.forall_mem_cons]
      exact ⟨htext hne, ih⟩
  | tag hname hrest ih =>
      simp only [tokensOfAll, tokensOfNode, List.cons_append, List.nil_append,
        List.forall_mem_cons]
      exact ⟨hdelimiter _ (by simp), htext hname.nonempty, hdelimiter _ (by simp), ih⟩
  | @conditional allowed name yes no rest hname hshows hyes hno hrest ihyes ihno ihrest =>
      have helse : ∀ token ∈ tokensOfElse no, token.IsWritten := by
        cases no with
        | none => simp [tokensOfElse]
        | some nodes => exact List.forall_mem_cons.mpr ⟨hdelimiter _ (by simp), ihno⟩
      simp only [tokensOfAll, tokensOfNode, List.cons_append, List.forall_mem_cons,
        List.forall_mem_append]
      exact ⟨hdelimiter _ (by simp), htext hname.nonempty, hdelimiter _ (by simp),
        ⟨⟨ihyes, helse⟩, hdelimiter _ (by simp), List.forall_mem_nil _⟩, ihrest⟩

/-- A sequence that starts with no literal starts with no text. -/
theorem head?_tokensOfAll_append {nodes : List Node} {following : List Token}
    (hnodes : ∀ text more, nodes ≠ .literal text :: more)
    (hfollowing : ∀ literal, following.head? ≠ some (.text literal)) :
    ∀ literal, (tokensOfAll nodes ++ following).head? ≠ some (.text literal) := by
  cases nodes with
  | nil => exact hfollowing
  | cons node rest =>
      cases node with
      | literal text => exact absurd rfl (hnodes text rest)
      | tag | conditional => simp [tokensOfAll, tokensOfNode]

/-- No text of a sequence runs into the next token, and the last one not into what follows unless that
is a text. -/
theorem isChain_tokensOfAll_append {nodes : List Node} (hapart : Apart nodes)
    {following : List Token} (hchain : following.IsChain Token.Separate)
    (hfollowing : ∀ literal, following.head? ≠ some (.text literal)) :
    (tokensOfAll nodes ++ following).IsChain Token.Separate := by
  induction hapart generalizing following with
  | nil => exact hchain
  | @literal text rest hnext hrest ih =>
      refine List.isChain_cons.mpr ⟨?_, ih hchain hfollowing⟩
      rintro _ hhead _ _ next rfl
      exact head?_tokensOfAll_append hnext hfollowing next hhead
  | @tag name rest hrest ih =>
      have hclosing : (.closing :: (tokensOfAll rest ++ following)).IsChain Token.Separate :=
        (isChain_cons_of_delimiter (by simp)).mpr (ih hchain hfollowing)
      refine (isChain_cons_of_delimiter (by simp)).mpr (List.isChain_cons_cons.mpr ⟨?_, hclosing⟩)
      intro _ _
      simp
  | @conditional name yes no rest hyes hno hrest ihyes ihno ihrest =>
      have hclosing : (.closing :: (tokensOfAll rest ++ following)).IsChain Token.Separate :=
        (isChain_cons_of_delimiter (by simp)).mpr (ihrest hchain hfollowing)
      -- from the back: what follows each part starts with a delimiter
      have helse : (tokensOfElse no ++ .closing :: (tokensOfAll rest ++ following)).IsChain
          Token.Separate := by
        cases no with
        | none => exact hclosing
        | some nodes =>
            exact (isChain_cons_of_delimiter (by simp)).mpr (ihno hclosing (by simp))
      have hbar : (.bar :: (tokensOfAll yes ++
          (tokensOfElse no ++ .closing :: (tokensOfAll rest ++ following)))).IsChain
          Token.Separate := by
        refine (isChain_cons_of_delimiter (by simp)).mpr (ihyes helse ?_)
        cases no <;> simp [tokensOfElse]
      have htokens : tokensOfAll (.conditional name yes no :: rest) ++ following =
          .opening :: .text name.toList :: .bar :: (tokensOfAll yes ++
            (tokensOfElse no ++ .closing :: (tokensOfAll rest ++ following))) := by
        simp [tokensOfAll, tokensOfNode]
      rw [htokens]
      refine (isChain_cons_of_delimiter (by simp)).mpr (List.isChain_cons_cons.mpr ⟨?_, hbar⟩)
      intro _ _
      simp

/-! ## From tokens to the tree -/

theorem expression_tag (branch : Branch) {name : String} (hname : IsName name)
    (rest : List Token) :
    expression (some branch) (.text name.toList :: .closing :: rest) =
      (some (.tag name), rest) := by
  simp [expression, close, Node.isVoid, tiedName_of_untied hname.untied]

/-- A conditional is read from its tokens by a reader that reads its branches from theirs. -/
theorem expression_conditional {branch : Branch} {name : String} (hname : IsName name)
    {yes : List Node} {no : Option (List Node)} (hshows : yes ≠ [] ∨ no.getD [] ≠ [])
    {rest : List Token}
    (hyes : branch (tokensOfAll yes ++ (tokensOfElse no ++ .closing :: rest)) =
      (yes, tokensOfElse no ++ .closing :: rest))
    (hno : branch (tokensOfAll (no.getD []) ++ .closing :: rest) =
      (no.getD [], .closing :: rest)) :
    expression (some branch) (.text name.toList :: .bar ::
        (tokensOfAll yes ++ (tokensOfElse no ++ .closing :: rest))) =
      (some (.conditional name yes no), rest) := by
  have hvoid : (Node.conditional name yes no).isVoid = false := by
    rw [Node.isVoid, Bool.and_eq_false_iff]
    simpa using hshows
  rw [expression]
  cases no with
  | none =>
      simp only [tokensOfElse, List.nil_append] at hyes
      simp [tokensOfElse, hyes, close, hvoid, tiedName_of_untied hname.untied]
  | some nodes =>
      simp only [tokensOfElse, List.cons_append] at hyes
      simp only [Option.getD_some] at hno
      simp [tokensOfElse, hyes, hno, close, hvoid, tiedName_of_untied hname.untied]

/-- Reading the tokens of a sequence adds the sequence to what is read from the tokens after them. -/
theorem sequence_tokensOfAll_append {allowed : Nat} {nodes : List Node}
    (hproper : Proper allowed nodes) (following : List Token) :
    sequence allowed (tokensOfAll nodes ++ following) =
      (nodes ++ (sequence allowed following).1, (sequence allowed following).2) := by
  induction hproper generalizing following with
  | nil => rfl
  | literal htext hrest ih =>
      simp only [tokensOfAll, tokensOfNode, List.cons_append, List.nil_append, sequence_text, ih,
        String.ofList_toList]
  | tag hname hrest ih =>
      simp only [tokensOfAll, tokensOfNode, List.cons_append, List.nil_append, sequence_opening,
        inner?, expression_tag _ hname, ih, Option.toList_some]
  | @conditional allowed name yes no rest hname hshows hyes hno hrest ihyes ihno ihrest =>
      have hend : EndsSequence (tokensOfElse no ++ .closing :: (tokensOfAll rest ++ following)) := by
        cases no <;> trivial
      have hclosing : EndsSequence (.closing :: (tokensOfAll rest ++ following)) := trivial
      -- a branch is read up to the bar or the bracket after it, where every sequence ends
      have hbranchYes := ihyes (tokensOfElse no ++ .closing :: (tokensOfAll rest ++ following))
      have hbranchNo := ihno (.closing :: (tokensOfAll rest ++ following))
      rw [sequence_of_end _ hend, List.append_nil] at hbranchYes
      rw [sequence_of_end _ hclosing, List.append_nil] at hbranchNo
      have hread := expression_conditional hname hshows hbranchYes hbranchNo
      simp only [tokensOfAll, tokensOfNode, List.cons_append, List.append_assoc, List.nil_append,
        sequence_opening, inner?, hread, ihrest, Option.toList_some]

theorem ofTokens_tokensOfAll {nodes : List Node} (hproper : Proper maxDepth nodes) :
    ofTokens (tokensOfAll nodes ++ [.endOfPattern]) = nodes := by
  have hend : EndsSequence [.endOfPattern] := trivial
  have hread := sequence_tokensOfAll_append hproper [.endOfPattern]
  rw [sequence_of_end _ hend, List.append_nil] at hread
  rw [ofTokens, List.length_append, List.length_singleton, sequences]
  simp only [hread]

/-! ## Reading what is written -/

theorem tokenize_write {nodes : List Node} (hnormal : NormalForm nodes)
    (hstart : ∀ c ∈ (write nodes).toList.head?, Text.isBlank c = false)
    (hend : ∀ c ∈ (write nodes).toList.getLast?, Text.isBlank c = false) :
    tokenize (write nodes) = .ok (tokensOfAll nodes ++ [.endOfPattern]) := by
  have hglyphs : glyphs? (write nodes).toList =
      some ((tokensOfAll nodes).flatMap Token.glyphs ++ []) := by
    have hread := glyphs?_flatMap_write (tokensOfAll nodes) []
    rw [List.append_nil] at hread
    rw [write, String.toList_ofList, writeAll_eq_flatMap, hread]
    rfl
  have hchain := isChain_tokensOfAll_append hnormal.apart
    (List.isChain_singleton Token.endOfPattern) (by simp)
  have htokens := tokensOfGlyphs_flatMap [] (isWritten_of_proper hnormal.proper) hchain
  rw [tokenize, Text.trimStart_of_unblank hstart, Text.trimEnd_of_unblank hend, hglyphs]
  simp only [htokens]
  rfl

/-- The written form of a tree in normal form is read as that tree, unless it starts or ends with a
blank. A second branch that is empty is told apart from one that is missing. -/
theorem parse_write {nodes : List Node} (hnormal : NormalForm nodes)
    (hstart : ∀ c ∈ (write nodes).toList.head?, Text.isBlank c = false)
    (hend : ∀ c ∈ (write nodes).toList.getLast?, Text.isBlank c = false) :
    parse (write nodes) = .ok nodes := by
  rw [parse, tokenize_write hnormal hstart hend, Except.map, ofTokens_tokensOfAll hnormal.proper]

/-- A tree with escapes, names that tie tags, and branches that are empty or missing. -/
def sampleTree : List Node :=
  [.conditional "~a~b" [.literal "<|"] (some []), .literal " \\",
    .conditional "c" [] (some [.tag "d", .conditional "~#e" [.literal " "] none])]

theorem parse_write_sampleTree :
    NormalForm sampleTree ∧ write sampleTree = "<~a~b|\\<\\||> \\\\<c||<d><~#e| >>" ∧
      parse "<~a~b|\\<\\||> \\\\<c||<d><~#e| >>" = .ok sampleTree := by
  have hname : ∀ name ∈ ["~a~b", "c", "d", "~#e"], IsName name := by
    intro name hmem
    refine ⟨?_, ?_⟩ <;> revert name <;> decide
  have hnormal : NormalForm sampleTree := by
    constructor
    · refine .conditional (hname _ (by decide)) (by simp) (.literal (by decide) .nil) .nil
        (.literal (by decide) (.conditional (hname _ (by decide)) (by simp) .nil ?_ .nil))
      exact .tag (hname _ (by decide))
        (.conditional (hname _ (by decide)) (by simp) (.literal (by decide) .nil) .nil .nil)
    · refine .conditional (.literal (by simp) .nil) .nil
        (.literal (by simp) (.conditional .nil (.tag ?_) .nil))
      exact .conditional (.literal (by simp) .nil) .nil .nil
  have hwrite : write sampleTree = "<~a~b|\\<\\||> \\\\<c||<d><~#e| >>" := by decide
  refine ⟨hnormal, hwrite, ?_⟩
  rw [← hwrite]
  refine parse_write hnormal ?_ ?_
  all_goals
    intro c hc
    cases hc
    decide

end Songbook.Pattern
