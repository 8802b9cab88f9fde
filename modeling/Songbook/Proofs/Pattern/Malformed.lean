import Mathlib.Data.List.Forall2
import Songbook.Proofs.Pattern.Tokens

/-!
# Trees of malformed patterns

Any pattern that has tokens has a tree, and its tag expressions may be as malformed as they like.
Two facts about the tree follow from how nodes are made of tokens. It is proper: no text or name is
empty, no conditional is without anything to show, and no tag expression is too deep. And the texts
in it are those of tokens: none is made up, used twice, joined to another one or moved.
-/

namespace Songbook.Pattern

/-! ## From tokens to the tree -/

theorem sequences_kept (rounds : Nat) (tokens : List Token) :
    Kept maxDepth tokens (sequences rounds tokens) := by
  induction rounds generalizing tokens with
  | zero => exact .none tokens
  | succ rounds ih =>
      obtain ⟨used, hused, hkept⟩ := sequence_keeps maxDepth tokens
      rw [sequences_succ]
      conv => enter [2]; rw [hused]
      refine hkept.append ?_
      -- the token that ends a sequence is dropped, and the end of the pattern with all behind it
      cases (sequence maxDepth tokens).2 with
      | nil => exact .nil
      | cons token rest =>
          cases token with
          | endOfPattern => exact .none _
          | text | opening | closing | bar => exact .dropped (ih rest)

/-- The tree of tokens is made from them. -/
theorem ofTokens_kept (tokens : List Token) : Kept maxDepth tokens (ofTokens tokens) :=
  sequences_kept tokens.length tokens

theorem exists_kept_of_parse {source : String} {nodes : List Node}
    (hparse : parse source = .ok nodes) :
    ∃ tokens, tokenize source = .ok tokens ∧ Kept maxDepth tokens nodes := by
  unfold parse at hparse
  cases htokens : tokenize source with
  | error position => simp [htokens, Except.map] at hparse
  | ok tokens =>
      rw [htokens] at hparse
      cases hparse
      exact ⟨tokens, rfl, ofTokens_kept tokens⟩

/-! ## Trees of patterns are proper -/

/-- The name of a tag expression holds a `~` only behind one that it starts with. -/
theorem isName_tiedName {name : List Char} (hname : name ≠ []) :
    IsName (tiedName (String.ofList name)) := by
  have hne : String.ofList name ≠ "" := by simpa using hname
  by_cases htied : Tag.isSynthetic (String.ofList name) = true ∨
      Tag.sigil ∉ (String.ofList name).toList
  · rw [tiedName_of_untied htied]
    exact ⟨hne, htied⟩
  · rw [not_or, Bool.not_eq_true, not_not] at htied
    rw [tiedName_of_tied htied.1 htied.2]
    exact ⟨by simp, Or.inl (by simp [Tag.isSynthetic])⟩

theorem Kept.proper {allowed : Nat} {tokens : List Token} {nodes : List Node}
    (hkept : Kept allowed tokens nodes) (hfilled : .text [] ∉ tokens) : Proper allowed nodes := by
  have hne : ∀ {text : List Char}, Token.text [] ≠ .text text → text ≠ [] := by
    rintro _ htext rfl
    exact htext rfl
  induction hkept with
  | nil => exact .nil
  | dropped hrest ih => exact ih (List.not_mem_of_not_mem_cons hfilled)
  | literal hrest ih =>
      rw [List.mem_cons, not_or] at hfilled
      exact .literal (by simpa using hne hfilled.1) (ih hfilled.2)
  | tag hrest ih =>
      simp only [List.mem_cons, not_or] at hfilled
      obtain ⟨_, hname, _, hfilled⟩ := hfilled
      exact .tag (isName_tiedName (hne hname)) (ih hfilled)
  | conditional hshows hyes hno hrest ihyes ihno ih =>
      simp only [List.mem_cons, List.mem_append, not_or] at hfilled
      obtain ⟨_, hname, _, ⟨hfirst, hsecond⟩, _, hfilled⟩ := hfilled
      exact .conditional (isName_tiedName (hne hname)) hshows (ihyes hfirst) (ihno hsecond)
        (ih hfilled)

/-- The tree of any pattern is proper, however malformed its tag expressions are: no literal and no
name is empty, names that hold a `~` start with one, every conditional can show something, and no
tag expression stands in more than 127 conditionals. -/
theorem proper_of_parse {source : String} {nodes : List Node} (hparse : parse source = .ok nodes) :
    Proper maxDepth nodes := by
  obtain ⟨tokens, htokens, hkept⟩ := exists_kept_of_parse hparse
  exact hkept.proper (areTokens_of_tokenize htokens).filled

/-- What is kept of the pattern `a><c~d|e<|f><g>|<h|>>b<i`, with a stray bracket and tag expressions
that have no name, show nothing or are not closed. -/
def keptTree : List Node :=
  [.literal "a", .conditional "~c~d" [.literal "e", .tag "g"] (some []), .literal "b"]

theorem proper_keptTree :
    parse "a><c~d|e<|f><g>|<h|>>b<i" = .ok keptTree ∧ Proper 128 keptTree := by
  have hparse : parse "a><c~d|e<|f><g>|<h|>>b<i" = .ok keptTree := rfl
  exact ⟨hparse, proper_of_parse hparse⟩

/-! ## Texts of a tree -/

/-- A text that stands in a tree. -/
inductive Mention where
  | literal (text : String)
  | name (tag : String)

/-- Whether what stands in a tree is the text of a token: a literal as it is, and a name once the
`~` that it may lack is in front of it. -/
def Mention.IsFrom : Mention → List Char → Prop
  | literal text, token => text = String.ofList token
  | name tag, token => tag = tiedName (String.ofList token)

mutual

/-- The texts of a sequence in order. -/
def mentionsOfAll : List Node → List Mention
  | [] => []
  | node :: rest => mentionsOfNode node ++ mentionsOfAll rest

/-- The texts of a branch that may be missing. -/
def mentionsOfBranch : Option (List Node) → List Mention
  | none => []
  | some nodes => mentionsOfAll nodes

/-- The texts of a node: its name comes before its branches. -/
def mentionsOfNode : Node → List Mention
  | .literal text => [.literal text]
  | .tag name => [.name name]
  | .conditional name yes no => .name name :: (mentionsOfAll yes ++ mentionsOfBranch no)

end

theorem mentionsOfBranch_eq (no : Option (List Node)) :
    mentionsOfBranch no = mentionsOfAll (no.getD []) := by
  cases no <;> rfl

/-- The text of a token, if it is one. -/
def Token.text? : Token → Option (List Char)
  | text literal => some literal
  | _ => none

/-- Each text of a tree is that of one token, and their order is that of the tokens. -/
def AreTextsOf (nodes : List Node) (tokens : List Token) : Prop :=
  ∃ texts, texts.Sublist (tokens.filterMap Token.text?) ∧
    List.Forall₂ Mention.IsFrom (mentionsOfAll nodes) texts

theorem Kept.areTextsOf {allowed : Nat} {tokens : List Token} {nodes : List Node}
    (hkept : Kept allowed tokens nodes) : AreTextsOf nodes tokens := by
  induction hkept with
  | nil => exact ⟨[], List.nil_sublist _, .nil⟩
  | dropped hrest ih =>
      obtain ⟨texts, hsublist, hfrom⟩ := ih
      exact ⟨texts, hsublist.trans ((List.sublist_cons_self _ _).filterMap _), hfrom⟩
  | @literal allowed literal tokens nodes hrest ih =>
      obtain ⟨texts, hsublist, hfrom⟩ := ih
      exact ⟨literal :: texts, hsublist.cons_cons _, .cons rfl hfrom⟩
  | @tag allowed name tokens nodes hrest ih =>
      obtain ⟨texts, hsublist, hfrom⟩ := ih
      exact ⟨name :: texts, hsublist.cons_cons _, .cons rfl hfrom⟩
  | @conditional allowed name first second tokens yes no nodes _ _ _ _ ihyes ihno ih =>
      obtain ⟨yesTexts, hyesSublist, hyesFrom⟩ := ihyes
      obtain ⟨noTexts, hnoSublist, hnoFrom⟩ := ihno
      obtain ⟨texts, hsublist, hfrom⟩ := ih
      refine ⟨name :: (yesTexts ++ noTexts) ++ texts, ?_, ?_⟩
      · have htexts : (.opening :: .text name :: .bar :: (first ++ second ++ .closing :: tokens)
            : List Token).filterMap Token.text? = name :: (first.filterMap Token.text? ++
              second.filterMap Token.text?) ++ tokens.filterMap Token.text? := by
          simp [List.filterMap_cons, Token.text?]
        rw [htexts]
        exact ((hyesSublist.append hnoSublist).cons_cons _).append hsublist
      · have hname : Mention.IsFrom (.name (tiedName (String.ofList name))) name := rfl
        have hbranches : List.Forall₂ Mention.IsFrom
            (mentionsOfAll yes ++ mentionsOfAll (no.getD [])) (yesTexts ++ noTexts) :=
          List.rel_append hyesFrom hnoFrom
        rw [mentionsOfAll, mentionsOfNode, mentionsOfBranch_eq]
        exact List.rel_append (.cons hname hbranches) hfrom

/-- The texts of the tree of a pattern, read from its start to its end with the name of a tag
expression before its branches, are texts of its tokens: some of these may be missing, but none is
made up, used twice, joined to another one or moved. -/
theorem texts_of_parse {source : String} {nodes : List Node} (hparse : parse source = .ok nodes) :
    ∃ tokens, tokenize source = .ok tokens ∧ AreTextsOf nodes tokens := by
  obtain ⟨tokens, htokens, hkept⟩ := exists_kept_of_parse hparse
  exact ⟨tokens, htokens, hkept.areTextsOf⟩

theorem texts_of_keptTree :
    parse "a><c~d|e<|f><g>|<h|>>b<i" = .ok keptTree ∧
      mentionsOfAll keptTree =
        [.literal "a", .name "~c~d", .literal "e", .name "g", .literal "b"] ∧
      ∃ tokens, tokenize "a><c~d|e<|f><g>|<h|>>b<i" = .ok tokens ∧
        tokens.filterMap Token.text? =
          [['a'], ['c', '~', 'd'], ['e'], ['f'], ['g'], ['h'], ['b'], ['i']] ∧
        AreTextsOf keptTree tokens := by
  have hparse : parse "a><c~d|e<|f><g>|<h|>>b<i" = .ok keptTree := rfl
  obtain ⟨tokens, htokens, htexts⟩ := texts_of_parse hparse
  refine ⟨hparse, rfl, tokens, htokens, ?_, htexts⟩
  cases htokens
  rfl

end Songbook.Pattern
