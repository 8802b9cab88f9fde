import Songbook.Query.Parser

/-!
# What the rules of queries do

For each rule, the ways in which it can succeed are listed once, so that a statement about every query
is a case analysis with an induction on the number of rules that may be open. The first consequence is
that every rule reads something: what it leaves is a proper end of the text it was given.
-/

namespace Songbook.Query

/-! ## Groups -/

/-- The items after the first one of a group, read up to the closing parenthesis. -/
inductive Items (item : Rule Predicate) : List Char → List Predicate → List Char → Prop
  | close {text rest} (hclose : Text.trimStart text = ')' :: rest) : Items item text [] rest
  | comma {text after first middle items rest} (hcomma : Text.trimStart text = ',' :: after)
      (hfirst : item after = .ok (first, middle)) (hitems : Items item middle items rest) :
      Items item text (first :: items) rest

theorem items_of_moreItems {item : Rule Predicate} {opened : List Char} {rounds : Nat}
    {text : List Char} {items : List Predicate} {rest : List Char}
    (hmore : moreItems item opened rounds text = .ok (items, rest)) :
    Items item text items rest := by
  induction rounds generalizing text items with
  | zero => cases hmore
  | succ rounds ih =>
      rw [moreItems] at hmore
      split at hmore
      next after hcomma =>
        split at hmore
        next => cases hmore
        next first middle hfirst =>
          split at hmore
          next => cases hmore
          next later last hlater =>
            cases hmore
            exact .comma hcomma hfirst (ih hlater)
      next after hclose =>
        cases hmore
        exact .close hclose
      next => cases hmore
      next => cases hmore

/-- How a group succeeds: with its first item, the items after it and the closing parenthesis. -/
theorem group_eq_ok {combine : List Predicate → Predicate} {item : Rule Predicate}
    {inner : List Char} {predicate : Predicate} {rest : List Char}
    (hgroup : group combine item ('(' :: inner) = .ok (predicate, rest)) :
    ∃ first middle items, item inner = .ok (first, middle) ∧ Items item middle items rest ∧
      predicate = .collapse combine (first :: items) := by
  simp only [group, List.drop_succ_cons, List.drop_zero] at hgroup
  split at hgroup
  next => cases hgroup
  next first middle hfirst =>
    split at hgroup
    next => cases hgroup
    next items last hitems =>
      cases hgroup
      exact ⟨first, middle, items, hfirst, items_of_moreItems hitems, rfl⟩

/-! ## Matchers and comparisons -/

section Library

variable [RegexLibrary]

/-- The ways in which a matcher succeeds. -/
inductive MatcherStep (text : List Char) (regex : Regex) (rest : List Char) : Prop
  | slashes {inner source after} (hstart : Text.trimStart text = '/' :: inner)
      (hsource : readDelimited? '/' inner = some (source, after))
      (hflagged : flagged source after = .ok (regex, rest))
  | quotes {inner quoted after} (hstart : Text.trimStart text = '"' :: inner)
      (hquoted : readDelimited? '"' inner = some (quoted, after))
      (hflagged : flagged (wholeSource quoted) after = .ok (regex, rest))
  | word (hslash : ∀ inner, Text.trimStart text ≠ '/' :: inner)
      (hquote : ∀ inner, Text.trimStart text ≠ '"' :: inner)
      (hword : (Text.trimStart text).takeWhile isWordChar ≠ [])
      (hflagged : flagged (RegexLibrary.escape ((Text.trimStart text).takeWhile isWordChar))
        ((Text.trimStart text).dropWhile isWordChar) = .ok (regex, rest))

theorem matcher_eq_ok_iff {text rest : List Char} {regex : Regex} :
    matcher text = .ok (regex, rest) ↔ MatcherStep text regex rest := by
  constructor
  · intro hmatcher
    simp only [matcher] at hmatcher
    split at hmatcher
    next inner hstart =>
      split at hmatcher
      next => cases hmatcher
      next source after hsource => exact .slashes hstart hsource hmatcher
    next inner hstart =>
      split at hmatcher
      next => cases hmatcher
      next quoted after hquoted => exact .quotes hstart hquoted hmatcher
    next hslash hquote =>
      split at hmatcher
      next => cases hmatcher
      next hword => exact .word hslash hquote hword hmatcher
  · rintro (⟨hstart, hsource, hflagged⟩ | ⟨hstart, hquoted, hflagged⟩ |
      ⟨hslash, hquote, hword, hflagged⟩)
    · simp only [matcher, hstart, hsource]
      exact hflagged
    · simp only [matcher, hstart, hquoted]
      exact hflagged
    · simp only [matcher]
      exact hflagged

theorem flagged_eq_ok_iff {source text rest : List Char} {regex : Regex} :
    flagged source text = .ok (regex, rest) ↔
      ∃ ignoreCase, ignoresCase true (text.takeWhile isFlagChar) = .ok ignoreCase ∧
        Regex.parse? (String.ofList source) ignoreCase = some regex ∧
        rest = text.dropWhile isFlagChar := by
  unfold flagged
  cases hflags : ignoresCase true (text.takeWhile isFlagChar) with
  | error flag => simp
  | ok ignoreCase =>
      cases hregex : Regex.parse? (String.ofList source) ignoreCase with
      | none => simp [hregex]
      | some built =>
          simp only [Except.ok.injEq, Prod.mk.injEq, exists_eq_left', hregex, Option.some.injEq]
          constructor
          · rintro ⟨rfl, rfl⟩
            exact ⟨rfl, rfl⟩
          · rintro ⟨rfl, rfl⟩
            exact ⟨rfl, rfl⟩

end Library

/-- The tag name that a text starts with. -/
def tagWord (text : List Char) : List Char :=
  (Text.trimStart text).takeWhile isTagChar

/-- A text after the tag name it starts with. -/
def afterTag (text : List Char) : List Char :=
  Text.trimStart ((Text.trimStart text).dropWhile isTagChar)

theorem tagNames?_of_none {text : List Char} (hword : tagWord text = []) :
    tagNames? text = none := by
  rw [tagWord] at hword
  rw [tagNames?]
  simp only [hword]

theorem tagNames?_of_equals {text after : List Char} (hword : tagWord text ≠ [])
    (hafter : afterTag text = '=' :: after) :
    tagNames? text = some ([String.ofList (tagWord text)], after) := by
  rw [afterTag] at hafter
  rw [tagNames?]
  split
  next hnone => exact absurd hnone hword
  next =>
    split
    next rest hrest =>
      cases hrest.symm.trans hafter
      rfl
    next rest hrest => cases hrest.symm.trans hafter
    next hequals _ => exact absurd hafter (hequals after)

theorem tagNames?_of_comma {text after : List Char} (hword : tagWord text ≠ [])
    (hafter : afterTag text = ',' :: after) :
    tagNames? text = (tagNames? after).map fun (names, rest) =>
      (String.ofList (tagWord text) :: names, rest) := by
  rw [afterTag] at hafter
  rw [tagNames?]
  split
  next hnone => exact absurd hnone hword
  next =>
    split
    next rest hrest => cases hrest.symm.trans hafter
    next rest hrest =>
      cases hrest.symm.trans hafter
      rfl
    next _ hcomma => exact absurd hafter (hcomma after)

theorem tagNames?_of_other {text : List Char} (hequals : ∀ after, afterTag text ≠ '=' :: after)
    (hcomma : ∀ after, afterTag text ≠ ',' :: after) : tagNames? text = none := by
  rw [tagNames?]
  split
  next => rfl
  next =>
    split
    next rest hrest => exact absurd hrest (hequals rest)
    next rest hrest => exact absurd hrest (hcomma rest)
    next => rfl

/-- Induction along a list of tag names: each comma after a name leads to the rest of the list. -/
@[elab_as_elim]
theorem tagNames_induction {motive : List Char → Prop}
    (none : ∀ text, tagWord text = [] → motive text)
    (equals : ∀ text after, tagWord text ≠ [] → afterTag text = '=' :: after → motive text)
    (comma : ∀ text after, tagWord text ≠ [] → afterTag text = ',' :: after → motive after →
      motive text)
    (other : ∀ text, tagWord text ≠ [] → (∀ after, afterTag text ≠ '=' :: after) →
      (∀ after, afterTag text ≠ ',' :: after) → motive text)
    (text : List Char) : motive text :=
  tagNames?.induct motive none
    (fun text after hafter hword => equals text after hword hafter)
    (fun text after hafter hword ih => comma text after hword hafter ih)
    (fun text hequals hcomma hword => other text hword hequals hcomma) text

/-- The characters of the values of comparisons. -/
def isQuantityChar (c : Char) : Bool :=
  !(c = ',' || c = ')')

/-- A comparison from its value on. -/
def afterOperator (text : List Char) : List Char :=
  (afterTag text).dropWhile isOperatorChar

/-- How a comparison succeeds: with a tag, an operator and a value up to a comma or a closing
parenthesis. -/
theorem comparison_eq_ok_iff {now : Binary64} {text rest : List Char} {predicate : Predicate} :
    comparison now text = .ok (predicate, rest) ↔
      tagWord text ≠ [] ∧ (afterTag text).takeWhile isOperatorChar ≠ [] ∧
      ∃ leaf, Comparison.read (String.ofList (tagWord text))
          (String.ofList ((afterTag text).takeWhile isOperatorChar))
          (String.ofList ((afterOperator text).takeWhile isQuantityChar)) now = .ok leaf ∧
        predicate = .comparison leaf ∧ rest = (afterOperator text).dropWhile isQuantityChar := by
  constructor
  · intro hcomparison
    simp only [comparison] at hcomparison
    split at hcomparison
    next => cases hcomparison
    next htag =>
      split at hcomparison
      next => cases hcomparison
      next hoperator =>
        split at hcomparison
        next => cases hcomparison
        next leaf hleaf =>
          cases hcomparison
          exact ⟨htag, hoperator, leaf, hleaf, rfl, rfl⟩
  · rintro ⟨htag, hoperator, leaf, hleaf, rfl, rfl⟩
    have hchars : isQuantityChar = fun c => !(c = ',' || c = ')') := rfl
    simp only [afterOperator, tagWord, afterTag, hchars] at htag hoperator hleaf ⊢
    simp only [comparison, hleaf]

/-! ## Expressions and values -/

theorem negated_eq_ok_iff {rule : Rule Predicate} {text rest : List Char}
    {predicate : Predicate} :
    negated rule text = .ok (predicate, rest) ↔
      ∃ inner, rule text = .ok (inner, rest) ∧ predicate = .negation inner := by
  unfold negated
  cases hrule : rule text with
  | error fault => simp
  | ok result =>
      obtain ⟨inner, after⟩ := result
      simp only [Except.ok.injEq, Prod.mk.injEq]
      constructor
      · rintro ⟨rfl, rfl⟩
        exact ⟨inner, ⟨rfl, rfl⟩, rfl⟩
      · rintro ⟨_, ⟨rfl, rfl⟩, rfl⟩
        exact ⟨rfl, rfl⟩

/-- Whether a text starts with a mark of an expression: a group or a negation. -/
def isMarked : List Char → Bool
  | '&' :: '(' :: _ => true
  | '|' :: '(' :: _ => true
  | '#' :: '(' :: _ => true
  | '!' :: _ => true
  | _ => false

/-- Whether a text starts with a mark of a value. Comparisons are no values. -/
def isValueMarked : List Char → Bool
  | '&' :: '(' :: _ => true
  | '|' :: '(' :: _ => true
  | '!' :: _ => true
  | _ => false

variable [RegexLibrary]

/-- The ways in which an expression succeeds when one more rule may be open. -/
inductive ExpressionStep (now : Binary64) (allowed : Nat) (text : List Char) :
    Predicate → List Char → Prop
  | all {inner predicate rest} (hstart : Text.trimStart text = '&' :: '(' :: inner)
      (hgroup : group .intersection (expression now allowed) ('(' :: inner) =
        .ok (predicate, rest)) : ExpressionStep now allowed text predicate rest
  | any {inner predicate rest} (hstart : Text.trimStart text = '|' :: '(' :: inner)
      (hgroup : group .union (expression now allowed) ('(' :: inner) = .ok (predicate, rest)) :
      ExpressionStep now allowed text predicate rest
  | comparisons {inner predicate rest} (hstart : Text.trimStart text = '#' :: '(' :: inner)
      (hgroup : group .intersection (comparison now) ('(' :: inner) = .ok (predicate, rest)) :
      ExpressionStep now allowed text predicate rest
  | not {inner predicate rest} (hstart : Text.trimStart text = '!' :: inner)
      (hinner : expression now allowed inner = .ok (predicate, rest)) :
      ExpressionStep now allowed text (.negation predicate) rest
  | tags {names after predicate rest} (hplain : isMarked (Text.trimStart text) = false)
      (hnames : tagNames? (Text.trimStart text) = some (names, after))
      (hvalue : value names allowed after = .ok (predicate, rest)) :
      ExpressionStep now allowed text predicate rest
  | bare {regex rest} (hplain : isMarked (Text.trimStart text) = false)
      (hnames : tagNames? (Text.trimStart text) = none)
      (hmatcher : matcher (Text.trimStart text) = .ok (regex, rest)) :
      ExpressionStep now allowed text (.tagMatch (.ofNames defaultTags [regex])) rest

/-- The ways in which a value succeeds when one more rule may be open. -/
inductive ValueStep (names : List String) (allowed : Nat) (text : List Char) :
    Predicate → List Char → Prop
  | not {inner predicate rest} (hstart : Text.trimStart text = '!' :: inner)
      (hinner : value names allowed inner = .ok (predicate, rest)) :
      ValueStep names allowed text (.negation predicate) rest
  | all {inner predicate rest} (hstart : Text.trimStart text = '&' :: '(' :: inner)
      (hgroup : group .intersection (value names allowed) ('(' :: inner) =
        .ok (predicate, rest)) : ValueStep names allowed text predicate rest
  | any {inner predicate rest} (hstart : Text.trimStart text = '|' :: '(' :: inner)
      (hgroup : group .union (value names allowed) ('(' :: inner) = .ok (predicate, rest)) :
      ValueStep names allowed text predicate rest
  | plain {regex rest} (hplain : isValueMarked (Text.trimStart text) = false)
      (hmatcher : matcher (Text.trimStart text) = .ok (regex, rest)) :
      ValueStep names allowed text (.tagMatch (.ofNames names [regex])) rest

theorem matching_eq_ok_iff {names : List String} {text rest : List Char} {predicate : Predicate} :
    matching names text = .ok (predicate, rest) ↔
      ∃ regex, matcher text = .ok (regex, rest) ∧
        predicate = .tagMatch (.ofNames names [regex]) := by
  unfold matching
  cases hmatcher : matcher text with
  | error fault => simp
  | ok result =>
      obtain ⟨regex, after⟩ := result
      simp only [Except.ok.injEq, Prod.mk.injEq]
      constructor
      · rintro ⟨rfl, rfl⟩
        exact ⟨regex, ⟨rfl, rfl⟩, rfl⟩
      · rintro ⟨_, ⟨rfl, rfl⟩, rfl⟩
        exact ⟨rfl, rfl⟩

theorem expression_cases {now : Binary64} {allowed : Nat} {text rest : List Char}
    {predicate : Predicate} (hexpression : expression now allowed text = .ok (predicate, rest)) :
    ∃ fewer, allowed = fewer + 1 ∧ ExpressionStep now fewer text predicate rest := by
  cases allowed with
  | zero => cases hexpression
  | succ fewer =>
      refine ⟨fewer, rfl, ?_⟩
      rw [expression] at hexpression
      split at hexpression
      next inner hstart => exact .all hstart hexpression
      next inner hstart => exact .any hstart hexpression
      next inner hstart => exact .comparisons hstart hexpression
      next inner hstart =>
        obtain ⟨negated, hinner, rfl⟩ := negated_eq_ok_iff.mp hexpression
        exact .not hstart hinner
      next hall hany hcomparisons hnot =>
        have hplain : isMarked (Text.trimStart text) = false := by
          unfold isMarked
          split
          next inner hstart => exact absurd hstart (hall inner)
          next inner hstart => exact absurd hstart (hany inner)
          next inner hstart => exact absurd hstart (hcomparisons inner)
          next inner hstart => exact absurd hstart (hnot inner)
          next => rfl
        split at hexpression
        next names after hnames => exact .tags hplain hnames hexpression
        next hnames =>
          obtain ⟨regex, hmatcher, rfl⟩ := matching_eq_ok_iff.mp hexpression
          exact .bare hplain hnames hmatcher

theorem expression_of_plain {now : Binary64} {allowed : Nat} {text : List Char}
    (hplain : isMarked (Text.trimStart text) = false) :
    expression now (allowed + 1) text =
      match tagNames? (Text.trimStart text) with
      | some (names, rest) => value names allowed rest
      | none => matching defaultTags (Text.trimStart text) := by
  rw [expression]
  split
  next inner hstart => rw [hstart] at hplain; cases hplain
  next inner hstart => rw [hstart] at hplain; cases hplain
  next inner hstart => rw [hstart] at hplain; cases hplain
  next inner hstart => rw [hstart] at hplain; cases hplain
  next => rfl

theorem value_cases {names : List String} {allowed : Nat} {text rest : List Char}
    {predicate : Predicate} (hvalue : value names allowed text = .ok (predicate, rest)) :
    ∃ fewer, allowed = fewer + 1 ∧ ValueStep names fewer text predicate rest := by
  cases allowed with
  | zero => cases hvalue
  | succ fewer =>
      refine ⟨fewer, rfl, ?_⟩
      rw [value] at hvalue
      split at hvalue
      next inner hstart =>
        obtain ⟨negated, hinner, rfl⟩ := negated_eq_ok_iff.mp hvalue
        exact .not hstart hinner
      next inner hstart => exact .all hstart hvalue
      next inner hstart => exact .any hstart hvalue
      next hnot hall hany =>
        have hplain : isValueMarked (Text.trimStart text) = false := by
          unfold isValueMarked
          split
          next inner hstart => exact absurd hstart (hall inner)
          next inner hstart => exact absurd hstart (hany inner)
          next inner hstart => exact absurd hstart (hnot inner)
          next => rfl
        obtain ⟨regex, hmatcher, rfl⟩ := matching_eq_ok_iff.mp hvalue
        exact .plain hplain hmatcher

theorem value_of_plain {names : List String} {allowed : Nat} {text : List Char}
    (hplain : isValueMarked (Text.trimStart text) = false) :
    value names (allowed + 1) text = matching names (Text.trimStart text) := by
  rw [value]
  split
  next inner hstart => rw [hstart] at hplain; cases hplain
  next inner hstart => rw [hstart] at hplain; cases hplain
  next inner hstart => rw [hstart] at hplain; cases hplain
  next => rfl

end Songbook.Query
