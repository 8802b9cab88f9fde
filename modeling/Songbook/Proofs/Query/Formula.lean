import Mathlib.Data.List.MinMax
import Songbook.Query.Parser

/-!
# Query trees

The queries that can be built by hand, what each stands for as a predicate, and how it is written.
Groups and negations are the same for whole expressions and for the values of tag matches, so both are
formulas, over elements of their own. An element carries the proof that it can be read: no tree holds
a tag name with a blank, a source that is no regular expression or a comparison that is refused.

A written query has blanks where a layout puts them. What stands between quotes or slashes is written
with a backslash before every delimiter and every backslash.
-/

namespace Songbook.Query

/-! ## Formulas -/

/-- How a group combines its items. -/
inductive Connective where
  | all
  | any

namespace Connective

/-- The character before the parenthesis of a group. -/
def mark : Connective → Char
  | all => '&'
  | any => '|'

/-- What a group of several items stands for. -/
def combine : Connective → List Predicate → Predicate
  | all => .intersection
  | any => .union

end Connective

/-- Negations and groups of one or more items, over elements. -/
inductive Formula (α : Type) where
  | element (content : α)
  | negation (inner : Formula α)
  | group (connective : Connective) (first : Formula α) (rest : List (Formula α))

namespace Formula

variable {α β : Type}

@[elab_as_elim]
theorem induction {motive : Formula α → Prop} (element : ∀ content, motive (.element content))
    (negation : ∀ inner, motive inner → motive (.negation inner))
    (group : ∀ connective first rest, (∀ item ∈ first :: rest, motive item) →
      motive (.group connective first rest))
    (formula : Formula α) : motive formula :=
  @Formula.rec α motive (fun items => ∀ item ∈ items, motive item) element negation
    (fun connective first rest hfirst hrest =>
      group connective first rest (List.forall_mem_cons.mpr ⟨hfirst, hrest⟩))
    (List.forall_mem_nil _)
    (fun _ _ hfirst hrest => List.forall_mem_cons.mpr ⟨hfirst, hrest⟩) formula

section Fold

variable (element : α → β) (negation : β → β) (group : Connective → List β → β)

mutual

/-- Build something along a formula, for a group from what its items give. -/
def fold : Formula α → β
  | .element content => element content
  | .negation inner => negation (fold inner)
  | .group connective first rest => group connective (fold first :: foldAll rest)

/-- What several formulas give. -/
def foldAll : List (Formula α) → List β
  | [] => []
  | formula :: rest => fold formula :: foldAll rest

end

theorem fold_group (connective : Connective) (first : Formula α) (rest : List (Formula α)) :
    fold element negation group (.group connective first rest) =
      group connective ((first :: rest).map (fold element negation group)) := by
  have hall : ∀ formulas, foldAll element negation group formulas =
      formulas.map (fold element negation group) := by
    intro formulas
    induction formulas with
    | nil => rfl
    | cons formula rest ih => rw [foldAll, ih, List.map_cons]
  rw [fold, hall, List.map_cons]

end Fold

/-- The predicate of a formula. A group of one item stands for that item. -/
def predicate (element : α → Predicate) : Formula α → Predicate :=
  fold element .negation fun connective => Predicate.collapse connective.combine

/-- The number of rules that are open at once when a formula is read. -/
def height (element : α → Nat) : Formula α → Nat :=
  fold element (· + 1) fun _ heights => heights.foldr max 0 + 1

end Formula

/-! ## Layouts -/

/-- The blanks of a written query: after the comma between tag names, after the comma between items,
and around the operator of a comparison. -/
structure Layout where
  afterName : List Char := []
  afterItem : List Char := [' ']
  beforeOperator : List Char := [' ']
  afterOperator : List Char := [' ']
  blank : ∀ blanks ∈ [afterName, afterItem, beforeOperator, afterOperator],
    blanks.all Text.isBlank = true := by decide

/-- Items between parentheses. -/
def writeItems (layout : Layout) (items : List (List Char)) : List Char :=
  '(' :: ((',' :: layout.afterItem).intercalate items ++ [')'])

/-- A formula as it is written, with a way to write its elements. -/
def Formula.write {α : Type} (layout : Layout) (element : α → List Char) :
    Formula α → List Char :=
  Formula.fold element ('!' :: ·) fun connective items =>
    connective.mark :: writeItems layout items

/-! ## Tag names -/

/-- A tag name of a query: one or more tag characters. -/
structure TagName where
  text : List Char
  nonempty : text ≠ []
  valid : text.all isTagChar = true

/-- The tag that a name stands for: a short form stands for its tag, in any case, and any other name
for itself in lower case. -/
def TagName.tag (name : TagName) : String :=
  match String.ofList (Unicode.lowercase name.text) with
  | "a" => "artist"
  | "b" => "album"
  | "v" => "version"
  | "t" => "title"
  | "n" => "tracknumber"
  | "d" => "date"
  | full => full

/-- The match of a regular expression against some tags. -/
def matchOf (tags : List String) (regex : Regex) : TagMatch where
  stored := tags.filter fun tag => !Tag.isSynthetic tag
  computed := tags.filter Tag.isSynthetic
  patterns := [regex]

/-! ## Matchers -/

/-- How a matcher is given: as text that has to be the whole of a value, or as a regular
expression. -/
inductive MatcherKind where
  | quoted
  | regex

namespace MatcherKind

def delimiter : MatcherKind → Char
  | quoted => '"'
  | regex => '/'

/-- The source of the regular expression of a matcher. -/
def source [RegexLibrary] : MatcherKind → List Char → List Char
  | quoted, text => '^' :: RegexLibrary.escape text ++ ['$']
  | regex, text => text

end MatcherKind

/-- A matcher, with the flag `c` if case counts. -/
structure MatcherTerm [RegexLibrary] where
  kind : MatcherKind
  text : List Char
  caseCounts : Bool
  accepted : (Regex.parse? (String.ofList (kind.source text)) !caseCounts).isSome = true

namespace MatcherTerm

def regex [RegexLibrary] (term : MatcherTerm) : Regex :=
  (Regex.parse? (String.ofList (term.kind.source term.text)) !term.caseCounts).get term.accepted

/-- A text with a backslash before every delimiter and every backslash. -/
def escaped (delimiter : Char) (text : List Char) : List Char :=
  text.flatMap fun c => if c = delimiter ∨ c = '\\' then ['\\', c] else [c]

def write [RegexLibrary] (term : MatcherTerm) : List Char :=
  term.kind.delimiter :: (escaped term.kind.delimiter term.text ++
    term.kind.delimiter :: if term.caseCounts then ['c'] else [])

end MatcherTerm

/-! ## Comparisons -/

/-- A comparison of a tag with a value, which is accepted at an instant. -/
structure ComparisonTerm (now : Binary64) where
  tag : TagName
  comparator : Comparator
  value : List Char
  noComma : ',' ∉ value
  noParenthesis : ')' ∉ value
  start : value.head?.any isOperatorChar = false
  accepted : (Comparison.read (String.ofList tag.text) comparator.symbol (String.ofList value)
    now).toOption.isSome = true

namespace ComparisonTerm

variable {now : Binary64}

def comparison (term : ComparisonTerm now) : Comparison :=
  (Comparison.read (String.ofList term.tag.text) term.comparator.symbol (String.ofList term.value)
    now).toOption.get term.accepted

def write (layout : Layout) (term : ComparisonTerm now) : List Char :=
  term.tag.text ++ (layout.beforeOperator ++ (term.comparator.symbol.toList ++
    (layout.afterOperator ++ term.value)))

end ComparisonTerm

/-! ## Expressions -/

/-- The value of a tag match. -/
abbrev Value [RegexLibrary] := Formula MatcherTerm

namespace Value

variable [RegexLibrary]

/-- The predicate of a value for given tags. -/
def predicate (tags : List String) : Value → Predicate :=
  Formula.predicate fun term => .tagMatch (matchOf tags term.regex)

def height : Value → Nat :=
  Formula.height fun _ => 1

def write (layout : Layout) : Value → List Char :=
  Formula.write layout MatcherTerm.write

end Value

/-- What expressions are made of: comparisons in parentheses, tag matches, and matchers of the default
tags. -/
inductive Atom [RegexLibrary] (now : Binary64) where
  | comparisons (first : ComparisonTerm now) (rest : List (ComparisonTerm now))
  | tags (first : TagName) (rest : List TagName) (value : Value)
  | matcher (term : MatcherTerm)

namespace Atom

variable [RegexLibrary] {now : Binary64}

def predicate : Atom now → Predicate
  | comparisons first rest =>
    .collapse .intersection ((first :: rest).map fun term => .comparison term.comparison)
  | tags first rest value => value.predicate ((first :: rest).map TagName.tag)
  | matcher term => .tagMatch (matchOf defaultTags term.regex)

def height : Atom now → Nat
  | comparisons _ _ => 1
  | tags _ _ value => value.height + 1
  | matcher _ => 1

def write (layout : Layout) : Atom now → List Char
  | comparisons first rest =>
    '#' :: writeItems layout ((first :: rest).map (ComparisonTerm.write layout))
  | tags first rest value =>
    (',' :: layout.afterName).intercalate ((first :: rest).map TagName.text) ++
      '=' :: value.write layout
  | matcher term => term.write

end Atom

/-- An expression whose comparisons are accepted at an instant. -/
abbrev Expression [RegexLibrary] (now : Binary64) := Formula (Atom now)

namespace Expression

variable [RegexLibrary] {now : Binary64}

def predicate : Expression now → Predicate :=
  Formula.predicate Atom.predicate

def height : Expression now → Nat :=
  Formula.height Atom.height

def write (layout : Layout) : Expression now → List Char :=
  Formula.write layout (Atom.write layout)

end Expression

variable [RegexLibrary]

/-- A query as it is written: its expressions with a space between them. -/
def writeQuery {now : Binary64} (layout : Layout) (query : List (Expression now)) : String :=
  String.ofList ([' '].intercalate (query.map (Expression.write layout)))

/-- The predicate of a query: that of a single expression, or else the intersection of all. -/
def queryPredicate {now : Binary64} (query : List (Expression now)) : Predicate :=
  .collapse .intersection (query.map Expression.predicate)

end Songbook.Query
