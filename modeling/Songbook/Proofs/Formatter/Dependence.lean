import Songbook.Proofs.Formatter.Compiled
import Songbook.Proofs.Song.Tied
import Songbook.RegexEngine.Library

/-!
# What the output depends on

A formatter lists the tags its pattern refers to, tied ones as their parts. Two songs that agree on
these tags, give the same answer to every query that the pattern tests and, for a path, have the
same file name, are shown alike: nothing else of a song reaches the output.

The instant at which a pattern is compiled matters by its queries alone: where the names in a
pattern read as the same queries, the formatter is the same.
-/

namespace Songbook

namespace Pattern

mutual

/-- The queries that the conditionals of a sequence test, in order. -/
def queriesOfAll (queries : String → Option Predicate) : List Node → List Predicate
  | [] => []
  | node :: rest => queriesOfNode queries node ++ queriesOfAll queries rest

/-- The queries of a branch that may be missing. -/
def queriesOfBranch (queries : String → Option Predicate) : Option (List Node) → List Predicate
  | none => []
  | some nodes => queriesOfAll queries nodes

/-- The queries of a node. -/
def queriesOfNode (queries : String → Option Predicate) : Node → List Predicate
  | .literal _ => []
  | .tag _ => []
  | .conditional name yes no =>
    (queries name).toList ++ queriesOfAll queries yes ++ queriesOfBranch queries no

end

/-- Two views that cannot be told apart by fetching some names and asking some queries. -/
structure View.Agrees {V : Type} (left right : View V) (names : List String)
    (predicates : List Predicate) : Prop where
  fetch : ∀ name ∈ names, left.fetch name = right.fetch name
  isPresent : left.isPresent = right.isPresent
  answers : ∀ predicate ∈ predicates, left.answers predicate = right.answers predicate

section Agreement

variable {V : Type} {left right : View V} {queries : String → Option Predicate}

theorem View.Agrees.of_append {names more : List String} {predicates others : List Predicate}
    (hagrees : left.Agrees right (names ++ more) (predicates ++ others)) :
    left.Agrees right names predicates ∧ left.Agrees right more others := by
  refine ⟨⟨fun name hname => ?_, hagrees.isPresent, fun predicate hmem => ?_⟩,
    ⟨fun name hname => ?_, hagrees.isPresent, fun predicate hmem => ?_⟩⟩
  · exact hagrees.fetch name (List.mem_append_left _ hname)
  · exact hagrees.answers predicate (List.mem_append_left _ hmem)
  · exact hagrees.fetch name (List.mem_append_right _ hname)
  · exact hagrees.answers predicate (List.mem_append_right _ hmem)

theorem namesOfBranch_eq (no : Option (List Node)) :
    namesOfBranch queries no = namesOfAll queries (no.getD []) := by
  cases no <;> rfl

theorem queriesOfBranch_eq (no : Option (List Node)) :
    queriesOfBranch queries no = queriesOfAll queries (no.getD []) := by
  cases no <;> rfl

/-- A conditional tests the same in both views, whether its name is a query or a tag. -/
theorem takes_congr {name : String}
    (hagrees : left.Agrees right (if (queries name).isNone then [name] else [])
      (queries name).toList) :
    left.takes queries name = right.takes queries name := by
  unfold View.takes
  cases hquery : queries name with
  | some predicate => exact hagrees.answers predicate (by simp [hquery])
  | none =>
      have hfetch := hagrees.fetch name (by simp [hquery])
      simp only [hfetch, hagrees.isPresent]

/-- Views that agree on the names and the queries of a tree see the same pieces of it. -/
theorem evaluateAll_congr {nodes : List Node}
    (hagrees : left.Agrees right (namesOfAll queries nodes) (queriesOfAll queries nodes)) :
    evaluateAll left queries nodes = evaluateAll right queries nodes := by
  induction nodes using sequence_induction with
  | nil => rfl
  | literal text rest ih =>
      rw [evaluateAll, evaluateAll, ih hagrees]
      rfl
  | tag name rest ih =>
      have happend : left.Agrees right ([name] ++ namesOfAll queries rest)
        ([] ++ queriesOfAll queries rest) := hagrees
      obtain ⟨hname, hrest⟩ := happend.of_append
      have hfetch := hname.fetch name List.mem_cons_self
      simp only [evaluateAll, evaluateNode, hfetch, ih hrest]
  | conditional name yes no rest ihyes ihno ihrest =>
      simp only [namesOfAll, namesOfNode, namesOfBranch_eq, queriesOfAll, queriesOfNode,
        queriesOfBranch_eq, List.append_assoc] at hagrees
      -- names and queries are listed part by part in the same order, so both lists split alike
      obtain ⟨hname, hinner⟩ := hagrees.of_append
      obtain ⟨hyes, hinner⟩ := hinner.of_append
      obtain ⟨hno, hrest⟩ := hinner.of_append
      simp only [evaluateAll, evaluateNode, evaluateBranch_eq, takes_congr hname, ihyes hyes,
        ihno hno, ihrest hrest]

end Agreement

theorem mem_firstOccurrences {name : String} {names : List String} :
    name ∈ firstOccurrences names ↔ name ∈ names := by
  suffices hfold : ∀ seen, name ∈ names.foldl
      (fun seen name => if seen.contains name then seen else seen ++ [name]) seen ↔
      name ∈ seen ∨ name ∈ names by
    simpa [firstOccurrences] using hfold []
  induction names with
  | nil => simp
  | cons first rest ih =>
      intro seen
      rw [List.foldl_cons, ih, List.mem_cons]
      split
      next hseen =>
        have hfirst : first ∈ seen := List.contains_iff_mem.mp hseen
        constructor
        · exact Or.imp_right Or.inr
        · rintro (hmem | rfl | hmem)
          · exact Or.inl hmem
          · exact Or.inl hfirst
          · exact Or.inr hmem
      next => rw [List.mem_append, List.mem_singleton, or_assoc]

theorem mem_referencedTags {queries : String → Option Predicate} {nodes : List Node}
    {part : String} :
    part ∈ referencedTags queries nodes ↔
      ∃ name ∈ namesOfAll queries nodes, part ∈ Tag.split name := by
  rw [referencedTags, mem_firstOccurrences, List.mem_flatMap]

end Pattern

namespace Formatter

open Pattern

/-- Two songs that a formatter with these tags and queries cannot tell apart. Only a path looks at
the file name, for its extension. -/
structure Indistinct [RegexLibrary] (dialect : Dialect) (tags : List String)
    (predicates : List Predicate) (left right : Song) : Prop where
  comma : ∀ tag ∈ tags, left.comma tag = right.comma tag
  list : ∀ tag ∈ tags, left.list tag = right.list tag
  answers : ∀ predicate ∈ predicates,
    predicate.holds left.toRecord = predicate.holds right.toRecord
  filename : dialect = .path → left.comma "~filename" = right.comma "~filename"

variable {dialect : Dialect} {queries : String → Option Predicate} {nodes : List Node}
  {left right : Song}

theorem finish_congr {formatter : Formatter} {left right : Record}
    (hfilename : formatter.dialect = .path → left.comma "~filename" = right.comma "~filename") :
    formatter.finish left = formatter.finish right := by
  funext output
  unfold finish
  cases hdialect : formatter.dialect with
  | path => simp only [Path.finish, hfilename hdialect]
  | plain | markup | bracketMarkup => rfl

section Library

variable [RegexLibrary]

/-- The texts of all names in a tree agree, tied ones too, once those of the listed tags do. -/
theorem Indistinct.agrees_text
    (hsame : Indistinct dialect (referencedTags queries nodes) (queriesOfAll queries nodes)
      left right) :
    (View.text left.toRecord).Agrees (View.text right.toRecord) (namesOfAll queries nodes)
      (queriesOfAll queries nodes) where
  fetch name hname := Song.comma_congr fun part hpart =>
    hsame.comma part (mem_referencedTags.mpr ⟨name, hname, hpart⟩)
  isPresent := rfl
  answers := hsame.answers

theorem Indistinct.agrees_values
    (hsame : Indistinct dialect (referencedTags queries nodes) (queriesOfAll queries nodes)
      left right) :
    (View.values left.toRecord).Agrees (View.values right.toRecord) (namesOfAll queries nodes)
      (queriesOfAll queries nodes) where
  fetch name hname := Song.list_congr fun part hpart =>
    hsame.list part (mem_referencedTags.mpr ⟨name, hname, hpart⟩)
  isPresent := rfl
  answers := hsame.answers

variable {source : String} {settings : Path.Settings} {now : Binary64} {formatter : Formatter}

/-- A formatter shows two songs alike, as one text and as a set of texts. -/
def ShownAlike (formatter : Formatter) (left right : Song) : Prop :=
  formatter.format left.toRecord = formatter.format right.toRecord ∧
    formatter.formatAll left.toRecord = formatter.formatAll right.toRecord

theorem shownAlike_ofTree
    (hsame : Indistinct dialect (referencedTags (queryOf? now) nodes)
      (queriesOfAll (queryOf? now) nodes) left right) :
    (ofTree source dialect settings now nodes).ShownAlike left right := by
  have hfinish : (ofTree source dialect settings now nodes).finish left.toRecord =
      (ofTree source dialect settings now nodes).finish right.toRecord :=
    finish_congr hsame.filename
  have htext := evaluateAll_congr hsame.agrees_text
  have hvalues := evaluateAll_congr hsame.agrees_values
  constructor
  · unfold format rawOutput
    rw [pieces_ofTree, pieces_ofTree, htext, hfinish]
  · unfold formatAll
    rw [pieces_ofTree, pieces_ofTree, hvalues, hfinish]

/-- Songs that a compiled pattern cannot tell apart by its tags, its queries and, in a path, their
file names are shown alike. So a pattern without tags and queries shows all songs alike, up to the
extension of a path. -/
theorem shownAlike_of_indistinct (hcompile : compile source dialect settings now = .ok formatter) :
    ∃ nodes, Pattern.parse (dialect.preprocess source) = .ok nodes ∧
      (∀ left right : Song,
        Indistinct dialect formatter.tags (queriesOfAll (queryOf? now) nodes) left right →
          formatter.ShownAlike left right) ∧
      (formatter.tags = [] → queriesOfAll (queryOf? now) nodes = [] → ∀ left right : Song,
        (dialect = .path → left.comma "~filename" = right.comma "~filename") →
          formatter.ShownAlike left right) := by
  obtain ⟨nodes, hparse, rfl, _⟩ := compile_eq_ok_iff.mp hcompile
  refine ⟨nodes, hparse, fun left right => shownAlike_ofTree, ?_⟩
  intro htags hqueries left right hfilename
  have hnames : referencedTags (queryOf? now) nodes = [] := htags
  apply shownAlike_ofTree
  rw [hnames, hqueries]
  exact ⟨by simp, by simp, by simp, hfilename⟩

end Library

/-- Two recordings of a song, made in different years. -/
def firstTake : Song where
  fields := [("artist", ["Ann", "Bo"]), ("title", ["Hi"]), ("~#year", ["1991"]),
    ("~filename", ["/in/hi.ogg"])]

@[inherit_doc firstTake]
def secondTake : Song where
  fields := [("artist", ["Ann", "Bo"]), ("comment", ["live"]), ("title", ["Hi"]),
    ("~#year", ["2005"]), ("~filename", ["/in/hi.ogg"])]

/-- The pattern `/<artist~title>/<#(year\>1990)|new|old>` as a tree. -/
def takeTree : List Node :=
  [.literal "/", .tag "~artist~title", .literal "/",
    .conditional "#(year>1990)" [.literal "new"] (some [.literal "old"])]

/-- A query that both years pass leaves nothing to tell the recordings apart. -/
theorem shownAlike_takes :
    ∃ formatter, compile "/<artist~title>/<#(year\\>1990)|new|old>" .path ⟨255, none⟩ 0 =
        .ok formatter ∧
      formatter.ShownAlike firstTake secondTake ∧
      formatter.format firstTake.toRecord = "/Ann, Bo - Hi/new.ogg" := by
  have hparse : Pattern.parse (Dialect.path.preprocess "/<artist~title>/<#(year\\>1990)|new|old>") =
      .ok takeTree := rfl
  have hcompile : compile "/<artist~title>/<#(year\\>1990)|new|old>" .path ⟨255, none⟩ 0 =
      .ok (ofTree "/<artist~title>/<#(year\\>1990)|new|old>" .path ⟨255, none⟩ 0 takeTree) :=
    compile_of_trial hparse (by decide +kernel)
  obtain ⟨nodes, hnodes, halike, _⟩ := shownAlike_of_indistinct hcompile
  have htree : takeTree = nodes := Except.ok.inj (hparse.symm.trans hnodes)
  subst htree
  refine ⟨_, hcompile, halike firstTake secondTake ⟨?_, ?_, ?_, fun _ => ?_⟩, ?_⟩
  all_goals decide +kernel

end Formatter

/-! ## The instant of compilation -/

namespace Pattern

section Queries

variable {early late : String → Option Predicate} {nodes : List Node}

/-- Every name in a tree, of a query or not. -/
def namesIn (nodes : List Node) : List String :=
  namesOfAll (fun _ => none) nodes

theorem namesIn_conditional (name : String) (yes : List Node) (no : Option (List Node))
    (rest : List Node) : namesIn (.conditional name yes no :: rest) =
      name :: (namesIn yes ++ (namesIn (no.getD []) ++ namesIn rest)) := by
  simp [namesIn, namesOfAll, namesOfNode, namesOfBranch_eq]

/-- Readings of the names that agree on a conditional agree on each of its parts. -/
theorem agree_conditional {name : String} {yes : List Node} {no : Option (List Node)}
    {rest : List Node}
    (hsame : ∀ tested ∈ namesIn (.conditional name yes no :: rest), early tested = late tested) :
    early name = late name ∧ (∀ tested ∈ namesIn yes, early tested = late tested) ∧
      (∀ tested ∈ namesIn (no.getD []), early tested = late tested) ∧
      ∀ tested ∈ namesIn rest, early tested = late tested := by
  simpa only [namesIn_conditional, List.forall_mem_cons, List.forall_mem_append] using hsame

theorem namesOfAll_congr (hsame : ∀ name ∈ namesIn nodes, early name = late name) :
    namesOfAll early nodes = namesOfAll late nodes := by
  induction nodes using sequence_induction with
  | nil => rfl
  | literal text rest ih => exact ih hsame
  | tag name rest ih =>
      exact congrArg (name :: ·) (ih fun tested hmem => hsame tested (List.mem_cons_of_mem _ hmem))
  | conditional name yes no rest ihyes ihno ihrest =>
      obtain ⟨hname, hyes, hno, hrest⟩ := agree_conditional hsame
      simp only [namesOfAll, namesOfNode, namesOfBranch_eq, hname, ihyes hyes, ihno hno,
        ihrest hrest]

theorem compileAll_congr (hsame : ∀ name ∈ namesIn nodes, early name = late name)
    (scope : Scope) : compileAll early nodes scope = compileAll late nodes scope := by
  induction nodes using sequence_induction generalizing scope with
  | nil => rfl
  | literal text rest ih => simp only [compileAll, compileNode, ih hsame]
  | tag name rest ih =>
      have hrest : ∀ tested ∈ namesIn rest, early tested = late tested :=
        fun tested hmem => hsame tested (List.mem_cons_of_mem _ hmem)
      simp only [compileAll, compileNode, ih hrest]
  | conditional name yes no rest ihyes ihno ihrest =>
      obtain ⟨hname, hyes, hno, hrest⟩ := agree_conditional hsame
      have hcondition : conditionOf early name scope = conditionOf late name scope := by
        simp only [conditionOf, hname]
      simp only [compileAll, compileNode, compileBranch_eq, hcondition, ihyes hyes, ihno hno,
        ihrest hrest]

end Queries

end Pattern

namespace Formatter

open Pattern

variable [RegexLibrary]

/-- The names in a pattern read as the same queries at two instants. -/
def ReadsAlike (dialect : Dialect) (source : String) (early late : Binary64) : Prop :=
  ∀ nodes, Pattern.parse (dialect.preprocess source) = .ok nodes →
    ∀ name ∈ namesIn nodes, queryOf? early name = queryOf? late name

theorem compile_congr {dialect : Dialect} {source : String} {early late : Binary64}
    (hsame : ReadsAlike dialect source early late) (settings : Path.Settings) :
    compile source dialect settings early = compile source dialect settings late := by
  unfold compile
  split
  next => rfl
  next nodes hparse =>
    have hnames := hsame nodes hparse
    have htree : ofTree source dialect settings early nodes =
        ofTree source dialect settings late nodes := by
      simp only [ofTree, referencedTags, Pattern.compile, namesOfAll_congr hnames,
        compileAll_congr hnames]
    simp only [htree]

end Formatter

end Songbook
