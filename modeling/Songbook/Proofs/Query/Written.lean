import Mathlib.Data.List.Forall2
import Songbook.Proofs.Query.Elements

/-!
# Written queries read as what they were built from

Writing a query tree out and reading it gives the predicate of the tree, whatever blanks the layout
puts, as long as no more rules are open than may be. The rules for expressions and for values read
negations and groups alike, so what they read back of a formula is proved for both at once.
-/

namespace Songbook.Query

/-! ## Groups -/

/-- A rule reads a text as a predicate whenever what follows it is as it should be. -/
def ReadsAs (ends : List Char → Prop) (rule : Rule Predicate) (text : List Char)
    (predicate : Predicate) : Prop :=
  ∀ following, ends following → rule (text ++ following) = .ok (predicate, following)

/-- A rule that passes over the blanks before what it accepts. -/
def SkipsBlanks (rule : Rule Predicate) : Prop :=
  ∀ {blanks text predicate rest}, (∀ c ∈ blanks, Text.isBlank c = true) →
    rule text = .ok (predicate, rest) → rule (blanks ++ text) = .ok (predicate, rest)

section Group

variable {item : Rule Predicate} (layout : Layout) {following : List Char}

theorem isStop_items (texts : List (List Char)) :
    IsStop (texts.flatMap ((',' :: layout.afterItem) ++ ·) ++ ')' :: following) := by
  cases texts with
  | nil => exact isStop_parenthesis _
  | cons text texts => exact isStop_comma _

theorem items_write (hblanks : SkipsBlanks item) {texts : List (List Char)}
    {predicates : List Predicate} (hitems : List.Forall₂ (ReadsAs IsStop item) texts predicates) :
    Items item (texts.flatMap ((',' :: layout.afterItem) ++ ·) ++ ')' :: following) predicates
      following := by
  induction hitems with
  | nil => exact .close (Text.trimStart_of_head (by decide) _)
  | @cons text predicate texts predicates htext hitems ih =>
      rw [List.flatMap_cons, List.append_assoc, List.append_assoc, List.cons_append]
      refine .comma (Text.trimStart_of_head (by decide) _) ?_ ih
      exact hblanks (layout.isBlank_of_mem (by simp)) (htext _ (isStop_items layout texts))

theorem group_write (combine : List Predicate → Predicate) (hadvances : Advances item)
    (hblanks : SkipsBlanks item) {first : List Char} {texts : List (List Char)}
    {predicates : List Predicate}
    (hitems : List.Forall₂ (ReadsAs IsStop item) (first :: texts) predicates) :
    group combine item (writeItems layout (first :: texts) ++ following) =
      .ok (.collapse combine predicates, following) := by
  have htext : writeItems layout (first :: texts) ++ following = '(' :: (first ++
      (texts.flatMap ((',' :: layout.afterItem) ++ ·) ++ ')' :: following)) := by
    simp [writeItems, intercalate_cons]
  rw [htext]
  cases hitems with
  | cons hfirst hitems =>
      exact group_of_items hadvances (hfirst _ (isStop_items layout texts))
        (items_write layout hblanks hitems)

end Group

/-! ## Formulas -/

/-- What the rules for expressions and for values share: they read negations and groups of what they
read with one rule less open. -/
structure IsFormulaRule (rule : Nat → Rule Predicate) : Prop where
  advances : ∀ allowed, Advances (rule allowed)
  skipsBlanks : ∀ allowed, SkipsBlanks (rule allowed)
  negation : ∀ allowed inner, rule (allowed + 1) ('!' :: inner) = negated (rule allowed) inner
  group : ∀ (connective : Connective) allowed inner,
    rule (allowed + 1) (connective.mark :: '(' :: inner) =
      group connective.combine (rule allowed) ('(' :: inner)

/-- A rule that reads elements of some height reads formulas over them. -/
theorem Formula.reads {rule : Nat → Rule Predicate} (hrule : IsFormulaRule rule) (layout : Layout)
    {α : Type} {write : α → List Char} {predicate : α → Predicate} {height : α → Nat}
    (helement : ∀ content allowed, height content ≤ allowed →
      ReadsAs (EndsRun isFlagChar) (rule allowed) (write content) (predicate content))
    (formula : Formula α) {allowed : Nat} (hheight : formula.height height ≤ allowed) :
    ReadsAs (EndsRun isFlagChar) (rule allowed) (formula.write layout write)
      (formula.predicate predicate) := by
  induction formula using Formula.induction generalizing allowed with
  | element content => exact helement content allowed hheight
  | negation inner ih =>
      change inner.height height + 1 ≤ allowed at hheight
      obtain ⟨fewer, rfl⟩ := Nat.exists_eq_add_of_le' (Nat.le_of_add_left_le hheight)
      intro following hends
      have hinner := ih (Nat.le_of_succ_le_succ hheight) following hends
      change rule (fewer + 1) ('!' :: (inner.write layout write ++ following)) = _
      rw [hrule.negation]
      exact negated_eq_ok_iff.mpr ⟨_, hinner, rfl⟩
  | group connective first rest ih =>
      rw [Formula.height, Formula.fold_group] at hheight
      obtain ⟨fewer, rfl⟩ := Nat.exists_eq_add_of_le' (Nat.le_of_add_left_le hheight)
      intro following hends
      -- every item is lower than the group, and in a group a comma or the parenthesis follows it
      have hitems : List.Forall₂ (ReadsAs IsStop (rule fewer))
          ((first :: rest).map (Formula.write layout write))
          ((first :: rest).map (Formula.predicate predicate)) := by
        rw [List.forall₂_map_left_iff, List.forall₂_map_right_iff, List.forall₂_same]
        intro item hitem more hstop
        have hlower : item.height height ≤ fewer :=
          (List.le_max_of_le' 0 (List.mem_map_of_mem hitem) (Nat.le_refl _)).trans
            (Nat.le_of_succ_le_succ hheight)
        exact ih item hitem hlower more (EndsRun.of_isStop (by decide) (by decide) hstop)
      rw [Formula.write, Formula.predicate, Formula.fold_group, Formula.fold_group]
      exact (hrule.group connective fewer _).trans
        (group_write layout _ (hrule.advances fewer) (hrule.skipsBlanks fewer) hitems)

theorem comparison_skipsBlanks (now : Binary64) : SkipsBlanks (comparison now) := by
  intro blanks text predicate rest hblanks hcomparison
  have hstart := Text.trimStart_append_of_blank hblanks text
  rw [← hcomparison, comparison, comparison, hstart]

section Library

variable [RegexLibrary]

theorem value_isFormulaRule (names : List String) : IsFormulaRule (value names) where
  advances := value_advances names
  skipsBlanks allowed := by
    intro blanks text predicate rest hblanks hvalue
    obtain ⟨fewer, rfl, _⟩ := value_cases hvalue
    rw [← hvalue, value, value, Text.trimStart_append_of_blank hblanks]
  negation _ _ := rfl
  group connective _ _ := by cases connective <;> rfl

theorem expression_isFormulaRule (now : Binary64) : IsFormulaRule (expression now) where
  advances := expression_advances now
  skipsBlanks allowed := by
    intro blanks text predicate rest hblanks hexpression
    obtain ⟨fewer, rfl, _⟩ := expression_cases hexpression
    rw [← hexpression]
    exact expression_congr (Text.trimStart_append_of_blank hblanks text)
  negation _ _ := rfl
  group connective _ _ := by cases connective <;> rfl

/-! ## Values and expressions -/

theorem Value.reads (layout : Layout) (names : List TagName) (tree : Value) {allowed : Nat}
    (hheight : tree.height ≤ allowed) :
    ReadsAs (EndsRun isFlagChar) (value (names.map fun name => String.ofList name.text) allowed)
      (tree.write layout) (tree.predicate (names.map TagName.tag)) := by
  refine Formula.reads (value_isFormulaRule _) layout ?_ tree hheight
  intro term allowed hpositive following hends
  obtain ⟨fewer, rfl⟩ := Nat.exists_eq_add_of_le' hpositive
  have hstart := term.trimStart_append following
  have hplain := term.isValueMarked_append following
  rw [value_of_plain (by rwa [hstart]), hstart, ← ofNames_eq_matchOf]
  exact matching_eq_ok_iff.mpr ⟨_, term.matcher_write hends, rfl⟩

theorem Atom.reads (layout : Layout) {now : Binary64} (atom : Atom now) {allowed : Nat}
    (hheight : atom.height ≤ allowed) :
    ReadsAs (EndsRun isFlagChar) (expression now allowed) (atom.write layout) atom.predicate := by
  intro following hends
  cases atom with
  | comparisons first rest =>
      obtain ⟨fewer, rfl⟩ := Nat.exists_eq_add_of_le' hheight
      have hitems : List.Forall₂ (ReadsAs IsStop (comparison now))
          ((first :: rest).map (ComparisonTerm.write layout))
          ((first :: rest).map fun term => .comparison term.comparison) := by
        rw [List.forall₂_map_left_iff, List.forall₂_map_right_iff, List.forall₂_same]
        exact fun term _ following hstop => comparison_write layout term hstop
      exact group_write layout .intersection comparison_isRest (comparison_skipsBlanks now) hitems
  | tags first rest tree =>
      obtain ⟨fewer, rfl⟩ := Nat.exists_eq_add_of_le' (Nat.le_of_add_left_le hheight)
      have hblanks : ∀ c ∈ layout.afterName, Text.isBlank c = true :=
        layout.isBlank_of_mem (by simp)
      have hnames := tagNames?_write first rest (tree.write layout ++ following) hblanks
      have hvalue := tree.reads layout (first :: rest) (Nat.le_of_succ_le_succ hheight)
        following hends
      obtain ⟨tail, htail, hopening⟩ := exists_names_tail first rest
        (tree.write layout ++ following) layout.afterName
      rw [htail] at hnames
      rw [Atom.write, List.append_assoc, List.cons_append, htail]
      have hstart := first.trimStart_append tail
      have hplain := first.isMarked_append hopening
      rw [expression_of_plain (by rwa [hstart]), hstart, hnames]
      exact hvalue
  | matcher term =>
      have hpositive : 1 ≤ allowed := hheight
      obtain ⟨fewer, rfl⟩ := Nat.exists_eq_add_of_le' hpositive
      have hstart := term.trimStart_append following
      have hplain := term.isMarked_append following
      rw [Atom.write, expression_of_plain (by rwa [hstart]), hstart, term.tagNames?_append,
        Atom.predicate, ← ofNames_defaultTags]
      exact matching_eq_ok_iff.mpr ⟨_, term.matcher_write hends, rfl⟩

theorem Expression.reads (layout : Layout) {now : Binary64} (tree : Expression now)
    {allowed : Nat} (hheight : tree.height ≤ allowed) :
    ReadsAs (EndsRun isFlagChar) (expression now allowed) (tree.write layout) tree.predicate :=
  Formula.reads (expression_isFormulaRule now) layout
    (fun atom _ hatom => atom.reads layout hatom) tree hheight

end Library

/-! ## Queries -/

section Queries

variable [RegexLibrary] (layout : Layout) {now : Binary64} {query : List (Expression now)}

/-- A space ends an expression, as the end of the query does. -/
theorem expression_write {tree : Expression now} (hheight : tree.height ≤ maxDepth) :
    expression now maxDepth (tree.write layout ++ query.flatMap fun next => ' ' :: next.write layout) =
      .ok (tree.predicate, query.flatMap fun next => ' ' :: next.write layout) := by
  apply tree.reads layout hheight
  cases query with
  | nil => exact fun c hc => absurd hc (by simp)
  | cons next query => exact endsRun_cons (by decide) _

/-- The expressions of a query, each with a space before it, are read one after the other. -/
theorem expressions_write (hheights : ∀ tree ∈ query, tree.height ≤ maxDepth) {rounds : Nat}
    (hrounds : (query.flatMap fun tree => ' ' :: tree.write layout).length < rounds) :
    expressions now maxDepth rounds (query.flatMap fun tree => ' ' :: tree.write layout) =
      .ok (query.map Expression.predicate) := by
  induction query generalizing rounds with
  | nil =>
      obtain ⟨fewer, rfl⟩ := Nat.exists_eq_succ_of_ne_zero (Nat.ne_zero_of_lt hrounds)
      rfl
  | cons tree query ih =>
      obtain ⟨htree, hquery⟩ := List.forall_mem_cons.mp hheights
      have hread : expression now maxDepth ([' '] ++ (tree.write layout ++
          query.flatMap fun next => ' ' :: next.write layout)) = _ :=
        (expression_isFormulaRule now).skipsBlanks maxDepth (List.all_eq_true.mp (by decide))
          (expression_write layout htree)
      rw [List.flatMap_cons, List.cons_append, List.length_cons, List.length_append] at hrounds
      obtain ⟨fewer, rfl⟩ := Nat.exists_eq_succ_of_ne_zero (Nat.ne_zero_of_lt hrounds)
      exact expressions_round hread (ih hquery (by omega))

/-- Reading a written query gives the predicate that its tree stands for, in every layout and at every
instant at which its comparisons are accepted, if no expression is higher than rules may be open. -/
theorem parse_writeQuery (hheights : ∀ tree ∈ query, tree.height ≤ maxDepth) :
    parse (writeQuery layout query) now = .ok (queryPredicate query) := by
  have hread : expressions now maxDepth ((writeQuery layout query).toList.length + 1)
      (writeQuery layout query).toList = .ok (query.map Expression.predicate) := by
    rw [writeQuery, String.toList_ofList]
    cases query with
    | nil => rfl
    | cons tree query =>
        obtain ⟨htree, hquery⟩ := List.forall_mem_cons.mp hheights
        have htext : [' '].intercalate ((tree :: query).map (Expression.write layout)) =
            tree.write layout ++ query.flatMap fun next => ' ' :: next.write layout := by
          rw [List.map_cons, intercalate_cons, List.flatMap_map]
          rfl
        have hfirst : expression now maxDepth (tree.write layout ++
            query.flatMap fun next => ' ' :: next.write layout) = _ :=
          expression_write layout htree
        have hshorter := (expression_advances now maxDepth hfirst).shorter
        rw [htext]
        exact expressions_round hfirst (expressions_write layout hquery hshorter)
  rw [parse, parseWithin, hread, queryPredicate]

end Queries

/-- Songs not longer than five minutes whose artist or people match one of two patterns, and some text
in the default tags. -/
def sampleQuery : List (Expression 0) :=
  let length : TagName := ⟨"length".toList, by decide, by decide⟩
  let artist : TagName := ⟨['A'], by decide, by decide⟩
  let people : TagName := ⟨"~people".toList, by decide, by decide⟩
  let long : ComparisonTerm 0 :=
    ⟨length, .greater, "5 minutes".toList, by decide, by decide, by decide, by decide +kernel⟩
  let whole : MatcherTerm := ⟨.quoted, "a\"b".toList, true, by decide +kernel⟩
  let part : MatcherTerm := ⟨.regex, "x/y\\d".toList, true, by decide +kernel⟩
  let anyCase : MatcherTerm := ⟨.quoted, "live".toList, false, by decide +kernel⟩
  [.group .all (.negation (.element (.comparisons long [])))
      [.element (.tags artist [people] (.group .any (.element whole) [.negation (.element part)]))],
    .element (.matcher anyCase)]

theorem parse_sampleQuery :
    writeQuery {} sampleQuery =
        "&(!#(length > 5 minutes), A,~people=|(\"a\\\"b\"c, !/x\\/y\\\\d/c)) \"live\"" ∧
      (∀ tree ∈ sampleQuery, tree.height ≤ maxDepth) ∧
      parse (writeQuery {} sampleQuery) 0 = .ok (queryPredicate sampleQuery) := by
  have hheights : ∀ tree ∈ sampleQuery, tree.height ≤ maxDepth := by decide +kernel
  exact ⟨rfl, hheights, parse_writeQuery {} hheights⟩

end Songbook.Query
