import Songbook.Proofs.Query.Group
import Songbook.Proofs.Text

/-!
# Places of syntax faults

Reading a query comes from its expressions to their items, values and matchers. Where what is read
there lacks something, the query is refused with the fault, and for nothing else. So each fault has
its place where something else should stand, or, for a group and for what stands between delimiters,
at the opening that is not closed.
-/

namespace Songbook.Query

/-! ## Goals -/

/-- What is to be read at a place. -/
inductive Goal where
  | expression (allowed : Nat)
  | value (names : List String) (allowed : Nat)
  | comparison
  | matching (names : List String)

namespace Goal

variable [RegexLibrary]

/-- The rule that reads a goal. -/
def rule (now : Binary64) : Goal → Rule Predicate
  | expression allowed => Query.expression now allowed
  | value names allowed => Query.value names allowed
  | comparison => Query.comparison now
  | matching names => Query.matching names

theorem advances (now : Binary64) (goal : Goal) : Advances (goal.rule now) := by
  cases goal with
  | expression allowed => exact expression_advances now allowed
  | value names allowed => exact value_advances names allowed
  | comparison => exact comparison_isRest
  | matching names =>
      intro text predicate rest hmatching
      obtain ⟨regex, hmatcher, _⟩ := matching_eq_ok_iff.mp hmatching
      exact matcher_isRest hmatcher

end Goal

/-- What opens a group where a goal is read: its items, and the text behind its parenthesis. -/
inductive Opens : Goal → List Char → Goal → List Char → Prop
  | expressions {allowed mark text inner} (hmark : mark = '&' ∨ mark = '|')
      (hstart : Text.trimStart text = mark :: '(' :: inner) :
      Opens (.expression (allowed + 1)) text (.expression allowed) inner
  | comparisons {allowed text inner} (hstart : Text.trimStart text = '#' :: '(' :: inner) :
      Opens (.expression (allowed + 1)) text .comparison inner
  | values {names allowed mark text inner} (hmark : mark = '&' ∨ mark = '|')
      (hstart : Text.trimStart text = mark :: '(' :: inner) :
      Opens (.value names (allowed + 1)) text (.value names allowed) inner

/-- What is left of a group after one of its items. -/
inductive AfterItem (item : Rule Predicate) (inner : List Char) : List Char → Prop
  | first {predicate rest} (hread : item inner = .ok (predicate, rest)) : AfterItem item inner rest
  | next {middle place predicate rest} (hmiddle : AfterItem item inner middle)
      (hcomma : Text.trimStart middle = ',' :: place)
      (hread : item place = .ok (predicate, rest)) : AfterItem item inner rest

/-- Where an item of a group starts. -/
inductive IsItemPlace (item : Rule Predicate) (inner : List Char) : List Char → Prop
  | first : IsItemPlace item inner inner
  | next {middle place} (hmiddle : AfterItem item inner middle)
      (hcomma : Text.trimStart middle = ',' :: place) : IsItemPlace item inner place

section Library

variable [RegexLibrary]

/-- What reading a goal comes to next, and where. -/
inductive Leads (now : Binary64) : Goal → List Char → Goal → List Char → Prop
  | item {goal text item inner place} (hopens : Opens goal text item inner)
      (hplace : IsItemPlace (item.rule now) inner place) : Leads now goal text item place
  | notExpression {allowed text inner} (hstart : Text.trimStart text = '!' :: inner) :
      Leads now (.expression (allowed + 1)) text (.expression allowed) inner
  | notValue {names allowed text inner} (hstart : Text.trimStart text = '!' :: inner) :
      Leads now (.value names (allowed + 1)) text (.value names allowed) inner
  | tags {allowed text names after} (hplain : isMarked (Text.trimStart text) = false)
      (hnames : tagNames? (Text.trimStart text) = some (names, after)) :
      Leads now (.expression (allowed + 1)) text (.value names allowed) after
  | bare {allowed text} (hplain : isMarked (Text.trimStart text) = false)
      (hnames : tagNames? (Text.trimStart text) = none) :
      Leads now (.expression (allowed + 1)) text (.matching defaultTags) (Text.trimStart text)
  | plain {names allowed text} (hplain : isValueMarked (Text.trimStart text) = false) :
      Leads now (.value names (allowed + 1)) text (.matching names) (Text.trimStart text)

/-- What a goal lacks, with the rest of the text from the place that is blamed for it. -/
inductive Lacks (now : Binary64) : Goal → List Char → List Char → SyntaxFault → Prop
  | expressionDepth {text} : Lacks now (.expression 0) text text .nestedTooDeeply
  | valueDepth {names text} : Lacks now (.value names 0) text text .nestedTooDeeply
  /-- The text ends behind an item of a group. -/
  | unclosed {goal text item inner middle} (hopens : Opens goal text item inner)
      (hmiddle : AfterItem (item.rule now) inner middle) (hend : Text.trimStart middle = []) :
      Lacks now goal text ('(' :: inner) .missingParenthesis
  /-- Something other than a comma or the closing parenthesis stands behind an item. -/
  | unseparated {goal text item inner middle c rest} (hopens : Opens goal text item inner)
      (hmiddle : AfterItem (item.rule now) inner middle)
      (hnext : Text.trimStart middle = c :: rest) (hcomma : c ≠ ',') (hclose : c ≠ ')') :
      Lacks now goal text (c :: rest) .expectedSeparator
  /-- A regular expression or quoted text goes on to the end of the text. -/
  | undelimited {names text delimiter inner} (hdelimiter : delimiter = '/' ∨ delimiter = '"')
      (hstart : Text.trimStart text = delimiter :: inner)
      (hopen : readDelimited? delimiter inner = none) :
      Lacks now (.matching names) text (delimiter :: inner) (.missingClosing delimiter)
  | noValue {names text}
      (hstart : ∀ c ∈ (Text.trimStart text).head?, c ≠ '/' ∧ c ≠ '"' ∧ isWordChar c = false) :
      Lacks now (.matching names) text (Text.trimStart text)
        (.expectedValue (Text.trimStart text).head?)
  /-- Among the letters behind a closing delimiter is another one than `c` and `i`. -/
  | badFlag {names text delimiter inner source after flag}
      (hdelimiter : delimiter = '/' ∨ delimiter = '"')
      (hstart : Text.trimStart text = delimiter :: inner)
      (hclosed : readDelimited? delimiter inner = some (source, after))
      (hflag : (after.takeWhile isFlagChar).find? (fun c => c != 'c' && c != 'i') = some flag) :
      Lacks now (.matching names) text after (.unknownFlag flag)
  | noTag {text} (hword : tagWord text = []) :
      Lacks now .comparison text (Text.trimStart text) .expectedTag
  | noOperator {text} (hword : tagWord text ≠ [])
      (hoperator : (afterTag text).takeWhile isOperatorChar = []) :
      Lacks now .comparison text (afterTag text) .expectedOperator

/-- Where one of the expressions of a query starts, or the query ends, if at most `limit` rules may
be open at once. -/
inductive IsTop (now : Binary64) (limit : Nat) (query : List Char) : List Char → Prop
  | first : IsTop now limit query (Text.trimStart query)
  | next {text predicate rest} (htop : IsTop now limit query text)
      (hread : expression now limit text = .ok (predicate, rest)) :
      IsTop now limit query (Text.trimStart rest)

/-- What is read of a query, and where, before it is accepted or refused. -/
inductive Visits (now : Binary64) (query : List Char) : Goal → List Char → Prop
  | top {text} (htop : IsTop now maxDepth query text) (hmore : text ≠ []) :
      Visits now query (.expression maxDepth) text
  | step {goal text next place} (hvisits : Visits now query goal text)
      (hleads : Leads now goal text next place) : Visits now query next place

/-- Something that is read of a query lacks what a fault says, with the rest of the query from the
place that is blamed for it. -/
def FaultsAt (now : Binary64) (query rest : List Char) (fault : SyntaxFault) : Prop :=
  ∃ goal text, Visits now query goal text ∧ Lacks now goal text rest fault

end Library

/-! ## Groups -/

/-- How a group fails. -/
inductive GroupFault (item : Rule Predicate) (inner : List Char) : Fault → Prop
  | item {place fault} (hplace : IsItemPlace item inner place) (hitem : item place = .error fault) :
      GroupFault item inner fault
  | unclosed {middle} (hmiddle : AfterItem item inner middle)
      (hend : Text.trimStart middle = []) :
      GroupFault item inner (.misplaced ('(' :: inner) .missingParenthesis)
  | unseparated {middle c rest} (hmiddle : AfterItem item inner middle)
      (hnext : Text.trimStart middle = c :: rest) (hcomma : c ≠ ',') (hclose : c ≠ ')') :
      GroupFault item inner (.misplaced (c :: rest) .expectedSeparator)

variable {now : Binary64} {query text rest inner place : List Char} {fault : SyntaxFault}

section Groups

variable {item : Rule Predicate} (hitem : Advances item)

include hitem

theorem groupFault_of_moreItems {middle : List Char} {rounds : Nat} {reason : Fault}
    (hmiddle : AfterItem item inner middle) (hrounds : middle.length < rounds)
    (hmore : moreItems item ('(' :: inner) rounds middle = .error reason) :
    GroupFault item inner reason := by
  induction rounds generalizing middle with
  | zero => cases hrounds
  | succ rounds ih =>
      rw [moreItems] at hmore
      split at hmore
      next place hcomma =>
        split at hmore
        next failed hfailed =>
          cases hmore
          exact .item (.next hmiddle hcomma) hfailed
        next first rest hread =>
          have hshorter := (IsRest.of_trimStart
            (hcomma ▸ IsRest.cons (hitem hread).suffix ',')).shorter
          split at hmore
          next failed hfailed =>
            cases hmore
            exact ih (.next hmiddle hcomma hread) (by omega) hfailed
          next => cases hmore
      next => cases hmore
      next hend =>
        cases hmore
        exact .unclosed hmiddle hend
      next start hcomma hclose hend =>
        cases hmore
        cases hnext : Text.trimStart middle with
        | nil => exact absurd hnext hend
        | cons c rest =>
            refine .unseparated hmiddle hnext ?_ ?_
            · rintro rfl
              exact hcomma rest hnext
            · rintro rfl
              exact hclose rest hnext

/-- Reading the items of a group comes to whatever stands behind one of them. -/
theorem group_of_afterItem {combine : List Predicate → Predicate} {middle : List Char}
    {reason : Fault} (hmiddle : AfterItem item inner middle)
    (hmore : ∀ rounds, middle.length < rounds →
      moreItems item ('(' :: inner) rounds middle = .error reason) :
    group combine item ('(' :: inner) = .error reason := by
  induction hmiddle with
  | first hread =>
      simp only [group, List.drop_succ_cons, List.drop_zero, hread,
        hmore _ (Nat.lt_succ_self _)]
  | next hmiddle hcomma hread ih =>
      refine ih fun rounds hrounds => ?_
      have hshorter := (IsRest.of_trimStart
        (hcomma ▸ IsRest.cons (hitem hread).suffix ',')).shorter
      cases rounds with
      | zero => cases hrounds
      | succ rounds => simp only [moreItems, hcomma, hread, hmore rounds (by omega)]

theorem group_eq_error_iff {combine : List Predicate → Predicate} {reason : Fault} :
    group combine item ('(' :: inner) = .error reason ↔ GroupFault item inner reason := by
  constructor
  · intro hgroup
    simp only [group, List.drop_succ_cons, List.drop_zero] at hgroup
    split at hgroup
    next failed hfailed =>
      cases hgroup
      exact .item .first hfailed
    next first rest hread =>
      split at hgroup
      next failed hfailed =>
        cases hgroup
        exact groupFault_of_moreItems hitem (.first hread) (Nat.lt_succ_self _) hfailed
      next => cases hgroup
  · rintro (⟨hplace, hfailed⟩ | ⟨hmiddle, hend⟩ | ⟨hmiddle, hnext, hcomma, hclose⟩)
    · cases hplace with
      | first => simp only [group, List.drop_succ_cons, List.drop_zero, hfailed]
      | next hmiddle hcomma =>
          refine group_of_afterItem hitem hmiddle fun rounds hrounds => ?_
          cases rounds with
          | zero => cases hrounds
          | succ rounds => simp only [moreItems, hcomma, hfailed]
    · refine group_of_afterItem hitem hmiddle fun rounds hrounds => ?_
      cases rounds with
      | zero => cases hrounds
      | succ rounds => simp only [moreItems, hend]
    · refine group_of_afterItem hitem hmiddle fun rounds hrounds => ?_
      cases rounds with
      | zero => cases hrounds
      | succ rounds =>
          rw [moreItems, hnext]
          split
          next heq =>
            cases heq
            exact absurd rfl hcomma
          next heq =>
            cases heq
            exact absurd rfl hclose
          next heq => cases heq
          next => rfl

end Groups

theorem negated_eq_error_iff {rule : Rule Predicate} {reason : Fault} :
    negated rule text = .error reason ↔ rule text = .error reason := by
  unfold negated
  cases rule text <;> simp

/-! ## Matchers and comparisons -/

theorem ignoresCase_eq_error_iff (ignored : Bool) {flags : List Char} {flag : Char} :
    ignoresCase ignored flags = .error flag ↔
      flags.find? (fun c => c != 'c' && c != 'i') = some flag := by
  induction flags generalizing ignored with
  | nil => simp [ignoresCase]
  | cons first flags ih =>
      rw [ignoresCase]
      split
      next hsensitive => simp [hsensitive, ih]
      next hsensitive =>
        split
        next hinsensitive => simp [hinsensitive, ih]
        next hinsensitive => simp [hsensitive, hinsensitive]

theorem takeWhile_eq_nil_iff {p : Char → Bool} :
    text.takeWhile p = [] ↔ ∀ c ∈ text.head?, p c = false := by
  cases text with
  | nil => simp
  | cons c rest => by_cases hc : p c <;> simp [hc]

theorem exists_of_isMarked (hmarked : isMarked text = true) :
    (∃ mark inner, (mark = '&' ∨ mark = '|') ∧ text = mark :: '(' :: inner) ∨
      (∃ inner, text = '#' :: '(' :: inner) ∨ ∃ inner, text = '!' :: inner := by
  unfold isMarked at hmarked
  split at hmarked
  next inner => exact Or.inl ⟨'&', inner, Or.inl rfl, rfl⟩
  next inner => exact Or.inl ⟨'|', inner, Or.inr rfl, rfl⟩
  next inner => exact Or.inr (Or.inl ⟨inner, rfl⟩)
  next inner => exact Or.inr (Or.inr ⟨inner, rfl⟩)
  next => cases hmarked

theorem exists_of_isValueMarked (hmarked : isValueMarked text = true) :
    (∃ mark inner, (mark = '&' ∨ mark = '|') ∧ text = mark :: '(' :: inner) ∨
      ∃ inner, text = '!' :: inner := by
  unfold isValueMarked at hmarked
  split at hmarked
  next inner => exact Or.inl ⟨'&', inner, Or.inl rfl, rfl⟩
  next inner => exact Or.inl ⟨'|', inner, Or.inr rfl, rfl⟩
  next inner => exact Or.inr ⟨inner, rfl⟩
  next => cases hmarked

section Library

variable [RegexLibrary]

theorem flagged_eq_misplaced_iff (source : List Char) :
    flagged source text = .error (.misplaced rest fault) ↔
      ∃ flag, (text.takeWhile isFlagChar).find? (fun c => c != 'c' && c != 'i') = some flag ∧
        rest = text ∧ fault = .unknownFlag flag := by
  unfold flagged
  cases hflags : ignoresCase true (text.takeWhile isFlagChar) with
  | error flag =>
      rw [ignoresCase_eq_error_iff] at hflags
      constructor
      · intro hflagged
        cases hflagged
        exact ⟨flag, hflags, rfl, rfl⟩
      · rintro ⟨found, hfound, rfl, rfl⟩
        cases hflags.symm.trans hfound
        rfl
  | ok ignoreCase =>
      refine iff_of_false ?_ ?_
      · dsimp only
        split <;> exact nofun
      · rintro ⟨flag, hflag, _⟩
        have herror := (ignoresCase_eq_error_iff true).mpr hflag
        rw [hflags] at herror
        cases herror

/-- No flag stands behind a word, which takes all letters. -/
theorem flagged_after_word_ne (source start : List Char) :
    flagged source (start.dropWhile isWordChar) ≠ .error (.misplaced rest fault) := by
  intro hflagged
  obtain ⟨flag, hflag, _⟩ := (flagged_eq_misplaced_iff _).mp hflagged
  have hsplit := List.takeWhile_append_dropWhile (p := isFlagChar) (l := start.dropWhile isWordChar)
  rw [dropWhile_isFlagChar_after_word, List.append_left_eq_self] at hsplit
  rw [hsplit] at hflag
  cases hflag

theorem matching_eq_error_iff {names : List String} {reason : Fault} :
    matching names text = .error reason ↔ matcher text = .error reason := by
  unfold matching
  cases matcher text <;> simp

/-- How a matcher lacks something. -/
theorem matching_eq_misplaced_iff {names : List String} :
    matching names text = .error (.misplaced rest fault) ↔
      Lacks now (.matching names) text rest fault := by
  rw [matching_eq_error_iff]
  constructor
  · intro hmatcher
    simp only [matcher] at hmatcher
    split at hmatcher
    next inner hstart =>
      split at hmatcher
      next hopen =>
        cases hmatcher
        rw [hstart]
        exact .undelimited (Or.inl rfl) hstart hopen
      next source after hclosed =>
        obtain ⟨flag, hflag, rfl, rfl⟩ := (flagged_eq_misplaced_iff _).mp hmatcher
        exact .badFlag (Or.inl rfl) hstart hclosed hflag
    next inner hstart =>
      split at hmatcher
      next hopen =>
        cases hmatcher
        rw [hstart]
        exact .undelimited (Or.inr rfl) hstart hopen
      next source after hclosed =>
        obtain ⟨flag, hflag, rfl, rfl⟩ := (flagged_eq_misplaced_iff _).mp hmatcher
        exact .badFlag (Or.inr rfl) hstart hclosed hflag
    next hslash hquote =>
      split at hmatcher
      next hword =>
        cases hmatcher
        refine .noValue fun c hc => ⟨?_, ?_, takeWhile_eq_nil_iff.mp hword c hc⟩
        · rintro rfl
          obtain ⟨inner, hstart⟩ := List.head?_eq_some_iff.mp hc
          exact hslash inner hstart
        · rintro rfl
          obtain ⟨inner, hstart⟩ := List.head?_eq_some_iff.mp hc
          exact hquote inner hstart
      next => exact absurd hmatcher (flagged_after_word_ne _ _)
  · intro hlacks
    cases hlacks with
    | unclosed hopens => cases hopens
    | unseparated hopens => cases hopens
    | undelimited hdelimiter hstart hopen =>
        rcases hdelimiter with rfl | rfl
        · simp only [matcher, hstart, hopen]
        · simp only [matcher, hstart, hopen]
    | badFlag hdelimiter hstart hclosed hflag =>
        have hflagged := fun source => (flagged_eq_misplaced_iff source).mpr ⟨_, hflag, rfl, rfl⟩
        rcases hdelimiter with rfl | rfl
        · simp only [matcher, hstart, hclosed, hflagged]
        · simp only [matcher, hstart, hclosed, hflagged]
    | noValue hstart =>
        simp only [matcher]
        split
        next inner hslash => exact absurd rfl (hstart '/' (by rw [hslash]; rfl)).1
        next inner hquote => exact absurd rfl (hstart '"' (by rw [hquote]; rfl)).2.1
        next =>
          split
          next => rfl
          next hword =>
            exact absurd (takeWhile_eq_nil_iff.mpr fun c hc => (hstart c hc).2.2) hword

/-- How a comparison lacks something. -/
theorem comparison_eq_misplaced_iff :
    comparison now text = .error (.misplaced rest fault) ↔
      Lacks now .comparison text rest fault := by
  constructor
  · intro hcomparison
    simp only [comparison] at hcomparison
    split at hcomparison
    next hword =>
      cases hcomparison
      exact .noTag hword
    next hword =>
      split at hcomparison
      next hoperator =>
        cases hcomparison
        exact .noOperator hword hoperator
      next =>
        split at hcomparison
        next => cases hcomparison
        next => cases hcomparison
  · intro hlacks
    cases hlacks with
    | unclosed hopens => cases hopens
    | unseparated hopens => cases hopens
    | noTag hword =>
        rw [tagWord] at hword
        simp only [comparison, hword]
    | noOperator hword hoperator =>
        rw [afterTag] at hoperator
        simp only [comparison]
        split
        next hnone => exact absurd hnone hword
        next => simp only [hoperator, afterTag]

/-! ## Goals -/

/-- A goal that opens a group is read as one. -/
theorem Opens.rule_eq {goal item : Goal} (hopens : Opens goal text item inner) (now : Binary64) :
    ∃ combine, goal.rule now text = group combine (item.rule now) ('(' :: inner) := by
  cases hopens with
  | expressions hmark hstart =>
      rcases hmark with rfl | rfl
      · exact ⟨.intersection, by simp only [Goal.rule, expression, hstart]⟩
      · exact ⟨.union, by simp only [Goal.rule, expression, hstart]⟩
  | comparisons hstart => exact ⟨.intersection, by simp only [Goal.rule, expression, hstart]⟩
  | values hmark hstart =>
      rcases hmark with rfl | rfl
      · exact ⟨.intersection, by simp only [Goal.rule, value, hstart]⟩
      · exact ⟨.union, by simp only [Goal.rule, value, hstart]⟩

/-- A goal fails for what it lacks itself, or with the goal that it leads to. -/
def FailsThere (now : Binary64) (goal : Goal) (text rest : List Char)
    (fault : SyntaxFault) : Prop :=
  Lacks now goal text rest fault ∨
    ∃ next place, Leads now goal text next place ∧
      next.rule now place = .error (.misplaced rest fault)

theorem Opens.fails {goal item : Goal} (hopens : Opens goal text item inner)
    (hfault : goal.rule now text = .error (.misplaced rest fault)) :
    FailsThere now goal text rest fault := by
  obtain ⟨combine, hrule⟩ := hopens.rule_eq now
  rw [hrule, group_eq_error_iff (item.advances now)] at hfault
  cases hfault with
  | item hplace hitem => exact Or.inr ⟨item, _, .item hopens hplace, hitem⟩
  | unclosed hmiddle hend => exact Or.inl (.unclosed hopens hmiddle hend)
  | unseparated hmiddle hnext hcomma hclose =>
      exact Or.inl (.unseparated hopens hmiddle hnext hcomma hclose)

theorem expression_fails {allowed : Nat}
    (hfault : expression now (allowed + 1) text = .error (.misplaced rest fault)) :
    FailsThere now (.expression (allowed + 1)) text rest fault := by
  cases hmarked : isMarked (Text.trimStart text) with
  | true =>
      rcases exists_of_isMarked hmarked with
        ⟨mark, inner, hmark, hstart⟩ | ⟨inner, hstart⟩ | ⟨inner, hstart⟩
      · exact (Opens.expressions hmark hstart).fails hfault
      · exact (Opens.comparisons hstart).fails hfault
      · simp only [expression, hstart, negated_eq_error_iff] at hfault
        exact Or.inr ⟨_, _, .notExpression hstart, hfault⟩
  | false =>
      rw [expression_of_plain hmarked] at hfault
      split at hfault
      next names after hnames => exact Or.inr ⟨_, _, .tags hmarked hnames, hfault⟩
      next hnames => exact Or.inr ⟨_, _, .bare hmarked hnames, hfault⟩

theorem value_fails {names : List String} {allowed : Nat}
    (hfault : value names (allowed + 1) text = .error (.misplaced rest fault)) :
    FailsThere now (.value names (allowed + 1)) text rest fault := by
  cases hmarked : isValueMarked (Text.trimStart text) with
  | true =>
      rcases exists_of_isValueMarked hmarked with ⟨mark, inner, hmark, hstart⟩ | ⟨inner, hstart⟩
      · exact (Opens.values hmark hstart).fails hfault
      · simp only [value, hstart, negated_eq_error_iff] at hfault
        exact Or.inr ⟨_, _, .notValue hstart, hfault⟩
  | false =>
      rw [value_of_plain hmarked] at hfault
      exact Or.inr ⟨_, _, .plain hmarked, hfault⟩

theorem Goal.fails {goal : Goal}
    (hfault : goal.rule now text = .error (.misplaced rest fault)) :
    FailsThere now goal text rest fault := by
  cases goal with
  | expression allowed =>
      cases allowed with
      | zero =>
          cases hfault
          exact Or.inl .expressionDepth
      | succ allowed => exact expression_fails hfault
  | value names allowed =>
      cases allowed with
      | zero =>
          cases hfault
          exact Or.inl .valueDepth
      | succ allowed => exact value_fails hfault
  | comparison => exact Or.inl (comparison_eq_misplaced_iff.mp hfault)
  | matching names => exact Or.inl (matching_eq_misplaced_iff.mp hfault)

theorem Opens.rule_eq_error {goal item : Goal} {reason : Fault}
    (hopens : Opens goal text item inner) (hfault : GroupFault (item.rule now) inner reason) :
    goal.rule now text = .error reason := by
  obtain ⟨combine, hrule⟩ := hopens.rule_eq now
  rw [hrule, group_eq_error_iff (item.advances now)]
  exact hfault

theorem Lacks.rule_eq_error {goal : Goal} (hlacks : Lacks now goal text rest fault) :
    goal.rule now text = .error (.misplaced rest fault) := by
  cases goal with
  | comparison => exact comparison_eq_misplaced_iff.mpr hlacks
  | matching names => exact matching_eq_misplaced_iff.mpr hlacks
  | expression allowed =>
      cases hlacks with
      | expressionDepth => rfl
      | unclosed hopens hmiddle hend => exact hopens.rule_eq_error (.unclosed hmiddle hend)
      | unseparated hopens hmiddle hnext hcomma hclose =>
          exact hopens.rule_eq_error (.unseparated hmiddle hnext hcomma hclose)
  | value names allowed =>
      cases hlacks with
      | valueDepth => rfl
      | unclosed hopens hmiddle hend => exact hopens.rule_eq_error (.unclosed hmiddle hend)
      | unseparated hopens hmiddle hnext hcomma hclose =>
          exact hopens.rule_eq_error (.unseparated hmiddle hnext hcomma hclose)

/-- A goal fails as the one to which it leads. -/
theorem Leads.rule_eq_error {goal next : Goal} {reason : Fault}
    (hleads : Leads now goal text next place) (hfault : next.rule now place = .error reason) :
    goal.rule now text = .error reason := by
  cases hleads with
  | item hopens hplace => exact hopens.rule_eq_error (.item hplace hfault)
  | notExpression hstart =>
      simp only [Goal.rule, expression, hstart, negated_eq_error_iff]
      exact hfault
  | notValue hstart =>
      simp only [Goal.rule, value, hstart, negated_eq_error_iff]
      exact hfault
  | tags hplain hnames =>
      simp only [Goal.rule, expression_of_plain hplain, hnames]
      exact hfault
  | bare hplain hnames =>
      simp only [Goal.rule, expression_of_plain hplain, hnames]
      exact hfault
  | plain hplain =>
      simp only [Goal.rule, value_of_plain hplain]
      exact hfault

/-- How many rules may be open below a goal. -/
def Goal.height : Goal → Nat
  | expression allowed => allowed + 1
  | value _ allowed => allowed + 1
  | comparison => 0
  | matching _ => 0

theorem Leads.height_lt {goal next : Goal} (hleads : Leads now goal text next place) :
    next.height < goal.height := by
  cases hleads with
  | item hopens hplace => cases hopens <;> simp [Goal.height]
  | notExpression => exact Nat.lt_succ_self _
  | notValue => exact Nat.lt_succ_self _
  | tags => exact Nat.lt_succ_self _
  | bare => exact Nat.succ_pos _
  | plain => exact Nat.succ_pos _

end Library

/-! ## Places -/

theorem AfterItem.suffix {item : Rule Predicate} (hitem : Advances item) {middle : List Char}
    (hmiddle : AfterItem item inner middle) : middle <:+ inner := by
  induction hmiddle with
  | first hread => exact (hitem hread).suffix
  | next hmiddle hcomma hread ih =>
      have hplace := IsRest.of_trimStart (hcomma ▸ IsRest.cons (hitem hread).suffix ',')
      exact hplace.suffix.trans ih

theorem suffix_of_trimStart {c : Char} (hstart : Text.trimStart text = c :: inner) :
    c :: inner <:+ text :=
  hstart ▸ trimStart_suffix text

theorem suffix_of_trimStart_cons {c : Char} (hstart : Text.trimStart text = c :: inner) :
    inner <:+ text :=
  (List.suffix_cons c inner).trans (suffix_of_trimStart hstart)

theorem Opens.suffix {goal item : Goal} (hopens : Opens goal text item inner) :
    ∃ mark ∈ ['&', '|', '#'], mark :: '(' :: inner <:+ text := by
  cases hopens with
  | expressions hmark hstart | values hmark hstart =>
      rcases hmark with rfl | rfl
      · exact ⟨'&', by simp, suffix_of_trimStart hstart⟩
      · exact ⟨'|', by simp, suffix_of_trimStart hstart⟩
  | comparisons hstart => exact ⟨'#', by simp, suffix_of_trimStart hstart⟩

theorem Opens.inner_suffix {goal item : Goal} (hopens : Opens goal text item inner) :
    inner <:+ text := by
  obtain ⟨mark, _, hsuffix⟩ := hopens.suffix
  exact (List.suffix_cons _ _).trans ((List.suffix_cons _ _).trans hsuffix)

section Library

variable [RegexLibrary]

theorem Leads.suffix {goal next : Goal} (hleads : Leads now goal text next place) :
    place <:+ text := by
  cases hleads with
  | item hopens hplace =>
      refine List.IsSuffix.trans ?_ hopens.inner_suffix
      cases hplace with
      | first => exact List.suffix_rfl
      | next hmiddle hcomma =>
          exact (suffix_of_trimStart_cons hcomma).trans (hmiddle.suffix (Goal.advances now _))
  | notExpression hstart => exact suffix_of_trimStart_cons hstart
  | notValue hstart => exact suffix_of_trimStart_cons hstart
  | tags hplain hnames => exact (tagNames?_isRest hnames).suffix.trans (trimStart_suffix text)
  | bare => exact trimStart_suffix text
  | plain => exact trimStart_suffix text

theorem IsTop.suffix {limit : Nat} (htop : IsTop now limit query text) : text <:+ query := by
  induction htop with
  | first => exact trimStart_suffix query
  | next htop hread ih =>
      exact (trimStart_suffix _).trans ((expression_advances now limit hread).suffix.trans ih)

theorem Visits.suffix {goal : Goal} (hvisits : Visits now query goal text) : text <:+ query := by
  induction hvisits with
  | top htop => exact htop.suffix
  | step hvisits hleads ih => exact hleads.suffix.trans ih

theorem Lacks.suffix {goal : Goal} (hlacks : Lacks now goal text rest fault) : rest <:+ text := by
  cases hlacks with
  | expressionDepth | valueDepth => exact List.suffix_rfl
  | unclosed hopens =>
      obtain ⟨mark, _, hsuffix⟩ := hopens.suffix
      exact (List.suffix_cons _ _).trans hsuffix
  | unseparated hopens hmiddle hnext =>
      exact (suffix_of_trimStart hnext).trans
        ((hmiddle.suffix (Goal.advances now _)).trans hopens.inner_suffix)
  | undelimited hdelimiter hstart => exact suffix_of_trimStart hstart
  | noValue => exact trimStart_suffix text
  | badFlag hdelimiter hstart hclosed =>
      exact (readDelimited?_suffix hclosed).trans (suffix_of_trimStart_cons hstart)
  | noTag => exact trimStart_suffix text
  | noOperator hword => exact (afterTag_isRest hword).suffix

/-- What stands before and at a place that is blamed for a fault. -/
def FitsPlace (before rest : List Char) : SyntaxFault → Prop
  | .nestedTooDeeply => True
  | .missingParenthesis =>
    rest.head? = some '(' ∧ ∃ mark ∈ ['&', '|', '#'], before.getLast? = some mark
  | .expectedSeparator => ∃ c, rest.head? = some c ∧ c ≠ ',' ∧ c ≠ ')'
  | .missingClosing delimiter =>
    rest.head? = some delimiter ∧ (delimiter = '/' ∨ delimiter = '"')
  | .expectedValue found => rest.head? = found
  | .unknownFlag flag => flag ∈ rest.takeWhile isFlagChar ∧ flag ≠ 'c' ∧ flag ≠ 'i'
  | .expectedTag => ∀ c ∈ rest.head?, isTagChar c = false
  | .expectedOperator => ∀ c ∈ rest.head?, isOperatorChar c = false

theorem Lacks.fitsPlace {goal : Goal} (hlacks : Lacks now goal text rest fault)
    {before : List Char} (htext : text <:+ before ++ rest) : FitsPlace before rest fault := by
  cases hlacks with
  | expressionDepth | valueDepth => trivial
  | unclosed hopens =>
      obtain ⟨mark, hmark, hsuffix⟩ := hopens.suffix
      obtain ⟨front, hfront⟩ := hsuffix.trans htext
      rw [List.append_cons, List.append_cancel_right_eq] at hfront
      exact ⟨rfl, mark, hmark, by simp [← hfront]⟩
  | unseparated _ _ _ hcomma hclose => exact ⟨_, rfl, hcomma, hclose⟩
  | undelimited hdelimiter => exact ⟨rfl, hdelimiter⟩
  | noValue => rfl
  | badFlag _ _ _ hflag =>
      have hother := List.find?_some hflag
      simp only [Bool.and_eq_true, bne_iff_ne] at hother
      exact ⟨List.mem_of_find?_eq_some hflag, hother⟩
  | noTag hword => exact takeWhile_eq_nil_iff.mp hword
  | noOperator _ hoperator => exact takeWhile_eq_nil_iff.mp hoperator

/-! ## Queries -/

/-- A goal that fails lacks something itself, or leads on to one that does. -/
theorem faultsAt_of_rule {goal : Goal} (hvisits : Visits now query goal text)
    (hfault : goal.rule now text = .error (.misplaced rest fault)) :
    FaultsAt now query rest fault := by
  induction hheight : goal.height using Nat.strong_induction_on generalizing goal text with
  | _ height ih =>
      subst hheight
      rcases goal.fails hfault with hlacks | ⟨next, place, hleads, hnext⟩
      · exact ⟨goal, text, hvisits, hlacks⟩
      · exact ih next.height hleads.height_lt (hvisits.step hleads) hnext rfl

theorem faultsAt_of_expressions {rounds : Nat}
    (htop : IsTop now maxDepth query (Text.trimStart text)) (hrounds : text.length < rounds)
    (hfault : expressions now maxDepth rounds text = .error (.misplaced rest fault)) :
    FaultsAt now query rest fault := by
  induction rounds generalizing text with
  | zero => cases hrounds
  | succ rounds ih =>
      have hlength := Text.length_trimStart_le text
      cases hstart : Text.trimStart text with
      | nil =>
          simp only [expressions, hstart] at hfault
          cases hfault
      | cons c inner =>
          rw [hstart] at htop hlength
          simp only [expressions, hstart] at hfault
          split at hfault
          next failed hfailed =>
            cases hfault
            exact faultsAt_of_rule (.top htop (List.cons_ne_nil c inner)) hfailed
          next first after hread =>
            have hshorter := (expression_advances now maxDepth hread).shorter
            split at hfault
            next failed hfailed =>
              cases hfault
              exact ih (.next htop hread) (by omega) hfailed
            next => cases hfault

/-- Reading the expressions of a query comes to whatever stands behind one of them. -/
theorem expressions_of_isTop {limit : Nat} {reason : Fault} (htop : IsTop now limit query text)
    (hmore : ∀ rounds start, Text.trimStart start = text → start.length < rounds →
      expressions now limit rounds start = .error reason) :
    expressions now limit (query.length + 1) query = .error reason := by
  induction htop with
  | first => exact hmore _ query rfl (Nat.lt_succ_self _)
  | @next text predicate rest htop hread ih =>
      refine ih fun rounds start hstart hrounds => ?_
      have hlength := Text.length_trimStart_le start
      have hshorter := (expression_advances now limit hread).shorter
      rw [hstart] at hlength
      cases rounds with
      | zero => cases hrounds
      | succ rounds =>
          cases text with
          | nil => cases hshorter
          | cons c inner =>
              simp only [expressions, hstart, hread, hmore rounds rest rfl (by omega)]

theorem Visits.expressions_eq {goal : Goal} {reason : Fault} (hvisits : Visits now query goal text)
    (hfault : goal.rule now text = .error reason) :
    expressions now maxDepth (query.length + 1) query = .error reason := by
  induction hvisits with
  | @top text htop hmore =>
      refine expressions_of_isTop htop fun rounds start hstart hrounds => ?_
      cases rounds with
      | zero => cases hrounds
      | succ rounds =>
          cases text with
          | nil => exact absurd rfl hmore
          | cons c inner =>
              have hread : expression now maxDepth (c :: inner) = .error reason := hfault
              simp only [expressions, hstart, hread]
  | step hvisits hleads ih => exact ih (hleads.rule_eq_error hfault)

theorem expressions_eq_misplaced_iff :
    expressions now maxDepth (query.length + 1) query = .error (.misplaced rest fault) ↔
      FaultsAt now query rest fault := by
  constructor
  · exact faultsAt_of_expressions .first (Nat.lt_succ_self _)
  · rintro ⟨goal, text, hvisits, hlacks⟩
    exact hvisits.expressions_eq hlacks.rule_eq_error

theorem FaultsAt.exists_before (hfaults : FaultsAt now query rest fault) :
    ∃ before, query = before ++ rest ∧ FitsPlace before rest fault := by
  obtain ⟨goal, text, hvisits, hlacks⟩ := hfaults
  obtain ⟨before, hbefore⟩ := hlacks.suffix.trans hvisits.suffix
  exact ⟨before, hbefore.symm, hlacks.fitsPlace (hbefore ▸ hvisits.suffix)⟩

/-- A query is refused for its shape if something that is read of it lacks what the fault says. The
offset counts the bytes before the place that is blamed: the parenthesis of a group that is not
closed, the delimiter of a text that is not closed, or what stands where a comma or a closing
parenthesis should. -/
theorem parse_eq_malformed_iff (text : String) (now : Binary64) (offset : Nat)
    (fault : SyntaxFault) :
    parse text now = .error (.malformed offset fault) ↔
      ∃ before rest, text.toList = before ++ rest ∧ offset = Text.byteLength before ∧
        offset ≤ Text.byteLength text.toList ∧ FaultsAt now text.toList rest fault ∧
        FitsPlace before rest fault := by
  have hiff : parse text now = .error (.malformed offset fault) ↔
      ∃ rest, FaultsAt now text.toList rest fault ∧
        offset = Text.byteLength text.toList - Text.byteLength rest := by
    simp only [← expressions_eq_misplaced_iff, parse, parseWithin]
    constructor
    · intro hparse
      split at hparse
      next reason hreason =>
        cases reason with
        | misplaced rest found =>
            cases hparse
            exact ⟨rest, hreason, rfl⟩
        | invalidRegex => cases hparse
        | comparison => cases hparse
      next => cases hparse
    · rintro ⟨rest, hfault, rfl⟩
      simp only [hfault, Fault.toError]
  have hbytes : ∀ before rest, text.toList = before ++ rest →
      Text.byteLength text.toList - Text.byteLength rest = Text.byteLength before := by
    intro before rest htext
    rw [htext, Text.byteLength_append, Nat.add_sub_cancel]
  refine hiff.trans ⟨?_, ?_⟩
  · rintro ⟨rest, hfaults, rfl⟩
    obtain ⟨before, htext, hfits⟩ := hfaults.exists_before
    exact ⟨before, rest, htext, hbytes before rest htext, Nat.sub_le _ _, hfaults, hfits⟩
  · rintro ⟨before, rest, htext, rfl, _, hfaults, _⟩
    exact ⟨rest, hfaults, (hbytes before rest htext).symm⟩

end Library

/-- The slash of an expression that is not closed, behind a blank of two bytes. -/
example :
    (match parse "\u00a0&(!/a\\/" 0 with
      | .error error => some error
      | .ok _ => none) = some (.malformed 5 (.missingClosing '/')) := by
  decide +kernel

end Songbook.Query
