import Mathlib.Data.List.Forall2
import Mathlib.Data.List.TakeWhile
import Songbook.Proofs.Query.Following
import Songbook.Proofs.Query.Nesting
import Songbook.RegexEngine.Library

/-!
# Groups of queries

A group `&(...)` holds of the records that all of its items hold of, and a group `|(...)` of those that
one of its items holds of, where an item means in the group what it means alone. The comma between
items is also the comma between the tag names of one match: after an item that is only a word, items
that start like the rest of such a match are read as its rest.
-/

namespace Songbook.Query

section Library

variable [RegexLibrary]

/-- A text is one expression when it stands alone, in which at most `allowed` rules may be open. -/
def IsExpression (now : Binary64) (allowed : Nat) (text : String) (predicate : Predicate) : Prop :=
  ∃ rest, expression now allowed text.toList = .ok (predicate, rest) ∧ Text.trimStart rest = []

/-- Whether a rule that reads expressions reads the whole of a text. -/
def isWholeExpression (now : Binary64) (allowed : Nat) (text : String) : Bool :=
  match expression now allowed text.toList with
  | .ok (_, rest) => (Text.trimStart rest).isEmpty
  | .error _ => false

theorem isWholeExpression_iff {now : Binary64} {allowed : Nat} {text : String} :
    isWholeExpression now allowed text = true ↔
      ∃ predicate, IsExpression now allowed text predicate := by
  unfold isWholeExpression IsExpression
  cases hexpression : expression now allowed text.toList with
  | error fault => simp
  | ok result => simp [Prod.ext_iff]

instance (now : Binary64) (allowed : Nat) (text : String) :
    Decidable (∃ predicate, IsExpression now allowed text predicate) :=
  decidable_of_iff _ isWholeExpression_iff

end Library

/-- Whether a text is a single word of tag characters, maybe negated. -/
def isBareWord (text : List Char) : Bool :=
  (afterTag (unnegated text)).isEmpty

/-- The items of a group do not join: no item that is only a word stands before items that read on as
a list of tag names up to its `=`. -/
def KeptApart : List String → Prop
  | [] => True
  | item :: items =>
    (isBareWord item.toList = true → tagNames? (", ".intercalate items).toList = none) ∧
      KeptApart items

instance decidableKeptApart : (items : List String) → Decidable (KeptApart items)
  | [] => inferInstanceAs (Decidable True)
  | _ :: items =>
    have := decidableKeptApart items
    inferInstanceAs (Decidable (_ ∧ _))

/-! ## Items -/

theorem trimStart_eq_nil_iff {text : List Char} :
    Text.trimStart text = [] ↔ ∀ c ∈ text, Text.isBlank c = true :=
  List.dropWhile_eq_nil_iff

/-- ASCII letters are characters of words. -/
theorem isWordChar_of_isFlagChar {c : Char} (hflag : isFlagChar c = true) :
    isWordChar c = true := by
  have hrange : 65 ≤ c.toNat ∧ c.toNat ≤ 122 := by
    rcases Bool.or_eq_true_iff.mp hflag with hupper | hlower
    · obtain ⟨hlow, hhigh⟩ := of_decide_eq_true hupper
      exact ⟨hlow, Nat.le_trans hhigh (by decide)⟩
    · obtain ⟨hlow, hhigh⟩ := Bool.and_eq_true_iff.mp hlower
      exact ⟨Nat.le_trans (by decide) (of_decide_eq_true hlow), of_decide_eq_true hhigh⟩
  have hother : ∀ d : Char, d.toNat < 65 → c ≠ d := by
    rintro d hd rfl
    omega
  have hblank : Text.isBlank c = false := by
    simp only [Text.isBlank, Unicode.Property.isWhiteSpace, List.contains_eq_mem,
      Bool.or_eq_false_iff, decide_eq_false_iff_not, List.mem_cons, List.not_mem_nil, or_false,
      Bool.and_eq_false_iff]
    omega
  simp [isWordChar, hblank, hother ',' (by decide), hother '(' (by decide),
    hother ')' (by decide)]

/-- No flag follows a word, since it would be part of the word. -/
theorem dropWhile_isFlagChar_after_word (text : List Char) :
    (text.dropWhile isWordChar).dropWhile isFlagChar = text.dropWhile isWordChar := by
  have hhead := List.head?_dropWhile_not isWordChar text
  cases hrest : text.dropWhile isWordChar with
  | nil => rfl
  | cons c rest =>
      rw [hrest] at hhead
      have hword : isWordChar c = false := hhead
      have hflag : ¬isFlagChar c = true := by
        intro hflag
        rw [isWordChar_of_isFlagChar hflag] at hword
        cases hword
      rw [List.dropWhile_cons, if_neg hflag]

theorem isTagChar_of_isWordChar {c : Char} (hword : isWordChar c = true)
    (hlist : isListChar c = true) : isTagChar c = true := by
  simp only [isWordChar, Bool.and_eq_true, Bool.not_eq_true', Bool.or_eq_false_iff,
    decide_eq_false_iff_not] at hword
  simpa [isListChar, hword] using hlist

section Library

variable [RegexLibrary]

/-- A matcher that is the whole text either is one word of tag characters or holds a character that
is in no list of tag names. -/
theorem exists_mem_of_matcher {text rest : List Char} {regex : Regex}
    (hmatcher : matcher text = .ok (regex, rest)) (hrest : Text.trimStart rest = [])
    (hafter : afterTag text ≠ []) : ∃ c ∈ text, isListChar c = false := by
  cases matcher_eq_ok_iff.mp hmatcher with
  | slashes hstart hsource hflagged =>
      refine ⟨'/', (trimStart_suffix text).mem ?_, by decide⟩
      rw [hstart]
      exact List.mem_cons_self
  | quotes hstart hquoted hflagged =>
      refine ⟨'"', (trimStart_suffix text).mem ?_, by decide⟩
      rw [hstart]
      exact List.mem_cons_self
  | word hslash hquote hread hflagged =>
      obtain ⟨_, _, _, rfl⟩ := flagged_eq_ok_iff.mp hflagged
      rw [dropWhile_isFlagChar_after_word] at hrest
      apply Classical.byContradiction
      intro hnone
      apply hafter
      -- words hold no blanks and no commas, so a word of list characters is one of tag characters
      have hchars : ∀ c ∈ (Text.trimStart text).takeWhile isWordChar, isTagChar c = true := by
        intro c hc
        have hword := List.all_eq_true.mp List.all_takeWhile c hc
        have hmem := (trimStart_suffix text).mem ((List.takeWhile_prefix isWordChar).mem hc)
        apply isTagChar_of_isWordChar hword
        apply Bool.of_not_eq_false
        exact fun hother => hnone ⟨c, hmem, hother⟩
      have hblanks := trimStart_eq_nil_iff.mp hrest
      rw [afterTag, ← List.takeWhile_append_dropWhile (p := isWordChar) (l := Text.trimStart text),
        List.dropWhile_append_of_pos hchars]
      exact trimStart_eq_nil_iff.mpr fun c hc => hblanks c ((List.dropWhile_suffix _).mem hc)

theorem exists_mem_of_expression {now : Binary64} {allowed : Nat} {text rest : List Char}
    {predicate : Predicate} (hexpression : expression now allowed text = .ok (predicate, rest))
    (hrest : Text.trimStart rest = []) (hnames : tagNames? (unnegated text) = none)
    (hword : isBareWord text = false) : ∃ c ∈ unnegated text, isListChar c = false := by
  induction allowed generalizing text predicate with
  | zero => cases hexpression
  | succ allowed ih =>
      obtain ⟨_, heq, hstep⟩ := expression_cases hexpression
      cases heq
      cases hstep with
      | all hstart hgroup | any hstart hgroup | comparisons hstart hgroup =>
          refine ⟨'(', mem_dropWhile ((trimStart_suffix text).mem ?_) (by decide), by decide⟩
          rw [hstart]
          exact List.mem_cons_of_mem _ List.mem_cons_self
      | not hstart hinner =>
          rw [isBareWord] at hword
          rw [unnegated_of_not hstart] at hnames hword ⊢
          exact ih hinner hnames hword
      | tags hplain hfound hvalue =>
          rw [unnegated_of_plain hplain, hfound] at hnames
          cases hnames
      | bare hplain hfound hmatcher =>
          rw [isBareWord, unnegated_of_plain hplain] at hword
          rw [unnegated_of_plain hplain]
          refine exists_mem_of_matcher hmatcher hrest fun hnil => ?_
          rw [hnil] at hword
          cases hword

end Library

/-- What follows an item in a group: the items after it and the closing parenthesis. -/
def afterItem : List String → List Char
  | [] => [')']
  | item :: items => ',' :: ' ' :: (item.toList ++ afterItem items)

theorem isStop_afterItem (items : List String) : IsStop (afterItem items) := by
  cases items with
  | nil => exact isStop_parenthesis []
  | cons item items => exact isStop_comma _

theorem toList_intercalate_append (item : String) (items : List String) :
    (", ".intercalate (item :: items)).toList ++ [')'] = item.toList ++ afterItem items := by
  induction items generalizing item with
  | nil => simp [afterItem]
  | cons next items ih =>
      rw [String.intercalate_cons_cons, String.toList_append, String.toList_append,
        List.append_assoc, List.append_assoc, ih next]
      rfl

theorem tagNames?_congr {text other : List Char}
    (hstart : Text.trimStart text = Text.trimStart other) : tagNames? text = tagNames? other := by
  rw [tagNames?, tagNames?]
  generalize Text.trimStart text = start at hstart
  subst hstart
  rfl

theorem expression_congr [RegexLibrary] {now : Binary64} {allowed : Nat} {text other : List Char}
    (hstart : Text.trimStart text = Text.trimStart other) :
    expression now (allowed + 1) text = expression now (allowed + 1) other := by
  rw [expression, expression]
  simp only [hstart]

theorem trimStart_cons_space (text : List Char) :
    Text.trimStart (' ' :: text) = Text.trimStart text := by
  rw [Text.trimStart, List.dropWhile_cons, if_pos (by decide)]
  rfl

section Library

variable [RegexLibrary]

/-- Items that are kept apart are not read on into what follows them. -/
theorem endsBefore_afterItem {now : Binary64} {allowed : Nat} {item : String}
    {items : List String} {predicate : Predicate}
    (hitem : IsExpression now allowed item predicate) (hapart : KeptApart (item :: items)) :
    EndsBefore (afterItem items) item.toList := by
  intro hnames
  obtain ⟨rest, hexpression, hrest⟩ := hitem
  have hstop := isStop_afterItem items
  cases hbare : isBareWord item.toList with
  | false =>
      exact tagNames?_append_of_none hstop hnames
        (Or.inr (exists_mem_of_expression hexpression hrest hnames hbare))
  | true =>
      cases items with
      | nil => exact tagNames?_append_of_none hstop hnames (Or.inl rfl)
      | cons next items =>
          have hafter : afterTag (unnegated item.toList) = [] := List.isEmpty_iff.mp hbare
          have hcomma : afterTag (unnegated item.toList ++ afterItem (next :: items)) =
              ',' :: ' ' :: (next.toList ++ afterItem items) := by
            rw [afterTag_append hstop, hafter]
            rfl
          -- the comma after the word goes on a list of names only if the later items are one
          have hlater : tagNames? (next.toList ++ afterItem items) = none := by
            rw [← toList_intercalate_append]
            exact tagNames?_append_of_none (isStop_parenthesis []) (hapart.1 hbare) (Or.inl rfl)
          by_cases hword : tagWord (unnegated item.toList ++ afterItem (next :: items)) = []
          · exact tagNames?_of_none hword
          · rw [tagNames?_of_comma hword hcomma, tagNames?_congr (trimStart_cons_space _), hlater]
            rfl

/-- An item that is kept apart from what follows is read as the expression that it is alone. -/
theorem expression_item {now : Binary64} {allowed : Nat} {item : String} {items : List String}
    {predicate : Predicate} (hitem : IsExpression now allowed item predicate)
    (hapart : KeptApart (item :: items)) :
    ∃ rest, Text.trimStart rest = [] ∧
      expression now allowed (item.toList ++ afterItem items) =
        .ok (predicate, rest ++ afterItem items) := by
  have hends := endsBefore_afterItem hitem hapart
  obtain ⟨rest, hexpression, hrest⟩ := hitem
  exact ⟨rest, hrest,
    expression_append (isStop_afterItem items) now allowed item.toList hends hexpression⟩

theorem items_afterItem {now : Binary64} {allowed : Nat} {items : List String}
    {predicates : List Predicate}
    (hitems : List.Forall₂ (IsExpression now allowed) items predicates)
    (hapart : KeptApart items) {rest : List Char} (hrest : Text.trimStart rest = []) :
    Items (expression now allowed) (rest ++ afterItem items) predicates [] := by
  induction hitems generalizing rest with
  | nil =>
      apply Items.close
      rw [trimStart_append (isStop_afterItem _), hrest]
      rfl
  | @cons item predicate items predicates hitem hitems ih =>
      obtain ⟨last, hlast, hread⟩ := expression_item hitem hapart
      have hcomma : Text.trimStart (rest ++ afterItem (item :: items)) =
          ',' :: ' ' :: (item.toList ++ afterItem items) := by
        rw [trimStart_append (isStop_afterItem _), hrest]
        rfl
      refine .comma hcomma ?_ (ih hapart.2 hlast)
      obtain ⟨fewer, rfl, _⟩ := expression_cases hread
      rw [expression_congr (trimStart_cons_space _)]
      exact hread

theorem group_of_expressions (combine : List Predicate → Predicate) {now : Binary64}
    {allowed : Nat} {item : String} {items : List String} {predicates : List Predicate}
    (hitems : List.Forall₂ (IsExpression now allowed) (item :: items) predicates)
    (hapart : KeptApart (item :: items)) :
    group combine (expression now allowed) ('(' :: (item.toList ++ afterItem items)) =
      .ok (.collapse combine predicates, []) := by
  cases hitems with
  | cons hitem hitems =>
      obtain ⟨rest, hrest, hread⟩ := expression_item hitem hapart
      exact group_of_items (expression_advances now allowed) hread
        (items_afterItem hitems hapart.2 hrest)

end Library

/-! ## Joined items -/

theorem isMarked_of_word {text : List Char} (hword : tagWord text ≠ [])
    (hend : afterTag text = []) : isMarked (Text.trimStart text) = false := by
  rw [tagWord] at hword
  rw [afterTag] at hend
  cases hmarked : isMarked (Text.trimStart text) with
  | false => rfl
  | true =>
      unfold isMarked at hmarked
      split at hmarked
      -- only the mark of comparisons starts with a tag character, and a parenthesis follows it
      next inner hstart => exact absurd (by rw [hstart]; rfl) hword
      next inner hstart => exact absurd (by rw [hstart]; rfl) hword
      next inner hstart => rw [hstart] at hend; cases hend
      next inner hstart => exact absurd (by rw [hstart]; rfl) hword
      next => cases hmarked

section Library

variable [RegexLibrary]

/-- A single word before the rest of a list of tag names is the first name of the list. So an item
that is not kept apart is never read as what it is alone. -/
theorem expression_of_joined {now : Binary64} {allowed : Nat} {text following after : List Char}
    {names : List String} (hword : tagWord text ≠ []) (hend : afterTag text = [])
    (hnames : tagNames? following = some (names, after)) :
    expression now (allowed + 1) (text ++ ',' :: following) =
      value (String.ofList (tagWord text) :: names) allowed after := by
  have hstop := isStop_comma following
  have hplain := isMarked_trimStart_append hstop (isMarked_of_word hword hend)
  have hcomma : afterTag (text ++ ',' :: following) = ',' :: following := by
    rw [afterTag_append hstop, hend]
    rfl
  have hfirst : tagWord (text ++ ',' :: following) ≠ [] := by
    rw [tagWord_append hstop]
    exact hword
  have hjoined : tagNames? (Text.trimStart (text ++ ',' :: following)) =
      some (String.ofList (tagWord text) :: names, after) := by
    rw [tagNames?_congr (trimStart_trimStart _), tagNames?_of_comma hfirst hcomma, hnames,
      tagWord_append hstop]
    rfl
  rw [expression_of_plain hplain, hjoined]

/-! ## Whole queries -/

theorem IsExpression.mono {now : Binary64} {allowed : Nat} {text : String} {predicate : Predicate}
    (hexpression : IsExpression now allowed text predicate) :
    IsExpression now (allowed + 1) text predicate := by
  obtain ⟨rest, hread, hrest⟩ := hexpression
  exact ⟨rest, (expression_restricts now allowed).accepts hread, hrest⟩

/-- A round reads one expression and leaves the later ones to the rounds after it. -/
theorem expressions_round {now : Binary64} {text rest : List Char} {predicate : Predicate}
    {more : List Predicate} {rounds : Nat}
    (hread : expression now maxDepth text = .ok (predicate, rest))
    (hmore : expressions now maxDepth rounds rest = .ok more) :
    expressions now maxDepth (rounds + 1) text = .ok (predicate :: more) := by
  have hstart : expression now maxDepth (Text.trimStart text) = .ok (predicate, rest) := by
    rw [← hread]
    exact expression_congr (trimStart_trimStart _)
  cases htext : Text.trimStart text with
  | nil =>
      have hshorter := (expression_advances now maxDepth hstart).shorter
      rw [htext] at hshorter
      cases hshorter
  | cons c text =>
      rw [htext] at hstart
      simp only [expressions, htext, hstart, hmore]

/-- A text that is one expression is a query, which means the expression. -/
theorem parse_of_isExpression {now : Binary64} {text : String} {predicate : Predicate}
    (hexpression : IsExpression now maxDepth text predicate) : parse text now = .ok predicate := by
  obtain ⟨rest, hread, hrest⟩ := hexpression
  have hpos : text.toList.length ≠ 0 := by
    intro hnil
    have hshorter := (expression_advances now maxDepth hread).shorter
    omega
  obtain ⟨rounds, hrounds⟩ := Nat.exists_eq_succ_of_ne_zero hpos
  -- the first round reads everything, and the second one finds only blanks
  have hsecond : expressions now maxDepth (rounds + 1) rest = .ok [] := by
    simp only [expressions, hrest]
  have hfirst := expressions_round hread hsecond
  rw [← Nat.succ_eq_add_one rounds, ← hrounds] at hfirst
  simp only [parse, parseWithin, hfirst, Predicate.collapse]

/-- A group is one expression, which combines what its items are. -/
theorem parse_of_items {now : Binary64} {opening : String} {mark : Char}
    {combine : List Predicate → Predicate} (hopening : opening.toList = [mark, '('])
    (hgroup : ∀ inner, expression now maxDepth (mark :: '(' :: inner) =
      group combine (expression now (maxDepth - 1)) ('(' :: inner))
    {items : List String} {predicates : List Predicate} (hnonempty : items ≠ [])
    (hitems : List.Forall₂ (IsExpression now (maxDepth - 1)) items predicates)
    (hapart : KeptApart items) :
    parse (opening ++ ", ".intercalate items ++ ")") now = .ok (.collapse combine predicates) := by
  cases items with
  | nil => exact absurd rfl hnonempty
  | cons item items =>
      have htext : (opening ++ ", ".intercalate (item :: items) ++ ")").toList =
          mark :: '(' :: (item.toList ++ afterItem items) := by
        rw [String.toList_append, String.toList_append, hopening, List.append_assoc]
        exact congrArg (mark :: '(' :: ·) (toList_intercalate_append item items)
      apply parse_of_isExpression
      refine ⟨[], ?_, rfl⟩
      rw [htext, hgroup]
      exact group_of_expressions combine hitems hapart

/-! ## What groups hold of -/

theorem holds_collapse_intersection (record : Record) (predicates : List Predicate) :
    (Predicate.collapse .intersection predicates).holds record = true ↔
      ∀ predicate ∈ predicates, predicate.holds record = true := by
  have hall : ∀ predicates, Predicate.allHold record predicates = true ↔
      ∀ predicate ∈ predicates, predicate.holds record = true := by
    intro predicates
    induction predicates with
    | nil => simp [Predicate.allHold]
    | cons predicate predicates ih => simp [Predicate.allHold, ih]
  match predicates with
  | [] => exact hall []
  | [only] => simp [Predicate.collapse]
  | first :: second :: rest => exact hall (first :: second :: rest)

theorem holds_collapse_union (record : Record) (predicates : List Predicate) :
    (Predicate.collapse .union predicates).holds record = true ↔
      ∃ predicate ∈ predicates, predicate.holds record = true := by
  have hany : ∀ predicates, Predicate.anyHolds record predicates = true ↔
      ∃ predicate ∈ predicates, predicate.holds record = true := by
    intro predicates
    induction predicates with
    | nil => simp [Predicate.anyHolds]
    | cons predicate predicates ih => simp [Predicate.anyHolds, ih]
  match predicates with
  | [] => exact hany []
  | [only] => simp [Predicate.collapse]
  | first :: second :: rest => exact hany (first :: second :: rest)

/-- What all expressions of a list hold of, and what one of them holds of, by the queries alone. -/
theorem forall_holds_iff {now : Binary64} {items : List String} {predicates : List Predicate}
    (hitems : List.Forall₂ (IsExpression now maxDepth) items predicates) (record : Record) :
    (∀ predicate ∈ predicates, predicate.holds record = true) ↔
      ∀ item ∈ items, ∃ predicate, parse item now = .ok predicate ∧
        predicate.holds record = true := by
  induction hitems with
  | nil => simp
  | cons hitem hitems ih =>
      simp only [List.forall_mem_cons, ih, parse_of_isExpression hitem, Except.ok.injEq,
        exists_eq_left']

theorem exists_holds_iff {now : Binary64} {items : List String} {predicates : List Predicate}
    (hitems : List.Forall₂ (IsExpression now maxDepth) items predicates) (record : Record) :
    (∃ predicate ∈ predicates, predicate.holds record = true) ↔
      ∃ item ∈ items, ∃ predicate, parse item now = .ok predicate ∧
        predicate.holds record = true := by
  induction hitems with
  | nil => simp
  | cons hitem hitems ih =>
      simp only [List.exists_mem_cons_iff, ih, parse_of_isExpression hitem, Except.ok.injEq,
        exists_eq_left']

theorem exists_forall₂ {now : Binary64} {allowed : Nat} {items : List String}
    (haccepted : ∀ item ∈ items, ∃ predicate, IsExpression now allowed item predicate) :
    ∃ predicates, List.Forall₂ (IsExpression now allowed) items predicates := by
  induction items with
  | nil => exact ⟨[], .nil⟩
  | cons item items ih =>
      obtain ⟨predicate, hitem⟩ := haccepted item List.mem_cons_self
      obtain ⟨predicates, hitems⟩ := ih fun other hother =>
        haccepted other (List.mem_cons_of_mem _ hother)
      exact ⟨predicate :: predicates, .cons hitem hitems⟩

/-- Expressions whose commas do not join them make up two groups, at every instant: one that holds of
the records that all of the expressions hold of, and one that holds of those that some expression
holds of. -/
theorem parse_groups (now : Binary64) (items : List String) (hnonempty : items ≠ [])
    (haccepted : ∀ item ∈ items, ∃ predicate, IsExpression now (maxDepth - 1) item predicate)
    (hapart : KeptApart items) :
    ∃ all any, parse ("&(" ++ ", ".intercalate items ++ ")") now = .ok all ∧
      parse ("|(" ++ ", ".intercalate items ++ ")") now = .ok any ∧
      ∀ record,
        (all.holds record = true ↔
          ∀ item ∈ items, ∃ predicate, parse item now = .ok predicate ∧
            predicate.holds record = true) ∧
        (any.holds record = true ↔
          ∃ item ∈ items, ∃ predicate, parse item now = .ok predicate ∧
            predicate.holds record = true) := by
  obtain ⟨predicates, hitems⟩ := exists_forall₂ haccepted
  have hwhole : List.Forall₂ (IsExpression now maxDepth) items predicates :=
    hitems.imp fun _ _ hitem => hitem.mono
  refine ⟨_, _, parse_of_items rfl (fun _ => rfl) hnonempty hitems hapart,
    parse_of_items rfl (fun _ => rfl) hnonempty hitems hapart, fun record => ⟨?_, ?_⟩⟩
  · rw [holds_collapse_intersection]
    exact forall_holds_iff hwhole record
  · rw [holds_collapse_union]
    exact exists_holds_iff hwhole record

end Library

/-- A comparison, a match of a tag and a word, in this order. -/
theorem parse_groups_word_last :
    ["#(a>1)", "b=//c", "x"] ≠ [] ∧
    (∀ item ∈ ["#(a>1)", "b=//c", "x"],
      ∃ predicate, IsExpression 0 (maxDepth - 1) item predicate) ∧
    KeptApart ["#(a>1)", "b=//c", "x"] ∧
    ∃ all any, parse "&(#(a>1), b=//c, x)" 0 = .ok all ∧
      parse "|(#(a>1), b=//c, x)" 0 = .ok any ∧
      ∀ record,
        (all.holds record = true ↔
          ∀ item ∈ ["#(a>1)", "b=//c", "x"], ∃ predicate, parse item 0 = .ok predicate ∧
            predicate.holds record = true) ∧
        (any.holds record = true ↔
          ∃ item ∈ ["#(a>1)", "b=//c", "x"], ∃ predicate, parse item 0 = .ok predicate ∧
            predicate.holds record = true) := by
  have hnonempty : ["#(a>1)", "b=//c", "x"] ≠ [] := by decide
  have haccepted : ∀ item ∈ ["#(a>1)", "b=//c", "x"],
      ∃ predicate, IsExpression 0 (maxDepth - 1) item predicate := by decide +kernel
  have hapart : KeptApart ["#(a>1)", "b=//c", "x"] := by decide +kernel
  exact ⟨hnonempty, haccepted, hapart, parse_groups 0 _ hnonempty haccepted hapart⟩

/-- A record without any tags. -/
def untagged : Record where
  get? _ := none
  comma _ := ""
  list _ := []
  numeric? _ := none

/-- A word before a match of a tag names one more tag of the match. Both items are expressions, but
the group does not ask for both: it holds of a record that the word alone does not hold of. -/
theorem parse_groups_word_first :
    (∀ item ∈ ["a", "b=//c"], ∃ predicate, IsExpression 0 (maxDepth - 1) item predicate) ∧
    ¬∃ all, parse "&(a, b=//c)" 0 = .ok all ∧ ∀ record,
      (all.holds record = true ↔
        ∀ item ∈ ["a", "b=//c"], ∃ predicate, parse item 0 = .ok predicate ∧
          predicate.holds record = true) := by
  have hgroup : (match parse "&(a, b=//c)" 0 with
      | .ok predicate => predicate.holds untagged
      | .error _ => false) = true := by decide +kernel
  have hword : (match parse "a" 0 with
      | .ok predicate => predicate.holds untagged
      | .error _ => true) = false := by decide +kernel
  refine ⟨by decide +kernel, ?_⟩
  rintro ⟨all, hall, hholds⟩
  rw [hall] at hgroup
  obtain ⟨predicate, hparse, hpredicate⟩ := (hholds untagged).mp hgroup "a" List.mem_cons_self
  rw [hparse] at hword
  exact Bool.false_ne_true (hword.symm.trans hpredicate)

end Songbook.Query
