import Songbook.Proofs.Query.Progress

/-!
# Rules of queries do not look beyond what they read

In a group an item is followed by a comma or by the closing parenthesis. A rule that accepts an item
on its own reads it alike there and leaves the same rest, followed by what follows. There is one
exception: a word of tag characters where an expression may stand could be the first name of a tag
match, so the reader looks past the comma after it.
-/

namespace Songbook.Query

/-! ## Stops -/

/-- A text that begins with a comma or a closing parenthesis. -/
def IsStop (following : List Char) : Prop :=
  ∃ c rest, following = c :: rest ∧ (c = ',' ∨ c = ')')

theorem isStop_comma (rest : List Char) : IsStop (',' :: rest) :=
  ⟨',', rest, rfl, Or.inl rfl⟩

theorem isStop_parenthesis (rest : List Char) : IsStop (')' :: rest) :=
  ⟨')', rest, rfl, Or.inr rfl⟩

theorem takeWhile_append_stop {p : Char → Bool} (hcomma : p ',' = false)
    (hparenthesis : p ')' = false) {following : List Char} (hstop : IsStop following)
    (text : List Char) : (text ++ following).takeWhile p = text.takeWhile p := by
  obtain ⟨c, rest, rfl, hc⟩ := hstop
  have hfalse : p c = false := by
    rcases hc with rfl | rfl
    · exact hcomma
    · exact hparenthesis
  induction text with
  | nil => simp [hfalse]
  | cons d text ih => simp [List.takeWhile_cons, ih]

theorem dropWhile_append_stop {p : Char → Bool} (hcomma : p ',' = false)
    (hparenthesis : p ')' = false) {following : List Char} (hstop : IsStop following)
    (text : List Char) : (text ++ following).dropWhile p = text.dropWhile p ++ following := by
  obtain ⟨c, rest, rfl, hc⟩ := hstop
  have hfalse : p c = false := by
    rcases hc with rfl | rfl
    · exact hcomma
    · exact hparenthesis
  induction text with
  | nil => simp [hfalse]
  | cons d text ih =>
      rw [List.cons_append, List.dropWhile_cons, List.dropWhile_cons]
      split
      · exact ih
      · rfl

theorem mem_dropWhile {p : Char → Bool} {c : Char} {text : List Char} (hmem : c ∈ text)
    (hc : p c = false) : c ∈ text.dropWhile p := by
  rw [← List.takeWhile_append_dropWhile (p := p) (l := text), List.mem_append] at hmem
  rcases hmem with hmem | hmem
  · have htrue := List.all_eq_true.mp List.all_takeWhile c hmem
    rw [hc] at htrue
    cases htrue
  · exact hmem

variable {following : List Char} (hstop : IsStop following)

include hstop

theorem trimStart_append (text : List Char) :
    Text.trimStart (text ++ following) = Text.trimStart text ++ following :=
  dropWhile_append_stop (by decide) (by decide) hstop text

theorem tagWord_append (text : List Char) : tagWord (text ++ following) = tagWord text := by
  rw [tagWord, tagWord, trimStart_append hstop]
  exact takeWhile_append_stop (by decide) (by decide) hstop _

theorem afterTag_append (text : List Char) :
    afterTag (text ++ following) = afterTag text ++ following := by
  rw [afterTag, afterTag, trimStart_append hstop,
    dropWhile_append_stop (by decide) (by decide) hstop, trimStart_append hstop]

/-! ## Matchers and comparisons -/

omit hstop in
theorem readDelimited?_append {delimiter : Char} (hdelimiter : delimiter ≠ '\\')
    {text quoted after : List Char} (hread : readDelimited? delimiter text = some (quoted, after))
    (following : List Char) :
    readDelimited? delimiter (text ++ following) = some (quoted, after ++ following) := by
  induction text using readDelimited?.induct delimiter generalizing quoted after with
  | case1 => cases hread
  | case2 next rest ih =>
      rw [readDelimited?] at hread
      obtain ⟨⟨inner, last⟩, hinner, heq⟩ := Option.map_eq_some_iff.mp hread
      rw [List.cons_append, List.cons_append, readDelimited?, ih hinner, Option.map_some]
      dsimp only at heq ⊢
      split at heq
      next hliteral =>
        cases heq
        rw [if_pos hliteral]
      next hliteral =>
        cases heq
        rw [if_neg hliteral]
  | case3 rest hescape =>
      rw [readDelimited?.eq_3 _ _ _ hescape, if_pos rfl] at hread
      cases hread
      rw [List.cons_append, readDelimited?.eq_3, if_pos rfl]
      intro _ _ hbackslash
      exact absurd hbackslash hdelimiter
  | case4 c rest hescape hne ih =>
      rw [readDelimited?.eq_3 _ _ _ hescape, if_neg hne] at hread
      obtain ⟨⟨inner, last⟩, hinner, heq⟩ := Option.map_eq_some_iff.mp hread
      cases heq
      -- a backslash that ends the text would leave it open
      have hplain : c ≠ '\\' := by
        rintro rfl
        cases rest with
        | nil => cases hinner
        | cons next more => exact hescape next more rfl rfl
      rw [List.cons_append, readDelimited?.eq_3, if_neg hne, ih hinner, Option.map_some]
      intro _ _ hbackslash
      exact absurd hbackslash hplain

section Library

variable [RegexLibrary]

theorem flagged_append {source text rest : List Char} {regex : Regex}
    (hflagged : flagged source text = .ok (regex, rest)) :
    flagged source (text ++ following) = .ok (regex, rest ++ following) := by
  obtain ⟨ignoreCase, hflags, hregex, rfl⟩ := flagged_eq_ok_iff.mp hflagged
  refine flagged_eq_ok_iff.mpr ⟨ignoreCase, ?_, hregex, ?_⟩
  · rw [takeWhile_append_stop (by decide) (by decide) hstop]
    exact hflags
  · rw [dropWhile_append_stop (by decide) (by decide) hstop]

theorem matcher_append {text rest : List Char} {regex : Regex}
    (hmatcher : matcher text = .ok (regex, rest)) :
    matcher (text ++ following) = .ok (regex, rest ++ following) := by
  apply matcher_eq_ok_iff.mpr
  cases matcher_eq_ok_iff.mp hmatcher with
  | slashes hstart hsource hflagged =>
      refine .slashes ?_ (readDelimited?_append (by decide) hsource following)
        (flagged_append hstop hflagged)
      rw [trimStart_append hstop, hstart]
      rfl
  | quotes hstart hquoted hflagged =>
      refine .quotes ?_ (readDelimited?_append (by decide) hquoted following)
        (flagged_append hstop hflagged)
      rw [trimStart_append hstop, hstart]
      rfl
  | word hslash hquote hword hflagged =>
      have htake : (Text.trimStart text ++ following).takeWhile isWordChar =
          (Text.trimStart text).takeWhile isWordChar :=
        takeWhile_append_stop (by decide) (by decide) hstop _
      have hdrop : (Text.trimStart text ++ following).dropWhile isWordChar =
          (Text.trimStart text).dropWhile isWordChar ++ following :=
        dropWhile_append_stop (by decide) (by decide) hstop _
      cases hstart : Text.trimStart text with
      | nil => simp [hstart] at hword
      | cons c inner =>
          refine .word ?_ ?_ ?_ ?_
          · rw [trimStart_append hstop, hstart]
            intro more heq
            cases heq
            exact hslash inner hstart
          · rw [trimStart_append hstop, hstart]
            intro more heq
            cases heq
            exact hquote inner hstart
          · rw [trimStart_append hstop, htake]
            exact hword
          · rw [trimStart_append hstop, htake, hdrop]
            exact flagged_append hstop hflagged

end Library

theorem comparison_append {now : Binary64} {text rest : List Char} {predicate : Predicate}
    (hcomparison : comparison now text = .ok (predicate, rest)) :
    comparison now (text ++ following) = .ok (predicate, rest ++ following) := by
  obtain ⟨hword, hoperator, leaf, hleaf, rfl, rfl⟩ := comparison_eq_ok_iff.mp hcomparison
  have htake : ((afterTag text) ++ following).takeWhile isOperatorChar =
      (afterTag text).takeWhile isOperatorChar :=
    takeWhile_append_stop (by decide) (by decide) hstop _
  have hafter : afterOperator (text ++ following) = afterOperator text ++ following := by
    rw [afterOperator, afterTag_append hstop]
    exact dropWhile_append_stop (by decide) (by decide) hstop _
  refine comparison_eq_ok_iff.mpr ⟨?_, ?_, leaf, ?_, rfl, ?_⟩
  · rw [tagWord_append hstop]
    exact hword
  · rw [afterTag_append hstop, htake]
    exact hoperator
  · rw [tagWord_append hstop, afterTag_append hstop, htake, hafter,
      takeWhile_append_stop (by decide) (by decide) hstop]
    exact hleaf
  · rw [hafter, dropWhile_append_stop (by decide) (by decide) hstop]

/-! ## Tag names -/

theorem tagNames?_append {text after : List Char} {names : List String}
    (hnames : tagNames? text = some (names, after)) :
    tagNames? (text ++ following) = some (names, after ++ following) := by
  induction text using tagNames_induction generalizing names after with
  | none text hword => rw [tagNames?_of_none hword] at hnames; cases hnames
  | equals text rest hword hafter =>
      rw [tagNames?_of_equals hword hafter] at hnames
      cases hnames
      rw [← tagWord_append hstop]
      apply tagNames?_of_equals
      · rw [tagWord_append hstop]
        exact hword
      · rw [afterTag_append hstop, hafter]
        rfl
  | comma text rest hword hafter ih =>
      rw [tagNames?_of_comma hword hafter] at hnames
      obtain ⟨⟨more, last⟩, hmore, heq⟩ := Option.map_eq_some_iff.mp hnames
      cases heq
      have hcomma : afterTag (text ++ following) = ',' :: (rest ++ following) := by
        rw [afterTag_append hstop, hafter]
        rfl
      rw [← tagWord_append hstop] at hword ⊢
      rw [tagNames?_of_comma hword hcomma, ih hmore]
      rfl
  | other text hword hequals hcomma =>
      rw [tagNames?_of_other hequals hcomma] at hnames
      cases hnames

/-- The characters of a list of tag names before its `=`. -/
def isListChar (c : Char) : Bool :=
  isTagChar c || Text.isBlank c || c = ','

omit hstop in
/-- Reading a name and what separates it from the next one passes no other character. -/
theorem exists_mem_afterTag {text : List Char} (hmem : ∃ c ∈ text, isListChar c = false) :
    ∃ c ∈ afterTag text, isListChar c = false := by
  obtain ⟨c, hmem, hc⟩ := hmem
  have hparts : (isTagChar c = false ∧ Text.isBlank c = false) ∧ c ≠ ',' := by
    simpa [isListChar] using hc
  refine ⟨c, ?_, hc⟩
  exact mem_dropWhile (mem_dropWhile (mem_dropWhile hmem hparts.1.2) hparts.1.1) hparts.1.2

/-- What stands after a tag name is found in the text itself or else at the start of what follows. -/
theorem afterTag_append_ne {text : List Char} {c : Char}
    (hafter : ∀ after, afterTag text ≠ c :: after)
    (hhead : afterTag text = [] → following.head? ≠ some c) :
    ∀ after, afterTag (text ++ following) ≠ c :: after := by
  intro after heq
  rw [afterTag_append hstop] at heq
  cases hrest : afterTag text with
  | nil =>
      rw [hrest, List.nil_append] at heq
      exact hhead hrest (heq ▸ rfl)
  | cons d rest =>
      rw [hrest] at heq
      cases heq
      exact hafter rest hrest

/-- A text that is no list of tag names, for another reason than its end, is none with more text; and
no text goes on as one after a closing parenthesis. -/
theorem tagNames?_append_of_none {text : List Char} (hnames : tagNames? text = none)
    (hend : following.head? = some ')' ∨ ∃ c ∈ text, isListChar c = false) :
    tagNames? (text ++ following) = none := by
  induction text using tagNames_induction with
  | none text hword =>
      apply tagNames?_of_none
      rw [tagWord_append hstop]
      exact hword
  | equals text rest hword hafter =>
      rw [tagNames?_of_equals hword hafter] at hnames
      cases hnames
  | comma text rest hword hafter ih =>
      rw [tagNames?_of_comma hword hafter, Option.map_eq_none_iff] at hnames
      have hrest : following.head? = some ')' ∨ ∃ c ∈ rest, isListChar c = false := by
        refine hend.imp_right fun hmem => ?_
        obtain ⟨c, hc, hother⟩ := exists_mem_afterTag hmem
        rw [hafter] at hc
        rcases List.mem_cons.mp hc with rfl | hc
        · cases hother
        · exact ⟨c, hc, hother⟩
      have hcomma : afterTag (text ++ following) = ',' :: (rest ++ following) := by
        rw [afterTag_append hstop, hafter]
        rfl
      rw [← tagWord_append hstop] at hword
      rw [tagNames?_of_comma hword hcomma, ih hnames hrest]
      rfl
  | other text hword hequals hcomma =>
      have hhead : ∀ c, c ≠ ')' → afterTag text = [] → following.head? ≠ some c := by
        intro c hc hnil heq
        rcases hend with hclose | hmem
        · rw [hclose] at heq
          exact hc (Option.some.inj heq).symm
        · obtain ⟨other, hother, _⟩ := exists_mem_afterTag hmem
          rw [hnil] at hother
          cases hother
      exact tagNames?_of_other
        (afterTag_append_ne hstop hequals (hhead '=' (by decide)))
        (afterTag_append_ne hstop hcomma (hhead ',' (by decide)))

/-! ## Groups, values and expressions -/

/-- A rule that reads what it accepts alike before some more text. -/
def ReadsBefore (following : List Char) (rule : Rule Predicate) (text : List Char) : Prop :=
  ∀ {predicate rest}, rule text = .ok (predicate, rest) →
    rule (text ++ following) = .ok (predicate, rest ++ following)

theorem Items.append {item : Rule Predicate} (hitem : Advances item)
    (hreads : ∀ text, ')' ∈ text → ReadsBefore following item text) {text rest : List Char}
    {items : List Predicate} (hitems : Items item text items rest) :
    Items item (text ++ following) items (rest ++ following) := by
  induction hitems with
  | close hclose =>
      apply Items.close
      rw [trimStart_append hstop, hclose]
      rfl
  | comma hcomma hfirst hitems ih =>
      refine .comma ?_ (hreads _ ?_ hfirst) ih
      · rw [trimStart_append hstop, hcomma]
        rfl
      · exact (hitem hfirst).suffix.mem (hitems.mem_parenthesis hitem)

theorem group_append {combine : List Predicate → Predicate} {item : Rule Predicate}
    (hitem : Advances item) (hreads : ∀ text, ')' ∈ text → ReadsBefore following item text)
    {inner rest : List Char} {predicate : Predicate}
    (hgroup : group combine item ('(' :: inner) = .ok (predicate, rest)) :
    group combine item ('(' :: (inner ++ following)) = .ok (predicate, rest ++ following) := by
  obtain ⟨first, middle, items, hfirst, hitems, rfl⟩ := group_eq_ok hgroup
  have hmem : ')' ∈ inner := (hitem hfirst).suffix.mem (hitems.mem_parenthesis hitem)
  exact group_of_items hitem (hreads inner hmem hfirst) (hitems.append hstop hitem hreads)

/-- No mark of an expression ends in a comma or a closing parenthesis. -/
theorem isMarked_append (text : List Char) : isMarked (text ++ following) = isMarked text := by
  obtain ⟨c, rest, rfl, hc⟩ := hstop
  have hopening : c ≠ '(' := by rcases hc with rfl | rfl <;> decide
  match text with
  | [] => rcases hc with rfl | rfl <;> rfl
  | [d] =>
      unfold isMarked
      grind
  | d :: e :: more =>
      unfold isMarked
      grind

theorem isMarked_trimStart_append {text : List Char}
    (hplain : isMarked (Text.trimStart text) = false) :
    isMarked (Text.trimStart (text ++ following)) = false := by
  rw [trimStart_append hstop, isMarked_append hstop]
  exact hplain

theorem isValueMarked_append (text : List Char) :
    isValueMarked (text ++ following) = isValueMarked text := by
  obtain ⟨c, rest, rfl, hc⟩ := hstop
  have hopening : c ≠ '(' := by rcases hc with rfl | rfl <;> decide
  match text with
  | [] => rcases hc with rfl | rfl <;> rfl
  | [d] =>
      unfold isValueMarked
      grind
  | d :: e :: more =>
      unfold isValueMarked
      grind

theorem value_append [RegexLibrary] (names : List String) (allowed : Nat) (text : List Char) :
    ReadsBefore following (value names allowed) text := by
  induction allowed generalizing text with
  | zero =>
      intro predicate rest hvalue
      cases hvalue
  | succ allowed ih =>
      intro predicate rest hvalue
      obtain ⟨_, heq, hstep⟩ := value_cases hvalue
      cases heq
      have hreads : ∀ text, ')' ∈ text → ReadsBefore following (value names allowed) text :=
        fun text _ => ih text
      cases hstep with
      | not hstart hinner =>
          rw [value, trimStart_append hstop, hstart]
          exact negated_eq_ok_iff.mpr ⟨_, ih _ hinner, rfl⟩
      | all hstart hgroup | any hstart hgroup =>
          rw [value, trimStart_append hstop, hstart]
          exact group_append hstop (value_advances names allowed) hreads hgroup
      | plain hplain hmatcher =>
          have hmore : isValueMarked (Text.trimStart (text ++ following)) = false := by
            rw [trimStart_append hstop, isValueMarked_append hstop]
            exact hplain
          rw [value_of_plain hmore, trimStart_append hstop]
          exact matching_eq_ok_iff.mpr ⟨_, matcher_append hstop hmatcher, rfl⟩

/-- A text after its blanks and the negations it starts with. -/
def unnegated (text : List Char) : List Char :=
  text.dropWhile fun c => Text.isBlank c || c = '!'

omit hstop in
theorem unnegated_trimStart (text : List Char) :
    unnegated (Text.trimStart text) = unnegated text := by
  induction text with
  | nil => rfl
  | cons c text ih =>
      rw [Text.trimStart, List.dropWhile_cons]
      split
      next hblank =>
        have hdropped : unnegated (c :: text) = unnegated text := by
          simp [unnegated, hblank]
        rw [hdropped]
        exact ih
      next => rfl

omit hstop in
theorem unnegated_of_not {text inner : List Char} (hstart : Text.trimStart text = '!' :: inner) :
    unnegated text = unnegated inner := by
  rw [← unnegated_trimStart, hstart]
  rfl

omit hstop in
/-- Without a negation only the blanks go. -/
theorem unnegated_of_plain {text : List Char} (hplain : isMarked (Text.trimStart text) = false) :
    unnegated text = Text.trimStart text := by
  rw [← unnegated_trimStart]
  cases hstart : Text.trimStart text with
  | nil => rfl
  | cons c inner =>
      have hblank := isBlank_of_trimStart hstart
      have hmark : c ≠ '!' := by
        rintro rfl
        rw [hstart] at hplain
        cases hplain
      simp [unnegated, hblank, hmark]

/-- Where an expression may stand, a text is not read on into what follows: it does not become a list
of tag names. -/
def EndsBefore (following text : List Char) : Prop :=
  tagNames? (unnegated text) = none → tagNames? (unnegated text ++ following) = none

theorem endsBefore_of_parenthesis {text : List Char} (hmem : ')' ∈ text) :
    EndsBefore following text := by
  intro hnames
  exact tagNames?_append_of_none hstop hnames
    (Or.inr ⟨')', mem_dropWhile hmem (by decide), by decide⟩)

theorem expression_append [RegexLibrary] (now : Binary64) (allowed : Nat) (text : List Char)
    (hends : EndsBefore following text) :
    ReadsBefore following (expression now allowed) text := by
  induction allowed generalizing text with
  | zero =>
      intro predicate rest hexpression
      cases hexpression
  | succ allowed ih =>
      intro predicate rest hexpression
      obtain ⟨_, heq, hstep⟩ := expression_cases hexpression
      cases heq
      have hreads : ∀ text, ')' ∈ text → ReadsBefore following (expression now allowed) text :=
        fun text hmem => ih text (endsBefore_of_parenthesis hstop hmem)
      cases hstep with
      | all hstart hgroup | any hstart hgroup =>
          rw [expression, trimStart_append hstop, hstart]
          exact group_append hstop (expression_advances now allowed) hreads hgroup
      | comparisons hstart hgroup =>
          rw [expression, trimStart_append hstop, hstart]
          exact group_append hstop comparison_isRest (fun _ _ => comparison_append hstop) hgroup
      | not hstart hinner =>
          rw [EndsBefore, unnegated_of_not hstart] at hends
          rw [expression, trimStart_append hstop, hstart]
          exact negated_eq_ok_iff.mpr ⟨_, ih _ hends hinner, rfl⟩
      | tags hplain hnames hvalue =>
          have hmore := isMarked_trimStart_append hstop hplain
          have hnamesMore := tagNames?_append hstop hnames
          rw [← trimStart_append hstop] at hnamesMore
          simp only [expression_of_plain hmore, hnamesMore]
          exact value_append hstop _ _ _ hvalue
      | bare hplain hnames hmatcher =>
          have hmore := isMarked_trimStart_append hstop hplain
          -- only here does the reader look beyond the text: a word may start a list of tag names
          rw [EndsBefore, unnegated_of_plain hplain] at hends
          have hnamesMore := hends hnames
          rw [← trimStart_append hstop] at hnamesMore
          simp only [expression_of_plain hmore, hnamesMore]
          rw [trimStart_append hstop]
          exact matching_eq_ok_iff.mpr ⟨_, matcher_append hstop hmatcher, rfl⟩

end Songbook.Query
