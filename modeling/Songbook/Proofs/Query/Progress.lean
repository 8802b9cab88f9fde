import Songbook.Proofs.Query.Rules

/-!
# Rules of queries read something

What a rule leaves when it succeeds is an end of the text it was given, and never the whole text. So
every round of a loop over items or expressions has less text before it.
-/

namespace Songbook.Query

/-- A text is what is left of another one after something has been read. -/
structure IsRest (rest text : List Char) : Prop where
  suffix : rest <:+ text
  shorter : rest.length < text.length

namespace IsRest

theorem cons {rest inner : List Char} (hsuffix : rest <:+ inner) (c : Char) :
    IsRest rest (c :: inner) := by
  refine ⟨hsuffix.trans (List.suffix_cons c inner), ?_⟩
  have hlength := hsuffix.length_le
  rw [List.length_cons]
  omega

/-- Leaving part of what is left is leaving part of the whole. -/
theorem of_suffix {rest middle text : List Char} (hrest : IsRest rest middle)
    (hmiddle : middle <:+ text) : IsRest rest text :=
  ⟨hrest.suffix.trans hmiddle, Nat.lt_of_lt_of_le hrest.shorter hmiddle.length_le⟩

theorem trans {rest middle text : List Char} (hrest : rest <:+ middle)
    (hmiddle : IsRest middle text) : IsRest rest text :=
  ⟨hrest.trans hmiddle.suffix, Nat.lt_of_le_of_lt hrest.length_le hmiddle.shorter⟩

theorem dropWhile {p : Char → Bool} {text : List Char} (hread : text.takeWhile p ≠ []) :
    IsRest (text.dropWhile p) text := by
  refine ⟨List.dropWhile_suffix p, ?_⟩
  have hlength := congrArg List.length (List.takeWhile_append_dropWhile (p := p) (l := text))
  have hpos := List.length_pos_iff.mpr hread
  rw [List.length_append] at hlength
  omega

end IsRest

theorem trimStart_suffix (text : List Char) : Text.trimStart text <:+ text :=
  List.dropWhile_suffix _

theorem isBlank_of_trimStart {text inner : List Char} {c : Char}
    (hstart : Text.trimStart text = c :: inner) : Text.isBlank c = false := by
  have hhead := List.head?_dropWhile_not Text.isBlank text
  rw [← Text.trimStart, hstart] at hhead
  exact hhead

theorem trimStart_trimStart (text : List Char) :
    Text.trimStart (Text.trimStart text) = Text.trimStart text := by
  cases hstart : Text.trimStart text with
  | nil => rfl
  | cons c inner =>
      have hblank : ¬Text.isBlank c = true := by
        rw [isBlank_of_trimStart hstart]
        exact Bool.false_ne_true
      rw [Text.trimStart, List.dropWhile_cons, if_neg hblank]

/-- What is left of a text without its blanks is left of the text. -/
theorem IsRest.of_trimStart {rest text : List Char} (hrest : IsRest rest (Text.trimStart text)) :
    IsRest rest text :=
  hrest.of_suffix (trimStart_suffix text)

/-! ## Matchers, names and comparisons -/

theorem readDelimited?_suffix {delimiter : Char} {text quoted after : List Char}
    (hread : readDelimited? delimiter text = some (quoted, after)) : after <:+ text := by
  induction text using readDelimited?.induct delimiter generalizing quoted after with
  | case1 => cases hread
  | case2 next rest ih =>
      rw [readDelimited?] at hread
      obtain ⟨⟨inner, last⟩, hinner, heq⟩ := Option.map_eq_some_iff.mp hread
      have hafter : last = after := by
        dsimp only at heq
        split at heq <;> exact congrArg Prod.snd heq
      subst hafter
      exact (ih hinner).trans ((List.suffix_cons _ _).trans (List.suffix_cons _ _))
  | case3 rest hescape =>
      rw [readDelimited?.eq_3 _ _ _ hescape, if_pos rfl] at hread
      cases hread
      exact List.suffix_cons _ _
  | case4 c rest hescape hne ih =>
      rw [readDelimited?.eq_3 _ _ _ hescape, if_neg hne] at hread
      obtain ⟨⟨inner, last⟩, hinner, heq⟩ := Option.map_eq_some_iff.mp hread
      cases heq
      exact (ih hinner).trans (List.suffix_cons _ _)

section Library

variable [RegexLibrary]

theorem flagged_suffix {source text rest : List Char} {regex : Regex}
    (hflagged : flagged source text = .ok (regex, rest)) : rest <:+ text := by
  obtain ⟨_, _, _, rfl⟩ := flagged_eq_ok_iff.mp hflagged
  exact List.dropWhile_suffix _

theorem matcher_isRest {text rest : List Char} {regex : Regex}
    (hmatcher : matcher text = .ok (regex, rest)) : IsRest rest text := by
  apply IsRest.of_trimStart
  cases matcher_eq_ok_iff.mp hmatcher with
  | slashes hstart hsource hflagged =>
      rw [hstart]
      exact IsRest.cons ((flagged_suffix hflagged).trans (readDelimited?_suffix hsource)) _
  | quotes hstart hquoted hflagged =>
      rw [hstart]
      exact IsRest.cons ((flagged_suffix hflagged).trans (readDelimited?_suffix hquoted)) _
  | word hslash hquote hword hflagged =>
      exact IsRest.trans (flagged_suffix hflagged) (IsRest.dropWhile hword)

end Library

theorem afterTag_isRest {text : List Char} (hword : tagWord text ≠ []) :
    IsRest (afterTag text) text :=
  IsRest.of_trimStart (IsRest.trans (trimStart_suffix _) (IsRest.dropWhile hword))

theorem tagNames?_isRest {text after : List Char} {names : List String}
    (hnames : tagNames? text = some (names, after)) : IsRest after text := by
  induction text using tagNames_induction generalizing names after with
  | none text hword => rw [tagNames?_of_none hword] at hnames; cases hnames
  | equals text rest hword hafter =>
      rw [tagNames?_of_equals hword hafter] at hnames
      cases hnames
      exact IsRest.trans (hafter ▸ List.suffix_cons _ _) (afterTag_isRest hword)
  | comma text rest hword hafter ih =>
      rw [tagNames?_of_comma hword hafter] at hnames
      obtain ⟨⟨more, last⟩, hmore, heq⟩ := Option.map_eq_some_iff.mp hnames
      cases heq
      exact (ih hmore).of_suffix
        (IsRest.trans (hafter ▸ List.suffix_cons _ _) (afterTag_isRest hword)).suffix
  | other text hword hequals hcomma =>
      rw [tagNames?_of_other hequals hcomma] at hnames
      cases hnames

theorem comparison_isRest {now : Binary64} {text rest : List Char} {predicate : Predicate}
    (hcomparison : comparison now text = .ok (predicate, rest)) : IsRest rest text := by
  obtain ⟨hword, _, _, _, _, rfl⟩ := comparison_eq_ok_iff.mp hcomparison
  exact IsRest.trans ((List.dropWhile_suffix _).trans (List.dropWhile_suffix _))
    (afterTag_isRest hword)

/-! ## Groups, values and expressions -/

/-- A rule that leaves a proper end of every text it accepts. -/
def Advances (rule : Rule Predicate) : Prop :=
  ∀ {text predicate rest}, rule text = .ok (predicate, rest) → IsRest rest text

theorem Items.isRest {item : Rule Predicate} (hitem : Advances item) {text rest : List Char}
    {items : List Predicate} (hitems : Items item text items rest) : IsRest rest text := by
  induction hitems with
  | close hclose =>
      apply IsRest.of_trimStart
      rw [hclose]
      exact IsRest.cons (List.suffix_refl _) _
  | comma hcomma hfirst _ ih =>
      apply IsRest.of_trimStart
      rw [hcomma]
      exact IsRest.cons (ih.suffix.trans (hitem hfirst).suffix) _

theorem group_isRest {combine : List Predicate → Predicate} {item : Rule Predicate}
    (hitem : Advances item) {inner rest : List Char} {predicate : Predicate}
    (hgroup : group combine item ('(' :: inner) = .ok (predicate, rest)) : IsRest rest inner := by
  obtain ⟨first, middle, items, hfirst, hitems, _⟩ := group_eq_ok hgroup
  exact (hitems.isRest hitem).of_suffix (hitem hfirst).suffix

theorem Items.mem_parenthesis {item : Rule Predicate} {text rest : List Char}
    {items : List Predicate} (hitem : Advances item) (hitems : Items item text items rest) :
    ')' ∈ text := by
  induction hitems with
  | close hclose =>
      apply (trimStart_suffix _).mem
      rw [hclose]
      exact List.mem_cons_self
  | comma hcomma hfirst _ ih =>
      apply (trimStart_suffix _).mem
      rw [hcomma]
      exact List.mem_cons_of_mem _ ((hitem hfirst).suffix.mem ih)

/-- A round for each character is enough to read the items of a group. -/
theorem moreItems_of_items {item : Rule Predicate} (hitem : Advances item) {text rest : List Char}
    {items : List Predicate} (hitems : Items item text items rest) (opened : List Char)
    {rounds : Nat} (hrounds : text.length < rounds) :
    moreItems item opened rounds text = .ok (items, rest) := by
  induction hitems generalizing rounds with
  | close hclose =>
      cases rounds with
      | zero => cases hrounds
      | succ rounds => simp only [moreItems, hclose]
  | comma hcomma hfirst _ ih =>
      cases rounds with
      | zero => cases hrounds
      | succ rounds =>
          have hshorter := (IsRest.of_trimStart
            (hcomma ▸ IsRest.cons (hitem hfirst).suffix ',')).shorter
          simp only [moreItems, hcomma, hfirst, ih (by omega : _ < rounds)]

theorem group_of_items {combine : List Predicate → Predicate} {item : Rule Predicate}
    (hitem : Advances item) {inner middle rest : List Char} {first : Predicate}
    {items : List Predicate} (hfirst : item inner = .ok (first, middle))
    (hitems : Items item middle items rest) :
    group combine item ('(' :: inner) = .ok (.collapse combine (first :: items), rest) := by
  simp only [group, List.drop_succ_cons, List.drop_zero, hfirst,
    moreItems_of_items hitem hitems _ (Nat.lt_succ_self _)]

variable [RegexLibrary]

theorem value_advances (names : List String) (allowed : Nat) : Advances (value names allowed) := by
  induction allowed with
  | zero =>
      intro text predicate rest hvalue
      cases hvalue
  | succ allowed ih =>
      intro text predicate rest hvalue
      obtain ⟨_, heq, hstep⟩ := value_cases hvalue
      cases heq
      apply IsRest.of_trimStart
      cases hstep with
      | not hstart hinner =>
          rw [hstart]
          exact IsRest.cons (ih hinner).suffix _
      | all hstart hgroup | any hstart hgroup =>
          rw [hstart]
          exact (IsRest.cons (group_isRest ih hgroup).suffix _).of_suffix (List.suffix_cons _ _)
      | plain hplain hmatcher => exact matcher_isRest hmatcher

theorem expression_advances (now : Binary64) (allowed : Nat) :
    Advances (expression now allowed) := by
  induction allowed with
  | zero =>
      intro text predicate rest hexpression
      cases hexpression
  | succ allowed ih =>
      intro text predicate rest hexpression
      obtain ⟨_, heq, hstep⟩ := expression_cases hexpression
      cases heq
      apply IsRest.of_trimStart
      cases hstep with
      | all hstart hgroup | any hstart hgroup =>
          rw [hstart]
          exact (IsRest.cons (group_isRest ih hgroup).suffix _).of_suffix (List.suffix_cons _ _)
      | comparisons hstart hgroup =>
          rw [hstart]
          exact (IsRest.cons (group_isRest comparison_isRest hgroup).suffix _).of_suffix
            (List.suffix_cons _ _)
      | not hstart hinner =>
          rw [hstart]
          exact IsRest.cons (ih hinner).suffix _
      | tags hplain hnames hvalue =>
          exact (value_advances _ _ hvalue).of_suffix (tagNames?_isRest hnames).suffix
      | bare hplain hnames hmatcher => exact matcher_isRest hmatcher

end Songbook.Query
