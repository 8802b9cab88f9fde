import Mathlib.Data.List.Forall2
import Mathlib.Data.List.TakeWhile
import Songbook.Pattern.Program
import Songbook.Proofs.Query.Progress
import Songbook.RegexEngine.Library

/-!
# Queries read at two instants

The instant at which a query is read is handed through all rules down to the values of comparisons, and
nothing but thresholds may depend on it. Two readings of one text therefore fail with the same error or
give two trees of one shape. In these only the thresholds of comparisons differ whose value is one of
the words `now` and `today`, or a duration against a tag that holds instants.
-/

namespace Songbook

/-- Two results that are the same failure or related successes. -/
inductive Agrees {ε α : Type} (related : α → α → Prop) : Except ε α → Except ε α → Prop
  | error (error : ε) : Agrees related (.error error) (.error error)
  | ok {first second : α} (hrelated : related first second) :
      Agrees related (.ok first) (.ok second)

namespace Agrees

variable {ε α : Type} {related : α → α → Prop} {first second : Except ε α}

theorem of_eq {result : Except ε α} (hok : ∀ value, result = .ok value → related value value) :
    Agrees related result result := by
  cases result with
  | error error => exact .error error
  | ok value => exact .ok (hok value rfl)

theorem inversion (hagrees : Agrees related first second) :
    (∃ error, first = .error error ∧ second = .error error) ∨
      ∃ value other, first = .ok value ∧ second = .ok other ∧ related value other := by
  cases hagrees with
  | error error => exact Or.inl ⟨error, rfl, rfl⟩
  | ok hrelated => exact Or.inr ⟨_, _, rfl, rfl, hrelated⟩

theorem error_iff (hagrees : Agrees related first second) (error : ε) :
    first = .error error ↔ second = .error error := by
  cases hagrees with
  | error => exact Iff.rfl
  | ok => simp

theorem isSome_toOption_eq (hagrees : Agrees related first second) :
    first.toOption.isSome = second.toOption.isSome := by
  cases hagrees <;> rfl

end Agrees

/-! ## Values of comparisons -/

/-- Whether a value is one of the words that stand for the instant of reading. -/
def IsClockWord (raw : String) : Prop :=
  Unicode.lowercase (Text.trim raw.toList) = "now".toList ∨
    Unicode.lowercase (Text.trim raw.toList) = "today".toList

/-- Whether the threshold of a comparison depends on the instant of reading: its value is a word for
it, or a duration against a tag that holds instants. -/
def IsTimed (tag raw : String) : Prop :=
  IsClockWord raw ∨
    Comparison.tagName tag ∈ Comparison.timeTags ∧
      ∃ seconds, ∀ now, Quantity.read raw now = .ok (.duration seconds)

/-- A word for the instant of reading is read as an instant. -/
theorem Quantity.read_of_isClockWord {raw : String} (hword : IsClockWord raw) (now : Binary64) :
    ∃ moment, Quantity.read raw now = .ok (.instant moment) := by
  unfold Quantity.read
  dsimp only
  split
  next => exact ⟨now, rfl⟩
  next hnow =>
    rw [if_pos (hword.resolve_left hnow)]
    exact ⟨_, rfl⟩

/-- Any other value is read alike at all instants. -/
theorem Quantity.read_of_not_isClockWord {raw : String} (hword : ¬ IsClockWord raw)
    (early late : Binary64) : Quantity.read raw early = Quantity.read raw late := by
  rw [IsClockWord, not_or] at hword
  unfold Quantity.read
  dsimp only
  rw [if_neg hword.1, if_neg hword.2, if_neg hword.1, if_neg hword.2]

/-- Two readings of a comparison that differ at most in the threshold, and there only if it is
timed. -/
structure SameUpToTime (tag raw : String) (first second : Comparison) : Prop where
  tag_eq : first.tag = second.tag
  comparator_eq : first.comparator = second.comparator
  timed : first.threshold ≠ second.threshold → IsTimed tag raw

theorem SameUpToTime.refl (tag raw : String) (leaf : Comparison) :
    SameUpToTime tag raw leaf leaf :=
  ⟨rfl, rfl, fun hne => absurd rfl hne⟩

theorem Comparison.read_agrees (tag operator raw : String) (early late : Binary64) :
    Agrees (SameUpToTime tag raw) (Comparison.read tag operator raw early)
      (Comparison.read tag operator raw late) := by
  unfold Comparison.read
  split
  next => exact .error _
  next comparator =>
    by_cases hword : IsClockWord raw
    · obtain ⟨first, hfirst⟩ := Quantity.read_of_isClockWord hword early
      obtain ⟨second, hsecond⟩ := Quantity.read_of_isClockWord hword late
      simp only [hfirst, hsecond, ofQuantity]
      split
      · exact .ok ⟨rfl, rfl, fun _ => Or.inl hword⟩
      · exact .ok ⟨rfl, rfl, fun _ => Or.inl hword⟩
    · have hread := fun now => Quantity.read_of_not_isClockWord hword now late
      rw [hread early]
      cases hquantity : Quantity.read raw late with
      | error error => exact .error error
      | ok quantity =>
          dsimp only [ofQuantity]
          split
          next htime =>
            cases quantity with
            | number value | size bytes => exact .error _
            | instant seconds => exact .ok (.refl _ _ _)
            | duration seconds =>
                refine .ok ⟨rfl, rfl, fun _ => Or.inr ⟨List.contains_iff_mem.mp htime, seconds, ?_⟩⟩
                exact fun now => (hread now).trans hquantity
          next => exact .ok (.refl _ _ _)

namespace Query

/-! ## Trees -/

/-- Two trees of one shape, read from one text at two instants. Their leaves agree but for the
thresholds of comparisons, and each pair of comparisons is read from one place of the text. -/
inductive Alike (text : List Char) (early late : Binary64) : Predicate → Predicate → Prop
  | union {first second : List Predicate}
      (hchildren : List.Forall₂ (Alike text early late) first second) :
      Alike text early late (.union first) (.union second)
  | intersection {first second : List Predicate}
      (hchildren : List.Forall₂ (Alike text early late) first second) :
      Alike text early late (.intersection first) (.intersection second)
  | negation {first second : Predicate} (hchild : Alike text early late first second) :
      Alike text early late (.negation first) (.negation second)
  | tagMatch (leaf : TagMatch) : Alike text early late (.tagMatch leaf) (.tagMatch leaf)
  | comparison {tag blanks operator raw : List Char} {first second : Comparison}
      (hblanks : ∀ c ∈ blanks, Text.isBlank c = true)
      (hplace : tag ++ blanks ++ operator ++ raw <:+: text)
      (hearly : Comparison.read (String.ofList tag) (String.ofList operator) (String.ofList raw)
        early = .ok first)
      (hlate : Comparison.read (String.ofList tag) (String.ofList operator) (String.ofList raw)
        late = .ok second)
      (hsame : SameUpToTime (String.ofList tag) (String.ofList raw) first second) :
      Alike text early late (.comparison first) (.comparison second)

variable {text : List Char} {early late : Binary64}

/-- Results of a rule at two instants: the same fault, or related values before one rest. -/
def Paired {α : Type} (related : α → α → Prop) (first second : α × List Char) : Prop :=
  related first.1 second.1 ∧ first.2 = second.2

/-- Two rules that read every end of a text alike. -/
def ReadAlike (text : List Char) (early late : Binary64) (first second : Rule Predicate) : Prop :=
  ∀ part, part <:+ text → Agrees (Paired (Alike text early late)) (first part) (second part)

/-- The tag, the operator and the value of a comparison stand in its text, with blanks before the
operator. -/
theorem exists_comparison_place (text : List Char) :
    ∃ blanks, (∀ c ∈ blanks, Text.isBlank c = true) ∧
      tagWord text ++ blanks ++ (afterTag text).takeWhile isOperatorChar ++
        (afterOperator text).takeWhile isQuantityChar <:+: text := by
  have hvalue := List.takeWhile_append_dropWhile (p := isQuantityChar) (l := afterOperator text)
  have hoperator := List.takeWhile_append_dropWhile (p := isOperatorChar) (l := afterTag text)
  have htag := List.takeWhile_append_dropWhile (p := isTagChar) (l := Text.trimStart text)
  obtain ⟨blanks, hblank, hblanks⟩ : ∃ blanks, (∀ c ∈ blanks, Text.isBlank c = true) ∧
      blanks ++ afterTag text = (Text.trimStart text).dropWhile isTagChar :=
    ⟨_, fun c hc => List.mem_takeWhile_imp hc, List.takeWhile_append_dropWhile⟩
  rw [← hblanks, ← hoperator, ← afterOperator, ← hvalue, ← tagWord] at htag
  refine ⟨blanks, hblank, List.IsInfix.trans ?_ (trimStart_suffix text).isInfix⟩
  exact ⟨[], (afterOperator text).dropWhile isQuantityChar, by simpa using htag⟩

/-- A comparison fails on its tag or its operator before it is read. -/
theorem comparison_eq (now : Binary64) (text : List Char) : comparison now text =
    if tagWord text = [] then .error (.misplaced (Text.trimStart text) .expectedTag)
    else if (afterTag text).takeWhile isOperatorChar = [] then
      .error (.misplaced (afterTag text) .expectedOperator)
    else
      ((Comparison.read (String.ofList (tagWord text))
        (String.ofList ((afterTag text).takeWhile isOperatorChar))
        (String.ofList ((afterOperator text).takeWhile isQuantityChar)) now).mapError
          .comparison).map
        fun leaf => (.comparison leaf, (afterOperator text).dropWhile isQuantityChar) := by
  have hchars : isQuantityChar = fun c => !(c = ',' || c = ')') := rfl
  simp only [comparison, afterOperator, tagWord, afterTag, hchars]
  split
  next htag => rw [if_pos htag]
  next htag =>
    rw [if_neg htag]
    split
    next hoperator => rw [if_pos hoperator]
    next hoperator =>
      rw [if_neg hoperator]
      split
      next error herror =>
        rw [herror]
        rfl
      next leaf hleaf =>
        rw [hleaf]
        rfl

theorem comparison_readAlike (text : List Char) (early late : Binary64) :
    ReadAlike text early late (comparison early) (comparison late) := by
  intro part hpart
  obtain ⟨blanks, hblanks, hplace⟩ := exists_comparison_place part
  rw [comparison_eq, comparison_eq]
  split
  · exact .error _
  · split
    · exact .error _
    · have hread := Comparison.read_agrees (String.ofList (tagWord part))
        (String.ofList ((afterTag part).takeWhile isOperatorChar))
        (String.ofList ((afterOperator part).takeWhile isQuantityChar)) early late
      rcases hread.inversion with
        ⟨error, hearly, hlate⟩ | ⟨first, second, hearly, hlate, hsame⟩
      · rw [hearly, hlate]
        exact .error _
      · rw [hearly, hlate]
        exact .ok ⟨.comparison hblanks (hplace.trans hpart.isInfix) hearly hlate hsame, rfl⟩

/-! ## Groups -/

theorem alike_collapse {combine : List Predicate → Predicate} {first second : List Predicate}
    (hcombine : ∀ {first second}, List.Forall₂ (Alike text early late) first second →
      Alike text early late (combine first) (combine second))
    (hitems : List.Forall₂ (Alike text early late) first second) :
    Alike text early late (.collapse combine first) (.collapse combine second) := by
  cases hitems with
  | nil => exact hcombine .nil
  | cons hhead htail =>
      cases htail with
      | nil => exact hhead
      | cons hnext hmore => exact hcombine (.cons hhead (.cons hnext hmore))

variable {item other : Rule Predicate}

/-- One round reads a comma and an item, and leaves an end of the text to the next ones. -/
theorem moreItems_agrees (hadvances : Advances item) (hitem : ReadAlike text early late item other)
    (opened : List Char) (rounds : Nat) {part : List Char} (hpart : part <:+ text) :
    Agrees (Paired (List.Forall₂ (Alike text early late))) (moreItems item opened rounds part)
      (moreItems other opened rounds part) := by
  induction rounds generalizing part with
  | zero => exact .error _
  | succ rounds ih =>
      have hstart := (trimStart_suffix part).trans hpart
      rw [moreItems, moreItems]
      split
      next after hcomma =>
        rw [hcomma] at hstart
        have hafter := (List.suffix_cons _ _).trans hstart
        rcases (hitem after hafter).inversion with
          ⟨fault, hfirst, hsecond⟩ | ⟨⟨first, rest⟩, ⟨second, _⟩, hfirst, hsecond, hhead, rfl⟩
        · rw [hfirst, hsecond]
          exact .error _
        · have hrest := (hadvances hfirst).suffix.trans hafter
          rw [hfirst, hsecond]
          rcases (ih hrest).inversion with
            ⟨fault, hmore, hlater⟩ | ⟨⟨items, last⟩, ⟨others, _⟩, hmore, hlater, htail, rfl⟩
          · simp only [hmore, hlater]
            exact .error _
          · simp only [hmore, hlater]
            exact .ok ⟨.cons hhead htail, rfl⟩
      next after hclose => exact .ok ⟨.nil, rfl⟩
      next => exact .error _
      next => exact .error _

theorem group_agrees {combine : List Predicate → Predicate}
    (hcombine : ∀ {first second}, List.Forall₂ (Alike text early late) first second →
      Alike text early late (combine first) (combine second))
    (hadvances : Advances item) (hitem : ReadAlike text early late item other)
    {mark : Char} {inner : List Char} (hmarked : mark :: '(' :: inner <:+ text) :
    Agrees (Paired (Alike text early late)) (group combine item ('(' :: inner))
      (group combine other ('(' :: inner)) := by
  have hinner : inner <:+ text :=
    (List.suffix_cons _ _).trans ((List.suffix_cons _ _).trans hmarked)
  simp only [group, List.drop_succ_cons, List.drop_zero]
  rcases (hitem inner hinner).inversion with
    ⟨fault, hfirst, hsecond⟩ | ⟨⟨first, rest⟩, ⟨second, _⟩, hfirst, hsecond, hhead, rfl⟩
  · rw [hfirst, hsecond]
    exact .error _
  · have hrest := (hadvances hfirst).suffix.trans hinner
    rw [hfirst, hsecond]
    rcases (moreItems_agrees hadvances hitem ('(' :: inner) (rest.length + 1) hrest).inversion with
      ⟨fault, hmore, hlater⟩ | ⟨⟨items, last⟩, ⟨others, _⟩, hmore, hlater, htail, rfl⟩
    · simp only [hmore, hlater]
      exact .error _
    · simp only [hmore, hlater]
      exact .ok ⟨alike_collapse hcombine (.cons hhead htail), rfl⟩

theorem negated_agrees (hitem : ReadAlike text early late item other) {mark : Char}
    {inner : List Char} (hmarked : mark :: inner <:+ text) :
    Agrees (Paired (Alike text early late)) (negated item inner) (negated other inner) := by
  unfold negated
  rcases (hitem inner ((List.suffix_cons _ _).trans hmarked)).inversion with
    ⟨fault, hfirst, hsecond⟩ | ⟨⟨first, rest⟩, ⟨second, _⟩, hfirst, hsecond, hchild, rfl⟩
  · rw [hfirst, hsecond]
    exact .error _
  · rw [hfirst, hsecond]
    exact .ok ⟨.negation hchild, rfl⟩

/-! ## Values and expressions -/

section Library

variable [RegexLibrary]

theorem matching_agrees (names : List String) (part : List Char) :
    Agrees (Paired (Alike text early late)) (matching names part) (matching names part) := by
  apply Agrees.of_eq
  rintro ⟨predicate, rest⟩ hmatching
  obtain ⟨regex, _, rfl⟩ := matching_eq_ok_iff.mp hmatching
  exact ⟨.tagMatch _, rfl⟩

/-- A value of a tag match has no comparisons, so it is the same at all instants. -/
theorem value_readAlike (text : List Char) (early late : Binary64) (names : List String)
    (allowed : Nat) :
    ReadAlike text early late (value names allowed) (value names allowed) := by
  induction allowed with
  | zero => exact fun part _ => .error _
  | succ allowed ih =>
      intro part hpart
      have hstart := (trimStart_suffix part).trans hpart
      have hadvances : Advances (value names allowed) := value_advances names allowed
      rw [value]
      split
      next inner hnot =>
        rw [hnot] at hstart
        exact negated_agrees ih hstart
      next inner hall =>
        rw [hall] at hstart
        exact group_agrees .intersection hadvances ih hstart
      next inner hany =>
        rw [hany] at hstart
        exact group_agrees .union hadvances ih hstart
      next => exact matching_agrees names _

theorem expression_readAlike (text : List Char) (early late : Binary64) (allowed : Nat) :
    ReadAlike text early late (expression early allowed) (expression late allowed) := by
  induction allowed with
  | zero => exact fun part _ => .error _
  | succ allowed ih =>
      intro part hpart
      have hstart := (trimStart_suffix part).trans hpart
      have hadvances : Advances (expression early allowed) := expression_advances early allowed
      rw [expression, expression]
      split
      next inner hall =>
        rw [hall] at hstart
        exact group_agrees .intersection hadvances ih hstart
      next inner hany =>
        rw [hany] at hstart
        exact group_agrees .union hadvances ih hstart
      next inner hcomparisons =>
        rw [hcomparisons] at hstart
        exact group_agrees .intersection comparison_isRest (comparison_readAlike text early late) hstart
      next inner hnot =>
        rw [hnot] at hstart
        exact negated_agrees ih hstart
      next =>
        split
        next names after hnames =>
          exact value_readAlike text early late names allowed after
            ((tagNames?_isRest hnames).suffix.trans hstart)
        next => exact matching_agrees _ _

/-! ## Queries -/

/-- One round reads an expression and leaves an end of the text to the next ones. -/
theorem expressions_agrees (limit rounds : Nat) {part : List Char} (hpart : part <:+ text) :
    Agrees (List.Forall₂ (Alike text early late)) (expressions early limit rounds part)
      (expressions late limit rounds part) := by
  induction rounds generalizing part with
  | zero => exact .error _
  | succ rounds ih =>
      have hstart := (trimStart_suffix part).trans hpart
      rw [expressions, expressions]
      split
      next => exact .ok .nil
      next =>
        rcases (expression_readAlike text early late limit _ hstart).inversion with
          ⟨fault, hfirst, hsecond⟩ | ⟨⟨first, rest⟩, ⟨second, _⟩, hfirst, hsecond, hhead, rfl⟩
        · rw [hfirst, hsecond]
          exact .error _
        · have hrest := (expression_advances early limit hfirst).suffix.trans hstart
          rw [hfirst, hsecond]
          rcases (ih hrest).inversion with
            ⟨fault, hmore, hlater⟩ | ⟨items, others, hmore, hlater, htail⟩
          · simp only [hmore, hlater]
            exact .error _
          · simp only [hmore, hlater]
            exact .ok (.cons hhead htail)

theorem parse_agrees (text : String) (early late : Binary64) :
    Agrees (Alike text.toList early late) (parse text early) (parse text late) := by
  unfold parse parseWithin
  rcases (expressions_agrees maxDepth (text.toList.length + 1) (List.suffix_refl _)).inversion with
    ⟨fault, hearly, hlate⟩ | ⟨items, others, hearly, hlate, hitems⟩
  · rw [hearly, hlate]
    exact .error _
  · rw [hearly, hlate]
    exact .ok (alike_collapse .intersection hitems)

/-- The instant at which a text is read decides neither whether it is a query nor with what error it is
refused, and of a query it decides nothing but the thresholds of timed comparisons. In particular no
conditional of a pattern is a query at one instant and a tag at another. -/
theorem parse_at_instants (text : String) (early late : Binary64) :
    (∀ error, parse text early = .error error ↔ parse text late = .error error) ∧
    (∀ first second, parse text early = .ok first → parse text late = .ok second →
      Alike text.toList early late first second) ∧
    (parse text early).toOption.isSome = isParsable text ∧
    (Pattern.queryOf? early text).isSome = (Pattern.queryOf? late text).isSome := by
  have hagrees := parse_agrees text early late
  refine ⟨hagrees.error_iff, fun first second hearly hlate => ?_,
    (parse_agrees text early 0).isSome_toOption_eq, ?_⟩
  · rw [hearly, hlate] at hagrees
    cases hagrees with
    | ok hrelated => exact hrelated
  · unfold Pattern.queryOf?
    split
    · exact hagrees.isSome_toOption_eq
    · rfl

end Library

/-- A comparison with the clock: its two readings have different thresholds, and nothing else is
different. -/
theorem parse_added_now :
    ∃ first second, parse "#(added < now)" 0 = .ok (.comparison first) ∧
      parse "#(added < now)" 86400 = .ok (.comparison second) ∧
      Alike "#(added < now)".toList 0 86400 (.comparison first) (.comparison second) ∧
      first.threshold ≠ second.threshold ∧ isParsable "#(added < now)" = true := by
  have hcheck : ∀ now ∈ ([0, 86400] : List Binary64), (match parse "#(added < now)" now with
      | .ok (.comparison leaf) => decide (leaf.threshold = now)
      | _ => false) = true := by decide +kernel
  have hread : ∀ now ∈ ([0, 86400] : List Binary64), ∃ leaf : Comparison,
      leaf.threshold = now ∧ parse "#(added < now)" now = .ok (.comparison leaf) := by
    intro now hnow
    have hthreshold := hcheck now hnow
    split at hthreshold
    next leaf hleaf => exact ⟨leaf, of_decide_eq_true hthreshold, hleaf⟩
    next => cases hthreshold
  obtain ⟨first, hfirst, hearly⟩ := hread 0 (by decide +kernel)
  obtain ⟨second, hsecond, hlate⟩ := hread 86400 (by decide +kernel)
  obtain ⟨_, halike, hparsable, _⟩ := parse_at_instants "#(added < now)" 0 86400
  refine ⟨first, second, hearly, hlate, halike _ _ hearly hlate, ?_, ?_⟩
  · rw [hfirst, hsecond]
    decide +kernel
  · rw [← hparsable, hearly]
    rfl

end Query

end Songbook
