import Songbook.Proofs.Query.Formula
import Songbook.Proofs.Query.Group
import Songbook.Proofs.Text
import Songbook.Proofs.Unicode

/-!
# Elements of written queries

Tag names, matchers and comparisons are read back from how they are written, with some text behind
them. What may stand there differs: flags would run on into a letter, so a matcher needs none behind
it, and a comparison needs the comma or the parenthesis that ends it.
-/

namespace Songbook

/-! ## Blanks before quantities -/

theorem Quantity.read_congr {raw other : String} (now : Binary64)
    (htrim : Text.trim raw.toList = Text.trim other.toList) :
    Quantity.read raw now = Quantity.read other now := by
  simp only [Quantity.read, Text.trimmed, htrim]

theorem Comparison.read_congr {raw other : String} (tag operator : String) (now : Binary64)
    (htrim : Text.trim raw.toList = Text.trim other.toList) :
    Comparison.read tag operator raw now = Comparison.read tag operator other now := by
  simp only [Comparison.read, Comparison.ofQuantity, Text.trimmed, htrim,
    Quantity.read_congr now htrim]

namespace Query

/-! ## Runs of characters -/

/-- A text that does not go on with a run of characters. -/
def EndsRun (p : Char → Bool) (following : List Char) : Prop :=
  ∀ c ∈ following.head?, p c = false

section Runs

variable {p : Char → Bool} {front following : List Char}

theorem takeWhile_run (hfront : ∀ c ∈ front, p c = true) (hends : EndsRun p following) :
    (front ++ following).takeWhile p = front := by
  rw [List.takeWhile_append_of_pos hfront]
  cases following with
  | nil => simp
  | cons c rest => simp [hends c rfl]

theorem dropWhile_run (hfront : ∀ c ∈ front, p c = true) (hends : EndsRun p following) :
    (front ++ following).dropWhile p = following := by
  rw [List.dropWhile_append_of_pos hfront]
  cases following with
  | nil => rfl
  | cons c rest => simp [hends c rfl]

theorem endsRun_cons {c : Char} (hc : p c = false) (rest : List Char) : EndsRun p (c :: rest) := by
  intro d hd
  cases hd
  exact hc

theorem EndsRun.append (hfront : EndsRun p front) (hends : EndsRun p following) :
    EndsRun p (front ++ following) := by
  cases front with
  | nil => exact hends
  | cons c front => exact endsRun_cons (hfront c rfl) _

theorem EndsRun.of_isStop (hcomma : p ',' = false) (hparenthesis : p ')' = false)
    (hstop : IsStop following) : EndsRun p following := by
  obtain ⟨c, rest, rfl, rfl | rfl⟩ := hstop
  · exact endsRun_cons hcomma rest
  · exact endsRun_cons hparenthesis rest

end Runs

/-! ## Tag names -/

theorem Layout.isBlank_of_mem (layout : Layout) {blanks : List Char}
    (hblanks : blanks ∈ [layout.afterName, layout.afterItem, layout.beforeOperator,
      layout.afterOperator]) : ∀ c ∈ blanks, Text.isBlank c = true :=
  List.all_eq_true.mp (layout.blank blanks hblanks)

theorem isTagChar_of_isBlank {c : Char} (hblank : Text.isBlank c = true) :
    isTagChar c = false := by
  rw [isTagChar, Unicode.Property.isAlphanumeric_of_isWhiteSpace hblank,
    Text.contains_of_isBlank hblank (by decide)]
  rfl

theorem isOperatorChar_of_isBlank {c : Char} (hblank : Text.isBlank c = true) :
    isOperatorChar c = false :=
  Text.contains_of_isBlank hblank (by decide)

theorem isQuantityChar_of_isBlank {c : Char} (hblank : Text.isBlank c = true) :
    isQuantityChar c = true := by
  have hother : [',', ')'].contains c = false := Text.contains_of_isBlank hblank (by decide)
  simpa [isQuantityChar] using hother

namespace TagName

variable (name : TagName) {following : List Char}

theorem chars : ∀ c ∈ name.text, isTagChar c = true :=
  List.all_eq_true.mp name.valid

theorem isBlank_of_mem {c : Char} (hmem : c ∈ name.text) : Text.isBlank c = false := by
  cases hblank : Text.isBlank c with
  | false => rfl
  | true =>
      have htag := name.chars c hmem
      rw [isTagChar_of_isBlank hblank] at htag
      cases htag

theorem trimStart_append (following : List Char) :
    Text.trimStart (name.text ++ following) = name.text ++ following := by
  cases htext : name.text with
  | nil => exact absurd htext name.nonempty
  | cons c rest =>
      exact Text.trimStart_of_head (name.isBlank_of_mem (htext ▸ List.mem_cons_self)) _

theorem tagWord_append (hends : EndsRun isTagChar following) :
    tagWord (name.text ++ following) = name.text := by
  rw [tagWord, name.trimStart_append]
  exact takeWhile_run name.chars hends

theorem afterTag_append (hends : EndsRun isTagChar following) :
    afterTag (name.text ++ following) = Text.trimStart following := by
  rw [afterTag, name.trimStart_append, dropWhile_run name.chars hends]

/-- A name is no mark. Only `#` is a tag character and part of one, before a parenthesis. -/
theorem isMarked_append (hends : ∀ rest, following ≠ '(' :: rest) :
    isMarked (name.text ++ following) = false := by
  have hchars := name.chars
  have hnonempty := name.nonempty
  have hparenthesis : isTagChar '(' = false := by decide +kernel
  have hand : isTagChar '&' = false := by decide +kernel
  have hbar : isTagChar '|' = false := by decide +kernel
  have hnot : isTagChar '!' = false := by decide +kernel
  match htext : name.text with
  | [] => exact absurd htext hnonempty
  | [c] =>
      rw [htext] at hchars
      unfold isMarked
      grind
  | c :: d :: rest =>
      rw [htext] at hchars
      unfold isMarked
      grind

theorem fullName_eq_tag : TagMatch.fullName (String.ofList name.text) = name.tag := by
  have htrim : Text.trim name.text = name.text := Text.trim_of_unblank fun _ => name.isBlank_of_mem
  rw [TagMatch.fullName, String.toList_ofList, htrim]
  unfold tag
  generalize String.ofList (Unicode.lowercase name.text) = lower
  split
  -- no short form: none of the abbreviations is found, and the name stays as it is
  case h_7 hartist halbum hversion htitle hnumber hdate =>
    have hnone : TagMatch.abbreviations.find? (fun entry => entry.1 = lower) = none := by
      simp [TagMatch.abbreviations, Ne.symm hartist, Ne.symm halbum, Ne.symm hversion,
        Ne.symm htitle, Ne.symm hnumber, Ne.symm hdate]
    rw [hnone]
    rfl
  all_goals rfl

end TagName

theorem ofNames_eq_matchOf (names : List TagName) (regex : Regex) :
    TagMatch.ofNames (names.map fun name => String.ofList name.text) [regex] =
      matchOf (names.map TagName.tag) regex := by
  have hnames : (names.map fun name => String.ofList name.text).map TagMatch.fullName =
      names.map TagName.tag := by
    rw [List.map_map]
    apply List.map_congr_left
    intro name _
    rw [Function.comp_apply, name.fullName_eq_tag]
  rw [TagMatch.ofNames, hnames, matchOf]

/-- The default tags are written out in lower case. -/
theorem ofNames_defaultTags (regex : Regex) :
    TagMatch.ofNames defaultTags [regex] = matchOf defaultTags regex := by
  have hnames : defaultTags.map TagMatch.fullName = defaultTags := by decide +kernel
  rw [TagMatch.ofNames, hnames, matchOf]

theorem intercalate_cons (separator first : List Char) (rest : List (List Char)) :
    separator.intercalate (first :: rest) = first ++ rest.flatMap (separator ++ ·) := by
  induction rest generalizing first with
  | nil => simp
  | cons second rest ih => simp [List.intercalate_cons_cons, ih second]

section Names

variable {blanks : List Char} (first : TagName) (rest : List TagName) (following : List Char)

theorem tagNames?_equals :
    tagNames? (first.text ++ '=' :: following) = some ([String.ofList first.text], following) := by
  have hends : EndsRun isTagChar ('=' :: following) := endsRun_cons (by decide +kernel) _
  have hword := first.tagWord_append hends
  have hafter : afterTag (first.text ++ '=' :: following) = '=' :: following :=
    first.afterTag_append hends
  rw [tagNames?_of_equals (by rw [hword]; exact first.nonempty) hafter, hword]

theorem tagNames?_comma :
    tagNames? (first.text ++ ',' :: following) =
      (tagNames? following).map fun (names, after) => (String.ofList first.text :: names, after) := by
  have hends : EndsRun isTagChar (',' :: following) := endsRun_cons (by decide +kernel) _
  have hword := first.tagWord_append hends
  have hafter : afterTag (first.text ++ ',' :: following) = ',' :: following :=
    first.afterTag_append hends
  rw [tagNames?_of_comma (by rw [hword]; exact first.nonempty) hafter, hword]

theorem tagNames?_write (hblanks : ∀ c ∈ blanks, Text.isBlank c = true) :
    tagNames? ((',' :: blanks).intercalate ((first :: rest).map TagName.text) ++ '=' :: following) =
      some ((first :: rest).map fun name => String.ofList name.text, following) := by
  induction rest generalizing first with
  | nil =>
      rw [List.map_singleton, List.intercalate_singleton]
      exact tagNames?_equals first following
  | cons second rest ih =>
      have hmore := ih second
      -- the name after the comma is looked for behind the blanks
      rw [← tagNames?_congr (Text.trimStart_append_of_blank hblanks _)] at hmore
      rw [List.map_cons, List.map_cons, List.intercalate_cons_cons, List.append_assoc,
        List.append_assoc, List.cons_append, tagNames?_comma, ← List.map_cons, hmore]
      rfl

/-- A list of names starts with the first of them, which no parenthesis follows. -/
theorem exists_names_tail (blanks : List Char) :
    ∃ tail, (',' :: blanks).intercalate ((first :: rest).map TagName.text) ++ '=' :: following =
      first.text ++ tail ∧ ∀ inner, tail ≠ '(' :: inner := by
  refine ⟨(rest.map TagName.text).flatMap ((',' :: blanks) ++ ·) ++ '=' :: following, ?_, ?_⟩
  · rw [List.map_cons, intercalate_cons, List.append_assoc]
  · cases rest <;> simp

end Names

/-! ## Matchers -/

/-- What is written between delimiters is read back to the last one. -/
theorem readDelimited?_escaped {delimiter : Char} (hdelimiter : delimiter ≠ '\\')
    (text after : List Char) :
    readDelimited? delimiter (MatcherTerm.escaped delimiter text ++ delimiter :: after) =
      some (text, after) := by
  induction text with
  | nil =>
      change readDelimited? delimiter (delimiter :: after) = _
      rw [readDelimited?.eq_3, if_pos rfl]
      exact fun _ _ hbackslash => absurd hbackslash hdelimiter
  | cons c text ih =>
      rw [MatcherTerm.escaped, List.flatMap_cons, List.append_assoc]
      split
      next hspecial =>
        -- the backslash in front is dropped, and what it protects does not end the text
        change readDelimited? delimiter ('\\' :: c ::
          (MatcherTerm.escaped delimiter text ++ delimiter :: after)) = _
        rw [readDelimited?, ih, Option.map_some]
        simp [hspecial]
      next hplain =>
        rw [not_or] at hplain
        change readDelimited? delimiter (c ::
          (MatcherTerm.escaped delimiter text ++ delimiter :: after)) = _
        rw [readDelimited?.eq_3, if_neg hplain.1, ih, Option.map_some]
        exact fun _ _ hbackslash => absurd hbackslash hplain.2

namespace MatcherTerm

variable [RegexLibrary] (term : MatcherTerm) {following : List Char}

theorem flagged_write (hends : EndsRun isFlagChar following) :
    flagged (term.kind.source term.text) ((if term.caseCounts then ['c'] else []) ++ following) =
      .ok (term.regex, following) := by
  have hregex : Regex.parse? (String.ofList (term.kind.source term.text)) (!term.caseCounts) =
      some term.regex := by simp [regex]
  have hflags : ∀ c ∈ if term.caseCounts then ['c'] else [], isFlagChar c = true := by
    cases term.caseCounts <;> exact List.all_eq_true.mp (by decide)
  refine flagged_eq_ok_iff.mpr ⟨!term.caseCounts, ?_, hregex, ?_⟩
  · rw [takeWhile_run hflags hends]
    cases term.caseCounts <;> rfl
  · rw [dropWhile_run hflags hends]

theorem matcher_write (hends : EndsRun isFlagChar following) :
    matcher (term.write ++ following) = .ok (term.regex, following) := by
  have hflagged := term.flagged_write hends
  apply matcher_eq_ok_iff.mpr
  unfold write
  rw [List.cons_append, List.append_assoc, List.cons_append]
  cases hkind : term.kind with
  | regex =>
      rw [hkind] at hflagged
      exact .slashes (Text.trimStart_of_head (by decide) _)
        (readDelimited?_escaped (by decide) _ _) hflagged
  | quoted =>
      rw [hkind] at hflagged
      exact .quotes (Text.trimStart_of_head (by decide) _)
        (readDelimited?_escaped (by decide) _ _) hflagged

/-- A matcher starts with its delimiter, which tells it from everything else. -/
theorem exists_write : ∃ c rest, term.write = c :: rest ∧ (c = '"' ∨ c = '/') := by
  unfold write
  cases term.kind with
  | quoted => exact ⟨_, _, rfl, Or.inl rfl⟩
  | regex => exact ⟨_, _, rfl, Or.inr rfl⟩

variable (following)

theorem trimStart_append : Text.trimStart (term.write ++ following) = term.write ++ following := by
  obtain ⟨c, rest, hwrite, hc⟩ := term.exists_write
  rw [hwrite]
  rcases hc with rfl | rfl <;> exact Text.trimStart_of_head (by decide) _

theorem isMarked_append : isMarked (term.write ++ following) = false := by
  obtain ⟨c, rest, hwrite, hc⟩ := term.exists_write
  rw [hwrite]
  rcases hc with rfl | rfl <;> rfl

theorem isValueMarked_append : isValueMarked (term.write ++ following) = false := by
  obtain ⟨c, rest, hwrite, hc⟩ := term.exists_write
  rw [hwrite]
  rcases hc with rfl | rfl <;> rfl

theorem tagNames?_append : tagNames? (term.write ++ following) = none := by
  apply tagNames?_of_none
  rw [tagWord, term.trimStart_append]
  obtain ⟨c, rest, hwrite, hc⟩ := term.exists_write
  rw [hwrite]
  rcases hc with rfl | rfl <;> exact List.takeWhile_cons_of_neg (by decide)

end MatcherTerm

/-! ## Comparisons -/

theorem eq_ok_of_isSome {ε α : Type} {result : Except ε α}
    (hsome : result.toOption.isSome = true) : result = .ok (result.toOption.get hsome) := by
  cases result with
  | error error => cases hsome
  | ok content => rfl

theorem isOperatorChar_of_mem_symbol (comparator : Comparator) :
    ∀ c ∈ comparator.symbol.toList, isOperatorChar c = true := by
  cases comparator <;> exact List.all_eq_true.mp (by decide)

theorem exists_symbol (comparator : Comparator) :
    ∃ c rest, comparator.symbol.toList = c :: rest ∧ isTagChar c = false ∧
      Text.isBlank c = false := by
  cases comparator <;> exact ⟨_, _, rfl, by decide, by decide⟩

namespace ComparisonTerm

variable (layout : Layout) {now : Binary64} (term : ComparisonTerm now) {following : List Char}

/-- The value with the blanks in front of it, as a comparison reads it. -/
def paddedValue : List Char :=
  layout.afterOperator ++ term.value

theorem isQuantityChar_of_mem {c : Char} (hmem : c ∈ term.paddedValue layout) :
    isQuantityChar c = true := by
  rcases List.mem_append.mp hmem with hmem | hmem
  · exact isQuantityChar_of_isBlank (layout.isBlank_of_mem (by simp) c hmem)
  · have hcomma : c ≠ ',' := fun heq => term.noComma (heq ▸ hmem)
    have hparenthesis : c ≠ ')' := fun heq => term.noParenthesis (heq ▸ hmem)
    simp [isQuantityChar, hcomma, hparenthesis]

theorem endsRun_paddedValue (hstop : IsStop following) :
    EndsRun isOperatorChar (term.paddedValue layout ++ following) := by
  refine EndsRun.append (EndsRun.append ?_ ?_) (EndsRun.of_isStop (by decide) (by decide) hstop)
  · intro c hc
    exact isOperatorChar_of_isBlank
      (layout.isBlank_of_mem (by simp) c (List.mem_of_mem_head? hc))
  · intro c hc
    have hstart := term.start
    rw [Option.mem_def.mp hc] at hstart
    exact hstart

/-- The blanks before a value make no difference. -/
theorem read_paddedValue :
    Comparison.read (String.ofList term.tag.text)
      (String.ofList term.comparator.symbol.toList)
      (String.ofList (term.paddedValue layout)) now = .ok term.comparison := by
  have htrim : Text.trim (String.ofList (term.paddedValue layout)).toList =
      Text.trim (String.ofList term.value).toList := by
    rw [String.toList_ofList, String.toList_ofList]
    exact Text.trim_append_of_blank (layout.isBlank_of_mem (by simp)) term.value
  rw [String.ofList_toList, Comparison.read_congr _ _ now htrim]
  exact eq_ok_of_isSome term.accepted

/-- After the name come the operator, which is no part of it, and the value. -/
theorem afterTag_write (following : List Char) :
    tagWord (term.write layout ++ following) = term.tag.text ∧
      afterTag (term.write layout ++ following) =
        term.comparator.symbol.toList ++ (term.paddedValue layout ++ following) := by
  obtain ⟨c, rest, hsymbol, htag, hblank⟩ := exists_symbol term.comparator
  have hbefore : ∀ c ∈ layout.beforeOperator, Text.isBlank c = true :=
    layout.isBlank_of_mem (by simp)
  have hends : EndsRun isTagChar (layout.beforeOperator ++
      (c :: rest ++ (term.paddedValue layout ++ following))) :=
    EndsRun.append (fun d hd => isTagChar_of_isBlank (hbefore d (List.mem_of_mem_head? hd)))
      (endsRun_cons htag _)
  have htext : term.write layout ++ following = term.tag.text ++ (layout.beforeOperator ++
      (c :: rest ++ (term.paddedValue layout ++ following))) := by
    simp [write, paddedValue, hsymbol]
  rw [htext, hsymbol]
  refine ⟨term.tag.tagWord_append hends, ?_⟩
  rw [term.tag.afterTag_append hends, Text.trimStart_append_of_blank hbefore]
  exact Text.trimStart_of_head hblank _

end ComparisonTerm

theorem comparison_write (layout : Layout) {now : Binary64} (term : ComparisonTerm now)
    {following : List Char} (hstop : IsStop following) :
    comparison now (term.write layout ++ following) =
      .ok (.comparison term.comparison, following) := by
  obtain ⟨hword, hafter⟩ := term.afterTag_write layout following
  have hoperator := isOperatorChar_of_mem_symbol term.comparator
  have hends := term.endsRun_paddedValue layout hstop
  have hrest : afterOperator (term.write layout ++ following) =
      term.paddedValue layout ++ following := by
    rw [afterOperator, hafter, dropWhile_run hoperator hends]
  have hvalue : ∀ c ∈ term.paddedValue layout, isQuantityChar c = true :=
    fun c => term.isQuantityChar_of_mem layout
  have hendsValue : EndsRun isQuantityChar following :=
    EndsRun.of_isStop (by decide) (by decide) hstop
  refine comparison_eq_ok_iff.mpr ⟨?_, ?_, term.comparison, ?_, rfl, ?_⟩
  · rw [hword]
    exact term.tag.nonempty
  · obtain ⟨c, rest, hsymbol, _⟩ := exists_symbol term.comparator
    rw [hafter, takeWhile_run hoperator hends, hsymbol]
    exact List.cons_ne_nil _ _
  · rw [hword, hafter, hrest, takeWhile_run hoperator hends, takeWhile_run hvalue hendsValue]
    exact term.read_paddedValue layout
  · rw [hrest, dropWhile_run hvalue hendsValue]

end Query

end Songbook
