import Songbook.Proofs.Formatter.Compiled
import Songbook.RegexEngine.Library

/-!
# All texts of a record

A tag of several values can be shown in several ways, and a pattern that refers to tags in several
places shows every combination of such choices. The set of texts is here described without programs:
a tree shows a text when the text is put together from its literals and from one value for each tag
reference on the branches taken. A formatter gives exactly these texts, each finished by its dialect,
and always at least one.
-/

namespace Songbook.Formatter

open Pattern

/-! ## Sets of texts -/

theorem mem_dropRepeats {text : String} {texts : List String} :
    text ∈ dropRepeats texts ↔ text ∈ texts := by
  induction texts with
  | nil => rfl
  | cons first rest ih =>
      rw [List.mem_cons, ← ih, dropRepeats]
      split
      next hnil => simp [hnil]
      next next more hmore =>
        split
        next heq =>
          subst heq
          simp [hmore]
        next => rw [hmore, List.mem_cons]

/-- Leaving out repetitions from an ordered list makes the order strict. -/
theorem pairwise_dropRepeats {texts : List String}
    (hsorted : texts.Pairwise fun left right => ¬right < left) :
    (dropRepeats texts).Pairwise (· < ·) := by
  induction texts with
  | nil => exact List.Pairwise.nil
  | cons first rest ih =>
      rw [List.pairwise_cons] at hsorted
      have hrest := ih hsorted.2
      rw [dropRepeats]
      split
      next => exact List.pairwise_singleton _ _
      next next more hmore =>
        rw [hmore] at hrest
        split
        next => exact hrest
        next hne =>
          refine List.pairwise_cons.mpr ⟨?_, hrest⟩
          have hle : ¬next < first := by
            apply hsorted.1
            rw [← mem_dropRepeats, hmore]
            exact List.mem_cons_self
          have hlt : first < next := by
            apply Decidable.byContradiction
            intro hge
            exact hne (String.le_antisymm (String.not_lt.mp hle) (String.not_lt.mp hge))
          intro text htext
          rcases List.mem_cons.mp htext with rfl | htext
          · exact hlt
          · exact String.lt_trans hlt ((List.pairwise_cons.mp hrest).1 text htext)

theorem mem_sortedSet {text : String} {texts : List String} :
    text ∈ sortedSet texts ↔ text ∈ texts := by
  rw [sortedSet, mem_dropRepeats, List.mem_mergeSort]

theorem pairwise_sortedSet (texts : List String) : (sortedSet texts).Pairwise (· < ·) := by
  apply pairwise_dropRepeats
  -- what the sort takes for an order is the negation of the strict one
  have hsorted : (texts.mergeSort fun left right => !decide (right < left)).Pairwise
      fun left right => (!decide (right < left)) = true := by
    apply List.pairwise_mergeSort
    · intro first second third hfirst hsecond
      rw [Bool.not_eq_true', decide_eq_false_iff_not, String.not_lt] at hfirst hsecond ⊢
      exact String.le_trans hfirst hsecond
    · intro first second
      rw [Bool.or_eq_true, Bool.not_eq_true', decide_eq_false_iff_not, String.not_lt,
        Bool.not_eq_true', decide_eq_false_iff_not, String.not_lt]
      exact String.le_total first second
  refine hsorted.imp fun hle => ?_
  rw [Bool.not_eq_true', decide_eq_false_iff_not] at hle
  exact hle

/-! ## Choices -/

theorem mem_extendAll {text : String} {texts choices : List String} :
    text ∈ extendAll texts choices ↔
      ∃ start ∈ texts, ∃ choice ∈ choices, text = start ++ choice := by
  simp only [extendAll, List.mem_flatMap, List.mem_map]
  constructor
  · rintro ⟨choice, hchoice, start, hstart, rfl⟩
    exact ⟨start, hstart, choice, hchoice, rfl⟩
  · rintro ⟨start, hstart, choice, hchoice, rfl⟩
    exact ⟨choice, hchoice, start, hstart, rfl⟩

/-- Extending texts by choices step by step is the same as extending them by whole combinations. -/
theorem mem_foldl_extendAll {text : String} {texts : List String} {pieces : List (List String)} :
    text ∈ pieces.foldl extendAll texts ↔
      ∃ start ∈ texts, ∃ more ∈ pieces.foldl extendAll [""], text = start ++ more := by
  induction pieces generalizing text texts with
  | nil => simp
  | cons choices rest ih =>
      rw [List.foldl_cons, List.foldl_cons, ih]
      constructor
      · rintro ⟨start, hstart, more, hmore, rfl⟩
        obtain ⟨before, hbefore, choice, hchoice, rfl⟩ := mem_extendAll.mp hstart
        refine ⟨before, hbefore, choice ++ more, ?_, String.append_assoc⟩
        refine ih.mpr ⟨choice, ?_, more, hmore, rfl⟩
        exact mem_extendAll.mpr ⟨"", List.mem_singleton_self _, choice, hchoice, by simp⟩
      · rintro ⟨start, hstart, later, hlater, rfl⟩
        obtain ⟨first, hfirst, more, hmore, rfl⟩ := ih.mp hlater
        obtain ⟨before, hbefore, choice, hchoice, rfl⟩ := mem_extendAll.mp hfirst
        rw [List.mem_singleton] at hbefore
        subst hbefore
        refine ⟨start ++ choice, mem_extendAll.mpr ⟨start, hstart, choice, hchoice, rfl⟩,
          more, hmore, ?_⟩
        simp [String.append_assoc]

variable {dialect : Dialect} {queries : String → Option Predicate} {record : Record}

theorem mem_combinations_nil {text : String} : text ∈ combinations dialect [] ↔ text = "" := by
  simp [combinations]

theorem mem_combinations_cons {text : String} {piece : Piece (List String)}
    {rest : List (Piece (List String))} :
    text ∈ combinations dialect (piece :: rest) ↔
      ∃ choice ∈ pieceChoices dialect piece, ∃ more ∈ combinations dialect rest,
        text = choice ++ more := by
  simp only [combinations, List.map_cons, List.foldl_cons]
  rw [mem_foldl_extendAll]
  simp only [mem_extendAll, List.mem_singleton]
  constructor
  · rintro ⟨start, ⟨before, rfl, choice, hchoice, rfl⟩, more, hmore, rfl⟩
    exact ⟨choice, hchoice, more, hmore, by simp⟩
  · rintro ⟨choice, hchoice, more, hmore, rfl⟩
    exact ⟨choice, ⟨"", rfl, choice, hchoice, by simp⟩, more, hmore, rfl⟩

theorem mem_combinations_append {text : String} {first second : List (Piece (List String))} :
    text ∈ combinations dialect (first ++ second) ↔
      ∃ start ∈ combinations dialect first, ∃ more ∈ combinations dialect second,
        text = start ++ more := by
  simp only [combinations, List.map_append, List.foldl_append]
  exact mem_foldl_extendAll

theorem mem_pieceChoices_value {name choice : String} {values : List String} :
    choice ∈ pieceChoices dialect (.value name values) ↔
      (values = [] ∧ choice = "") ∨ ∃ value ∈ values, choice = dialect.formatValue name value := by
  cases values with
  | nil => simp [pieceChoices]
  | cons first rest =>
      simp only [pieceChoices, List.mem_map, reduceCtorEq, false_and, false_or]
      constructor
      · rintro ⟨value, hvalue, rfl⟩
        exact ⟨value, hvalue, rfl⟩
      · rintro ⟨value, hvalue, rfl⟩
        exact ⟨value, hvalue, rfl⟩

/-! ## The texts of a tree -/

section Library

variable [RegexLibrary]

/-- Whether a conditional takes its first branch for a record whose tags have several values. -/
def takesFirst (queries : String → Option Predicate) (record : Record) (name : String) : Prop :=
  match queries name with
  | some predicate => predicate.holds record
  | none => ∃ value ∈ record.list name, value ≠ ""

/-- A text that a tree can show: its literals and, for each tag reference on the branches taken, one of
the values of the tag, or nothing if the tag has none. The choices do not depend on each other. -/
inductive Combination (dialect : Dialect) (queries : String → Option Predicate) (record : Record) :
    List Node → String → Prop
  | nil : Combination dialect queries record [] ""
  | literal {text more rest} (hmore : Combination dialect queries record rest more) :
      Combination dialect queries record (.literal text :: rest) (text ++ more)
  | value {name value more rest} (hvalue : value ∈ record.list name)
      (hmore : Combination dialect queries record rest more) :
      Combination dialect queries record (.tag name :: rest)
        (dialect.formatValue name value ++ more)
  | noValue {name more rest} (hnone : record.list name = [])
      (hmore : Combination dialect queries record rest more) :
      Combination dialect queries record (.tag name :: rest) more
  | yes {name yes no shown more rest} (htakes : takesFirst queries record name)
      (hshown : Combination dialect queries record yes shown)
      (hmore : Combination dialect queries record rest more) :
      Combination dialect queries record (.conditional name yes no :: rest) (shown ++ more)
  | no {name yes no shown more rest} (htakes : ¬ takesFirst queries record name)
      (hshown : Combination dialect queries record (no.getD []) shown)
      (hmore : Combination dialect queries record rest more) :
      Combination dialect queries record (.conditional name yes no :: rest) (shown ++ more)

theorem takes_values_iff {name : String} :
    (View.values record).takes queries name = true ↔ takesFirst queries record name := by
  unfold View.takes takesFirst
  cases queries name with
  | some predicate => rfl
  | none => simp [View.values]

/-- The combinations of the pieces that a tree shows are the texts that the tree can show. -/
theorem mem_combinations_evaluateAll {nodes : List Node} {text : String} :
    text ∈ combinations dialect (evaluateAll (.values record) queries nodes) ↔
      Combination dialect queries record nodes text := by
  induction nodes using sequence_induction generalizing text with
  | nil =>
      rw [evaluateAll, mem_combinations_nil]
      constructor
      · rintro rfl
        exact .nil
      · rintro ⟨⟩
        rfl
  | literal literal rest ih =>
      simp only [evaluateAll, evaluateNode, List.singleton_append, mem_combinations_cons,
        pieceChoices, List.mem_singleton, ih]
      constructor
      · rintro ⟨_, rfl, more, hmore, rfl⟩
        exact .literal hmore
      · rintro ⟨⟩
        next more hmore => exact ⟨literal, rfl, more, hmore, rfl⟩
  | tag name rest ih =>
      simp only [evaluateAll, evaluateNode, List.singleton_append, mem_combinations_cons,
        mem_pieceChoices_value, ih]
      constructor
      · rintro ⟨choice, ⟨hnone, rfl⟩ | ⟨value, hvalue, rfl⟩, more, hmore, rfl⟩
        · rw [String.empty_append]
          exact .noValue hnone hmore
        · exact .value hvalue hmore
      · intro hcombination
        cases hcombination with
        | value hvalue hmore => exact ⟨_, Or.inr ⟨_, hvalue, rfl⟩, _, hmore, rfl⟩
        | noValue hnone hmore =>
            exact ⟨"", Or.inl ⟨hnone, rfl⟩, text, hmore, String.empty_append.symm⟩
  | conditional name yes no rest ihyes ihno ihrest =>
      simp only [evaluateAll, evaluateNode, evaluateBranch_eq, mem_combinations_append]
      constructor
      · rintro ⟨shown, hshown, more, hmore, rfl⟩
        split at hshown
        next htakes =>
          exact .yes (takes_values_iff.mp htakes) (ihyes.mp hshown) (ihrest.mp hmore)
        next htakes =>
          exact .no ((not_congr takes_values_iff).mp htakes) (ihno.mp hshown) (ihrest.mp hmore)
      · intro hcombination
        cases hcombination with
        | yes htakes hshown hmore =>
            rw [if_pos (takes_values_iff.mpr htakes)]
            exact ⟨_, ihyes.mpr hshown, _, ihrest.mpr hmore, rfl⟩
        | no htakes hshown hmore =>
            rw [if_neg ((not_congr takes_values_iff).mpr htakes)]
            exact ⟨_, ihno.mpr hshown, _, ihrest.mpr hmore, rfl⟩

/-- Every tree shows some text. -/
theorem exists_combination (dialect : Dialect) (queries : String → Option Predicate)
    (record : Record) (nodes : List Node) :
    ∃ text, Combination dialect queries record nodes text := by
  induction nodes using sequence_induction with
  | nil => exact ⟨"", .nil⟩
  | literal text rest ih =>
      obtain ⟨more, hmore⟩ := ih
      exact ⟨_, .literal hmore⟩
  | tag name rest ih =>
      obtain ⟨more, hmore⟩ := ih
      cases hvalues : record.list name with
      | nil => exact ⟨_, .noValue hvalues hmore⟩
      | cons value values =>
          exact ⟨_, .value (hvalues ▸ List.mem_cons_self : value ∈ record.list name) hmore⟩
  | conditional name yes no rest ihyes ihno ihrest =>
      obtain ⟨more, hmore⟩ := ihrest
      by_cases htakes : takesFirst queries record name
      · obtain ⟨shown, hshown⟩ := ihyes
        exact ⟨_, .yes htakes hshown hmore⟩
      · obtain ⟨shown, hshown⟩ := ihno
        exact ⟨_, .no htakes hshown hmore⟩

theorem mem_formatAll_ofTree {source : String} {settings : Path.Settings} {now : Binary64}
    {nodes : List Node} {text : String} :
    text ∈ (ofTree source dialect settings now nodes).formatAll record ↔
      ∃ raw, Combination dialect (queryOf? now) record nodes raw ∧
        text = (ofTree source dialect settings now nodes).finish record raw := by
  rw [formatAll, mem_sortedSet, pieces_ofTree, List.mem_map]
  constructor
  · rintro ⟨raw, hraw, rfl⟩
    exact ⟨raw, mem_combinations_evaluateAll.mp hraw, rfl⟩
  · rintro ⟨raw, hraw, rfl⟩
    exact ⟨raw, mem_combinations_evaluateAll.mpr hraw, rfl⟩

/-- The texts of a formatter are a set, not empty and in code point order, and they are exactly the
finished combinations of the tree that its pattern reads as. -/
theorem formatAll_eq_finished_combinations {source : String} {settings : Path.Settings}
    {now : Binary64} {formatter : Formatter}
    (hcompile : compile source dialect settings now = .ok formatter) (record : Record) :
    ∃ nodes, Pattern.parse (dialect.preprocess source) = .ok nodes ∧
      formatter.formatAll record ≠ [] ∧
      (formatter.formatAll record).Pairwise (· < ·) ∧
      ∀ text, text ∈ formatter.formatAll record ↔
        ∃ raw, Combination dialect (queryOf? now) record nodes raw ∧
          text = formatter.finish record raw := by
  obtain ⟨nodes, hparse, rfl, _⟩ := compile_eq_ok_iff.mp hcompile
  refine ⟨nodes, hparse, ?_, pairwise_sortedSet _, fun text => mem_formatAll_ofTree⟩
  obtain ⟨raw, hraw⟩ := exists_combination dialect (queryOf? now) record nodes
  exact List.ne_nil_of_mem (mem_formatAll_ofTree.mpr ⟨raw, hraw, rfl⟩)

end Library

/-- A record of two artists. -/
def duet : Record where
  get? _ := none
  comma _ := ""
  list name := if name = "artist" then ["Ann", "Bob"] else []
  numeric? _ := none

/-- Two references to a tag of two values are chosen apart from each other. -/
theorem formatAll_repeated_reference :
    ∃ formatter nodes, compile "<artist> <artist>" .plain ⟨255, none⟩ 0 = .ok formatter ∧
      Pattern.parse "<artist> <artist>" = .ok nodes ∧
      formatter.formatAll duet ≠ [] ∧ (formatter.formatAll duet).Pairwise (· < ·) ∧
      (∀ text, text ∈ formatter.formatAll duet ↔
        ∃ raw, Combination .plain (queryOf? 0) duet nodes raw ∧
          text = formatter.finish duet raw) ∧
      "Bob Ann" ∈ formatter.formatAll duet := by
  have hparse : Pattern.parse (Dialect.plain.preprocess "<artist> <artist>") =
      .ok [.tag "artist", .literal " ", .tag "artist"] := rfl
  have hcompile := compile_of_parse ⟨255, none⟩ 0 (by decide : Dialect.plain ≠ .path) hparse
  obtain ⟨nodes, hnodes, hne, hset, hmem⟩ := formatAll_eq_finished_combinations hcompile duet
  cases hparse.symm.trans hnodes
  refine ⟨_, _, hcompile, hparse, hne, hset, hmem, (hmem "Bob Ann").mpr ⟨"Bob Ann", ?_, rfl⟩⟩
  have hann : Combination .plain (queryOf? 0) duet [.tag "artist"] ("Ann" ++ "") :=
    .value (by decide) .nil
  have hbob : "Bob" ∈ duet.list "artist" := by decide
  exact .value hbob (.literal hann)

end Songbook.Formatter
