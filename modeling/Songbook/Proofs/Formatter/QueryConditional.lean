import Songbook.Proofs.Formatter.Compiled
import Songbook.Proofs.Pattern.Escape
import Songbook.Proofs.Pattern.Reading
import Songbook.RegexEngine.Library

/-!
# Queries in conditionals

A conditional whose name is a query tests the record by that query. The name reaches the query reader
through the pattern, where a name that ties tags gets a `~` in front. A query is no tag name, but it
can hold a `~` too, and then the conditional does not test the query that was written: it tests the
text with a `~` in front, as a query if that is one and as a tag otherwise.
-/

namespace Songbook.Formatter

open Pattern

/-- The pattern of a conditional that shows one of two texts. -/
def conditionalPattern (name first second : String) : String :=
  String.ofList ('<' :: (escape name.toList ++ '|' :: (escape first.toList ++
    '|' :: (escape second.toList ++ ['>']))))

section Reading

variable {name first second : String} (hname : name ≠ "") (hfirst : first ≠ "")
  (hsecond : second ≠ "")

include hname hfirst hsecond

theorem tokenize_conditionalPattern :
    tokenize (conditionalPattern name first second) =
      .ok [.opening, .text name.toList, .bar, .text first.toList, .bar, .text second.toList,
        .closing, .endOfPattern] := by
  have hglyphs : glyphs? (conditionalPattern name first second).toList =
      some (.opening :: (name.toList.map .literal ++ .bar :: (first.toList.map .literal ++
        .bar :: (second.toList.map .literal ++ [.closing])))) := by
    rw [conditionalPattern, String.toList_ofList, glyphs?_cons (by decide), glyphs?_escape,
      glyphs?_cons (by decide), glyphs?_escape, glyphs?_cons (by decide), glyphs?_escape]
    rfl
  have hstart : Text.trimStart (conditionalPattern name first second).toList =
      (conditionalPattern name first second).toList := by
    rw [conditionalPattern, String.toList_ofList, Text.trimStart_of_head (by decide)]
  have hend : Text.trimEnd (conditionalPattern name first second).toList =
      (conditionalPattern name first second).toList := by
    have hlast : (conditionalPattern name first second).toList =
        ('<' :: (escape name.toList ++ '|' :: (escape first.toList ++
          '|' :: escape second.toList))) ++ ['>'] := by
      simp [conditionalPattern]
    rw [hlast, Text.trimEnd_of_last (by decide)]
  have htexts : name.toList ≠ [] ∧ first.toList ≠ [] ∧ second.toList ≠ [] := by
    simp [hname, hfirst, hsecond]
  rw [tokenize, hstart, hend, hglyphs]
  simp only [tokensOfGlyphs]
  rw [tokensOfGlyphs_literal htexts.1 (by simp [tokensOfGlyphs])]
  simp only [tokensOfGlyphs]
  rw [tokensOfGlyphs_literal htexts.2.1 (by simp [tokensOfGlyphs])]
  simp only [tokensOfGlyphs]
  rw [tokensOfGlyphs_literal htexts.2.2 (by simp [tokensOfGlyphs])]
  rfl

theorem parse_conditionalPattern :
    Pattern.parse (conditionalPattern name first second) =
      .ok [.conditional (tiedName name) [.literal first] (some [.literal second])] := by
  have htree : ∀ name first second : List Char,
      ofTokens [.opening, .text name, .bar, .text first, .bar, .text second, .closing,
        .endOfPattern] =
      [.conditional (tiedName (String.ofList name)) [.literal (String.ofList first)]
        (some [.literal (String.ofList second)])] := fun _ _ _ => rfl
  rw [Pattern.parse, tokenize_conditionalPattern hname hfirst hsecond, Except.map, htree]
  simp only [String.ofList_toList]

/-- A conditional between two texts compiles, and it shows one of them. -/
theorem exists_formatter_conditional [RegexLibrary] (settings : Path.Settings) (now : Binary64) :
    ∃ formatter, compile (conditionalPattern name first second) .plain settings now =
        .ok formatter ∧
      ∀ record, formatter.format record =
        if (View.text record).takes (queryOf? now) (tiedName name) then first else second := by
  have hcompile := compile_of_parse settings now (by decide : Dialect.plain ≠ .path)
    (parse_conditionalPattern hname hfirst hsecond)
  refine ⟨_, hcompile, ?_⟩
  intro record
  change rawOutput _ record = _
  rw [rawOutput_ofTree]
  simp only [textOfAll, textOfNode, textOfBranch, String.append_empty]
  rfl

end Reading

theorem ne_empty_of_looksLikeQuery {name : String} (hlooks : looksLikeQuery name = true) :
    name ≠ "" := by
  rintro rfl
  exact absurd hlooks (by decide)

/-- What a conditional with a query for a name tests. A query that starts with `~` or holds none is
tested as the query reader understands it, both read at the same instant. Any other query is not
tested: the text with a `~` in front is, as a query if it is one and as a tag if not. -/
theorem format_query_conditional [RegexLibrary] {query first second : String} {now : Binary64}
    {predicate : Predicate} (hlooks : looksLikeQuery query = true)
    (hquery : Query.parse query now = .ok predicate) (hfirst : first ≠ "") (hsecond : second ≠ "")
    (settings : Path.Settings) :
    ∃ formatter, compile (conditionalPattern query first second) .plain settings now =
        .ok formatter ∧
      ((Tag.isSynthetic query = true ∨ Tag.sigil ∉ query.toList) → ∀ record,
        formatter.format record = if predicate.holds record then first else second) ∧
      (Tag.isSynthetic query = false → Tag.sigil ∈ query.toList → ∀ record,
        formatter.format record =
          if (match queryOf? now (String.ofList (Tag.sigil :: query.toList)) with
            | some other => other.holds record
            | none => record.comma (String.ofList (Tag.sigil :: query.toList)) != "")
          then first else second) := by
  obtain ⟨formatter, hcompile, hformat⟩ := exists_formatter_conditional
    (ne_empty_of_looksLikeQuery hlooks) hfirst hsecond settings now
  refine ⟨formatter, hcompile, ?_, ?_⟩
  · intro huntied record
    have hreads : queryOf? now query = some predicate := by
      simp [queryOf?, hlooks, hquery, Except.toOption]
    rw [hformat, tiedName_of_untied huntied, View.takes, hreads]
    rfl
  · intro hsynthetic hsigil record
    rw [hformat, tiedName_of_tied hsynthetic hsigil]
    rfl

/-- A comparison as a conditional tests that comparison. -/
theorem format_year_conditional :
    looksLikeQuery "#(year>1990)" = true ∧ ∃ predicate formatter,
      Query.parse "#(year>1990)" 0 = .ok predicate ∧
      compile (conditionalPattern "#(year>1990)" "new" "old") .plain ⟨255, none⟩ 0 =
        .ok formatter ∧
      ∀ record, formatter.format record = if predicate.holds record then "new" else "old" := by
  have hparses : (Query.parse "#(year>1990)" 0).toOption.isSome = true := by decide +kernel
  obtain ⟨predicate, hpredicate⟩ := Option.isSome_iff_exists.mp hparses
  cases hquery : Query.parse "#(year>1990)" 0 with
  | error error => simp [hquery, Except.toOption] at hpredicate
  | ok predicate =>
      obtain ⟨formatter, hcompile, huntied, _⟩ := format_query_conditional (by decide) hquery
        (by decide : "new" ≠ "") (by decide : "old" ≠ "") ⟨255, none⟩
      exact ⟨by decide, predicate, formatter, rfl, hcompile, huntied (Or.inr (by decide))⟩

/-- A record that has the number 2 for the tag `a~b` and shows nothing. -/
def numbered : Record where
  get? _ := none
  comma _ := ""
  list _ := []
  numeric? name := if name = "a~b" then some 2 else none

/-- A record can match a query that its conditional does not take: the query `#(a~b>1)` holds of the
record, but the conditional tests the tag `~#(a~b>1)`. -/
theorem tied_query_not_tested :
    looksLikeQuery "#(a~b>1)" = true ∧ ∃ predicate formatter,
      Query.parse "#(a~b>1)" 0 = .ok predicate ∧
      compile (conditionalPattern "#(a~b>1)" "A" "B") .plain ⟨255, none⟩ 0 = .ok formatter ∧
      predicate.holds numbered = true ∧ formatter.format numbered = "B" := by
  have hholds : (match Query.parse "#(a~b>1)" 0 with
      | .ok predicate => predicate.holds numbered
      | .error _ => false) = true := by decide +kernel
  cases hquery : Query.parse "#(a~b>1)" 0 with
  | error error => simp [hquery] at hholds
  | ok predicate =>
      rw [hquery] at hholds
      obtain ⟨formatter, hcompile, hformat⟩ := exists_formatter_conditional
        (by decide : "#(a~b>1)" ≠ "") (by decide : "A" ≠ "") (by decide : "B" ≠ "")
        ⟨255, none⟩ 0
      refine ⟨by decide, predicate, formatter, rfl, hcompile, hholds, ?_⟩
      rw [hformat, if_neg]
      decide +kernel

end Songbook.Formatter
