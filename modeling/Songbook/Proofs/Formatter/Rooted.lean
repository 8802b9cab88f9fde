import Songbook.Proofs.Formatter.Compiled
import Songbook.Proofs.Path
import Songbook.Proofs.Pattern.Recovery
import Songbook.RegexEngine.Library

/-!
# Patterns that start at the root

The check of a path pattern tries one record only. A pattern whose own text starts with `/` needs no
such trial: its first literal starts every path, and completing the path keeps the root. The same
holds of a pattern that starts with `~/` as long as the home directory starts at the root.
-/

namespace Songbook

namespace Pattern

/-- Literal glyphs at the start are the start of a text. -/
theorem tokensOfGlyphs_literal_prefix {front : List Char} (hfront : front ≠ [])
    (rest : List Glyph) :
    ∃ literal more, tokensOfGlyphs (front.map .literal ++ rest) = .text literal :: more ∧
      front <+: literal := by
  induction front with
  | nil => exact absurd rfl hfront
  | cons c front ih =>
      rw [List.map_cons, List.cons_append, tokensOfGlyphs]
      by_cases hmore : front = []
      · subst hmore
        split
        next literal more _ => exact ⟨_, _, rfl, List.prefix_append [c] literal⟩
        next => exact ⟨_, _, rfl, List.prefix_rfl⟩
      · obtain ⟨literal, more, htokens, hliteral⟩ := ih hmore
        rw [htokens]
        exact ⟨_, _, rfl, List.cons_prefix_cons.mpr ⟨rfl, hliteral⟩⟩

/-- A pattern that starts with characters without a meaning reads as a tree whose first literal
starts with them. -/
theorem parse_of_plain_prefix {source : String} {tokens : List Token} {front : List Char}
    (htokens : tokenize source = .ok tokens) (hfront : front ≠ [])
    (hplain : ∀ c ∈ front, isSpecial c = false) (hstarts : front <+: Text.trim source.toList) :
    ∃ literal nodes, parse source = .ok (.literal literal :: nodes) ∧
      front <+: literal.toList := by
  obtain ⟨rest, hrest⟩ := hstarts
  have hglyphs : ∃ glyphs, tokens = tokensOfGlyphs (front.map .literal ++ glyphs) := by
    have hbody : Text.trimEnd (Text.trimStart source.toList) = front ++ rest := hrest.symm
    rw [tokenize, hbody, glyphs?_plain_append hplain] at htokens
    cases hread : glyphs? rest with
    | none => simp [hread] at htokens
    | some glyphs =>
        rw [hread] at htokens
        exact ⟨glyphs, (Except.ok.inj htokens).symm⟩
  obtain ⟨glyphs, rfl⟩ := hglyphs
  obtain ⟨literal, more, hmore, hliteral⟩ := tokensOfGlyphs_literal_prefix hfront glyphs
  rw [hmore] at htokens
  refine ⟨String.ofList literal, (sequence maxDepth more).1 ++
    readOn ofTokens (sequence maxDepth more).2, ?_, ?_⟩
  · rw [parse, htokens, Except.map, ofTokens_eq, sequence_text]
    rfl
  · rwa [String.toList_ofList]

end Pattern

namespace Formatter

open Pattern

variable {source : String} {settings : Path.Settings} {now : Binary64}

section Library

variable [RegexLibrary]

/-- A path that starts at the root is shown as it is. -/
theorem tryFormat_of_root_prefix {formatter : Formatter} {record : Record}
    (hroot : ['/'] <+: (formatter.format record).toList) :
    formatter.tryFormat record = .ok (formatter.format record) := by
  obtain ⟨hhome, hunrooted⟩ := Path.checks_of_root_prefix hroot formatter.source
  simp [tryFormat, hhome, hunrooted]

/-- A pattern that starts with a rooted literal shows paths from the root. -/
theorem root_prefix_format {literal : String} {nodes : List Node}
    (hrooted : Path.IsRooted settings literal.toList) (record : Record) :
    ['/'] <+: ((ofTree source .path settings now (.literal literal :: nodes)).format
      record).toList := by
  have hraw : Path.IsRooted settings
      ((ofTree source .path settings now (.literal literal :: nodes)).rawOutput record).toList := by
    rw [rawOutput_ofTree, textOfAll, textOfNode, String.toList_append]
    exact hrooted.of_prefix (List.prefix_append _ _)
  exact Path.root_prefix_finish hraw

/-- A path pattern that starts at the root by its own text compiles, and every path that it shows
starts at the root. So does one that starts at a home directory, if that starts at the root. -/
theorem tryFormat_of_rooted_source {tokens : List Token} (htokens : tokenize source = .ok tokens)
    (hrooted : Path.IsRooted settings (Text.trim source.toList)) (now : Binary64) :
    ∃ formatter, compile source .path settings now = .ok formatter ∧ ∀ record, ∃ output,
      formatter.tryFormat record = .ok output ∧ ['/'] <+: output.toList := by
  have hparse : ∃ literal nodes, parse source = .ok (.literal literal :: nodes) ∧
      Path.IsRooted settings literal.toList := by
    rcases hrooted with hroot | ⟨hhome, hsettings⟩
    · obtain ⟨literal, nodes, hparse, hliteral⟩ :=
        parse_of_plain_prefix htokens (by simp) (by simp [isSpecial]) hroot
      exact ⟨literal, nodes, hparse, Or.inl hliteral⟩
    · obtain ⟨literal, nodes, hparse, hliteral⟩ :=
        parse_of_plain_prefix htokens (by simp) (by simp [isSpecial]) hhome
      exact ⟨literal, nodes, hparse, Or.inr ⟨hliteral, hsettings⟩⟩
  obtain ⟨literal, nodes, hparse, hliteral⟩ := hparse
  have hroot : ∀ record, ['/'] <+: ((ofTree source .path settings now
      (.literal literal :: nodes)).format record).toList := root_prefix_format hliteral
  exact ⟨_, compile_eq_ok_iff.mpr ⟨_, hparse, rfl, _, tryFormat_of_root_prefix (hroot .sample)⟩,
    fun record => ⟨_, tryFormat_of_root_prefix (hroot record), hroot record⟩⟩

end Library

/-- An expression without its end, a home directory that is the root itself and one byte for each
segment. -/
theorem tryFormat_of_unfinished_home_source :
    (∃ tokens, tokenize " ~/<artist" = .ok tokens) ∧
      Path.IsRooted ⟨1, some "/"⟩ (Text.trim " ~/<artist".toList) ∧
      ∃ formatter, compile " ~/<artist" .path ⟨1, some "/"⟩ 0 = .ok formatter ∧ ∀ record,
        ∃ output, formatter.tryFormat record = .ok output ∧ ['/'] <+: output.toList := by
  have htokens : tokenize " ~/<artist" =
      .ok [.text ['~', '/'], .opening, .text "artist".toList, .endOfPattern] := by decide
  have hrooted : Path.IsRooted ⟨1, some "/"⟩ (Text.trim " ~/<artist".toList) :=
    Or.inr ⟨by decide, "/", rfl, by decide⟩
  exact ⟨⟨_, htokens⟩, hrooted, tryFormat_of_rooted_source htokens hrooted 0⟩

end Formatter

end Songbook
