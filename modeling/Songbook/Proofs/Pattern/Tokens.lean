import Mathlib.Algebra.Ring.Parity
import Songbook.Proofs.Pattern.EscapedCharacters

/-!
# Tokens of a pattern, and writing them back

The tokens of any text end with one end mark, and no text among them is empty or stands beside
another one. They can be written back with a backslash before every character of a text, and are
then read as the same tokens. No blank is lost on the way: what a pattern ends in once it is trimmed
is the last character of its last token too, so that there is nothing to trim from what is written.

Reading fails only for a backslash that nothing follows, and the backslashes at the end of a text
tell whether there is one: each second of them is literal.
-/

namespace Songbook.Pattern

/-! ## The shape of the tokens -/

/-- Tokens as patterns have them. -/
structure AreTokens (tokens : List Token) : Prop where
  /-- There is one end mark, at the end. -/
  ended : ∃ front, tokens = front ++ [.endOfPattern] ∧ .endOfPattern ∉ front
  /-- No text is empty. -/
  filled : .text [] ∉ tokens
  /-- No text stands beside another one. -/
  separate : tokens.IsChain Token.Separate

theorem endOfPattern_tokensOfGlyphs (glyphs : List Glyph) :
    ∃ front, tokensOfGlyphs glyphs = front ++ [.endOfPattern] ∧ .endOfPattern ∉ front := by
  induction glyphs with
  | nil => exact ⟨[], rfl, List.not_mem_nil⟩
  | cons glyph rest ih =>
      obtain ⟨front, hfront, hend⟩ := ih
      cases glyph with
      | literal c =>
          rw [tokensOfGlyphs]
          split
          next literal more heq =>
            -- the text that takes the character in is not the end mark, so it stands in the front
            cases front with
            | nil => simp [hfront] at heq
            | cons token front =>
                rw [hfront, List.cons_append, List.cons.injEq] at heq
                obtain ⟨rfl, rfl⟩ := heq
                exact ⟨.text (c :: literal) :: front, rfl, by simpa using hend⟩
          next => exact ⟨.text [c] :: front, by rw [hfront]; rfl, by simpa using hend⟩
      | opening | closing | bar =>
          exact ⟨_ :: front, by rw [tokensOfGlyphs, hfront]; rfl, by simpa using hend⟩

theorem text_nil_not_mem_tokensOfGlyphs (glyphs : List Glyph) :
    .text [] ∉ tokensOfGlyphs glyphs := by
  induction glyphs with
  | nil => simp [tokensOfGlyphs]
  | cons glyph rest ih =>
      cases glyph with
      | literal c =>
          rw [tokensOfGlyphs]
          split
          next literal more heq =>
            rw [heq, List.mem_cons, not_or] at ih
            simpa using ih.2
          next => simpa using ih
      | opening | closing | bar => simpa [tokensOfGlyphs] using ih

theorem areTokens_tokensOfGlyphs (glyphs : List Glyph) : AreTokens (tokensOfGlyphs glyphs) where
  ended := endOfPattern_tokensOfGlyphs glyphs
  filled := text_nil_not_mem_tokensOfGlyphs glyphs
  separate := isChain_tokensOfGlyphs glyphs

/-- What is read as tokens is the text without the blanks around it. -/
theorem tokenize_eq_ok_iff {source : String} {tokens : List Token} :
    tokenize source = .ok tokens ↔
      ∃ glyphs, glyphs? (Text.trim source.toList) = some glyphs ∧
        tokens = tokensOfGlyphs glyphs := by
  rw [tokenize, ← Text.trim]
  cases glyphs? (Text.trim source.toList) with
  | none => simp
  | some glyphs => simp [eq_comm]

theorem areTokens_of_tokenize {source : String} {tokens : List Token}
    (htokens : tokenize source = .ok tokens) : AreTokens tokens := by
  obtain ⟨glyphs, _, rfl⟩ := tokenize_eq_ok_iff.mp htokens
  exact areTokens_tokensOfGlyphs glyphs

/-! ## Writing tokens back -/

/-- A token as it is written with every character of a text escaped. -/
def Token.writeEscaped : Token → List Char
  | text literal => escapeEvery literal
  | token => token.write

/-- Tokens as they are written with every character of a text escaped. -/
def writeTokens (tokens : List Token) : String :=
  String.ofList (tokens.flatMap Token.writeEscaped)

theorem glyphs?_writeEscaped (token : Token) (rest : List Char) :
    glyphs? (token.writeEscaped ++ rest) = (glyphs? rest).map (token.glyphs ++ ·) := by
  have hwrite := glyphs?_write token rest
  cases token with
  | text literal => exact glyphs?_escapeEvery_append literal rest
  | opening | closing | bar | endOfPattern => exact hwrite

theorem glyphs?_writeTokens (glyphs : List Glyph) :
    glyphs? ((tokensOfGlyphs glyphs).flatMap Token.writeEscaped) = some glyphs := by
  have hread := glyphs?_flatMap glyphs?_writeEscaped (tokensOfGlyphs glyphs) []
  rw [List.append_nil, flatMap_glyphs_tokensOfGlyphs] at hread
  rw [hread]
  simp [glyphs?]

/-- What is written starts with a backslash or a delimiter. -/
theorem isBlank_head?_writeEscaped {tokens : List Token} {c : Char}
    (hstart : c ∈ (tokens.flatMap Token.writeEscaped).head?) : Text.isBlank c = false := by
  induction tokens with
  | nil => cases hstart
  | cons token tokens ih =>
      rw [List.flatMap_cons] at hstart
      cases token with
      | text literal =>
          cases literal with
          | nil => exact ih hstart
          | cons first literal =>
              cases hstart
              decide
      | endOfPattern => exact ih hstart
      | opening | closing | bar =>
          cases hstart
          decide

/-- The character that a glyph is. -/
def Glyph.char : Glyph → Char
  | literal c => c
  | opening => '<'
  | closing => '>'
  | bar => '|'

theorem Glyph.char_ofChar (c : Char) : (Glyph.ofChar c).char = c := by
  unfold ofChar
  split_ifs with hopening hclosing hbar
  · exact hopening.symm
  · exact hclosing.symm
  · exact hbar.symm
  · rfl

/-- Texts that are read as the same glyphs end in the same character. -/
theorem getLast?_of_glyphs? {text : List Char} {glyphs : List Glyph}
    (hglyphs : glyphs? text = some glyphs) : text.getLast? = glyphs.getLast?.map Glyph.char := by
  induction text using escape_induction generalizing glyphs with
  | nil =>
      cases hglyphs
      rfl
  | lone => simp [glyphs?] at hglyphs
  | escaped c text ih =>
      rw [glyphs?_backslash, Option.map_eq_some_iff] at hglyphs
      obtain ⟨more, hmore, rfl⟩ := hglyphs
      rw [List.getLast?_cons_cons, List.getLast?_cons, List.getLast?_cons, ih hmore]
      cases more.getLast? <;> rfl
  | plain c text hc ih =>
      rw [glyphs?_cons hc, Option.map_eq_some_iff] at hglyphs
      obtain ⟨more, hmore, rfl⟩ := hglyphs
      rw [List.getLast?_cons, List.getLast?_cons, ih hmore]
      cases more.getLast? with
      | none => exact congrArg some (Glyph.char_ofChar c).symm
      | some glyph => rfl

/-- Tokens of a text that are written back are read as they were. -/
theorem tokenize_writeTokens {source : String} {tokens : List Token}
    (htokens : tokenize source = .ok tokens) : tokenize (writeTokens tokens) = .ok tokens := by
  obtain ⟨glyphs, hglyphs, rfl⟩ := tokenize_eq_ok_iff.mp htokens
  have hwritten := glyphs?_writeTokens glyphs
  refine tokenize_eq_ok_iff.mpr ⟨glyphs, ?_, rfl⟩
  have hend : ∀ c ∈ ((tokensOfGlyphs glyphs).flatMap Token.writeEscaped).getLast?,
      Text.isBlank c = false := by
    rw [getLast?_of_glyphs? hwritten, ← getLast?_of_glyphs? hglyphs]
    exact fun c => Text.isBlank_of_getLast?_trimEnd
  rw [writeTokens, String.toList_ofList, Text.trim,
    Text.trimStart_of_unblank fun c => isBlank_head?_writeEscaped, Text.trimEnd_of_unblank hend,
    hwritten]

/-! ## Backslashes at the end -/

/-- The number of backslashes that a text ends in. -/
def finalBackslashes (text : List Char) : Nat :=
  (text.reverse.takeWhile (· = '\\')).length

theorem finalBackslashes_concat (text : List Char) (c : Char) :
    finalBackslashes (text ++ [c]) = if c = '\\' then finalBackslashes text + 1 else 0 := by
  unfold finalBackslashes
  rw [List.reverse_append, List.reverse_singleton, List.singleton_append, List.takeWhile_cons]
  split_ifs with hc <;> simp_all

/-- The last of the backslashes at the end has nothing to escape if their number is odd. -/
theorem glyphs?_eq_none_iff_odd (text : List Char) :
    glyphs? text = none ↔ Odd (finalBackslashes text) := by
  induction text using List.reverseRecOn with
  | nil => simp [glyphs?, finalBackslashes]
  | append_singleton text c ih =>
      rw [finalBackslashes_concat]
      split_ifs with hc
      · subst hc
        have hfront : glyphs? (text ++ ['\\']) = none ↔ (glyphs? text).isSome = true := by
          rw [glyphs?_eq_none_iff]
          constructor
          · rintro ⟨front, hconcat, hsome⟩
            rwa [(List.append_inj' hconcat rfl).1]
          · exact fun hsome => ⟨text, rfl, hsome⟩
        rw [hfront, Nat.odd_add_one, ← ih, Option.isSome_iff_ne_none]
      · refine iff_of_false (fun hnone => ?_) (by simp)
        obtain ⟨front, hconcat, _⟩ := glyphs?_eq_none_iff.mp hnone
        exact hc (List.singleton_inj.mp (List.append_inj' hconcat rfl).2)

theorem tokenize_eq_error_iff_odd {source : String} :
    (∃ position, tokenize source = .error position) ↔
      Odd (finalBackslashes (Text.trim source.toList)) := by
  rw [← glyphs?_eq_none_iff_odd, tokenize, ← Text.trim]
  cases glyphs? (Text.trim source.toList) <;> simp

/-- Tokens end with one end mark, have no empty text and no two texts side by side, and are read
again from their written form. There are none exactly for a text that ends, but for the blanks
around it, in an odd number of backslashes. -/
theorem tokens_written_back (source : String) :
    (∀ tokens, tokenize source = .ok tokens →
      AreTokens tokens ∧ tokenize (writeTokens tokens) = .ok tokens) ∧
    ((∃ position, tokenize source = .error position) ↔
      Odd (finalBackslashes (Text.trim source.toList))) :=
  ⟨fun _ htokens => ⟨areTokens_of_tokenize htokens, tokenize_writeTokens htokens⟩,
    tokenize_eq_error_iff_odd⟩

/-- Blanks at the edge of a tag expression, an escaped delimiter beside a real one, and a run of
backslashes. -/
theorem tokens_written_back_blanks :
    tokenize " a\\<< b \\\\> " = .ok [.text ['a', '<'], .opening, .text [' ', 'b', ' ', '\\'],
        .closing, .endOfPattern] ∧
      writeTokens [.text ['a', '<'], .opening, .text [' ', 'b', ' ', '\\'], .closing,
        .endOfPattern] = "\\a\\<<\\ \\b\\ \\\\>" ∧
      tokenize "\\a\\<<\\ \\b\\ \\\\>" = .ok [.text ['a', '<'], .opening,
        .text [' ', 'b', ' ', '\\'], .closing, .endOfPattern] := by
  have htokens : tokenize " a\\<< b \\\\> " = .ok [.text ['a', '<'], .opening,
      .text [' ', 'b', ' ', '\\'], .closing, .endOfPattern] := by decide
  exact ⟨htokens, by decide, ((tokens_written_back _).1 _ htokens).2⟩

end Songbook.Pattern
