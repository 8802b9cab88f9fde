import Songbook.Proofs.Formatter.DanglingEscape

/-!
# Texts with a backslash before every character

Behind a backslash every character stands for itself, so a text in which each one has a backslash
before it reads as that text and nothing else. There is one exception. The blanks around a pattern are
dropped before backslashes are read, and a blank at the end of the text is dropped with them: its
backslash is left without a character, and the pattern is refused.
-/

namespace Songbook.Pattern

/-- A text with a backslash before every character. -/
def escapeEvery (text : List Char) : List Char :=
  text.flatMap fun c => ['\\', c]

theorem escapeEvery_concat (front : List Char) (last : Char) :
    escapeEvery (front ++ [last]) = escapeEvery front ++ '\\' :: [last] := by
  simp [escapeEvery]

/-- A backslash makes any character literal, whatever stands before and behind it. -/
theorem glyphs?_escapeEvery_append (text rest : List Char) :
    glyphs? (escapeEvery text ++ rest) = (glyphs? rest).map (text.map .literal ++ ·) := by
  induction text with
  | nil => simp [escapeEvery]
  | cons c text ih =>
      have hcons : escapeEvery (c :: text) = '\\' :: c :: escapeEvery text := by simp [escapeEvery]
      rw [hcons, List.cons_append, List.cons_append, glyphs?_backslash, ih, Option.map_map]
      rfl

theorem glyphs?_escapeEvery (text : List Char) :
    glyphs? (escapeEvery text) = some (text.map .literal) := by
  simpa [glyphs?] using glyphs?_escapeEvery_append text []

/-- Nothing is trimmed from the start, where a backslash stands. -/
theorem isBlank_head?_escapeEvery {text : List Char} {c : Char}
    (hstart : c ∈ (escapeEvery text).head?) : Text.isBlank c = false := by
  cases text with
  | nil => cases hstart
  | cons first text =>
      cases hstart
      decide

/-- Without a blank at its end a text is one token. -/
theorem tokenize_escapeEvery_of_unblank {front : List Char} {last : Char}
    (hlast : Text.isBlank last = false) :
    tokenize (String.ofList (escapeEvery (front ++ [last]))) =
      .ok [.text (front ++ [last]), .endOfPattern] := by
  have hend : Text.trimEnd (escapeEvery (front ++ [last])) = escapeEvery (front ++ [last]) := by
    rw [escapeEvery_concat, ← List.singleton_append, ← List.append_assoc]
    exact Text.trimEnd_of_last hlast _
  have htokens : tokensOfGlyphs ((front ++ [last]).map .literal) =
      [.text (front ++ [last]), .endOfPattern] := by
    have htext : front ++ [last] ≠ [] := by simp
    have hnone : ∀ literal more, tokensOfGlyphs [] ≠ .text literal :: more := by
      simp [tokensOfGlyphs]
    have hread := tokensOfGlyphs_literal htext hnone
    rwa [List.append_nil] at hread
  have hstart : ∀ c ∈ (String.ofList (escapeEvery (front ++ [last]))).toList.head?,
      Text.isBlank c = false := by
    rw [String.toList_ofList]
    exact fun c => isBlank_head?_escapeEvery
  rw [tokenize_of_unblank hstart, String.toList_ofList, hend, glyphs?_escapeEvery]
  exact congrArg _ htokens

/-- A text with every character escaped has one token, and none if it is empty. Only a blank at its
end is lost: the backslash before it is then found without a character to escape. -/
theorem tokenize_escapeEvery (text : List Char) :
    tokenize (String.ofList (escapeEvery text)) =
      match text.getLast? with
      | none => .ok [.endOfPattern]
      | some last =>
        if Text.isBlank last then .error (Text.byteLength (escapeEvery text.dropLast))
        else .ok [.text text, .endOfPattern] := by
  rcases List.eq_nil_or_concat text with rfl | ⟨front, last, rfl⟩
  · rfl
  · rw [List.concat_eq_append, List.getLast?_concat, List.dropLast_concat]
    dsimp only
    split
    next hblank =>
      have hsource : (String.ofList (escapeEvery (front ++ [last]))).toList =
          escapeEvery front ++ '\\' :: [last] := by
        rw [String.toList_ofList, escapeEvery_concat]
      exact tokenize_of_dangling hsource (by simpa using hblank) (by simp [glyphs?_escapeEvery])
    next hblank => exact tokenize_escapeEvery_of_unblank (Bool.eq_false_iff.mpr hblank)

/-- A lone blank, escaped, is not read as that blank. -/
theorem tokenize_escaped_blank :
    tokenize (String.ofList (escapeEvery [' '])) = .error 0 ∧
      tokenize (String.ofList (escapeEvery [' '])) ≠ .ok [.text [' '], .endOfPattern] := by
  decide

end Songbook.Pattern
