import Songbook.Pattern.Parser
import Songbook.Proofs.Text

/-!
# Escaped text in patterns

A text is written into a pattern with a backslash before each character that would mean something
there. Reading it back gives the text as one token, whatever stands around it, as long as something
that delimits it follows.
-/

namespace Songbook.Pattern

/-- A text without characters that mean something is written as it is. -/
theorem escape_of_plain {text : List Char} (hplain : ∀ c ∈ text, isSpecial c = false) :
    escape text = text := by
  induction text with
  | nil => rfl
  | cons c text ih =>
      rw [List.forall_mem_cons] at hplain
      have hrest : text.flatMap escapeChar = text := ih hplain.2
      rw [escape, List.flatMap_cons, hrest, escapeChar, hplain.1]
      rfl

/-! ## Glyphs -/

theorem glyphs?_backslash (c : Char) (rest : List Char) :
    glyphs? ('\\' :: c :: rest) = (glyphs? rest).map (.literal c :: ·) := by
  simp [glyphs?]

theorem glyphs?_cons {c : Char} (hc : c ≠ '\\') (rest : List Char) :
    glyphs? (c :: rest) = (glyphs? rest).map (.ofChar c :: ·) := by
  rw [glyphs?]
  · intro heq
    exact absurd heq hc
  · intro next more heq
    exact absurd heq hc

/-- Texts by their escapes: a backslash goes with the character behind it, or ends the text. -/
theorem escape_induction {motive : List Char → Prop} (nil : motive []) (lone : motive ['\\'])
    (escaped : ∀ c rest, motive rest → motive ('\\' :: c :: rest))
    (plain : ∀ c rest, c ≠ '\\' → motive rest → motive (c :: rest)) (text : List Char) :
    motive text := by
  induction text using glyphs?.induct with
  | case1 => exact nil
  | case2 => exact lone
  | case3 c rest ih => exact escaped c rest ih
  | case4 c rest hlone hpair ih =>
      refine plain c rest ?_ ih
      rintro rfl
      cases rest with
      | nil => exact hlone rfl rfl
      | cons next rest => exact hpair next rest rfl rfl

theorem glyphs?_escapeChar (c : Char) (rest : List Char) :
    glyphs? (escapeChar c ++ rest) = (glyphs? rest).map (.literal c :: ·) := by
  unfold escapeChar
  split
  next => exact glyphs?_backslash c rest
  next hplain =>
    simp only [isSpecial, List.contains_cons, List.contains_nil, Bool.or_false, Bool.or_eq_true,
      beq_iff_eq, not_or] at hplain
    obtain ⟨hbackslash, hopening, hclosing, hbar⟩ := hplain
    rw [List.singleton_append, glyphs?_cons hbackslash]
    simp [Glyph.ofChar, hopening, hclosing, hbar]

theorem glyphs?_escape (text rest : List Char) :
    glyphs? (escape text ++ rest) = (glyphs? rest).map (text.map .literal ++ ·) := by
  induction text with
  | nil => simp [escape]
  | cons c text ih =>
      rw [escape, List.flatMap_cons, List.append_assoc, glyphs?_escapeChar]
      change ((glyphs? (escape text ++ rest)).map _) = _
      rw [ih, Option.map_map]
      rfl

theorem glyphs?_plain_append {text : List Char} (hplain : ∀ c ∈ text, isSpecial c = false)
    (rest : List Char) :
    glyphs? (text ++ rest) = (glyphs? rest).map (text.map .literal ++ ·) := by
  rw [← glyphs?_escape, escape_of_plain hplain]

/-! ## Tokens -/

/-- Literal glyphs before a delimiter make one text. -/
theorem tokensOfGlyphs_literal {text : List Char} (htext : text ≠ []) {rest : List Glyph}
    (hrest : ∀ literal more, tokensOfGlyphs rest ≠ .text literal :: more) :
    tokensOfGlyphs (text.map .literal ++ rest) = .text text :: tokensOfGlyphs rest := by
  induction text with
  | nil => exact absurd rfl htext
  | cons c text ih =>
      rw [List.map_cons, List.cons_append, tokensOfGlyphs]
      cases text with
      | nil =>
          rw [List.map_nil, List.nil_append]
          -- the last character is joined to nothing, as no text follows it
          split
          next literal more heq => exact absurd heq (hrest literal more)
          next => rfl
      | cons next text =>
          rw [ih (List.cons_ne_nil _ _)]

end Songbook.Pattern
