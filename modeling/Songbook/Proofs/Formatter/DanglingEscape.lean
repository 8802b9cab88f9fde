import Songbook.Proofs.Dialect.Brackets
import Songbook.Proofs.Formatter.Compiled
import Songbook.Proofs.Pattern.Recovery
import Songbook.RegexEngine.Library

/-!
# Patterns that end in a lone backslash

A pattern that ends in a backslash with nothing to escape is refused, and the refusal tells the place
of the backslash. Blanks around the pattern do not move it: the place counts the bytes of the text as
it was given. In bracket patterns it does not. There the place counts the bytes of what the
presentation tags were rewritten to, so that a tag or an escaped bracket before the backslash moves it.
-/

namespace Songbook

namespace Pattern

/-! ## In the text that is read -/

/-- A text has no glyphs exactly if a backslash stands behind a text that has some. -/
theorem glyphs?_eq_none_iff {text : List Char} :
    glyphs? text = none ↔ ∃ front, text = front ++ ['\\'] ∧ (glyphs? front).isSome = true := by
  constructor
  · intro hnone
    induction text using escape_induction with
    | nil => cases hnone
    | lone => exact ⟨[], rfl, rfl⟩
    | escaped c text ih =>
        rw [glyphs?_backslash, Option.map_eq_none_iff] at hnone
        obtain ⟨front, rfl, hfront⟩ := ih hnone
        exact ⟨'\\' :: c :: front, rfl, by rwa [glyphs?_backslash, Option.isSome_map]⟩
    | plain c text hc ih =>
        rw [glyphs?_cons hc, Option.map_eq_none_iff] at hnone
        obtain ⟨front, rfl, hfront⟩ := ih hnone
        exact ⟨c :: front, rfl, by rwa [glyphs?_cons hc, Option.isSome_map]⟩
  · rintro ⟨front, rfl, hfront⟩
    obtain ⟨glyphs, hglyphs⟩ := Option.isSome_iff_exists.mp hfront
    rw [glyphs?_append hglyphs]
    rfl

theorem isSome_glyphs?_blanks_append {blanks : List Char}
    (hblanks : ∀ c ∈ blanks, Text.isBlank c = true) (text : List Char) :
    (glyphs? (blanks ++ text)).isSome = (glyphs? text).isSome := by
  rw [glyphs?_append (glyphs?_blanks hblanks), Option.isSome_map]

/-- A lone backslash is found at its own place, whatever blanks stand around the pattern. -/
theorem tokenize_of_dangling {source : String} {front blanks : List Char}
    (hsource : source.toList = front ++ '\\' :: blanks)
    (hblanks : ∀ c ∈ blanks, Text.isBlank c = true) (hfront : (glyphs? front).isSome = true) :
    tokenize source = .error (Text.byteLength front) := by
  rw [← List.singleton_append, ← List.append_assoc] at hsource
  have hstart : Text.trimStart source.toList = Text.trimStart front ++ ['\\'] ++ blanks := by
    rw [hsource, List.append_assoc, List.singleton_append,
      Text.trimStart_append_of_head (by decide), List.append_assoc, List.singleton_append]
  have hend : Text.trimEnd (Text.trimStart source.toList) = Text.trimStart front ++ ['\\'] := by
    rw [hstart, Text.trimEnd_append_blanks hblanks, Text.trimEnd_of_last (by decide)]
  have hbefore : front.takeWhile Text.isBlank ++ Text.trimStart front = front :=
    List.takeWhile_append_dropWhile
  have hnone : glyphs? (Text.trimStart front ++ ['\\']) = none := by
    refine glyphs?_eq_none_iff.mpr ⟨_, rfl, ?_⟩
    rwa [← hbefore, isSome_glyphs?_blanks_append fun c hc => List.mem_takeWhile_imp hc] at hfront
  have hlength := congrArg Text.byteLength hbefore
  have hlone : Text.byteLength ['\\'] = 1 := by decide
  simp only [tokenize, hend, hnone]
  rw [hstart, hsource]
  simp only [Text.byteLength_append, hlone] at hlength ⊢
  congr 1
  omega

end Pattern

namespace Brackets

open Pattern

/-! ## Through the rewriting of presentation tags -/

variable {text front blanks : List Char}

/-- A lone backslash stays behind what the text before it is rewritten to. -/
theorem toPattern_append_backslash (hfront : (glyphs? (toPattern front)).isSome = true) :
    toPattern (front ++ ['\\']) = toPattern front ++ ['\\'] := by
  induction front using pattern_induction with
  | nil => rw [List.nil_append, toPattern_lone, toPattern, List.nil_append]
  | lone =>
      rw [toPattern_lone] at hfront
      cases hfront
  | escaped c rest ih =>
      rw [glyphs?_toPattern_escaped, Option.isSome_map] at hfront
      rw [List.cons_append, List.cons_append, toPattern_escaped, ih hfront, toPattern_escaped,
        List.append_assoc]
  | tag inner after htag ih =>
      rw [toPattern_tag htag, glyphs?_escape, Option.isSome_map] at hfront
      rw [List.cons_append, List.append_assoc, List.cons_append, toPattern_tag htag, ih hfront,
        toPattern_tag htag, List.append_assoc]
  | bracket rest hnone ih =>
      rw [toPattern_bracket hnone, glyphs?_cons (by decide), Option.isSome_map] at hfront
      rw [List.cons_append,
        toPattern_bracket ((presentation?_append_eq_none_iff (by decide)).mpr hnone), ih hfront,
        toPattern_bracket hnone, List.cons_append]
  | plain c rest hbackslash hbracket ih =>
      rw [toPattern_plain hbackslash hbracket, glyphs?_cons hbackslash, Option.isSome_map] at hfront
      rw [List.cons_append, toPattern_plain hbackslash hbracket, ih hfront,
        toPattern_plain hbackslash hbracket, List.cons_append]

/-- A lone backslash behind rewritten text was one before. -/
theorem exists_front_of_toPattern (hnone : glyphs? (toPattern text) = none) :
    ∃ front, text = front ++ ['\\'] ∧ (glyphs? (toPattern front)).isSome = true := by
  induction text using pattern_induction with
  | nil =>
      rw [toPattern] at hnone
      cases hnone
  | lone => exact ⟨[], rfl, by rw [toPattern]; rfl⟩
  | escaped c rest ih =>
      rw [glyphs?_toPattern_escaped, Option.map_eq_none_iff] at hnone
      obtain ⟨front, rfl, hfront⟩ := ih hnone
      exact ⟨'\\' :: c :: front, rfl, by rwa [glyphs?_toPattern_escaped, Option.isSome_map]⟩
  | tag inner after htag ih =>
      rw [toPattern_tag htag, glyphs?_escape, Option.map_eq_none_iff] at hnone
      obtain ⟨front, rfl, hfront⟩ := ih hnone
      exact ⟨'[' :: (inner ++ ']' :: front), by simp,
        by rwa [toPattern_tag htag, glyphs?_escape, Option.isSome_map]⟩
  | bracket rest hpresentation ih =>
      rw [toPattern_bracket hpresentation, glyphs?_cons (by decide), Option.map_eq_none_iff] at hnone
      obtain ⟨front, rfl, hfront⟩ := ih hnone
      rw [presentation?_append_eq_none_iff (by decide)] at hpresentation
      exact ⟨'[' :: front, rfl,
        by rwa [toPattern_bracket hpresentation, glyphs?_cons (by decide), Option.isSome_map]⟩
  | plain c rest hbackslash hbracket ih =>
      rw [toPattern_plain hbackslash hbracket, glyphs?_cons hbackslash, Option.map_eq_none_iff]
        at hnone
      obtain ⟨front, rfl, hfront⟩ := ih hnone
      exact ⟨c :: front, rfl, by
        rwa [toPattern_plain hbackslash hbracket, glyphs?_cons hbackslash, Option.isSome_map]⟩

end Brackets

/-! ## In the text that is given -/

namespace Dialect

open Pattern

/-- The text that a pattern is read from: bracket patterns are rewritten, and others stay as they
are. -/
def readText (dialect : Dialect) (text : List Char) : List Char :=
  if dialect = .bracketMarkup then Brackets.toPattern text else text

variable {dialect : Dialect} {text front blanks : List Char}

theorem toList_preprocess (dialect : Dialect) (source : String) :
    (dialect.preprocess source).toList = dialect.readText source.toList := by
  cases dialect <;> simp [preprocess, readText]

theorem readText_of_dangling (hblanks : ∀ c ∈ blanks, Text.isBlank c = true)
    (hfront : (glyphs? (dialect.readText front)).isSome = true) :
    dialect.readText (front ++ '\\' :: blanks) = dialect.readText front ++ '\\' :: blanks := by
  unfold readText at hfront ⊢
  split
  next hdialect =>
    rw [if_pos hdialect] at hfront
    rw [← List.singleton_append, ← List.append_assoc, Brackets.toPattern_append_blanks hblanks,
      Brackets.toPattern_append_backslash hfront, List.append_assoc]
  next => rfl

theorem readText_blanks_append (hblanks : ∀ c ∈ blanks, Text.isBlank c = true)
    (text : List Char) : dialect.readText (blanks ++ text) = blanks ++ dialect.readText text := by
  unfold readText
  split
  next => exact Brackets.toPattern_blanks_append hblanks text
  next => rfl

theorem trim_readText (dialect : Dialect) (text : List Char) :
    Text.trim (dialect.readText text) = dialect.readText (Text.trim text) := by
  unfold readText
  split
  next => exact Brackets.trim_toPattern text
  next => rfl

theorem exists_front_of_readText (hnone : glyphs? (dialect.readText text) = none) :
    ∃ front, text = front ++ ['\\'] ∧ (glyphs? (dialect.readText front)).isSome = true := by
  unfold readText at hnone ⊢
  split at hnone
  next hdialect =>
    simp only [if_pos hdialect]
    exact Brackets.exists_front_of_toPattern hnone
  next hdialect =>
    simp only [if_neg hdialect]
    exact glyphs?_eq_none_iff.mp hnone

/-- A pattern is refused at a place exactly if a lone backslash ends it, before the blanks behind it,
and what stands before the backslash takes that many bytes in the text that is read. -/
theorem tokenize_preprocess_eq_error_iff {source : String} {position : Nat} :
    tokenize (dialect.preprocess source) = .error position ↔
      ∃ front blanks, source.toList = front ++ '\\' :: blanks ∧
        (∀ c ∈ blanks, Text.isBlank c = true) ∧
        (glyphs? (dialect.readText front)).isSome = true ∧
        position = Text.byteLength (dialect.readText front) := by
  have hplace : ∀ {front blanks : List Char}, source.toList = front ++ '\\' :: blanks →
      (∀ c ∈ blanks, Text.isBlank c = true) →
      (glyphs? (dialect.readText front)).isSome = true →
      tokenize (dialect.preprocess source) =
        .error (Text.byteLength (dialect.readText front)) := by
    intro front blanks hsource hblanks hfront
    refine tokenize_of_dangling ?_ hblanks hfront
    rw [toList_preprocess, hsource, readText_of_dangling hblanks hfront]
  constructor
  · intro herror
    have hnone : glyphs? (dialect.readText (Text.trim source.toList)) = none := by
      have hoption := Brackets.toOption_tokenize (dialect.preprocess source)
      rw [herror, toList_preprocess, trim_readText] at hoption
      exact Option.map_eq_none_iff.mp hoption.symm
    obtain ⟨inner, htrim, hinner⟩ := exists_front_of_readText hnone
    obtain ⟨before, after, hsource, hbefore, hafter, _⟩ := Text.exists_blanks_around source.toList
    have hsplit : source.toList = (before ++ inner) ++ '\\' :: after := by
      rw [hsource, htrim]
      simp
    have hfront : (glyphs? (dialect.readText (before ++ inner))).isSome = true := by
      rwa [readText_blanks_append hbefore, isSome_glyphs?_blanks_append hbefore]
    refine ⟨before ++ inner, after, hsplit, hafter, hfront, ?_⟩
    exact Except.error.inj (herror.symm.trans (hplace hsplit hafter hfront))
  · rintro ⟨front, blanks, hsource, hblanks, hfront, rfl⟩
    exact hplace hsource hblanks hfront

end Dialect

namespace Formatter

open Pattern

variable {source : String} {dialect : Dialect} {settings : Path.Settings} {now : Binary64}
  {position : Nat}

section Library

variable [RegexLibrary]

/-- The trial of a pattern does not find a lone backslash. -/
theorem tryFormat_ne_danglingEscape {formatter : Formatter} {record : Record} :
    formatter.tryFormat record ≠ .error (.danglingEscape position) := by
  unfold tryFormat
  dsimp only
  split_ifs <;> simp

/-- Nothing but the cutting into tokens finds a lone backslash. -/
theorem compile_eq_danglingEscape_iff_tokenize :
    compile source dialect settings now = .error (.danglingEscape position) ↔
      tokenize (dialect.preprocess source) = .error position := by
  unfold compile Pattern.parse
  cases tokenize (dialect.preprocess source) with
  | error place => simp [Except.map]
  | ok tokens =>
      simp only [Except.map, reduceCtorEq, iff_false]
      split
      next error htrial =>
        rintro ⟨⟩
        exact tryFormat_ne_danglingEscape htrial
      next => exact nofun

/-- A pattern is refused for a lone backslash exactly if it ends in one, before the blanks behind it.
The place that is told is the byte offset of the backslash in the pattern as it was given; for a
bracket pattern it is the number of bytes that the text before the backslash is rewritten to. -/
theorem compile_eq_danglingEscape_iff :
    compile source dialect settings now = .error (.danglingEscape position) ↔
      ∃ front blanks, source.toList = front ++ '\\' :: blanks ∧
        (∀ c ∈ blanks, Text.isBlank c = true) ∧
        (glyphs? (dialect.readText front)).isSome = true ∧
        (dialect ≠ .bracketMarkup → position = Text.byteLength front) ∧
        (dialect = .bracketMarkup → position = Text.byteLength (Brackets.toPattern front)) := by
  have hplace : ∀ front : List Char,
      position = Text.byteLength (dialect.readText front) ↔
        (dialect ≠ .bracketMarkup → position = Text.byteLength front) ∧
        (dialect = .bracketMarkup → position = Text.byteLength (Brackets.toPattern front)) := by
    intro front
    unfold Dialect.readText
    split
    next hdialect => simp [hdialect]
    next hdialect => simp [hdialect]
  rw [compile_eq_danglingEscape_iff_tokenize, Dialect.tokenize_preprocess_eq_error_iff]
  simp only [hplace]

end Library

/-- The place that is told for a bracket pattern need not be in the pattern: a tag before the
backslash moves it behind the end. -/
theorem danglingEscape_behind_tag :
    compile "[b]\\" .bracketMarkup ⟨255, none⟩ 0 = .error (.danglingEscape 5) ∧
      ¬∃ front blanks, "[b]\\".toList = front ++ '\\' :: blanks ∧
        (∀ c ∈ blanks, Text.isBlank c = true) ∧ 5 = Text.byteLength front := by
  constructor
  · rw [compile_eq_danglingEscape_iff_tokenize]
    decide +kernel
  · rintro ⟨front, blanks, hsource, _, hplace⟩
    have hbytes : Text.byteLength "[b]\\".toList = 4 := by decide
    rw [hsource, Text.byteLength_append] at hbytes
    omega

end Formatter

end Songbook
