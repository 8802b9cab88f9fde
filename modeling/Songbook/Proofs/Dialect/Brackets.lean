import Songbook.Dialect
import Songbook.Proofs.Pattern.Escape

/-!
# Bracket patterns read in one pass

A bracket pattern is read in two passes: presentation tags are first rewritten as escaped text, and the
result is cut into tokens like any other pattern. The lexer here does it in one pass: it reads the
trimmed pattern from the left, and a presentation tag is literal text where it stands. Both refuse the
same patterns and give the same tokens, so no character is escaped twice or unescaped early, and no tag
is recognised in text that another tag was rewritten to.
-/

namespace Songbook.Brackets

open Pattern

/-! ## Presentation tags -/

/-- What may stand between the brackets of a presentation tag: a name, maybe with a slash before it,
and maybe attributes after it, which a blank starts. No closing bracket stands between them. -/
def IsTag (inner : List Char) : Prop :=
  ']' ∉ inner ∧ ∃ slash ∈ [[], ['/']], ∃ name ∈ tagNames, ∃ attributes,
    inner = slash ++ (name ++ attributes) ∧ ∀ c ∈ attributes.head?, Text.isBlank c = true

/-- Whether a character goes on with the name of a tag. -/
def isNameChar (c : Char) : Bool :=
  c != ']' && !Text.isBlank c

/-- A tag without a slash and what follows its closing bracket, with the text from its name on. -/
def namedTag? (text : List Char) : Option (List Char × List Char) :=
  let name := text.takeWhile isNameChar
  let rest := text.dropWhile isNameChar
  match rest.dropWhile (· != ']') with
  | [] => none
  | _ :: after =>
    if tagNames.contains name then some (name ++ rest.takeWhile (· != ']'), after) else none

/-- A tag and what follows its closing bracket, with the text after its opening bracket. -/
def tag? : List Char → Option (List Char × List Char)
  | '/' :: text => (namedTag? text).map fun (inner, after) => ('/' :: inner, after)
  | text => namedTag? text

section Tags

variable {text inner after : List Char}

/-- The names of tags hold no blank and do not start with a slash. -/
theorem chars_of_mem_tagNames {name : List Char} (hname : name ∈ tagNames) :
    (∀ c ∈ name, Text.isBlank c = false) ∧ ∃ c rest, name = c :: rest ∧ c ≠ '/' := by
  have hnames : (tagNames.all fun name => name.all fun c => !Text.isBlank c) = true := by
    decide +kernel
  have hstarts : (tagNames.all fun name => name.head?.any (· != '/')) = true := by decide +kernel
  refine ⟨by simpa using List.all_eq_true.mp hnames name hname, ?_⟩
  have hstart := List.all_eq_true.mp hstarts name hname
  cases name with
  | nil => cases hstart
  | cons c rest => exact ⟨c, rest, rfl, by simpa using hstart⟩

theorem closing_run (hinner : ']' ∉ inner) : ∀ c ∈ inner, (c != ']') = true := by
  intro c hc
  rw [bne_iff_ne]
  rintro rfl
  exact hinner hc

/-- What stands before the first blank is the name of a tag if the rest are its attributes. -/
theorem takeWhile_mem_tagNames_iff :
    inner.takeWhile (fun c => !Text.isBlank c) ∈ tagNames ↔
      ∃ name ∈ tagNames, ∃ attributes, inner = name ++ attributes ∧
        ∀ c ∈ attributes.head?, Text.isBlank c = true := by
  constructor
  · intro hname
    refine ⟨_, hname, inner.dropWhile fun c => !Text.isBlank c,
      List.takeWhile_append_dropWhile.symm, fun c hc => ?_⟩
    have hhead := List.head?_dropWhile_not (fun c => !Text.isBlank c) inner
    rw [Option.mem_def.mp hc] at hhead
    simpa using hhead
  · rintro ⟨name, hname, attributes, rfl, hblank⟩
    have hrun : ∀ c ∈ name, (!Text.isBlank c) = true := by
      simpa using (chars_of_mem_tagNames hname).1
    have hattributes : attributes.takeWhile (fun c => !Text.isBlank c) = [] := by
      cases attributes with
      | nil => rfl
      | cons c rest => simp [hblank c rfl]
    rwa [List.takeWhile_append_of_pos hrun, hattributes, List.append_nil]

/-- The rewriting recognises presentation tags. -/
theorem isPresentation_iff : isPresentation inner = true ↔
    ∃ slash ∈ [[], ['/']], ∃ name ∈ tagNames, ∃ attributes,
      inner = slash ++ (name ++ attributes) ∧ ∀ c ∈ attributes.head?, Text.isBlank c = true := by
  simp only [isPresentation, List.contains_iff_mem, takeWhile_mem_tagNames_iff]
  constructor
  · rintro ⟨name, hname, attributes, hinner, hblank⟩
    split at hinner
    next hslash =>
      obtain ⟨rest, rfl⟩ := List.head?_eq_some_iff.mp hslash
      exact ⟨['/'], by simp, name, hname, attributes, congrArg ('/' :: ·) hinner, hblank⟩
    next => exact ⟨[], by simp, name, hname, attributes, hinner, hblank⟩
  · rintro ⟨slash, hslash, name, hname, attributes, rfl, hblank⟩
    refine ⟨name, hname, attributes, ?_, hblank⟩
    simp only [List.mem_cons, List.not_mem_nil, or_false] at hslash
    obtain ⟨c, rest, rfl, hc⟩ := (chars_of_mem_tagNames hname).2
    rcases hslash with rfl | rfl
    · simp [hc]
    · simp

theorem presentation?_closed (hinner : ']' ∉ inner) (after : List Char) :
    presentation? (inner ++ ']' :: after) =
      if isPresentation inner then some (inner, after) else none := by
  have hrun := closing_run hinner
  simp [presentation?, List.takeWhile_append_of_pos hrun, List.dropWhile_append_of_pos hrun]

theorem presentation?_unclosed (htext : ']' ∉ text) : presentation? text = none := by
  have hrest := List.dropWhile_eq_nil_iff.mpr (closing_run htext)
  simp only [presentation?, hrest]

/-- The rewriting takes a bracket for a tag exactly if a tag stands there. -/
theorem presentation?_eq_some_iff :
    presentation? text = some (inner, after) ↔ IsTag inner ∧ text = inner ++ ']' :: after := by
  constructor
  · intro htag
    by_cases hclosing : ']' ∈ text
    · obtain ⟨front, rest, rfl, hfront⟩ := List.eq_append_cons_of_mem hclosing
      rw [presentation?_closed hfront] at htag
      split at htag
      next hpresentation =>
        cases htag
        exact ⟨⟨hfront, isPresentation_iff.mp hpresentation⟩, rfl⟩
      next => cases htag
    · rw [presentation?_unclosed hclosing] at htag
      cases htag
  · rintro ⟨⟨hinner, hgrammar⟩, rfl⟩
    rw [presentation?_closed hinner, if_pos (isPresentation_iff.mpr hgrammar)]

/-- Before the closing bracket, only a blank ends the name of a tag. -/
theorem name_run (hinner : ']' ∉ inner) (after : List Char) :
    (inner ++ ']' :: after).takeWhile isNameChar = inner.takeWhile (fun c => !Text.isBlank c) ∧
      (inner ++ ']' :: after).dropWhile isNameChar =
        inner.dropWhile (fun c => !Text.isBlank c) ++ ']' :: after := by
  induction inner with
  | nil => simp [isNameChar]
  | cons c rest ih =>
      rw [List.mem_cons, not_or] at hinner
      obtain ⟨htake, hdrop⟩ := ih hinner.2
      have hc : isNameChar c = !Text.isBlank c := by simp [isNameChar, Ne.symm hinner.1]
      rw [List.cons_append, List.takeWhile_cons, List.dropWhile_cons, List.takeWhile_cons,
        List.dropWhile_cons, hc, htake, hdrop]
      cases Text.isBlank c <;> simp

theorem namedTag?_closed (hinner : ']' ∉ inner) (after : List Char) :
    namedTag? (inner ++ ']' :: after) =
      if inner.takeWhile (fun c => !Text.isBlank c) ∈ tagNames then some (inner, after)
      else none := by
  obtain ⟨htake, hdrop⟩ := name_run hinner after
  have hattributes : ∀ c ∈ inner.dropWhile (fun c => !Text.isBlank c), (c != ']') = true :=
    fun c hc => closing_run hinner c ((List.dropWhile_sublist _).mem hc)
  simp only [namedTag?, htake, hdrop, List.dropWhile_append_of_pos hattributes,
    List.takeWhile_append_of_pos hattributes, List.contains_iff_mem]
  simp

theorem namedTag?_unclosed (htext : ']' ∉ text) : namedTag? text = none := by
  have hrest : (text.dropWhile isNameChar).dropWhile (· != ']') = [] :=
    List.dropWhile_eq_nil_iff.mpr fun c hc =>
      closing_run htext c ((List.dropWhile_sublist _).mem hc)
  simp only [namedTag?, hrest]

theorem namedTag?_eq_some_iff :
    namedTag? text = some (inner, after) ↔
      ']' ∉ inner ∧ (∃ name ∈ tagNames, ∃ attributes, inner = name ++ attributes ∧
        ∀ c ∈ attributes.head?, Text.isBlank c = true) ∧ text = inner ++ ']' :: after := by
  rw [← takeWhile_mem_tagNames_iff]
  constructor
  · intro htag
    by_cases hclosing : ']' ∈ text
    · obtain ⟨front, rest, rfl, hfront⟩ := List.eq_append_cons_of_mem hclosing
      rw [namedTag?_closed hfront] at htag
      split at htag
      next hname =>
        cases htag
        exact ⟨hfront, hname, rfl⟩
      next => cases htag
    · rw [namedTag?_unclosed hclosing] at htag
      cases htag
  · rintro ⟨hinner, hname, rfl⟩
    rw [namedTag?_closed hinner, if_pos hname]

/-- The scan from the left finds a tag exactly if one stands there. -/
theorem tag?_eq_some_iff :
    tag? text = some (inner, after) ↔ IsTag inner ∧ text = inner ++ ']' :: after := by
  constructor
  · intro htag
    unfold tag? at htag
    split at htag
    next rest =>
      obtain ⟨⟨named, last⟩, hread, heq⟩ := Option.map_eq_some_iff.mp htag
      cases heq
      obtain ⟨hnamed, ⟨name, hname, attributes, rfl, hblank⟩, rfl⟩ := namedTag?_eq_some_iff.mp hread
      refine ⟨⟨?_, ['/'], by simp, name, hname, attributes, rfl, hblank⟩, rfl⟩
      rw [List.mem_cons, not_or]
      exact ⟨by decide, hnamed⟩
    next =>
      obtain ⟨hinner, ⟨name, hname, attributes, rfl, hblank⟩, rfl⟩ := namedTag?_eq_some_iff.mp htag
      exact ⟨⟨hinner, [], by simp, name, hname, attributes, rfl, hblank⟩, rfl⟩
  · rintro ⟨⟨hinner, slash, hslash, name, hname, attributes, rfl, hblank⟩, rfl⟩
    have hnamed : namedTag? ((name ++ attributes) ++ ']' :: after) =
        some (name ++ attributes, after) :=
      namedTag?_eq_some_iff.mpr ⟨fun hmem => hinner (List.mem_append_right _ hmem),
        ⟨name, hname, attributes, rfl, hblank⟩, rfl⟩
    simp only [List.mem_cons, List.not_mem_nil, or_false] at hslash
    rcases hslash with rfl | rfl
    · obtain ⟨c, rest, rfl, hc⟩ := (chars_of_mem_tagNames hname).2
      rw [List.nil_append, ← hnamed]
      exact tag?.eq_2 _ fun _ heq => hc (List.cons.inj heq).1
    · rw [List.append_assoc, List.singleton_append, tag?, hnamed]
      rfl

theorem presentation?_eq_tag? (text : List Char) : presentation? text = tag? text := by
  apply Option.ext
  rintro ⟨inner, after⟩
  rw [presentation?_eq_some_iff, tag?_eq_some_iff]

end Tags

/-! ## Tokens in one pass -/

/-- Tokens with the literal text before them, if there is any. -/
def withText (literal : List Char) (tokens : List Token) : List Token :=
  if literal = [] then tokens else .text literal :: tokens

theorem length_of_tag? {text inner after : List Char} (htag : tag? text = some (inner, after)) :
    after.length < text.length := by
  obtain ⟨-, rfl⟩ := tag?_eq_some_iff.mp htag
  simp only [List.length_append, List.length_cons]
  omega

/-- The token of a character that delimits tag expressions. -/
def delimiter? (c : Char) : Option Token :=
  if c = '<' then some .opening
  else if c = '>' then some .closing
  else if c = '|' then some .bar
  else none

/-- The tokens of a bracket pattern from some place on, after the literal characters that were read
before it. A tag is literal text that goes on with what was read. -/
def tokensFrom (literal : List Char) : List Char → Option (List Token)
  | [] => some (withText literal [.endOfPattern])
  | ['\\'] => none
  | '\\' :: c :: rest => tokensFrom (literal ++ [c]) rest
  | '[' :: rest =>
    match _htag : tag? rest with
    | some (inner, after) => tokensFrom (literal ++ '<' :: (inner ++ ['>'])) after
    | none => tokensFrom (literal ++ ['[']) rest
  | c :: rest =>
    match delimiter? c with
    | some token => (tokensFrom [] rest).map fun tokens => withText literal (token :: tokens)
    | none => tokensFrom (literal ++ [c]) rest
termination_by text => text.length
decreasing_by
  all_goals simp only [List.length_cons]
  all_goals first
    | omega
    | exact Nat.lt_succ_of_lt (length_of_tag? ‹_›)

/-- The tokens of a bracket pattern, unless it ends in a lone backslash. -/
def tokens? (source : String) : Option (List Token) :=
  tokensFrom [] (Text.trim source.toList)

/-! ## Rewriting -/

section Rewriting

variable {text rest inner blanks : List Char} {c : Char}

theorem toPattern_lone : toPattern ['\\'] = ['\\'] := by
  simp [toPattern]

theorem toPattern_escaped (c : Char) (rest : List Char) :
    toPattern ('\\' :: c :: rest) =
      (if c = '[' then ['['] else ['\\', c]) ++ toPattern rest := by
  split
  next hbracket => rw [hbracket, toPattern, List.singleton_append]
  next hbracket => exact toPattern.eq_3 c rest hbracket

theorem glyphs?_toPattern_escaped (c : Char) (rest : List Char) :
    glyphs? (toPattern ('\\' :: c :: rest)) = (glyphs? (toPattern rest)).map (.literal c :: ·) := by
  rw [toPattern_escaped]
  split
  next hbracket => rw [hbracket]; exact glyphs?_cons (by decide) _
  next => exact glyphs?_backslash c _

theorem toPattern_tag (htag : IsTag inner) (after : List Char) :
    toPattern ('[' :: (inner ++ ']' :: after)) =
      escape ('<' :: (inner ++ ['>'])) ++ toPattern after := by
  have hpresentation : presentation? (inner ++ ']' :: after) = some (inner, after) :=
    presentation?_eq_some_iff.mpr ⟨htag, rfl⟩
  rw [toPattern, hpresentation]

theorem toPattern_bracket (hnone : presentation? rest = none) :
    toPattern ('[' :: rest) = '[' :: toPattern rest := by
  rw [toPattern, hnone]

theorem toPattern_plain (hbackslash : c ≠ '\\') (hbracket : c ≠ '[') (rest : List Char) :
    toPattern (c :: rest) = c :: toPattern rest :=
  toPattern.eq_5 c rest (fun _ heq => absurd heq hbackslash) (fun _ _ heq => absurd heq hbackslash)
    hbracket

/-- Induction along a bracket pattern: an escape, a tag or a single character leads to the rest. -/
@[elab_as_elim]
theorem pattern_induction {motive : List Char → Prop} (nil : motive []) (lone : motive ['\\'])
    (escaped : ∀ c rest, motive rest → motive ('\\' :: c :: rest))
    (tag : ∀ inner after, IsTag inner → motive after → motive ('[' :: (inner ++ ']' :: after)))
    (bracket : ∀ rest, presentation? rest = none → motive rest → motive ('[' :: rest))
    (plain : ∀ c rest, c ≠ '\\' → c ≠ '[' → motive rest → motive (c :: rest))
    (text : List Char) : motive text := by
  induction text using toPattern.induct with
  | case1 => exact nil
  | case2 rest ih => exact escaped '[' rest ih
  | case3 c rest hbracket ih => exact escaped c rest ih
  | case4 rest inner after hpresentation ih =>
      obtain ⟨htag, rfl⟩ := presentation?_eq_some_iff.mp hpresentation
      exact tag inner after htag ih
  | case5 rest hnone ih => exact bracket rest hnone ih
  | case6 c rest hopening hescape hbracket ih =>
      by_cases hbackslash : c = '\\'
      · cases rest with
        | nil =>
            rw [hbackslash]
            exact lone
        | cons next rest => exact absurd rfl (hescape next rest hbackslash)
      · exact plain c rest hbackslash hbracket ih

/-! ## Blanks around a pattern -/

theorem ne_of_isBlank {d : Char} (hblank : Text.isBlank c = true) (hd : Text.isBlank d = false) :
    c ≠ d := by
  rintro rfl
  rw [hblank] at hd
  cases hd

theorem toPattern_blanks_append (hblanks : ∀ c ∈ blanks, Text.isBlank c = true) (text : List Char) :
    toPattern (blanks ++ text) = blanks ++ toPattern text := by
  induction blanks with
  | nil => rfl
  | cons c blanks ih =>
      obtain ⟨hc, hrest⟩ := List.forall_mem_cons.mp hblanks
      rw [List.cons_append, toPattern_plain (ne_of_isBlank hc (by decide))
        (ne_of_isBlank hc (by decide)), ih hrest, List.cons_append]

/-- Only a closing bracket can make a tag of what is none. -/
theorem presentation?_append_eq_none_iff (hrest : ']' ∉ rest) :
    presentation? (text ++ rest) = none ↔ presentation? text = none := by
  by_cases hclosing : ']' ∈ text
  · obtain ⟨front, after, rfl, hfront⟩ := List.eq_append_cons_of_mem hclosing
    rw [List.append_assoc, List.cons_append, presentation?_closed hfront,
      presentation?_closed hfront]
    split <;> simp
  · have hwhole : ']' ∉ text ++ rest := by
      rw [List.mem_append, not_or]
      exact ⟨hclosing, hrest⟩
    rw [presentation?_unclosed hclosing, presentation?_unclosed hwhole]

/-- Blanks behind a pattern stay behind what it is rewritten to. -/
theorem toPattern_append_blanks (hblanks : ∀ c ∈ blanks, Text.isBlank c = true)
    (text : List Char) : toPattern (text ++ blanks) = toPattern text ++ blanks := by
  have halone : toPattern blanks = blanks := by
    have hempty := toPattern_blanks_append hblanks []
    rwa [List.append_nil, toPattern, List.append_nil] at hempty
  induction text using pattern_induction with
  | nil => rwa [toPattern, List.nil_append]
  | lone =>
      -- a blank behind a lone backslash is escaped by it, and trimmed before it is read
      rw [toPattern_lone]
      cases blanks with
      | nil => exact toPattern_lone
      | cons c blanks =>
          obtain ⟨hc, hrest⟩ := List.forall_mem_cons.mp hblanks
          rw [toPattern_plain (ne_of_isBlank hc (by decide)) (ne_of_isBlank hc (by decide))] at halone
          rw [List.singleton_append, toPattern_escaped, if_neg (ne_of_isBlank hc (by decide)),
            (List.cons.inj halone).2]
          rfl
  | escaped c rest ih =>
      rw [List.cons_append, List.cons_append, toPattern_escaped, toPattern_escaped, ih,
        List.append_assoc]
  | tag inner after htag ih =>
      rw [List.cons_append, List.append_assoc, List.cons_append, toPattern_tag htag,
        toPattern_tag htag, ih, List.append_assoc]
  | bracket rest hnone ih =>
      have hclosing : ']' ∉ blanks := fun hmem => ne_of_isBlank (hblanks _ hmem) (by decide) rfl
      rw [List.cons_append,
        toPattern_bracket ((presentation?_append_eq_none_iff hclosing).mpr hnone), ih,
        toPattern_bracket hnone, List.cons_append]
  | plain c rest hbackslash hbracket ih =>
      rw [List.cons_append, toPattern_plain hbackslash hbracket, ih,
        toPattern_plain hbackslash hbracket, List.cons_append]

/-- What a pattern is rewritten to starts with a blank only if the pattern does. -/
theorem isBlank_head?_toPattern (text : List Char) :
    (toPattern text).head?.map Text.isBlank = text.head?.map Text.isBlank := by
  cases text using pattern_induction with
  | nil => rw [toPattern]
  | lone => rw [toPattern_lone]
  | escaped c rest =>
      rw [toPattern_escaped]
      split <;> rfl
  | tag inner after htag =>
      rw [toPattern_tag htag]
      rfl
  | bracket rest hnone => rw [toPattern_bracket hnone]; rfl
  | plain c rest hbackslash hbracket => rw [toPattern_plain hbackslash hbracket]; rfl

theorem isBlank_getLast?_append (front rest : List Char) :
    (front ++ rest).getLast?.map Text.isBlank =
      (rest.getLast?.map Text.isBlank).or (front.getLast?.map Text.isBlank) := by
  rw [List.getLast?_append, Option.map_or]

/-- What a pattern is rewritten to ends with a blank only if the pattern does. -/
theorem isBlank_getLast?_toPattern (text : List Char) :
    (toPattern text).getLast?.map Text.isBlank = text.getLast?.map Text.isBlank := by
  induction text using pattern_induction with
  | nil => rw [toPattern]
  | lone => rw [toPattern_lone]
  | escaped c rest ih =>
      have hlast : (if c = '[' then ['['] else ['\\', c]).getLast? = ['\\', c].getLast? := by
        split
        next hbracket => rw [hbracket]; rfl
        next => rfl
      have hfront : '\\' :: c :: rest = ['\\', c] ++ rest := rfl
      rw [toPattern_escaped, hfront, isBlank_getLast?_append, isBlank_getLast?_append, ih, hlast]
  | tag inner after htag ih =>
      have hlast : (escape ('<' :: (inner ++ ['>']))).getLast? = some '>' := by
        have hclosing : escapeChar '>' = ['\\', '>'] := by decide
        simp [escape, hclosing]
      have hfront : '[' :: (inner ++ ']' :: after) = ('[' :: inner ++ [']']) ++ after := by simp
      rw [toPattern_tag htag, hfront, isBlank_getLast?_append, isBlank_getLast?_append, ih, hlast,
        List.getLast?_concat]
      rfl
  | bracket rest hnone ih =>
      rw [toPattern_bracket hnone, ← List.singleton_append, isBlank_getLast?_append, ih,
        ← isBlank_getLast?_append, List.singleton_append]
  | plain c rest hbackslash hbracket ih =>
      rw [toPattern_plain hbackslash hbracket, ← List.singleton_append, isBlank_getLast?_append, ih,
        ← isBlank_getLast?_append, List.singleton_append]

/-- Trimming a pattern and rewriting it can be done in either order. -/
theorem trim_toPattern (text : List Char) :
    Text.trim (toPattern text) = toPattern (Text.trim text) := by
  obtain ⟨before, after, htext, hbefore, hafter, hstart, hend⟩ := Text.exists_blanks_around text
  have hpattern : toPattern text = before ++ (toPattern (Text.trim text) ++ after) := by
    rw [← toPattern_append_blanks hafter, ← toPattern_blanks_append hbefore, ← htext]
  have hunblank : ∀ {first second : Option Char}, first.map Text.isBlank = second.map Text.isBlank →
      (∀ c ∈ second, Text.isBlank c = false) → ∀ c ∈ first, Text.isBlank c = false := by
    intro first second hmap hsecond c hc
    rw [Option.mem_def.mp hc, Option.map_some, eq_comm, Option.map_eq_some_iff] at hmap
    obtain ⟨d, hd, hsame⟩ := hmap
    rw [← hsame]
    exact hsecond d hd
  rw [hpattern, Text.trim_append_of_blank hbefore, Text.trim_append_blanks hafter, Text.trim,
    Text.trimStart_of_unblank (hunblank (isBlank_head?_toPattern _) hstart),
    Text.trimEnd_of_unblank (hunblank (isBlank_getLast?_toPattern _) hend)]

end Rewriting

/-! ## Both passes at once -/

theorem tokensOfGlyphs_after (literal : List Char) {rest : List Glyph}
    (hrest : ∀ text more, tokensOfGlyphs rest ≠ .text text :: more) :
    tokensOfGlyphs (literal.map .literal ++ rest) = withText literal (tokensOfGlyphs rest) := by
  unfold withText
  split
  next hnil => rw [hnil]; rfl
  next hliteral => exact tokensOfGlyphs_literal hliteral hrest

theorem tokensFrom_plain {c : Char} (hbackslash : c ≠ '\\') (hbracket : c ≠ '[')
    (literal rest : List Char) :
    tokensFrom literal (c :: rest) =
      match delimiter? c with
      | some token => (tokensFrom [] rest).map fun tokens => withText literal (token :: tokens)
      | none => tokensFrom (literal ++ [c]) rest := by
  rw [tokensFrom]
  · exact fun heq => absurd heq hbackslash
  · exact fun _ _ heq => absurd heq hbackslash
  · exact hbracket

theorem glyph_of_literal {c : Char} (hnone : delimiter? c = none) :
    Glyph.ofChar c = .literal c := by
  unfold delimiter? at hnone
  unfold Glyph.ofChar
  split_ifs at hnone ⊢
  rfl

/-- A delimiter ends the literal text before it. -/
theorem tokensOfGlyphs_delimiter (literal : List Char) {c : Char} {token : Token}
    (htoken : delimiter? c = some token) (rest : List Glyph) :
    tokensOfGlyphs (literal.map .literal ++ Glyph.ofChar c :: rest) =
      withText literal (token :: tokensOfGlyphs rest) := by
  have hglyph : tokensOfGlyphs (Glyph.ofChar c :: rest) = token :: tokensOfGlyphs rest ∧
      ∀ text, token ≠ .text text := by
    unfold delimiter? at htoken
    unfold Glyph.ofChar
    split_ifs at htoken ⊢ <;> cases htoken <;> simp [tokensOfGlyphs]
  obtain ⟨htokens, htext⟩ := hglyph
  rw [← htokens]
  apply tokensOfGlyphs_after
  rw [htokens]
  intro text more heq
  exact htext text (List.cons.inj heq).1

/-- Reading on after some literal characters gives the tokens of these and of what the rest is
rewritten to. -/
theorem tokensFrom_eq (literal text : List Char) :
    tokensFrom literal text = (glyphs? (toPattern text)).map fun glyphs =>
      tokensOfGlyphs (literal.map .literal ++ glyphs) := by
  induction text using pattern_induction generalizing literal with
  | nil =>
      have hend : ∀ text more, tokensOfGlyphs [] ≠ .text text :: more := by simp [tokensOfGlyphs]
      rw [tokensFrom, toPattern, glyphs?, Option.map_some, tokensOfGlyphs_after literal hend,
        tokensOfGlyphs]
  | lone => rw [tokensFrom, toPattern_lone, glyphs?, Option.map_none]
  | escaped c rest ih =>
      rw [tokensFrom, ih, glyphs?_toPattern_escaped, Option.map_map]
      simp [Function.comp_def]
  | tag inner after htag ih =>
      have hread : tag? (inner ++ ']' :: after) = some (inner, after) :=
        tag?_eq_some_iff.mpr ⟨htag, rfl⟩
      rw [tokensFrom, hread, toPattern_tag htag, glyphs?_escape, Option.map_map]
      simp only [ih]
      simp [Function.comp_def]
  | bracket rest hnone ih =>
      rw [presentation?_eq_tag?] at hnone
      rw [tokensFrom, hnone, toPattern_bracket (by rwa [presentation?_eq_tag?]),
        glyphs?_cons (by decide), Option.map_map]
      simp only [ih]
      simp [Function.comp_def, Glyph.ofChar]
  | plain c rest hbackslash hbracket ih =>
      rw [toPattern_plain hbackslash hbracket, glyphs?_cons hbackslash, Option.map_map,
        tokensFrom_plain hbackslash hbracket]
      cases hdelimiter : delimiter? c with
      | none =>
          simp only [ih, glyph_of_literal hdelimiter]
          simp [Function.comp_def]
      | some token =>
          simp only [ih, Option.map_map]
          congr 1
          funext glyphs
          exact (tokensOfGlyphs_delimiter literal hdelimiter glyphs).symm

theorem toOption_tokenize (source : String) :
    (tokenize source).toOption = (glyphs? (Text.trim source.toList)).map tokensOfGlyphs := by
  unfold tokenize Text.trim
  dsimp only
  split
  next glyphs hglyphs => rw [hglyphs]; rfl
  next hglyphs => rw [hglyphs]; rfl

/-- Rewriting the presentation tags of a bracket pattern and cutting the result into tokens gives what
reading the trimmed pattern in one pass gives: the same tokens, or none at all for the same patterns. -/
theorem tokenize_preprocess_eq_tokens? (source : String) :
    (tokenize (Dialect.bracketMarkup.preprocess source)).toOption = tokens? source := by
  rw [toOption_tokenize, tokens?, tokensFrom_eq, ← trim_toPattern, Dialect.preprocess,
    String.toList_ofList]
  rfl

/-- A bar in a tag and an escaped bracket are text. -/
example : tokens? " [b x|y]\\[i]<a " =
    some [.text "<b x|y>[i]".toList, .opening, .text ['a'], .endOfPattern] := by
  cbv

end Songbook.Brackets
