import Songbook.Proofs.Formatter.Combinations

/-!
# Markup output

In markup every value is escaped, and literal text is not. A pattern whose literals hold none of
the escaped characters therefore shows markup that no value can break: it has no bracket and no
quote, and every `&` starts an entity. Reading the entities back gives what the pattern shows as
plain text, for the text of a record and for the set of all its texts.
-/

namespace Songbook

namespace Markup

/-! ## Entities -/

/-- The characters that are written as entities. -/
def specials : List Char :=
  ['&', '<', '>', '"', '\'']

/-- A text with its entities read back, in one pass from the left. An `&` that starts no entity
stays as it is. -/
def unescape : List Char → List Char
  | '&' :: 'a' :: 'm' :: 'p' :: ';' :: rest => '&' :: unescape rest
  | '&' :: 'l' :: 't' :: ';' :: rest => '<' :: unescape rest
  | '&' :: 'g' :: 't' :: ';' :: rest => '>' :: unescape rest
  | '&' :: 'q' :: 'u' :: 'o' :: 't' :: ';' :: rest => '"' :: unescape rest
  | '&' :: '#' :: '3' :: '9' :: ';' :: rest => '\'' :: unescape rest
  | c :: rest => c :: unescape rest
  | [] => []

/-- A text that markup shows as it is, but for its entities. -/
structure IsEscaped (text : List Char) : Prop where
  unmarked : ∀ c ∈ ['<', '>', '"', '\''], c ∉ text
  entity : ∀ rest, '&' :: rest <:+ text → ∃ c ∈ specials, escapeChar c <+: '&' :: rest

theorem unescape_cons {c : Char} (hc : c ≠ '&') (rest : List Char) :
    unescape (c :: rest) = c :: unescape rest := by
  rw [unescape]
  all_goals
    intro _ heq
    exact absurd heq hc

theorem escapeChar_of_not_special {c : Char} (hc : c ∉ specials) : escapeChar c = [c] := by
  simp only [specials, List.mem_cons, List.not_mem_nil, or_false, not_or] at hc
  simp [escapeChar, hc]

/-- An entity is an `&` and characters that need no escape. -/
theorem escapeChar_of_special {c : Char} (hc : c ∈ specials) :
    ∃ tail, escapeChar c = '&' :: tail ∧ (∀ d ∈ tail, d ∉ specials) ∧
      ∀ rest, unescape ('&' :: (tail ++ rest)) = c :: unescape rest := by
  simp only [specials, List.mem_cons, List.not_mem_nil, or_false] at hc
  rcases hc with rfl | rfl | rfl | rfl | rfl
  · exact ⟨"amp;".toList, rfl, by simp [specials], fun _ => rfl⟩
  · exact ⟨"lt;".toList, rfl, by simp [specials], fun _ => rfl⟩
  · exact ⟨"gt;".toList, rfl, by simp [specials], fun _ => rfl⟩
  · exact ⟨"quot;".toList, rfl, by simp [specials], fun _ => rfl⟩
  · exact ⟨"#39;".toList, rfl, by simp [specials], fun _ => rfl⟩

theorem unescape_escapeChar_append (c : Char) (rest : List Char) :
    unescape (escapeChar c ++ rest) = c :: unescape rest := by
  by_cases hc : c ∈ specials
  · obtain ⟨tail, htail, _, hread⟩ := escapeChar_of_special hc
    rw [htail]
    exact hread rest
  · rw [escapeChar_of_not_special hc]
    refine unescape_cons ?_ rest
    rintro rfl
    exact hc (by decide)

/-- Escaping is undone by reading the entities back. -/
theorem unescape_escape (text : List Char) : unescape (escape text) = text := by
  induction text with
  | nil => rfl
  | cons c rest ih =>
      rw [escape, List.flatMap_cons, unescape_escapeChar_append]
      exact congrArg (c :: ·) ih

theorem suffix_of_suffix_append {c : Char} {front rest after : List Char} (hc : c ∉ front)
    (hsuffix : c :: after <:+ front ++ rest) : c :: after <:+ rest := by
  induction front with
  | nil => exact hsuffix
  | cons first front ih =>
      rw [List.mem_cons, not_or] at hc
      rcases List.suffix_cons_iff.mp hsuffix with heq | hsuffix
      · exact absurd (List.cons.inj heq).1 hc.1
      · exact ih hc.2 hsuffix

theorem IsEscaped.append {rest : List Char} (hrest : IsEscaped rest) (c : Char) :
    IsEscaped (escapeChar c ++ rest) := by
  by_cases hc : c ∈ specials
  · obtain ⟨tail, htail, hplain, _⟩ := escapeChar_of_special hc
    have hinner : ∀ d ∈ specials, d ∉ tail := fun d hd hmem => hplain d hmem hd
    constructor
    · intro d hd
      have hspecial : d ∈ specials := List.mem_cons_of_mem _ hd
      have hne : d ≠ '&' := by
        rintro rfl
        exact absurd hd (by decide)
      rw [htail, List.cons_append, List.mem_cons, List.mem_append, not_or, not_or]
      exact ⟨hne, hinner d hspecial, hrest.unmarked d hd⟩
    · intro after hsuffix
      rw [htail, List.cons_append] at hsuffix
      rcases List.suffix_cons_iff.mp hsuffix with heq | hsuffix
      · refine ⟨c, hc, ?_⟩
        rw [heq, htail]
        exact List.prefix_append _ _
      · exact hrest.entity after (suffix_of_suffix_append (hinner '&' (by decide)) hsuffix)
  · rw [escapeChar_of_not_special hc]
    constructor
    · intro d hd
      rw [List.singleton_append, List.mem_cons, not_or]
      refine ⟨?_, hrest.unmarked d hd⟩
      rintro rfl
      exact hc (List.mem_cons_of_mem _ hd)
    · intro after hsuffix
      have hne : '&' ∉ [c] := by
        rw [List.mem_singleton]
        rintro rfl
        exact hc (by decide)
      exact hrest.entity after (suffix_of_suffix_append hne hsuffix)

theorem isEscaped_escape (text : List Char) : IsEscaped (escape text) := by
  induction text with
  | nil => exact ⟨by simp [escape], by simp [escape]⟩
  | cons c rest ih =>
      rw [escape, List.flatMap_cons]
      exact IsEscaped.append ih c

theorem escape_of_plain {text : List Char} (hplain : ∀ c ∈ text, c ∉ specials) :
    escape text = text := by
  induction text with
  | nil => rfl
  | cons c rest ih =>
      rw [List.forall_mem_cons] at hplain
      rw [escape, List.flatMap_cons, escapeChar_of_not_special hplain.1]
      exact congrArg (c :: ·) (ih hplain.2)

/-- A string as markup text. -/
def escaped (text : String) : String :=
  String.ofList (escape text.toList)

/-- A string with its entities read back. -/
def unescaped (text : String) : String :=
  String.ofList (unescape text.toList)

theorem escaped_append (first second : String) :
    escaped (first ++ second) = escaped first ++ escaped second := by
  simp [escaped, escape]

theorem escaped_join (texts : List String) :
    escaped (String.join texts) = String.join (texts.map escaped) := by
  induction texts with
  | nil => rfl
  | cons text rest ih => rw [String.join_cons, escaped_append, ih, List.map_cons, String.join_cons]

theorem unescaped_escaped (text : String) : unescaped (escaped text) = text := by
  simp [unescaped, escaped, unescape_escape]

theorem escaped_of_plain {text : String} (hplain : ∀ c ∈ text.toList, c ∉ specials) :
    escaped text = text := by
  rw [escaped, escape_of_plain hplain, String.ofList_toList]

theorem isEscaped_escaped (text : String) : IsEscaped (escaped text).toList := by
  rw [escaped, String.toList_ofList]
  exact isEscaped_escape text.toList

end Markup

namespace Pattern

/-! ## Literals -/

mutual

/-- The literals of a sequence, those of all branches among them. -/
def literalsOfAll : List Node → List String
  | [] => []
  | node :: rest => literalsOfNode node ++ literalsOfAll rest

/-- The literals of a branch that may be missing. -/
def literalsOfBranch : Option (List Node) → List String
  | none => []
  | some nodes => literalsOfAll nodes

/-- The literals of a node. -/
def literalsOfNode : Node → List String
  | .literal text => [text]
  | .tag _ => []
  | .conditional _ yes no => literalsOfAll yes ++ literalsOfBranch no

end

theorem literalsOfBranch_eq (no : Option (List Node)) :
    literalsOfBranch no = literalsOfAll (no.getD []) := by
  cases no <;> rfl

/-- A literal that is shown is a literal of the tree. -/
theorem mem_literalsOfAll {V : Type} {view : View V} {queries : String → Option Predicate}
    {text : String} {nodes : List Node}
    (hmem : .literal text ∈ evaluateAll view queries nodes) : text ∈ literalsOfAll nodes := by
  induction nodes using sequence_induction with
  | nil => cases hmem
  | literal first rest ih =>
      rcases List.mem_cons.mp hmem with heq | hmem
      · cases heq
        exact List.mem_cons_self
      · exact List.mem_cons_of_mem _ (ih hmem)
  | tag name rest ih =>
      rcases List.mem_cons.mp hmem with heq | hmem
      · cases heq
      · exact ih hmem
  | conditional name yes no rest ihyes ihno ihrest =>
      rw [evaluateAll, evaluateNode, evaluateBranch_eq, List.mem_append] at hmem
      rw [literalsOfAll, literalsOfNode, literalsOfBranch_eq]
      rcases hmem with hmem | hmem
      · refine List.mem_append_left _ (List.mem_append.mpr ?_)
        split at hmem
        · exact Or.inl (ihyes hmem)
        · exact Or.inr (ihno hmem)
      · exact List.mem_append_right _ (ihrest hmem)

end Pattern

namespace Formatter

open Pattern

/-! ## Pieces -/

/-- A piece whose literal text, if it is one, needs no escape. -/
def IsPlainPiece {V : Type} (piece : Piece V) : Prop :=
  ∀ text, piece = .literal text → ∀ c ∈ text.toList, c ∉ Markup.specials

theorem pieceText_markup {piece : Piece String} (hplain : IsPlainPiece piece) :
    pieceText .markup piece = Markup.escaped (pieceText .plain piece) := by
  cases piece with
  | literal text => exact (Markup.escaped_of_plain (hplain text rfl)).symm
  | value name content => rfl

theorem pieceChoices_markup {piece : Piece (List String)} (hplain : IsPlainPiece piece) :
    pieceChoices .markup piece = (pieceChoices .plain piece).map Markup.escaped := by
  cases piece with
  | literal text =>
      exact congrArg List.singleton (Markup.escaped_of_plain (hplain text rfl)).symm
  | value name contents =>
      cases contents with
      | nil => rfl
      | cons first rest =>
          rw [pieceChoices, pieceChoices, List.map_map]
          · rfl
          · simp
          · simp

/-- Combinations are built alike from texts and from what a map that respects joining makes of
them. -/
theorem foldl_extendAll_map {f : String → String}
    (happend : ∀ first second, f (first ++ second) = f first ++ f second)
    (choices : List (List String)) (texts : List String) :
    (choices.map (List.map f)).foldl extendAll (texts.map f) =
      (choices.foldl extendAll texts).map f := by
  induction choices generalizing texts with
  | nil => rfl
  | cons next choices ih =>
      have hextend : extendAll (texts.map f) (next.map f) = (extendAll texts next).map f := by
        simp [extendAll, List.flatMap_map, List.map_flatMap, happend, Function.comp_def]
      rw [List.map_cons, List.foldl_cons, List.foldl_cons, hextend, ih]

theorem combinations_markup {pieces : List (Piece (List String))}
    (hplain : ∀ piece ∈ pieces, IsPlainPiece piece) :
    combinations .markup pieces = (combinations .plain pieces).map Markup.escaped := by
  have hchoices : pieces.map (pieceChoices .markup) =
      (pieces.map (pieceChoices .plain)).map (List.map Markup.escaped) := by
    rw [List.map_map]
    exact List.map_congr_left fun piece hmem => pieceChoices_markup (hplain piece hmem)
  rw [combinations, combinations, hchoices, ← foldl_extendAll_map Markup.escaped_append]
  rfl

theorem join_markup {pieces : List (Piece String)} (hplain : ∀ piece ∈ pieces, IsPlainPiece piece) :
    String.join (pieces.map (pieceText .markup)) =
      Markup.escaped (String.join (pieces.map (pieceText .plain))) := by
  rw [Markup.escaped_join, List.map_map]
  congr 1
  exact List.map_congr_left fun piece hmem => pieceText_markup (hplain piece hmem)

/-! ## Formatters -/

section Library

variable [RegexLibrary]

/-- Only paths are finished: in any other dialect the texts are the combinations themselves. -/
theorem mem_formatAll_of_not_path {source : String} {dialect : Dialect} {settings : Path.Settings}
    {now : Binary64} {nodes : List Node} {record : Record} {text : String}
    (hdialect : dialect ≠ .path) :
    text ∈ (ofTree source dialect settings now nodes).formatAll record ↔
      text ∈ combinations dialect (evaluateAll (.values record) (queryOf? now) nodes) := by
  have hfinish : (ofTree source dialect settings now nodes).finish record = id := by
    funext output
    unfold finish
    split
    next hpath => exact absurd hpath hdialect
    next => rfl
  rw [formatAll, mem_sortedSet, pieces_ofTree, hfinish, List.map_id]
  rfl

/-- Markup whose literals need no escape is safe: no value adds a bracket or a quote to it, and each
`&` starts an entity. Reading the entities back gives the plain text, and does so for the set of all
texts, which it takes onto the set of plain ones. -/
theorem format_markup_unescaped {source : String} {nodes : List Node}
    (hparse : Pattern.parse source = .ok nodes)
    (hliterals : ∀ literal ∈ literalsOfAll nodes, ∀ c ∈ literal.toList, c ∉ Markup.specials)
    (settings : Path.Settings) (now : Binary64) :
    ∃ markup plain, compile source .markup settings now = .ok markup ∧
      compile source .plain settings now = .ok plain ∧ ∀ record,
        Markup.IsEscaped (markup.format record).toList ∧
        Markup.unescaped (markup.format record) = plain.format record ∧
        (∀ shown ∈ markup.formatAll record, Markup.IsEscaped shown.toList) ∧
        ∀ text, text ∈ plain.formatAll record ↔
          ∃ shown ∈ markup.formatAll record, Markup.unescaped shown = text := by
  have hplain : ∀ (V : Type) (view : View V),
      ∀ piece ∈ evaluateAll view (queryOf? now) nodes, IsPlainPiece piece := by
    rintro V view _ hmem text rfl
    exact hliterals text (mem_literalsOfAll hmem)
  refine ⟨_, _, compile_of_parse settings now (by decide) hparse,
    compile_of_parse settings now (by decide) hparse, fun record => ?_⟩
  have hformat : (ofTree source .markup settings now nodes).format record =
      Markup.escaped ((ofTree source .plain settings now nodes).format record) := by
    simp only [Formatter.format, rawOutput, pieces_ofTree]
    exact join_markup (hplain String _)
  have hmem : ∀ shown, shown ∈ (ofTree source .markup settings now nodes).formatAll record ↔
      ∃ text ∈ (ofTree source .plain settings now nodes).formatAll record,
        Markup.escaped text = shown := by
    intro shown
    rw [mem_formatAll_of_not_path (by decide), combinations_markup (hplain _ _), List.mem_map]
    simp only [mem_formatAll_of_not_path (by decide : Dialect.plain ≠ .path)]
  refine ⟨?_, ?_, ?_, ?_⟩
  · rw [hformat]
    exact Markup.isEscaped_escaped _
  · rw [hformat, Markup.unescaped_escaped]
  · intro shown hshown
    obtain ⟨text, _, rfl⟩ := (hmem shown).mp hshown
    exact Markup.isEscaped_escaped text
  · intro text
    constructor
    · intro htext
      exact ⟨_, (hmem _).mpr ⟨text, htext, rfl⟩, Markup.unescaped_escaped text⟩
    · rintro ⟨shown, hshown, rfl⟩
      obtain ⟨text, htext, rfl⟩ := (hmem shown).mp hshown
      rwa [Markup.unescaped_escaped]

end Library

/-- A record of an artist whose name ends like the start of an entity, and of one in brackets. -/
def ampersand : Record where
  get? _ := none
  comma name := if name = "artist" then "A&" else ""
  list name := if name = "artist" then ["A&", "<b>"] else []
  numeric? _ := none

/-- A value and the literal after it do not join to an entity. -/
theorem format_markup_ampersand :
    ∃ markup plain, Pattern.parse "<artist>amp;" = .ok [.tag "artist", .literal "amp;"] ∧
      compile "<artist>amp;" .markup ⟨255, none⟩ 0 = .ok markup ∧
      compile "<artist>amp;" .plain ⟨255, none⟩ 0 = .ok plain ∧
      markup.format ampersand = "A&amp;amp;" ∧ plain.format ampersand = "A&amp;" ∧
      Markup.unescaped (markup.format ampersand) = plain.format ampersand ∧
      ∃ shown ∈ markup.formatAll ampersand, Markup.unescaped shown = "<b>amp;" := by
  have hparse : Pattern.parse "<artist>amp;" = .ok [.tag "artist", .literal "amp;"] := rfl
  obtain ⟨markup, plain, hmarkup, hplain, hformat⟩ := format_markup_unescaped hparse
    (by simp [literalsOfAll, literalsOfNode, Markup.specials]) ⟨255, none⟩ 0
  obtain ⟨_, hunescaped, _, hall⟩ := hformat ampersand
  cases (compile_of_parse ⟨255, none⟩ 0 (by decide : Dialect.markup ≠ .path) hparse).symm.trans
    hmarkup
  cases (compile_of_parse ⟨255, none⟩ 0 (by decide : Dialect.plain ≠ .path) hparse).symm.trans
    hplain
  exact ⟨_, _, hparse, hmarkup, hplain, by decide +kernel, by decide +kernel, hunescaped,
    (hall _).mp ((mem_formatAll_of_not_path (by decide)).mpr (by decide +kernel))⟩

end Formatter

end Songbook
