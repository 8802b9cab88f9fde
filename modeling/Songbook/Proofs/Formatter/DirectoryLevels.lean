import Songbook.Proofs.Formatter.Combinations
import Songbook.Proofs.Path
import Songbook.Proofs.Song.Tied
import Songbook.Proofs.Text
import Songbook.Proofs.Unicode.CaseMapping

/-!
# Directory levels

A path pattern decides how deep its paths are, and no record does. Every `/` of a finished path stands
in a literal of the pattern: tag values lose theirs, the extension has none, and cutting a path segment
by segment keeps the separators between them. Only a reference to a tag that holds a path and a `~`
that becomes the home directory bring in others.
-/

namespace Songbook

namespace Path

/-- The number of directory levels of a path: that of its separators. -/
def levels (path : String) : Nat :=
  path.toList.count '/'

/-- A tag whose value keeps its separators. -/
def HoldsPath (tag : String) : Prop :=
  tag = "~filename" ∨ tag = "~dirname"

/-- A text at whose start no home directory is put in. -/
def IsOutsideHome (settings : Settings) (text : String) : Prop :=
  settings.home = none ∨ text ≠ "~" ∧ ¬ ['~', '/'] <+: text.toList

theorem levels_append (first second : String) :
    levels (first ++ second) = levels first + levels second := by
  simp [levels]

/-! ## Values -/

theorem slash_not_mem_formatValue {tag : String} (htag : ¬ HoldsPath tag) (value : String) :
    '/' ∉ (formatValue tag value).toList := by
  have hshown : formatValue tag value = String.ofList (Text.trim
      (((paddedNumber? tag value.toList).getD value.toList).map fun c =>
        if isSeparatorLike c then '_' else c)) := if_neg htag
  rw [hshown, String.toList_ofList]
  intro hmem
  obtain ⟨c, _, hc⟩ := List.mem_map.mp (Text.trim_infix.mem hmem)
  split at hc
  next => exact absurd hc (by decide)
  next hplain =>
    subst hc
    exact hplain (by decide)

theorem levels_formatValue {tag : String} (htag : ¬ HoldsPath tag) (value : String) :
    levels (formatValue tag value) = 0 :=
  List.count_eq_zero.mpr (slash_not_mem_formatValue htag value)

/-! ## Completion -/

theorem slash_not_mem_extension? {path extension : List Char}
    (hextension : extension? path = some extension) : '/' ∉ extension := by
  unfold extension? fileName? at hextension
  split at hextension
  next => cases hextension
  next name hname =>
    split at hname
    next => cases hname
    next part hpart =>
      split at hname
      next => cases hname
      next =>
        cases hname
        have hfree : '/' ∉ name :=
          Tag.not_mem_of_mem_splitOn (List.mem_filter.mp (List.mem_of_getLast? hpart)).1
        split at hextension
        next =>
          cases hextension
          intro hmem
          have hreverse := (List.takeWhile_prefix _).mem (List.mem_reverse.mp hmem)
          exact hfree (List.mem_reverse.mp hreverse)
        next => cases hextension

theorem slash_not_mem_suffixOf? {filename : String} {suffix : List Char}
    (hsuffix : suffixOf? filename = some suffix) : '/' ∉ suffix := by
  obtain ⟨extension, hextension, rfl⟩ := Option.map_eq_some_iff.mp hsuffix
  intro hmem
  rcases List.mem_cons.mp hmem with hdot | hmem
  · exact absurd hdot (by decide)
  · exact slash_not_mem_extension? hextension
      (Unicode.mem_of_mem_lowercaseAfter (by decide) hmem)

/-- A text that is shown gets a suffix that adds no directory level before it is completed. -/
theorem finish_eq_limitPath {output : String} (houtput : output ≠ "") (settings : Settings)
    (record : Record) : ∃ suffix, '/' ∉ suffix ∧ finish settings record output = String.ofList
      (limitPath settings.segmentLimit (expandHome settings.home (output.toList ++ suffix))) := by
  obtain ⟨suffix, hsuffix, hpath⟩ := exists_completePath_eq houtput settings record
  refine ⟨suffix, ?_, ?_⟩
  · rcases hsuffix with rfl | hsuffix
    · exact List.not_mem_nil
    · exact slash_not_mem_suffixOf? hsuffix
  · rw [← hpath, ← toList_finish, String.ofList_toList]

/-- No suffix makes a text start at the home directory. -/
theorem homeRelative?_append {text suffix : List Char} (htext : text ≠ []) (htilde : text ≠ ['~'])
    (hstart : ¬ ['~', '/'] <+: text) : homeRelative? (text ++ suffix) = none := by
  unfold homeRelative?
  split
  next hlone =>
    rcases List.append_eq_singleton_iff.mp hlone with ⟨rfl, _⟩ | ⟨rfl, _⟩
    · exact absurd rfl htext
    · exact absurd rfl htilde
  next rest hdirectory =>
    rcases text with _ | ⟨first, _ | ⟨second, more⟩⟩
    · exact absurd rfl htext
    · cases hdirectory
      exact absurd rfl htilde
    · cases hdirectory
      exact absurd (List.prefix_append ['~', '/'] more) hstart
  next => rfl

/-- Putting the home directory in changes only texts that start at it. -/
theorem expandHome_of_outside {settings : Settings} {text : String}
    (houtside : IsOutsideHome settings text) (htext : text ≠ "") (suffix : List Char) :
    expandHome settings.home (text.toList ++ suffix) = text.toList ++ suffix := by
  unfold expandHome
  rcases houtside with hhome | ⟨htilde, hstart⟩
  · simp [hhome]
  · rw [ne_eq, ← String.toList_inj] at htext htilde
    rw [homeRelative?_append htext htilde hstart]

theorem slash_not_mem_cutSegment {budget : Nat} {segment : List Char} (hfree : '/' ∉ segment) :
    '/' ∉ cutSegment budget segment := by
  unfold cutSegment
  split
  · exact hfree
  · intro hmem
    rcases List.mem_append.mp hmem with hmem | hmem
    · exact hfree ((Text.takeBytes_prefix _ _).mem hmem)
    · exact absurd hmem (by decide)

theorem length_cutSegments (limit last : Nat) (segments : List (List Char)) :
    (cutSegments limit last segments).length = segments.length := by
  induction segments with
  | nil => rfl
  | cons segment rest ih =>
      cases rest with
      | nil => rfl
      | cons next rest =>
          rw [cutSegments, List.length_cons, ih]
          · rfl
          · exact List.cons_ne_nil _ _

theorem slash_not_mem_cutSegments (limit last : Nat) {segments : List (List Char)}
    (hfree : ∀ segment ∈ segments, '/' ∉ segment) :
    ∀ cut ∈ cutSegments limit last segments, '/' ∉ cut := by
  induction segments with
  | nil => simp [cutSegments]
  | cons segment rest ih =>
      have hsegment := hfree segment List.mem_cons_self
      cases rest with
      | nil =>
          intro cut hcut
          rw [cutSegments, List.mem_singleton] at hcut
          rw [hcut]
          exact slash_not_mem_cutSegment hsegment
      | cons next rest =>
          intro cut hcut
          rw [cutSegments, List.mem_cons] at hcut
          · rcases hcut with rfl | hcut
            · exact slash_not_mem_cutSegment hsegment
            · exact ih (fun other hother => hfree other (List.mem_cons_of_mem _ hother)) cut hcut
          · simp

/-- The separators of segments that are put together are those between them. -/
theorem count_intercalate {segments : List (List Char)}
    (hfree : ∀ segment ∈ segments, '/' ∉ segment) :
    (['/'].intercalate segments).count '/' = segments.length - 1 := by
  induction segments with
  | nil => rfl
  | cons segment rest ih =>
      have hsegment := List.count_eq_zero.mpr (hfree segment List.mem_cons_self)
      have hrest := ih fun other hother => hfree other (List.mem_cons_of_mem _ hother)
      cases rest with
      | nil => simpa using hsegment
      | cons next rest =>
          rw [List.intercalate_cons_cons, List.count_append, List.count_append, hsegment, hrest]
          simp
          omega

theorem count_limitPath (limit : Nat) (path : List Char) :
    (limitPath limit path).count '/' = path.count '/' := by
  obtain ⟨hsplit, hslash⟩ := splitExtension_spec path
  have hsegments : ∀ segment ∈ (splitExtension path).1.splitOn '/', '/' ∉ segment :=
    fun _ hsegment => Tag.not_mem_of_mem_splitOn hsegment
  have hmain : (splitExtension path).1.count '/' =
      ((splitExtension path).1.splitOn '/').length - 1 := by
    rw [← count_intercalate hsegments, List.intercalate_splitOn]
  have hcut := count_intercalate (slash_not_mem_cutSegments limit
    (limit - Text.byteLength (splitExtension path).2) hsegments)
  rw [length_cutSegments, ← hmain] at hcut
  rw [← List.count_eq_zero] at hslash
  conv => rhs; rw [← hsplit, List.count_append, hslash]
  unfold limitPath
  dsimp only
  rw [List.count_append, hcut, hslash]

/-- Completing a path that does not start at the home directory keeps its directory levels. -/
theorem levels_finish {settings : Settings} {output : String}
    (houtside : IsOutsideHome settings output) (record : Record) :
    levels (finish settings record output) = levels output := by
  by_cases hempty : output = ""
  · rw [hempty]
    rfl
  · obtain ⟨suffix, hslash, hfinish⟩ := finish_eq_limitPath hempty settings record
    rw [hfinish, expandHome_of_outside houtside hempty, levels, String.toList_ofList,
      count_limitPath, List.count_append, List.count_eq_zero.mpr hslash]
    rfl

end Path

namespace Pattern

/-! ## Trees -/

mutual

/-- The tags that a sequence refers to outside the names of its conditionals. -/
def referencesOfAll : List Node → List String
  | [] => []
  | node :: rest => referencesOfNode node ++ referencesOfAll rest

/-- The tags that a branch refers to; a missing one refers to none. -/
def referencesOfBranch : Option (List Node) → List String
  | none => []
  | some nodes => referencesOfAll nodes

/-- The tags that a node refers to, those of both branches for a conditional. -/
def referencesOfNode : Node → List String
  | .literal _ => []
  | .tag name => [name]
  | .conditional _ yes no => referencesOfAll yes ++ referencesOfBranch no

end

section Taken

variable (takes : String → Bool)

mutual

/-- The literals of a sequence on the branches that are taken, given which conditionals take their
first one. -/
def takenLiteralsOfAll : List Node → List String
  | [] => []
  | node :: rest => takenLiteralsOfNode node ++ takenLiteralsOfAll rest

/-- The literals of a branch on the branches that are taken; a missing one has none. -/
def takenLiteralsOfBranch : Option (List Node) → List String
  | none => []
  | some nodes => takenLiteralsOfAll nodes

/-- The literals of a node on the branches that are taken. -/
def takenLiteralsOfNode : Node → List String
  | .literal text => [text]
  | .tag _ => []
  | .conditional name yes no =>
    if takes name then takenLiteralsOfAll yes else takenLiteralsOfBranch no

end

end Taken

theorem referencesOfBranch_eq (no : Option (List Node)) :
    referencesOfBranch no = referencesOfAll (no.getD []) := by
  cases no <;> rfl

theorem takenLiteralsOfBranch_eq (takes : String → Bool) (no : Option (List Node)) :
    takenLiteralsOfBranch takes no = takenLiteralsOfAll takes (no.getD []) := by
  cases no <;> rfl

/-- The literal text of a piece of output, if it is one. -/
def Piece.literal? {V : Type} : Piece V → Option String
  | .literal text => some text
  | .value _ _ => none

section Evaluation

variable {V : Type} {view : View V} {queries : String → Option Predicate} {nodes : List Node}

/-- Every value that a tree shows is that of a tag that it refers to. -/
theorem mem_referencesOfAll {name : String} {content : V}
    (hmem : .value name content ∈ evaluateAll view queries nodes) :
    name ∈ referencesOfAll nodes := by
  induction nodes using sequence_induction with
  | nil => exact absurd hmem List.not_mem_nil
  | literal text rest ih =>
      rcases List.mem_cons.mp hmem with heq | hmem
      · cases heq
      · exact ih hmem
  | tag other rest ih =>
      rcases List.mem_cons.mp hmem with heq | hmem
      · cases heq
        exact List.mem_cons_self
      · exact List.mem_cons_of_mem _ (ih hmem)
  | conditional other yes no rest ihyes ihno ihrest =>
      rw [evaluateAll, evaluateNode, evaluateBranch_eq, List.mem_append] at hmem
      rw [referencesOfAll, referencesOfNode, referencesOfBranch_eq, List.mem_append,
        List.mem_append]
      rcases hmem with hmem | hmem
      · split at hmem
        · exact Or.inl (Or.inl (ihyes hmem))
        · exact Or.inl (Or.inr (ihno hmem))
      · exact Or.inr (ihrest hmem)

/-- The literals among the pieces that a tree shows are those on the branches that are taken. -/
theorem filterMap_literal?_evaluateAll :
    (evaluateAll view queries nodes).filterMap Piece.literal? =
      takenLiteralsOfAll (view.takes queries) nodes := by
  induction nodes using sequence_induction with
  | nil => rfl
  | literal text rest ih =>
      rw [evaluateAll, takenLiteralsOfAll, List.filterMap_append, ih]
      rfl
  | tag name rest ih =>
      rw [evaluateAll, takenLiteralsOfAll, List.filterMap_append, ih]
      rfl
  | conditional name yes no rest ihyes ihno ihrest =>
      rw [evaluateAll, takenLiteralsOfAll, List.filterMap_append, ihrest, evaluateNode,
        takenLiteralsOfNode, evaluateBranch_eq, takenLiteralsOfBranch_eq]
      split
      · rw [ihyes]
      · rw [ihno]

end Evaluation

end Pattern

namespace Formatter

open Pattern Songbook.Path

/-! ## Formatters -/

/-- Pieces whose values keep no separators. -/
def ArePathless {V : Type} (pieces : List (Piece V)) : Prop :=
  ∀ name content, .value name content ∈ pieces → ¬ HoldsPath name

/-- The directory levels in the literals among pieces of output. -/
def literalLevels {V : Type} (pieces : List (Piece V)) : Nat :=
  levels (String.join (pieces.filterMap Piece.literal?))

theorem literalLevels_literal {V : Type} (text : String) (rest : List (Piece V)) :
    literalLevels (.literal text :: rest) = levels text + literalLevels rest := by
  have hliterals : (Piece.literal text :: rest).filterMap Piece.literal? =
      text :: rest.filterMap Piece.literal? := rfl
  rw [literalLevels, hliterals, String.join_cons, levels_append, literalLevels]

theorem ArePathless.tail {V : Type} {piece : Piece V} {rest : List (Piece V)}
    (hpieces : ArePathless (piece :: rest)) : ArePathless rest :=
  fun name content hmem => hpieces name content (List.mem_cons_of_mem _ hmem)

/-- Pieces joined have the directory levels of their literals. -/
theorem levels_join {pieces : List (Piece String)} (hpieces : ArePathless pieces) :
    levels (String.join (pieces.map (pieceText .path))) = literalLevels pieces := by
  induction pieces with
  | nil => rfl
  | cons piece rest ih =>
      have hrest := ih hpieces.tail
      rw [List.map_cons, String.join_cons, levels_append, hrest]
      cases piece with
      | literal text => exact (literalLevels_literal text rest).symm
      | value name content =>
          have hvalue := levels_formatValue (hpieces name content List.mem_cons_self) content
          change levels (Path.formatValue name content) + _ = _
          rw [hvalue, Nat.zero_add]
          rfl

/-- So does every combination of them. -/
theorem levels_combination {pieces : List (Piece (List String))} (hpieces : ArePathless pieces)
    {text : String} (hmem : text ∈ combinations .path pieces) :
    levels text = literalLevels pieces := by
  induction pieces generalizing text with
  | nil =>
      rw [mem_combinations_nil.mp hmem]
      rfl
  | cons piece rest ih =>
      obtain ⟨choice, hchoice, more, hmore, rfl⟩ := mem_combinations_cons.mp hmem
      rw [levels_append, ih hpieces.tail hmore]
      cases piece with
      | literal literal =>
          rw [List.mem_singleton.mp hchoice]
          exact (literalLevels_literal literal rest).symm
      | value name contents =>
          have hname := hpieces name contents List.mem_cons_self
          have hvalue : levels choice = 0 := by
            rcases mem_pieceChoices_value.mp hchoice with ⟨_, rfl⟩ | ⟨value, _, rfl⟩
            · rfl
            · exact levels_formatValue hname value
          rw [hvalue, Nat.zero_add]
          rfl

section Library

variable [RegexLibrary]

/-- What the program shows for a record, before the dialect finishes it, for every choice of values. -/
def rawOutputs (formatter : Formatter) (record : Record) : List String :=
  combinations formatter.dialect (formatter.program.pieces (.values record))

/-- A path pattern without references to tags that hold paths decides alone how many directory levels
its paths have: those of its literals on the branches taken. This holds for the path of a record and
for all of its paths, as far as no home directory is put in. -/
theorem levels_format {source : String} {settings : Path.Settings} {now : Binary64}
    {formatter : Formatter} {nodes : List Node} (hparse : Pattern.parse source = .ok nodes)
    (hcompile : compile source .path settings now = .ok formatter)
    (hreferences : ∀ name ∈ referencesOfAll nodes, name ≠ "~filename" ∧ name ≠ "~dirname")
    (record : Record) :
    (IsOutsideHome settings (formatter.rawOutput record) →
      levels (formatter.format record) =
        levels (String.join (takenLiteralsOfAll ((View.text record).takes (queryOf? now)) nodes))) ∧
    (∀ text ∈ formatter.formatAll record, ∃ raw ∈ formatter.rawOutputs record,
      text = formatter.finish record raw) ∧
    ∀ raw ∈ formatter.rawOutputs record, formatter.finish record raw ∈ formatter.formatAll record ∧
      (IsOutsideHome settings raw → levels (formatter.finish record raw) =
        levels (String.join (takenLiteralsOfAll ((View.values record).takes (queryOf? now)) nodes))) := by
  obtain ⟨tree, htree, rfl, _⟩ := compile_eq_ok_iff.mp hcompile
  cases hparse.symm.trans htree
  have hpieces : ∀ {V : Type} (view : View V),
      ArePathless (evaluateAll view (queryOf? now) nodes) := by
    rintro V view name content hmem (rfl | rfl)
    · exact (hreferences _ (mem_referencesOfAll hmem)).1 rfl
    · exact (hreferences _ (mem_referencesOfAll hmem)).2 rfl
  have hmem : ∀ text, text ∈ (ofTree source .path settings now nodes).formatAll record ↔
      ∃ raw ∈ (ofTree source .path settings now nodes).rawOutputs record,
        (ofTree source .path settings now nodes).finish record raw = text := by
    intro text
    rw [formatAll, mem_sortedSet, List.mem_map]
    rfl
  refine ⟨fun houtside => ?_, fun text htext => ?_, fun raw hraw => ⟨?_, fun houtside => ?_⟩⟩
  · rw [← filterMap_literal?_evaluateAll]
    refine (levels_finish houtside record).trans ?_
    rw [rawOutput, pieces_ofTree]
    exact levels_join (hpieces _)
  · obtain ⟨raw, hraw, rfl⟩ := (hmem text).mp htext
    exact ⟨raw, hraw, rfl⟩
  · exact (hmem _).mpr ⟨raw, hraw, rfl⟩
  · rw [← filterMap_literal?_evaluateAll]
    refine (levels_finish houtside record).trans ?_
    rw [rawOutputs, pieces_ofTree] at hraw
    exact levels_combination (hpieces _) hraw

end Library

/-- A record whose artist has a separator in the name, with a title that shows nothing. -/
def live : Record where
  get? _ := none
  comma name := if name = "artist" then "AC/DC Live" else if name = "~filename" then "a.b/c.MP3" else ""
  list name := if name = "artist" then ["AC/DC Live", "~"] else []
  numeric? _ := none

/-- Neither the artist nor the extension nor the cut adds or removes a level. -/
theorem levels_format_live :
    ∃ formatter, compile "/<artist>/<title|<title>|none>" .path ⟨8, some "/home"⟩ 0 =
        .ok formatter ∧
      formatter.format live = "/AC_DC ../none.mp3" ∧ levels (formatter.format live) = 2 ∧
      formatter.rawOutputs live = ["/AC_DC Live/none", "/~/none"] ∧
      ∀ text ∈ formatter.formatAll live, levels text = 2 := by
  have hparse : Pattern.parse "/<artist>/<title|<title>|none>" =
      .ok [.literal "/", .tag "artist", .literal "/",
        .conditional "title" [.tag "title"] (some [.literal "none"])] := rfl
  obtain ⟨formatter, hcompile, hformat, hraw, hraws⟩ :
      ∃ formatter, compile "/<artist>/<title|<title>|none>" .path ⟨8, some "/home"⟩ 0 =
          .ok formatter ∧
        formatter.format live = "/AC_DC ../none.mp3" ∧
        formatter.rawOutput live = "/AC_DC Live/none" ∧
        formatter.rawOutputs live = ["/AC_DC Live/none", "/~/none"] :=
    ⟨_, compile_eq_ok_iff.mpr ⟨_, hparse, rfl, "/artist/ti...mp3", rfl⟩, by decide +kernel,
      by decide +kernel, by decide +kernel⟩
  obtain ⟨hlevels, hshown, hall⟩ := levels_format hparse hcompile
    (by simp [referencesOfAll, referencesOfNode, referencesOfBranch]) live
  refine ⟨formatter, hcompile, hformat, hlevels (Or.inr ?_), hraws, fun text htext => ?_⟩
  · rw [hraw]
    decide
  · obtain ⟨raw, hmem, rfl⟩ := hshown text htext
    refine (hall raw hmem).2 (Or.inr ?_)
    rw [hraws] at hmem
    rcases List.mem_cons.mp hmem with rfl | hmem
    · decide
    · rw [List.mem_singleton.mp hmem]
      decide

end Formatter

end Songbook
