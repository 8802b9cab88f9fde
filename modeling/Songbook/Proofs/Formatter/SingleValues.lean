import Songbook.Proofs.Formatter.Combinations

/-!
# Records of single values

A record whose tags have no other value than the text they show leaves nothing to choose. The set of
all its texts then has one element, the text that the same formatter shows of the record as one text.
A tag without a value and a tag with an empty value show alike, in every dialect.
-/

namespace Songbook

/-- A tag that has the text it shows as its only value. If it shows nothing, it has no value or an
empty one. -/
structure Record.IsSingle (record : Record) (tag : String) : Prop where
  shown : record.comma tag ≠ "" → record.list tag = [record.comma tag]
  hidden : record.comma tag = "" → record.list tag = [] ∨ record.list tag = [""]

theorem Path.formatValue_empty (tag : String) : Path.formatValue tag "" = "" := by
  have hpadded : Path.paddedNumber? tag [] = none := by
    have hnumber : Integer.readSigned? (Text.trim []) = none := by decide
    simp [Path.paddedNumber?, hnumber]
  unfold Path.formatValue
  split
  · decide
  · simp [hpadded, Text.trim, Text.trimStart, Text.trimEnd]

theorem Dialect.formatValue_empty (dialect : Dialect) (tag : String) :
    dialect.formatValue tag "" = "" := by
  cases dialect with
  | path => exact Path.formatValue_empty tag
  | plain | markup | bracketMarkup => rfl

namespace Formatter

open Pattern

variable {dialect : Dialect} {queries : String → Option Predicate} {record : Record}

section Library

variable [RegexLibrary]

theorem takesFirst_iff_of_isSingle {name : String} (hsingle : record.IsSingle name) :
    takesFirst queries record name ↔ (View.text record).takes queries name = true := by
  unfold takesFirst View.takes
  cases queries name with
  | some predicate => rfl
  | none =>
      by_cases hcomma : record.comma name = ""
      · rcases hsingle.hidden hcomma with hlist | hlist <;> simp [View.text, hlist, hcomma]
      · simp [View.text, hsingle.shown hcomma, hcomma]

/-- The values of single tags leave one combination, which is the text of the tree. -/
theorem combination_eq_textOfAll (hsingle : ∀ tag, record.IsSingle tag) {nodes : List Node}
    {text : String} (hcombination : Combination dialect queries record nodes text) :
    text = textOfAll dialect queries record nodes := by
  induction hcombination with
  | nil => rfl
  | literal hmore ih => rw [textOfAll, textOfNode, ih]
  | @value name value more rest hvalue hmore ih =>
      have heq : value = record.comma name := by
        by_cases hcomma : record.comma name = ""
        · rcases (hsingle name).hidden hcomma with hlist | hlist
          · simp [hlist] at hvalue
          · simpa [hlist, hcomma] using hvalue
        · simpa [(hsingle name).shown hcomma] using hvalue
      rw [textOfAll, textOfNode, heq, ih]
  | @noValue name more rest hnone hmore ih =>
      -- nothing is put in here, and the text puts in an empty value, which shows as nothing
      have hcomma : record.comma name = "" := by
        by_cases hcomma : record.comma name = ""
        · exact hcomma
        · simp [(hsingle name).shown hcomma] at hnone
      rw [textOfAll, textOfNode, hcomma, dialect.formatValue_empty, String.empty_append, ih]
  | @yes name yes no shown more rest htakes hshown hmore ihshown ihmore =>
      rw [takesFirst_iff_of_isSingle (hsingle name)] at htakes
      rw [textOfAll, textOfNode_conditional, if_pos htakes, ← ihshown, ← ihmore]
  | @no name yes no shown more rest htakes hshown hmore ihshown ihmore =>
      rw [takesFirst_iff_of_isSingle (hsingle name)] at htakes
      rw [textOfAll, textOfNode_conditional, if_neg htakes, ← ihshown, ← ihmore]

end Library

/-- A set of texts in order that has one element. -/
theorem eq_singleton_of_pairwise {texts : List String} {text : String}
    (hset : texts.Pairwise (· < ·)) (hmem : ∀ other, other ∈ texts ↔ other = text) :
    texts = [text] := by
  cases texts with
  | nil => simpa using hmem text
  | cons first rest =>
      cases (hmem first).mp List.mem_cons_self
      cases rest with
      | nil => rfl
      | cons second rest =>
          have hlt := (List.pairwise_cons.mp hset).1 second List.mem_cons_self
          have heq := (hmem second).mp (List.mem_cons_of_mem _ List.mem_cons_self)
          rw [heq] at hlt
          exact absurd hlt (String.lt_irrefl _)

/-- A formatter that compiles shows a record of single values as a set of one text, the text that it
shows the record as. -/
theorem formatAll_eq_singleton_format [RegexLibrary] {source : String} {settings : Path.Settings}
    {now : Binary64} {formatter : Formatter}
    (hcompile : compile source dialect settings now = .ok formatter)
    (hsingle : ∀ tag, record.IsSingle tag) :
    formatter.formatAll record = [formatter.format record] := by
  obtain ⟨nodes, _, rfl, _⟩ := compile_eq_ok_iff.mp hcompile
  have hformat : (ofTree source dialect settings now nodes).format record =
      (ofTree source dialect settings now nodes).finish record
        (textOfAll dialect (queryOf? now) record nodes) := by
    rw [Formatter.format, rawOutput_ofTree]
  refine eq_singleton_of_pairwise (pairwise_sortedSet _) fun other => ?_
  rw [mem_formatAll_ofTree, hformat]
  constructor
  · rintro ⟨raw, hraw, rfl⟩
    rw [combination_eq_textOfAll hsingle hraw]
  · rintro rfl
    obtain ⟨raw, hraw⟩ := exists_combination dialect (queryOf? now) record nodes
    exact ⟨raw, hraw, by rw [combination_eq_textOfAll hsingle hraw]⟩

/-- A record of one artist, with an empty title. -/
def soloist : Record where
  get? _ := none
  comma name := if name = "artist" then "Ann" else ""
  list name := if name = "artist" then ["Ann"] else if name = "title" then [""] else []
  numeric? _ := none

/-- An empty title and a missing track number count alike in a path. -/
theorem formatAll_soloist :
    ∃ formatter, compile "/<artist>/<title|<title>|none><tracknumber>" .path ⟨255, none⟩ 0 =
        .ok formatter ∧
      (∀ tag, soloist.IsSingle tag) ∧
      formatter.formatAll soloist = [formatter.format soloist] ∧
      formatter.format soloist = "/Ann/none" := by
  have hparse : Pattern.parse "/<artist>/<title|<title>|none><tracknumber>" =
      .ok [.literal "/", .tag "artist", .literal "/",
        .conditional "title" [.tag "title"] (some [.literal "none"]), .tag "tracknumber"] := rfl
  have hcompile : compile "/<artist>/<title|<title>|none><tracknumber>" .path ⟨255, none⟩ 0 =
      .ok (ofTree _ .path ⟨255, none⟩ 0 _) :=
    compile_eq_ok_iff.mpr ⟨_, hparse, rfl, "/artist/titletracknumber.mp3", rfl⟩
  have hsingle : ∀ tag, soloist.IsSingle tag := by
    intro tag
    by_cases hartist : tag = "artist"
    · subst hartist
      exact ⟨fun _ => rfl, fun hcomma => absurd hcomma (by decide)⟩
    · have hcomma : soloist.comma tag = "" := if_neg hartist
      refine ⟨fun hne => absurd hcomma hne, fun _ => ?_⟩
      by_cases htitle : tag = "title"
      · exact Or.inr (by simp [soloist, htitle])
      · exact Or.inl (by simp [soloist, hartist, htitle])
  exact ⟨_, hcompile, hsingle, formatAll_eq_singleton_format hcompile hsingle,
    by decide +kernel⟩

end Formatter

end Songbook
