import Songbook.Proofs.Formatter.Rooted
import Songbook.Proofs.Path.Extension

/-!
# Paths in the home directory

A path that starts at the home directory is absolute once that is put in, as long as the home
directory is. There is one exception. The separators at the end of the home directory are left out,
and of the root directory nothing is left. A lone `~` then becomes an empty path, which no check
refuses.
-/

namespace Songbook

namespace Path

/-- A text that is a lone `~`, or starts with `~/`. -/
def StartsAtHome (path : List Char) : Prop :=
  path = ['~'] ∨ ['~', '/'] <+: path

/-- A lone `~` when the root is the home directory. -/
def IsRootAsHome (home : String) (path : List Char) : Prop :=
  path = ['~'] ∧ ∀ c ∈ home.toList, c = '/'

variable {home : String} {path : List Char}

/-- The home directory is put in as an absolute path, or as nothing. -/
theorem expandHome_cases (hroot : ['/'] <+: home.toList) (hstart : StartsAtHome path) :
    (IsRootAsHome home path ∧ expandHome (some home) path = []) ∨
      (¬IsRootAsHome home path ∧ ['/'] <+: expandHome (some home) path) := by
  rcases hstart with rfl | hdirectory
  · change _ ∧ (home.toList.reverse.dropWhile (· = '/')).reverse ++ [] = [] ∨
      _ ∧ ['/'] <+: (home.toList.reverse.dropWhile (· = '/')).reverse ++ []
    rw [List.append_nil]
    rcases trimmed_home_cases hroot with ⟨hall, hempty⟩ | ⟨hother, hkept⟩
    · exact Or.inl ⟨⟨rfl, hall⟩, hempty⟩
    · exact Or.inr ⟨fun hlone => hother hlone.2, hkept⟩
  · refine Or.inr ⟨fun hlone => ?_, ?_⟩
    · rw [hlone.1] at hdirectory
      exact absurd hdirectory (by decide)
    · exact @root_prefix_expandHome ⟨0, some home⟩ path (Or.inr ⟨hdirectory, home, rfl, hroot⟩)

/-- No extension makes an empty output start at the home directory. -/
theorem ne_empty_of_startsAtHome {record : Record} {output : String}
    (hstart : StartsAtHome (extendedPath record output)) : output ≠ "" := by
  rintro rfl
  have htilde : (extendedPath record "").head? = some '~' := by
    rcases hstart with heq | ⟨rest, hrest⟩
    · rw [heq]
      rfl
    · rw [← hrest]
      rfl
  rw [extendedPath_empty, suffixOf?] at htilde
  cases hextension : extension? (record.comma "~filename").toList with
  | none => simp [hextension] at htilde
  | some extension => simp [hextension] at htilde

end Path

namespace Formatter

open Songbook.Path

section Library

variable [RegexLibrary]

/-- A path that starts at the home directory is shown as it is completed, and no check refuses it. If
the home directory starts at the root, so does what is shown, except for a lone `~` when the home
directory is the root itself. That is shown as nothing. -/
theorem format_home_iff {formatter : Formatter} (hdialect : formatter.dialect = .path)
    {home : String} (hhome : formatter.settings.home = some home) (hroot : ['/'] <+: home.toList)
    {record : Record}
    (hstart : StartsAtHome (extendedPath record (formatter.rawOutput record))) :
    formatter.tryFormat record = .ok (formatter.format record) ∧
      (['/'] <+: (formatter.format record).toList ↔
        ¬IsRootAsHome home (extendedPath record (formatter.rawOutput record))) ∧
      (¬['/'] <+: (formatter.format record).toList → formatter.format record = "") := by
  have hformat := toList_format hdialect (ne_empty_of_startsAtHome hstart)
  rw [hhome] at hformat
  rcases expandHome_cases hroot hstart with ⟨hlone, hempty⟩ | ⟨hother, hexpanded⟩
  · have hnothing : formatter.format record = "" := by
      rw [hempty, limitPath_nil] at hformat
      exact String.toList_eq_nil_iff.mp hformat
    have hpasses : formatter.tryFormat record = .ok (formatter.format record) := by
      unfold tryFormat
      simp [hnothing, isUnexpandedHome, isUnrooted, homeRelative?]
    refine ⟨hpasses, ?_, fun _ => hnothing⟩
    rw [hnothing]
    exact iff_of_false (by decide) fun hother => hother hlone
  · have hrooted : ['/'] <+: (formatter.format record).toList := by
      rw [hformat]
      exact root_prefix_limitPath hexpanded
    have hpasses := tryFormat_of_root_prefix hrooted
    exact ⟨hpasses, iff_of_true hrooted hother, fun hnot => absurd hrooted hnot⟩

/-- The formatter of a pattern for files in the home directory, with at most four bytes for each
segment. -/
def inHome (home : String) : Formatter :=
  ofTree "~<title|/<title>>" .path ⟨4, some home⟩ 0
    [.literal "~", .conditional "title" [.literal "/", .tag "title"] none]

end Library

theorem parse_inHome : Pattern.parse "~<title|/<title>>" =
    .ok [.literal "~", .conditional "title" [.literal "/", .tag "title"] none] :=
  rfl

/-- A song without a title is shown as the home directory. -/
theorem format_home_iff_untitled :
    compile "~<title|/<title>>" .path ⟨4, some "/home/ann/"⟩ 0 = .ok (inHome "/home/ann/") ∧
      ['/'] <+: "/home/ann/".toList ∧
      StartsAtHome (extendedPath (Song.toRecord {})
        ((inHome "/home/ann/").rawOutput (Song.toRecord {}))) ∧
      ['/'] <+: ((inHome "/home/ann/").format (Song.toRecord {})).toList ∧
      (inHome "/home/ann/").tryFormat (Song.toRecord {}) = .ok "/home/ann" := by
  have hcompile : compile "~<title|/<title>>" .path ⟨4, some "/home/ann/"⟩ 0 =
      .ok (inHome "/home/ann/") := compile_of_trial parse_inHome (by decide +kernel)
  have hroot : ['/'] <+: "/home/ann/".toList := by decide
  have hstart : StartsAtHome (extendedPath (Song.toRecord {})
      ((inHome "/home/ann/").rawOutput (Song.toRecord {}))) := Or.inl (by decide +kernel)
  obtain ⟨hpasses, hrooted, _⟩ := format_home_iff rfl rfl hroot hstart
  have hother : ¬IsRootAsHome "/home/ann/" (extendedPath (Song.toRecord {})
      ((inHome "/home/ann/").rawOutput (Song.toRecord {}))) :=
    fun hlone => absurd (hlone.2 'h' (by decide)) (by decide)
  exact ⟨hcompile, hroot, hstart, hrooted.mpr hother, hpasses.trans (by decide +kernel)⟩

/-- If the home directory is the root, such a song is shown as nothing, and passes. -/
theorem not_root_prefix_format_root :
    compile "~<title|/<title>>" .path ⟨4, some "/"⟩ 0 = .ok (inHome "/") ∧
      ['/'] <+: "/".toList ∧
      extendedPath (Song.toRecord {}) ((inHome "/").rawOutput (Song.toRecord {})) = ['~'] ∧
      (inHome "/").format (Song.toRecord {}) = "" ∧
      ¬['/'] <+: ((inHome "/").format (Song.toRecord {})).toList ∧
      (inHome "/").tryFormat (Song.toRecord {}) = .ok "" := by
  have hcompile : compile "~<title|/<title>>" .path ⟨4, some "/"⟩ 0 = .ok (inHome "/") :=
    compile_of_trial parse_inHome (by decide +kernel)
  exact ⟨hcompile, by decide, by decide +kernel, by decide +kernel, by decide +kernel,
    by decide +kernel⟩

end Formatter

end Songbook
