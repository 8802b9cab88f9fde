import Mathlib.Data.List.TakeWhile
import Songbook.Path

/-!
# Paths that keep their root

Completing a path appends an extension, puts the home directory in place of a leading `~` and cuts the
segments. A path that starts at the root still does afterwards, however few bytes a segment may have:
what stands before the first `/` is an empty segment, and nothing is cut from it.
-/

namespace Songbook.Path

/-- The segments of a path are those in front of a separator and those behind it. -/
theorem splitOn_append_slash (front rest : List Char) :
    (front ++ '/' :: rest).splitOn '/' = front.splitOn '/' ++ rest.splitOn '/' :=
  List.splitOnP_append_cons _ _ (by simp)

/-! ## The extension of a path -/

/-- A character and what follows it at its last place. -/
theorem lastPart_suffix {c : Char} {text : List Char} (hmem : c ∈ text) :
    c :: (text.reverse.takeWhile (· != c)).reverse <:+ text := by
  have hdrop : ∃ before, text.reverse.dropWhile (· != c) = c :: before := by
    cases hrest : text.reverse.dropWhile (· != c) with
    | nil =>
        have hall := List.dropWhile_eq_nil_iff.mp hrest c (List.mem_reverse.mpr hmem)
        simp at hall
    | cons first before =>
        have hfirst := List.head?_dropWhile_not (· != c) text.reverse
        simp only [hrest, List.head?_cons, bne_eq_false_iff_eq] at hfirst
        exact ⟨before, by rw [hfirst]⟩
  obtain ⟨before, hbefore⟩ := hdrop
  have hsplit : text.reverse = text.reverse.takeWhile (· != c) ++ c :: before := by
    rw [← hbefore, List.takeWhile_append_dropWhile]
  refine ⟨before.reverse, List.reverse_inj.mp (Eq.trans ?_ hsplit.symm)⟩
  simp

/-- What follows a character at its last place does not hold it. -/
theorem not_mem_lastPart (c : Char) (text : List Char) :
    c ∉ (text.reverse.takeWhile (· != c)).reverse := by
  intro hmem
  have hpart := List.mem_takeWhile_imp (List.mem_reverse.mp hmem)
  simp at hpart

/-- The last segment of a path ends it and holds no separator. -/
theorem lastSegment_suffix (path : List Char) :
    (path.reverse.takeWhile (· != '/')).reverse <:+ path ∧
      '/' ∉ (path.reverse.takeWhile (· != '/')).reverse := by
  refine ⟨?_, not_mem_lastPart '/' path⟩
  rw [← List.reverse_reverse path, List.reverse_suffix, List.reverse_reverse]
  exact List.takeWhile_prefix _

/-- The extension ends its path and lies in one segment. -/
theorem splitExtension_spec (path : List Char) :
    (splitExtension path).1 ++ (splitExtension path).2 = path ∧
      '/' ∉ (splitExtension path).2 := by
  obtain ⟨hname, hslash⟩ := lastSegment_suffix path
  unfold splitExtension
  dsimp only
  split
  next hdot =>
    have hextension := (lastPart_suffix (List.contains_iff_mem.mp hdot)).trans
      (List.dropWhile_suffix _)
    exact ⟨List.suffix_iff_eq_append.mp (hextension.trans hname),
      fun hmem => hslash (hextension.mem hmem)⟩
  next => simp

/-! ## Paths before they are cut -/

/-- The path that a pattern shows, with the extension and the home directory put in. Nothing shown
stays nothing. -/
def completePath (settings : Settings) (record : Record) (output : String) : List Char :=
  if output = "" then []
  else
    expandHome settings.home <| match suffixOf? (record.comma "~filename") with
      | some suffix => withSuffix output.toList suffix
      | none => output.toList

theorem limitPath_nil (limit : Nat) : limitPath limit [] = [] := by
  have hempty : splitExtension [] = ([], []) := rfl
  simp [limitPath, hempty, cutSegments, cutSegment, Text.byteLength]

/-- Finishing a path is cutting the complete path. -/
theorem toList_finish (settings : Settings) (record : Record) (output : String) :
    (finish settings record output).toList =
      limitPath settings.segmentLimit (completePath settings record output) := by
  unfold finish completePath
  split
  next => exact (limitPath_nil settings.segmentLimit).symm
  next => exact String.toList_ofList

/-- A complete path is what is shown, with at most the extension of the file behind it, once the home
directory is put in. -/
theorem exists_completePath_eq {output : String} (houtput : output ≠ "") (settings : Settings)
    (record : Record) :
    ∃ suffix, (suffix = [] ∨ suffixOf? (record.comma "~filename") = some suffix) ∧
      completePath settings record output =
        expandHome settings.home (output.toList ++ suffix) := by
  unfold completePath
  rw [if_neg houtput]
  split
  next suffix hsuffix =>
    unfold withSuffix
    split
    · exact ⟨[], Or.inl rfl, by rw [List.append_nil]⟩
    · exact ⟨suffix, Or.inr hsuffix, rfl⟩
  next => exact ⟨[], Or.inl rfl, by rw [List.append_nil]⟩

/-! ## Paths from the root -/

/-- A text that starts at the root, or at a home directory that is known to start there. -/
def IsRooted (settings : Settings) (text : List Char) : Prop :=
  ['/'] <+: text ∨ ['~', '/'] <+: text ∧ ∃ home ∈ settings.home, ['/'] <+: home.toList

theorem IsRooted.of_prefix {settings : Settings} {text longer : List Char}
    (hrooted : IsRooted settings text) (hlonger : text <+: longer) : IsRooted settings longer := by
  rcases hrooted with hroot | ⟨hhome, hsettings⟩
  · exact Or.inl (hroot.trans hlonger)
  · exact Or.inr ⟨hhome.trans hlonger, hsettings⟩

/-- A home directory that starts at the root still does without its last separators, unless it is the
root itself. Of that nothing is left. -/
theorem trimmed_home_cases {home : List Char} (hroot : ['/'] <+: home) :
    ((∀ c ∈ home, c = '/') ∧ (home.reverse.dropWhile (· = '/')).reverse = []) ∨
      ((¬∀ c ∈ home, c = '/') ∧ ['/'] <+: (home.reverse.dropWhile (· = '/')).reverse) := by
  have htrimmed : (home.reverse.dropWhile (· = '/')).reverse <+: home := by
    conv => rhs; rw [← List.reverse_reverse home]
    exact List.reverse_prefix.mpr (List.dropWhile_suffix _)
  have hempty : (home.reverse.dropWhile (· = '/')).reverse = [] ↔ ∀ c ∈ home, c = '/' := by
    simp [List.dropWhile_eq_nil_iff]
  cases hkept : (home.reverse.dropWhile (· = '/')).reverse with
  | nil => exact Or.inl ⟨hempty.mp hkept, rfl⟩
  | cons first kept =>
      rw [hkept] at htrimmed hempty
      obtain ⟨more, rfl⟩ := hroot
      obtain ⟨rfl, _⟩ := List.cons_prefix_cons.mp htrimmed
      exact Or.inr ⟨fun hall => List.cons_ne_nil _ _ (hempty.mpr hall),
        List.prefix_append ['/'] kept⟩

theorem root_prefix_expandHome {settings : Settings} {path : List Char}
    (hrooted : IsRooted settings path) : ['/'] <+: expandHome settings.home path := by
  rcases hrooted with ⟨rest, rfl⟩ | ⟨⟨rest, rfl⟩, home, hhome, hroot⟩
  · exact ⟨rest, rfl⟩
  · rw [Option.mem_def] at hhome
    rw [hhome]
    change ['/'] <+: (home.toList.reverse.dropWhile (· = '/')).reverse ++ '/' :: rest
    rcases trimmed_home_cases hroot with ⟨_, hempty⟩ | ⟨_, hkept⟩
    · rw [hempty]
      exact ⟨rest, rfl⟩
    · exact hkept.trans (List.prefix_append _ _)

/-- The segment before the first separator is empty and stays so. -/
theorem root_prefix_intercalate_cutSegments (limit last : Nat) (main : List Char) :
    ['/'] <+: ['/'].intercalate (cutSegments limit last (('/' :: main).splitOn '/')) := by
  obtain ⟨segment, segments, hsegments⟩ :=
    List.exists_cons_of_ne_nil (List.splitOn_ne_nil '/' main)
  have hsplit : ('/' :: main).splitOn '/' = [] :: segment :: segments := by
    rw [List.splitOn_cons_eq_if_modifyHead, if_pos (by decide), hsegments]
  have hempty : cutSegment limit [] = [] := by simp [cutSegment, Text.byteLength]
  rw [hsplit, cutSegments, hempty]
  · cases hcut : cutSegments limit last (segment :: segments) with
    | nil => cases segments <;> cases hcut
    | cons first more =>
        rw [List.intercalate_cons_cons]
        exact List.prefix_append _ _
  · simp

theorem root_prefix_limitPath {limit : Nat} {path : List Char} (hroot : ['/'] <+: path) :
    ['/'] <+: limitPath limit path := by
  obtain ⟨hsplit, hslash⟩ := splitExtension_spec path
  obtain ⟨rest, hrest⟩ := hroot
  -- the separator at the start is not in the extension, so what is cut starts with it
  have hmain : ∃ main, (splitExtension path).1 = '/' :: main := by
    rw [← hsplit] at hrest
    cases hfirst : (splitExtension path).1 with
    | nil =>
        rw [hfirst, List.nil_append] at hrest
        rw [← hrest] at hslash
        exact absurd List.mem_cons_self hslash
    | cons first main =>
        rw [hfirst] at hrest
        exact ⟨main, by rw [(List.cons.inj hrest).1]⟩
  obtain ⟨main, hmain⟩ := hmain
  have hcut := root_prefix_intercalate_cutSegments limit
    (limit - Text.byteLength (splitExtension path).2) main
  rw [← hmain] at hcut
  exact hcut.trans (List.prefix_append _ _)

theorem root_prefix_finish {settings : Settings} {record : Record} {output : String}
    (hrooted : IsRooted settings output.toList) :
    ['/'] <+: (finish settings record output).toList := by
  have hne : output ≠ "" := by
    rintro rfl
    simp [IsRooted] at hrooted
  obtain ⟨suffix, _, hpath⟩ := exists_completePath_eq hne settings record
  rw [toList_finish, hpath]
  exact root_prefix_limitPath (root_prefix_expandHome (hrooted.of_prefix (List.prefix_append _ _)))

/-- A path from the root passes both checks on finished paths. -/
theorem checks_of_root_prefix {output : String} (hroot : ['/'] <+: output.toList)
    (source : String) : isUnexpandedHome output = false ∧ isUnrooted output source = false := by
  obtain ⟨rest, hrest⟩ := hroot
  simp [isUnexpandedHome, isUnrooted, ← hrest, homeRelative?]

end Songbook.Path
