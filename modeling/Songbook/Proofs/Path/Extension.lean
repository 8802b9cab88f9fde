import Songbook.Proofs.Path.Cut

/-!
# The type of a file

A path gets the extension of the file of its record, and its last segment keeps that when it is cut.
The extension of the file name is what follows its last dot, and that of the path that is cut starts
at the last dot of its last segment. The two are one as long as something other than dots stands
before that dot. How many bytes a segment may have, and where the home directory is, makes no
difference.
-/

namespace Songbook

namespace Path

/-! ## What follows the last dot -/

/-- A name with a character other than a dot before its last dot. -/
def HasStem (name : List Char) : Prop :=
  ∃ stem after, name = stem ++ '.' :: after ∧ '.' ∉ after ∧ ∃ c ∈ stem, c ≠ '.'

theorem dot_not_mem_extension? {path extension : List Char}
    (hextension : extension? path = some extension) : '.' ∉ extension := by
  unfold extension? at hextension
  split at hextension
  next => cases hextension
  next name _ =>
    split at hextension
    next =>
      cases hextension
      exact not_mem_lastPart '.' name
    next => cases hextension

/-- What follows the last dot of a text does not depend on how the text is split. -/
theorem eq_of_dot_suffix {text after other : List Char} (hafter : '.' :: after <:+ text)
    (hother : '.' :: other <:+ text) (hdot : '.' ∉ after) (hdot' : '.' ∉ other) :
    after = other := by
  have heq : ∀ {first second : List Char}, '.' ∉ second → '.' :: first <:+ '.' :: second →
      first = second := by
    intro first second hsecond hsuffix
    rcases List.suffix_cons_iff.mp hsuffix with heq | hinside
    · exact (List.cons.inj heq).2
    · exact absurd (hinside.mem List.mem_cons_self) hsecond
  rcases List.suffix_or_suffix_of_suffix hafter hother with hshort | hlong
  · exact heq hdot' hshort
  · exact (heq hdot hlong).symm

/-- The last segment of a path ends it. -/
theorem suffix_of_mem_getLast? {path name : List Char}
    (hname : name ∈ (path.splitOn '/').getLast?) : name <:+ path := by
  obtain ⟨directories, hpath⟩ := splitOn_eq_lastSegment path
  rw [hpath, List.getLast?_concat, Option.mem_some_iff] at hname
  rw [← hname]
  exact (lastSegment_suffix path).1

/-- The extension of a path whose last segment has a stem starts at the last dot. -/
theorem splitExtension_of_stem {path stem after : List Char}
    (hname : stem ++ '.' :: after ∈ (path.splitOn '/').getLast?) (hafter : '.' ∉ after)
    (hstem : ∃ c ∈ stem, c ≠ '.') : (splitExtension path).2 = '.' :: after := by
  obtain ⟨directories, name, hpath, _⟩ := splitOn_limitPath path
  have hsplits := splitsAtExtension_splitExtension hpath
  rw [hpath, List.getLast?_concat, Option.mem_some_iff] at hname
  generalize (splitExtension path).2 = extension at hsplits hname ⊢
  cases hsplits with
  | bare hdots =>
      rw [List.append_nil] at hname
      obtain ⟨c, hc, hother⟩ := hstem
      exact absurd (hdots stem after hname hafter c hc) hother
  | extended hfree _ =>
      rw [eq_of_dot_suffix ⟨_, hname⟩ ⟨_, rfl⟩ hfree hafter]

/-! ## Completion -/

/-- What a pattern shows with the extension of the record's file, unless it ends in that already. -/
def extendedPath (record : Record) (output : String) : List Char :=
  match suffixOf? (record.comma "~filename") with
  | some suffix => withSuffix output.toList suffix
  | none => output.toList

theorem completePath_of_shown {output : String} (houtput : output ≠ "") (settings : Settings)
    (record : Record) :
    completePath settings record output = expandHome settings.home (extendedPath record output) :=
  if_neg houtput

theorem extendedPath_empty (record : Record) :
    extendedPath record "" = (suffixOf? (record.comma "~filename")).getD [] := by
  unfold extendedPath
  split
  next suffix hsuffix =>
    rw [hsuffix, Option.getD_some, withSuffix]
    split
    next hends => exact (List.suffix_nil.mp (List.isSuffixOf_iff_suffix.mp hends)).symm
    next => rfl
  next hnone => rw [hnone]; rfl

section Suffix

variable {record : Record} {extension : List Char}

theorem suffixOf?_of_extension? {filename : String}
    (hextension : extension? filename.toList = some extension) :
    suffixOf? filename = some ('.' :: Unicode.lowercase extension) ∧
      '.' ∉ Unicode.lowercase extension := by
  refine ⟨by rw [suffixOf?, hextension, Option.map_some], fun hmem => ?_⟩
  exact dot_not_mem_extension? hextension (Unicode.mem_of_mem_lowercaseAfter (by decide) hmem)

/-- An extension in ASCII is lowered character by character, and no lower case changes it again. -/
theorem lowercase_extension (hascii : ∀ c ∈ extension, c.toNat < 128) :
    (∀ c ∈ Unicode.lowercase extension, c.toNat < 128) ∧
      (Unicode.lowercase extension).map Unicode.toLowercase = Unicode.lowercase extension := by
  have hmap : ∀ c ∈ extension.map Unicode.toLowercase, c.toNat < 128 := by
    intro c hc
    obtain ⟨d, hd, rfl⟩ := List.mem_map.mp hc
    exact (Unicode.toLowercase_of_ascii (hascii d hd)).1
  have hlower : Unicode.lowercase extension = extension.map Unicode.toLowercase :=
    Unicode.lowercaseAfter_of_ascii hmap
  rw [hlower]
  refine ⟨hmap, ?_⟩
  rw [List.map_map]
  exact List.map_congr_left fun c hc => (Unicode.toLowercase_of_ascii (hascii c hc)).2

/-- An extended path ends in a dot and the extension of the file, in some case. -/
theorem exists_suffix_extendedPath
    (hextension : extension? (record.comma "~filename").toList = some extension)
    (hascii : ∀ c ∈ extension, c.toNat < 128) (output : String) :
    ∃ after, '.' :: after <:+ extendedPath record output ∧ '.' ∉ after ∧
      ('.' :: after).map Unicode.toLowercase = '.' :: Unicode.lowercase extension := by
  obtain ⟨hlow, hlowered⟩ := lowercase_extension hascii
  obtain ⟨hsuffix, hdot⟩ := suffixOf?_of_extension? hextension
  unfold extendedPath
  rw [hsuffix]
  change ∃ after, '.' :: after <:+ withSuffix output.toList _ ∧ _
  unfold withSuffix
  split
  next hends =>
    obtain ⟨tail, htail, hmap⟩ := Unicode.exists_suffix_of_lowercaseAfter
      (List.forall_mem_cons.mpr ⟨by decide, hlow⟩) (List.isSuffixOf_iff_suffix.mp hends)
    cases tail with
    | nil => cases hmap
    | cons first after =>
        obtain ⟨hfirst, hafter⟩ := List.cons.inj hmap
        obtain rfl : first = '.' := Unicode.eq_of_toLowercase (by decide) hfirst
        refine ⟨after, htail, fun hmem => hdot ?_, hmap⟩
        rw [← hafter]
        exact List.mem_map.mpr ⟨'.', hmem, hfirst⟩
  next =>
    refine ⟨Unicode.lowercase extension, List.suffix_append _ _, hdot, ?_⟩
    rw [List.map_cons, hlowered]
    rfl

end Suffix

/-- What stands in front of a separator does not change the last segment. -/
theorem getLast?_splitOn_append (front rest : List Char) :
    ((front ++ '/' :: rest).splitOn '/').getLast? = (rest.splitOn '/').getLast? := by
  rw [splitOn_append_slash, List.getLast?_append_of_ne_nil _ (List.splitOn_ne_nil _ _)]

theorem homeRelative?_eq_some_iff {path rest : List Char} : homeRelative? path = some rest ↔
    path = '~' :: rest ∧ (rest = [] ∨ ['/'] <+: rest) := by
  constructor
  · intro hrest
    unfold homeRelative? at hrest
    split at hrest
    next =>
      cases hrest
      exact ⟨rfl, Or.inl rfl⟩
    next more =>
      cases hrest
      exact ⟨rfl, Or.inr (List.prefix_append ['/'] more)⟩
    next => cases hrest
  · rintro ⟨rfl, rfl | ⟨more, rfl⟩⟩ <;> rfl

/-- Putting the home directory in leaves the last segment, unless that is a lone `~`. -/
theorem getLast?_splitOn_expandHome {path name : List Char} (home : Option String)
    (hname : name ∈ (path.splitOn '/').getLast?) (htilde : name ≠ ['~']) :
    name ∈ ((expandHome home path).splitOn '/').getLast? := by
  unfold expandHome
  split
  next rest home hrest =>
    obtain ⟨rfl, rfl | ⟨more, rfl⟩⟩ := homeRelative?_eq_some_iff.mp hrest
    · have hlone : ['~'].splitOn '/' = [['~']] := List.splitOn_eq_singleton (by decide)
      rw [hlone, List.getLast?_singleton, Option.mem_some_iff] at hname
      exact absurd hname.symm htilde
    · have hlast := getLast?_splitOn_append ['~'] more
      rw [List.singleton_append, getLast?_splitOn_append]
      rwa [List.singleton_append, ← List.singleton_append, hlast] at hname
  next => exact hname

/-- Cutting a path keeps its extension. -/
theorem extension_suffix_limitPath (limit : Nat) (path : List Char) :
    (splitExtension path).2 <:+ limitPath limit path :=
  List.suffix_append _ _

/-- An extension alone has no stem, so what is extended to a name with one is not empty. -/
theorem ne_empty_of_hasStem {record : Record} {extension : List Char} {output : String}
    (hextension : extension? (record.comma "~filename").toList = some extension)
    (hstem : ∃ name ∈ ((extendedPath record output).splitOn '/').getLast?, HasStem name) :
    output ≠ "" := by
  rintro rfl
  obtain ⟨hsuffix, hdot⟩ := suffixOf?_of_extension? hextension
  obtain ⟨name, hname, stem, after, hsplit, hafter, c, hc, _⟩ := hstem
  rw [extendedPath_empty, hsuffix, Option.getD_some,
    List.splitOn_eq_singleton (slash_not_mem_suffixOf? hsuffix), List.getLast?_singleton,
    Option.mem_some_iff, hsplit] at hname
  rw [eq_of_dot_suffix ⟨stem, hname.symm⟩ List.suffix_rfl hafter hdot, List.self_eq_append_left]
    at hname
  rw [hname] at hc
  exact absurd hc List.not_mem_nil

end Path

namespace Formatter

open Songbook.Path

section Library

variable [RegexLibrary]

/-- A path is what is shown with the extension, once the home directory is put in and the segments are
cut. -/
theorem toList_format {formatter : Formatter} (hdialect : formatter.dialect = .path)
    {record : Record} (hshown : formatter.rawOutput record ≠ "") :
    (formatter.format record).toList = limitPath formatter.settings.segmentLimit
      (expandHome formatter.settings.home (extendedPath record (formatter.rawOutput record))) := by
  rw [format, finish, hdialect, ← completePath_of_shown hshown]
  exact toList_finish _ _ _

/-- A path that is shown ends in a dot and the extension of the record's file, up to case, whatever
the limit and the home directory, if the last segment of what is completed has a character other than
a dot before its last dot. -/
theorem format_keeps_extension {formatter : Formatter} (hdialect : formatter.dialect = .path)
    {record : Record} {extension : List Char}
    (hextension : extension? (record.comma "~filename").toList = some extension)
    (hascii : ∀ c ∈ extension, c.toNat < 128)
    (hstem : ∃ name ∈ ((extendedPath record (formatter.rawOutput record)).splitOn '/').getLast?,
      HasStem name) :
    '.' :: Unicode.lowercase extension <:+ Unicode.lowercase (formatter.format record).toList := by
  have hformat := toList_format hdialect (ne_empty_of_hasStem hextension hstem)
  obtain ⟨name, hname, stem, after, rfl, hafter, hother⟩ := hstem
  -- the last dot of the path begins both what was put behind it and what is kept
  obtain ⟨ending, hending, hdot, hlower⟩ :=
    exists_suffix_extendedPath hextension hascii (formatter.rawOutput record)
  have hsame : ending = after := eq_of_dot_suffix hending
    ((List.suffix_append stem _).trans (suffix_of_mem_getLast? hname)) hdot hafter
  have htilde : stem ++ '.' :: after ≠ ['~'] := by
    intro heq
    have hmem : '.' ∈ ['~'] := heq ▸ List.mem_append_right _ List.mem_cons_self
    exact absurd hmem (by decide)
  have hkept : '.' :: after <:+ (formatter.format record).toList := by
    rw [hformat, ← splitExtension_of_stem
      (getLast?_splitOn_expandHome formatter.settings.home hname htilde) hafter hother]
    exact extension_suffix_limitPath _ _
  rw [hsame] at hlower
  rw [← hlower]
  refine Unicode.map_toLowercase_suffix ?_ hkept
  rw [hlower]
  exact List.forall_mem_cons.mpr ⟨by decide, (lowercase_extension hascii).1⟩

end Library

/-- A song with the type of its file in the title, in another case. -/
def typedTune : Song where
  fields := [("title", ["Tune.FlAC"]), ("~filename", ["/in/a.b.FLAC"])]

/-- A limit that is shorter than the extension, and a home directory that is the root. -/
theorem format_keeps_extension_flac :
    ∃ formatter, compile "~/<title>" .path ⟨3, some "/"⟩ 0 = .ok formatter ∧
      extension? (typedTune.toRecord.comma "~filename").toList = some "FLAC".toList ∧
      (∀ c ∈ "FLAC".toList, c.toNat < 128) ∧
      (∃ name ∈ ((extendedPath typedTune.toRecord
        (formatter.rawOutput typedTune.toRecord)).splitOn '/').getLast?, HasStem name) ∧
      formatter.format typedTune.toRecord = "/...FlAC" ∧
      '.' :: Unicode.lowercase "FLAC".toList <:+
        Unicode.lowercase (formatter.format typedTune.toRecord).toList := by
  have hparse : Pattern.parse "~/<title>" = .ok [.literal "~/", .tag "title"] := rfl
  have hcompile : compile "~/<title>" .path ⟨3, some "/"⟩ 0 =
      .ok (ofTree _ .path ⟨3, some "/"⟩ 0 _) := compile_of_trial hparse (by decide +kernel)
  have hextension : extension? (typedTune.toRecord.comma "~filename").toList =
      some "FLAC".toList := by decide +kernel
  have hascii : ∀ c ∈ "FLAC".toList, c.toNat < 128 := by
    have hall : ("FLAC".toList.all fun c => c.toNat < 128) = true := by decide
    exact fun c hc => of_decide_eq_true (List.all_eq_true.mp hall c hc)
  refine ⟨_, hcompile, hextension, hascii, ?_⟩
  have hstem : ∃ name ∈ ((extendedPath typedTune.toRecord ((ofTree "~/<title>" .path ⟨3, some "/"⟩ 0
      [.literal "~/", .tag "title"]).rawOutput typedTune.toRecord)).splitOn '/').getLast?,
        HasStem name :=
    ⟨"Tune.FlAC".toList, by decide +kernel, "Tune".toList, "FlAC".toList, rfl, by decide, 'T',
      by decide, by decide⟩
  exact ⟨hstem, by decide +kernel, format_keeps_extension rfl hextension hascii hstem⟩

end Formatter

end Songbook
