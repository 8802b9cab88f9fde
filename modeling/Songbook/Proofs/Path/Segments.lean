import Songbook.Proofs.Formatter.DirectoryLevels

/-!
# Segments of finished paths

The last step of path output cuts each segment on its own. Directories are cut to the limit, and the
last segment to what its extension leaves of it. A segment that is cut ends in two dots, and these are
written even where there is no room for them. A limit of one byte, or an extension that fills the limit
up to the last byte, makes a segment too long that was to be shortened.
-/

namespace Songbook

namespace Path

/-! ## Segments of a path that is cut -/

theorem intercalate_concat_append (directories : List (List Char)) (name extension : List Char) :
    ['/'].intercalate (directories ++ [name ++ extension]) =
      ['/'].intercalate (directories ++ [name]) ++ extension := by
  induction directories with
  | nil => simp
  | cons directory directories ih =>
      rw [List.cons_append, List.cons_append, List.intercalate_cons_of_ne_nil (by simp),
        List.intercalate_cons_of_ne_nil (by simp), ih, ← List.append_assoc]

/-- A text without separators behind segments lengthens the last one. -/
theorem splitOn_intercalate_append {directories : List (List Char)} {name extension : List Char}
    (hdirectories : ∀ directory ∈ directories, '/' ∉ directory) (hname : '/' ∉ name)
    (hextension : '/' ∉ extension) :
    (['/'].intercalate (directories ++ [name]) ++ extension).splitOn '/' =
      directories ++ [name ++ extension] := by
  rw [← intercalate_concat_append]
  refine List.splitOn_intercalate '/' ?_ (by simp)
  intro segment hsegment
  rcases List.mem_append.mp hsegment with hmem | hmem
  · exact hdirectories segment hmem
  · rw [List.mem_singleton.mp hmem, List.mem_append, not_or]
    exact ⟨hname, hextension⟩

theorem cutSegments_concat (limit last : Nat) (directories : List (List Char))
    (name : List Char) : cutSegments limit last (directories ++ [name]) =
      directories.map (cutSegment limit) ++ [cutSegment last name] := by
  induction directories with
  | nil => rfl
  | cons directory directories ih =>
      rw [List.cons_append, cutSegments, ih]
      · rfl
      · simp

/-- Cutting a path cuts each directory to the limit, and the name of the file to what the extension
leaves of it. -/
theorem splitOn_limitPath (path : List Char) :
    ∃ directories name, path.splitOn '/' = directories ++ [name ++ (splitExtension path).2] ∧
      ∀ limit, (limitPath limit path).splitOn '/' = directories.map (cutSegment limit) ++
        [cutSegment (limit - Text.byteLength (splitExtension path).2) name ++
          (splitExtension path).2] := by
  obtain ⟨hsplit, hextension⟩ := splitExtension_spec path
  obtain ⟨directories, name, hmain⟩ :=
    (List.eq_nil_or_concat' _).resolve_left (List.splitOn_ne_nil '/' (splitExtension path).1)
  have hfree : ∀ segment ∈ directories ++ [name], '/' ∉ segment := by
    rw [← hmain]
    exact fun segment hsegment => Tag.not_mem_of_mem_splitOn hsegment
  rw [List.forall_mem_append, List.forall_mem_singleton] at hfree
  refine ⟨directories, name, ?_, fun limit => ?_⟩
  · have hpath : ['/'].intercalate ((splitExtension path).1.splitOn '/') = (splitExtension path).1 :=
      List.intercalate_splitOn '/'
    rw [hmain] at hpath
    conv => lhs; rw [← hsplit, ← hpath]
    exact splitOn_intercalate_append hfree.1 hfree.2 hextension
  · unfold limitPath
    dsimp only
    rw [hmain, cutSegments_concat]
    refine splitOn_intercalate_append ?_ (slash_not_mem_cutSegment hfree.2) hextension
    intro cut hcut
    obtain ⟨directory, hdirectory, rfl⟩ := List.mem_map.mp hcut
    exact slash_not_mem_cutSegment (hfree.1 directory hdirectory)

/-! ## The length of a segment that is cut -/

/-- A segment is within the limit together with what is kept behind it if it was so before, or if
there is room for the two dots. -/
theorem byteLength_cutSegment_le_iff {limit kept : Nat} {segment : List Char} :
    Text.byteLength (cutSegment (limit - kept) segment) + kept ≤ limit ↔
      Text.byteLength segment + kept ≤ limit ∨ kept + 2 ≤ limit := by
  have hdots : Text.byteLength ['.', '.'] = 2 := by decide
  have htaken := Text.byteLength_takeBytes_le (limit - kept - 2) segment
  unfold cutSegment
  split
  next hfits => omega
  next hlong =>
    rw [Text.byteLength_append, hdots]
    omega

end Path

namespace Formatter

open Pattern Songbook.Path

/-- The segments of a path that is shown are within the limit exactly if each segment of the complete
path is, or leaves room for the two dots: a directory does if the limit is two bytes or more, and the
last segment if its extension is shorter than the limit by two bytes. -/
theorem segments_within_limit_iff [RegexLibrary] {source : String} {settings : Path.Settings}
    {now : Binary64} {formatter : Formatter}
    (hcompile : compile source .path settings now = .ok formatter) (record : Record) :
    let path := completePath settings record (formatter.rawOutput record)
    (∀ segment ∈ (formatter.format record).toList.splitOn '/',
        Text.byteLength segment ≤ settings.segmentLimit) ↔
      (∀ directory ∈ (path.splitOn '/').dropLast,
        Text.byteLength directory ≤ settings.segmentLimit ∨ 2 ≤ settings.segmentLimit) ∧
      ∀ name ∈ (path.splitOn '/').getLast?,
        Text.byteLength name ≤ settings.segmentLimit ∨
          Text.byteLength (splitExtension path).2 + 2 ≤ settings.segmentLimit := by
  intro path
  obtain ⟨nodes, _, rfl, _⟩ := compile_eq_ok_iff.mp hcompile
  have hformat : ((ofTree source .path settings now nodes).format record).toList =
      limitPath settings.segmentLimit path := toList_finish settings record _
  obtain ⟨directories, name, hpath, hcut⟩ := splitOn_limitPath path
  -- nothing is kept behind a directory
  have hdirectory : ∀ directory, Text.byteLength (cutSegment settings.segmentLimit directory) ≤
      settings.segmentLimit ↔
        Text.byteLength directory ≤ settings.segmentLimit ∨ 2 ≤ settings.segmentLimit :=
    fun directory => by simpa using @byteLength_cutSegment_le_iff settings.segmentLimit 0 directory
  rw [hformat, hcut, hpath, List.dropLast_concat, List.getLast?_concat, List.forall_mem_append,
    List.forall_mem_map, List.forall_mem_singleton, Text.byteLength_append,
    byteLength_cutSegment_le_iff, ← Text.byteLength_append]
  simp only [hdirectory, Option.mem_some_iff, forall_eq']

/-- A song of one artist, with a title and a file. -/
def tune : Song where
  fields := [("artist", ["Anna Beth"]), ("title", ["Tune"]), ("~filename", ["a.flac"])]

/-- A limit that the extension and the two dots just fill. -/
theorem segments_within_seven_bytes :
    ∃ formatter, compile "/<artist>/<title>" .path ⟨7, none⟩ 0 = .ok formatter ∧
      (∀ segment ∈ (formatter.format tune.toRecord).toList.splitOn '/',
        Text.byteLength segment ≤ 7) ∧
      formatter.format tune.toRecord = "/Anna ../...flac" := by
  have hparse : Pattern.parse "/<artist>/<title>" =
      .ok [.literal "/", .tag "artist", .literal "/", .tag "title"] := rfl
  have hcompile : compile "/<artist>/<title>" .path ⟨7, none⟩ 0 =
      .ok (ofTree _ .path ⟨7, none⟩ 0 _) :=
    compile_of_trial hparse (by decide +kernel)
  exact ⟨_, hcompile, (segments_within_limit_iff hcompile _).mpr (by decide +kernel),
    by decide +kernel⟩

/-- In a limit of one byte there is no room for the two dots. -/
theorem segments_beyond_one_byte :
    ∃ formatter, compile "/<artist>/x" .path ⟨1, none⟩ 0 = .ok formatter ∧
      formatter.format (Song.set {} "artist" "Ann").toRecord = "/../x" ∧
      ¬ ∀ segment ∈ (formatter.format (Song.set {} "artist" "Ann").toRecord).toList.splitOn '/',
        Text.byteLength segment ≤ 1 := by
  have hparse : Pattern.parse "/<artist>/x" =
      .ok [.literal "/", .tag "artist", .literal "/x"] := rfl
  have hcompile : compile "/<artist>/x" .path ⟨1, none⟩ 0 = .ok (ofTree _ .path ⟨1, none⟩ 0 _) :=
    compile_of_trial hparse (by decide +kernel)
  exact ⟨_, hcompile, by decide +kernel, by decide +kernel⟩

end Formatter

end Songbook
