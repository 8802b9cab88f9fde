import Mathlib.Data.List.Forall2
import Songbook.Proofs.Path.Segments

/-!
# How a path is cut

A path that is cut has the segments it had, each of them whole or shortened by itself. What is left
of a segment that is too long is as much of its start as leaves room for two dots. The last segment
is cut before its extension, which stays, and has the fewer bytes for that. An extension is a matter
of the last segment alone: dots in directories begin none, nor do dots that a name starts with.
-/

namespace Songbook.Path

/-! ## Segments that are cut -/

/-- The longest start of a text that has at most so many bytes. -/
structure IsLongestStart (budget : Nat) (text start : List Char) : Prop where
  isStart : start <+: text
  fits : Text.byteLength start ≤ budget
  longest : ∀ other, other <+: text → Text.byteLength other ≤ budget → other <+: start

/-- A segment and what it is cut to: one that fits is kept, and of any other one there is left as
much as fits in front of two dots. -/
inductive IsCut (budget : Nat) (segment : List Char) : List Char → Prop
  | kept (hfits : Text.byteLength segment ≤ budget) : IsCut budget segment segment
  | cut {start : List Char} (hlong : budget < Text.byteLength segment)
      (hstart : IsLongestStart (budget - 2) segment start) :
      IsCut budget segment (start ++ ['.', '.'])

theorem cutSegment_of_fits {budget : Nat} {segment : List Char}
    (hfits : Text.byteLength segment ≤ budget) : cutSegment budget segment = segment :=
  if_pos hfits

theorem isCut_cutSegment (budget : Nat) (segment : List Char) :
    IsCut budget segment (cutSegment budget segment) := by
  unfold cutSegment
  split
  next hfits => exact .kept hfits
  next hlong =>
    exact .cut (Nat.lt_of_not_le hlong)
      { isStart := Text.takeBytes_prefix _ _
        fits := Text.byteLength_takeBytes_le _ _
        longest := fun _ => Text.prefix_takeBytes }

/-! ## The extension of the last segment -/

/-- A name split before its extension, which is its last dot and what follows it. A dot with nothing
but dots before it begins no extension. -/
inductive SplitsAtExtension : List Char → List Char → Prop
  | bare {name : List Char} (hdots : ∀ front after, name = front ++ '.' :: after → '.' ∉ after →
      ∀ c ∈ front, c = '.') : SplitsAtExtension name []
  | extended {stem after : List Char} (hafter : '.' ∉ after) (hstem : ∃ c ∈ stem, c ≠ '.') :
      SplitsAtExtension stem ('.' :: after)

/-- What follows the last separator of a path is its last segment. -/
theorem splitOn_eq_lastSegment (path : List Char) :
    ∃ directories, path.splitOn '/' =
      directories ++ [(path.reverse.takeWhile (· != '/')).reverse] := by
  obtain ⟨_, hslash⟩ := lastSegment_suffix path
  by_cases hmem : '/' ∈ path
  · obtain ⟨front, hfront⟩ := lastPart_suffix hmem
    refine ⟨front.splitOn '/', ?_⟩
    have happend := splitOn_append_slash front (path.reverse.takeWhile (· != '/')).reverse
    rwa [hfront, List.splitOn_eq_singleton hslash] at happend
  · have hwhole : path.reverse.takeWhile (· != '/') = path.reverse := by
      rw [List.takeWhile_eq_self_iff]
      intro c hc
      rw [bne_iff_ne]
      rintro rfl
      exact hmem (List.mem_reverse.mp hc)
    exact ⟨[], by rw [hwhole, List.reverse_reverse, List.splitOn_eq_singleton hmem]; rfl⟩

/-- A name without a dot behind those that it starts with has no extension. -/
theorem splitsAtExtension_bare {name : List Char} (hdot : '.' ∉ name.dropWhile (· = '.')) :
    SplitsAtExtension name [] := by
  refine .bare fun front after hname _ c hc => ?_
  have hsplit : front ++ '.' :: after =
      name.takeWhile (· = '.') ++ name.dropWhile (· = '.') := by
    rw [← hname, List.takeWhile_append_dropWhile]
  rcases List.append_eq_append_iff.mp hsplit with ⟨more, hdots, _⟩ | ⟨more, _, hrest⟩
  · have hmem : c ∈ name.takeWhile (· = '.') := by
      rw [hdots]
      exact List.mem_append_left _ hc
    simpa using List.mem_takeWhile_imp hmem
  · exact absurd (hrest ▸ List.mem_append_right _ List.mem_cons_self) hdot

/-- A dot behind those that a name starts with begins its extension if no other dot follows. -/
theorem splitsAtExtension_extended {stem after : List Char} (hafter : '.' ∉ after)
    (hsuffix : '.' :: after <:+ (stem ++ '.' :: after).dropWhile (· = '.')) :
    SplitsAtExtension stem ('.' :: after) := by
  obtain ⟨front, hfront⟩ := hsuffix
  have hwhole : stem ++ '.' :: after =
      (stem ++ '.' :: after).takeWhile (· = '.') ++ front ++ '.' :: after := by
    rw [List.append_assoc, hfront, List.takeWhile_append_dropWhile]
  have hstem : stem = (stem ++ '.' :: after).takeWhile (· = '.') ++ front :=
    List.append_cancel_right hwhole
  have hfirst := List.head?_dropWhile_not (· = '.') (stem ++ '.' :: after)
  rw [← hfront] at hfirst
  -- what follows the dots at the start begins with another character, so it is not the extension
  cases front with
  | nil => simp at hfirst
  | cons first front =>
      refine .extended hafter ⟨first, ?_, by simpa using hfirst⟩
      rw [hstem]
      exact List.mem_append_right _ List.mem_cons_self

theorem splitsAtExtension_splitExtension {path name : List Char} {directories : List (List Char)}
    (hpath : path.splitOn '/' = directories ++ [name ++ (splitExtension path).2]) :
    SplitsAtExtension name (splitExtension path).2 := by
  obtain ⟨front, hfront⟩ := splitOn_eq_lastSegment path
  have hlast : (path.reverse.takeWhile (· != '/')).reverse = name ++ (splitExtension path).2 :=
    List.singleton_inj.mp (List.append_inj' (hfront.symm.trans hpath) rfl).2
  unfold splitExtension at hlast ⊢
  dsimp only at hlast ⊢
  split
  next hdot =>
    rw [if_pos hdot] at hlast
    refine splitsAtExtension_extended (not_mem_lastPart '.' _) ?_
    rw [← hlast]
    exact lastPart_suffix (List.contains_iff_mem.mp hdot)
  next hdot =>
    rw [if_neg hdot, List.append_nil] at hlast
    rw [← hlast]
    exact splitsAtExtension_bare (by simpa using hdot)

/-! ## Paths that are cut -/

/-- The segments of a path and what they are cut to: directories to the limit, and the last one to
what its extension leaves of the limit, with the extension behind it. -/
inductive AreCut (limit : Nat) : List (List Char) → List (List Char) → Prop
  | intro {directories cuts : List (List Char)} {stem extension cut : List Char}
      (hextension : SplitsAtExtension stem extension)
      (hdirectories : List.Forall₂ (IsCut limit) directories cuts)
      (hstem : IsCut (limit - Text.byteLength extension) stem cut) :
      AreCut limit (directories ++ [stem ++ extension]) (cuts ++ [cut ++ extension])

theorem AreCut.length_eq {limit : Nat} {segments cuts : List (List Char)}
    (hcut : AreCut limit segments cuts) : cuts.length = segments.length := by
  cases hcut with
  | intro _ hdirectories _ =>
      rw [List.length_append, List.length_append, hdirectories.length_eq]
      rfl

theorem areCut_limitPath (limit : Nat) (path : List Char) :
    AreCut limit (path.splitOn '/') ((limitPath limit path).splitOn '/') := by
  obtain ⟨directories, name, hpath, hcut⟩ := splitOn_limitPath path
  have hextension := splitsAtExtension_splitExtension hpath
  rw [hcut, hpath]
  refine .intro hextension ?_ (isCut_cutSegment _ name)
  rw [List.forall₂_map_right_iff]
  exact List.forall₂_same.mpr fun directory _ => isCut_cutSegment limit directory

theorem limitPath_of_fits {limit : Nat} {path : List Char}
    (hfits : ∀ segment ∈ path.splitOn '/', Text.byteLength segment ≤ limit) :
    limitPath limit path = path := by
  obtain ⟨directories, name, hpath, hcut⟩ := splitOn_limitPath path
  rw [hpath, List.forall_mem_append, List.forall_mem_singleton, Text.byteLength_append] at hfits
  obtain ⟨hdirectories, hname⟩ := hfits
  have hkept : directories.map (cutSegment limit) = directories := by
    conv => rhs; rw [← List.map_id directories]
    exact List.map_congr_left fun directory hdirectory =>
      cutSegment_of_fits (hdirectories directory hdirectory)
  have hstem : cutSegment (limit - Text.byteLength (splitExtension path).2) name = name :=
    cutSegment_of_fits (by omega)
  have hsegments : (limitPath limit path).splitOn '/' = path.splitOn '/' := by
    rw [hcut, hkept, hstem, hpath]
  calc limitPath limit path
      = ['/'].intercalate ((limitPath limit path).splitOn '/') :=
        (List.intercalate_splitOn '/').symm
    _ = ['/'].intercalate (path.splitOn '/') := by rw [hsegments]
    _ = path := List.intercalate_splitOn '/'

/-- A path that is cut has as many segments as before, each cut to the limit, the last one before
its extension and to what that leaves of the limit. If every segment fits, nothing is cut. -/
theorem limitPath_cuts_segments (limit : Nat) (path : List Char) :
    ((limitPath limit path).splitOn '/').length = (path.splitOn '/').length ∧
      AreCut limit (path.splitOn '/') ((limitPath limit path).splitOn '/') ∧
      ((∀ segment ∈ path.splitOn '/', Text.byteLength segment ≤ limit) →
        limitPath limit path = path) :=
  ⟨(areCut_limitPath limit path).length_eq, areCut_limitPath limit path, limitPath_of_fits⟩

/-- A limit that every segment fits in: a dot in a directory is as good as any character, and a
hidden file has an extension only behind its name. -/
theorem limitPath_cuts_segments_hidden :
    (∀ segment ∈ "/a.b//.hid.é".toList.splitOn '/', Text.byteLength segment ≤ 7) ∧
      limitPath 7 "/a.b//.hid.é".toList = "/a.b//.hid.é".toList ∧
      limitPath 6 "/a.b//.hid.é".toList = "/a.b//....é".toList := by
  have hfits : ∀ segment ∈ "/a.b//.hid.é".toList.splitOn '/', Text.byteLength segment ≤ 7 := by
    decide
  exact ⟨hfits, (limitPath_cuts_segments 7 _).2.2 hfits, by decide⟩

end Songbook.Path
