import Songbook.Dialect
import Songbook.Proofs.Number.Padded
import Songbook.Proofs.Path
import Songbook.Proofs.Text

/-!
# Track numbers in paths

A track is written as its number, a slash and the total. A path shows the number alone, in as many
places as the total has digits, and two at least. So the numbers of all tracks of one total are shown
as numerals of one length, and the names of their files are in the order of the tracks.
-/

namespace Songbook

namespace Path

open Decimal

/-! ## Numerals with blanks around them -/

/-- A number in decimal digits with blanks around it. -/
inductive IsSpaced (n : Nat) : List Char → Prop
  | intro {before digits after : List Char} (hbefore : ∀ c ∈ before, Text.isBlank c = true)
      (hdigits : readNat? digits = some n) (hafter : ∀ c ∈ after, Text.isBlank c = true) :
      IsSpaced n (before ++ digits ++ after)

theorem isBlank_of_isDigit {c : Char} (hdigit : c.isDigit = true) : Text.isBlank c = false := by
  have hall : ("0123456789".toList.all fun digit => !Text.isBlank digit) = true := by decide
  simpa using holds_of_isDigit hall hdigit

theorem isSeparatorLike_of_isDigit {c : Char} (hdigit : c.isDigit = true) :
    isSeparatorLike c = false := by
  have hall : ("0123456789".toList.all fun digit => !isSeparatorLike digit) = true := by decide
  simpa using holds_of_isDigit hall hdigit

namespace IsSpaced

variable {n : Nat} {text : List Char}

theorem slash_not_mem (htext : IsSpaced n text) : '/' ∉ text := by
  cases htext with
  | intro hbefore hdigits hafter =>
      simp only [List.mem_append, not_or]
      refine ⟨⟨fun hmem => ?_, fun hmem => ?_⟩, fun hmem => ?_⟩
      · exact absurd (hbefore _ hmem) (by decide)
      · exact absurd ((readNat?_eq_some_iff.mp hdigits).2.1 _ hmem) (by decide)
      · exact absurd (hafter _ hmem) (by decide)

/-- A text is a number with blanks around it if trimming leaves the number. -/
theorem iff_trim : IsSpaced n text ↔ readNat? (Text.trim text) = some n := by
  constructor
  · intro htext
    cases htext with
    | intro hbefore hdigits hafter =>
        have hunblank := fun c hc =>
          isBlank_of_isDigit ((readNat?_eq_some_iff.mp hdigits).2.1 c hc)
        rwa [Text.trim_append_blanks hafter, Text.trim_append_of_blank hbefore,
          Text.trim_of_unblank hunblank]
  · intro hread
    obtain ⟨before, after, hsplit, hbefore, hafter, _⟩ := Text.exists_blanks_around text
    rw [hsplit, ← List.append_assoc]
    exact .intro hbefore hread hafter

theorem readSigned?_trim (htext : IsSpaced n text) (hbound : n < 2 ^ 63) :
    Integer.readSigned? (Text.trim text) = some (n : Int) :=
  Integer.readSigned?_of_readNat? (iff_trim.mp htext) hbound

end IsSpaced

/-! ## Tracks -/

/-- The number of a track and the total, with a slash between them. -/
inductive IsTrack (n total : Nat) (value : String) : Prop
  | intro (first second : List Char) (hvalue : value.toList = first ++ '/' :: second)
      (hfirst : IsSpaced n first) (hsecond : IsSpaced total second)

/-- How many places a track number has in a path. -/
def trackWidth (total : Nat) : Nat :=
  max 2 (toString total).length

variable {n total : Nat} {value : String}

theorem paddedNumber?_track (hvalue : IsTrack n total value) (hle : n ≤ total)
    (htotal : total < 2 ^ 63) : paddedNumber? "tracknumber" value.toList =
      some (Integer.padded (trackWidth total) (n : Int)).toList := by
  obtain ⟨first, second, hsplit, hfirst, hsecond⟩ := hvalue
  have hparts : value.toList.splitOn '/' = [first, second] := by
    rw [hsplit, splitOn_append_slash, List.splitOn_eq_singleton hfirst.slash_not_mem,
      List.splitOn_eq_singleton hsecond.slash_not_mem, List.singleton_append]
  have hwidth : numberWidth? "tracknumber" [first, second] = some (trackWidth total) := by
    have hread : ([first, second][1]?.bind fun part => Integer.readSigned? (Text.trim part)) =
        some (total : Int) := hsecond.readSigned?_trim htotal
    rw [numberWidth?, if_pos rfl, hread]
    rfl
  have hnumber : Integer.readSigned? (Text.trim first) = some (n : Int) :=
    hfirst.readSigned?_trim (Nat.lt_of_le_of_lt hle htotal)
  unfold paddedNumber?
  simp only [hparts, hwidth, hnumber, List.headD_cons, Option.bind_eq_bind, Option.bind_some]

/-- A track number is shown as a numeral of it with as many places as the total gives. -/
theorem formatValue_track (hvalue : IsTrack n total value) (hle : n ≤ total)
    (htotal : total < 2 ^ 63) :
    (formatValue "tracknumber" value).toList.length = trackWidth total ∧
      readNat? (formatValue "tracknumber" value).toList = some n := by
  have hfits : (toString n).length ≤ trackWidth total :=
    (length_toString_mono hle).trans (Nat.le_max_right _ _)
  obtain ⟨hlength, hread⟩ := Integer.padded_natCast hfits
  have hdigits := (readNat?_eq_some_iff.mp hread).2.1
  -- digits are neither cleaned nor trimmed
  have hkept : ∀ c ∈ (Integer.padded (trackWidth total) (n : Int)).toList,
      (if isSeparatorLike c then '_' else c) = c := by
    intro c hc
    rw [isSeparatorLike_of_isDigit (hdigits c hc)]
    rfl
  have hshown : (formatValue "tracknumber" value).toList =
      (Integer.padded (trackWidth total) (n : Int)).toList := by
    unfold formatValue
    simp only [paddedNumber?_track hvalue hle htotal, Option.getD_some]
    rw [if_neg (by decide), String.toList_ofList, List.map_congr_left hkept, List.map_id',
      Text.trim_of_unblank fun c hc => isBlank_of_isDigit (hdigits c hc)]
  rw [hshown]
  exact ⟨hlength, hread⟩

/-- Two tracks of one total are shown as numerals of one length, the earlier one before the later in
the order of texts. So are the names of files in which they stand at the same place. -/
theorem tracks_in_order {total a b : Nat} (htotal : total < 2 ^ 63) (hlt : a < b) (hle : b ≤ total)
    {first second : String} (hfirst : IsTrack a total first) (hsecond : IsTrack b total second) :
    let earlier := Dialect.path.formatValue "tracknumber" first
    let later := Dialect.path.formatValue "tracknumber" second
    earlier.length = later.length ∧ readNat? earlier.toList = some a ∧
      readNat? later.toList = some b ∧ earlier < later ∧
      ∀ front after more : String, front ++ earlier ++ after < front ++ later ++ more := by
  intro earlier later
  obtain ⟨hlength, hread⟩ := formatValue_track hfirst (hlt.le.trans hle) htotal
  obtain ⟨hlength', hread'⟩ := formatValue_track hsecond hle htotal
  have hsame : earlier.toList.length = later.toList.length := hlength.trans hlength'.symm
  have happend : ∀ after more, earlier.toList ++ after < later.toList ++ more :=
    append_lt_append_of_readNat?_lt hsame hread hread' hlt
  refine ⟨hsame, hread, hread', ?_, fun front after more => ?_⟩
  · have hlists := happend [] []
    rwa [List.append_nil, List.append_nil, ← String.lt_iff] at hlists
  · rw [String.lt_iff, String.toList_append, String.toList_append, String.toList_append,
      String.toList_append, List.append_assoc, List.append_assoc]
    exact List.append_left_lt (happend _ _)

/-- The ninth and the tenth track of a hundred, with blanks around some of the numbers. -/
theorem tracks_in_order_ninth :
    (100 < 2 ^ 63 ∧ 9 < 10 ∧ 10 ≤ 100) ∧ IsTrack 9 100 "9/ 100" ∧ IsTrack 10 100 " 10 /100" ∧
      Dialect.path.formatValue "tracknumber" "9/ 100" = "009" ∧
      Dialect.path.formatValue "tracknumber" " 10 /100" = "010" ∧
      Dialect.path.formatValue "tracknumber" "9/ 100" <
        Dialect.path.formatValue "tracknumber" " 10 /100" := by
  have hninth : IsTrack 9 100 "9/ 100" := .intro "9".toList " 100".toList rfl
    (IsSpaced.iff_trim.mpr (by decide)) (IsSpaced.iff_trim.mpr (by decide))
  have htenth : IsTrack 10 100 " 10 /100" := .intro " 10 ".toList "100".toList rfl
    (IsSpaced.iff_trim.mpr (by decide)) (IsSpaced.iff_trim.mpr (by decide))
  exact ⟨by decide, hninth, htenth, by decide, by decide,
    (tracks_in_order (by decide) (by decide) (by decide) hninth htenth).2.2.2.1⟩

end Path

end Songbook
