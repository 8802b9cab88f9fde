import Mathlib.Data.List.Basic
import Songbook.Proofs.Pattern.Reading
import Songbook.Proofs.Song.Tied

/-!
# Part names of tied tags

A `~` stands in front of synthetic names, between tied ones and in the mark of numeric ones.
Splitting tells the three apart: its parts are never empty and never tied, so one round of splitting
is enough, and a `~` that a pattern adds in front of a tied name changes nothing. Names written one
after another are split into the same names again.
-/

namespace Songbook

namespace Tag

/-! ## Splitting -/

/-- The parts of a tied name, given without the `~` in front. -/
def partsOf (name : List Char) : List String :=
  ((name.splitOn sigil).filter fun part => !part.isEmpty).map partName

theorem isTied_of_synthetic {name : List Char} (hsigil : sigil ∈ name) :
    isTied (String.ofList (sigil :: name)) = true := by
  simpa [isTied] using hsigil

theorem split_of_synthetic {name : List Char} (hsigil : sigil ∈ name) :
    split (String.ofList (sigil :: name)) = partsOf name := by
  have hsynthetic : isSynthetic (String.ofList (sigil :: name)) = true := by simp [isSynthetic]
  simp only [split, isTied_of_synthetic hsigil, hsynthetic, ↓reduceIte, String.toList_ofList,
    List.drop_one, List.tail_cons, partsOf]

theorem isTied_of_not_synthetic {tag : String} (hsynthetic : isSynthetic tag = false)
    (hsigil : sigil ∈ tag.toList) : isTied tag = true := by
  unfold isSynthetic at hsynthetic
  unfold isTied
  cases hname : tag.toList with
  | nil => simp [hname] at hsigil
  | cons c rest =>
      rw [hname] at hsynthetic hsigil
      have hne : sigil ≠ c := fun heq => by simp [heq] at hsynthetic
      simpa [hne] using hsigil

theorem split_of_not_synthetic {tag : String} (hsynthetic : isSynthetic tag = false)
    (hsigil : sigil ∈ tag.toList) : split tag = partsOf tag.toList := by
  simp [split, isTied_of_not_synthetic hsynthetic hsigil, hsynthetic, partsOf]

/-- A pattern puts a `~` in front of tied names only, and that changes no part of them. -/
theorem tiedName_cases (tag : String) :
    Pattern.tiedName tag = tag ∨
      isTied tag = true ∧ isTied (Pattern.tiedName tag) = true ∧
        split (Pattern.tiedName tag) = split tag := by
  by_cases htied : isSynthetic tag = false ∧ sigil ∈ tag.toList
  · obtain ⟨hsynthetic, hsigil⟩ := htied
    rw [Pattern.tiedName_of_tied hsynthetic hsigil, split_of_synthetic hsigil,
      split_of_not_synthetic hsynthetic hsigil]
    exact Or.inr ⟨isTied_of_not_synthetic hsynthetic hsigil, isTied_of_synthetic hsigil, rfl⟩
  · have huntied : isSynthetic tag = true ∨ sigil ∉ tag.toList := by
      rwa [not_and_or, Bool.not_eq_false] at htied
    exact Or.inl (Pattern.tiedName_of_untied huntied)

theorem split_tiedName (tag : String) : split (Pattern.tiedName tag) = split tag := by
  rcases tiedName_cases tag with hsame | ⟨_, _, hsplit⟩
  · rw [hsame]
  · exact hsplit

theorem partName_ne_empty {part : List Char} (hpart : part ≠ []) : partName part ≠ "" := by
  unfold partName
  split
  · simp
  · simpa using hpart

/-- Parts are never empty, and none of them is the name that they were tied to. -/
theorem mem_split_of_tied {tag part : String} (htied : isTied tag = true)
    (hpart : part ∈ split tag) : part ≠ "" ∧ part ≠ tag := by
  refine ⟨?_, ?_⟩
  · rw [split, if_pos htied] at hpart
    obtain ⟨piece, hpiece, rfl⟩ := List.mem_map.mp hpart
    have hne : piece ≠ [] := by simpa using (List.mem_filter.mp hpiece).2
    exact partName_ne_empty hne
  · rintro rfl
    rw [isTied_of_mem_split hpart] at htied
    cases htied

/-! ## Parts of parts -/

/-- A name is one of the parts of a tied name. What a song shows for the tied name is put together
from what it shows for these. -/
def IsPartOf (part tag : String) : Prop :=
  isTied tag = true ∧ part ∈ split tag

/-- Going from tied names to their parts ends: a part has no parts. -/
theorem isPartOf_wellFounded : WellFounded IsPartOf := by
  refine WellFounded.intro fun tag => Acc.intro tag ?_
  rintro part ⟨-, hpart⟩
  refine Acc.intro part ?_
  rintro inner ⟨htied, -⟩
  rw [isTied_of_mem_split hpart] at htied
  cases htied

/-! ## Writing names one after another -/

/-- What can stand as a part of a tied name: a name with neither a `~` nor a `#` in front, or the mark
of numeric names with any text without a `~`. -/
inductive IsPartName : String → Prop
  | plain {name : String} (nonempty : name ≠ "") (free : sigil ∉ name.toList)
      (unmarked : name.toList.head? ≠ some '#') : IsPartName name
  | numeric {name : String} (free : sigil ∉ name.toList) : IsPartName (numericTag name)

/-- A part as it is written in a tied name: a numeric one leaves its own `~` out. -/
def writtenPart (part : String) : List Char :=
  if (numericName? part).isSome then part.toList.drop 1 else part.toList

/-- Names tied together. -/
def tie (parts : List String) : String :=
  String.ofList (sigil :: [sigil].intercalate (parts.map writtenPart))

theorem numericName?_eq_none {name : String} (hfree : sigil ∉ name.toList) :
    numericName? name = none := by
  rw [numericName?, Option.map_eq_none_iff, Option.eq_none_iff_forall_not_mem]
  intro rest hrest
  have happend := List.isPrefixOf?_eq_some_iff_append_eq.mp hrest
  exact hfree (happend ▸ List.mem_append_left rest List.mem_cons_self)

theorem writtenPart_numericTag (name : String) :
    writtenPart (numericTag name) = '#' :: name.toList := by
  have hnumeric : numericName? (numericTag name) = some name := by
    rw [numericName?, Option.map_eq_some_iff]
    exact ⟨name.toList, List.isPrefixOf?_eq_some_iff_append_eq.mpr (by simp [numericTag]), by simp⟩
  rw [writtenPart, hnumeric]
  simp [numericTag, numericMark]

/-- A written part is a piece of text between two `~` and reads as the name it was written for. -/
theorem IsPartName.reads {part : String} (hpart : IsPartName part) :
    sigil ∉ writtenPart part ∧ writtenPart part ≠ [] ∧ partName (writtenPart part) = part := by
  cases hpart with
  | plain hnonempty hfree hunmarked =>
      have hwritten : writtenPart part = part.toList := by
        simp [writtenPart, numericName?_eq_none hfree]
      rw [hwritten]
      exact ⟨hfree, by simpa using hnonempty, by simp [partName, hunmarked]⟩
  | numeric hfree =>
      rw [writtenPart_numericTag]
      refine ⟨?_, List.cons_ne_nil _ _, by simp [partName, numericTag, numericMark, sigil]⟩
      exact List.not_mem_cons_of_ne_of_not_mem (by decide) hfree

theorem sigil_mem_intercalate {pieces : List (List Char)} (htwo : 2 ≤ pieces.length) :
    sigil ∈ [sigil].intercalate pieces := by
  match pieces, htwo with
  | first :: second :: rest, _ => simp [List.intercalate]

/-- Part names tied together are split into the same names again. -/
theorem split_tie {parts : List String} (htwo : 2 ≤ parts.length)
    (hparts : ∀ part ∈ parts, IsPartName part) : split (tie parts) = parts := by
  have hfree : ∀ piece ∈ parts.map writtenPart, sigil ∉ piece :=
    List.forall_mem_map.mpr fun part hpart => (hparts part hpart).reads.1
  have hne : parts.map writtenPart ≠ [] := by
    rw [ne_eq, List.map_eq_nil_iff]
    rintro rfl
    cases htwo
  have hfull : ∀ piece ∈ parts.map writtenPart, (!piece.isEmpty) = true :=
    List.forall_mem_map.mpr fun part hpart => by simpa using (hparts part hpart).reads.2.1
  have hnames : ∀ part ∈ parts, partName (writtenPart part) = part :=
    fun part hpart => (hparts part hpart).reads.2.2
  calc split (tie parts)
      = partsOf ([sigil].intercalate (parts.map writtenPart)) :=
        split_of_synthetic (sigil_mem_intercalate (by rwa [List.length_map]))
    _ = (parts.map writtenPart).map partName := by
        rw [partsOf, List.splitOn_intercalate sigil hfree hne, List.filter_eq_self.mpr hfull]
    _ = parts := by
        rw [List.map_map]
        exact (List.map_congr_left hnames).trans (List.map_id parts)

end Tag

/-! ## Songs -/

namespace Song

variable (song : Song) (tag : String)

theorem comma_tiedName : song.comma (Pattern.tiedName tag) = song.comma tag := by
  rcases Tag.tiedName_cases tag with hsame | ⟨htied, hrepaired, hsplit⟩
  · rw [hsame]
  · rw [song.comma_of_tied hrepaired, song.comma_of_tied htied, hsplit]

theorem list_tiedName : song.list (Pattern.tiedName tag) = song.list tag := by
  rcases Tag.tiedName_cases tag with hsame | ⟨htied, hrepaired, hsplit⟩
  · rw [hsame]
  · rw [song.list_of_tied hrepaired, song.list_of_tied htied, hsplit]

/-- Splitting ends after one round, no song tells a tied name from the same one with a `~` in front,
and names that are tied together are split apart again. -/
theorem tied_names_split_once :
    (∀ part ∈ Tag.split tag, Tag.isTied part = false) ∧
      (Tag.isTied tag = true →
        ∀ part ∈ Tag.split tag, part ≠ "" ∧ part ≠ tag ∧ Tag.split part = [part]) ∧
      Acc Tag.IsPartOf tag ∧
      (∀ song : Song, Tag.isTied tag = true →
        song.comma tag = String.intercalate Tag.tiedJoin
            (((Tag.split tag).map song.comma).filter fun value => value != "") ∧
          song.list tag =
            let parts := ((Tag.split tag).map song.list).filter fun values => !values.isEmpty
            if parts.isEmpty then [] else parts.foldl tieNext [""]) ∧
      Tag.split (Pattern.tiedName tag) = Tag.split tag ∧
      (∀ song : Song, song.comma (Pattern.tiedName tag) = song.comma tag ∧
        song.list (Pattern.tiedName tag) = song.list tag) ∧
      (∀ parts : List String, 2 ≤ parts.length → (∀ part ∈ parts, Tag.IsPartName part) →
        Tag.split (Tag.tie parts) = parts) := by
  refine ⟨fun part => Tag.isTied_of_mem_split, ?_, Tag.isPartOf_wellFounded.apply tag, ?_,
    Tag.split_tiedName tag, ?_, fun parts => Tag.split_tie⟩
  · intro htied part hpart
    obtain ⟨hnonempty, hne⟩ := Tag.mem_split_of_tied htied hpart
    exact ⟨hnonempty, hne, Tag.split_of_untied (Tag.isTied_of_mem_split hpart)⟩
  · exact fun song htied => ⟨song.comma_of_tied htied, song.list_of_tied htied⟩
  · exact fun song => ⟨song.comma_tiedName tag, song.list_tiedName tag⟩

/-- A title and a rating tied together, with the `~` in front and without it. -/
theorem tied_names_split_once_rating :
    Tag.isTied "title~#rating" = true ∧ "~#rating" ∈ Tag.split "title~#rating" ∧
      Tag.split "~#rating" = ["~#rating"] ∧ Acc Tag.IsPartOf "title~#rating" ∧
      Pattern.tiedName "title~#rating" = "~title~#rating" ∧
      Tag.split "~title~#rating" = Tag.split "title~#rating" ∧
      (∀ part ∈ ["title", "~#rating"], Tag.IsPartName part) ∧
      Tag.tie ["title", "~#rating"] = "~title~#rating" ∧
      Tag.split (Tag.tie ["title", "~#rating"]) = ["title", "~#rating"] := by
  have htied : Tag.isTied "title~#rating" = true := by decide
  have hpart : "~#rating" ∈ Tag.split "title~#rating" := by decide
  have hname : Pattern.tiedName "title~#rating" = "~title~#rating" := by decide
  have hparts : ∀ part ∈ ["title", "~#rating"], Tag.IsPartName part := by
    simp only [List.forall_mem_cons, List.not_mem_nil, false_implies, implies_true, and_true]
    exact ⟨.plain (by decide) (by decide) (by decide), .numeric (by decide : _ ∉ "rating".toList)⟩
  obtain ⟨_, hsplit, hends, _, hrepaired, _, htie⟩ := tied_names_split_once "title~#rating"
  exact ⟨htied, hpart, (hsplit htied _ hpart).2.2, hends, hname, hname ▸ hrepaired, hparts,
    by decide, htie _ (by decide) hparts⟩

end Song

end Songbook
