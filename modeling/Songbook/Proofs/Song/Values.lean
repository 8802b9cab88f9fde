import Mathlib.Data.List.Basic
import Songbook.Proofs.Formatter.SingleValues
import Songbook.Proofs.Song.Tied

/-!
# Shown texts and listed values

A song answers for a tag in two ways, by the text that it shows and by the list of its values. Empty
values set the two apart. A tied tag leaves empty parts out of its text, but in its list an empty part
behind one that shows something is still tied to it. And several empty values show as the text that is
written between them, so that the tag shows something while no value does.
-/

namespace Songbook

/-! ## Texts written one after another -/

section Intercalate

variable {between : String} {texts : List String}

theorem intercalate_eq_empty_iff : String.intercalate between texts = "" ↔
    (∀ text ∈ texts, text = "") ∧ (between = "" ∨ texts.length ≤ 1) := by
  induction texts with
  | nil => simp
  | cons text rest ih =>
      cases rest with
      | nil => simp
      | cons next rest =>
          rw [String.intercalate_cons_cons, String.append_eq_empty_iff,
            String.append_eq_empty_iff, ih]
          simp only [List.forall_mem_cons, List.length_cons]
          constructor
          · rintro ⟨⟨htext, hbetween⟩, hrest, _⟩
            exact ⟨⟨htext, hrest⟩, Or.inl hbetween⟩
          · rintro ⟨⟨htext, hrest⟩, hbetween | hlength⟩
            · exact ⟨⟨htext, hbetween⟩, hrest, Or.inl hbetween⟩
            · omega

theorem intercalate_cons_eq_append (between text : String) (texts : List String) :
    String.intercalate between (text :: texts) =
      text ++ String.intercalate between ("" :: texts) := by
  cases texts with
  | nil => simp
  | cons next texts => simp [String.intercalate_cons_cons, String.append_assoc]

/-- Leaving empty texts out makes nothing longer. -/
theorem length_intercalate_filter_le (between : String) (texts : List String) :
    (String.intercalate between ("" :: texts.filter (· != ""))).length ≤
      (String.intercalate between ("" :: texts)).length := by
  induction texts with
  | nil => exact Nat.le_refl _
  | cons next texts ih =>
      rw [String.intercalate_cons_cons]
      by_cases hnext : next = ""
      · rw [hnext, List.filter_cons_of_neg (by simp), String.length_append]
        omega
      · rw [List.filter_cons_of_pos (by simpa using hnext), String.intercalate_cons_cons,
          intercalate_cons_eq_append between next texts, intercalate_cons_eq_append between next]
        simp only [String.length_append]
        omega

/-- Leaving an empty text out shortens what is written, unless it is the first one. -/
theorem intercalate_filter_eq_iff (hbetween : between ≠ "") (text : String) :
    String.intercalate between (text :: texts) =
        String.intercalate between (text :: texts.filter (· != "")) ↔ ∀ next ∈ texts, next ≠ "" := by
  induction texts generalizing text with
  | nil => simp
  | cons next texts ih =>
      rw [List.forall_mem_cons, String.intercalate_cons_cons]
      by_cases hnext : next = ""
      · -- what is written before the empty text makes the difference
        rw [hnext, List.filter_cons_of_neg (by simp), intercalate_cons_eq_append between text]
        refine iff_of_false (fun heq => ?_) fun hall => hall.1 rfl
        have hlength := congrArg String.length heq
        have hle := length_intercalate_filter_le between texts
        have hpos : between.length ≠ 0 := String.length_eq_zero_iff.not.mpr hbetween
        simp only [String.length_append] at hlength
        omega
      · rw [List.filter_cons_of_pos (by simpa using hnext), String.intercalate_cons_cons,
          String.append_right_inj, ih, and_iff_right hnext]

end Intercalate

namespace Song

variable {song : Song} {tag : String}

/-! ## Tying values -/

/-- A text followed by the next value of a tied tag. -/
def tieText (text value : String) : String :=
  if text = "" then value else text ++ Tag.tiedJoin ++ value

theorem tieNext_eq (texts values : List String) :
    tieNext texts values = texts.flatMap fun text => values.map (tieText text) :=
  rfl

theorem foldl_tieNext_singletons (text : String) (values : List String) :
    (values.map fun value => [value]).foldl tieNext [text] = [values.foldl tieText text] := by
  induction values generalizing text with
  | nil => rfl
  | cons value values ih => exact ih (tieText text value)

/-- Behind a text every value is tied to it, an empty one too. -/
theorem foldl_tieText {text : String} (htext : text ≠ "") (values : List String) :
    values.foldl tieText text = String.intercalate Tag.tiedJoin (text :: values) := by
  induction values generalizing text with
  | nil => simp
  | cons value values ih =>
      have htied : tieText text value = text ++ Tag.tiedJoin ++ value := if_neg htext
      have hne : text ++ Tag.tiedJoin ++ value ≠ "" := by simp [htext]
      rw [List.foldl_cons, htied, ih hne, String.intercalate_cons_cons,
        intercalate_cons_eq_append _ (text ++ Tag.tiedJoin ++ value),
        intercalate_cons_eq_append _ value, String.append_assoc]

/-- Tying texts gives the same as writing those that are not empty one after another, unless an empty
one follows one that is not. -/
theorem foldl_tieText_eq_iff (texts : List String) :
    texts.foldl tieText "" = String.intercalate Tag.tiedJoin (texts.filter (· != "")) ↔
      texts.Pairwise fun earlier later => earlier = "" ∨ later ≠ "" := by
  induction texts with
  | nil => simp
  | cons text texts ih =>
      by_cases htext : text = ""
      · subst htext
        rw [List.filter_cons_of_neg (by simp), List.pairwise_cons, ← ih]
        simp [tieText]
      · have hfirst : tieText "" text = text := if_pos rfl
        rw [List.filter_cons_of_pos (by simpa using htext), List.foldl_cons, hfirst,
          foldl_tieText htext, intercalate_filter_eq_iff (by decide), List.pairwise_cons]
        constructor
        · intro hall
          exact ⟨fun later hlater => Or.inr (hall later hlater),
            List.pairwise_of_forall_mem_list fun _ _ later hlater => Or.inr (hall later hlater)⟩
        · rintro ⟨hhead, _⟩ later hlater
          exact (hhead later hlater).resolve_left htext

/-! ## Tags that tie nothing -/

/-- A tag of which stored values are shown: neither a number nor computed from other tags. -/
structure IsStored (song : Song) (tag : String) : Prop where
  notNumeric : Tag.numericName? tag = none
  notComputed : song.computed? tag = none

theorem comma_of_stored (huntied : Tag.isTied tag = false) (hstored : song.IsStored tag) :
    song.comma tag = String.intercalate song.join (song.values tag) := by
  simp [song.comma_of_untied huntied, singleComma, hstored.notNumeric, hstored.notComputed]

theorem list_of_stored (huntied : Tag.isTied tag = false) (hstored : song.IsStored tag) :
    song.list tag = song.values tag := by
  simp [song.list_of_untied huntied, singleList, hstored.notNumeric, hstored.notComputed]

/-- A number or computed text is one value, unless it is empty. -/
theorem list_of_not_stored (huntied : Tag.isTied tag = false) (hstored : ¬ song.IsStored tag) :
    song.list tag = if song.comma tag = "" then [] else [song.comma tag] := by
  have hcomputed : (Tag.numericName? tag).isSome || (song.computed? tag).isSome := by
    by_contra hneither
    simp only [Bool.or_eq_true, not_or, Bool.not_eq_true, Option.isSome_eq_false_iff,
      Option.isNone_iff_eq_none] at hneither
    exact hstored ⟨hneither.1, hneither.2⟩
  rw [song.list_of_untied huntied, song.comma_of_untied huntied, singleList, if_pos hcomputed]

/-! ## Songs of single values -/

theorem isSingle_of_untied (hvalues : (song.values tag).length ≤ 1)
    (huntied : Tag.isTied tag = false) : song.toRecord.IsSingle tag := by
  by_cases hstored : song.IsStored tag
  · have hcomma : song.toRecord.comma tag = _ := comma_of_stored huntied hstored
    have hlist : song.toRecord.list tag = _ := list_of_stored huntied hstored
    match hvalue : song.values tag with
    | [] =>
        rw [hvalue, String.intercalate_nil] at hcomma
        exact ⟨fun hshown => absurd hcomma hshown, fun _ => Or.inl (hlist.trans hvalue)⟩
    | [value] =>
        rw [hvalue, String.intercalate_singleton] at hcomma
        rw [hvalue, ← hcomma] at hlist
        exact ⟨fun _ => hlist, fun hhidden => Or.inr (hhidden ▸ hlist)⟩
    | _ :: _ :: _ =>
        rw [hvalue] at hvalues
        simp at hvalues
  · have hlist : song.toRecord.list tag = _ := list_of_not_stored huntied hstored
    exact ⟨fun hshown => hlist.trans (if_neg hshown),
      fun hhidden => Or.inl (hlist.trans (if_pos hhidden))⟩

/-- The texts of the parts of a tag that have a value, empty ones included. -/
def partTexts (song : Song) (tag : String) : List String :=
  ((Tag.split tag).filter fun part => !(song.list part).isEmpty).map song.comma

section Single

variable (hvalues : ∀ tag, (song.values tag).length ≤ 1)

include hvalues

theorem isSingle_of_mem_split {part : String} (hpart : part ∈ Tag.split tag) :
    song.toRecord.IsSingle part :=
  isSingle_of_untied (hvalues part) (Tag.isTied_of_mem_split hpart)

/-- A part that has a value has the text that it shows as its only one. -/
theorem list_of_mem_split {part : String} (hpart : part ∈ Tag.split tag)
    (hlist : song.list part ≠ []) : song.list part = [song.comma part] := by
  have hsingle := isSingle_of_mem_split hvalues hpart
  by_cases hcomma : song.comma part = ""
  · rw [hcomma]
    exact (hsingle.hidden hcomma).resolve_left hlist
  · exact hsingle.shown hcomma

/-- A part that shows something has a value. -/
theorem list_ne_nil_of_shown {part : String} (hpart : part ∈ Tag.split tag)
    (hcomma : song.comma part ≠ "") : song.list part ≠ [] := by
  have hlisted : song.list part = [song.comma part] :=
    (isSingle_of_mem_split hvalues hpart).shown hcomma
  rw [hlisted]
  exact List.cons_ne_nil _ _

theorem list_eq_foldl_partTexts (htied : Tag.isTied tag = true) : song.list tag =
    if song.partTexts tag = [] then [] else [(song.partTexts tag).foldl tieText ""] := by
  have hparts : ((Tag.split tag).map song.list).filter (fun values => !values.isEmpty) =
      (song.partTexts tag).map fun text => [text] := by
    rw [partTexts, List.filter_map, List.map_map]
    refine List.map_congr_left fun part hpart => ?_
    obtain ⟨hmem, hlist⟩ := List.mem_filter.mp hpart
    exact list_of_mem_split hvalues hmem (by simpa using hlist)
  rw [song.list_of_tied htied, hparts]
  simp only [foldl_tieNext_singletons, List.isEmpty_iff, List.map_eq_nil_iff]

theorem comma_eq_intercalate_partTexts (htied : Tag.isTied tag = true) : song.comma tag =
    String.intercalate Tag.tiedJoin ((song.partTexts tag).filter (· != "")) := by
  rw [song.comma_of_tied htied, partTexts, List.filter_map, List.filter_map, List.filter_filter]
  congr 2
  refine List.filter_congr fun part hpart => ?_
  by_cases hcomma : song.comma part = ""
  · simp [hcomma]
  · simp [hcomma, list_ne_nil_of_shown hvalues hpart hcomma]

/-- If no tag has several values, the parts that have an empty value are those that have a value and
show nothing. -/
theorem pairwise_partTexts_iff :
    ((song.partTexts tag).Pairwise fun earlier later => earlier = "" ∨ later ≠ "") ↔
      (Tag.split tag).Pairwise fun earlier later =>
        song.comma earlier = "" ∨ song.list later ≠ [""] := by
  rw [partTexts, List.pairwise_map, List.pairwise_filter]
  refine List.Pairwise.iff_of_mem fun {earlier later} hearlier hlater => ?_
  have hvalue := list_of_mem_split hvalues hlater
  simp only [Bool.not_eq_true', List.isEmpty_eq_false_iff]
  constructor
  · intro h
    by_cases hcomma : song.comma earlier = ""
    · exact Or.inl hcomma
    · refine Or.inr fun hempty => ?_
      have hne : song.list later ≠ [] := by simp [hempty]
      have hshown := (h (list_ne_nil_of_shown hvalues hearlier hcomma) hne).resolve_left hcomma
      exact hshown (List.cons.inj ((hvalue hne).symm.trans hempty)).1
  · rintro (hcomma | hlisted) _ hne
    · exact Or.inl hcomma
    · refine Or.inr fun hcomma => hlisted ?_
      rw [hvalue hne, hcomma]

end Single

/-- If no stored tag has several values, every tag has the text that it shows as its only value, or shows
nothing and has no value or an empty one. The only exceptions are tied tags in which a part with an
empty value stands behind a part that shows something. -/
theorem isSingle_iff (hvalues : ∀ tag, (song.values tag).length ≤ 1) (tag : String) :
    song.toRecord.IsSingle tag ↔ (Tag.split tag).Pairwise fun earlier later =>
      song.comma earlier = "" ∨ song.list later ≠ [""] := by
  cases htied : Tag.isTied tag with
  | false =>
      rw [Tag.split_of_untied htied]
      exact iff_of_true (isSingle_of_untied (hvalues tag) htied) (List.pairwise_singleton _ _)
  | true =>
      have hlist := list_eq_foldl_partTexts hvalues htied
      have hcomma := comma_eq_intercalate_partTexts hvalues htied
      rw [← pairwise_partTexts_iff hvalues, ← foldl_tieText_eq_iff, ← hcomma]
      by_cases hparts : song.partTexts tag = []
      · simp only [hparts, List.filter_nil, String.intercalate_nil, if_true] at hlist hcomma
        rw [hparts, hcomma]
        exact iff_of_true ⟨fun hshown => absurd hcomma hshown, fun _ => Or.inl hlist⟩ rfl
      · rw [if_neg hparts] at hlist
        constructor
        · intro hsingle
          by_cases hshown : song.comma tag = ""
          · rcases hsingle.hidden hshown with hnone | hempty
            · exact absurd (hlist.symm.trans hnone) (List.cons_ne_nil _ _)
            · exact (List.cons.inj (hlist.symm.trans hempty)).1.trans hshown.symm
          · exact (List.cons.inj (hlist.symm.trans (hsingle.shown hshown))).1
        · intro heq
          rw [heq] at hlist
          exact ⟨fun _ => hlist, fun hhidden => Or.inr (hhidden ▸ hlist)⟩

/-- A song with an artist and an empty title. -/
def untitled : Song where
  fields := [("artist", ["Ann"]), ("title", [""])]

theorem length_values_untitled (tag : String) : (untitled.values tag).length ≤ 1 := by
  unfold values
  cases hfield : untitled.fields.find? fun field => field.1 = tag with
  | none => exact Nat.zero_le 1
  | some field =>
      have hmem := List.mem_of_find?_eq_some hfield
      simp only [untitled, List.mem_cons, List.not_mem_nil, or_false] at hmem
      rcases hmem with rfl | rfl <;> exact Nat.le_refl 1

/-- An empty title is left out in front of the artist. -/
theorem isSingle_untitled : (∀ tag, (untitled.values tag).length ≤ 1) ∧
    untitled.toRecord.IsSingle "~title~artist" ∧ untitled.list "~title~artist" = ["Ann"] :=
  ⟨length_values_untitled, (isSingle_iff length_values_untitled _).mpr (by decide), by decide⟩

/-- Behind the artist it is not. -/
theorem not_isSingle_untitled : (∀ tag, (untitled.values tag).length ≤ 1) ∧
    untitled.comma "~artist~title" = "Ann" ∧ untitled.list "~artist~title" = ["Ann - "] ∧
    ¬ untitled.toRecord.IsSingle "~artist~title" := by
  refine ⟨length_values_untitled, by decide, by decide, fun hsingle => ?_⟩
  have hlist : untitled.list "~artist~title" = [untitled.comma "~artist~title"] :=
    hsingle.shown (by decide)
  exact absurd hlist (by decide)

/-! ## Songs of any values -/

/-- A tag that shows several stored values with a text between them. -/
structure IsJoined (song : Song) (tag : String) : Prop extends song.IsStored tag where
  several : 2 ≤ (song.values tag).length
  between : song.join ≠ ""

theorem tieText_eq_empty_iff {text value : String} :
    tieText text value = "" ↔ text = "" ∧ value = "" := by
  unfold tieText
  split
  next htext => simp [htext]
  next htext => simp [htext]

theorem tieNext_ne_nil {texts values : List String} (htexts : texts ≠ []) (hvalues : values ≠ []) :
    tieNext texts values ≠ [] := by
  rw [tieNext_eq, ne_eq, List.flatMap_eq_nil_iff]
  intro hnil
  obtain ⟨text, hmem⟩ := List.exists_mem_of_ne_nil texts htexts
  exact hvalues (List.map_eq_nil_iff.mp (hnil text hmem))

/-- Tying the next part shows nothing only if neither the texts before it nor its values do. -/
theorem forall_tieNext_eq_empty_iff {texts values : List String} (htexts : texts ≠ [])
    (hvalues : values ≠ []) : (∀ tied ∈ tieNext texts values, tied = "") ↔
      (∀ text ∈ texts, text = "") ∧ ∀ value ∈ values, value = "" := by
  obtain ⟨someText, hsomeText⟩ := List.exists_mem_of_ne_nil texts htexts
  obtain ⟨someValue, hsomeValue⟩ := List.exists_mem_of_ne_nil values hvalues
  have hmem : ∀ text ∈ texts, ∀ value ∈ values, tieText text value ∈ tieNext texts values :=
    fun text htext value hvalue =>
      List.mem_flatMap.mpr ⟨text, htext, List.mem_map.mpr ⟨value, hvalue, rfl⟩⟩
  constructor
  · intro hall
    exact ⟨fun text htext =>
        (tieText_eq_empty_iff.mp (hall _ (hmem text htext someValue hsomeValue))).1,
      fun value hvalue =>
        (tieText_eq_empty_iff.mp (hall _ (hmem someText hsomeText value hvalue))).2⟩
  · rintro ⟨htext, hvalue⟩ tied htied
    obtain ⟨text, hmemText, hmap⟩ := List.mem_flatMap.mp htied
    obtain ⟨value, hmemValue, rfl⟩ := List.mem_map.mp hmap
    exact tieText_eq_empty_iff.mpr ⟨htext text hmemText, hvalue value hmemValue⟩

theorem forall_foldl_tieNext_eq_empty_iff {parts : List (List String)}
    (hparts : ∀ values ∈ parts, values ≠ []) {texts : List String} (htexts : texts ≠ []) :
    (∀ tied ∈ parts.foldl tieNext texts, tied = "") ↔
      (∀ text ∈ texts, text = "") ∧ ∀ values ∈ parts, ∀ value ∈ values, value = "" := by
  induction parts generalizing texts with
  | nil => simp
  | cons values parts ih =>
      rw [List.forall_mem_cons] at hparts
      rw [List.foldl_cons, ih hparts.2 (tieNext_ne_nil htexts hparts.1),
        forall_tieNext_eq_empty_iff htexts hparts.1, List.forall_mem_cons, and_assoc]

/-- The values of a tag are all empty exactly if those of its parts are. -/
theorem forall_list_eq_empty_iff : (∀ value ∈ song.list tag, value = "") ↔
    ∀ part ∈ Tag.split tag, ∀ value ∈ song.list part, value = "" := by
  cases htied : Tag.isTied tag with
  | false => simp [Tag.split_of_untied htied]
  | true =>
      rw [song.list_of_tied htied]
      dsimp only
      split
      next hempty =>
        -- no part has a value
        rw [List.isEmpty_iff, List.filter_eq_nil_iff] at hempty
        refine iff_of_true (by simp) fun part hpart value hvalue => ?_
        have hnone := hempty _ (List.mem_map_of_mem hpart)
        simp only [Bool.not_eq_true', Bool.not_eq_false, List.isEmpty_iff] at hnone
        rw [hnone] at hvalue
        cases hvalue
      next =>
        rw [forall_foldl_tieNext_eq_empty_iff (by simp) (by simp)]
        simp only [List.mem_singleton, forall_eq, true_and, List.mem_filter, List.mem_map]
        constructor
        · intro hall part hpart value hvalue
          exact hall _ ⟨⟨part, hpart, rfl⟩, by simpa using List.ne_nil_of_mem hvalue⟩ value hvalue
        · rintro hall values ⟨⟨part, hpart, rfl⟩, _⟩
          exact hall part hpart

/-- A tag shows nothing exactly if its parts do. -/
theorem comma_eq_empty_iff_split :
    song.comma tag = "" ↔ ∀ part ∈ Tag.split tag, song.comma part = "" := by
  cases htied : Tag.isTied tag with
  | false => simp [Tag.split_of_untied htied]
  | true =>
      rw [song.comma_of_tied htied, intercalate_eq_empty_iff]
      constructor
      · rintro ⟨hall, _⟩ part hpart
        by_contra hcomma
        have hmem : song.comma part ∈
            ((Tag.split tag).map song.comma).filter fun value => value != "" :=
          List.mem_filter.mpr ⟨List.mem_map_of_mem hpart, by simpa using hcomma⟩
        exact hcomma (hall _ hmem)
      · intro hall
        have hnone : (((Tag.split tag).map song.comma).filter fun value => value != "") = [] := by
          simpa using hall
        simp [hnone]

theorem comma_eq_empty_iff_of_untied (huntied : Tag.isTied tag = false) :
    song.comma tag = "" ↔ (∀ value ∈ song.list tag, value = "") ∧ ¬ song.IsJoined tag := by
  by_cases hstored : song.IsStored tag
  · rw [comma_of_stored huntied hstored, list_of_stored huntied hstored, intercalate_eq_empty_iff]
    refine and_congr_right fun _ => ?_
    constructor
    · rintro (hbetween | hlength) hjoined
      · exact hjoined.between hbetween
      · exact absurd hjoined.several (by omega)
    · intro hnot
      by_contra hneither
      rw [not_or] at hneither
      exact hnot ⟨hstored, by omega, hneither.1⟩
  · have hnot : ¬ song.IsJoined tag := fun hjoined => hstored hjoined.toIsStored
    rw [list_of_not_stored huntied hstored]
    by_cases hcomma : song.comma tag = "" <;> simp [hcomma, hnot]

/-- A tag shows nothing exactly if all of its values are empty and no part of it is joined. -/
theorem comma_eq_empty_iff : song.comma tag = "" ↔
    (∀ value ∈ song.list tag, value = "") ∧ ∀ part ∈ Tag.split tag, ¬ song.IsJoined part := by
  rw [comma_eq_empty_iff_split, forall_list_eq_empty_iff, ← forall₂_and]
  exact forall₂_congr fun part hpart =>
    comma_eq_empty_iff_of_untied (Tag.isTied_of_mem_split hpart)

open Pattern in
/-- A tag that shows nothing has empty values only. A tag of empty values shows nothing, and a
conditional on it takes the same branch for the shown text and for the values, unless a part of it has
several of them with a text between. -/
theorem presence_agrees_iff [RegexLibrary] (song : Song) (tag : String) :
    (song.comma tag = "" → ∀ value ∈ song.list tag, value = "") ∧
    ((song.comma tag = "" ↔ ∀ value ∈ song.list tag, value = "") ↔
      (∃ value ∈ song.list tag, value ≠ "") ∨ ∀ part ∈ Tag.split tag, ¬ song.IsJoined part) ∧
    ∀ queries, (View.text song.toRecord).takes queries tag =
        (View.values song.toRecord).takes queries tag ↔
      (queries tag).isSome = true ∨ (∃ value ∈ song.list tag, value ≠ "") ∨
        ∀ part ∈ Tag.split tag, ¬ song.IsJoined part := by
  have hagree : (song.comma tag = "" ↔ ∀ value ∈ song.list tag, value = "") ↔
      (∃ value ∈ song.list tag, value ≠ "") ∨ ∀ part ∈ Tag.split tag, ¬ song.IsJoined part := by
    rw [comma_eq_empty_iff]
    by_cases hempty : ∀ value ∈ song.list tag, value = ""
    · have hnone : ¬ ∃ value ∈ song.list tag, value ≠ "" := fun ⟨value, hvalue, hne⟩ =>
        hne (hempty value hvalue)
      rw [or_iff_right hnone]
      exact ⟨fun hagree => (hagree.mpr hempty).2, fun hnot => iff_of_true ⟨hempty, hnot⟩ hempty⟩
    · have hsome : ∃ value ∈ song.list tag, value ≠ "" := by simpa using hempty
      exact iff_of_true (iff_of_false (fun h => hempty h.1) hempty) (Or.inl hsome)
  refine ⟨fun hcomma => (comma_eq_empty_iff.mp hcomma).1, hagree, fun queries => ?_⟩
  rw [← hagree]
  cases hquery : queries tag with
  | some predicate => simp [View.takes, hquery, View.text, View.values]
  | none =>
      have htext : (View.text song.toRecord).takes queries tag = true ↔ ¬ song.comma tag = "" := by
        simp [View.takes, hquery, View.text, toRecord]
      have hvalues : (View.values song.toRecord).takes queries tag = true ↔
          ¬ ∀ value ∈ song.list tag, value = "" := by
        simp [View.takes, hquery, View.values, toRecord]
      rw [Bool.eq_iff_iff, htext, hvalues, not_iff_not]
      simp

/-- A song whose genre has two values, both empty. -/
def unclassified : Song where
  fields := [("genre", ["", ""])]

/-- The genre shows as the text between its values, so a conditional on it takes the first branch for
the one text and the second branch for all texts. -/
theorem presence_disagrees_unclassified :
    unclassified.comma "genre" = ", " ∧ unclassified.list "genre" = ["", ""] ∧
    ¬ (unclassified.comma "genre" = "" ↔ ∀ value ∈ unclassified.list "genre", value = "") ∧
    ∃ formatter, Formatter.compile "<genre|A|B>" .plain ⟨255, none⟩ 0 = .ok formatter ∧
      formatter.format unclassified.toRecord = "A" ∧
      formatter.formatAll unclassified.toRecord = ["B"] := by
  have hparse : Pattern.parse (Dialect.plain.preprocess "<genre|A|B>") =
      .ok [.conditional "genre" [.literal "A"] (some [.literal "B"])] := rfl
  exact ⟨by decide, by decide, by decide, _,
    Formatter.compile_of_parse ⟨255, none⟩ 0 (by decide) hparse, by decide +kernel,
    by decide +kernel⟩

end Song

end Songbook
