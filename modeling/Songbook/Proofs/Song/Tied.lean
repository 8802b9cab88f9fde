import Songbook.Song

/-!
# Tied tags depend on their parts

A tied name splits into names that tie nothing further, so one round of splitting is enough: what a
song shows for a tied tag, as one text or as a list of values, is put together from what it shows for
the parts.
-/

namespace Songbook

variable {tag part : String}

namespace Tag

theorem not_mem_of_mem_splitOn {separator : Char} {text piece : List Char}
    (hpiece : piece ∈ text.splitOn separator) : separator ∉ piece := by
  induction text generalizing piece with
  | nil =>
      rw [List.splitOn_nil, List.mem_singleton] at hpiece
      simp [hpiece]
  | cons c text ih =>
      rw [List.splitOn_cons_eq_if_modifyHead] at hpiece
      split at hpiece
      next =>
        rcases List.mem_cons.mp hpiece with rfl | hpiece
        · exact List.not_mem_nil
        · exact ih hpiece
      next hne =>
        obtain ⟨first, more, hsplit⟩ := List.exists_cons_of_ne_nil (List.splitOn_ne_nil separator text)
        rw [hsplit, List.modifyHead_cons] at hpiece
        rcases List.mem_cons.mp hpiece with rfl | hpiece
        · have hfirst := ih (hsplit ▸ List.mem_cons_self)
          intro hmem
          rcases List.mem_cons.mp hmem with rfl | hmem
          · exact hne (beq_self_eq_true _)
          · exact hfirst hmem
        · exact ih (hsplit ▸ List.mem_cons_of_mem _ hpiece)

/-- The parts of a name tie nothing. -/
theorem isTied_of_mem_split (hpart : part ∈ split tag) : isTied part = false := by
  unfold split at hpart
  split at hpart
  next =>
    obtain ⟨piece, hpiece, rfl⟩ := List.mem_map.mp hpart
    have hfree := not_mem_of_mem_splitOn (List.mem_filter.mp hpiece).1
    -- the sigil that a numeric part gets stands first, where it ties nothing
    unfold partName
    split
    next => simpa [isTied] using hfree
    next =>
      have hdrop : sigil ∉ piece.drop 1 := fun hmem => hfree (List.mem_of_mem_drop hmem)
      simpa [isTied] using hdrop
  next huntied =>
    rw [List.mem_singleton.mp hpart]
    exact Bool.eq_false_iff.mpr huntied

theorem split_of_untied (huntied : isTied tag = false) : split tag = [tag] := by
  simp [split, huntied]

end Tag

namespace Song

variable {left right : Song}

theorem comma_of_untied (song : Song) (huntied : Tag.isTied tag = false) :
    song.comma tag = song.singleComma tag := by
  simp [comma, huntied]

theorem list_of_untied (song : Song) (huntied : Tag.isTied tag = false) :
    song.list tag = song.singleList tag := by
  simp [list, huntied]

/-- A tied tag shows the texts of its parts that show any. -/
theorem comma_of_tied (song : Song) (htied : Tag.isTied tag = true) :
    song.comma tag = String.intercalate Tag.tiedJoin
      (((Tag.split tag).map song.comma).filter fun value => value != "") := by
  have hparts : (Tag.split tag).map song.singleComma = (Tag.split tag).map song.comma :=
    List.map_congr_left fun part hpart =>
      (song.comma_of_untied (Tag.isTied_of_mem_split hpart)).symm
  rw [comma, if_pos htied, hparts]

/-- The values of a tied tag are the choices of one value from each part that has any. -/
theorem list_of_tied (song : Song) (htied : Tag.isTied tag = true) :
    song.list tag =
      let parts := ((Tag.split tag).map song.list).filter fun values => !values.isEmpty
      if parts.isEmpty then [] else parts.foldl tieNext [""] := by
  have hparts : (Tag.split tag).map song.singleList = (Tag.split tag).map song.list :=
    List.map_congr_left fun part hpart =>
      (song.list_of_untied (Tag.isTied_of_mem_split hpart)).symm
  rw [list, if_pos htied, hparts]

theorem comma_congr (hparts : ∀ part ∈ Tag.split tag, left.comma part = right.comma part) :
    left.comma tag = right.comma tag := by
  cases htied : Tag.isTied tag with
  | false => exact hparts tag (by simp [Tag.split_of_untied htied])
  | true => rw [left.comma_of_tied htied, right.comma_of_tied htied, List.map_congr_left hparts]

theorem list_congr (hparts : ∀ part ∈ Tag.split tag, left.list part = right.list part) :
    left.list tag = right.list tag := by
  cases htied : Tag.isTied tag with
  | false => exact hparts tag (by simp [Tag.split_of_untied htied])
  | true => rw [left.list_of_tied htied, right.list_of_tied htied, List.map_congr_left hparts]

end Song

end Songbook
