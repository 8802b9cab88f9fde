import Mathlib.Data.List.TakeWhile
import Songbook.Text

/-!
# Blanks around texts

What trimming does to a text that is known to start or end with no blank, and to one with blanks put
in front of it. The places in a text are counted in bytes.
-/

namespace Songbook.Text

variable {text blanks : List Char} {c : Char}

theorem trimStart_of_head (hc : isBlank c = false) (rest : List Char) :
    trimStart (c :: rest) = c :: rest := by
  simp [trimStart, hc]

theorem trimEnd_of_last (hc : isBlank c = false) (text : List Char) :
    trimEnd (text ++ [c]) = text ++ [c] := by
  simp [trimEnd, hc]

theorem trimEnd_append_of_last (hc : isBlank c = false) (text rest : List Char) :
    trimEnd (text ++ c :: rest) = text ++ c :: trimEnd rest := by
  unfold trimEnd
  rw [List.reverse_append, List.reverse_cons, List.append_assoc, List.singleton_append,
    List.dropWhile_append]
  split
  next hempty =>
    rw [List.isEmpty_iff] at hempty
    rw [hempty, List.dropWhile_cons_of_neg (by simp [hc])]
    simp
  next => simp

theorem trimStart_append_of_head (hc : isBlank c = false) (text rest : List Char) :
    trimStart (text ++ c :: rest) = trimStart text ++ c :: rest := by
  unfold trimStart
  rw [List.dropWhile_append]
  split
  next hempty =>
    rw [List.isEmpty_iff] at hempty
    rw [hempty, List.dropWhile_cons_of_neg (by simp [hc]), List.nil_append]
  next => rfl

theorem trimStart_of_unblank (hstart : ∀ c ∈ text.head?, isBlank c = false) :
    trimStart text = text := by
  cases text with
  | nil => rfl
  | cons c rest => exact trimStart_of_head (hstart c rfl) rest

theorem trimEnd_of_unblank (hend : ∀ c ∈ text.getLast?, isBlank c = false) :
    trimEnd text = text := by
  rcases List.eq_nil_or_concat text with rfl | ⟨front, last, rfl⟩
  · rfl
  · rw [List.concat_eq_append] at hend ⊢
    exact trimEnd_of_last (hend last (by simp)) front

theorem trim_of_unblank (hunblank : ∀ c ∈ text, isBlank c = false) : trim text = text := by
  rw [trim, trimStart_of_unblank fun c hc => hunblank c (List.mem_of_mem_head? hc)]
  exact trimEnd_of_unblank fun c hc => hunblank c (List.mem_of_mem_getLast? hc)

theorem trimStart_append_of_blank (hblanks : ∀ c ∈ blanks, isBlank c = true) (text : List Char) :
    trimStart (blanks ++ text) = trimStart text :=
  List.dropWhile_append_of_pos hblanks

theorem trim_append_of_blank (hblanks : ∀ c ∈ blanks, isBlank c = true) (text : List Char) :
    trim (blanks ++ text) = trim text := by
  rw [trim, trimStart_append_of_blank hblanks, trim]

theorem trimEnd_append_blanks (hblanks : ∀ c ∈ blanks, isBlank c = true) (text : List Char) :
    trimEnd (text ++ blanks) = trimEnd text := by
  have hreverse : ∀ c ∈ blanks.reverse, isBlank c = true :=
    fun c hc => hblanks c (List.mem_reverse.mp hc)
  rw [trimEnd, List.reverse_append, List.dropWhile_append_of_pos hreverse, trimEnd]

theorem trim_append_blanks (hblanks : ∀ c ∈ blanks, isBlank c = true) (text : List Char) :
    trim (text ++ blanks) = trim text := by
  rw [trim, trimStart, List.dropWhile_append]
  split
  next hempty =>
    rw [trim, trimStart, List.isEmpty_iff.mp hempty, List.dropWhile_eq_nil_iff.mpr hblanks]
  next => exact trimEnd_append_blanks hblanks _

/-- Trimming the end of a text takes blanks from it. -/
theorem exists_blanks (text : List Char) :
    ∃ blanks, text = trimEnd text ++ blanks ∧ ∀ c ∈ blanks, isBlank c = true := by
  refine ⟨(text.reverse.takeWhile isBlank).reverse, ?_, ?_⟩
  · rw [trimEnd, ← List.reverse_append, List.takeWhile_append_dropWhile, List.reverse_reverse]
  · intro c hc
    exact List.mem_takeWhile_imp (List.mem_reverse.mp hc)

theorem isBlank_of_head?_trimStart {c : Char} (hstart : c ∈ (trimStart text).head?) :
    isBlank c = false := by
  have hhead := List.head?_dropWhile_not isBlank text
  rw [← trimStart, Option.mem_def.mp hstart] at hhead
  exact hhead

theorem isBlank_of_getLast?_trimEnd {c : Char} (hend : c ∈ (trimEnd text).getLast?) :
    isBlank c = false := by
  have hhead := List.head?_dropWhile_not isBlank text.reverse
  rw [trimEnd, List.getLast?_reverse, Option.mem_def] at hend
  rw [hend] at hhead
  exact hhead

/-- A text is what trimming leaves of it with blanks around, and what is left neither starts nor ends
with a blank. -/
theorem exists_blanks_around (text : List Char) :
    ∃ before after, text = before ++ (trim text ++ after) ∧
      (∀ c ∈ before, isBlank c = true) ∧ (∀ c ∈ after, isBlank c = true) ∧
      (∀ c ∈ (trim text).head?, isBlank c = false) ∧
      ∀ c ∈ (trim text).getLast?, isBlank c = false := by
  obtain ⟨after, hafter, hblanks⟩ := exists_blanks (trimStart text)
  refine ⟨text.takeWhile isBlank, after, ?_, fun c hc => List.mem_takeWhile_imp hc, hblanks, ?_,
    fun c => isBlank_of_getLast?_trimEnd⟩
  · rw [trim, ← hafter, trimStart, List.takeWhile_append_dropWhile]
  · intro c hc
    have hstart : c ∈ (trimStart text).head? := by
      rw [hafter, List.head?_append, ← trim, Option.mem_def.mp hc]
      rfl
    exact isBlank_of_head?_trimStart hstart

theorem trim_infix : trim text <:+: text := by
  obtain ⟨before, after, hsplit, _⟩ := exists_blanks_around text
  exact ⟨before, after, by rw [List.append_assoc, ← hsplit]⟩

theorem contains_of_isBlank {marks : List Char} (hblank : isBlank c = true)
    (hmarks : (marks.all fun mark => !isBlank mark) = true) : marks.contains c = false := by
  rw [List.contains_eq_mem, decide_eq_false_iff_not]
  intro hmem
  have hc := List.all_eq_true.mp hmarks c hmem
  rw [hblank] at hc
  cases hc

theorem byteLength_append (first second : List Char) :
    byteLength (first ++ second) = byteLength first + byteLength second := by
  induction first with
  | nil => simp [byteLength]
  | cons c rest ih => rw [List.cons_append, byteLength, byteLength, ih, Nat.add_assoc]

theorem takeBytes_prefix (budget : Nat) (text : List Char) : takeBytes budget text <+: text := by
  induction text generalizing budget with
  | nil => exact List.prefix_rfl
  | cons c rest ih =>
      rw [takeBytes]
      split
      · exact List.cons_prefix_cons.mpr ⟨rfl, ih _⟩
      · exact List.nil_prefix

theorem byteLength_takeBytes_le (budget : Nat) (text : List Char) :
    byteLength (takeBytes budget text) ≤ budget := by
  induction text generalizing budget with
  | nil => exact Nat.zero_le _
  | cons c rest ih =>
      rw [takeBytes]
      split
      next hfits =>
        have hrest := ih (budget - c.utf8Size)
        rw [byteLength]
        omega
      next => exact Nat.zero_le _

/-- What is taken of a text holds every start of it that has no more bytes. -/
theorem prefix_takeBytes {budget : Nat} {text start : List Char} (hstart : start <+: text)
    (hfits : byteLength start ≤ budget) : start <+: takeBytes budget text := by
  induction text generalizing budget start with
  | nil => exact hstart
  | cons c text ih =>
      cases start with
      | nil => exact List.nil_prefix
      | cons first start =>
          obtain ⟨rfl, hmore⟩ := List.cons_prefix_cons.mp hstart
          rw [byteLength] at hfits
          rw [takeBytes, if_pos (by omega)]
          exact List.cons_prefix_cons.mpr ⟨rfl, ih hmore (by omega)⟩

theorem byteLength_pos (htext : text ≠ []) : 0 < byteLength text := by
  cases text with
  | nil => exact absurd rfl htext
  | cons c rest => exact Nat.lt_of_lt_of_le c.utf8Size_pos (Nat.le_add_right _ _)

end Songbook.Text
