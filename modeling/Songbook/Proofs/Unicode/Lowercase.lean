import Songbook.Proofs.Number.Numeral
import Songbook.Proofs.Text
import Songbook.Proofs.Unicode.CaseMapping

/-!
# Lower case keeps blanks and numbers

No character becomes blank, or ceases to be, when it is lowered, and none becomes one of those that
numbers are written with. So a text without sigma and the dotted `İ`, which stand in no number, is
trimmed, split and read alike before and after it is lowered.
-/

namespace Songbook

/-! ## Character by character -/

namespace Text

variable {change : Char → Char}

theorem trim_map (hblank : ∀ c, isBlank (change c) = isBlank c) (text : List Char) :
    trim (text.map change) = (trim text).map change := by
  have hcomp : isBlank ∘ change = isBlank := funext hblank
  simp only [trim, trimStart, trimEnd, ← List.map_reverse, List.dropWhile_map, hcomp]

/-- What holds of blanks holds of the characters of a text if it holds of those that trimming
leaves. -/
theorem forall_mem_trim_iff {p : Char → Prop} (hblank : ∀ c, isBlank c = true → p c)
    {text : List Char} : (∀ c ∈ trim text, p c) ↔ ∀ c ∈ text, p c := by
  obtain ⟨before, after, hsplit, hbefore, hafter, _⟩ := exists_blanks_around text
  constructor
  · intro htrim c hc
    rw [hsplit, List.mem_append, List.mem_append] at hc
    rcases hc with hc | hc | hc
    · exact hblank c (hbefore c hc)
    · exact htrim c hc
    · exact hblank c (hafter c hc)
  · exact fun hall c hc => hall c (List.IsInfix.subset trim_infix hc)

theorem mem_trim {c : Char} (hc : isBlank c = false) {text : List Char} (hmem : c ∈ text) :
    c ∈ trim text := by
  apply Classical.byContradiction
  intro hnot
  refine (forall_mem_trim_iff (p := (· ≠ c)) ?_).mp (fun d hd => ?_) c hmem rfl
  · rintro d hd rfl
    rw [hc] at hd
    cases hd
  · rintro rfl
    exact hnot hd

/-- The characters of a text other than a separator are those of its pieces. -/
theorem mem_iff_mem_splitOn {mark c : Char} (hne : c ≠ mark) {text : List Char} :
    c ∈ text ↔ ∃ piece ∈ text.splitOn mark, c ∈ piece := by
  induction text with
  | nil => simp
  | cons d rest ih =>
      rw [List.splitOn_cons_eq_if_modifyHead, List.mem_cons, ih]
      split
      next hmark =>
        rw [eq_of_beq hmark]
        simp [hne]
      next =>
        obtain ⟨first, more, hsplit⟩ := List.exists_cons_of_ne_nil (List.splitOn_ne_nil mark rest)
        simp [hsplit, or_assoc]

theorem forall_mem_splitOn_iff {p : Char → Prop} {mark : Char} (hmark : p mark) {text : List Char} :
    (∀ piece ∈ text.splitOn mark, ∀ c ∈ piece, p c) ↔ ∀ c ∈ text, p c := by
  constructor
  · intro hpieces c hc
    by_cases heq : c = mark
    · rwa [heq]
    · obtain ⟨piece, hpiece, hmem⟩ := (mem_iff_mem_splitOn heq).mp hc
      exact hpieces piece hpiece c hmem
  · intro hall piece hpiece c hc
    by_cases heq : c = mark
    · rwa [heq]
    · exact hall c ((mem_iff_mem_splitOn heq).mpr ⟨piece, hpiece, hc⟩)

theorem splitOn_map {mark : Char} (hmark : ∀ c, change c = mark ↔ c = mark) (text : List Char) :
    (text.map change).splitOn mark = (text.splitOn mark).map (List.map change) := by
  induction text with
  | nil => rfl
  | cons c rest ih =>
      rw [List.map_cons, List.splitOn_cons_eq_if_modifyHead, List.splitOn_cons_eq_if_modifyHead, ih]
      simp only [beq_iff_eq, hmark]
      split
      next => rfl
      next => cases rest.splitOn mark <;> rfl

end Text

namespace Unicode

variable {c : Char} {before text : List Char}

/-! ## The table of small letters -/

/-- The code points of blank characters. -/
def blankPoints : List Nat :=
  [0x9, 0xA, 0xB, 0xC, 0xD, 0x20, 0x85, 0xA0, 0x1680, 0x2000, 0x2001, 0x2002, 0x2003, 0x2004,
    0x2005, 0x2006, 0x2007, 0x2008, 0x2009, 0x200A, 0x2028, 0x2029, 0x202F, 0x205F, 0x3000]

theorem mem_blankPoints_iff : c.toNat ∈ blankPoints ↔ Text.isBlank c = true := by
  simp only [blankPoints, Text.isBlank, Property.isWhiteSpace, List.mem_cons, List.not_mem_nil,
    or_false, Bool.or_eq_true, Bool.and_eq_true, decide_eq_true_eq, List.contains_iff_mem]
  omega

/-- Whether a shift moves none of some code points, and nothing to them. -/
def Shift.spares (shift : Shift) (points : List Nat) : Bool :=
  points.all fun point => (point < shift.first || shift.last < point) &&
    (point < shift.image shift.first || shift.image shift.last < point)

/-- Beyond ASCII the table of small letters has nothing to do with blanks and with the characters of
numbers. -/
theorem lowercaseMap_spares :
    (lowercaseMap.shifts.all fun shift => shift.last < 128 ||
      shift.spares (blankPoints ++ Decimal.marks.map Char.toNat)) = true ∧
      ∀ n < 128, Text.isBlank (toLowercase (Char.ofNat n)) = Text.isBlank (Char.ofNat n) := by
  -- one decision for all of them, so that the words of the table are read once
  decide +kernel

/-- A character beyond ASCII that is not its own small letter is neither blank nor one of those that
numbers are written with, nor is its small letter. -/
theorem toLowercase_of_beyond (hbeyond : 128 ≤ c.toNat) : toLowercase c = c ∨
    ∀ point ∈ blankPoints ++ Decimal.marks.map Char.toNat,
      c.toNat ≠ point ∧ (toLowercase c).toNat ≠ point := by
  rw [toLowercase, if_neg (Nat.not_lt.mpr hbeyond)]
  rcases lowercaseMap.apply_cases c with ⟨shift, hmem, happlies, happly⟩ | ⟨_, happly⟩
  · obtain ⟨⟨hfirst, hlast⟩, _⟩ := Shift.applies_iff.mp happlies
    have hlow := shift.image_mono hfirst
    have hhigh := shift.image_mono hlast
    have hspares := List.all_eq_true.mp lowercaseMap_spares.1 shift hmem
    rw [Bool.or_eq_true, decide_eq_true_eq] at hspares
    refine Or.inr fun point hpoint => ?_
    have hspared := List.all_eq_true.mp (hspares.resolve_left (by omega)) point hpoint
    simp only [Bool.and_eq_true, Bool.or_eq_true, decide_eq_true_eq] at hspared
    refine ⟨by omega, ?_⟩
    by_cases hvalid : (shift.image c.toNat).isValidChar
    · rw [happly, toNat_ofNat hvalid]
      omega
    · -- a number that is no code point gives the character zero, which is not in the list
      have hpositive : ∀ point ∈ blankPoints ++ Decimal.marks.map Char.toNat, 0 ≠ point := by
        decide
      rw [happly, Char.ofNat, dif_neg hvalid]
      exact hpositive point hpoint
  · exact Or.inl happly

theorem isBlank_toLowercase (c : Char) : Text.isBlank (toLowercase c) = Text.isBlank c := by
  by_cases hascii : c.toNat < 128
  · have hblank := lowercaseMap_spares.2 c.toNat hascii
    rwa [Char.ofNat_toNat] at hblank
  · rcases toLowercase_of_beyond (Nat.not_lt.mp hascii) with hsame | hspared
    · rw [hsame]
    · have hpoints := fun point hpoint => hspared point (List.mem_append_left _ hpoint)
      rw [Bool.eq_iff_iff, ← mem_blankPoints_iff, ← mem_blankPoints_iff]
      exact iff_of_false (fun hmem => (hpoints _ hmem).2 rfl) fun hmem => (hpoints _ hmem).1 rfl

theorem toLower_toLower (c : Char) : c.toLower.toLower = c.toLower := by
  rcases Decimal.toLower_cases c with ⟨n, hn, rfl⟩ | hkept
  · have hletters : ∀ n < 26, (Char.ofNat (65 + n)).toLower.toLower =
        (Char.ofNat (65 + n)).toLower := by decide
    exact hletters n hn
  · rw [hkept, hkept]

/-- A character beyond ASCII and its small letter are no capitals of ASCII. -/
theorem toLower_of_beyond (hbeyond : 128 ≤ c.toNat) :
    c.toLower = c ∧ (toLowercase c).toLower = toLowercase c := by
  have hcapital : ∀ n < 26, 0 < (Char.ofNat (65 + n)).toNat ∧ (Char.ofNat (65 + n)).toNat < 97 := by
    decide
  constructor
  · rcases Decimal.toLower_cases c with ⟨n, hn, rfl⟩ | hkept
    · have hlow := hcapital n hn
      omega
    · exact hkept
  · rcases Decimal.toLower_cases (toLowercase c) with ⟨n, hn, hcase⟩ | hkept
    · have hlow := hcapital n hn
      have heq := eq_of_toLowercase hlow hcase
      rw [← heq] at hlow
      omega
    · exact hkept

/-- Lower case changes a character into one of those of numbers only by making it small. -/
theorem keepsMarks_toLowercase : Decimal.KeepsMarks toLowercase := by
  intro c mark hmark
  by_cases hascii : c.toNat < 128
  · rw [toLowercase, if_pos hascii, toLower_toLower]
  · have hbeyond := Nat.not_lt.mp hascii
    obtain ⟨hc, hlowered⟩ := toLower_of_beyond hbeyond
    rw [hc, hlowered]
    rcases toLowercase_of_beyond hbeyond with hsame | hspared
    · rw [hsame]
    · have hpoint := hspared mark.toNat (List.mem_append_right _ (List.mem_map_of_mem hmark))
      refine iff_of_false ?_ ?_
      · rintro rfl
        exact hpoint.2 rfl
      · rintro rfl
        exact hpoint.1 rfl

/-- The characters that numbers are written with are in ASCII. -/
theorem toLowercase_of_mark (hmark : c.toLower ∈ Decimal.marks) : toLowercase c = c.toLower := by
  refine if_pos ?_
  rcases Decimal.toLower_cases c with ⟨n, hn, rfl⟩ | hkept
  · have hletters : ∀ n < 26, (Char.ofNat (65 + n)).toNat < 128 := by decide
    exact hletters n hn
  · have hascii : (Decimal.marks.all fun mark => mark.toNat < 128) = true := by decide
    exact of_decide_eq_true (List.all_eq_true.mp hascii c (hkept ▸ hmark))

/-! ## Texts that are lowered character by character -/

theorem mem_lowercaseAfter (hsigma : c ≠ 'Σ') (hdotted : c ≠ 'İ') (hc : c ∈ text) :
    toLowercase c ∈ lowercaseAfter before text := by
  induction text generalizing before with
  | nil => cases hc
  | cons d rest ih =>
      rw [lowercaseAfter]
      rcases List.mem_cons.mp hc with rfl | hc
      · rw [if_neg hsigma, if_neg hdotted]
        exact List.mem_cons_self
      · exact List.mem_append_right _ (ih hc)

theorem lowercaseAfter_eq_map (before : List Char) (hplain : ∀ c ∈ text, c ≠ 'Σ' ∧ c ≠ 'İ') :
    lowercaseAfter before text = text.map toLowercase := by
  induction text generalizing before with
  | nil => rfl
  | cons c rest ih =>
      obtain ⟨⟨hsigma, hdotted⟩, hrest⟩ := List.forall_mem_cons.mp hplain
      rw [lowercaseAfter, if_neg hsigma, if_neg hdotted, ih _ hrest]
      rfl

/-- The forms that sigma and the dotted `İ` leave when they are lowered. -/
def specialForms : List Char :=
  ['σ', 'ς', Char.ofNat 0x307]

/-- A text that holds none of the special forms once it is lowered holds no sigma and no `İ`. -/
theorem plain_of_lowercaseAfter (before : List Char)
    (hforms : ∀ c ∈ lowercaseAfter before text, c ∉ specialForms) :
    ∀ c ∈ text, c ≠ 'Σ' ∧ c ≠ 'İ' := by
  induction text generalizing before with
  | nil => intro c hc; cases hc
  | cons c rest ih =>
      rw [lowercaseAfter] at hforms
      obtain ⟨hfirst, hrest⟩ := List.forall_mem_append.mp hforms
      refine List.forall_mem_cons.mpr ⟨⟨?_, ?_⟩, ih _ hrest⟩
      · rintro rfl
        rw [if_pos rfl] at hfirst
        split at hfirst
        · exact hfirst 'ς' List.mem_cons_self (by decide)
        · exact hfirst 'σ' List.mem_cons_self (by decide)
      · rintro rfl
        rw [if_neg (by decide), if_pos rfl] at hfirst
        exact hfirst (Char.ofNat 0x307) (List.mem_cons_of_mem _ List.mem_cons_self) (by decide)

end Unicode

end Songbook
