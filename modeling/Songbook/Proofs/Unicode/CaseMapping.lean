import Mathlib.Data.List.Chain
import Songbook.Unicode.CaseMapping

/-!
# Case maps as tables

A case map moves a character by the first shift of its table that applies to it. In the folding table
no two shifts apply to one character, and what a shift gives no shift moves again. So folding twice is
folding once, and the variants that the table lists for a character are all the characters that fold
as it does.
-/

namespace Songbook.Unicode

variable {c other : Char}

theorem toNat_ofNat {n : Nat} (hvalid : n.isValidChar) : (Char.ofNat n).toNat = n := by
  unfold Char.ofNat
  rw [dif_pos hvalid]
  rfl

/-! ## Shifts -/

namespace Shift

variable {shift : Shift} {point : Nat}

/-- The code point to which a shift moves another. -/
def image (shift : Shift) (point : Nat) : Nat :=
  ((point : Int) + shift.offset).toNat

theorem applies_iff : shift.applies point = true ↔
    (shift.first ≤ point ∧ point ≤ shift.last) ∧ (point - shift.first) % shift.step = 0 := by
  simp [applies]

theorem image_mono {point later : Nat} (hle : point ≤ later) :
    shift.image point ≤ shift.image later := by
  unfold image
  omega

end Shift

/-- A map moves a character by a shift that applies to it, or leaves it if there is none. -/
theorem CharMap.apply_cases (map : CharMap) (c : Char) :
    (∃ shift ∈ map.shifts, shift.applies c.toNat = true ∧
      map.apply c = Char.ofNat (shift.image c.toNat)) ∨
    (∀ shift ∈ map.shifts, shift.applies c.toNat = false) ∧ map.apply c = c := by
  unfold CharMap.apply
  split
  next shift hfind =>
    have happlies := List.find?_some hfind
    exact Or.inl ⟨shift, List.mem_of_find?_eq_some hfind, happlies, rfl⟩
  next hfind =>
    refine Or.inr ⟨fun shift hmem => ?_, rfl⟩
    exact Bool.eq_false_iff.mpr (List.find?_eq_none.mp hfind shift hmem)

/-! ## Lower case -/

/-- The table of small letters gives no character before `a`, and none in ASCII for the two letters
whose lower case is not that of the table. -/
theorem lowercaseMap_checks :
    (lowercaseMap.shifts.all fun shift => 96 < shift.image shift.first) = true ∧
      127 < (toLowercase 'Σ').toNat ∧ 127 < (toLowercase 'İ').toNat := by
  -- one decision for all of them, so that the words of the table are read once
  decide +kernel

/-- A mark that stands before `a` is the small letter of no other character. -/
theorem eq_of_toLowercase {mark : Char} (hmark : 0 < mark.toNat ∧ mark.toNat < 'a'.toNat)
    (hlower : toLowercase c = mark) : c = mark := by
  have hascii : ∀ n < 128, (Char.ofNat n).toLower.toNat < 97 →
      (Char.ofNat n).toLower = Char.ofNat n := by decide +kernel
  obtain ⟨hpos, hlow⟩ := hmark
  change mark.toNat < 97 at hlow
  unfold toLowercase at hlower
  split at hlower
  next hcode =>
    have hkept := hascii c.toNat hcode
    rw [Char.ofNat_toNat, hlower] at hkept
    exact (hkept hlow).symm
  next =>
    rcases lowercaseMap.apply_cases c with ⟨shift, hmem, happlies, happly⟩ | ⟨_, happly⟩
    · have hfirst := of_decide_eq_true (List.all_eq_true.mp lowercaseMap_checks.1 shift hmem)
      have himage := shift.image_mono (Shift.applies_iff.mp happlies).1.1
      rw [← hlower, happly] at hpos hlow
      by_cases hvalid : (shift.image c.toNat).isValidChar
      · rw [toNat_ofNat hvalid] at hlow
        omega
      · -- a number that is no code point gives the character zero
        rw [Char.ofNat, dif_neg hvalid] at hpos
        exact absurd hpos (by decide)
    · rwa [happly] at hlower

/-- A character is lowered to its small letter, or to a form of sigma or of the dotted `İ` that ends
beyond ASCII, as the small letter does. -/
theorem lowercaseAfter_cons_cases (before : List Char) (c : Char) (rest : List Char) :
    lowercaseAfter before (c :: rest) = toLowercase c :: lowercaseAfter (c :: before) rest ∨
    127 < (toLowercase c).toNat ∧ ∃ front last, (front = [] ∨ front = ['i']) ∧ 127 < last.toNat ∧
      lowercaseAfter before (c :: rest) = front ++ last :: lowercaseAfter (c :: before) rest := by
  have hforms := lowercaseMap_checks.2
  rw [lowercaseAfter]
  split
  next hsigma =>
    rw [← hsigma] at hforms
    split
    · exact Or.inr ⟨hforms.1, [], 'ς', Or.inl rfl, by decide, rfl⟩
    · exact Or.inr ⟨hforms.1, [], 'σ', Or.inl rfl, by decide, rfl⟩
  next =>
    split
    next hdotted =>
      rw [← hdotted] at hforms
      exact Or.inr ⟨hforms.2, ['i'], Char.ofNat 0x307, Or.inr rfl, by decide, rfl⟩
    next => exact Or.inl rfl

/-- Lower case brings in no mark that stands before `a`. -/
theorem mem_of_mem_lowercaseAfter {mark : Char} (hmark : 0 < mark.toNat ∧ mark.toNat < 'a'.toNat)
    {before text : List Char} (hmem : mark ∈ lowercaseAfter before text) : mark ∈ text := by
  induction text generalizing before with
  | nil => exact hmem
  | cons c rest ih =>
      rcases lowercaseAfter_cons_cases before c rest with
        hcase | ⟨_, front, last, hfront, hlast, hcase⟩
      · rw [hcase, List.mem_cons] at hmem
        rcases hmem with hlower | hmem
        · rw [eq_of_toLowercase hmark hlower.symm]
          exact List.mem_cons_self
        · exact List.mem_cons_of_mem _ (ih hmem)
      · have hlow : mark.toNat < 97 := hmark.2
        rw [hcase, List.mem_append, List.mem_cons] at hmem
        rcases hmem with hmem | rfl | hmem
        · rcases hfront with rfl | rfl
          · exact absurd hmem List.not_mem_nil
          · rw [List.mem_singleton.mp hmem] at hlow
            exact absurd hlow (by decide)
        · omega
        · exact List.mem_cons_of_mem _ (ih hmem)

/-! ### Endings in ASCII -/

theorem toLowercase_of_ascii (hascii : c.toNat < 128) :
    (toLowercase c).toNat < 128 ∧ toLowercase (toLowercase c) = toLowercase c := by
  have hall : ∀ n < 128, (toLowercase (Char.ofNat n)).toNat < 128 ∧
      toLowercase (toLowercase (Char.ofNat n)) = toLowercase (Char.ofNat n) := by decide +kernel
  have hcode := hall c.toNat hascii
  rwa [Char.ofNat_toNat] at hcode

/-- A text whose lower case is in ASCII is lowered character by character. -/
theorem map_toLowercase_of_ascii {before text : List Char}
    (hascii : ∀ c ∈ lowercaseAfter before text, c.toNat < 128) :
    text.map toLowercase = lowercaseAfter before text := by
  induction text generalizing before with
  | nil => rfl
  | cons c rest ih =>
      rcases lowercaseAfter_cons_cases before c rest with
        hcase | ⟨_, front, last, _, hlast, hcase⟩
      · rw [hcase] at hascii ⊢
        rw [List.map_cons, ih fun d hd => hascii d (List.mem_cons_of_mem _ hd)]
      · rw [hcase] at hascii
        have hlow := hascii last (List.mem_append_right _ List.mem_cons_self)
        omega

/-- An ending of a text in lower case that is in ASCII comes from an ending of the text. -/
theorem exists_suffix_of_lowercaseAfter {before text ending : List Char}
    (hascii : ∀ c ∈ ending, c.toNat < 128) (hending : ending <:+ lowercaseAfter before text) :
    ∃ tail, tail <:+ text ∧ tail.map toLowercase = ending := by
  induction text generalizing before with
  | nil =>
      rw [List.suffix_nil.mp hending]
      exact ⟨[], List.suffix_rfl, rfl⟩
  | cons c rest ih =>
      have hrest : ending <:+ lowercaseAfter (c :: before) rest →
          ∃ tail, tail <:+ c :: rest ∧ tail.map toLowercase = ending := by
        intro hending
        obtain ⟨tail, htail, hmap⟩ := ih hending
        exact ⟨tail, htail.trans (List.suffix_cons c rest), hmap⟩
      rcases lowercaseAfter_cons_cases before c rest with
        hcase | ⟨_, front, last, _, hlast, hcase⟩
      · rw [hcase, List.suffix_cons_iff] at hending
        rcases hending with hwhole | hending
        · rw [hwhole, ← hcase] at hascii ⊢
          exact ⟨c :: rest, List.suffix_rfl, map_toLowercase_of_ascii hascii⟩
        · exact hrest hending
      · -- what is longer than the rest of the text holds a character beyond ASCII
        rw [hcase] at hending
        rcases List.suffix_or_suffix_of_suffix hending (List.suffix_append front _) with
          hshort | hlong
        · rcases List.suffix_cons_iff.mp hshort with hwhole | hending
          · rw [hwhole] at hascii
            have hlow := hascii last List.mem_cons_self
            omega
          · exact hrest hending
        · have hlow := hascii last (hlong.mem List.mem_cons_self)
          omega

theorem lowercaseAfter_of_ascii {before text : List Char}
    (hascii : ∀ c ∈ text.map toLowercase, c.toNat < 128) :
    lowercaseAfter before text = text.map toLowercase := by
  induction text generalizing before with
  | nil => rfl
  | cons c rest ih =>
      obtain ⟨hc, hrest⟩ := List.forall_mem_cons.mp hascii
      rcases lowercaseAfter_cons_cases before c rest with hcase | ⟨hbeyond, _⟩
      · rw [hcase, ih hrest, List.map_cons]
      · omega

/-- An ending of a text that is in ASCII once it is lowered ends the text in lower case. -/
theorem map_toLowercase_suffix {before text tail : List Char}
    (hascii : ∀ c ∈ tail.map toLowercase, c.toNat < 128) (htail : tail <:+ text) :
    tail.map toLowercase <:+ lowercaseAfter before text := by
  induction text generalizing before with
  | nil =>
      rw [List.suffix_nil.mp htail]
      exact List.nil_suffix
  | cons c rest ih =>
      rcases List.suffix_cons_iff.mp htail with rfl | htail
      · exact ⟨[], (lowercaseAfter_of_ascii hascii).symm⟩
      · have hrest : lowercaseAfter (c :: before) rest <:+ lowercaseAfter before (c :: rest) := by
          rcases lowercaseAfter_cons_cases before c rest with hcase | ⟨_, front, last, _, _, hcase⟩
          · exact ⟨[toLowercase c], hcase.symm⟩
          · exact ⟨front ++ [last], by rw [hcase]; simp⟩
        exact (ih htail).trans hrest

theorem lowercaseAfter_of_fixed {before text : List Char}
    (hfixed : ∀ c ∈ text, c ≠ 'Σ' ∧ c ≠ 'İ' ∧ toLowercase c = c) :
    lowercaseAfter before text = text := by
  induction text generalizing before with
  | nil => rfl
  | cons first rest ih =>
      obtain ⟨⟨hsigma, hdotted, hfirst⟩, hrest⟩ := List.forall_mem_cons.mp hfixed
      simp [lowercaseAfter, hsigma, hdotted, hfirst, ih hrest]

/-! ## Case folding -/

/-- Whether the numbers of a range are code points of characters, none of them zero. -/
def areScalars (first last : Nat) : Bool :=
  0 < first && first ≤ last && (last < 0xD800 || (0xDFFF < first && last < 0x110000))

theorem isValidChar_of_areScalars {first last point : Nat} (hscalars : areScalars first last = true)
    (hfirst : first ≤ point) (hlast : point ≤ last) : point.isValidChar := by
  simp only [areScalars, Bool.and_eq_true, Bool.or_eq_true, decide_eq_true_eq] at hscalars
  unfold Nat.isValidChar
  omega

namespace Shift

/-- Whether a shift moves no code point of a range that another one gives: its own range lies
elsewhere, or both are runs of every second code point with nothing in common. -/
def avoids (shift given : Shift) (first last : Nat) : Bool :=
  last.blt shift.first || shift.last.blt first ||
    (shift.step = 2 && (given.step = 2 || given.first = given.last) &&
      (first + shift.first) % 2 = 1)

/-- Whether the code points that a shift moves are characters, and those that it gives too. -/
def sound (shift : Shift) : Bool :=
  areScalars shift.first shift.last && areScalars (shift.image shift.first) (shift.image shift.last)

variable {shift given : Shift} {point : Nat}

theorem image_eq_add (hsound : shift.sound = true) (hfirst : shift.first ≤ point) :
    (shift.image point : Int) = point + shift.offset := by
  simp only [sound, areScalars, Bool.and_eq_true, decide_eq_true_eq] at hsound
  unfold image at hsound ⊢
  omega

theorem isValidChar_image (hsound : shift.sound = true) (happlies : shift.applies point = true) :
    (shift.image point).isValidChar := by
  obtain ⟨⟨hfirst, hlast⟩, _⟩ := applies_iff.mp happlies
  exact isValidChar_of_areScalars (Bool.and_eq_true_iff.mp hsound).2 (image_mono hfirst)
    (image_mono hlast)

theorem not_applies_of_avoids (hsound : given.sound = true)
    (havoids : shift.avoids given (given.image given.first) (given.image given.last) = true)
    (hgiven : given.applies point = true) : shift.applies (given.image point) = false := by
  obtain ⟨⟨hfirst, hlast⟩, hstep⟩ := applies_iff.mp hgiven
  have hstart := image_eq_add hsound (Nat.le_refl _)
  have hpoint := image_eq_add hsound hfirst
  have hend := image_eq_add hsound (Nat.le_trans hfirst hlast)
  rw [Bool.eq_false_iff, ne_eq, applies_iff]
  rintro ⟨⟨hother, hothers⟩, hparity⟩
  simp only [avoids, Nat.blt_eq, Bool.or_eq_true, Bool.and_eq_true, decide_eq_true_eq] at havoids
  rcases havoids with (hbelow | habove) | ⟨⟨htwo, hgiven | halone⟩, hodd⟩
  · omega
  · omega
  · rw [htwo] at hparity
    rw [hgiven] at hstep
    omega
  · rw [htwo] at hparity
    omega

end Shift

/-- Whether the range of a shift starts after that of another one. -/
def Shift.IsBelow (shift later : Shift) : Prop :=
  shift.last < later.first ∧ later.first ≤ later.last

instance : DecidableRel Shift.IsBelow := fun shift later =>
  inferInstanceAs (Decidable (shift.last < later.first ∧ later.first ≤ later.last))

instance : Trans Shift.IsBelow Shift.IsBelow Shift.IsBelow where
  trans hfirst hsecond :=
    ⟨Nat.lt_trans (Nat.lt_of_lt_of_le hfirst.1 hfirst.2) hsecond.1, hsecond.2⟩

/-- What makes the folding table one of folding: only its first shift moves ASCII characters, its ranges
increase, what a shift gives are characters, and nothing that a shift gives is moved. -/
theorem foldingMap_checks :
    (foldingMap.shifts.tail.all fun shift => 127 < shift.first) = true ∧
    foldingMap.shifts.IsChain Shift.IsBelow ∧
    (foldingMap.shifts.all fun shift => shift.sound) = true ∧
    (foldingMap.shifts.all fun given => foldingMap.shifts.all fun shift =>
      shift.avoids given (given.image given.first) (given.image given.last)) = true := by
  -- one decision for all of them, so that the words of the table are read once
  decide +kernel

theorem sound_of_mem {shift : Shift} (hmem : shift ∈ foldingMap.shifts) : shift.sound = true :=
  List.all_eq_true.mp foldingMap_checks.2.2.1 shift hmem

/-- No two shifts of the folding table apply to one code point. -/
theorem eq_of_applies {shift later : Shift} {point : Nat} (hshift : shift ∈ foldingMap.shifts)
    (hlater : later ∈ foldingMap.shifts) (hfirst : shift.applies point = true)
    (hsecond : later.applies point = true) : shift = later := by
  have hbelow := List.pairwise_iff_getElem.mp
    (List.isChain_iff_pairwise.mp foldingMap_checks.2.1)
  obtain ⟨⟨hlow, hhigh⟩, _⟩ := Shift.applies_iff.mp hfirst
  obtain ⟨⟨hlow', hhigh'⟩, _⟩ := Shift.applies_iff.mp hsecond
  obtain ⟨i, hi, rfl⟩ := List.getElem_of_mem hshift
  obtain ⟨j, hj, rfl⟩ := List.getElem_of_mem hlater
  rcases Nat.lt_trichotomy i j with hlt | rfl | hgt
  · have hapart := (hbelow i j hi hj hlt).1
    omega
  · rfl
  · have hapart := (hbelow j i hj hi hgt).1
    omega

/-- The table moves ASCII characters as they are lowered. -/
theorem foldingMap_apply_of_low (hlow : c.toNat < 128) : foldingMap.apply c = c.toLower := by
  have hascii : ∀ n < 128, (Char.ofNat n).toLower =
      if (Shift.ofWord "41-5A:+20").applies n then
        Char.ofNat ((Shift.ofWord "41-5A:+20").image n)
      else Char.ofNat n := by decide +kernel
  have hcode := hascii c.toNat hlow
  rw [Char.ofNat_toNat] at hcode
  rw [hcode]
  have hshifts : foldingMap.shifts = Shift.ofWord "41-5A:+20" :: foldingMap.shifts.tail := rfl
  rcases foldingMap.apply_cases c with ⟨shift, hmem, happlies, happly⟩ | ⟨hnone, happly⟩
  · rw [hshifts, List.mem_cons] at hmem
    rcases hmem with rfl | hmem
    · rw [if_pos happlies, happly]
    · have hfirst := List.all_eq_true.mp foldingMap_checks.1 shift hmem
      have hlast := (Shift.applies_iff.mp happlies).1.1
      rw [decide_eq_true_eq] at hfirst
      omega
  · have hfirst := hnone _ (hshifts ▸ List.mem_cons_self)
    rw [if_neg (Bool.eq_false_iff.mp hfirst), happly]

theorem foldCase_eq_apply (c : Char) : foldCase c = foldingMap.apply c := by
  unfold foldCase
  split
  next hlow => exact (foldingMap_apply_of_low hlow).symm
  next => rfl

/-- A shift of the table that applies to a character says how it folds. -/
theorem foldCase_of_applies {shift : Shift} (hmem : shift ∈ foldingMap.shifts)
    (happlies : shift.applies c.toNat = true) : foldCase c = Char.ofNat (shift.image c.toNat) := by
  rw [foldCase_eq_apply]
  rcases foldingMap.apply_cases c with ⟨found, hfound, hthis, happly⟩ | ⟨hnone, _⟩
  · rw [happly, eq_of_applies hfound hmem hthis happlies]
  · exact absurd happlies (Bool.eq_false_iff.mp (hnone shift hmem))

theorem foldCase_foldCase (c : Char) : foldCase (foldCase c) = foldCase c := by
  rw [foldCase_eq_apply c, foldCase_eq_apply]
  rcases foldingMap.apply_cases c with ⟨given, hgiven, happlies, happly⟩ | ⟨_, happly⟩
  · have hsound := sound_of_mem hgiven
    have hcode : (foldingMap.apply c).toNat = given.image c.toNat := by
      rw [happly, toNat_ofNat (Shift.isValidChar_image hsound happlies)]
    rcases foldingMap.apply_cases (foldingMap.apply c) with ⟨shift, hmem, hagain, _⟩ | ⟨_, hstays⟩
    · have havoids := List.all_eq_true.mp
        (List.all_eq_true.mp foldingMap_checks.2.2.2 given hgiven) shift hmem
      rw [hcode, Shift.not_applies_of_avoids hsound havoids happlies] at hagain
      cases hagain
    · exact hstays
  · rw [happly, happly]

/-- The variants of a character are the characters that fold as it does. -/
theorem mem_caseVariants_iff : other ∈ caseVariants c ↔ foldCase other = foldCase c := by
  simp only [caseVariants, CharMap.sources, List.mem_cons, List.mem_filterMap,
    Option.map_eq_some_iff]
  constructor
  · rintro (rfl | ⟨shift, hmem, point, hsource, rfl⟩)
    · exact foldCase_foldCase c
    · have hsound := sound_of_mem hmem
      unfold Shift.source? at hsource
      dsimp only at hsource
      split at hsource
      next happlies =>
        cases hsource
        obtain ⟨⟨hfirst, hlast⟩, _⟩ := Shift.applies_iff.mp happlies
        have himage := Shift.image_eq_add hsound hfirst
        have hscalars := (Bool.and_eq_true_iff.mp hsound).1
        have hpoint := toNat_ofNat (isValidChar_of_areScalars hscalars hfirst hlast)
        have htarget : shift.image ((foldCase c).toNat - shift.offset : Int).toNat =
            (foldCase c).toNat := by
          simp only [areScalars, Bool.and_eq_true, decide_eq_true_eq] at hscalars
          omega
        rw [foldCase_of_applies hmem (by rwa [hpoint]), hpoint, htarget, Char.ofNat_toNat]
      next => cases hsource
  · intro hfold
    rw [← hfold, foldCase_eq_apply other]
    rcases foldingMap.apply_cases other with ⟨shift, hmem, happlies, happly⟩ | ⟨_, happly⟩
    · have hsound := sound_of_mem hmem
      have himage := Shift.image_eq_add hsound (Shift.applies_iff.mp happlies).1.1
      refine Or.inr ⟨shift, hmem, other.toNat, ?_, Char.ofNat_toNat other⟩
      rw [happly, toNat_ofNat (Shift.isValidChar_image hsound happlies), Shift.source?, himage,
        Int.add_sub_cancel, Int.toNat_natCast, if_pos happlies]
    · exact Or.inl happly.symm

end Songbook.Unicode
