import Songbook.Proofs.Song.Tied
import Songbook.Proofs.Unicode.Lowercase
import Songbook.Query.Quantity

/-!
# Values read as clock readings

A value with a colon is read as a clock reading of two or three fields, each of them any number that
is not below zero. The numerals without a sign are among those numbers, but so are words, exponents,
the sign `+`, and what has the sign `-` without being below zero. Of a bare number the words are no
reading, since it ends at its first letter.
-/

namespace Songbook.Quantity

variable {text : List Char} {raw : String}

/-! ## Fields -/

/-- What is read as a field of a clock reading: a number that has not the sign `-`, or one that has
it and is not below zero for all that. -/
inductive IsClockField : List Char → Prop
  | bare {text : List Char} (hunsigned : Binary64.IsUnsigned text) : IsClockField text
  | plus {text : List Char} (hunsigned : Binary64.IsUnsigned text) : IsClockField ('+' :: text)
  | minusNan {text : List Char} (hword : Binary64.IsWord "nan" text) : IsClockField ('-' :: text)
  | minusZero {text : List Char} (hzero : Binary64.read? ('-' :: text) = some .negativeZero) :
      IsClockField ('-' :: text)

theorem exists_read?_of_head (hnumber : Binary64.IsNumber text) (hhead : text.head? ≠ some '-') :
    ∃ x, Binary64.read? text = some x ∧ x.compare? 0 ≠ some .lt := by
  obtain ⟨x, hread⟩ := Option.isSome_iff_exists.mp (Binary64.isSome_read?_iff.mpr hnumber)
  refine ⟨x, hread, fun hlt => ?_⟩
  have hnegative := (Binary64.compare?_zero_iff.mp hlt).1
  have hnan : x ≠ .nan := by
    rintro rfl
    cases hnegative
  rw [Binary64.isNegative_of_read? hread hnan] at hnegative
  exact hhead (of_decide_eq_true hnegative)

/-- The numbers that are not below zero. -/
theorem isClockField_iff : IsClockField text ↔
    ∃ x, Binary64.read? text = some x ∧ x.compare? 0 ≠ some .lt := by
  constructor
  · rintro (hunsigned | hunsigned | hword | hzero)
    · exact exists_read?_of_head (.bare hunsigned) (hunsigned.unsigned _).2
    · exact exists_read?_of_head (.plus hunsigned) (by simp)
    · exact ⟨.nan, Binary64.read?_minus_eq_nan_iff.mpr hword, by decide⟩
    · exact ⟨.negativeZero, hzero, by decide⟩
  · rintro ⟨x, hread, hcompare⟩
    have hnumber := Binary64.isSome_read?_iff.mp (Option.isSome_of_eq_some hread)
    cases hnumber with
    | bare hunsigned => exact .bare hunsigned
    | plus hunsigned => exact .plus hunsigned
    | @minus text hunsigned =>
        by_cases hnan : x = .nan
        · rw [hnan, Binary64.read?_minus_eq_nan_iff] at hread
          exact .minusNan hread
        · have hnegative : x.isNegative = true := Binary64.isNegative_of_read? hread hnan
          have hzero : x = .negativeZero :=
            Classical.not_not.mp fun hne =>
              hcompare (Binary64.compare?_zero_iff.mpr ⟨hnegative, hne⟩)
          exact .minusZero (hzero ▸ hread)

theorem IsClockField.isNumber (hfield : IsClockField text) : Binary64.IsNumber text := by
  obtain ⟨x, hread, _⟩ := isClockField_iff.mp hfield
  exact Binary64.isSome_read?_iff.mp (Option.isSome_of_eq_some hread)

/-- A letter of ASCII or a sign. -/
def isLetterOrSign (c : Char) : Bool :=
  c.isAlpha || c = '+' || c = '-'

theorem isAlpha_of_toLower {c letter : Char} (hletter : letter.isAlpha = true)
    (hlower : c.toLower = letter) : c.isAlpha = true := by
  rcases Decimal.toLower_cases c with ⟨n, hn, rfl⟩ | hkept
  · have hcapitals : ∀ n < 26, (Char.ofNat (65 + n)).isAlpha = true := by decide
    exact hcapitals n hn
  · rwa [← hkept, hlower]

theorem exists_isAlpha_of_isWord {word : String} (hword : Binary64.IsWord word text)
    (hstart : word.toList.head?.any Char.isAlpha = true) : ∃ c ∈ text, c.isAlpha = true := by
  rw [← hword.head?] at hstart
  cases text with
  | nil => cases hstart
  | cons c rest => exact ⟨c, List.mem_cons_self, isAlpha_of_toLower hstart rfl⟩

/-- Without letters and signs the fields are the numerals. -/
theorem isNumeral_iff_isClockField : Decimal.IsNumeral text ↔
    IsClockField text ∧ ∀ c ∈ text, isLetterOrSign c = false := by
  constructor
  · intro hnumeral
    have hscientific : Decimal.IsScientific (text ++ []) := ⟨hnumeral, .absent⟩
    rw [List.append_nil] at hscientific
    refine ⟨.bare (.numeral hscientific), fun c hc => ?_⟩
    rcases hnumeral.characters c hc with hdigit | rfl
    · have hall : ("0123456789".toList.all fun d => !isLetterOrSign d) = true := by decide
      exact (Bool.not_eq_true' _).mp (Decimal.holds_of_isDigit hall hdigit)
    · decide
  · rintro ⟨hfield, hplain⟩
    have hnoWord : ∀ {word : String}, word.toList.head?.any Char.isAlpha = true →
        (∀ c ∈ text, isLetterOrSign c = false) → ¬Binary64.IsWord word text := by
      intro word hstart hplain hword
      obtain ⟨c, hc, halpha⟩ := exists_isAlpha_of_isWord hword hstart
      have hother := hplain c hc
      rw [isLetterOrSign, halpha] at hother
      cases hother
    cases hfield with
    | bare hunsigned =>
        cases hunsigned with
        | numeral hscientific =>
            obtain ⟨hnumeral, hexponent⟩ := hscientific
            cases hexponent with
            | absent => rwa [List.append_nil]
            | @power mark rest hmark hdigits =>
                have hother := hplain mark (List.mem_append_right _ List.mem_cons_self)
                rcases hmark with rfl | rfl
                · cases hother
                · cases hother
        | infinity hword =>
            rcases hword with hword | hword
            · exact absurd hword (hnoWord (by decide) hplain)
            · exact absurd hword (hnoWord (by decide) hplain)
        | nan hword => exact absurd hword (hnoWord (by decide) hplain)
    | plus => cases hplain '+' List.mem_cons_self
    | minusNan => cases hplain '-' List.mem_cons_self
    | minusZero => cases hplain '-' List.mem_cons_self

/-! ## Clock readings -/

/-- A text of two or three fields between colons, each with a property but for blanks around it. -/
structure IsClockOf (p : List Char → Prop) (text : List Char) : Prop where
  twoOrThree : (text.splitOn ':').length = 2 ∨ (text.splitOn ':').length = 3
  fields : ∀ field ∈ text.splitOn ':', p (Text.trim field)

theorem isSome_ofClockFields?_iff {total : Binary64} {fields : List (List Char)} :
    (ofClockFields? total fields).isSome = true ↔
      ∀ field ∈ fields, IsClockField (Text.trim field) := by
  induction fields generalizing total with
  | nil => simp [ofClockFields?]
  | cons field rest ih =>
      rw [List.forall_mem_cons, isClockField_iff, ofClockFields?]
      cases hread : Binary64.read? (Text.trim field) with
      | none => simp
      | some x =>
          dsimp only
          split
          next hlt => simp [hlt]
          next hge => simp [hge, ih]

theorem isSome_ofClock?_iff : (ofClock? text).isSome = true ↔ IsClockOf IsClockField text := by
  unfold ofClock?
  dsimp only
  split
  next hlength =>
    rw [Option.isSome_map, isSome_ofClockFields?_iff]
    exact ⟨fun hfields => ⟨hlength, hfields⟩, fun hclock => hclock.fields⟩
  next hlength => exact iff_of_false Bool.false_ne_true fun hclock => hlength hclock.twoOrThree

theorem isLetterOrSign_of_isBlank {c : Char} (hblank : Text.isBlank c = true) :
    isLetterOrSign c = false := by
  have hall : ∀ n ∈ Unicode.blankPoints, isLetterOrSign (Char.ofNat n) = false := by decide
  have hc := hall c.toNat (Unicode.mem_blankPoints_iff.mpr hblank)
  rwa [Char.ofNat_toNat] at hc

/-- Without letters and signs the clock readings are those of numerals. -/
theorem isClockOf_isNumeral_iff : IsClockOf Decimal.IsNumeral text ↔
    IsClockOf IsClockField text ∧ ∀ c ∈ text, isLetterOrSign c = false := by
  have hchars : (∀ field ∈ text.splitOn ':', ∀ c ∈ Text.trim field, isLetterOrSign c = false) ↔
      ∀ c ∈ text, isLetterOrSign c = false := by
    simp only [Text.forall_mem_trim_iff fun c => isLetterOrSign_of_isBlank]
    exact Text.forall_mem_splitOn_iff (by decide)
  rw [← hchars]
  constructor
  · rintro ⟨hlength, hfields⟩
    have hnumeral := fun field hmem => isNumeral_iff_isClockField.mp (hfields field hmem)
    exact ⟨⟨hlength, fun field hmem => (hnumeral field hmem).1⟩,
      fun field hmem => (hnumeral field hmem).2⟩
  · rintro ⟨⟨hlength, hfields⟩, hplain⟩
    exact ⟨hlength, fun field hmem =>
      isNumeral_iff_isClockField.mpr ⟨hfields field hmem, hplain field hmem⟩⟩

/-! ## Lower case -/

/-- A character of a clock reading: a colon, a blank, or one that numbers are written with. -/
def IsClockCharacter (c : Char) : Prop :=
  c = ':' ∨ Text.isBlank c = true ∨ c.toLower ∈ Decimal.marks

instance : DecidablePred IsClockCharacter := fun c =>
  inferInstanceAs (Decidable (c = ':' ∨ Text.isBlank c = true ∨ c.toLower ∈ Decimal.marks))

theorem isClockCharacter_of_fields
    (hfields : ∀ field ∈ text.splitOn ':', Binary64.IsNumber (Text.trim field)) :
    ∀ c ∈ text, IsClockCharacter c := by
  refine (Text.forall_mem_splitOn_iff (Or.inl rfl)).mp fun field hfield => ?_
  refine (Text.forall_mem_trim_iff fun c hc => Or.inr (Or.inl hc)).mp fun c hc => ?_
  exact Or.inr (Or.inr ((hfields field hfield).toLower_mem_marks c hc))

theorem plain_of_isClockCharacter (hclock : ∀ c ∈ text, IsClockCharacter c) :
    ∀ c ∈ text, c ≠ 'Σ' ∧ c ≠ 'İ' := by
  intro c hc
  constructor
  · rintro rfl
    exact absurd (hclock _ hc) (by decide)
  · rintro rfl
    exact absurd (hclock _ hc) (by decide)

theorem toLowercase_eq_colon_iff (c : Char) : Unicode.toLowercase c = ':' ↔ c = ':' := by
  constructor
  · exact Unicode.eq_of_toLowercase (by decide)
  · rintro rfl
    decide

theorem isClockOf_map_iff :
    IsClockOf IsClockField (text.map Unicode.toLowercase) ↔ IsClockOf IsClockField text := by
  have hfields := Text.splitOn_map toLowercase_eq_colon_iff text
  have hfield : ∀ field, IsClockField (Text.trim (field.map Unicode.toLowercase)) ↔
      IsClockField (Text.trim field) := by
    intro field
    rw [Text.trim_map Unicode.isBlank_toLowercase, isClockField_iff, isClockField_iff,
      Binary64.read?_map Unicode.keepsMarks_toLowercase]
  constructor
  · rintro ⟨hlength, hclock⟩
    rw [hfields, List.length_map] at hlength
    rw [hfields, List.forall_mem_map] at hclock
    exact ⟨hlength, fun field hmem => (hfield field).mp (hclock field hmem)⟩
  · rintro ⟨hlength, hclock⟩
    constructor
    · rwa [hfields, List.length_map]
    · rw [hfields, List.forall_mem_map]
      exact fun field hmem => (hfield field).mpr (hclock field hmem)

/-- A text is a clock reading if it is one in lower case. Sigma and the dotted `İ`, which are not
lowered by themselves, stand in neither. -/
theorem isClockOf_lowercase_iff :
    IsClockOf IsClockField (Unicode.lowercase text) ↔ IsClockOf IsClockField text := by
  have hplain : IsClockOf IsClockField (Unicode.lowercase text) ∨ IsClockOf IsClockField text →
      ∀ c ∈ text, c ≠ 'Σ' ∧ c ≠ 'İ' := by
    rintro (hclock | hclock)
    · refine Unicode.plain_of_lowercaseAfter [] fun c hc hform => ?_
      have hforms : (Unicode.specialForms.all fun c => !decide (IsClockCharacter c)) = true := by
        decide
      have hnot := of_decide_eq_false
        ((Bool.not_eq_true' _).mp (List.all_eq_true.mp hforms c hform))
      exact hnot
        (isClockCharacter_of_fields (fun field hmem => (hclock.fields field hmem).isNumber) c hc)
    · exact plain_of_isClockCharacter
        (isClockCharacter_of_fields fun field hmem => (hclock.fields field hmem).isNumber)
  have hmap := fun hclock => Unicode.lowercaseAfter_eq_map [] (hplain hclock)
  constructor
  · intro hclock
    have hlower := hmap (Or.inl hclock)
    rw [Unicode.lowercase, hlower] at hclock
    exact isClockOf_map_iff.mp hclock
  · intro hclock
    rw [Unicode.lowercase, hmap (Or.inr hclock)]
    exact isClockOf_map_iff.mpr hclock

/-! ## Values -/

theorem isDigit_of_dateField? {least most : Nat} {n : Int}
    (hread : dateField? least most text = some n) : ∀ c ∈ text, c.isDigit = true := by
  unfold dateField? at hread
  split at hread
  next =>
    obtain ⟨digits, hdigits, _⟩ := Option.map_eq_some_iff.mp hread
    exact (Decimal.readNat?_eq_some_iff.mp hdigits).2.1
  next => cases hread

theorem ofDate?_of_colon (hcolon : ':' ∈ text) : ofDate? text = none := by
  have hparts : ∃ part ∈ text.splitOn '-', ':' ∈ part :=
    (Text.mem_iff_mem_splitOn (by decide)).mp hcolon
  obtain ⟨part, hpart, hmem⟩ := hparts
  have hfield : ∀ least most, dateField? least most part = none := by
    intro least most
    rw [Option.eq_none_iff_forall_ne_some]
    intro n hread
    exact absurd (isDigit_of_dateField? hread ':' hmem) (by decide)
  unfold ofDate?
  dsimp only
  split
  next year month hparts =>
    rw [hparts, List.mem_pair] at hpart
    rcases hpart with rfl | rfl
    · simp [hfield]
    · simp [hfield]
  next year month day hparts =>
    simp only [hparts, List.mem_cons, List.not_mem_nil, or_false] at hpart
    rcases hpart with rfl | rfl | rfl
    · simp [hfield]
    · simp [hfield]
    · simp [hfield]
  next => rfl

/-- A value with a colon is read as a clock reading or not at all. -/
theorem read_of_colon (hcolon : ':' ∈ raw.toList) (now : Binary64) :
    read raw now = (ofClock? (Unicode.lowercase (Text.trim raw.toList))).elim
      (.error (.invalidNumber (Text.trimmed raw))) .ok := by
  have hmem : ':' ∈ Unicode.lowercase (Text.trim raw.toList) :=
    Unicode.mem_lowercaseAfter (by decide) (by decide) (Text.mem_trim (by decide) hcolon)
  have hword : ∀ word : String, ':' ∉ word.toList →
      Unicode.lowercase (Text.trim raw.toList) ≠ word.toList :=
    fun word hfree heq => hfree (heq ▸ hmem)
  unfold read
  simp only [if_neg (hword "now" (by decide)), if_neg (hword "today" (by decide)),
    ofDate?_of_colon hmem, List.contains_iff_mem.mpr hmem, if_true]
  cases ofClock? (Unicode.lowercase (Text.trim raw.toList)) <;> rfl

theorem isOk_read_iff (hcolon : ':' ∈ raw.toList) (now : Binary64) :
    (∃ quantity, read raw now = .ok quantity) ↔
      IsClockOf IsClockField (Text.trim raw.toList) := by
  rw [read_of_colon hcolon now, ← isClockOf_lowercase_iff, ← isSome_ofClock?_iff]
  cases ofClock? (Unicode.lowercase (Text.trim raw.toList)) <;> simp

/-! ## Words -/

/-- Whether a text is one of the words among the numbers. -/
def IsNumberWord (text : List Char) : Prop :=
  ∃ word ∈ ["inf", "infinity", "nan"], Binary64.IsWord word text

/-- The words among the numbers in small letters, maybe with a sign. -/
def signedWords : List (List Char) :=
  ["", "+", "-"].flatMap fun sign =>
    ["inf", "infinity", "nan"].map fun word => sign.toList ++ word.toList

theorem IsNumberWord.isUnsigned (text : List Char) (hword : IsNumberWord text) :
    Binary64.IsUnsigned text := by
  obtain ⟨word, hmem, hword⟩ := hword
  simp only [List.mem_cons, List.not_mem_nil, or_false] at hmem
  rcases hmem with rfl | rfl | rfl
  · exact .infinity (Or.inl hword)
  · exact .infinity (Or.inr hword)
  · exact .nan hword

theorem map_toLower_mem_signedWords (hword : Decimal.IsSigned IsNumberWord text) :
    text.map Char.toLower ∈ signedWords := by
  have hletters : ∀ text, IsNumberWord text →
      ∃ word ∈ ["inf", "infinity", "nan"], text.map Char.toLower = word.toList := by
    rintro text ⟨word, hmem, rfl⟩
    exact ⟨_, hmem, String.toList_ofList.symm⟩
  have hsigns : ∀ sign ∈ ["", "+", "-"], ∀ word ∈ ["inf", "infinity", "nan"],
      sign.toList ++ word.toList ∈ signedWords :=
    fun sign hsign word hword => List.mem_flatMap_of_mem hsign (List.mem_map_of_mem hword)
  rcases hword with htext | htext | htext
  · obtain ⟨word, hmem, hlower⟩ := hletters _ htext
    rw [hlower]
    exact hsigns "" (by simp) word hmem
  · obtain ⟨word, hmem, hlower⟩ := hletters _ htext
    rw [List.map_cons, hlower]
    exact hsigns "+" (by simp) word hmem
  · obtain ⟨word, hmem, hlower⟩ := hletters _ htext
    rw [List.map_cons, hlower]
    exact hsigns "-" (by simp) word hmem

theorem lowercase_mem_signedWords (hword : Decimal.IsSigned IsNumberWord text) :
    Unicode.lowercase text ∈ signedWords := by
  have hnumber : Binary64.IsNumber text := hword.imp IsNumberWord.isUnsigned
  have hmarks := hnumber.toLower_mem_marks
  have hplain := plain_of_isClockCharacter fun c hc => Or.inr (Or.inr (hmarks c hc))
  have hlower : text.map Unicode.toLowercase = text.map Char.toLower :=
    List.map_congr_left fun c hc => Unicode.toLowercase_of_mark (hmarks c hc)
  rw [Unicode.lowercase, Unicode.lowercaseAfter_eq_map [] hplain, hlower]
  exact map_toLower_mem_signedWords hword

/-- A word alone is refused: a bare number ends at its first letter, and nothing but a sign stands
before it. -/
theorem read_of_isNumberWord (hword : Decimal.IsSigned IsNumberWord (Text.trim raw.toList))
    (now : Binary64) : read raw now = .error (.invalidNumber (Text.trimmed raw)) := by
  have hrefused : ∀ text ∈ signedWords,
      text ≠ "now".toList ∧ text ≠ "today".toList ∧ ofDate? text = none ∧
        text.contains ':' = false ∧
        Binary64.read?
          (Text.trim (text.takeWhile fun c => !Unicode.Property.isAlphabetic c)) = none := by
    decide +kernel
  obtain ⟨hnow, htoday, hdate, hcolon, hnumber⟩ :=
    hrefused _ (lowercase_mem_signedWords hword)
  unfold read
  simp only [hnow, htoday, hdate, hcolon, hnumber, if_false]
  simp

/-- A value with a colon is accepted if it has two or three fields between colons that are each a
number and not below zero. With no letter and no sign in it those are the values whose fields are
numerals. The words among the numbers, which may be fields, are no values by themselves. -/
theorem read_clock_iff (hcolon : ':' ∈ raw.toList) (now : Binary64) :
    ((∃ quantity, read raw now = .ok quantity) ↔
        IsClockOf IsClockField (Text.trim raw.toList)) ∧
      ((∃ quantity, read raw now = .ok quantity) ∧ (∀ c ∈ raw.toList, isLetterOrSign c = false) ↔
        IsClockOf Decimal.IsNumeral (Text.trim raw.toList)) ∧
      ∀ bare : String, Decimal.IsSigned IsNumberWord (Text.trim bare.toList) →
        read bare now = .error (.invalidNumber (Text.trimmed bare)) := by
  refine ⟨isOk_read_iff hcolon now, ?_, fun bare hword => read_of_isNumberWord hword now⟩
  rw [isOk_read_iff hcolon now, isClockOf_isNumeral_iff,
    Text.forall_mem_trim_iff fun c => isLetterOrSign_of_isBlank]

theorem read_clock_iff_minutes :
    ':' ∈ "3:20".toList ∧ ∃ quantity, read "3:20" 0 = .ok quantity := by
  have hnumerals : IsClockOf Decimal.IsNumeral (Text.trim "3:20".toList) := by
    refine ⟨by decide +kernel, fun field hmem => ?_⟩
    have hfields : Text.trim field = "3".toList ∨ Text.trim field = "20".toList := by
      revert field
      decide +kernel
    rcases hfields with heq | heq
    · rw [heq]
      exact Decimal.isNumeral_iff.mpr (Or.inl (Decimal.isSome_readNat?_iff.mp (by decide)))
    · rw [heq]
      exact Decimal.isNumeral_iff.mpr (Or.inl (Decimal.isSome_readNat?_iff.mp (by decide)))
  have hcolon : ':' ∈ "3:20".toList := by decide
  exact ⟨hcolon, ((read_clock_iff hcolon 0).2.1.mpr hnumerals).1⟩

/-- A word is accepted as a field. -/
theorem read_nan_field : ':' ∈ "nan:1".toList ∧ (∃ quantity, read "nan:1" 0 = .ok quantity) ∧
    ¬IsClockOf Decimal.IsNumeral (Text.trim "nan:1".toList) := by
  refine ⟨by decide, ⟨.duration .nan, by decide +kernel⟩, fun hnumerals => ?_⟩
  have hfield := hnumerals.fields "nan".toList (by decide +kernel)
  have hletter := hfield.characters 'n' (by decide +kernel)
  exact absurd hletter (by decide)

end Songbook.Quantity
