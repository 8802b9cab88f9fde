import Mathlib.Algebra.Order.Field.Basic
import Mathlib.Algebra.Order.Ring.Rat
import Songbook.Proofs.Number.Whole

/-!
# Which texts are numbers

The texts that are read as a number, in full: an unsigned numeral, which may carry an exponent, or a
word, and either one with a sign in front. Capitals do not matter. A number is below zero if it has
the sign `-` and does not round to a zero.
-/

namespace Songbook

namespace Decimal

variable {text : List Char}

/-! ## Signs -/

/-- A text without the sign it may have in front. -/
def dropSign : List Char → List Char
  | '+' :: rest => rest
  | '-' :: rest => rest
  | text => text

/-- A text with a property, or a sign with such a text behind it. -/
inductive IsSigned (p : List Char → Prop) : List Char → Prop
  | bare {text : List Char} (htext : p text) : IsSigned p text
  | plus {text : List Char} (htext : p text) : IsSigned p ('+' :: text)
  | minus {text : List Char} (htext : p text) : IsSigned p ('-' :: text)

theorem dropSign_of_head (hplus : text.head? ≠ some '+') (hminus : text.head? ≠ some '-') :
    dropSign text = text := by
  unfold dropSign
  split
  next => exact absurd rfl hplus
  next => exact absurd rfl hminus
  next => rfl

theorem isSigned_iff {p : List Char → Prop}
    (hunsigned : ∀ text, p text → text.head? ≠ some '+' ∧ text.head? ≠ some '-') :
    IsSigned p text ↔ p (dropSign text) := by
  constructor
  · rintro (htext | htext | htext)
    · rwa [dropSign_of_head (hunsigned _ htext).1 (hunsigned _ htext).2]
    · exact htext
    · exact htext
  · unfold dropSign
    split
    next => exact .plus
    next => exact .minus
    next => exact .bare

theorem IsSigned.imp {p q : List Char → Prop} (hsigned : IsSigned p text)
    (himp : ∀ text, p text → q text) : IsSigned q text := by
  rcases hsigned with htext | htext | htext
  · exact .bare (himp _ htext)
  · exact .plus (himp _ htext)
  · exact .minus (himp _ htext)

theorem IsSigned.forall_mem {p : List Char → Prop} {q : Char → Prop} (hsigned : IsSigned p text)
    (hplus : q '+') (hminus : q '-') (hunsigned : ∀ text, p text → ∀ c ∈ text, q c) :
    ∀ c ∈ text, q c := by
  rcases hsigned with htext | htext | htext
  · exact hunsigned _ htext
  · exact List.forall_mem_cons.mpr ⟨hplus, hunsigned _ htext⟩
  · exact List.forall_mem_cons.mpr ⟨hminus, hunsigned _ htext⟩

/-! ## Numerals -/

/-- One or more ASCII digits. -/
def IsDigits (text : List Char) : Prop :=
  text ≠ [] ∧ ∀ c ∈ text, c.isDigit = true

/-- ASCII digits, at least one of them, with at most one point. -/
structure IsNumeral (text : List Char) : Prop where
  characters : ∀ c ∈ text, c.isDigit = true ∨ c = '.'
  atMostOnePoint : text.count '.' ≤ 1
  digit : ∃ c ∈ text, c.isDigit = true

/-- A power of ten behind a numeral: the letter `e` and digits, maybe with a sign, or nothing. -/
inductive IsExponent : List Char → Prop
  | absent : IsExponent []
  | power {mark : Char} {rest : List Char} (hmark : mark = 'e' ∨ mark = 'E')
      (hdigits : IsSigned IsDigits rest) : IsExponent (mark :: rest)

/-- A numeral, maybe with an exponent. -/
inductive IsScientific : List Char → Prop
  | intro {numeral exponent : List Char} (hnumeral : IsNumeral numeral)
      (hexponent : IsExponent exponent) : IsScientific (numeral ++ exponent)

theorem IsDigits.unsigned (text : List Char) (hdigits : IsDigits text) :
    text.head? ≠ some '+' ∧ text.head? ≠ some '-' := by
  refine ⟨fun hhead => ?_, fun hhead => ?_⟩ <;>
    exact absurd (hdigits.2 _ (List.mem_of_mem_head? hhead)) (by decide)

theorem IsScientific.unsigned (hnumeral : IsScientific text) :
    text.head? ≠ some '+' ∧ text.head? ≠ some '-' := by
  obtain @⟨numeral, exponent, ⟨hcharacters, _, d, hd, _⟩, _⟩ := hnumeral
  obtain ⟨c, rest, rfl⟩ := List.exists_cons_of_ne_nil (List.ne_nil_of_mem hd)
  have hc := hcharacters c List.mem_cons_self
  refine ⟨fun hhead => ?_, fun hhead => ?_⟩ <;>
    · cases hhead
      exact absurd hc (by decide)

theorem isSome_readNat?_iff : (readNat? text).isSome = true ↔ IsDigits text := by
  rw [readNat?, IsDigits, ← List.all_eq_true]
  split
  next hdigits => exact iff_of_true rfl hdigits
  next hdigits => exact iff_of_false Bool.false_ne_true hdigits

theorem readExponent?_cons (mark : Char) (rest : List Char) : readExponent? (mark :: rest) =
    if mark = 'e' ∨ mark = 'E' then
      (readNat? (dropSign rest)).map fun (n : Nat) =>
        if rest.head? = some '-' then -(n : Int) else n
    else none := by
  unfold readExponent?
  dsimp only
  split
  next hmark =>
    split
    next digits => rfl
    next digits =>
      change _ = (readNat? digits).map fun (n : Nat) => -(n : Int)
      cases readNat? digits <;> rfl
    next hplus hminus =>
      have hhead : rest.head? ≠ some '-' := by
        intro heq
        obtain ⟨digits, rfl⟩ := List.head?_eq_some_iff.mp heq
        exact hminus digits rfl
      rw [dropSign.eq_3 rest hplus hminus]
      simp only [hhead, if_false]
      rfl
  next => rfl

theorem isSome_readExponent?_iff : (readExponent? text).isSome = true ↔ IsExponent text := by
  cases text with
  | nil => exact iff_of_true rfl .absent
  | cons mark rest =>
      rw [readExponent?_cons]
      constructor
      · intro hread
        split at hread
        next hmark =>
          rw [Option.isSome_map, isSome_readNat?_iff, ← isSigned_iff IsDigits.unsigned] at hread
          exact .power hmark hread
        next => cases hread
      · rintro (_ | ⟨hmark, hdigits⟩)
        rw [if_pos hmark, Option.isSome_map, isSome_readNat?_iff]
        exact (isSigned_iff IsDigits.unsigned).mp hdigits

/-- The text behind the digits of a numeral does not go on with a digit or a point. -/
theorem IsExponent.stops (hexponent : IsExponent text) :
    ∀ c ∈ text.head?, c.isDigit = false ∧ c ≠ '.' := by
  cases hexponent with
  | absent => intro c hc; cases hc
  | power hmark _ =>
      rintro c hc
      cases hc
      rcases hmark with rfl | rfl <;> decide

/-- A numeral is digits, or digits on at least one side of a point. -/
theorem isNumeral_iff : IsNumeral text ↔
    IsDigits text ∨ ∃ whole fraction, text = whole ++ '.' :: fraction ∧
      IsDigits (whole ++ fraction) := by
  constructor
  · rintro ⟨hcharacters, hpoints, c, hc, hdigit⟩
    by_cases hpoint : '.' ∈ text
    · obtain ⟨whole, fraction, rfl⟩ := List.append_of_mem hpoint
      rw [List.count_append, List.count_cons_self] at hpoints
      have hwhole : '.' ∉ whole := List.count_eq_zero.mp (by omega)
      have hfraction : '.' ∉ fraction := List.count_eq_zero.mp (by omega)
      refine Or.inr ⟨whole, fraction, rfl, ?_, ?_⟩
      · rintro hnil
        obtain ⟨rfl, rfl⟩ := List.append_eq_nil_iff.mp hnil
        rw [List.nil_append, List.mem_singleton] at hc
        rw [hc] at hdigit
        exact absurd hdigit (by decide)
      · intro d hd
        have hmem : d ∈ whole ++ '.' :: fraction := by
          rw [List.mem_append] at hd ⊢
          exact hd.imp_right (List.mem_cons_of_mem _)
        refine (hcharacters d hmem).resolve_right ?_
        rintro rfl
        exact (List.mem_append.mp hd).elim hwhole hfraction
    · refine Or.inl ⟨List.ne_nil_of_mem hc, fun d hd => (hcharacters d hd).resolve_right ?_⟩
      rintro rfl
      exact hpoint hd
  · have hfree : ∀ {digits : List Char}, (∀ c ∈ digits, c.isDigit = true) → digits.count '.' = 0 :=
      fun hdigits => List.count_eq_zero.mpr fun hmem => absurd (hdigits '.' hmem) (by decide)
    rintro (⟨hnonempty, hdigits⟩ | ⟨whole, fraction, rfl, hnonempty, hdigits⟩)
    · obtain ⟨c, hc⟩ := List.exists_mem_of_ne_nil text hnonempty
      exact ⟨fun d hd => Or.inl (hdigits d hd), by rw [hfree hdigits]; omega, c, hc, hdigits c hc⟩
    · obtain ⟨c, hc⟩ := List.exists_mem_of_ne_nil _ hnonempty
      have hcount := hfree hdigits
      rw [List.count_append] at hcount
      refine ⟨fun d hd => ?_, ?_, c, ?_, hdigits c hc⟩
      · rw [List.mem_append, List.mem_cons] at hd
        rcases hd with hd | rfl | hd
        · exact Or.inl (hdigits d (List.mem_append_left _ hd))
        · exact Or.inr rfl
        · exact Or.inl (hdigits d (List.mem_append_right _ hd))
      · rw [List.count_append, List.count_cons_self]
        omega
      · rw [List.mem_append] at hc ⊢
        exact hc.imp_right (List.mem_cons_of_mem _)

/-! ## Reading an unsigned numeral -/

theorem takeWhile_isDigit {digits rest : List Char} (hdigits : ∀ c ∈ digits, c.isDigit = true)
    (hrest : ∀ c ∈ rest.head?, c.isDigit = false) :
    (digits ++ rest).takeWhile Char.isDigit = digits ∧
      (digits ++ rest).dropWhile Char.isDigit = rest := by
  rw [List.takeWhile_append_of_pos hdigits, List.dropWhile_append_of_pos hdigits]
  cases rest with
  | nil => simp
  | cons c rest => simp [hrest c rfl]

/-- Every text is digits with something behind them that is no digit. -/
theorem exists_digits (text : List Char) : ∃ digits rest, text = digits ++ rest ∧
    (∀ c ∈ digits, c.isDigit = true) ∧ ∀ c ∈ rest.head?, c.isDigit = false := by
  refine ⟨text.takeWhile Char.isDigit, text.dropWhile Char.isDigit,
    List.takeWhile_append_dropWhile.symm, fun c => List.mem_takeWhile_imp, fun c hc => ?_⟩
  have hhead := List.head?_dropWhile_not Char.isDigit text
  rwa [Option.mem_def.mp hc] at hhead

/-- The number that digits with a fraction and an exponent denote, if there are any digits. -/
def ofParts? (whole fraction exponent : List Char) : Option Decimal :=
  if whole ++ fraction = [] then none
  else
    (readExponent? exponent).map fun e =>
      { digits := natOfDigits (whole ++ fraction), scale := e - (fraction.length : Int) }

theorem isSome_ofParts?_iff {whole fraction exponent : List Char} :
    (ofParts? whole fraction exponent).isSome = true ↔
      whole ++ fraction ≠ [] ∧ IsExponent exponent := by
  rw [← isSome_readExponent?_iff, ofParts?]
  split
  next hnil => exact iff_of_false Bool.false_ne_true fun h => h.1 hnil
  next hne => rw [Option.isSome_map, and_iff_right hne]

section Reading

variable {whole fraction rest : List Char} (hwhole : ∀ c ∈ whole, c.isDigit = true)

include hwhole

theorem read?_bare (hrest : ∀ c ∈ rest.head?, c.isDigit = false ∧ c ≠ '.') :
    read? (whole ++ rest) = ofParts? whole [] rest := by
  obtain ⟨htake, hdrop⟩ := takeWhile_isDigit hwhole fun c hc => (hrest c hc).1
  unfold read? ofParts?
  simp only [htake, hdrop]
  split
  next after => exact absurd rfl (hrest '.' rfl).2
  next => simp

theorem read?_pointed (hfraction : ∀ c ∈ fraction, c.isDigit = true)
    (hrest : ∀ c ∈ rest.head?, c.isDigit = false) :
    read? (whole ++ '.' :: (fraction ++ rest)) = ofParts? whole fraction rest := by
  have hpoint : ∀ c ∈ ('.' :: (fraction ++ rest)).head?, c.isDigit = false := by
    rintro _ ⟨⟩
    decide
  obtain ⟨htake, hdrop⟩ := takeWhile_isDigit hwhole hpoint
  obtain ⟨htakeAfter, hdropAfter⟩ := takeWhile_isDigit hfraction hrest
  simp [read?, ofParts?, htake, hdrop, htakeAfter, hdropAfter]

end Reading

/-- Every text is read as digits, with or without a point among them, and something behind them. -/
theorem read?_cases (text : List Char) : ∃ whole fraction rest,
    (∀ c ∈ whole ++ fraction, c.isDigit = true) ∧ (∀ c ∈ rest.head?, c.isDigit = false) ∧
      ((text = whole ++ '.' :: (fraction ++ rest)) ∨
        fraction = [] ∧ text = whole ++ rest ∧ rest.head? ≠ some '.') := by
  obtain ⟨whole, rest, rfl, hwhole, hrest⟩ := exists_digits text
  by_cases hpoint : rest.head? = some '.'
  · obtain ⟨after, rfl⟩ := List.head?_eq_some_iff.mp hpoint
    obtain ⟨fraction, exponent, rfl, hfraction, hafter⟩ := exists_digits after
    exact ⟨whole, fraction, exponent, List.forall_mem_append.mpr ⟨hwhole, hfraction⟩, hafter,
      Or.inl rfl⟩
  · exact ⟨whole, [], rest, by simpa using hwhole, hrest, Or.inr ⟨rfl, rfl, hpoint⟩⟩

/-- A text is read as an unsigned number if it is a numeral, maybe with an exponent. -/
theorem isSome_read?_iff : (read? text).isSome = true ↔ IsScientific text := by
  constructor
  · intro hread
    obtain ⟨whole, fraction, rest, hdigits, hrest, rfl | ⟨rfl, rfl, hpoint⟩⟩ := read?_cases text
    · obtain ⟨hwhole, hfraction⟩ := List.forall_mem_append.mp hdigits
      rw [read?_pointed hwhole hfraction hrest, isSome_ofParts?_iff] at hread
      rw [← List.cons_append, ← List.append_assoc]
      exact ⟨isNumeral_iff.mpr (Or.inr ⟨whole, fraction, rfl, hread.1, hdigits⟩), hread.2⟩
    · rw [List.append_nil] at hdigits
      rw [read?_bare hdigits fun c hc => ⟨hrest c hc, fun heq => hpoint (heq ▸ hc)⟩,
        isSome_ofParts?_iff, List.append_nil] at hread
      exact ⟨isNumeral_iff.mpr (Or.inl ⟨hread.1, hdigits⟩), hread.2⟩
  · rintro ⟨hnumeral, hexponent⟩
    rcases isNumeral_iff.mp hnumeral with
      ⟨hnonempty, hdigits⟩ | ⟨whole, fraction, rfl, hnonempty, hdigits⟩
    · rw [read?_bare hdigits hexponent.stops, isSome_ofParts?_iff, List.append_nil]
      exact ⟨hnonempty, hexponent⟩
    · obtain ⟨hwhole, hfraction⟩ := List.forall_mem_append.mp hdigits
      rw [List.append_assoc, List.cons_append,
        read?_pointed hwhole hfraction fun c hc => (hexponent.stops c hc).1, isSome_ofParts?_iff]
      exact ⟨hnonempty, hexponent⟩

/-! ## Changing characters -/

/-- The characters that numbers are written with, letters as small ones. -/
def marks : List Char :=
  ['0', '1', '2', '3', '4', '5', '6', '7', '8', '9', '+', '-', '.',
    'a', 'e', 'f', 'i', 'n', 't', 'y']

/-- Changing characters so that those of numbers stay what they are, up to capitals, and no others
become one of them. -/
def KeepsMarks (change : Char → Char) : Prop :=
  ∀ c, ∀ mark ∈ marks, (change c).toLower = mark ↔ c.toLower = mark

/-- Only capitals have another character as their small letter. -/
theorem toLower_cases (c : Char) : (∃ n < 26, c = Char.ofNat (65 + n)) ∨ c.toLower = c := by
  by_cases hupper : 65 ≤ c.toNat ∧ c.toNat ≤ 90
  · refine Or.inl ⟨c.toNat - 65, by omega, ?_⟩
    rw [Nat.add_sub_cancel' hupper.1, Char.ofNat_toNat]
  · exact Or.inr (dif_neg hupper)

theorem toLower_eq_iff {c mark : Char} (hmark : mark.toNat < 65) : c.toLower = mark ↔ c = mark := by
  rcases toLower_cases c with ⟨n, hn, rfl⟩ | hkept
  · have hletters : ∀ n < 26, 65 ≤ (Char.ofNat (65 + n)).toNat ∧
        65 ≤ (Char.ofNat (65 + n)).toLower.toNat := by decide
    have hletter := hletters n hn
    refine iff_of_false ?_ ?_ <;>
      · rintro rfl
        omega
  · rw [hkept]

theorem toLower_eq_e_iff {c : Char} : c.toLower = 'e' ↔ c = 'e' ∨ c = 'E' := by
  rcases toLower_cases c with ⟨n, hn, rfl⟩ | hkept
  · have hletters : ∀ n < 26, (Char.ofNat (65 + n)).toLower = 'e' ↔
        Char.ofNat (65 + n) = 'e' ∨ Char.ofNat (65 + n) = 'E' := by decide
    exact hletters n hn
  · rw [hkept, or_iff_left]
    rintro rfl
    exact absurd hkept (by decide)

theorem toLower_mem_marks_of_isDigit {c : Char} (hdigit : c.isDigit = true) :
    c.toLower ∈ marks := by
  have hall : ("0123456789".toList.all fun d => marks.contains d.toLower) = true := by decide
  exact List.contains_iff_mem.mp (holds_of_isDigit hall hdigit)

/-- The characters that a numeral is written with. -/
theorem IsScientific.toLower_mem_marks (hnumeral : IsScientific text) :
    ∀ c ∈ text, c.toLower ∈ marks := by
  obtain ⟨hnumeral, hexponent⟩ := hnumeral
  intro c hc
  rcases List.mem_append.mp hc with hc | hc
  · rcases hnumeral.characters c hc with hdigit | rfl
    · exact toLower_mem_marks_of_isDigit hdigit
    · decide
  · cases hexponent with
    | absent => cases hc
    | power hmark hdigits =>
        rcases List.mem_cons.mp hc with rfl | hc
        · rcases hmark with rfl | rfl <;> decide
        · exact hdigits.forall_mem (by decide) (by decide)
            (fun _ hdigits c hc => toLower_mem_marks_of_isDigit (hdigits.2 c hc)) c hc

namespace KeepsMarks

variable {change : Char → Char} (hchange : KeepsMarks change)

include hchange

theorem eq_iff {c mark : Char} (hmem : mark ∈ marks) (hmark : mark.toNat < 65) :
    change c = mark ↔ c = mark := by
  rw [← toLower_eq_iff hmark, hchange c mark hmem, toLower_eq_iff hmark]

theorem eq_iff_of_isDigit {c digit : Char} (hdigit : digit.isDigit = true) :
    change c = digit ↔ c = digit := by
  have hall : ("0123456789".toList.all fun d => marks.contains d && d.toNat < 65) = true := by
    decide
  have hmark := holds_of_isDigit hall hdigit
  rw [Bool.and_eq_true, List.contains_iff_mem, decide_eq_true_eq] at hmark
  exact hchange.eq_iff hmark.1 hmark.2

theorem isDigit_eq (c : Char) : (change c).isDigit = c.isDigit := by
  rw [Bool.eq_iff_iff]
  constructor
  · intro hdigit
    rwa [← (hchange.eq_iff_of_isDigit hdigit).mp rfl] at hdigit
  · intro hdigit
    rwa [(hchange.eq_iff_of_isDigit hdigit).mpr rfl]

theorem map_digits {digits : List Char} (hdigits : ∀ c ∈ digits, c.isDigit = true) :
    digits.map change = digits := by
  refine (List.map_congr_left fun c hc => ?_).trans (List.map_id digits)
  exact (hchange.eq_iff_of_isDigit (hdigits c hc)).mpr rfl

theorem head?_eq_iff (mark : Char) (hmem : mark ∈ marks) (hmark : mark.toNat < 65)
    (text : List Char) : (text.map change).head? = some mark ↔ text.head? = some mark := by
  cases text with
  | nil => exact Iff.rfl
  | cons c rest => simpa using hchange.eq_iff hmem hmark

theorem readNat?_map (text : List Char) : readNat? (text.map change) = readNat? text := by
  by_cases hdigits : IsDigits text
  · rw [hchange.map_digits hdigits.2]
  · have hchanged : ¬IsDigits (text.map change) := by
      simpa only [IsDigits, ne_eq, List.map_eq_nil_iff, List.forall_mem_map, hchange.isDigit_eq]
        using hdigits
    rw [← isSome_readNat?_iff, Bool.not_eq_true, Option.isSome_eq_false_iff,
      Option.isNone_iff_eq_none] at hdigits hchanged
    rw [hdigits, hchanged]

theorem dropSign_map (text : List Char) :
    dropSign (text.map change) = (dropSign text).map change := by
  have hplus := hchange.head?_eq_iff '+' (by decide) (by decide) text
  have hminus := hchange.head?_eq_iff '-' (by decide) (by decide) text
  by_cases hsign : text.head? = some '+' ∨ text.head? = some '-'
  · rcases hsign with hhead | hhead
    · obtain ⟨rest, rfl⟩ := List.head?_eq_some_iff.mp hhead
      rw [List.map_cons, (hchange.eq_iff (by decide) (by decide)).mpr rfl]
      rfl
    · obtain ⟨rest, rfl⟩ := List.head?_eq_some_iff.mp hhead
      rw [List.map_cons, (hchange.eq_iff (by decide) (by decide)).mpr rfl]
      rfl
  · obtain ⟨hnoPlus, hnoMinus⟩ := not_or.mp hsign
    rw [dropSign_of_head hnoPlus hnoMinus,
      dropSign_of_head (hplus.not.mpr hnoPlus) (hminus.not.mpr hnoMinus)]

theorem readExponent?_map (text : List Char) :
    readExponent? (text.map change) = readExponent? text := by
  cases text with
  | nil => rfl
  | cons mark rest =>
      have hmark : (change mark = 'e' ∨ change mark = 'E') = (mark = 'e' ∨ mark = 'E') := by
        rw [eq_iff_iff, ← toLower_eq_e_iff, ← toLower_eq_e_iff, hchange mark 'e' (by decide)]
      simp only [List.map_cons, readExponent?_cons, hmark, hchange.dropSign_map,
        hchange.readNat?_map, hchange.head?_eq_iff '-' (by decide) (by decide)]

/-- A numeral is read alike before and after the change. -/
theorem read?_map (text : List Char) : read? (text.map change) = read? text := by
  obtain ⟨whole, fraction, rest, hdigits, hrest, htext⟩ := read?_cases text
  obtain ⟨hwhole, hfraction⟩ := List.forall_mem_append.mp hdigits
  have hparts : ofParts? whole fraction (rest.map change) = ofParts? whole fraction rest := by
    rw [ofParts?, ofParts?, hchange.readExponent?_map]
  have hstops : ∀ c ∈ (rest.map change).head?, c.isDigit = false := by
    rw [List.head?_map]
    intro c hc
    obtain ⟨original, horiginal, rfl⟩ := Option.map_eq_some_iff.mp hc
    rw [hchange.isDigit_eq]
    exact hrest original horiginal
  have hpointEq : change '.' = '.' := (hchange.eq_iff (by decide) (by decide)).mpr rfl
  rcases htext with rfl | ⟨rfl, rfl, hpoint⟩
  · rw [List.map_append, List.map_cons, List.map_append, hchange.map_digits hwhole,
      hchange.map_digits hfraction, hpointEq, read?_pointed hwhole hfraction hrest, ← hparts]
    exact read?_pointed hwhole hfraction hstops
  · rw [List.map_append, hchange.map_digits hwhole,
      read?_bare hwhole fun c hc => ⟨hrest c hc, fun heq => hpoint (heq ▸ hc)⟩, ← hparts]
    refine read?_bare hwhole fun c hc => ⟨hstops c hc, ?_⟩
    rintro rfl
    exact hpoint ((hchange.head?_eq_iff '.' (by decide) (by decide) rest).mp hc)

end KeepsMarks

end Decimal

namespace Binary64

variable {text : List Char}

/-! ## Reading a number -/

/-- A text in capital or small letters. -/
def IsWord (word : String) (text : List Char) : Prop :=
  String.ofList (text.map Char.toLower) = word

instance (word : String) (text : List Char) : Decidable (IsWord word text) :=
  inferInstanceAs (Decidable (String.ofList (text.map Char.toLower) = word))

/-- A number without a sign. -/
inductive IsUnsigned : List Char → Prop
  | numeral {text : List Char} (hnumeral : Decimal.IsScientific text) : IsUnsigned text
  | infinity {text : List Char} (hword : IsWord "inf" text ∨ IsWord "infinity" text) :
      IsUnsigned text
  | nan {text : List Char} (hword : IsWord "nan" text) : IsUnsigned text

/-- A number, maybe with a sign. -/
abbrev IsNumber (text : List Char) : Prop :=
  Decimal.IsSigned IsUnsigned text

theorem read?_eq (text : List Char) : read? text =
    let unsigned := Decimal.dropSign text
    let negative : Bool := text.head? = some '-'
    if IsWord "inf" unsigned ∨ IsWord "infinity" unsigned then some (infinity negative)
    else if IsWord "nan" unsigned then some nan
    else (Decimal.read? unsigned).map (·.toBinary64 negative) := by
  have hunsigned : (match text with
      | '+' :: rest => rest
      | '-' :: rest => rest
      | _ => text) = Decimal.dropSign text := by
    unfold Decimal.dropSign
    split
    next => rfl
    next => rfl
    next => rfl
  rw [← hunsigned]
  rfl

theorem IsWord.head? {word : String} (hword : IsWord word text) :
    text.head?.map Char.toLower = word.toList.head? := by
  rw [← hword, String.toList_ofList, List.head?_map]

theorem IsUnsigned.unsigned (text : List Char) (hunsigned : IsUnsigned text) :
    text.head? ≠ some '+' ∧ text.head? ≠ some '-' := by
  have hwords : ∀ word, IsWord word text → word.toList.head? ≠ some '+' →
      word.toList.head? ≠ some '-' → text.head? ≠ some '+' ∧ text.head? ≠ some '-' := by
    intro word hword hplus hminus
    have hhead := hword.head?
    refine ⟨fun heq => ?_, fun heq => ?_⟩ <;> rw [heq] at hhead
    · exact hplus hhead.symm
    · exact hminus hhead.symm
  cases hunsigned with
  | numeral hnumeral => exact hnumeral.unsigned
  | infinity hword =>
      rcases hword with hword | hword
      · exact hwords _ hword (by decide) (by decide)
      · exact hwords _ hword (by decide) (by decide)
  | nan hword => exact hwords _ hword (by decide) (by decide)

/-- The numbers in full. -/
theorem isSome_read?_iff : (read? text).isSome = true ↔ IsNumber text := by
  refine Iff.trans ?_ (Decimal.isSigned_iff IsUnsigned.unsigned).symm
  rw [read?_eq]
  dsimp only
  split
  next hword => exact iff_of_true rfl (.infinity hword)
  next hinfinity =>
    split
    next hword => exact iff_of_true rfl (.nan hword)
    next hnan =>
      rw [Option.isSome_map, Decimal.isSome_read?_iff]
      constructor
      · exact .numeral
      · rintro (hnumeral | hword | hword)
        · exact hnumeral
        · exact absurd hword hinfinity
        · exact absurd hword hnan

theorem IsWord.toLower_mem {word : String} (hword : IsWord word text) {c : Char} (hc : c ∈ text) :
    c.toLower ∈ word.toList := by
  rw [← hword, String.toList_ofList]
  exact List.mem_map_of_mem hc

/-- The letters of the words are among those of numbers. -/
theorem mem_marks_of_word : ∀ word ∈ ["inf", "infinity", "nan"], ∀ letter ∈ word.toList,
    letter ∈ Decimal.marks := by
  have hall : ∀ word ∈ ["inf", "infinity", "nan"],
      (word.toList.all fun letter => Decimal.marks.contains letter) = true := by decide
  intro word hword letter hletter
  exact List.contains_iff_mem.mp (List.all_eq_true.mp (hall word hword) letter hletter)

/-- The characters that a number is written with, words among them. -/
theorem IsNumber.toLower_mem_marks (hnumber : IsNumber text) :
    ∀ c ∈ text, c.toLower ∈ Decimal.marks := by
  refine hnumber.forall_mem (by decide) (by decide) ?_
  rintro text (hnumeral | (hword | hword) | hword) c hc
  · exact hnumeral.toLower_mem_marks c hc
  · exact mem_marks_of_word _ (by simp) _ (hword.toLower_mem hc)
  · exact mem_marks_of_word _ (by simp) _ (hword.toLower_mem hc)
  · exact mem_marks_of_word _ (by simp) _ (hword.toLower_mem hc)

theorem map_toLower_change_iff {change : Char → Char} (hchange : Decimal.KeepsMarks change)
    {letters : List Char} (hletters : ∀ letter ∈ letters, letter ∈ Decimal.marks) :
    (text.map change).map Char.toLower = letters ↔ text.map Char.toLower = letters := by
  induction text generalizing letters with
  | nil => exact Iff.rfl
  | cons c rest ih =>
      cases letters with
      | nil => simp
      | cons letter letters =>
          obtain ⟨hletter, hmore⟩ := List.forall_mem_cons.mp hletters
          rw [List.map_cons, List.map_cons, List.map_cons, List.cons.injEq, List.cons.injEq,
            hchange c letter hletter, ih hmore]

/-- A text is the same number before and after a change that keeps the characters of numbers. -/
theorem read?_map {change : Char → Char} (hchange : Decimal.KeepsMarks change) (text : List Char) :
    read? (text.map change) = read? text := by
  have hword : ∀ word ∈ ["inf", "infinity", "nan"], ∀ text,
      IsWord word (text.map change) = IsWord word text := by
    intro word hmem text
    rw [IsWord, IsWord, ← String.toList_inj, ← String.toList_inj, String.toList_ofList,
      String.toList_ofList, eq_iff_iff]
    exact map_toLower_change_iff hchange (mem_marks_of_word word hmem)
  simp only [read?_eq, hchange.dropSign_map, hword "inf" (by simp),
    hword "infinity" (by simp), hword "nan" (by simp), hchange.read?_map,
    hchange.head?_eq_iff '-' (by decide) (by decide) text]

/-! ## Numbers below zero -/

theorem isNegative_zero (negative : Bool) : (zero negative).isNegative = negative := by
  cases negative <;> decide

theorem isNegative_signed {negative : Bool} {value : Rat}
    (hvalue : value ≠ 0 → decide (value < 0) = negative) :
    (signed negative value).isNegative = negative := by
  unfold signed
  split
  · exact isNegative_zero negative
  next hne => exact hvalue hne

theorem roundHalfEven_nonneg {value : Rat} (hvalue : 0 ≤ value) : 0 ≤ roundHalfEven value := by
  have hfloor : 0 ≤ value.floor := Rat.le_floor_iff.mpr hvalue
  unfold roundHalfEven
  dsimp only
  split
  · exact hfloor
  · split
    · omega
    · split <;> omega

/-- Rounding keeps the sign, also where it gives a zero. -/
theorem isNegative_ofRat {negative : Bool} {value : Rat} (hvalue : value ≠ 0) :
    (ofRat negative value).isNegative = decide (value < 0) := by
  have hspacing : 0 < spacing value.abs := Rat.zpow_pos (by decide +kernel)
  have hrounded : 0 ≤ (roundHalfEven (value.abs / spacing value.abs) : Rat) * spacing value.abs :=
    Rat.mul_nonneg (Rat.intCast_nonneg.mpr (roundHalfEven_nonneg
      (Rat.div_nonneg Rat.abs_nonneg (Rat.le_of_lt hspacing)))) (Rat.le_of_lt hspacing)
  unfold ofRat
  rw [if_neg hvalue]
  dsimp only
  generalize (roundHalfEven (value.abs / spacing value.abs) : Rat) * spacing value.abs = rounded
    at *
  split
  · rfl
  · refine isNegative_signed fun hne => decide_eq_decide.mpr ?_
    by_cases hsign : value < 0
    · rw [if_pos hsign] at hne ⊢
      have hpositive : 0 < rounded :=
        Rat.lt_of_le_of_ne hrounded fun heq => hne (by rw [← heq, Rat.neg_zero])
      simpa [hsign] using hpositive
    · rw [if_neg hsign]
      exact iff_of_false (Rat.not_lt.mpr hrounded) hsign

theorem toRat_pos {d : Decimal} (hdigits : d.digits ≠ 0) : 0 < d.toRat :=
  Rat.mul_pos (Rat.natCast_pos.mpr (Nat.pos_of_ne_zero hdigits)) (Rat.zpow_pos (by decide +kernel))

theorem isNegative_toBinary64 (negative : Bool) (d : Decimal) :
    (d.toBinary64 negative).isNegative = negative := by
  unfold Decimal.toBinary64
  dsimp only
  split
  · exact isNegative_zero negative
  next hdigits =>
    have hpositive := toRat_pos hdigits
    split
    · rfl
    · split
      · exact isNegative_zero negative
      · cases negative with
        | false =>
            rw [if_neg Bool.false_ne_true, isNegative_ofRat (Rat.ne_of_gt hpositive)]
            exact decide_eq_false (Rat.not_lt.mpr (Rat.le_of_lt hpositive))
        | true =>
            have hnegative : -d.toRat < 0 := by simpa using hpositive
            rw [if_pos rfl, isNegative_ofRat (Rat.ne_of_lt hnegative)]
            exact decide_eq_true hnegative

/-- The sign `-` makes a number negative, be it a zero, and nothing else does. -/
theorem isNegative_of_read? {x : Binary64} (hread : read? text = some x) (hnan : x ≠ nan) :
    x.isNegative = decide (text.head? = some '-') := by
  rw [read?_eq] at hread
  dsimp only at hread
  split at hread
  · cases hread
    rfl
  · split at hread
    · cases hread
      exact absurd rfl hnan
    · obtain ⟨d, _, rfl⟩ := Option.map_eq_some_iff.mp hread
      exact isNegative_toBinary64 _ d

/-- With the sign `-` no other text than the word is no number. -/
theorem read?_minus_eq_nan_iff : read? ('-' :: text) = some nan ↔ IsWord "nan" text := by
  rw [read?_eq]
  change (if IsWord "inf" text ∨ IsWord "infinity" text then some (infinity true)
    else if IsWord "nan" text then some nan
    else (Decimal.read? text).map (·.toBinary64 true)) = some nan ↔ IsWord "nan" text
  constructor
  · intro hread
    split at hread
    next => cases hread
    next =>
      split at hread
      next hword => exact hword
      next =>
        obtain ⟨d, _, hd⟩ := Option.map_eq_some_iff.mp hread
        have hsign := isNegative_toBinary64 true d
        rw [hd] at hsign
        cases hsign
  · intro hword
    have hother : ∀ word, "nan" ≠ word → ¬IsWord word text :=
      fun word hne hother => hne (hword.symm.trans hother)
    rw [if_neg (not_or_intro (hother _ (by decide)) (hother _ (by decide))), if_pos hword]

theorem compare?_zero_iff {x : Binary64} :
    x.compare? 0 = some .lt ↔ x.isNegative = true ∧ x ≠ negativeZero := by
  have hzero : (0 : Binary64) = finite 0 := rfl
  rw [hzero]
  cases x with
  | nan => simp [compare?, isNegative]
  | infinity negative => cases negative <;> simp [compare?, isNegative]
  | negativeZero => simp [compare?, isNegative, toRat?]
  | finite value =>
      by_cases hvalue : value < 0
      · simp [compare?, isNegative, toRat?, hvalue]
      · by_cases hzero : value = 0 <;> simp [compare?, isNegative, toRat?, hvalue, hzero]

end Binary64

end Songbook
