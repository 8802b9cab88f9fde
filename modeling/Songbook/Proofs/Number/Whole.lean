import Mathlib.Algebra.Field.Rat
import Mathlib.Data.List.TakeWhile
import Songbook.Number.Clock

/-!
# Whole numbers

Whole numbers below `2 ^ 53` have a place of their own in the format: rounding leaves them as they are,
and so their sums and products are exact as long as they stay below that bound. Their decimal digits
read back as the number.
-/

namespace Songbook

namespace Binary64

/-! ## Rounding -/

theorem natCast_not_neg (n : Nat) : ¬(n : Rat) < 0 :=
  Rat.not_lt.mpr Rat.natCast_nonneg

theorem roundHalfEven_natCast (n : Nat) : roundHalfEven (n : Rat) = n := by
  have hfloor : (n : Rat).floor = (n : Int) := Rat.floor_intCast (n : Int)
  have hpart : (n : Rat) - ((n : Int) : Rat) = 0 := Rat.sub_self
  have hhalf : (0 : Rat) < 1 / 2 := by decide +kernel
  unfold roundHalfEven
  simp only [hfloor, hpart]
  rw [if_pos hhalf]

theorem roundHalfAway_natCast (n : Nat) : roundHalfAway (n : Rat) = n := by
  have hhalf : (1 / 2 : Rat).floor = 0 := by decide +kernel
  unfold roundHalfAway
  rw [if_neg (natCast_not_neg n), Rat.add_comm, ← Rat.intCast_natCast, Rat.floor_add_intCast, hhalf,
    Int.zero_add]

/-- The exponent of a whole number is the place of its highest bit. -/
theorem binaryExponent_natCast {n : Nat} (hn : n ≠ 0) :
    binaryExponent (n : Rat) = (Nat.log2 n : Int) := by
  have hpower : (2 : Rat) ^ ((Nat.log2 n : Int)) ≤ (n : Rat) := by
    rw [Rat.zpow_natCast]
    exact_mod_cast Nat.log2_self_le hn
  have hguess : (Nat.log2 (n : Rat).num.natAbs : Int) - (Nat.log2 (n : Rat).den : Int) =
      (Nat.log2 n : Int) := by
    have hone : Nat.log2 1 = 0 := by decide
    rw [Rat.num_natCast, Rat.den_natCast, Int.natAbs_natCast, hone]
    exact Int.sub_zero _
  unfold binaryExponent
  simp only [hguess]
  rw [if_pos hpower]

/-- A whole number below `2 ^ 53` is a multiple of the distance between its neighbours. -/
theorem spacing_natCast {n : Nat} (hn : n ≠ 0) (hbound : n < 2 ^ 53) :
    ((2 ^ (52 - Nat.log2 n) : Nat) : Rat) * spacing (n : Rat) = 1 := by
  have hlog : Nat.log2 n < 53 := (Nat.log2_lt hn).mpr hbound
  have hexponent : max ((Nat.log2 n : Int) - 52) (-1074) = -((52 - Nat.log2 n : Nat) : Int) := by
    omega
  have hpos : (0 : Rat) < 2 ^ (52 - Nat.log2 n) := Rat.pow_pos (by decide +kernel)
  rw [spacing, binaryExponent_natCast hn, hexponent, Rat.zpow_neg, Rat.zpow_natCast,
    Rat.natCast_pow]
  exact Rat.mul_inv_cancel _ (Rat.ne_of_gt hpos)

theorem inv_spacing_natCast {n : Nat} (hn : n ≠ 0) (hbound : n < 2 ^ 53) :
    (spacing (n : Rat))⁻¹ = ((2 ^ (52 - Nat.log2 n) : Nat) : Rat) := by
  have hspacing := spacing_natCast hn hbound
  have hne : spacing (n : Rat) ≠ 0 := by
    intro hzero
    rw [hzero, Rat.mul_zero] at hspacing
    exact absurd hspacing (by decide)
  calc (spacing (n : Rat))⁻¹
      = ((2 ^ (52 - Nat.log2 n) : Nat) : Rat) * spacing (n : Rat) * (spacing (n : Rat))⁻¹ := by
        rw [hspacing, Rat.one_mul]
    _ = ((2 ^ (52 - Nat.log2 n) : Nat) : Rat) := by
        rw [Rat.mul_assoc, Rat.mul_inv_cancel _ hne, Rat.mul_one]

theorem not_zpow_le {n k more : Nat} (hbound : n < 2 ^ k) (hmore : k ≤ more) :
    ¬(2 : Rat) ^ (more : Int) ≤ n := by
  have hpower : (2 : Rat) ^ (more : Int) = ((2 ^ more : Nat) : Rat) := by
    rw [Rat.natCast_pow]
    exact Rat.zpow_natCast 2 more
  rw [hpower, Rat.natCast_le_natCast]
  exact Nat.not_le_of_lt (Nat.lt_of_lt_of_le hbound (Nat.pow_le_pow_right (by decide) hmore))

/-- Rounding leaves a whole number below `2 ^ 53` as it is. -/
theorem ofRat_natCast {n : Nat} (hbound : n < 2 ^ 53) : ofRat false (n : Rat) = finite n := by
  by_cases hn : n = 0
  · subst hn
    rfl
  · have hne : ¬(n : Rat) = 0 := mt Rat.natCast_eq_zero_iff.mp hn
    have hnonneg : (0 : Rat) ≤ n := Rat.natCast_nonneg
    have hspacing := spacing_natCast hn hbound
    have hquotient : (n : Rat) / spacing (n : Rat) = ((n * 2 ^ (52 - Nat.log2 n) : Nat) : Rat) := by
      rw [Rat.natCast_mul, Rat.div_def, inv_spacing_natCast hn hbound]
    have hrounded : (roundHalfEven ((n : Rat) / spacing (n : Rat)) : Rat) * spacing (n : Rat) =
        n := by
      rw [hquotient, roundHalfEven_natCast, Rat.intCast_natCast, Rat.natCast_mul, Rat.mul_assoc,
        hspacing, Rat.mul_one]
    have hfinite : ¬(2 : Rat) ^ (1024 : Int) ≤ n := not_zpow_le hbound (by decide : 53 ≤ 1024)
    unfold ofRat
    simp only [Rat.abs_of_nonneg hnonneg, hrounded]
    rw [if_neg hne, if_neg hfinite, signed, if_neg (natCast_not_neg n), if_neg hne]

/-- A whole number below `2 ^ 53` is in the format as itself. -/
theorem ofInt_natCast {n : Nat} (hbound : n < 2 ^ 53) : ofInt (n : Int) = finite n :=
  ofRat_natCast hbound

/-! ## Arithmetic -/

theorem natCast_add {m n : Nat} (hbound : m + n < 2 ^ 53) :
    finite m + finite n = finite ((m + n : Nat) : Rat) := by
  rw [← ofRat_natCast hbound, Rat.natCast_add]
  rfl

theorem natCast_mul {m n : Nat} (hbound : m * n < 2 ^ 53) :
    finite m * finite n = finite ((m * n : Nat) : Rat) := by
  have hsign : ∀ k : Nat, isNegative (finite (k : Rat)) = false :=
    fun k => decide_eq_false (natCast_not_neg k)
  rw [← ofRat_natCast hbound, Rat.natCast_mul]
  change ofRat (isNegative (finite m) != isNegative (finite n)) (m * n) = _
  rw [hsign, hsign]
  rfl

theorem round_natCast {n : Nat} (hbound : n < 2 ^ 53) : round (finite n) = finite n := by
  have hsign : decide ((n : Rat) < 0) = false := decide_eq_false (natCast_not_neg n)
  rw [round, roundWith, hsign, roundHalfAway_natCast]
  exact ofRat_natCast hbound

theorem clampToNat_natCast {n limit : Nat} (hlimit : n ≤ limit) :
    clampToNat (finite n) limit = n := by
  have hfloor : (n : Rat).floor = (n : Int) := Rat.floor_intCast (n : Int)
  rw [clampToNat, hfloor, Int.toNat_natCast, Nat.min_eq_left hlimit]

theorem compare?_natCast_zero (n : Nat) : compare? (finite n) 0 ≠ some .lt := by
  change some (if (n : Rat) < 0 then Ordering.lt else if (n : Rat) = 0 then .eq else .gt) ≠ _
  rw [if_neg (natCast_not_neg n)]
  split <;> simp

end Binary64

/-! ## Numerals -/

/-- What holds of the ten digits holds of every digit. -/
theorem Decimal.holds_of_isDigit {p : Char → Bool} (hall : "0123456789".toList.all p = true)
    {c : Char} (hdigit : c.isDigit = true) : p c = true := by
  have hlist : ∀ n < 10, Char.ofNat (48 + n) ∈ "0123456789".toList := by decide
  obtain ⟨hlow, hhigh⟩ := Char.isDigit_iff_toNat.mp hdigit
  change 48 ≤ c.toNat at hlow
  change c.toNat ≤ 57 at hhigh
  have hmem := hlist (c.toNat - 48) (by omega)
  rw [Nat.add_sub_cancel' hlow, Char.ofNat_toNat] at hmem
  exact List.all_eq_true.mp hall c hmem

theorem Decimal.readNat?_toString (n : Nat) : readNat? (toString n).toList = some n := by
  have hdigits : (toString n).toList = Nat.toDigits 10 n := Nat.toList_repr
  have hall : (Nat.toDigits 10 n).all Char.isDigit = true :=
    List.all_eq_true.mpr fun c => Nat.isDigit_of_mem_toDigits (by decide) (by decide)
  have hvalue : natOfDigits (Nat.toDigits 10 n) = n :=
    Nat.ofDigitChars_toDigits (by decide) (by decide)
  rw [hdigits, readNat?, if_pos ⟨Nat.toDigits_ne_nil, hall⟩, hvalue]

theorem Decimal.readNat?_eq_some_iff {text : List Char} {n : Nat} :
    readNat? text = some n ↔
      text ≠ [] ∧ (∀ c ∈ text, c.isDigit = true) ∧ natOfDigits text = n := by
  rw [readNat?, Option.ite_none_right_eq_some, Option.some_inj, List.all_eq_true, and_assoc]

theorem Decimal.read?_of_readNat? {text : List Char} {n : Nat} (hread : readNat? text = some n) :
    read? text = some { digits := n, scale := 0 } := by
  obtain ⟨hnonempty, hdigits, hvalue⟩ := readNat?_eq_some_iff.mp hread
  have hwhole : text.takeWhile Char.isDigit = text := List.takeWhile_eq_self_iff.mpr hdigits
  have hrest : text.dropWhile Char.isDigit = [] := List.dropWhile_eq_nil_iff.mpr hdigits
  simp [read?, hwhole, hrest, hnonempty, hvalue, readExponent?]

/-- A numeral below `2 ^ 53` denotes its number. It is far shorter than what is beyond the format. -/
theorem Decimal.toBinary64_natCast {n : Nat} (hbound : n < 2 ^ 53) :
    toBinary64 false { digits := n, scale := 0 } = .finite n := by
  have hlength : (toString n).length ≤ 16 := by
    have hdigits : (toString n).toList = Nat.toDigits 10 n := Nat.toList_repr
    rw [← String.length_toList, hdigits, Nat.length_toDigits_le_iff (by decide) (by decide)]
    exact Nat.lt_trans hbound (by decide)
  have hvalue : toRat { digits := n, scale := 0 } = n := by
    rw [toRat, Rat.zpow_zero, Rat.mul_one]
  have hshort : ¬400 < ((toString n).length : Int) + 0 := by omega
  have hlong : ¬((toString n).length : Int) + 0 < -400 := by omega
  unfold toBinary64
  simp only
  rw [if_neg hshort, if_neg hlong, hvalue]
  split
  next hzero =>
    rw [hzero]
    rfl
  next => exact Binary64.ofRat_natCast hbound

theorem Binary64.read?_of_readNat? {text : List Char} {n : Nat}
    (hread : Decimal.readNat? text = some n) (hbound : n < 2 ^ 53) :
    read? text = some (finite n) := by
  obtain ⟨hnonempty, hdigits, _⟩ := Decimal.readNat?_eq_some_iff.mp hread
  obtain ⟨c, rest, rfl⟩ := List.exists_cons_of_ne_nil hnonempty
  have hnotDigit : ∀ d : Char, d.isDigit = false → c ≠ d := by
    rintro d hd rfl
    exact absurd (hdigits c List.mem_cons_self) (by rw [hd]; decide)
  have hplus := hnotDigit '+' (by decide)
  have hminus := hnotDigit '-' (by decide)
  have hlower : c.toLower = c := by
    have hall : ("0123456789".toList.all fun digit => digit.toLower = digit) = true := by decide
    exact of_decide_eq_true (Decimal.holds_of_isDigit hall (hdigits c List.mem_cons_self))
  have hword : ∀ word : String, word.toList.head?.any Char.isDigit = false →
      String.ofList ((c :: rest).map Char.toLower) ≠ word := by
    rintro word hstart rfl
    rw [String.toList_ofList, List.map_cons, hlower, List.head?_cons, Option.any_some,
      hdigits c List.mem_cons_self] at hstart
    cases hstart
  have hinfinity : ¬(String.ofList ((c :: rest).map Char.toLower) = "inf" ∨
      String.ofList ((c :: rest).map Char.toLower) = "infinity") := by
    rintro (heq | heq)
    · exact hword "inf" (by decide) heq
    · exact hword "infinity" (by decide) heq
  have hsign : decide ((c :: rest).head? = some '-') = false :=
    decide_eq_false fun heq => hminus (Option.some.inj heq)
  unfold read?
  split
  next heq => exact absurd (List.cons.inj heq).1 hplus
  next heq => exact absurd (List.cons.inj heq).1 hminus
  next =>
    simp only
    rw [hsign, if_neg hinfinity, if_neg (hword "nan" (by decide)),
      Decimal.read?_of_readNat? hread, Option.map_some, Decimal.toBinary64_natCast hbound]

end Songbook
