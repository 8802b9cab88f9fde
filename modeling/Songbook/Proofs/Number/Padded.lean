import Songbook.Number.Integer
import Songbook.Proofs.Number.Whole

/-!
# Numbers with leading zeros

A number is written with zeros in front to fill a width. If it has no more digits than that, the
numeral has exactly the width and denotes the number still. Of two numerals of one width the one of
the smaller number stands first in the order of texts.
-/

namespace Songbook

namespace Decimal

/-! ## Numerals of one length -/

theorem natOfDigits_cons (c : Char) (digits : List Char) : natOfDigits (c :: digits) =
    10 ^ digits.length * (c.toNat - '0'.toNat) + natOfDigits digits := by
  have hshift : natOfDigits (c :: digits) =
      Nat.ofDigitChars 10 digits (10 * 0 + (c.toNat - '0'.toNat)) := Nat.ofDigitChars_cons
  rw [hshift, Nat.ofDigitChars_eq_ofDigitChars_zero, Nat.mul_zero, Nat.zero_add]
  rfl

theorem natOfDigits_lt {digits : List Char} (hdigits : ∀ c ∈ digits, c.isDigit = true) :
    natOfDigits digits < 10 ^ digits.length := by
  induction digits with
  | nil => decide
  | cons c digits ih =>
      obtain ⟨hc, hrest⟩ := List.forall_mem_cons.mp hdigits
      have hnine : c.toNat - '0'.toNat ≤ 9 :=
        Nat.sub_le_of_le_add (Char.isDigit_iff_toNat.mp hc).2
      calc natOfDigits (c :: digits)
          = 10 ^ digits.length * (c.toNat - '0'.toNat) + natOfDigits digits :=
            natOfDigits_cons c digits
        _ < 10 ^ digits.length * 9 + 10 ^ digits.length :=
            Nat.add_lt_add_of_le_of_lt (Nat.mul_le_mul_left _ hnine) (ih hrest)
        _ = 10 ^ (c :: digits).length := by rw [List.length_cons, Nat.pow_succ]; omega

theorem append_lt_append_of_natOfDigits_lt {first second : List Char}
    (hlength : first.length = second.length) (hfirst : ∀ c ∈ first, c.isDigit = true)
    (hsecond : ∀ c ∈ second, c.isDigit = true) (hlt : natOfDigits first < natOfDigits second)
    (after more : List Char) : first ++ after < second ++ more := by
  induction first generalizing second with
  | nil =>
      rw [List.length_nil] at hlength
      rw [List.eq_nil_of_length_eq_zero hlength.symm] at hlt
      exact absurd hlt (Nat.lt_irrefl _)
  | cons c first ih =>
      cases second with
      | nil => cases hlength
      | cons d second =>
          have hrest : first.length = second.length := Nat.succ.inj hlength
          rw [List.forall_mem_cons] at hfirst hsecond
          rw [natOfDigits_cons, natOfDigits_cons, hrest] at hlt
          rw [List.cons_append, List.cons_append, List.cons_lt_cons_iff]
          rcases Nat.lt_trichotomy c.toNat d.toNat with hless | heq | hgreater
          · exact Or.inl hless
          · rw [heq] at hlt
            exact Or.inr ⟨Char.toNat_inj.mp heq,
              ih hrest hfirst.2 hsecond.2 (Nat.lt_of_add_lt_add_left hlt)⟩
          · -- a greater digit is worth more than the other one with all that follows it
            have hbound := natOfDigits_lt hsecond.2
            have hlow : '0'.toNat ≤ d.toNat := (Char.isDigit_iff_toNat.mp hsecond.1).1
            have hworth : 10 ^ second.length * (d.toNat - '0'.toNat) + 10 ^ second.length ≤
                10 ^ second.length * (c.toNat - '0'.toNat) := by
              rw [← Nat.mul_succ]
              exact Nat.mul_le_mul_left _ (Nat.sub_lt_sub_right hlow hgreater)
            omega

/-- Of two numerals of one length the one of the smaller number stands first, whatever follows. -/
theorem append_lt_append_of_readNat?_lt {first second : List Char} {m n : Nat}
    (hlength : first.length = second.length) (hfirst : readNat? first = some m)
    (hsecond : readNat? second = some n) (hlt : m < n) (after more : List Char) :
    first ++ after < second ++ more := by
  obtain ⟨_, hdigits, rfl⟩ := readNat?_eq_some_iff.mp hfirst
  obtain ⟨_, hothers, rfl⟩ := readNat?_eq_some_iff.mp hsecond
  exact append_lt_append_of_natOfDigits_lt hlength hdigits hothers hlt after more

/-- Zeros in front of a numeral leave its number. -/
theorem readNat?_append_zeros (zeros n : Nat) :
    readNat? (List.replicate zeros '0' ++ (toString n).toList) = some n := by
  obtain ⟨hnonempty, hdigits, hvalue⟩ := readNat?_eq_some_iff.mp (readNat?_toString n)
  refine readNat?_eq_some_iff.mpr
    ⟨List.append_ne_nil_of_right_ne_nil _ hnonempty, fun c hc => ?_, ?_⟩
  · rcases List.mem_append.mp hc with hzero | hc
    · rw [List.eq_of_mem_replicate hzero]
      decide
    · exact hdigits c hc
  · have hzeros : Nat.ofDigitChars 10 (List.replicate zeros '0') 0 = 0 := by
      rw [Nat.ofDigitChars_replicate_zero, Nat.mul_zero]
    calc natOfDigits (List.replicate zeros '0' ++ (toString n).toList)
        = Nat.ofDigitChars 10 (toString n).toList
            (Nat.ofDigitChars 10 (List.replicate zeros '0') 0) := Nat.ofDigitChars_append 0
      _ = n := by rw [hzeros]; exact hvalue

theorem length_toString_mono {m n : Nat} (hle : m ≤ n) :
    (toString m).length ≤ (toString n).length := by
  have hdigits : ∀ k : Nat, (toString k).length = (Nat.toDigits 10 k).length := by
    intro k
    rw [← String.length_toList]
    exact congrArg List.length Nat.toList_repr
  have hpos : 0 < (Nat.toDigits 10 n).length := List.length_pos_iff.mpr Nat.toDigits_ne_nil
  rw [hdigits, hdigits, Nat.length_toDigits_le_iff (by decide) hpos]
  exact Nat.lt_of_le_of_lt hle ((Nat.length_toDigits_le_iff (by decide) hpos).mp le_rfl)

end Decimal

namespace Integer

open Decimal

/-- A numeral in the range of 64 bits is read as its number. -/
theorem readSigned?_of_readNat? {digits : List Char} {n : Nat} (hread : readNat? digits = some n)
    (hbound : n < 2 ^ 63) : readSigned? digits = some (n : Int) := by
  obtain ⟨_, hdigits, _⟩ := readNat?_eq_some_iff.mp hread
  have hpower : Int.pow 2 63 = 2 ^ 63 := rfl
  have hrange : -Int.pow 2 63 ≤ (n : Int) ∧ (n : Int) < Int.pow 2 63 := by omega
  unfold readSigned?
  split
  next => exact absurd (hdigits '-' List.mem_cons_self) (by decide)
  next => exact absurd (hdigits '+' List.mem_cons_self) (by decide)
  next =>
    rw [hread, Option.bind_some]
    exact if_pos hrange

/-- A number that has no more digits than there are places fills them all. -/
theorem padded_natCast {width n : Nat} (hfits : (toString n).length ≤ width) :
    (padded width (n : Int)).toList.length = width ∧
      readNat? (padded width (n : Int)).toList = some n := by
  have hpadded : (padded width (n : Int)).toList =
      List.replicate (width - (toString n).length) '0' ++ (toString n).toList := by
    have hsign : ¬(n : Int) < 0 := by omega
    unfold padded
    simp only [if_neg hsign, Int.natAbs_natCast, String.toList_append, String.toList_ofList]
    rfl
  rw [hpadded]
  refine ⟨?_, readNat?_append_zeros _ n⟩
  rw [List.length_append, List.length_replicate, String.length_toList]
  exact Nat.sub_add_cancel hfits

end Integer

end Songbook
