import Songbook.Unicode.Property

/-!
# Blank characters

The blank characters are few, and the tables list none of them as a letter or a number.
-/

namespace Songbook.Unicode.Property

/-- No blank is a letter or a number. -/
theorem isAlphanumeric_of_isWhiteSpace {c : Char} (hblank : isWhiteSpace c = true) :
    isAlphanumeric c = false := by
  have hsingle : ∀ n ∈ [0x85, 0xA0, 0x1680, 0x2028, 0x2029, 0x202F, 0x205F, 0x3000],
      isAlphanumeric (Char.ofNat n) = false := by decide +kernel
  have hcontrol : ∀ n < 5, isAlphanumeric (Char.ofNat (0x09 + n)) = false := by decide +kernel
  have hspace : ∀ n < 11, isAlphanumeric (Char.ofNat (0x2000 + n)) = false := by decide +kernel
  rw [← Char.ofNat_toNat c]
  simp only [isWhiteSpace, Bool.or_eq_true, Bool.and_eq_true, decide_eq_true_eq,
    List.contains_iff_mem] at hblank
  rcases hblank with ((hlist | htwenty) | ⟨hlow, hhigh⟩) | ⟨hlow, hhigh⟩
  · exact hsingle _ hlist
  · rw [htwenty]
    decide
  · have hcode := hcontrol (c.toNat - 0x09) (by omega)
    rwa [Nat.add_sub_cancel' hlow] at hcode
  · have hcode := hspace (c.toNat - 0x2000) (by omega)
    rwa [Nat.add_sub_cancel' hlow] at hcode

end Songbook.Unicode.Property
