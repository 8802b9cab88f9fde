import Songbook.Proofs.Number.Whole

/-!
# Clock readings of whole seconds

A number of seconds is written as a clock reading: two or three numerals with colons between them, of
which all but the first have two digits and stay below sixty. Taken together, each one sixtieth of the
one before, they give the number back.
-/

namespace Songbook.Clock

/-- The parts of a text between its colons. -/
def fields (text : String) : List (List Char) :=
  text.toList.splitOn ':'

/-- The number of seconds that fields of digits denote, each one sixtieth of the one before, in whole
numbers. -/
def secondsOf? (total : Nat) : List (List Char) → Option Nat
  | [] => some total
  | field :: rest =>
    match Decimal.readNat? field with
    | none => none
    | some n => secondsOf? (total * 60 + n) rest

theorem secondsOf?_cons {start total : Nat} {field : List Char} {rest : List (List Char)} :
    secondsOf? start (field :: rest) = some total ↔
      ∃ n, Decimal.readNat? field = some n ∧ secondsOf? (start * 60 + n) rest = some total := by
  rw [secondsOf?]
  cases Decimal.readNat? field <;> simp

/-- How a clock reading of a number of seconds is written. -/
structure IsReading (text : String) (total : Nat) : Prop where
  twoOrThree : (fields text).length = 2 ∨ (fields text).length = 3
  sixtieths : ∀ field ∈ (fields text).tail,
    field.length = 2 ∧ ∃ n < 60, Decimal.readNat? field = some n
  seconds : secondsOf? 0 (fields text) = some total

/-! ## Writing -/

theorem readNat?_twoDigits {n : Nat} (hn : n < 60) :
    (Text.twoDigits n).toList.length = 2 ∧
      Decimal.readNat? (Text.twoDigits n).toList = some n := by
  have hall : ∀ n < 60, (Text.twoDigits n).toList.length = 2 ∧
      Decimal.readNat? (Text.twoDigits n).toList = some n := by decide +kernel
  exact hall n hn

theorem colon_notMem_of_readNat? {field : List Char} {n : Nat}
    (hread : Decimal.readNat? field = some n) : ':' ∉ field := by
  intro hmem
  exact absurd ((Decimal.readNat?_eq_some_iff.mp hread).2.1 ':' hmem) (by decide)

/-- Numerals with colons between them are the fields of the text. -/
theorem fields_of_intercalate {text : String} {numerals : List (List Char)}
    (htext : text.toList = [':'].intercalate numerals) (hnonempty : numerals ≠ [])
    (hnumerals : ∀ field ∈ numerals, ∃ n, Decimal.readNat? field = some n) :
    fields text = numerals := by
  rw [fields, htext]
  refine List.splitOn_intercalate ':' (fun field hmem => ?_) hnonempty
  obtain ⟨n, hread⟩ := hnumerals field hmem
  exact colon_notMem_of_readNat? hread

theorem secondsOf?_twoDigits {sixtieths : List Nat} (hsixtieths : ∀ n ∈ sixtieths, n < 60)
    (total : Nat) :
    secondsOf? total (sixtieths.map fun n => (Text.twoDigits n).toList) =
      some (sixtieths.foldl (fun total n => total * 60 + n) total) := by
  induction sixtieths generalizing total with
  | nil => rfl
  | cons n rest ih =>
      obtain ⟨hn, hrest⟩ := List.forall_mem_cons.mp hsixtieths
      rw [List.map_cons, secondsOf?_cons]
      exact ⟨n, (readNat?_twoDigits hn).2, ih hrest _⟩

/-- A numeral with one or two sixtieths behind it is a clock reading. -/
theorem isReading_of_sixtieths {text : String} (first : Nat) (sixtieths : List Nat)
    (htext : text.toList = [':'].intercalate
      ((toString first).toList :: sixtieths.map fun n => (Text.twoDigits n).toList))
    (hlength : sixtieths.length = 1 ∨ sixtieths.length = 2)
    (hsixtieths : ∀ n ∈ sixtieths, n < 60) :
    IsReading text (sixtieths.foldl (fun total n => total * 60 + n) first) := by
  have hfirst := Decimal.readNat?_toString first
  have hrest : ∀ field ∈ sixtieths.map fun n => (Text.twoDigits n).toList,
      field.length = 2 ∧ ∃ n < 60, Decimal.readNat? field = some n := by
    intro field hmem
    obtain ⟨n, hn, rfl⟩ := List.mem_map.mp hmem
    obtain ⟨htwo, hread⟩ := readNat?_twoDigits (hsixtieths n hn)
    exact ⟨htwo, n, hsixtieths n hn, hread⟩
  have hfields := fields_of_intercalate htext (List.cons_ne_nil _ _) (by
    intro field hmem
    rcases List.mem_cons.mp hmem with rfl | hmem
    · exact ⟨first, hfirst⟩
    · obtain ⟨_, n, _, hread⟩ := hrest field hmem
      exact ⟨n, hread⟩)
  constructor
  · simpa [hfields] using hlength
  · rw [hfields]
    exact hrest
  · rw [hfields, secondsOf?_cons]
    refine ⟨first, hfirst, ?_⟩
    rw [Nat.zero_mul, Nat.zero_add]
    exact secondsOf?_twoDigits hsixtieths first

/-- A number of seconds is written as a clock reading of it. -/
theorem ofSeconds_isReading (total : Nat) : IsReading (ofSeconds total) total := by
  have hminutes : total % 3600 / 60 < 60 := by omega
  have hseconds : total % 60 < 60 := by omega
  by_cases hhours : 0 < total / 3600
  · have hreading : IsReading (ofSeconds total) _ :=
      isReading_of_sixtieths (total / 3600) [total % 3600 / 60, total % 60]
        (by simp [ofSeconds, hhours, List.intercalate_cons_cons]) (Or.inr rfl)
        (by simp [hminutes, hseconds])
    have htotal : (total / 3600 * 60 + total % 3600 / 60) * 60 + total % 60 = total := by omega
    rwa [List.foldl_cons, List.foldl_cons, List.foldl_nil, htotal] at hreading
  · have hreading : IsReading (ofSeconds total) _ :=
      isReading_of_sixtieths (total % 3600 / 60) [total % 60]
        (by simp [ofSeconds, hhours, List.intercalate_cons_cons]) (Or.inl rfl)
        (by simp [hseconds])
    have htotal : total % 3600 / 60 * 60 + total % 60 = total := by omega
    rwa [List.foldl_cons, List.foldl_nil, htotal] at hreading

end Songbook.Clock
