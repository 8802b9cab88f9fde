import Songbook.Proofs.Number.Clock
import Songbook.Proofs.Query.Written
import Songbook.Proofs.Unicode.CaseMapping
import Songbook.Song

/-!
# Shown lengths as thresholds

A clock reading of whole seconds is read as the duration of that many seconds, at every instant. So
the length that a song shows can be the value of a comparison, and stands there for the length that the
song has.
-/

namespace Songbook

namespace Clock

variable {text : String} {start total : Nat} {parts : List (List Char)}

theorem exists_readNat?_of_secondsOf? (hseconds : secondsOf? start parts = some total) :
    start ≤ total ∧ ∀ field ∈ parts, ∃ n, Decimal.readNat? field = some n := by
  induction parts generalizing start with
  | nil =>
      cases hseconds
      exact ⟨Nat.le_refl _, List.forall_mem_nil _⟩
  | cons field rest ih =>
      obtain ⟨n, hread, hseconds⟩ := secondsOf?_cons.mp hseconds
      obtain ⟨hle, hrest⟩ := ih hseconds
      refine ⟨by omega, ?_⟩
      rw [List.forall_mem_cons]
      exact ⟨⟨n, hread⟩, hrest⟩

/-- A clock reading is made of digits and colons. -/
theorem IsReading.holds_of_mem {p : Char → Bool} (hreading : IsReading text total)
    (hdigits : "0123456789".toList.all p = true) (hcolon : p ':' = true) {c : Char}
    (hmem : c ∈ text.toList) : p c = true := by
  have hfield : ∀ field ∈ fields text, ∀ d ∈ field, p d = true := by
    intro field hfield d hd
    obtain ⟨n, hread⟩ := (exists_readNat?_of_secondsOf? hreading.seconds).2 field hfield
    exact Decimal.holds_of_isDigit hdigits ((Decimal.readNat?_eq_some_iff.mp hread).2.1 d hd)
  have htext : [':'].intercalate (fields text) = text.toList := List.intercalate_splitOn ':'
  rw [← htext] at hmem
  cases hparts : fields text with
  | nil => simp [hparts] at hmem
  | cons first rest =>
      rw [hparts, Query.intercalate_cons] at hmem
      rw [hparts, List.forall_mem_cons] at hfield
      rcases List.mem_append.mp hmem with hmem | hmem
      · exact hfield.1 c hmem
      · obtain ⟨field, hrest, hmem⟩ := List.mem_flatMap.mp hmem
        rcases List.mem_cons.mp hmem with rfl | hmem
        · exact hcolon
        · exact hfield.2 field hrest c hmem

theorem IsReading.not_mem (hreading : IsReading text total) {c : Char}
    (hother : (c.isDigit || c == ':') = false) : c ∉ text.toList := by
  intro hmem
  have hchar := hreading.holds_of_mem (p := fun d => d.isDigit || d == ':') (by decide) (by decide)
    hmem
  exact Bool.false_ne_true (hother.symm.trans hchar)

theorem IsReading.colon_mem (hreading : IsReading text total) : ':' ∈ text.toList := by
  apply Classical.byContradiction
  intro hcolon
  have hlength := hreading.twoOrThree
  rw [fields, List.splitOn_eq_singleton hcolon, List.length_singleton] at hlength
  omega

end Clock

namespace Quantity

open Clock

variable {text : String} {start total : Nat} {parts : List (List Char)}

/-- Fields of digits are added up without rounding. -/
theorem ofClockFields?_of_secondsOf? (hseconds : secondsOf? start parts = some total)
    (hbound : total < 2 ^ 53) :
    ofClockFields? (.finite start) parts = some (.finite total) := by
  induction parts generalizing start with
  | nil =>
      cases hseconds
      rfl
  | cons field rest ih =>
      obtain ⟨n, hread, hseconds⟩ := secondsOf?_cons.mp hseconds
      have hle := (exists_readNat?_of_secondsOf? hseconds).1
      have htrim : Text.trim field = field := by
        apply Text.trim_of_unblank
        intro c hc
        have hdigit := (Decimal.readNat?_eq_some_iff.mp hread).2.1 c hc
        have hunblank := Decimal.holds_of_isDigit (p := fun d => !Text.isBlank d) (by decide) hdigit
        exact (Bool.not_eq_true' _).mp hunblank
      have hsixty : (60 : Binary64) = .finite ((60 : Nat) : Rat) :=
        Binary64.ofInt_natCast (by decide)
      have hstep : Binary64.finite start * 60 + .finite n =
          .finite ((start * 60 + n : Nat) : Rat) := by
        rw [hsixty, Binary64.natCast_mul (by omega), Binary64.natCast_add (by omega)]
      rw [ofClockFields?, htrim, Binary64.read?_of_readNat? hread (by omega)]
      simp only [Binary64.compare?_natCast_zero, if_false, hstep]
      exact ih hseconds

theorem ofClock?_of_isReading (hreading : IsReading text total) (hbound : total < 2 ^ 53) :
    ofClock? text.toList = some (.duration (.finite total)) := by
  have hzero : (0 : Binary64) = .finite ((0 : Nat) : Rat) := rfl
  have hfields := ofClockFields?_of_secondsOf? hreading.seconds hbound
  change (if (fields text).length = 2 ∨ (fields text).length = 3 then
    (ofClockFields? 0 (fields text)).map duration else none) = _
  rw [if_pos hreading.twoOrThree, hzero, hfields, Option.map_some]

/-- A clock reading of whole seconds is read as that many seconds. -/
theorem read_of_isReading (hreading : IsReading text total) (hbound : total < 2 ^ 53)
    (now : Binary64) : read text now = .ok (.duration (.finite total)) := by
  have htrim : Text.trim text.toList = text.toList := by
    apply Text.trim_of_unblank
    intro c hc
    have hunblank := hreading.holds_of_mem (p := fun d => !Text.isBlank d) (by decide) (by decide)
      hc
    exact (Bool.not_eq_true' _).mp hunblank
  have hlower : Unicode.lowercase text.toList = text.toList := by
    apply Unicode.lowercaseAfter_of_fixed
    intro c hc
    have hfixed := hreading.holds_of_mem
      (p := fun d => d ≠ 'Σ' ∧ d ≠ 'İ' ∧ Unicode.toLowercase d = d) (by decide) (by decide) hc
    exact of_decide_eq_true hfixed
  have hword : ∀ word : String, 'o' ∈ word.toList → text.toList ≠ word.toList := by
    intro word hmem heq
    exact hreading.not_mem rfl (heq ▸ hmem)
  have hdate : ofDate? text.toList = none := by
    have hdash : '-' ∉ text.toList := hreading.not_mem rfl
    rw [ofDate?, List.splitOn_eq_singleton hdash]
  have hcolon : text.toList.contains ':' = true := List.contains_iff_mem.mpr hreading.colon_mem
  unfold read
  simp only [htrim, hlower, hdate, hcolon, if_true, ofClock?_of_isReading hreading hbound]
  rw [if_neg (hword "now" (by decide)), if_neg (hword "today" (by decide))]

end Quantity

/-! ## Comparisons -/

namespace Binary64

theorem ofRat_ne_nan (negative : Bool) (value : Rat) : ofRat negative value ≠ nan := by
  have hzero : ∀ negative, zero negative ≠ nan := by decide
  have hsigned : ∀ negative value, signed negative value ≠ nan := by
    intro negative value
    rw [signed]
    split
    · exact hzero negative
    · intro heq
      cases heq
  unfold ofRat
  simp only
  split
  · exact hzero negative
  · split
    · intro heq
      cases heq
    · exact hsigned _ _

theorem compare?_self {x : Binary64} (hx : x ≠ nan) : x.compare? x = some .eq := by
  cases x with
  | nan => exact absurd rfl hx
  | infinity negative => simp [compare?]
  | negativeZero => rfl
  | finite value =>
      change some (if value < value then Ordering.lt else if value = value then .eq else .gt) = _
      rw [if_neg Rat.lt_irrefl, if_pos rfl]

end Binary64

namespace Comparison

theorem hundredths_ne_nan (value : Rat) : hundredths (.finite value) ≠ .nan := by
  have hhundred : (100 : Binary64) = .finite ((100 : Nat) : Rat) :=
    Binary64.ofInt_natCast (by decide)
  have hproduct : Binary64.finite value * 100 ≠ .nan := by
    rw [hhundred]
    exact Binary64.ofRat_ne_nan _ _
  have hround : ∀ x : Binary64, x ≠ .nan → x.round ≠ .nan := by
    intro x hx
    cases x with
    | finite value => exact Binary64.ofRat_ne_nan _ _
    | _ => exact hx
  have hquotient : ∀ x : Binary64, x ≠ .nan → x / 100 ≠ .nan := by
    intro x hx
    rw [hhundred]
    cases x with
    | nan => exact hx
    | infinity negative =>
        intro heq
        cases heq
    | negativeZero => decide +kernel
    | finite value => exact Binary64.ofRat_ne_nan _ _
  exact hquotient _ (hround _ hproduct)

/-- The comparison that asks for a length of a number of seconds. -/
def ofLength (seconds : Binary64) : Comparison where
  tag := "length"
  comparator := .equal
  threshold := hundredths seconds

theorem read_of_isReading {text : String} {total : Nat} (hreading : Clock.IsReading text total)
    (hbound : total < 2 ^ 53) (now : Binary64) :
    read "length" "=" text now = .ok (ofLength (.finite total)) := by
  have hoperator : Comparator.ofSymbol? (Text.trimmed "=") = some .equal := by decide +kernel
  have htag : tagName "length" = "length" := by decide +kernel
  have hvalue := Quantity.read_of_isReading hreading hbound now
  simp only [read, hoperator, hvalue, htag]
  rfl

theorem ofLength_holds {record : Record} {value : Rat}
    (hlength : record.numeric? "length" = some (.finite value)) :
    (ofLength (.finite value)).holds record = true := by
  have hsame := Binary64.compare?_self (hundredths_ne_nan value)
  simp [holds, ofLength, hlength, Comparator.holds, hsame]

end Comparison

namespace Query

theorem lengthName_nonempty : "length".toList ≠ [] := by
  decide

theorem lengthName_valid : "length".toList.all isTagChar = true := by
  decide +kernel

section Length

variable {text : String} {total : Nat} (hreading : Clock.IsReading text total)

include hreading

theorem isOperatorChar_head?_reading : text.toList.head?.any isOperatorChar = false := by
  cases htext : text.toList with
  | nil => rfl
  | cons c rest =>
      have hother := hreading.holds_of_mem (p := fun d => !isOperatorChar d) (by decide) (by decide)
        (htext ▸ List.mem_cons_self)
      exact (Bool.not_eq_true' _).mp hother

variable (hbound : total < 2 ^ 53) (now : Binary64)

include hbound

theorem isSome_read_reading :
    (Comparison.read (String.ofList "length".toList) Comparator.equal.symbol
      (String.ofList text.toList) now).toOption.isSome = true := by
  rw [String.ofList_toList, String.ofList_toList]
  exact congrArg (·.toOption.isSome) (Comparison.read_of_isReading hreading hbound now)

/-- A clock reading as the value of a comparison of lengths. -/
def lengthTerm : ComparisonTerm now where
  tag := { text := "length".toList, nonempty := lengthName_nonempty, valid := lengthName_valid }
  comparator := .equal
  value := text.toList
  noComma := hreading.not_mem rfl
  noParenthesis := hreading.not_mem rfl
  start := isOperatorChar_head?_reading hreading
  accepted := isSome_read_reading hreading hbound now

theorem comparison_lengthTerm :
    (lengthTerm hreading hbound now).comparison = .ofLength (.finite total) := by
  have hread := Comparison.read_of_isReading hreading hbound now
  have hterm := eq_ok_of_isSome (lengthTerm hreading hbound now).accepted
  change Comparison.read (String.ofList "length".toList) "=" (String.ofList text.toList) now =
    .ok (lengthTerm hreading hbound now).comparison at hterm
  rw [String.ofList_toList, String.ofList_toList, hread] at hterm
  exact (Except.ok.inj hterm).symm

theorem parse_length [RegexLibrary] :
    parse ("#(length = " ++ text ++ ")") now =
      .ok (.comparison (.ofLength (.finite total))) := by
  have hheight : (Atom.comparisons (lengthTerm hreading hbound now) []).height ≤ maxDepth := by
    change 1 ≤ maxDepth
    decide
  have hread := Atom.reads {} _ hheight [] (fun c hc => absurd hc (by simp))
  have hpredicate : (Atom.comparisons (lengthTerm hreading hbound now) []).predicate =
      .comparison (.ofLength (.finite total)) := by
    rw [← comparison_lengthTerm hreading hbound now]
    rfl
  have hwritten : (Atom.comparisons (lengthTerm hreading hbound now) []).write {} =
      ("#(length = " ++ text ++ ")").toList := by
    have hopening : "#(length = ".toList =
        ['#', '('] ++ ("length".toList ++ ([' '] ++ ("=".toList ++ [' ']))) := by decide
    have hterm : (lengthTerm hreading hbound now).write {} =
        "length".toList ++ ([' '] ++ ("=".toList ++ ([' '] ++ text.toList))) := rfl
    rw [Atom.write, List.map_singleton, writeItems, List.intercalate_singleton, hterm,
      String.toList_append, String.toList_append, hopening]
    simp only [List.append_assoc, List.cons_append, List.nil_append]
    rfl
  rw [List.append_nil, hpredicate, hwritten] at hread
  exact parse_of_isExpression ⟨[], hread, rfl⟩

end Length

end Query

namespace Song

theorem comma_length {song : Song} {total : Nat}
    (hlength : song.numeric? "length" = some (.finite total)) (hbound : total < 2 ^ 53) :
    song.comma "~length" = Clock.ofSeconds total := by
  have hcomma : song.comma "~length" = ((song.numeric? "length").map Clock.ofNumber).getD
      (String.intercalate song.join (song.values "~length")) := rfl
  have hlimit : total ≤ Nat.pow 2 64 - 1 := by
    have hlarge : 2 ^ 53 ≤ Nat.pow 2 64 - 1 := by decide
    omega
  rw [hcomma, hlength, Option.map_some, Option.getD_some, Clock.ofNumber,
    Binary64.round_natCast hbound, Binary64.clampToNat_natCast hlimit]

/-- A song with a length of whole seconds shows a clock reading of them. As a value the reading is the
duration of just as many seconds, and a query for the shown length finds the song. -/
theorem shown_length_reads_back [RegexLibrary] (song : Song) {total : Nat}
    (hlength : song.numeric? "length" = some (Binary64.ofInt total)) (hbound : total < 2 ^ 53)
    (now : Binary64) :
    Clock.IsReading (song.comma "~length") total ∧
      Quantity.read (song.comma "~length") now = .ok (.duration (Binary64.ofInt total)) ∧
      Query.parse ("#(length = " ++ song.comma "~length" ++ ")") now =
        .ok (.comparison (.ofLength (Binary64.ofInt total))) ∧
      (Comparison.ofLength (Binary64.ofInt total)).holds song.toRecord = true := by
  rw [Binary64.ofInt_natCast hbound] at hlength ⊢
  have hreading : Clock.IsReading (song.comma "~length") total := by
    rw [comma_length hlength hbound]
    exact Clock.ofSeconds_isReading total
  have hvalue := Quantity.read_of_isReading hreading hbound now
  have hquery := Query.parse_length hreading hbound now
  exact ⟨hreading, hvalue, hquery, Comparison.ofLength_holds hlength⟩

/-- A song of an hour, two minutes and three seconds. -/
theorem hour_length_reads_back :
    let song := Song.setNumeric {} "length" 3723
    song.numeric? "length" = some (Binary64.ofInt (3723 : Nat)) ∧ 3723 < 2 ^ 53 ∧
      song.comma "~length" = "1:02:03" ∧
      Clock.IsReading (song.comma "~length") 3723 ∧
      Quantity.read (song.comma "~length") 0 = .ok (.duration (Binary64.ofInt (3723 : Nat))) ∧
      Query.parse ("#(length = " ++ song.comma "~length" ++ ")") 0 =
        .ok (.comparison (.ofLength (Binary64.ofInt (3723 : Nat)))) ∧
      (Comparison.ofLength (Binary64.ofInt (3723 : Nat))).holds song.toRecord = true := by
  have hlength : (Song.setNumeric {} "length" 3723).numeric? "length" =
      some (Binary64.ofInt (3723 : Nat)) := by decide +kernel
  have hbound : 3723 < 2 ^ 53 := by decide
  exact ⟨hlength, hbound, by decide +kernel, shown_length_reads_back _ hlength hbound 0⟩

end Song

end Songbook
