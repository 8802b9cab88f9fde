import Mathlib.Data.Prod.Lex
import Mathlib.Data.Set.Card
import Mathlib.Order.Interval.Set.SuccPred
import Mathlib.Order.SuccPred.Archimedean
import Songbook.Query.Calendar

/-!
# Counting days

The valid dates of the proleptic Gregorian calendar are in order of year, month and day, and each has
a next one: the next day of its month, or the first of the next month. The number of a day is how many
steps it is from 1 January 1970. Nothing of this is bound to a range of years.
-/

namespace Songbook.Calendar

/-! ## Months -/

theorem isDate_iff {year month day : Int} : isDate year month day = true ↔
    (1 ≤ month ∧ month ≤ 12) ∧ 1 ≤ day ∧ day ≤ daysInMonth year month := by
  simp [isDate, and_assoc]

theorem daysInMonth_bounds (year month : Int) :
    28 ≤ daysInMonth year month ∧ daysInMonth year month ≤ 31 := by
  unfold daysInMonth
  split <;> split <;> omega

theorem isDate_first {year month : Int} (hmonth : 1 ≤ month ∧ month ≤ 12) :
    isDate year month 1 = true :=
  isDate_iff.mpr ⟨hmonth, le_rfl, le_trans (by decide) (daysInMonth_bounds year month).1⟩

/-! ## Dates -/

/-- A day of the calendar. -/
@[ext]
structure Date where
  year : Int
  month : Int
  day : Int
  isDate : isDate year month day = true

namespace Date

/-- The number of a date. -/
def number (date : Date) : Int :=
  dayNumber date.year date.month date.day

/-- The date that follows another one. -/
def next (date : Date) : Date :=
  have hdate := isDate_iff.mp date.isDate
  if hday : date.day < daysInMonth date.year date.month then
    ⟨date.year, date.month, date.day + 1, isDate_iff.mpr ⟨hdate.1, by omega, by omega⟩⟩
  else if hmonth : date.month < 12 then
    ⟨date.year, date.month + 1, 1, isDate_first (by omega)⟩
  else ⟨date.year + 1, 1, 1, isDate_first (by decide)⟩

/-- What follows a date: another day of its month, or the first of the next month after its last. -/
theorem next_cases (date : Date) :
    (date.day < daysInMonth date.year date.month ∧ date.next.year = date.year ∧
      date.next.month = date.month ∧ date.next.day = date.day + 1) ∨
    (date.day = daysInMonth date.year date.month ∧ date.next.day = 1 ∧
      (date.month < 12 ∧ date.next.year = date.year ∧ date.next.month = date.month + 1 ∨
        date.month = 12 ∧ date.next.year = date.year + 1 ∧ date.next.month = 1)) := by
  obtain ⟨⟨_, hlast⟩, _, hlength⟩ := isDate_iff.mp date.isDate
  unfold next
  split
  next hday => exact Or.inl ⟨hday, rfl, rfl, rfl⟩
  next hday =>
    have hend : date.day = daysInMonth date.year date.month := by omega
    split
    next hmonth => exact Or.inr ⟨hend, rfl, Or.inl ⟨hmonth, rfl, rfl⟩⟩
    next hmonth => exact Or.inr ⟨hend, rfl, Or.inr ⟨by omega, rfl, rfl⟩⟩

/-! ## The order of dates -/

/-- The parts of a date, the greatest first. -/
def key (date : Date) : Int ×ₗ Int ×ₗ Int :=
  toLex (date.year, toLex (date.month, date.day))

theorem key_injective : Function.Injective key := by
  intro date other heq
  have hparts : (date.year, toLex (date.month, date.day)) =
      (other.year, toLex (other.month, other.day)) := heq
  obtain ⟨hyear, hrest⟩ := Prod.mk.inj hparts
  obtain ⟨hmonth, hday⟩ := Prod.mk.inj hrest
  exact Date.ext hyear hmonth hday

instance : LinearOrder Date :=
  LinearOrder.lift' key key_injective

variable {date later : Date}

theorem lt_iff : date < later ↔ date.year < later.year ∨
    date.year = later.year ∧ (date.month < later.month ∨
      date.month = later.month ∧ date.day < later.day) := by
  change key date < key later ↔ _
  simp [key, Prod.Lex.toLex_lt_toLex]

theorem le_iff : date ≤ later ↔ date.year < later.year ∨
    date.year = later.year ∧ (date.month < later.month ∨
      date.month = later.month ∧ date.day ≤ later.day) := by
  change key date ≤ key later ↔ _
  simp [key, Prod.Lex.toLex_le_toLex]

theorem next_le_iff : date.next ≤ later ↔ date < later := by
  rw [le_iff, lt_iff]
  obtain ⟨⟨hfirst, hlast⟩, hday, _⟩ := isDate_iff.mp later.isDate
  -- a date of the same month is not behind its last day
  have hsame : later.year = date.year → later.month = date.month →
      later.day ≤ daysInMonth date.year date.month := by
    intro hyear hmonth
    rw [← hyear, ← hmonth]
    exact (isDate_iff.mp later.isDate).2.2
  rcases next_cases date with ⟨_, _, _, _⟩ | ⟨_, _, ⟨_, _, _⟩ | ⟨_, _, _⟩⟩ <;> omega

instance : SuccOrder Date :=
  SuccOrder.ofSuccLeIff next next_le_iff

theorem succ_eq_next (date : Date) : Order.succ date = date.next :=
  rfl

theorem covBy_next (date : Date) : date ⋖ date.next :=
  ⟨next_le_iff.mp le_rfl, fun _ hlater hbetween => (next_le_iff.mpr hlater).not_gt hbetween⟩

instance : NoMaxOrder Date where
  exists_gt date := ⟨date.next, (covBy_next date).lt⟩

/-- A place of each date among all those that a calendar with full months would have. -/
def rank (date : Date) : Int :=
  372 * date.year + 31 * date.month + date.day

theorem rank_lt_rank (hlt : date < later) : date.rank < later.rank := by
  obtain ⟨⟨_, _⟩, _, _⟩ := isDate_iff.mp date.isDate
  obtain ⟨⟨_, _⟩, _, _⟩ := isDate_iff.mp later.isDate
  have hlength := daysInMonth_bounds date.year date.month
  rw [lt_iff] at hlt
  unfold rank
  omega

/-- Every later date is reached by going from day to day. -/
instance : IsSuccArchimedean Date where
  exists_succ_iterate_of_le {date later} hle := by
    induction hsteps : (later.rank - date.rank).toNat using Nat.strong_induction_on
      generalizing date with
    | _ steps ih =>
      rcases hle.eq_or_lt with rfl | hlt
      · exact ⟨0, rfl⟩
      · have hrank := rank_lt_rank (covBy_next date).lt
        have hlater := rank_lt_rank hlt
        obtain ⟨n, hn⟩ := ih _ (by omega) (next_le_iff.mpr hlt) rfl
        exact ⟨n + 1, hn⟩

end Date

/-! ## The number of a date -/

/-- The days from the March of year zero to that of another year. -/
def daysBeforeMarch (year : Int) : Int :=
  365 * year + year / 4 - year / 100 + year / 400

/-- The days from March to another month before the next March. -/
def daysSinceMarch (month : Int) : Int :=
  (153 * ((month + 9) % 12) + 2) / 5

/-- From one March to the next there is the leap day of the later year. -/
theorem daysBeforeMarch_add_one (year : Int) : daysBeforeMarch (year + 1) =
    daysBeforeMarch year + 365 + if isLeapYear (year + 1) = true then 1 else 0 := by
  unfold daysBeforeMarch isLeapYear
  simp only [Bool.or_eq_true, Bool.and_eq_true, decide_eq_true_eq, bne_iff_ne]
  split <;> omega

/-- From one month to the next there are the days of the month. February is followed by March, from
which the days are counted anew. -/
theorem daysSinceMarch_add_one {month : Int} (year : Int) (hfirst : 1 ≤ month) (hlast : month < 12)
    (hfebruary : month ≠ 2) :
    daysSinceMarch (month + 1) = daysSinceMarch month + daysInMonth year month := by
  have hmonths : month = 1 ∨ month = 3 ∨ month = 4 ∨ month = 5 ∨ month = 6 ∨ month = 7 ∨
      month = 8 ∨ month = 9 ∨ month = 10 ∨ month = 11 := by omega
  rcases hmonths with rfl | rfl | rfl | rfl | rfl | rfl | rfl | rfl | rfl | rfl <;> rfl

/-- The number of a day without eras. -/
theorem dayNumber_eq (year month day : Int) : dayNumber year month day =
    daysBeforeMarch (if month ≤ 2 then year - 1 else year) + daysSinceMarch month + day -
      719469 := by
  unfold dayNumber daysBeforeMarch daysSinceMarch
  simp only
  split <;> omega

namespace Date

theorem number_next (date : Date) : date.next.number = date.number + 1 := by
  obtain ⟨⟨hfirst, _⟩, _⟩ := isDate_iff.mp date.isDate
  unfold number
  rw [dayNumber_eq, dayNumber_eq]
  rcases next_cases date with
    ⟨_, hyear, hmonth, hday⟩ | ⟨hend, hday, ⟨hlast, hyear, hmonth⟩ | ⟨hdecember, hyear, hmonth⟩⟩
  · rw [hyear, hmonth, hday]
    omega
  · rw [hyear, hmonth, hday, hend]
    -- the year that starts in March ends with February, and no other month ends it
    by_cases hfebruary : date.month = 2
    · have hmarch := daysBeforeMarch_add_one (date.year - 1)
      rw [Int.sub_add_cancel] at hmarch
      have hdays : daysSinceMarch 2 = 337 ∧ daysSinceMarch (2 + 1) = 0 := by decide
      rw [hfebruary, if_pos le_rfl, if_neg (by decide), daysInMonth, if_pos rfl, hmarch]
      split <;> omega
    · have hmonth := daysSinceMarch_add_one date.year hfirst hlast hfebruary
      split <;> split <;> omega
  · rw [hyear, hmonth, hday, hend, hdecember, if_pos (by decide), if_neg (by decide),
      Int.add_sub_cancel]
    have hdays : daysSinceMarch 1 = daysSinceMarch 12 + daysInMonth date.year 12 := rfl
    omega

theorem number_lt_number_iff {first last : Date} : first.number < last.number ↔ first < last := by
  have hmono : StrictMono number := strictMono_of_lt_succ fun date _ => by
    rw [succ_eq_next, number_next]
    exact Int.lt_succ _
  exact hmono.lt_iff_lt

/-- The dates from one day until another are as many as the difference of their numbers. -/
theorem ncard_Ico {first last : Date} (hle : first ≤ last) : (Set.Ico first last).Finite ∧
    ((Set.Ico first last).ncard : Int) = last.number - first.number := by
  induction hle using Succ.rec with
  | rfl => simp
  | succ date hdate ih =>
    obtain ⟨hfinite, hcard⟩ := ih
    rw [← Set.insert_Ico_right_eq_Ico_succ_of_not_isMax hdate (not_isMax date)]
    refine ⟨hfinite.insert date, ?_⟩
    rw [Set.ncard_insert_of_notMem Set.right_notMem_Ico hfinite, succ_eq_next, number_next]
    omega

/-- The first day of the count. -/
def epoch : Date :=
  ⟨1970, 1, 1, by decide⟩

/-- The number of a date counts the days since 1 January 1970, down for earlier ones. It is zero
there, grows by one from each date to the next, and grows with the dates. -/
theorem number_counts_days :
    epoch.number = 0 ∧ (∀ date : Date, date ⋖ date.next ∧ date.next.number = date.number + 1) ∧
      (∀ first last : Date, first.number < last.number ↔ first < last) ∧ ∀ date : Date,
        date.number = ((Set.Ico epoch date).ncard : Int) - (Set.Ico date epoch).ncard := by
  have hepoch : epoch.number = 0 := by decide
  refine ⟨hepoch, fun date => ⟨covBy_next date, number_next date⟩,
    fun _ _ => number_lt_number_iff, fun date => ?_⟩
  rcases le_total epoch date with hle | hle
  · have hcount := (ncard_Ico hle).2
    rw [Set.Ico_eq_empty_of_le hle, Set.ncard_empty]
    omega
  · have hcount := (ncard_Ico hle).2
    rw [Set.Ico_eq_empty_of_le hle, Set.ncard_empty]
    omega

end Date

end Songbook.Calendar
