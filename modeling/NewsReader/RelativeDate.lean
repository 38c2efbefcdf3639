import Mathlib
import NewsReader.News

/-!
# Relative dates

Instants are rational seconds since 1970, so that the current one may fall
between two seconds. The rounding of `Double` is not modelled.
-/

namespace NewsReader

/-- `Int(_:)` of a `Double`, which cuts the fraction off. -/
def truncated (x : ℚ) : Int := if 0 ≤ x then ⌊x⌋ else ⌈x⌉

inductive Age
  | minutes (n : Int)
  | hours (n : Int)
  | days (n : Int)
  deriving DecidableEq, Repr

def Age.text : Age → String
  | minutes n => n.repr ++ " minutes ago"
  | hours n => n.repr ++ " hours ago"
  | days n => n.repr ++ " day ago"

theorem Age.text_injective : Function.Injective Age.text := by
  intro a b same
  -- The units already differ in the letters before their common end.
  have unit := congrArg (fun text => text.toList.reverse[4]?) same
  have unit' := congrArg (fun text => text.toList.reverse[5]?) same
  cases a <;> cases b <;> simp [Age.text, String.toList_append] at unit unit' same ⊢
  all_goals exact same

/-- `Date.currentDate()`, with `now` for `Date()` and `secondsFromGMT` for the
time zone of the device. -/
def Date.currentDate (now : ℚ) (secondsFromGMT : Int) : ℚ := now + secondsFromGMT

/-- `Date.toString()` of `date`. -/
def Date.toString (now : ℚ) (secondsFromGMT : Int) (date : ℚ) : String :=
  let difference := Date.currentDate now secondsFromGMT - date
  let differenceInDays := truncated (difference / (60 * 60 * 24))
  let differenceInHour := truncated (difference / (60 * 60))
  let differenceInMinute := truncated (difference / 60)
  if differenceInMinute < 60 then
    (Age.minutes differenceInMinute).text
  else if differenceInHour < 24 then
    (Age.hours differenceInHour).text
  else
    (Age.days differenceInDays).text

/-- What the text is there to tell: the full minutes of the first hour, then the
full hours of the first day, then the full days. -/
def ageOf (elapsed : ℚ) : Age :=
  if elapsed < 60 * 60 then .minutes ⌊elapsed / 60⌋
  else if elapsed < 60 * 60 * 24 then .hours ⌊elapsed / (60 * 60)⌋
  else .days ⌊elapsed / (60 * 60 * 24)⌋

/-- The shifted time lies in the same full unit as the elapsed time. -/
def StaysIn (unit elapsed shifted : ℚ) : Prop :=
  unit * ⌊elapsed / unit⌋ ≤ shifted ∧ shifted < unit * (⌊elapsed / unit⌋ + 1)

/-- An offset that the text does not show: it leaves the elapsed time in its minute,
hour or day. In the first minute it may also reach back by less than a minute. -/
def Hidden (elapsed : ℚ) (secondsFromGMT : Int) : Prop :=
  if elapsed < 60 * 60 then
    StaysIn 60 elapsed (elapsed + secondsFromGMT) ∨
      (elapsed < 60 ∧ -60 < elapsed + secondsFromGMT ∧ elapsed + secondsFromGMT < 0)
  else if elapsed < 60 * 60 * 24 then
    StaysIn (60 * 60) elapsed (elapsed + secondsFromGMT)
  else
    StaysIn (60 * 60 * 24) elapsed (elapsed + secondsFromGMT)

section Floors

variable {unit elapsed x : ℚ}

theorem truncated_of_nonneg (h : 0 ≤ x) : truncated x = ⌊x⌋ := if_pos h

theorem truncated_of_neg (h : x < 0) : truncated x = ⌈x⌉ := if_neg (not_le.mpr h)

theorem floor_div_eq (positive : 0 < unit) (n : Int) :
    ⌊x / unit⌋ = n ↔ unit * n ≤ x ∧ x < unit * (n + 1) := by
  rw [Int.floor_eq_iff, le_div_iff₀' positive, div_lt_iff₀' positive]

theorem staysIn_iff (positive : 0 < unit) :
    StaysIn unit elapsed x ↔ ⌊x / unit⌋ = ⌊elapsed / unit⌋ := (floor_div_eq positive _).symm

/-- The comparison with a bound does not see how the fraction is cut off. -/
theorem truncated_div_lt (positive : 0 < unit) {bound : Int} (large : 0 < bound) :
    truncated (x / unit) < bound ↔ x < unit * bound := by
  have real : (0 : ℚ) < bound := by exact_mod_cast large
  by_cases sign : 0 ≤ x / unit
  · rw [truncated_of_nonneg sign, Int.floor_lt, div_lt_iff₀' positive]
  · have negative : x / unit < 0 := not_le.mp sign
    rw [truncated_of_neg negative]
    constructor
    · intro _
      have : x < 0 := by
        by_contra nonneg
        exact sign (div_nonneg (not_lt.mp nonneg) positive.le)
      have := mul_pos positive real
      linarith
    · intro _
      have : ⌈x / unit⌉ ≤ 0 := Int.ceil_le.mpr (by exact_mod_cast negative.le)
      omega

end Floors

/-- The age the branches of `toString` take for a difference. -/
def shownAge (difference : ℚ) : Age :=
  if difference < 60 * 60 then .minutes (truncated (difference / 60))
  else if difference < 60 * 60 * 24 then .hours ⌊difference / (60 * 60)⌋
  else .days ⌊difference / (60 * 60 * 24)⌋

theorem toString_eq (now : ℚ) (secondsFromGMT : Int) (date : ℚ) :
    Date.toString now secondsFromGMT date =
      (shownAge (Date.currentDate now secondsFromGMT - date)).text := by
  generalize equal : Date.currentDate now secondsFromGMT - date = difference
  have hour : truncated (difference / 60) < 60 ↔ difference < 60 * 60 :=
    (truncated_div_lt (by norm_num) (by norm_num)).trans (by norm_num)
  have day : truncated (difference / (60 * 60)) < 24 ↔ difference < 60 * 60 * 24 :=
    (truncated_div_lt (by norm_num) (by norm_num)).trans (by norm_num)
  simp only [Date.toString, shownAge, equal]
  by_cases short : difference < 60 * 60
  · rw [if_pos (hour.mpr short), if_pos short]
  · have nonneg : 0 ≤ difference := by linarith
    rw [if_neg (mt hour.mp short), if_neg short, apply_ite Age.text,
      truncated_of_nonneg (by positivity), truncated_of_nonneg (by positivity)]
    by_cases today : difference < 60 * 60 * 24
    · have hours := day.mpr today
      rw [truncated_of_nonneg (by positivity)] at hours
      rw [if_pos hours, if_pos today]
    · have hours := mt day.mp today
      rw [truncated_of_nonneg (by positivity)] at hours
      rw [if_neg hours, if_neg today]

/-- Without an offset the text is right. -/
theorem shownAge_eq_ageOf {elapsed : ℚ} (nonneg : 0 ≤ elapsed) :
    shownAge elapsed = ageOf elapsed := by
  rw [shownAge, ageOf, truncated_of_nonneg (by positivity)]

section Shifted

variable {elapsed shifted : ℚ}

theorem shownAge_minutes {n : Int} : shownAge shifted = .minutes n ↔
    shifted < 60 * 60 ∧ truncated (shifted / 60) = n := by
  unfold shownAge
  split_ifs <;> simp_all

theorem shownAge_hours {n : Int} : shownAge shifted = .hours n ↔
    60 * 60 ≤ shifted ∧ shifted < 60 * 60 * 24 ∧ ⌊shifted / (60 * 60)⌋ = n := by
  unfold shownAge
  split_ifs <;> simp_all

theorem shownAge_days {n : Int} : shownAge shifted = .days n ↔
    60 * 60 * 24 ≤ shifted ∧ ⌊shifted / (60 * 60 * 24)⌋ = n := by
  unfold shownAge
  split_ifs with short today
  · simp_all
    intro _
    linarith
  · simp_all
  · simp_all

/-- A negative difference is shown in minutes, and its fraction is cut off upwards. -/
theorem minutes_of_neg (negative : shifted < 0) (nonneg : 0 ≤ elapsed) :
    truncated (shifted / 60) = ⌊elapsed / 60⌋ ↔ elapsed < 60 ∧ -60 < shifted := by
  have full : 0 ≤ ⌊elapsed / 60⌋ := Int.floor_nonneg.mpr (by positivity)
  have cut : ⌈shifted / 60⌉ ≤ 0 := Int.ceil_le.mpr (by push_cast; linarith)
  rw [truncated_of_neg (by linarith)]
  have first : ⌊elapsed / 60⌋ = 0 ↔ elapsed < 60 := by
    rw [floor_div_eq (by norm_num)]
    constructor
    · intro within
      have := within.2
      norm_num at this
      exact this
    · intro below
      norm_num
      exact ⟨nonneg, below⟩
  have last : ⌈shifted / 60⌉ = 0 ↔ -60 < shifted := by
    rw [Int.ceil_eq_iff]
    constructor
    · intro within
      have := within.1
      push_cast at this
      linarith
    · intro above
      push_cast
      constructor <;> linarith
  rw [← first, ← last]
  omega

theorem hidden_minutes (nonneg : 0 ≤ elapsed) (short : elapsed < 60 * 60) :
    shownAge shifted = .minutes ⌊elapsed / 60⌋ ↔
      StaysIn 60 elapsed shifted ∨ (elapsed < 60 ∧ -60 < shifted ∧ shifted < 0) := by
  have full : 0 ≤ ⌊elapsed / 60⌋ := Int.floor_nonneg.mpr (by positivity)
  have bounded : ⌊elapsed / 60⌋ < 60 := Int.floor_lt.mpr (by push_cast; linarith)
  rw [shownAge_minutes]
  by_cases sign : 0 ≤ shifted
  · rw [truncated_of_nonneg (by positivity), staysIn_iff (by norm_num)]
    constructor
    · rintro ⟨-, same⟩
      exact .inl same
    · rintro (same | ⟨-, -, negative⟩)
      · have := (floor_div_eq (by norm_num) _).mp same
        have : (⌊elapsed / 60⌋ : ℚ) + 1 ≤ 60 := by exact_mod_cast bounded
        exact ⟨by linarith, same⟩
      · exact absurd negative (not_lt.mpr sign)
  · have negative : shifted < 0 := not_le.mp sign
    rw [minutes_of_neg negative nonneg]
    constructor
    · rintro ⟨-, below, above⟩
      exact .inr ⟨below, above, negative⟩
    · rintro (⟨lower, -⟩ | ⟨below, above, -⟩)
      · have : (0 : ℚ) ≤ ⌊elapsed / 60⌋ := by exact_mod_cast full
        linarith
      · exact ⟨by linarith, below, above⟩

theorem hidden_hours (long : 60 * 60 ≤ elapsed) (today : elapsed < 60 * 60 * 24) :
    shownAge shifted = .hours ⌊elapsed / (60 * 60)⌋ ↔ StaysIn (60 * 60) elapsed shifted := by
  have least : 1 ≤ ⌊elapsed / (60 * 60)⌋ := Int.le_floor.mpr (by push_cast; linarith)
  have bounded : ⌊elapsed / (60 * 60)⌋ < 24 := Int.floor_lt.mpr (by push_cast; linarith)
  rw [shownAge_hours, staysIn_iff (by norm_num)]
  constructor
  · rintro ⟨-, -, same⟩
    exact same
  · intro same
    have := (floor_div_eq (by norm_num) _).mp same
    have : (1 : ℚ) ≤ ⌊elapsed / (60 * 60)⌋ := by exact_mod_cast least
    have : (⌊elapsed / (60 * 60)⌋ : ℚ) + 1 ≤ 24 := by exact_mod_cast bounded
    exact ⟨by linarith, by linarith, same⟩

theorem hidden_days (old : 60 * 60 * 24 ≤ elapsed) :
    shownAge shifted = .days ⌊elapsed / (60 * 60 * 24)⌋ ↔
      StaysIn (60 * 60 * 24) elapsed shifted := by
  have least : 1 ≤ ⌊elapsed / (60 * 60 * 24)⌋ := Int.le_floor.mpr (by push_cast; linarith)
  rw [shownAge_days, staysIn_iff (by norm_num)]
  constructor
  · rintro ⟨-, same⟩
    exact same
  · intro same
    have := (floor_div_eq (by norm_num) _).mp same
    have : (1 : ℚ) ≤ ⌊elapsed / (60 * 60 * 24)⌋ := by exact_mod_cast least
    exact ⟨by linarith, same⟩

end Shifted

theorem shownAge_eq_iff_hidden {elapsed : ℚ} (nonneg : 0 ≤ elapsed) (secondsFromGMT : Int) :
    shownAge (elapsed + secondsFromGMT) = ageOf elapsed ↔ Hidden elapsed secondsFromGMT := by
  unfold ageOf Hidden
  by_cases short : elapsed < 60 * 60
  · rw [if_pos short, if_pos short]
    exact hidden_minutes nonneg short
  · rw [if_neg short, if_neg short]
    by_cases today : elapsed < 60 * 60 * 24
    · rw [if_pos today, if_pos today]
      exact hidden_hours (not_lt.mp short) today
    · rw [if_neg today, if_neg today]
      exact hidden_days (not_lt.mp today)

/-- The text is the age of an article exactly when the time zone of the device is hidden
at that age. Devices with hidden time zones agree. -/
theorem toString_eq_age_iff (now date : ℚ) (published : date ≤ now) :
    (∀ secondsFromGMT, Date.toString now secondsFromGMT date = (ageOf (now - date)).text ↔
      Hidden (now - date) secondsFromGMT) ∧
    ∀ secondsFromGMT secondsFromGMT', Hidden (now - date) secondsFromGMT →
      Hidden (now - date) secondsFromGMT' →
      Date.toString now secondsFromGMT date = Date.toString now secondsFromGMT' date := by
  have shown : ∀ secondsFromGMT,
      Date.toString now secondsFromGMT date = (ageOf (now - date)).text ↔
        Hidden (now - date) secondsFromGMT := by
    intro secondsFromGMT
    rw [toString_eq, Age.text_injective.eq_iff, ← shownAge_eq_iff_hidden (sub_nonneg.mpr published),
      Date.currentDate, add_sub_right_comm]
  constructor
  · exact shown
  · intro secondsFromGMT secondsFromGMT' hidden hidden'
    rw [(shown _).mpr hidden, (shown _).mpr hidden']

theorem toString_eq_age_quarter_past :
    (Date.toString 5400 900 0 = "1 hours ago" ∧
      Date.toString 5400 900 0 = Date.toString 5400 0 0) := by
  have hidden : Hidden (5400 - 0) 900 ∧ Hidden (5400 - 0) 0 := by
    norm_num [Hidden, StaysIn]
  have age : (ageOf (5400 - 0)).text = "1 hours ago" := by
    norm_num [ageOf]
    decide
  obtain ⟨shown, agree⟩ := toString_eq_age_iff 5400 0 (by norm_num)
  exact ⟨((shown 900).mpr hidden.1).trans age, agree 900 0 hidden.1 hidden.2⟩

/-- Seven hours east of Greenwich, an article published now is seven hours old. -/
theorem toString_east :
    ¬ ∀ (now date : ℚ) (secondsFromGMT : Int), date ≤ now →
      Date.toString now secondsFromGMT date = (ageOf (now - date)).text := by
  intro all
  have shown : Date.toString 0 25200 0 = (Age.hours 7).text := by
    norm_num [toString_eq, Date.currentDate, shownAge]
  have age : ageOf (0 - 0) = .minutes 0 := by
    norm_num [ageOf]
  have same := all 0 0 25200 (le_refl 0)
  rw [shown, age] at same
  exact absurd same (by decide)

end NewsReader
