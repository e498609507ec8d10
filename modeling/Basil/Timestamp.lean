import Mathlib.Algebra.Order.BigOperators.Group.List
import Mathlib.Tactic.IntervalCases

/-! # Timestamps of audit lines

The calendar is the model's own: the days of a date are counted month by month from year 0. -/

namespace Basil.Audit

structure CivilTime where
  year : Nat
  month : Nat
  day : Nat
  hour : Nat
  min : Nat
  sec : Nat

def civilTime (secs : Nat) : CivilTime :=
  let days := secs / 86400
  let secsOfDay := secs % 86400
  let z := days + 719468
  let era := z / 146097
  let doe := z % 146097
  let yoe := (doe - doe / 1460 + doe / 36524 - doe / 146096) / 365
  let y := yoe + era * 400
  let doy := doe - (365 * yoe + yoe / 4 - yoe / 100)
  let mp := (5 * doy + 2) / 153
  let month := if mp < 10 then mp + 3 else mp - 9
  { year := if month ≤ 2 then y + 1 else y
    month
    day := doy - (153 * mp + 2) / 5 + 1
    hour := secsOfDay / 3600
    min := secsOfDay % 3600 / 60
    sec := secsOfDay % 60 }

/-- A number as `format!` prints it under `{:0width}`. -/
def padded (width n : Nat) : List Char := (Nat.toDigits 10 n).leftpad width '0'

def CivilTime.text (t : CivilTime) : List Char :=
  padded 4 t.year ++ '-' :: (padded 2 t.month ++ '-' :: (padded 2 t.day ++ 'T' ::
    (padded 2 t.hour ++ ':' :: (padded 2 t.min ++ ':' :: (padded 2 t.sec ++ ['Z'])))))

-- No value passes 2^64 and no difference is negative: the source's arithmetic is that of `Nat`.
def formatRfc3339 (secs : UInt64) : String := String.ofList (civilTime secs.toNat).text

/-! ### The calendar -/

def februaryDays (year : Nat) : Nat :=
  if year % 4 = 0 ∧ (year % 100 ≠ 0 ∨ year % 400 = 0) then 29 else 28

def monthLengths (year : Nat) : List Nat :=
  [31, februaryDays year, 31, 30, 31, 30, 31, 31, 30, 31, 30, 31]

def daysBefore (year : Nat) : Nat := ((List.range year).map fun y => (monthLengths y).sum).sum

namespace CivilTime

def dayNumber (t : CivilTime) : Nat :=
  daysBefore t.year + ((monthLengths t.year).take (t.month - 1)).sum + (t.day - 1)

def seconds (t : CivilTime) : Nat := t.dayNumber * 86400 + t.hour * 3600 + t.min * 60 + t.sec

structure Valid (t : CivilTime) : Prop where
  month : 1 ≤ t.month ∧ t.month ≤ 12
  day : 1 ≤ t.day ∧ t.day ≤ (monthLengths t.year).getD (t.month - 1) 0
  hour : t.hour < 24
  min : t.min < 60
  sec : t.sec < 60

def epoch : CivilTime := ⟨1970, 1, 1, 0, 0, 0⟩

end CivilTime

open CivilTime

theorem sum_monthLengths (year : Nat) : (monthLengths year).sum = 337 + februaryDays year := by
  simp [monthLengths]
  omega

theorem daysBefore_succ (year : Nat) :
    daysBefore (year + 1) = daysBefore year + (337 + februaryDays year) := by
  simp [daysBefore, sum_monthLengths, List.range_succ]

theorem daysBefore_eq (year : Nat) :
    daysBefore year = 365 * year + (year + 3) / 4 + (year + 399) / 400 - (year + 99) / 100 := by
  induction year with
  | zero => rfl
  | succ year ih =>
    rw [daysBefore_succ, ih, februaryDays]
    split <;> omega

/-- Day `u` of year `k` of the four-year cycle `q` of the century `c`. Only the last year of a cycle
has a day 365, and in the last cycle only the last century's. -/
structure DayOfEra (doe c q k u : Nat) : Prop where
  century : c < 4
  cycle : q < 25
  year : k < 4
  day : u < 365 ∨ u = 365 ∧ k = 3 ∧ (q < 24 ∨ c = 3)
  eq : doe = 36524 * c + 1461 * q + 365 * k + u

theorem exists_dayOfEra {doe : Nat} (h : doe < 146097) : ∃ c q k u, DayOfEra doe c q k u := by
  obtain ⟨c, r, hc, hr, rfl⟩ : ∃ c r, c < 4 ∧ (r < 36524 ∨ r = 36524 ∧ c = 3) ∧ doe = 36524 * c + r :=
    ⟨min (doe / 36524) 3, doe - 36524 * min (doe / 36524) 3, by omega, by omega, by omega⟩
  obtain ⟨k, u, hk, hu, hrest⟩ : ∃ k u, k < 4 ∧ (u < 365 ∨ u = 365 ∧ k = 3) ∧
      r % 1461 = 365 * k + u :=
    ⟨min (r % 1461 / 365) 3, r % 1461 - 365 * min (r % 1461 / 365) 3, by omega, by omega, by omega⟩
  refine ⟨c, r / 1461, k, u, hc, ?_, hk, ?_, ?_⟩ <;> omega

namespace DayOfEra

variable {doe c q k u : Nat} (h : DayOfEra doe c q k u)

include h

theorem yoe_eq :
    (doe - doe / 1460 + doe / 36524 - doe / 146096) / 365 = 100 * c + 4 * q + k := by
  obtain ⟨hc, hq, hk, hu, hdoe⟩ := h
  have hleap : doe / 1460 = 25 * c + q + (24 * c + q + 365 * k + u) / 1460 := by omega
  rcases hu with hu | ⟨rfl, rfl, hu⟩
  · have hcentury : doe / 36524 = c := by omega
    have hera : doe / 146096 = 0 := by omega
    omega
  · have hera : doe / 146096 = doe / 36524 - c := by omega
    omega

theorem daysBefore_march (era : Nat) :
    daysBefore (100 * c + 4 * q + k + era * 400 + 1) + u = 146097 * era + doe + 366 := by
  obtain ⟨hc, hq, hk, -, rfl⟩ := h
  rw [daysBefore_eq]
  have hfour : (100 * c + 4 * q + k + era * 400 + 1 + 3) / 4 = 25 * c + q + 100 * era + 1 := by omega
  have hcentury : (100 * c + 4 * q + k + era * 400 + 1 + 99) / 100 = c + 4 * era + 1 := by omega
  have hera : (100 * c + 4 * q + k + era * 400 + 1 + 399) / 400 = era + 1 := by omega
  omega

theorem day_lt (era : Nat) : u < 337 + februaryDays (100 * c + 4 * q + k + era * 400 + 1) := by
  obtain ⟨-, hq, -, hu, -⟩ := h
  unfold februaryDays
  split <;> omega

end DayOfEra

theorem civilTime_date (secs : Nat) : let t := civilTime secs
    (1 ≤ t.month ∧ t.month ≤ 12) ∧
      (1 ≤ t.day ∧ t.day ≤ (monthLengths t.year).getD (t.month - 1) 0) ∧
      t.dayNumber = 719528 + secs / 86400 := by
  obtain ⟨z, hz⟩ : ∃ z, z = secs / 86400 + 719468 := ⟨_, rfl⟩
  obtain ⟨c, q, k, u, h⟩ := exists_dayOfEra (Nat.mod_lt z (by decide : 0 < 146097))
  have hdays := h.daysBefore_march (z / 146097)
  have hlt := h.day_lt (z / 146097)
  obtain ⟨-, hq, hk, hu, hdoe⟩ := id h
  have hfour : (100 * c + 4 * q + k) / 4 = 25 * c + q := by omega
  have hcentury : (100 * c + 4 * q + k) / 100 = c := by omega
  have hdoy : z % 146097 - (365 * (100 * c + 4 * q + k) + (25 * c + q) - c) = u := by omega
  -- counted from March, the year ends with its February
  obtain ⟨mp, hmp⟩ : ∃ mp, mp = (5 * u + 2) / 153 := ⟨_, rfl⟩
  have hmonths : mp < 12 := by omega
  rw [Nat.div_add_mod] at hdays
  simp only [civilTime, ← hz, h.yoe_eq, hfour, hcentury, hdoy, ← hmp, dayNumber]
  generalize 100 * c + 4 * q + k + z / 146097 * 400 = y at *
  rw [daysBefore_succ] at hdays
  clear hdoe hdoy hfour hcentury
  interval_cases mp <;> simp [monthLengths, daysBefore_succ] <;> omega

theorem civilTime_valid (secs : Nat) : (civilTime secs).Valid := by
  obtain ⟨hmonth, hday, -⟩ := civilTime_date secs
  refine ⟨hmonth, hday, ?_, ?_, ?_⟩
  all_goals
    simp only [civilTime]
    omega

theorem seconds_civilTime (secs : Nat) : (civilTime secs).seconds = epoch.seconds + secs := by
  have hepoch : epoch.dayNumber = 719528 := by simp [dayNumber, epoch, daysBefore_eq]
  rw [seconds, seconds, (civilTime_date secs).2.2, hepoch]
  simp only [civilTime, epoch]
  omega

/-! ### The order of the texts -/

theorem padded_succ (width n : Nat) :
    padded (width + 2) n = padded (width + 1) (n / 10) ++ [(n % 10).digitChar] := by
  rcases Nat.lt_or_ge n 10 with h | h
  · simp [padded, Nat.toDigits_of_lt_base h, Nat.div_eq_of_lt h, Nat.mod_eq_of_lt h, List.leftpad,
      List.replicate_succ']
  · simp [padded, Nat.toDigits_of_base_le (by decide) h, List.leftpad]

theorem digitChar_lt : ∀ m < 10, ∀ n < m, n.digitChar < m.digitChar := by decide

theorem padded_lt {width n m : Nat} (hm : m < 10 ^ (width + 1)) (h : n < m) (x y : List Char) :
    padded (width + 1) n ++ x < padded (width + 1) m ++ y := by
  induction width generalizing n m x y with
  | zero =>
    have hm : m < 10 := hm
    simp only [padded, Nat.toDigits_of_lt_base hm, Nat.toDigits_of_lt_base (h.trans hm)]
    exact .rel (digitChar_lt m hm n h)
  | succ width ih =>
    rw [padded_succ, padded_succ, List.append_assoc, List.append_assoc]
    rcases Nat.lt_or_eq_of_le (Nat.div_le_div_right h.le : n / 10 ≤ m / 10) with hlt | heq
    · exact ih (by omega) hlt _ _
    · rw [heq]
      exact List.append_left_lt (.rel (digitChar_lt _ (by omega) _ (by omega)))

/-- Texts whose first fields are in order, and whose rests are when these fields agree. -/
theorem field_lt {width n m : Nat} {x y : List Char} (c : Char) (hm : m < 10 ^ (width + 1))
    (hle : n ≤ m) (h : n = m → x < y) :
    padded (width + 1) n ++ c :: x < padded (width + 1) m ++ c :: y := by
  rcases Nat.lt_or_eq_of_le hle with hlt | rfl
  · exact padded_lt hm hlt _ _
  · exact List.append_left_lt (.cons (h rfl))

theorem daysBefore_mono : Monotone daysBefore :=
  monotone_nat_of_le_succ fun year => daysBefore_succ year ▸ Nat.le_add_right ..

theorem take_mono (year : Nat) {a b : Nat} (h : a ≤ b) :
    ((monthLengths year).take a).sum ≤ ((monthLengths year).take b).sum :=
  (List.take_sublist_take_left h).sum_le_sum fun _ _ => Nat.zero_le _

theorem CivilTime.Valid.day_bounds {t : CivilTime} (h : t.Valid) : t.day ≤ 31 ∧
    t.dayNumber < daysBefore t.year + ((monthLengths t.year).take t.month).sum := by
  obtain ⟨⟨hone, htwelve⟩, ⟨hday, hlast⟩, -⟩ := h
  have hfeb : februaryDays t.year ≤ 29 := by
    unfold februaryDays
    split <;> omega
  obtain ⟨year, month, day⟩ := t
  simp only [dayNumber] at *
  interval_cases month <;> simp [monthLengths] at * <;> omega

theorem text_lt {a b : CivilTime} (ha : a.Valid) (hb : b.Valid) (hlast : b.year ≤ 9999)
    (h : a.seconds < b.seconds) : a.text < b.text := by
  obtain ⟨hlong, hday⟩ := hb.day_bounds
  obtain ⟨-, -, hhour, hmin, hsec⟩ := ha
  obtain ⟨⟨-, hdec⟩, ⟨hfirst, -⟩, hhour', hmin', hsec'⟩ := hb
  simp only [seconds] at h
  have hdays : a.dayNumber ≤ b.dayNumber := by omega
  have hyear : a.year ≤ b.year := by
    by_contra hlater
    have hnext : daysBefore (b.year + 1) ≤ _ := daysBefore_mono (not_le.mp hlater)
    have hmonths : _ ≤ (monthLengths b.year).sum := take_mono _ hdec
    rw [daysBefore_succ, ← sum_monthLengths] at hnext
    simp only [dayNumber] at hdays hday
    omega
  refine field_lt '-' (by omega) hyear fun hyears => ?_
  have hmonth : a.month ≤ b.month := by
    by_contra hlater
    have hmonths := take_mono b.year (Nat.le_sub_one_of_lt (not_le.mp hlater))
    simp only [dayNumber, hyears] at hdays hday
    omega
  refine field_lt '-' (by omega) hmonth fun hmonths => ?_
  simp only [dayNumber, hyears, hmonths] at h
  refine field_lt 'T' (by omega) (by omega) fun hdays => ?_
  refine field_lt ':' (by omega) (by omega) fun hhours => ?_
  refine field_lt ':' (by omega) (by omega) fun hmins => ?_
  exact field_lt 'Z' (by omega) (by omega) fun hsecs => by omega

theorem format_rfc3339_calendar :
    (∀ secs : UInt64, ∃ t : CivilTime, formatRfc3339 secs = String.ofList t.text ∧ t.Valid ∧
      t.seconds = epoch.seconds + secs.toNat) ∧
    ∀ a b : UInt64, a < b → (civilTime b.toNat).year ≤ 9999 →
      formatRfc3339 a < formatRfc3339 b := by
  refine ⟨fun secs => ⟨_, rfl, civilTime_valid _, seconds_civilTime _⟩, fun a b h hyear => ?_⟩
  simp only [formatRfc3339, String.lt_iff, String.toList_ofList]
  refine text_lt (civilTime_valid _) (civilTime_valid _) hyear ?_
  rw [seconds_civilTime, seconds_civilTime]
  exact Nat.add_lt_add_left (UInt64.lt_iff_toNat_lt.mp h) _

end Basil.Audit
