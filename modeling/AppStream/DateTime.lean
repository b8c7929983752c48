import AppStream.Calendar
import AppStream.Decimal

namespace AppStream

/-- 0001-01-01T00:00:00Z and 9999-12-31T23:59:59Z as Unix times, the ends of `GDateTime`. -/
def minUnix : Int := -62135596800

def maxUnix : Int := 253402300799

/-- Days from 0000-03-01 to 1970-01-01. -/
def unixEpochDays : Nat := 719468

/-- A UTC `GDateTime` with whole seconds; GLib builds none outside years 1 to 9999. -/
@[ext] structure GDateTime where
  unix : Int
  inRange : minUnix ≤ unix ∧ unix ≤ maxUnix

/-- The day of `dt` counted from 0000-03-01. -/
def GDateTime.days (dt : GDateTime) : Nat := (dt.unix / 86400 + unixEpochDays).toNat

def GDateTime.secondOfDay (dt : GDateTime) : Nat := (dt.unix % 86400).toNat

def gDateTimeNewFromUnixUtc (t : Int) : Option GDateTime :=
  if h : minUnix ≤ t ∧ t ≤ maxUnix then some ⟨t, h⟩ else none

def gDateTimeToUnix (dt : GDateTime) : Int := dt.unix

theorem unix_of_civil {c : CivilDate} (hv : c.Valid) (h1 : 1 ≤ c.year) (h2 : c.year ≤ 9999)
    {hour minute second : Nat} (hh : hour < 24) (hm : minute < 60) (hs : second < 60) :
    minUnix ≤ ((daysOfCivil c : Int) - unixEpochDays) * 86400 + hour * 3600 + minute * 60 + second ∧
      ((daysOfCivil c : Int) - unixEpochDays) * 86400 + hour * 3600 + minute * 60 + second ≤ maxUnix := by
  have := daysOfCivil_bounds hv h1 h2
  simp only [minUnix, maxUnix, unixEpochDays]
  omega

/-- `g_date_time_new_utc` with whole seconds: `NULL` for a field out of range. -/
def gDateTimeNewUtc (c : CivilDate) (hour minute second : Nat) : Option GDateTime :=
  if h : c.Valid ∧ 1 ≤ c.year ∧ c.year ≤ 9999 ∧ hour < 24 ∧ minute < 60 ∧ second < 60 then
    some ⟨((daysOfCivil c : Int) - unixEpochDays) * 86400 + hour * 3600 + minute * 60 + second,
      unix_of_civil h.1 h.2.1 h.2.2.1 h.2.2.2.1 h.2.2.2.2.1 h.2.2.2.2.2⟩
  else none

/-- `%C%y-%m-%dT%H:%M:%S` followed by `Z`, what `g_date_time_format_iso8601` writes for a UTC
value without fractional seconds. -/
def iso8601Chars (dt : GDateTime) : List Char :=
  let c := civilOfDays dt.days
  let s := dt.secondOfDay
  twoDigits (c.year / 100) ++ twoDigits (c.year % 100) ++ ['-'] ++ twoDigits c.month ++ ['-'] ++
    twoDigits c.day ++ ['T'] ++ twoDigits (s / 3600) ++ [':'] ++ twoDigits (s / 60 % 60) ++ [':'] ++
    twoDigits (s % 60) ++ ['Z']

/-- `g_return_val_if_fail (datetime != NULL, NULL)` makes a `NULL` argument give `NULL`. -/
def gDateTimeFormatIso8601 : Option GDateTime → Option String
  | none => none
  | some dt => some (String.mk (iso8601Chars dt))

/-- A fixed-width run of ASCII digits. -/
def digitField (cs : List Char) : Option Nat :=
  if cs.all isCDigit then some (digitsValue cs) else none

/-- Modelled from the spec: `as_iso8601_to_datetime` (as-utils.c, not among the sources)
parses an ISO-8601 date. The model accepts the complete UTC form `YYYY-MM-DDTHH:MM:SSZ`,
which `g_date_time_format_iso8601` writes, and the date-only form `YYYY-MM-DD`, building the
value with `g_date_time_new_utc`; `NULL` and every other text give `NULL`. -/
def asIso8601ToDatetime : Option String → Option GDateTime
  | none => none
  | some s =>
    match s.toList with
    | y1 :: y2 :: y3 :: y4 :: '-' :: m1 :: m2 :: '-' :: d1 :: d2 :: rest => do
      let year ← digitField [y1, y2, y3, y4]
      let month ← digitField [m1, m2]
      let day ← digitField [d1, d2]
      match rest with
      | [] => gDateTimeNewUtc ⟨year, month, day⟩ 0 0 0
      | ['T', h1, h2, ':', i1, i2, ':', s1, s2, 'Z'] => do
        let hour ← digitField [h1, h2]
        let minute ← digitField [i1, i2]
        let second ← digitField [s1, s2]
        gDateTimeNewUtc ⟨year, month, day⟩ hour minute second
      | _ => none
    | _ => none

@[simp] theorem asIso8601ToDatetime_none : asIso8601ToDatetime none = none := rfl

theorem GDateTime.days_bounds (dt : GDateTime) : 306 ≤ dt.days ∧ dt.days ≤ 3652364 := by
  have := dt.inRange
  simp only [GDateTime.days, minUnix, maxUnix, unixEpochDays] at *
  omega

theorem GDateTime.secondOfDay_lt (dt : GDateTime) : dt.secondOfDay < 86400 := by
  simp only [GDateTime.secondOfDay]
  omega

theorem GDateTime.unix_eq (dt : GDateTime) :
    dt.unix = ((dt.days : Int) - unixEpochDays) * 86400 + dt.secondOfDay := by
  have := dt.inRange
  simp only [GDateTime.days, GDateTime.secondOfDay, minUnix, maxUnix, unixEpochDays] at *
  omega

theorem digitField_two (n : Nat) :
    digitField [digitChar (n / 10 % 10), digitChar (n % 10)] = some (n % 100) := by
  have h1 := Nat.mod_lt (n / 10) (show 10 > 0 by omega)
  have h2 := Nat.mod_lt n (show 10 > 0 by omega)
  simp only [digitField, List.all_cons, List.all_nil, isCDigit_digitChar h1,
    isCDigit_digitChar h2, Bool.and_true, if_true, Option.some.injEq]
  rw [show [digitChar (n / 10 % 10), digitChar (n % 10)] = [] ++ [digitChar (n / 10 % 10)] ++
    [digitChar (n % 10)] from rfl, digitsValue_append_digit _ h2, digitsValue_append_digit _ h1]
  simp only [digitsValue, List.foldl_nil]
  omega

theorem digitField_four {y : Nat} (h : y < 10000) :
    digitField [digitChar (y / 100 / 10 % 10), digitChar (y / 100 % 10),
      digitChar (y % 100 / 10 % 10), digitChar (y % 100 % 10)] = some y := by
  have h1 := Nat.mod_lt (y / 100 / 10) (show 10 > 0 by omega)
  have h2 := Nat.mod_lt (y / 100) (show 10 > 0 by omega)
  have h3 := Nat.mod_lt (y % 100 / 10) (show 10 > 0 by omega)
  have h4 := Nat.mod_lt (y % 100) (show 10 > 0 by omega)
  simp only [digitField, List.all_cons, List.all_nil, isCDigit_digitChar h1, isCDigit_digitChar h2, isCDigit_digitChar h3, isCDigit_digitChar h4,
    Bool.and_true, if_true, Option.some.injEq]
  rw [show [digitChar (y / 100 / 10 % 10), digitChar (y / 100 % 10), digitChar (y % 100 / 10 % 10),
      digitChar (y % 100 % 10)] = [] ++ [digitChar (y / 100 / 10 % 10)] ++ [digitChar (y / 100 % 10)] ++
      [digitChar (y % 100 / 10 % 10)] ++ [digitChar (y % 100 % 10)] from rfl,
    digitsValue_append_digit _ h4, digitsValue_append_digit _ h3, digitsValue_append_digit _ h2,
    digitsValue_append_digit _ h1]
  simp only [digitsValue, List.foldl_nil]
  omega

theorem gDateTimeNewUtc_civilOfDays (dt : GDateTime) :
    gDateTimeNewUtc (civilOfDays dt.days) (dt.secondOfDay / 3600) (dt.secondOfDay / 60 % 60)
      (dt.secondOfDay % 60) = some dt := by
  have hb := dt.days_bounds
  have hy := civilOfDays_year_bounds hb.1 hb.2
  have hs := dt.secondOfDay_lt
  have hu := dt.unix_eq
  have hc : (civilOfDays dt.days).Valid ∧ 1 ≤ (civilOfDays dt.days).year ∧
      (civilOfDays dt.days).year ≤ 9999 ∧ dt.secondOfDay / 3600 < 24 ∧
      dt.secondOfDay / 60 % 60 < 60 ∧ dt.secondOfDay % 60 < 60 :=
    ⟨civilOfDays_valid _, hy.1, hy.2, by omega, by omega, by omega⟩
  simp only [gDateTimeNewUtc, dif_pos hc, daysOfCivil_civilOfDays, Option.some.injEq]
  ext
  simp only []
  omega

/-- The text GLib writes for any representable instant reads back as that instant. -/
theorem asIso8601ToDatetime_format (dt : GDateTime) :
    asIso8601ToDatetime (gDateTimeFormatIso8601 (some dt)) = some dt := by
  have hb := dt.days_bounds
  have hy := civilOfDays_year_bounds hb.1 hb.2
  obtain ⟨_, hm, _, hd⟩ := civilOfDays_valid dt.days
  have hdl := daysInMonth_le (civilOfDays dt.days).year (civilOfDays dt.days).month
  have hs := dt.secondOfDay_lt
  simp only [gDateTimeFormatIso8601, iso8601Chars, twoDigits, List.cons_append, List.nil_append,
    asIso8601ToDatetime, String.toList, digitField_two,
    digitField_four (show (civilOfDays dt.days).year < 10000 by omega),
    Option.bind_eq_bind, Option.some_bind]
  rw [Nat.mod_eq_of_lt (show (civilOfDays dt.days).month < 100 by omega),
    Nat.mod_eq_of_lt (show (civilOfDays dt.days).day < 100 by omega),
    Nat.mod_eq_of_lt (show dt.secondOfDay / 3600 < 100 by omega),
    Nat.mod_eq_of_lt (show dt.secondOfDay / 60 % 60 < 100 by omega),
    Nat.mod_eq_of_lt (show dt.secondOfDay % 60 < 100 by omega)]
  exact gDateTimeNewUtc_civilOfDays dt

/-- GLib's ISO-8601 text for any representable instant is twenty characters long and reads back
as that instant. -/
theorem iso8601_text_round_trip (dt : GDateTime) :
    ∃ s, gDateTimeFormatIso8601 (some dt) = some s ∧ s.length = 20 ∧
      asIso8601ToDatetime (some s) = some dt :=
  ⟨_, rfl, by simp [iso8601Chars, twoDigits, String.length], asIso8601ToDatetime_format dt⟩

end AppStream
