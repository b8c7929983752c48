import AppStream.Release

namespace AppStream

/-- The `guint64` values whose `gint64` reading lies in `GDateTime`'s years 1 to 9999. -/
def InGDateTimeRange (t : UInt64) : Prop := minUnix ≤ gint64OfGuint64 t ∧ gint64OfGuint64 t ≤ maxUnix

instance : DecidablePred InGDateTimeRange := fun t =>
  inferInstanceAs (Decidable (minUnix ≤ gint64OfGuint64 t ∧ gint64OfGuint64 t ≤ maxUnix))

@[simp] theorem guint64OfInt_gint64OfGuint64 (t : UInt64) : guint64OfInt (gint64OfGuint64 t) = t := by
  obtain ⟨x⟩ := t
  have hx := x.isLt
  refine congrArg UInt64.mk (BitVec.eq_of_toNat_eq ?_)
  simp only [gint64OfGuint64, BitVec.toNat_ofInt, BitVec.toInt_eq_toNat_cond]
  split <;> omega

@[simp] theorem guint64OfInt_natCast (t : UInt64) : guint64OfInt (t.toNat : Int) = t := by
  obtain ⟨x⟩ := t
  exact congrArg UInt64.mk (BitVec.eq_of_toNat_eq (by simp [UInt64.toNat, Int.toNat_ofNat]))

/-- A `long` stored into a `guint64` and read back as a `gint64` is unchanged. -/
theorem gint64OfGuint64_guint64OfInt {i : Int} (h1 : longMin ≤ i) (h2 : i ≤ longMax) :
    gint64OfGuint64 (guint64OfInt i) = i := by
  simp only [gint64OfGuint64, guint64OfInt, BitVec.toInt_ofInt, Int.bmod_def]
  simp only [longMin, longMax] at h1 h2
  split <;> omega

theorem guint64OfInt_pos {i : Int} (h1 : longMin ≤ i) (h2 : i ≤ longMax) : 0 < guint64OfInt i ↔ i ≠ 0 := by
  simp only [guint64OfInt, UInt64.lt_def, BitVec.lt_def, BitVec.toNat_ofInt]
  simp only [longMin, longMax] at h1 h2
  constructor <;> intro h <;> simp_all <;> omega

theorem eq_zero_of_not_pos {t : UInt64} (h : ¬0 < t) : t = 0 :=
  UInt64.eq_of_toBitVec_eq (BitVec.eq_of_toNat_eq (by simpa [UInt64.lt_def, BitVec.lt_def] using h))

theorem gDateTimeNewFromUnixUtc_unix {u : Int} {dt : GDateTime}
    (h : gDateTimeNewFromUnixUtc u = some dt) : gDateTimeToUnix dt = u := by
  unfold gDateTimeNewFromUnixUtc at h
  split at h
  · cases Option.some.inj h; rfl
  · cases h

/-- Formatting then parsing gives back what `g_date_time_new_from_unix_utc` built, `NULL`
included. -/
theorem asIso8601ToDatetime_format_new (u : Int) :
    asIso8601ToDatetime (gDateTimeFormatIso8601 (gDateTimeNewFromUnixUtc u)) =
      gDateTimeNewFromUnixUtc u := by
  cases h : gDateTimeNewFromUnixUtc u with
  | none => rfl
  | some dt => exact asIso8601ToDatetime_format dt

theorem gDateTimeNewFromUnixUtc_eq_none {t : UInt64} (h : ¬InGDateTimeRange t) :
    gDateTimeNewFromUnixUtc (gint64OfGuint64 t) = none := dif_neg h

theorem gDateTimeNewFromUnixUtc_isSome {t : UInt64} (h : InGDateTimeRange t) :
    ∃ dt, gDateTimeNewFromUnixUtc (gint64OfGuint64 t) = some dt := ⟨_, dif_pos h⟩

/-- The decimal text catalog style writes reads back through `atol`, saturated at `LONG_MAX`. -/
theorem atol_timestamp (t : UInt64) :
    guint64OfInt (atol (String.mk (decimalDigits t.toNat))) =
      if t.toNat < 2 ^ 63 then t else guint64OfInt longMax := by
  rw [atol_decimalDigits]
  split
  · rw [min_eq_left (by simp only [longMax]; omega), guint64OfInt_natCast]
  · rw [min_eq_right (by simp only [longMax]; omega)]

/-- The instant catalog style reads back: the decimal text it writes for a positive instant,
through `atol`, and `0` when it writes nothing. -/
theorem catalogInstant_eq (t : UInt64) :
    (if 0 < t then guint64OfInt (atol (String.mk (decimalDigits t.toNat))) else 0) =
      if t.toNat < 2 ^ 63 then t else guint64OfInt longMax := by
  split
  · exact atol_timestamp t
  · simp [eq_zero_of_not_pos ‹_›]

/-- The instant GLib's date text for a `guint64` reads back as: the value itself when GLib can
represent it, nothing otherwise. -/
theorem formatIso8601_instant (t : UInt64) :
    (asIso8601ToDatetime (gDateTimeFormatIso8601 (gDateTimeNewFromUnixUtc (gint64OfGuint64 t)))).map
      (fun time => guint64OfInt (gDateTimeToUnix time)) = if InGDateTimeRange t then some t else none := by
  rw [asIso8601ToDatetime_format_new]
  by_cases hr : InGDateTimeRange t
  · obtain ⟨dt, hdt⟩ := gDateTimeNewFromUnixUtc_isSome hr
    simp [hr, hdt, gDateTimeNewFromUnixUtc_unix hdt]
  · simp [hr, gDateTimeNewFromUnixUtc_eq_none hr]

/-- An instant saturated at `LONG_MAX` is saturated already: catalog style loses it once. -/
theorem saturate_saturate (t : UInt64) :
    let s := if t.toNat < 2 ^ 63 then t else guint64OfInt longMax
    (if s.toNat < 2 ^ 63 then s else guint64OfInt longMax) = s := by
  have hmax : (guint64OfInt longMax).toNat < 2 ^ 63 := by decide
  dsimp only
  by_cases ht : t.toNat < 2 ^ 63
  · rw [if_pos ht, if_pos ht]
  · rw [if_neg ht, if_pos hmax]

/-- An instant replaced by 0 outside GLib's years is inside them already: any other style loses
it once. -/
theorem inGDateTimeRange_clip (t : UInt64) :
    let s := if InGDateTimeRange t then t else 0
    (if InGDateTimeRange s then s else 0) = s := by
  by_cases ht : InGDateTimeRange t <;> simp [ht]

/-- Replacing an instant GLib cannot represent by 0 leaves the date text written for it: none. -/
theorem formatIso8601_clip (t : UInt64) :
    let s := if InGDateTimeRange t then t else 0
    (if 0 < s then gDateTimeFormatIso8601 (gDateTimeNewFromUnixUtc (gint64OfGuint64 s)) else none) =
      if 0 < t then gDateTimeFormatIso8601 (gDateTimeNewFromUnixUtc (gint64OfGuint64 t)) else none := by
  by_cases ht : InGDateTimeRange t
  · simp [ht]
  · simp [ht, gDateTimeNewFromUnixUtc_eq_none ht, gDateTimeFormatIso8601]

section Setters

variable {Issue Artifact : Type} (release : AsRelease Issue Artifact)

/-- Whatever `as_release_set_timestamp` writes into `date` reads back as the stored instant. -/
theorem asReleaseSetTimestamp_date_parses (t : UInt64) :
    (asReleaseSetTimestamp release t).date.bind (fun d => asIso8601ToDatetime (some d)) =
      gDateTimeNewFromUnixUtc (gint64OfGuint64 t) := by
  have hp := asIso8601ToDatetime_format_new (gint64OfGuint64 t)
  simp only [asReleaseSetTimestamp]
  revert hp
  cases gDateTimeFormatIso8601 (gDateTimeNewFromUnixUtc (gint64OfGuint64 t)) <;> exact id

theorem asReleaseGetTimestampEol_setTimestampEol {t : UInt64} (ht : t ≠ 0) :
    asReleaseGetTimestampEol (asReleaseSetTimestampEol release t) =
      ((gDateTimeNewFromUnixUtc (gint64OfGuint64 t)).map fun _ => t).getD 0 := by
  simp only [asReleaseSetTimestampEol, ht, if_false, asReleaseGetTimestampEol]
  have hp := asIso8601ToDatetime_format_new (gint64OfGuint64 t)
  cases hn : gDateTimeNewFromUnixUtc (gint64OfGuint64 t) with
  | none => simp [hn, gDateTimeFormatIso8601]
  | some dt =>
    rw [hn] at hp
    simp only [gDateTimeFormatIso8601] at hp ⊢
    simp [hp, gDateTimeNewFromUnixUtc_unix hn]

theorem setTimestamp_views_agree (t : UInt64) (ht : 0 < t) :
    (InGDateTimeRange t →
      (∃ d dt, (asReleaseSetTimestamp release t).date = some d ∧
        asIso8601ToDatetime (some d) = some dt ∧ guint64OfInt (gDateTimeToUnix dt) = t) ∧
      (∀ r : AsRelease Issue Artifact,
        (asReleaseSetDate r (asReleaseSetTimestamp release t).date).timestamp = t) ∧
      (asReleaseSetTimestampEol release t).dateEol ≠ none ∧
      asReleaseGetTimestampEol (asReleaseSetTimestampEol release t) = t) ∧
    (¬InGDateTimeRange t →
      (asReleaseSetTimestamp release t).date = none ∧
      (asReleaseSetTimestampEol release t).dateEol = none ∧
      asReleaseGetTimestampEol (asReleaseSetTimestampEol release t) = 0) := by
  have ht0 : t ≠ 0 := by rintro rfl; exact absurd ht (by decide)
  have hparse := asReleaseSetTimestamp_date_parses release t
  have heol := asReleaseGetTimestampEol_setTimestampEol release ht0
  refine ⟨fun hr => ?_, fun hr => ?_⟩
  · obtain ⟨dt, hdt⟩ := gDateTimeNewFromUnixUtc_isSome hr
    have hunix : guint64OfInt (gDateTimeToUnix dt) = t := by
      rw [gDateTimeNewFromUnixUtc_unix hdt, guint64OfInt_gint64OfGuint64]
    obtain ⟨d, hd⟩ : ∃ d, (asReleaseSetTimestamp release t).date = some d := by
      simp [asReleaseSetTimestamp, hdt, gDateTimeFormatIso8601]
    rw [hd, hdt, Option.some_bind] at hparse
    refine ⟨⟨d, dt, hd, hparse, hunix⟩, ?_, ?_, by simpa [hdt] using heol⟩
    · intro r
      simp [hd, asReleaseSetDate, hparse, hunix]
    · simp [asReleaseSetTimestampEol, ht0, hdt, gDateTimeFormatIso8601]
  · have hn := gDateTimeNewFromUnixUtc_eq_none hr
    exact ⟨by simp [asReleaseSetTimestamp, hn, gDateTimeFormatIso8601],
      by simp [asReleaseSetTimestampEol, ht0, hn, gDateTimeFormatIso8601], by simpa [hn] using heol⟩

end Setters

theorem setTimestamp_views_agree_fresh :
    let release : AsRelease Unit Unit := asReleaseNew
    let t : UInt64 := 1700000000
    0 < t ∧
    (InGDateTimeRange t →
      (∃ d dt, (asReleaseSetTimestamp release t).date = some d ∧
        asIso8601ToDatetime (some d) = some dt ∧ guint64OfInt (gDateTimeToUnix dt) = t) ∧
      (∀ r : AsRelease Unit Unit,
        (asReleaseSetDate r (asReleaseSetTimestamp release t).date).timestamp = t) ∧
      (asReleaseSetTimestampEol release t).dateEol ≠ none ∧
      asReleaseGetTimestampEol (asReleaseSetTimestampEol release t) = t) ∧
    (¬InGDateTimeRange t →
      (asReleaseSetTimestamp release t).date = none ∧
      (asReleaseSetTimestampEol release t).dateEol = none ∧
      asReleaseGetTimestampEol (asReleaseSetTimestampEol release t) = 0) :=
  ⟨by decide, setTimestamp_views_agree (asReleaseNew : AsRelease Unit Unit) 1700000000 (by decide)⟩

/-- The first second of year 10000: `as_release_set_timestamp` leaves no date. -/
theorem setTimestamp_year_10000_no_date :
    0 < (253402300800 : UInt64) ∧
      (asReleaseSetTimestamp (asReleaseNew : AsRelease Unit Unit) 253402300800).date = none := by
  decide

end AppStream
