import Mathlib.Data.Rat.Floor
import QueryFrame.Macro.Interpolation
import QueryFrame.Proofs.Macro.Expansion
import QueryFrame.Proofs.Numeral

/-!
# Timestamps in macros

An instant is written as the whole microseconds since the epoch, rounded down, on both sides of the
epoch and within leap seconds. The microseconds of a leap second go on counting beyond its end, so
that a time filter from within one to an instant of the second after it can be inside out; no other
ordered range is.
-/

namespace QueryFrame

def ZonedTime.inZone (z : ZonedTime) (offset : Int) : ZonedTime :=
  { z with wall := z.wall - z.offset + offset, offset }

private theorem ZonedTime.instant_inZone (z : ZonedTime) (offset : Int) :
    (z.inZone offset).instant = z.instant := by
  have hwall : z.wall - z.offset + offset - offset = z.wall - z.offset := Int.add_sub_cancel _ _
  simp only [instant, inZone, hwall]

theorem ZonedTime.instant_eq_iff {z z' : ZonedTime} :
    z'.instant = z.instant ↔ z' = z.inZone z'.offset := by
  constructor
  · intro h
    obtain ⟨wall, nanos, offset, hnanos⟩ := z'
    obtain ⟨hseconds, hnanos'⟩ := Instant.mk.inj h
    obtain rfl : nanos = z.nanos := hnanos'
    have hwall : wall = z.wall - z.offset + offset := by
      rw [← hseconds, Int.sub_add_cancel]
    simp only [inZone, hwall]
  · intro h
    rw [h, instant_inZone]

namespace Instant

def elapsed (t : Instant) : Int := t.seconds * 1000000000 + t.nanos

theorem micros_eq_floor (t : Instant) : t.micros = ⌊(t.elapsed : ℚ) / 1000⌋ := by
  have hfloor : ⌊(t.elapsed : ℚ) / 1000⌋ = t.elapsed / 1000 :=
    Rat.floor_intCast_div_natCast t.elapsed 1000
  rw [hfloor, micros, elapsed]
  omega

theorem micros_mem_int64 {t : Instant} (h : t.InCalendar) :
    Int64.minValue.toInt ≤ t.micros ∧ t.micros ≤ Int64.maxValue.toInt := by
  obtain ⟨hfirst, hlast⟩ := h
  have hnanos := t.nanos_lt
  have hmin : Int64.minValue.toInt = -9223372036854775808 := by decide
  have hmax : Int64.maxValue.toInt = 9223372036854775807 := by decide
  rw [firstSecond] at hfirst
  rw [lastSecond] at hlast
  rw [hmin, hmax, micros]
  omega

/-- The microseconds of a leap second have counted beyond those of a later instant, which then lies
in the second after it. -/
structure RunsPast (s t : Instant) : Prop where
  leap : 1000000000 ≤ s.nanos
  next : t.seconds = s.seconds + 1
  ahead : t.nanos / 1000 + 1000000 < s.nanos / 1000

theorem micros_le_iff {s t : Instant} (h : s ≤ t) : s.micros ≤ t.micros ↔ ¬ s.RunsPast t := by
  have hnanos := s.nanos_lt
  have horder : s.seconds < t.seconds ∨ (s.seconds = t.seconds ∧ s.nanos ≤ t.nanos) := h
  rw [micros, micros]
  constructor
  · intro hle hpast
    obtain ⟨-, hnext, hahead⟩ := hpast
    omega
  · intro hnot
    by_contra hlt
    apply hnot
    -- only in the next second is the start of a second less than two billion nanoseconds ahead
    constructor <;> omega

end Instant

namespace Macro

theorem timestamp_inj {s t : Instant} : timestamp s = timestamp t ↔ s.micros = t.micros := by
  rw [timestamp, timestamp, String.append_left_inj, String.append_right_inj, Numeral.toString_inj]

theorem timestamp_instant (z : ZonedTime) :
    timestamp z.instant = "CAST(" ++
      toString ⌊((z.wall - z.offset) * 10 ^ 9 + z.nanos : ℚ) / 1000⌋ ++ " AS TIMESTAMP)" := by
  have helapsed : (z.instant.elapsed : ℚ) = (z.wall - z.offset) * 10 ^ 9 + z.nanos := by
    rw [Instant.elapsed, ZonedTime.instant]
    push_cast
    norm_num
  rw [timestamp, Instant.micros_eq_floor, helapsed]

/-- The number in a literal is the microseconds from the epoch to the instant that was given in some
zone, rounded down. It fits in 64 bits, no other zone changes what becomes of any SQL text, and two
instants have the same literal just if they have the same number. -/
theorem timestamp_exact :
    (∀ first last : ZonedTime,
      expandNamed "fromTimestamp" (.between first last) [] = .ok ("CAST(" ++
        toString ⌊((first.wall - first.offset) * 10 ^ 9 + first.nanos : ℚ) / 1000⌋ ++
        " AS TIMESTAMP)") ∧
      expandNamed "toTimestamp" (.between first last) [] = .ok ("CAST(" ++
        toString ⌊((last.wall - last.offset) * 10 ^ 9 + last.nanos : ℚ) / 1000⌋ ++
        " AS TIMESTAMP)")) ∧
    (∀ t : Instant, t.InCalendar →
      Int64.minValue.toInt ≤ ⌊(t.elapsed : ℚ) / 1000⌋ ∧
        ⌊(t.elapsed : ℚ) / 1000⌋ ≤ Int64.maxValue.toInt) ∧
    (∀ z z' : ZonedTime, z'.instant = z.instant ↔ z' = z.inZone z'.offset) ∧
    (∀ (first last : ZonedTime) (offset offset' : Int) (sql : String),
      interpolate sql (.between (first.inZone offset) (last.inZone offset')) =
        interpolate sql (.between first last)) ∧
    ∀ s t : Instant, timestamp s = timestamp t ↔
      ⌊(s.elapsed : ℚ) / 1000⌋ = ⌊(t.elapsed : ℚ) / 1000⌋ := by
  refine ⟨?_, ?_, fun z z' => ZonedTime.instant_eq_iff, ?_, ?_⟩
  · intro first last
    rw [← timestamp_instant, ← timestamp_instant]
    exact ⟨rfl, rfl⟩
  · intro t ht
    rw [← Instant.micros_eq_floor]
    exact Instant.micros_mem_int64 ht
  · intro first last offset offset' sql
    rw [TimeRange.between, ZonedTime.instant_inZone, ZonedTime.instant_inZone, TimeRange.between]
  · intro s t
    rw [timestamp_inj, Instant.micros_eq_floor, Instant.micros_eq_floor]

/-- The last second of the calendar with a leap second behind it, on a clock far ahead of UTC. -/
def lastReading : ZonedTime :=
  { wall := Instant.lastSecond + 50400, nanos := 1999999999, offset := 50400 }

/-- A reading just before the epoch, on a clock behind UTC. -/
def eveReading : ZonedTime := { wall := -3601, nanos := 999999001, offset := -3600 }

theorem timestamp_exact_extremes :
    lastReading.instant.InCalendar ∧
      ⌊(lastReading.instant.elapsed : ℚ) / 1000⌋ ≤ 9223372036854775807 ∧
      expandNamed "fromTimestamp" (.between eveReading lastReading) [] =
        .ok "CAST(-1 AS TIMESTAMP)" ∧
      expandNamed "toTimestamp" (.between eveReading lastReading) [] =
        .ok "CAST(8210266876800999999 AS TIMESTAMP)" := by
  obtain ⟨hliteral, hfits, -⟩ := timestamp_exact
  have hcalendar : lastReading.instant.InCalendar := by decide
  have heve : ⌊((eveReading.wall - eveReading.offset) * 10 ^ 9 + eveReading.nanos : ℚ) / 1000⌋ =
      -1 := by
    norm_num [eveReading, Int.floor_eq_iff]
  have hlast : ⌊((lastReading.wall - lastReading.offset) * 10 ^ 9 + lastReading.nanos : ℚ) /
      1000⌋ = 8210266876800999999 := by
    norm_num [lastReading, Instant.lastSecond, Int.floor_eq_iff]
  obtain ⟨hfrom, hto⟩ := hliteral eveReading lastReading
  rw [heve] at hfrom
  rw [hlast] at hto
  exact ⟨hcalendar, (hfits _ hcalendar).2, hfrom, hto⟩

private theorem expandNamed_timeFilter (range : TimeRange) (column : String) :
    expandNamed "timeFilter" range [column] =
      .ok (column ++ " >= CAST(" ++ toString range.start.micros ++ " AS TIMESTAMP) AND " ++
        column ++ " <= CAST(" ++ toString range.stop.micros ++ " AS TIMESTAMP)") := by
  have hlow : " >= CAST(" = " >= " ++ "CAST(" := rfl
  have hand : " AS TIMESTAMP) AND " = " AS TIMESTAMP)" ++ " AND " := rfl
  have hhigh : " <= CAST(" = " <= " ++ "CAST(" := rfl
  have hname : expandNamed "timeFilter" range [column] = expansion .timeFilter range [column] := rfl
  rw [hname, expansion, timestamp, timestamp, hlow, hand, hhigh]
  simp only [String.append_assoc]

/-- The bounds of a time filter, and when they are in order: over every ordered range but those from
late in a leap second to early in the second after it. -/
theorem timeFilter_ordered (range : TimeRange) (h : range.start ≤ range.stop) (column : String) :
    expandNamed "timeFilter" range [column] =
        .ok (column ++ " >= CAST(" ++ toString range.start.micros ++ " AS TIMESTAMP) AND " ++
          column ++ " <= CAST(" ++ toString range.stop.micros ++ " AS TIMESTAMP)") ∧
      (range.start.micros ≤ range.stop.micros ↔ ¬ range.start.RunsPast range.stop) :=
  ⟨expandNamed_timeFilter range column, Instant.micros_le_iff h⟩

/-- A range within a leap second, and on to the start of the second after it. -/
def leapRange : TimeRange where
  start := { seconds := 59, nanos := 1000000999 }
  stop := { Instant.epoch with seconds := 60 }

theorem timeFilter_ordered_leap :
    leapRange.start ≤ leapRange.stop ∧
      expandNamed "timeFilter" leapRange ["t"] =
        .ok "t >= CAST(60000000 AS TIMESTAMP) AND t <= CAST(60000000 AS TIMESTAMP)" ∧
      leapRange.start.micros ≤ leapRange.stop.micros := by
  have hle : leapRange.start ≤ leapRange.stop := by decide
  have hnot : ¬ leapRange.start.RunsPast leapRange.stop := by
    intro h
    exact absurd h.ahead (by decide)
  obtain ⟨htext, hiff⟩ := timeFilter_ordered leapRange hle "t"
  exact ⟨hle, htext, hiff.2 hnot⟩

/-- From the middle of a leap second to the start of the second after it the bounds are crossed. -/
theorem timeFilter_crossed :
    ¬ ∀ (range : TimeRange) (column : String) (low high : Int), range.start ≤ range.stop →
      expandNamed "timeFilter" range [column] =
        .ok (column ++ " >= CAST(" ++ toString low ++ " AS TIMESTAMP) AND " ++
          column ++ " <= CAST(" ++ toString high ++ " AS TIMESTAMP)") →
      low ≤ high := by
  intro h
  have hcrossed := h ⟨⟨59, 1500000000, by decide⟩, ⟨60, 0, by decide⟩⟩ "t" 60500000 60000000
    (by decide) (by decide +kernel)
  exact absurd hcrossed (by decide)

end Macro

end QueryFrame
