import ChargingReport.Calendar.Day

/-!
# Clock readings and instants

* `WallClock` is a reading of a calendar and a clock: a number of microseconds since
  0001-01-01T00:00:00, within the years 1 to 9999.
* `Instant` is a point in time, named by what a clock in UTC shows.
* `Stamp` is a reading as it is written down, with or without an offset from UTC.

`Stamp.instant` gives the point in time of a stamp, where a stamp without offset is taken to be UTC.
`Stamp.stored` gives the point in time that a stamp turns into when it is written to a table: a
column keeps the reading and forgets the offset.
-/

namespace ChargingReport

/-- The microseconds of a day. -/
def microsPerDay : Nat := 86400000000

/-- The microseconds of a second. -/
def microsPerSecond : Nat := 1000000

/-- A reading of calendar and clock within the years 1 to 9999. -/
structure WallClock where
  ticks : Nat
  inRange : ticks < dayCount * microsPerDay
deriving DecidableEq

/-- A point in time, named by what a clock in UTC shows. -/
structure Instant where
  utc : WallClock
deriving DecidableEq

/-- A reading as it is written down. The offset from UTC is in microseconds, and a stamp without
one is taken to be UTC. -/
structure Stamp where
  wall : WallClock
  offset : Option Int
deriving DecidableEq

namespace WallClock

/-- The reading with a number of microseconds, if there is one. -/
def ofTicks? (n : Int) : Option WallClock :=
  match n with
  | .ofNat k => if h : k < dayCount * microsPerDay then some ⟨k, h⟩ else none
  | .negSucc _ => none

/-- The reading moved by a number of microseconds. -/
def shift? (w : WallClock) (micros : Int) : Option WallClock := ofTicks? (w.ticks + micros)

/-- The day of the reading. -/
def day (w : WallClock) : Day :=
  ⟨w.ticks / microsPerDay, by
    have h := w.inRange
    unfold microsPerDay at *
    omega⟩

/-- The microseconds since midnight. -/
def timeOfDay (w : WallClock) : Nat := w.ticks % microsPerDay

/-- The hour of the clock, from 0 to 23. -/
def hour (w : WallClock) : Nat := w.timeOfDay / 3600000000

/-- The minute of the hour. -/
def minute (w : WallClock) : Nat := w.timeOfDay / 60000000 % 60

/-- The second of the minute. -/
def second (w : WallClock) : Nat := w.timeOfDay / microsPerSecond % 60

/-- The microsecond of the second. -/
def microsecond (w : WallClock) : Nat := w.timeOfDay % microsPerSecond

/-- The reading at a day and a number of microseconds since midnight, if the day has so many. -/
def ofDayTime? (d : Day) (time : Nat) : Option WallClock :=
  if time < microsPerDay then ofTicks? (d.number * microsPerDay + time : Nat) else none

end WallClock

namespace Instant

/-- The microseconds since 0001-01-01T00:00:00 UTC. -/
def ticks (i : Instant) : Nat := i.utc.ticks

/-- The day in UTC. -/
def day (i : Instant) : Day := i.utc.day

/-- The instant moved by a number of microseconds. -/
def shift? (i : Instant) (micros : Int) : Option Instant := (i.utc.shift? micros).map .mk

/-- The microseconds from 0001-01-01 to 1970-01-01. -/
def epochTicks : Nat := 719162 * microsPerDay

/-- The instant a number of microseconds after 1970-01-01T00:00:00 UTC. -/
def ofUnixMicros? (n : Int) : Option Instant :=
  (WallClock.ofTicks? (epochTicks + n)).map .mk

/-- The same instant without the fraction of a second. -/
def wholeSecond (i : Instant) : Instant :=
  ⟨⟨i.ticks - i.ticks % microsPerSecond, Nat.lt_of_le_of_lt (Nat.sub_le _ _) i.utc.inRange⟩⟩

end Instant

namespace Stamp

/-- The point in time of a stamp, unless it lies outside the years 1 to 9999. -/
def instant? (s : Stamp) : Option Instant :=
  match s.offset with
  | none => some ⟨s.wall⟩
  | some offset => (s.wall.shift? (-offset)).map .mk

/-- The point in time of a stamp. -/
def instant (s : Stamp) : Except CalendarError Instant :=
  match s.instant? with
  | some i => .ok i
  | none => .error .outOfRange

/-- What a table keeps of a stamp: its reading, which is later taken to be UTC. -/
def stored (s : Stamp) : Instant := ⟨s.wall⟩

/-- The day in UTC of a stamp. -/
def utcDay (s : Stamp) : Except CalendarError Day := s.instant.map Instant.day

end Stamp

end ChargingReport
