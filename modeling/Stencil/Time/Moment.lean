import Stencil.Time.Calendar

/-!
# Moments

A moment is a day, a second of the day and a nanosecond, all in universal time, and the offset of the
zone in which it is shown. Nanoseconds from 10⁹ on mark a leap second after the second they belong to.
-/

namespace Stencil

/-- The name of a time zone: universal time, or its offset. -/
inductive Zone where
  | universal
  | offset
  deriving DecidableEq, Repr

/-- An instant, shown `offset` seconds east of universal time. -/
structure Moment where
  day : Int
  second : Nat
  nano : Nat
  offset : Int := 0
  zone : Zone := .offset
  deriving DecidableEq, Repr

/-- A date and a time of day as shown on the spot. -/
structure LocalTime where
  date : Date
  second : Nat
  nano : Nat
  offset : Int
  zone : Zone
  deriving DecidableEq, Repr

namespace Moment

def daySeconds : Nat := 86400

def secondNanos : Nat := 1000000000

def leastYear : Int := -262143

def greatestYear : Int := 262142

def inRange (day : Int) : Bool :=
  let y := (Date.ofDays day).year
  leastYear ≤ y && y ≤ greatestYear

def ofLocal (date : Date) (second nano : Nat) (offset : Int) (zone : Zone) : Moment :=
  let total := date.toDays * daySeconds + second - offset
  { day := total / daySeconds, second := (total % daySeconds).toNat, nano, offset, zone }

/-- The moment a number of hours later. A leap second is left forwards to the second it belongs to and
backwards to the second after it. The offset stays what it was. -/
def addHours (m : Moment) (hours : Int) : Moment :=
  let leap := secondNanos ≤ m.nano && hours != 0
  let nano := if leap then m.nano - secondNanos else m.nano
  let extra : Int := if leap && hours < 0 then 1 else 0
  let total := m.second + extra + hours * 3600
  { m with day := m.day + total / daySeconds, second := (total % daySeconds).toNat, nano }

def shift? (m : Moment) (hours : Int) : Option Moment :=
  let later := m.addHours hours
  if inRange later.day then some later else none

def toLocal (m : Moment) : LocalTime :=
  let total := m.day * daySeconds + m.second + m.offset
  { date := Date.ofDays (total / daySeconds), second := (total % daySeconds).toNat, nano := m.nano,
    offset := m.offset, zone := m.zone }

end Moment

namespace LocalTime

def hour (t : LocalTime) : Nat := t.second / 3600

def minute (t : LocalTime) : Nat := t.second / 60 % 60

/-- Second of the minute; a leap second is one more than the second it belongs to. -/
def secondOfMinute (t : LocalTime) : Nat := t.second % 60 + t.nano / Moment.secondNanos

def nanoOfSecond (t : LocalTime) : Nat := t.nano % Moment.secondNanos

def isAfternoon (t : LocalTime) : Bool := 12 ≤ t.hour

def clockHour (t : LocalTime) : Nat := if t.hour % 12 = 0 then 12 else t.hour % 12

/-- Seconds since the beginning of 1970 in universal time. -/
def timestamp (t : LocalTime) : Int :=
  t.date.toDays * Moment.daySeconds + t.second - t.offset

end LocalTime

end Stencil
