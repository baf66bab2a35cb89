import Stencil.Fault
import Stencil.Time.Moment

/-!
# Time templates

A template is text with items such as `%H` in it. Reading a template either gives all its items or
refuses it; printing puts a local time in their place. Numbers are padded with zeros or blanks to a
width of their own, which a `-`, `_` or `0` after the percent sign changes.
-/

namespace Stencil

inductive Pad where
  | none
  | zero
  | space
  deriving DecidableEq, Repr

inductive TimeField where
  | year
  | century
  | yearOfCentury
  | weekYear
  | weekYearOfCentury
  | quarter
  | month
  | day
  | sundayWeek
  | mondayWeek
  | isoWeek
  | weekdayFromSunday
  | weekdayFromMonday
  | dayOfYear
  | hour
  | clockHour
  | minute
  | second
  | nanosecond
  | timestamp
  deriving DecidableEq, Repr

/-- How exactly an offset is written. -/
inductive OffsetStyle where
  | hours
  | minutes (colon : Bool)
  | seconds
  deriving DecidableEq, Repr

inductive TimeItem where
  | literal (c : Char)
  | number (field : TimeField) (pad : Pad)
  | monthName (long : Bool)
  | weekdayName (long : Bool)
  | halfDay (upper : Bool)
  /-- A point and as many groups of three digits as the nanoseconds need, nothing for none. -/
  | fraction
  /-- A fixed count of digits of the fraction, after a point or not. -/
  | fractionDigits (count : Nat) (point : Bool)
  | zoneName
  | offset (style : OffsetStyle)
  /-- Date, `T`, time and offset. -/
  | full
  /-- An item for reading times, without a printed form. -/
  | readOnly
  deriving DecidableEq, Repr

namespace TimeItem

/-! ### Reading -/

/-- Items of the date `%m/%d/%y`. -/
def shortDate : List TimeItem :=
  [.number .month .zero, .literal '/', .number .day .zero, .literal '/', .number .yearOfCentury .zero]

/-- Items of the time `%H:%M:%S`. -/
def clockTime : List TimeItem :=
  [.number .hour .zero, .literal ':', .number .minute .zero, .literal ':', .number .second .zero]

def ofLetter? : Char → Option (List TimeItem)
  | 'A' => some [.weekdayName true]
  | 'B' => some [.monthName true]
  | 'C' => some [.number .century .zero]
  | 'D' | 'x' => some shortDate
  | 'F' =>
    some [.number .year .zero, .literal '-', .number .month .zero, .literal '-', .number .day .zero]
  | 'G' => some [.number .weekYear .zero]
  | 'H' => some [.number .hour .zero]
  | 'I' => some [.number .clockHour .zero]
  | 'M' => some [.number .minute .zero]
  | 'P' => some [.halfDay false]
  | 'R' => some [.number .hour .zero, .literal ':', .number .minute .zero]
  | 'S' => some [.number .second .zero]
  | 'T' | 'X' => some clockTime
  | 'U' => some [.number .sundayWeek .zero]
  | 'V' => some [.number .isoWeek .zero]
  | 'W' => some [.number .mondayWeek .zero]
  | 'Y' => some [.number .year .zero]
  | 'Z' => some [.zoneName]
  | 'a' => some [.weekdayName false]
  | 'b' | 'h' => some [.monthName false]
  | 'c' =>
    some ([.weekdayName false, .literal ' ', .monthName false, .literal ' ', .number .day .space,
      .literal ' '] ++ clockTime ++ [.literal ' ', .number .year .zero])
  | 'd' => some [.number .day .zero]
  | 'e' => some [.number .day .space]
  | 'f' => some [.number .nanosecond .zero]
  | 'g' => some [.number .weekYearOfCentury .zero]
  | 'j' => some [.number .dayOfYear .zero]
  | 'k' => some [.number .hour .space]
  | 'l' => some [.number .clockHour .space]
  | 'm' => some [.number .month .zero]
  | 'n' => some [.literal '\n']
  | 'p' => some [.halfDay true]
  | 'q' => some [.number .quarter .none]
  | 'r' =>
    some [.number .clockHour .zero, .literal ':', .number .minute .zero, .literal ':',
      .number .second .zero, .literal ' ', .halfDay true]
  | 's' => some [.number .timestamp .none]
  | 't' => some [.literal '\t']
  | 'u' => some [.number .weekdayFromMonday .none]
  | 'v' =>
    some [.number .day .space, .literal '-', .monthName false, .literal '-', .number .year .zero]
  | 'w' => some [.number .weekdayFromSunday .none]
  | 'y' => some [.number .yearOfCentury .zero]
  | 'z' => some [.offset (.minutes false)]
  | '+' => some [.full]
  | '%' => some [.literal '%']
  | _ => none

/-- The items of a specification, given what follows the percent sign and its padding mark. -/
def ofSpec? : List Char → Option (List TimeItem × List Char)
  | ':' :: ':' :: ':' :: 'z' :: rest => some ([.offset .hours], rest)
  | ':' :: ':' :: 'z' :: rest => some ([.offset .seconds], rest)
  | ':' :: 'z' :: rest => some ([.offset (.minutes true)], rest)
  | '.' :: '3' :: 'f' :: rest => some ([.fractionDigits 3 true], rest)
  | '.' :: '6' :: 'f' :: rest => some ([.fractionDigits 6 true], rest)
  | '.' :: '9' :: 'f' :: rest => some ([.fractionDigits 9 true], rest)
  | '.' :: 'f' :: rest => some ([.fraction], rest)
  | '3' :: 'f' :: rest => some ([.fractionDigits 3 false], rest)
  | '6' :: 'f' :: rest => some ([.fractionDigits 6 false], rest)
  | '9' :: 'f' :: rest => some ([.fractionDigits 9 false], rest)
  | c :: rest => (ofLetter? c).map fun items => (items, rest)
  | [] => none

def padMark? : Char → Option Pad
  | '-' => some .none
  | '0' => some .zero
  | '_' => some .space
  | _ => none

/-- Changes the padding of a single number; nothing else has a padding. -/
def repad? (pad : Pad) : List TimeItem → Option (List TimeItem)
  | [.number f _] => some [.number f pad]
  | _ => none

def readSpec? : List Char → Option (List TimeItem × List Char)
  | [] => none
  | '#' :: 'z' :: rest => some ([.readOnly], rest)
  | c :: rest =>
    match padMark? c with
    | some pad => do
      let (items, after) ← ofSpec? rest
      return (← repad? pad items, after)
    | none => ofSpec? (c :: rest)

/-- Reads a template; every step takes at least one character. -/
def readFrom : (fuel : Nat) → List Char → Option (List TimeItem)
  | _, [] => some []
  | 0, _ => none
  | n + 1, '%' :: rest => do
    let (items, after) ← readSpec? rest
    return items ++ (← readFrom n after)
  | n + 1, c :: rest => (readFrom n rest).map (.literal c :: ·)

def parse? (template : String) : Option (List TimeItem) :=
  readFrom template.length template.toList

/-! ### Printing -/

/-- Pads to a width on the left; zeros go between the sign and the digits. -/
def padded (pad : Pad) (width : Nat) (sign digits : List Char) : List Char :=
  let missing := width - (sign.length + digits.length)
  match pad with
  | .none => sign ++ digits
  | .zero => sign ++ List.replicate missing '0' ++ digits
  | .space => List.replicate missing ' ' ++ sign ++ digits

/-- A number of a width; a sign asked for takes one place more. -/
def wide (pad : Pad) (width : Nat) (signed : Bool) (n : Int) : List Char :=
  let sign := if n < 0 then ['-'] else if signed then ['+'] else []
  padded pad (if signed then width + 1 else width) sign (Nat.toDigits 10 n.natAbs)

/-- A number below 256 in two places. The place for tens goes on past `9` in the order of
characters. -/
def twoPlaces (pad : Pad) (n : Nat) : List Char :=
  let ones := Char.ofNat ('0'.toNat + n % 10)
  match n / 10, pad with
  | 0, .none => [ones]
  | 0, .space => [' ', ones]
  | tens, _ => [Char.ofNat ('0'.toNat + tens), ones]

/-- A year in four places, with a sign when it needs more or is negative. -/
def yearPlaces (pad : Pad) (y : Int) : List Char :=
  wide pad 4 (y < 0 || 9999 < y) y

/-- The century of a year, reduced to a byte. -/
def centuryByte (y : Int) : Nat :=
  (y / 100 % 256).toNat

def printNumber (t : LocalTime) (pad : Pad) : TimeField → List Char
  | .year => yearPlaces pad t.date.year
  | .century => twoPlaces pad (centuryByte t.date.year)
  | .yearOfCentury => twoPlaces pad (t.date.year % 100).toNat
  | .weekYear => yearPlaces pad t.date.isoWeek.1
  | .weekYearOfCentury => twoPlaces pad (t.date.isoWeek.1 % 100).toNat
  | .quarter => Nat.toDigits 10 t.date.quarter
  | .month => twoPlaces pad t.date.month
  | .day => twoPlaces pad t.date.day
  | .sundayWeek => twoPlaces pad t.date.sundayWeek.toNat
  | .mondayWeek => twoPlaces pad t.date.mondayWeek.toNat
  | .isoWeek => twoPlaces pad t.date.isoWeek.2.toNat
  | .weekdayFromSunday => Nat.toDigits 10 t.date.weekday
  | .weekdayFromMonday => Nat.toDigits 10 (t.date.weekdayFromMonday + 1)
  | .dayOfYear => wide pad 3 false t.date.ordinal
  | .hour => twoPlaces pad t.hour
  | .clockHour => twoPlaces pad t.clockHour
  | .minute => twoPlaces pad t.minute
  | .second => twoPlaces pad t.secondOfMinute
  | .nanosecond => wide pad 9 false t.nanoOfSecond
  | .timestamp => wide pad 9 false t.timestamp

def months : List String :=
  ["January", "February", "March", "April", "May", "June", "July", "August", "September",
   "October", "November", "December"]

def weekdays : List String :=
  ["Sunday", "Monday", "Tuesday", "Wednesday", "Thursday", "Friday", "Saturday"]

/-- A name in full, or its first three letters. -/
def nameText (long : Bool) (name : Option String) : List Char :=
  let cs := (name.getD "").toList
  if long then cs else cs.take 3

def zeroFilled (width n : Nat) : List Char :=
  padded .zero width [] (Nat.toDigits 10 n)

/-- A point and three, six or nine digits of the fraction, as few as it needs. -/
def fractionText (nano : Nat) : List Char :=
  if nano = 0 then []
  else if nano % 1000000 = 0 then '.' :: zeroFilled 3 (nano / 1000000)
  else if nano % 1000 = 0 then '.' :: zeroFilled 6 (nano / 1000)
  else '.' :: zeroFilled 9 nano

/-- An offset from universal time. Minutes are rounded to the nearest, hours cut off. -/
def offsetText (style : OffsetStyle) (offset : Int) : List Char :=
  let sign := if offset < 0 then '-' else '+'
  let n := offset.natAbs
  match style with
  | .hours => sign :: zeroFilled 2 (n / 3600)
  | .minutes colon =>
    let minutes := (n + 30) / 60
    sign :: zeroFilled 2 (minutes / 60) ++ (if colon then [':'] else [])
      ++ zeroFilled 2 (minutes % 60)
  | .seconds =>
    sign :: zeroFilled 2 (n / 3600) ++ [':'] ++ zeroFilled 2 (n / 60 % 60) ++ [':']
      ++ zeroFilled 2 (n % 60)

/-- The name of the zone; one without a name goes by its offset, with seconds only if it has any. -/
def zoneText (t : LocalTime) : List Char :=
  match t.zone with
  | .universal => "UTC".toList
  | .offset =>
    let sign := if t.offset < 0 then '-' else '+'
    let n := t.offset.natAbs
    let seconds := if n % 60 = 0 then [] else ':' :: zeroFilled 2 (n % 60)
    sign :: zeroFilled 2 (n / 3600) ++ [':'] ++ zeroFilled 2 (n / 60 % 60) ++ seconds

/-- Date, time and offset in one. -/
def fullText (t : LocalTime) : List Char :=
  yearPlaces .zero t.date.year ++ ['-'] ++ zeroFilled 2 t.date.month ++ ['-']
    ++ zeroFilled 2 t.date.day ++ ['T'] ++ zeroFilled 2 t.hour ++ [':'] ++ zeroFilled 2 t.minute
    ++ [':'] ++ zeroFilled 2 t.secondOfMinute ++ fractionText t.nanoOfSecond
    ++ offsetText (.minutes true) t.offset

def print? (t : LocalTime) : TimeItem → Option (List Char)
  | .literal c => some [c]
  | .number field pad => some (printNumber t pad field)
  | .monthName long => some (nameText long months[t.date.month - 1]?)
  | .weekdayName long => some (nameText long weekdays[t.date.weekday]?)
  | .halfDay upper =>
    some (match t.isAfternoon, upper with
      | false, true => ['A', 'M']
      | true, true => ['P', 'M']
      | false, false => ['a', 'm']
      | true, false => ['p', 'm'])
  | .fraction => some (fractionText t.nanoOfSecond)
  | .fractionDigits count point =>
    some ((if point then ['.'] else []) ++ zeroFilled count (t.nanoOfSecond / Nat.pow 10 (9 - count)))
  | .zoneName => some (zoneText t)
  | .offset style => some (offsetText style t.offset)
  | .full => some (fullText t)
  | .readOnly => none

end TimeItem

def printTime? (items : List TimeItem) (t : LocalTime) : Option String :=
  (items.mapM (TimeItem.print? t)).map fun parts => String.ofList parts.flatten

/-- A moment shifted by hours and printed by a template. The offset is checked before the template. -/
def shiftedTime (m : Moment) (hours : Int) (template : String) : Except Failure String :=
  match m.shift? hours with
  | none => .error (.fault (Fault.ofKind .invalidOffset))
  | some later =>
    match TimeItem.parse? template with
    | none => .error (.fault (Fault.ofKind .invalidFormat))
    | some items =>
      match printTime? items later.toLocal with
      | some text => .ok text
      | none => .error .unprintable

end Stencil
