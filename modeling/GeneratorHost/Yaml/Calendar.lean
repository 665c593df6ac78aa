import GeneratorHost.Value
import GeneratorHost.Yaml.Fault
import GeneratorHost.Yaml.Kind

/-! The dates and times that scalars spell. -/

namespace GeneratorHost
namespace Yaml
namespace Calendar

/-- The offset of a time: none, that of the standard clock, or a sign with hours and minutes. -/
inductive Offset
  | unknown
  | standard
  | signed (isNegative : Bool) (hours minutes : Nat)

structure Clock where
  hour : Nat
  minute : Nat
  second : Nat
  fraction : List Char
  offset : Offset

/-- The parts of a date, with those of a time of day if there is one. -/
structure Parts where
  date : Date
  clock : Option Clock

/-- The number in front of what is left of a text. -/
def take? (least most : Nat) (cs : List Char) : Option (Nat × List Char) :=
  (Kind.dropDigits? least most cs).map fun rest => (Text.decimalValue (cs.take (cs.length - rest.length)), rest)

/-- The offset that ends a time. -/
def offset? (cs : List Char) : Option Offset :=
  if Kind.isOver cs then some .unknown
  else
    match cs.dropWhile Kind.isBlankChar with
    | 'Z' :: rest => if Kind.isOver rest then some .standard else none
    | sign :: rest =>
      if sign == '+' || sign == '-' then do
        let (hours, rest) ← take? 1 2 rest
        if Kind.isOver rest then some (.signed (sign == '-') hours 0)
        else do
          let (minutes, rest) ← take? 2 2 (← Kind.dropChar? ':' rest)
          if Kind.isOver rest then some (.signed (sign == '-') hours minutes) else none
      else none
    | [] => none

/-- The time of day that ends a text. -/
def clock? (cs : List Char) : Option Clock := do
  let (hour, cs) ← take? 1 2 cs
  let (minute, cs) ← take? 2 2 (← Kind.dropChar? ':' cs)
  let (second, cs) ← take? 2 2 (← Kind.dropChar? ':' cs)
  let (fraction, cs) := match cs with
    | '.' :: rest => rest.span Text.isDigit
    | rest => ([], rest)
  let offset ← offset? cs
  some ⟨hour, minute, second, fraction, offset⟩

/-- The parts of the date that a text spells. -/
def parts? (cs : List Char) : Option Parts := do
  let (year, cs) ← take? 4 4 cs
  let (month, cs) ← take? 1 2 (← Kind.dropChar? '-' cs)
  let (day, cs) ← take? 1 2 (← Kind.dropChar? '-' cs)
  if Kind.isOver cs then some ⟨⟨year, month, day⟩, none⟩
  else do
    let clock ← clock? (← Kind.dropTimeMark? cs)
    some ⟨⟨year, month, day⟩, some clock⟩

/-- Checks that a date is on the calendar. -/
def checkDate (d : Date) : Except Fault Unit := do
  if d.year == 0 then throw (.outOfCalendar ("year " ++ Text.ofNat d.year ++ " is out of range"))
  if d.month == 0 || d.month > 12 then throw (.outOfCalendar "month must be in 1..12")
  if d.day == 0 || d.day > Date.daysIn d.year d.month then
    throw (.outOfCalendar "day is out of range for month")

/-- A length of time, in days and seconds, neither of them shown if it is zero. -/
def spanText (minutes : Int) : String :=
  let days := Int.fdiv minutes 1440
  let seconds := Int.fmod minutes 1440 * 60
  let parts :=
    (if days == 0 then [] else ["days=" ++ Text.ofInt days]) ++
      (if seconds == 0 then [] else ["seconds=" ++ Text.ofInt seconds])
  "datetime.timedelta(" ++ (if parts.isEmpty then "0" else ", ".intercalate parts) ++ ")"

/-- The minutes of an offset, which have to be less than a day. -/
def offsetMinutes : Offset → Except Fault (Option Int)
  | .unknown => .ok none
  | .standard => .ok (some 0)
  | .signed isNegative hours minutes =>
    let total : Int := hours * 60 + minutes
    let total := if isNegative then -total else total
    if total.natAbs < 1440 then .ok (some total)
    else .error (.outOfCalendar
      ("offset must be a timedelta strictly between -timedelta(hours=24) and timedelta(hours=24), not " ++
        spanText total ++ "."))

/-- The microseconds that the digits of a fraction stand for. -/
def microseconds (fraction : List Char) : Nat :=
  let digits := fraction.take 6
  Text.decimalValue (digits ++ List.replicate (6 - digits.length) '0')

/-- The instant that parts make. The offset is checked first, then the date, then the time of day. -/
def instant (d : Date) (c : Clock) : Except Fault Instant := do
  let offset ← offsetMinutes c.offset
  checkDate d
  if c.hour > 23 then throw (.outOfCalendar "hour must be in 0..23")
  if c.minute > 59 then throw (.outOfCalendar "minute must be in 0..59")
  if c.second > 59 then throw (.outOfCalendar "second must be in 0..59")
  pure ⟨d, c.hour, c.minute, c.second, microseconds c.fraction, offset⟩

/-- The date or the instant that a scalar spells. -/
def ofScalar (t : Text) : Except Fault Value :=
  match t.chars?.bind parts? with
  | none => .error .notInstant
  | some ⟨d, none⟩ => do
    checkDate d
    pure (.date d)
  | some ⟨d, some c⟩ => (instant d c).map .instant

end Calendar
end Yaml
end GeneratorHost
