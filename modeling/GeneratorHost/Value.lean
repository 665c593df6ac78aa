import GeneratorHost.Double
import GeneratorHost.Text.Basic

/-! Values whose kind is known only when the program runs: what a settings file holds, and what a
    generator hands over where a text or a diagnostic is expected. -/

namespace GeneratorHost

structure Date where
  year : Nat
  month : Nat
  day : Nat
  deriving DecidableEq, Repr, Inhabited

namespace Date

/-- Whether a year has a 29th of February. -/
def isLeap (year : Nat) : Bool :=
  year % 4 == 0 && (year % 100 != 0 || year % 400 == 0)

/-- The number of days of a month. -/
def daysIn (year month : Nat) : Nat :=
  match month with
  | 2 => if isLeap year then 29 else 28
  | 4 | 6 | 9 | 11 => 30
  | _ => 31

/-- The number of days before a date, from the first day of the year one. -/
def dayNumber (d : Date) : Nat :=
  let years := d.year - 1
  let months := (List.range (d.month - 1)).foldl (fun days m => days + daysIn d.year (m + 1)) 0
  years * 365 + years / 4 - years / 100 + years / 400 + months + (d.day - 1)

end Date

/-- A date and a time of day, with the minutes that the local clock is ahead if they are known. -/
structure Instant where
  date : Date
  hour : Nat
  minute : Nat
  second : Nat
  microsecond : Nat
  offset : Option Int
  deriving DecidableEq, Repr, Inhabited

/-- Microseconds since the first day of the year one, after taking off the offset. -/
def Instant.microseconds (t : Instant) : Int :=
  let minutes : Int := (t.date.dayNumber * 24 + t.hour : Nat) * 60 + t.minute - t.offset.getD 0
  (minutes * 60 + t.second) * 1000000 + t.microsecond

/-- Two clock readings name one instant. Readings with and without an offset never do. -/
def Instant.same (s t : Instant) : Bool :=
  s.offset.isSome == t.offset.isSome && s.microseconds == t.microseconds

inductive Value
  | null
  | bool (b : Bool)
  | int (n : Int)
  | float (x : Double)
  | text (t : Text)
  | bytes (bs : List UInt8)
  | date (d : Date)
  | instant (t : Instant)
  | list (items : List Value)
  | pair (first second : Value)
  | set (items : List Value)
  | map (entries : List (Value × Value))
  deriving Inhabited

namespace Value

def kindName : Value → String
  | null => "NoneType"
  | bool _ => "bool"
  | int _ => "int"
  | float _ => "float"
  | text _ => "str"
  | bytes _ => "bytes"
  | date _ => "date"
  | instant _ => "datetime"
  | list _ => "list"
  | pair .. => "tuple"
  | set _ => "set"
  | map _ => "dict"

/-- Everything counts as given except nothing, false, zero and what is empty. -/
def isGiven : Value → Bool
  | null => false
  | bool b => b
  | int n => n != 0
  | float x => !x.equal (Double.signedZero false)
  | text t => !t.letters.isEmpty
  | bytes bs => !bs.isEmpty
  | list items => !items.isEmpty
  | set items => !items.isEmpty
  | map entries => !entries.isEmpty
  | date _ | instant _ | pair .. => true

/-- The number that a truth value, an integer or a floating-point number stands for. -/
def number? : Value → Option (Int ⊕ Double)
  | bool b => some (.inl (if b then 1 else 0))
  | int n => some (.inl n)
  | float x => some (match x.toInt? with | some n => .inl n | none => .inr x)
  | _ => none

/-- Whether two values are one number, whatever their kind; nothing if one of them is no number. -/
def sameNumber? (a b : Value) : Option Bool :=
  match a.number?, b.number? with
  | some (.inl m), some (.inl n) => some (m == n)
  | some (.inr x), some (.inr y) => some (x.equal y)
  | some _, some _ => some false
  | _, _ => none

/-- Two values are one key of a mapping. Numbers are compared by value, whatever their kind. -/
def sameKey (a b : Value) : Bool :=
  match a.sameNumber? b with
  | some isSame => isSame
  | none => match a, b with
    | null, null => true
    | text s, text t => s == t
    | bytes s, bytes t => s == t
    | date s, date t => s == t
    | instant s, instant t => s.same t
    | _, _ => false

mutual

/-- Equality of values. Numbers are compared by value, mappings without regard to order. -/
def equal : Value → Value → Bool
  | list xs, list ys => equalItems xs ys
  | pair a b, pair c d => a.equal c && b.equal d
  | set xs, set ys => xs.length == ys.length && includes ys xs
  | map xs, map ys => xs.length == ys.length && includesEntries ys xs
  | a, b => a.sameKey b

def equalItems : List Value → List Value → Bool
  | [], [] => true
  | x :: xs, y :: ys => x.equal y && equalItems xs ys
  | _, _ => false

/-- Whether each of the second values equals one of the first. -/
def includes (ys : List Value) : List Value → Bool
  | [] => true
  | x :: xs => ys.any (fun y => x.sameKey y) && includes ys xs

/-- Whether each of the second entries equals the one of the first that has its key. -/
def includesEntries (ys : List (Value × Value)) : List (Value × Value) → Bool
  | [] => true
  | (k, v) :: xs =>
    (match ys.find? fun entry => k.sameKey entry.1 with
      | some entry => v.equal entry.2
      | none => false) && includesEntries ys xs

end

/-- Collections are no keys. -/
def isKey : Value → Bool
  | list _ | set _ | map _ => false
  | _ => true

/-- Sets the value of a key. The key that was there first is kept, in its place. -/
def insertEntry (key value : Value) : List (Value × Value) → List (Value × Value)
  | [] => [(key, value)]
  | entry :: rest =>
    if entry.1.sameKey key then (entry.1, value) :: rest else entry :: insertEntry key value rest

/-- The mapping that pairs make, the last value of a key counting. -/
def ofEntries (pairs : List (Value × Value)) : List (Value × Value) :=
  pairs.foldl (fun entries pair => insertEntry pair.1 pair.2 entries) []

end Value
end GeneratorHost
