import GeneratorHost.Value
import GeneratorHost.Double.Shortest
import GeneratorHost.Text.Quoted

/-! The text of a value: how it is shown alone, and how it is written inside another value, where a
    text stands in quotes. -/

namespace GeneratorHost

/-- A number with at least `width` digits. -/
def padded (width n : Nat) : String :=
  let digits := Nat.toDigits 10 n
  String.ofList (List.replicate (width - digits.length) '0' ++ digits)

def Date.text (d : Date) : String :=
  padded 4 d.year ++ "-" ++ padded 2 d.month ++ "-" ++ padded 2 d.day

/-- Hours and minutes of an offset, with its sign. -/
def offsetText (minutes : Int) : String :=
  (if minutes < 0 then "-" else "+") ++ padded 2 (minutes.natAbs / 60) ++ ":" ++ padded 2 (minutes.natAbs % 60)

/-- Date and time of day, with the fraction of a second and the offset if there is one. -/
def Instant.text (t : Instant) : String :=
  t.date.text ++ " " ++ padded 2 t.hour ++ ":" ++ padded 2 t.minute ++ ":" ++ padded 2 t.second ++
    (if t.microsecond == 0 then "" else "." ++ padded 6 t.microsecond) ++
    (match t.offset with | none => "" | some minutes => offsetText minutes)

namespace Value

mutual

/-- The form of a value inside another one. -/
def written : Value → String
  | null => "None"
  | bool b => if b then "True" else "False"
  | int n => Text.ofInt n
  | float x => x.text
  | text t => t.quoted
  | bytes bs => Text.quotedBytes bs
  | date d => d.text
  | instant t => t.text
  | list items => "[" ++ ", ".intercalate (writtenItems items) ++ "]"
  | pair a b => "(" ++ a.written ++ ", " ++ b.written ++ ")"
  | set items =>
    if items.isEmpty then "set()" else "\x7b" ++ ", ".intercalate (writtenItems items) ++ "\x7d"
  | map entries => "\x7b" ++ ", ".intercalate (writtenEntries entries) ++ "\x7d"

def writtenItems : List Value → List String
  | [] => []
  | v :: vs => v.written :: writtenItems vs

def writtenEntries : List (Value × Value) → List String
  | [] => []
  | (k, v) :: rest => (k.written ++ ": " ++ v.written) :: writtenEntries rest

end

/-- The form of a value on its own: a text stands for itself. -/
def display : Value → Text
  | text t => t
  | v => v.written

mutual

/-- Whether a value has a written form. It has none if an integer with too many digits is in it. -/
def isWritable : Value → Bool
  | int n => Text.fitsDigits n
  | list items => areWritable items
  | pair a b => a.isWritable && b.isWritable
  | set items => areWritable items
  | map entries => haveWritable entries
  | _ => true

def areWritable : List Value → Bool
  | [] => true
  | v :: vs => v.isWritable && areWritable vs

def haveWritable : List (Value × Value) → Bool
  | [] => true
  | (k, v) :: rest => k.isWritable && v.isWritable && haveWritable rest

end

end Value
end GeneratorHost
