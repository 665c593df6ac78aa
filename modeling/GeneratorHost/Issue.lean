import GeneratorHost.Value.Written
import GeneratorHost.Text.Blank
import GeneratorHost.Text.Split
import GeneratorHost.Text.Utf8

/-! Reading a field of a known kind from a value of any kind. What cannot be read is an issue: the place
    of the field and what is wrong with its value. -/

namespace GeneratorHost

/-- One step on the way to a value: into a named field, or to a member of a list. -/
inductive Step
  | field (name : Text)
  | index (n : Nat)
  deriving DecidableEq, Repr

/-- What is wrong with a value. -/
inductive Complaint
  | missing
  | notText
  | brokenText
  | notInteger
  | unreadableInteger
  | tooLarge
  | fractional
  | notFinite
  | notSeverity
  | notLocation
  | notMapping
  | notList
  | notPath
  deriving DecidableEq, Repr

namespace Complaint

def code : Complaint → String
  | missing => "missing"
  | notText => "string_type"
  | brokenText => "string_unicode"
  | notInteger => "int_type"
  | unreadableInteger => "int_parsing"
  | tooLarge => "int_parsing_size"
  | fractional => "int_from_float"
  | notFinite => "finite_number"
  | notSeverity => "literal_error"
  | notLocation => "model_type"
  | notMapping => "dict_type"
  | notList => "list_type"
  | notPath => "path_type"

def message : Complaint → String
  | missing => "Field required"
  | notText => "Input should be a valid string"
  | brokenText => "Input should be a valid string, unable to parse raw data as a unicode string"
  | notInteger => "Input should be a valid integer"
  | unreadableInteger => "Input should be a valid integer, unable to parse string as an integer"
  | tooLarge => "Unable to parse input string as an integer, exceeded maximum size"
  | fractional => "Input should be a valid integer, got a number with a fractional part"
  | notFinite => "Input should be a finite number"
  | notSeverity => "Input should be 'hidden', 'info', 'warning' or 'error'"
  | notLocation => "Input should be a valid dictionary or instance of Location"
  | notMapping => "Input should be a valid dictionary"
  | notList => "Input should be a valid list"
  | notPath => "Input is not a valid path for <class 'pathlib.Path'>"

end Complaint

/-- A complaint about the value at a place. -/
structure Issue where
  place : List Step
  complaint : Complaint
  deriving DecidableEq, Repr

/-- The first line of a report on the issues found in a record of the given title. -/
def Issue.summary (title : String) (issues : List Issue) : String :=
  Text.ofNat issues.length ++ " validation error" ++ (if issues.length == 1 then "" else "s") ++ " for " ++ title

/-- What reading a field comes to: its value, or the issues found in it. -/
abbrev Reading (α : Type) := Except (List Issue) α

namespace Reading

/-- A complaint about the value itself. -/
def refuse {α : Type} (complaint : Complaint) : Reading α := .error [⟨[], complaint⟩]

/-- The same reading of a value one step further in. -/
def within {α : Type} (step : Step) : Reading α → Reading α
  | .ok a => .ok a
  | .error issues => .error (issues.map fun issue => { issue with place := step :: issue.place })

/-- Both readings, with the issues of both. -/
def both {α β : Type} (first : Reading α) (second : Reading β) : Reading (α × β) :=
  match first, second with
  | .ok a, .ok b => .ok (a, b)
  | .ok _, .error issues => .error issues
  | .error issues, .ok _ => .error issues
  | .error issues, .error more => .error (issues ++ more)

/-- The readings of all members, with the issues of all of them. -/
def all {α : Type} : List (Reading α) → Reading (List α)
  | [] => .ok []
  | r :: rs => (both r (all rs)).map fun pair => pair.1 :: pair.2

end Reading

abbrev Fields := List (Text × Value)

namespace Fields

/-- The value of a field, the last one if the name is given twice. -/
def get? (fields : Fields) (name : Text) : Option Value :=
  (fields.reverse.find? (·.1 == name)).map (·.2)

/-- Reads a field that has to be given. -/
def required {α : Type} (fields : Fields) (name : Text) (read : Value → Reading α) : Reading α :=
  match fields.get? name with
  | none => .error [⟨[.field name], .missing⟩]
  | some v => (read v).within (.field name)

/-- Reads a field that has a default. -/
def optional {α : Type} (fields : Fields) (name : Text) (default : α) (read : Value → Reading α) :
    Reading α :=
  match fields.get? name with
  | none => .ok default
  | some v => (read v).within (.field name)

end Fields

/-! ### Texts and integers -/

/-- Reads a text. Bytes are read as the text they are written as. -/
def Value.readText : Value → Reading Text
  | .text t => .ok t
  | .bytes bs => match Text.decode bs with
    | .ok s => .ok s
    | .error _ => Reading.refuse .brokenText
  | _ => Reading.refuse .notText

namespace Numeral

/-- A plain numeral: a minus sign or none, and decimal digits without a zero in front of others. -/
def plain? (cs : List Char) : Option Int :=
  let unsigned (digits : List Char) : Option Nat :=
    match digits with
    | [] => none
    | ['0'] => some 0
    | '0' :: _ => none
    | digits => if digits.all Text.isDigit then some (Text.decimalValue digits) else none
  match cs with
  | '-' :: digits => (unsigned digits).map fun n => -(n : Int)
  | digits => (unsigned digits).map fun n => (n : Int)

/-- The number of digits in front of a text, behind a minus sign; none if the first of them is a zero. -/
def leadingDigits (cs : List Char) : Nat :=
  let unsigned := match cs with
    | '-' :: rest => rest
    | rest => rest
  if unsigned.head? == some '0' then 0 else (unsigned.takeWhile Text.isDigit).length

/-- Takes the zeros and low lines off the front of a numeral that starts with a zero, up to another digit, a
    minus sign or the last character in front of a point. A numeral that starts otherwise has to start with
    a digit. -/
def dropZeros? : List Char → Option (List Char)
  | '0' :: rest => go '0' rest
  | c :: rest => if Text.isDigit c || c == '-' then some (c :: rest) else none
  | [] => none
where
  /-- Goes on behind the character `last`. -/
  go (last : Char) : List Char → Option (List Char)
    | [] => some [last]
    | c :: rest =>
      if c == '0' || c == '_' then go c rest
      else if c == '.' then some (last :: c :: rest)
      else if Text.isDigit c || c == '-' then some (c :: rest)
      else none

/-- Takes off a fraction that holds nothing but zeros, and at least one. -/
def dropZeroFraction (cs : List Char) : List Char :=
  match cs.span (· != '.') with
  | (whole, _ :: zeros) => if !zeros.isEmpty && zeros.all (· == '0') then whole else cs
  | (_, []) => cs

/-- Takes single low lines out from between other characters. -/
def joinGroups (cs : List Char) : List Char :=
  if (Text.splitWhere (· == '_') cs).any List.isEmpty then cs else cs.filter (· != '_')

/-- The plain numeral that a text comes to once spaces, a plus sign, zeros in front, a fraction of zeros and
    low lines are taken off. -/
def tidied? (cs : List Char) : Option (List Char) :=
  let trimmed := Text.trimWhere (fun c => Text.isSpace (.char c)) cs
  match trimmed with
  | '+' :: '-' :: _ => none
  | '-' :: rest => (dropZeros? rest).map fun cs => '-' :: joinGroups (dropZeroFraction cs)
  | '+' :: rest => (dropZeros? rest).map fun cs => joinGroups (dropZeroFraction cs)
  | rest => (dropZeros? rest).map fun cs => joinGroups (dropZeroFraction cs)

/-- Reads the integer that characters spell. A plain numeral that is too long is told from other texts, as
    long as nothing stands in front of it. -/
def read (cs : List Char) : Reading Int :=
  if leadingDigits cs > Text.mostDigits then Reading.refuse .tooLarge
  else match plain? cs with
    | some n => .ok n
    | none => match (tidied? cs).filter fun tidy => leadingDigits tidy ≤ Text.mostDigits with
      | none => Reading.refuse .unreadableInteger
      | some tidy => match plain? tidy with
        | some n => .ok n
        | none => Reading.refuse .unreadableInteger

end Numeral

/-- The bound of the numbers without a fraction that are read as integers: they fit into sixty-four bits. -/
def floatBound : Int := 9223372036854775808

/-- Reads an integer: an integer, a truth value, a number without a fraction, or a text that spells one. -/
def Value.readInteger : Value → Reading Int
  | .int n => .ok n
  | .bool b => .ok (if b then 1 else 0)
  | .float x =>
    if !x.isFinite then Reading.refuse .notFinite
    else match x.toInt? with
      | some n => if n.natAbs < floatBound then .ok n else Reading.refuse .tooLarge
      | none => Reading.refuse .fractional
  | .text t => match t.chars? with
    | some cs => Numeral.read cs
    | none => Reading.refuse .unreadableInteger
  | _ => Reading.refuse .notInteger

end GeneratorHost
