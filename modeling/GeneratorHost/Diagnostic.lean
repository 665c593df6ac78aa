import GeneratorHost.Failure

/-! Diagnostics: what a generator or the program itself has to say about a document. They are only ever
    reported; none of them stops anything. -/

namespace GeneratorHost

inductive Severity
  | hidden
  | info
  | warning
  | error
  deriving DecidableEq, Repr, Inhabited

namespace Severity

def text : Severity → String
  | hidden => "hidden"
  | info => "info"
  | warning => "warning"
  | error => "error"

def ofText? (s : Text) : Option Severity :=
  [hidden, info, warning, error].find? fun severity => Text.ofString severity.text == s

def read : Value → Reading Severity
  | .text s => match ofText? s with
    | some severity => .ok severity
    | none => Reading.refuse .notSeverity
  | _ => Reading.refuse .notSeverity

end Severity

/-- Where a diagnostic points: the path of a document and perhaps a line. -/
structure Location where
  path : Text
  line : Option Int
  deriving DecidableEq, Repr, Inhabited

namespace Location

/-- The path, and the line in brackets. An integer of any size is a line, but one with too many digits is not
    written. -/
def text (l : Location) : Except Failure Text :=
  match l.line with
  | none => .ok l.path
  | some n => if Text.fitsDigits n then .ok (l.path ++ "(" ++ Text.ofInt n ++ ")") else .error (.scalar .unwritable)

def readLine : Value → Reading (Option Int)
  | .null => .ok none
  | v => v.readInteger.map some

def read (fields : Fields) : Reading Location :=
  (Reading.both (fields.optional "path" Text.empty Value.readText) (fields.optional "line" none readLine)).map
    fun pair => ⟨pair.1, pair.2⟩

def ofFields (fields : Fields) : Except Failure Location :=
  (read fields).mapError (.invalid "Location")

end Location

/-- A message with an identifier, a severity and perhaps a location. -/
structure Diagnostic where
  id : Text
  message : Text
  severity : Severity
  location : Option Location
  deriving DecidableEq, Repr, Inhabited

namespace Diagnostic

def isError (d : Diagnostic) : Bool := d.severity == .error

/-- What stands before everything else in a report. -/
def placeText (d : Diagnostic) : Except Failure Text :=
  match d.location with
  | none => .ok .empty
  | some l => l.text.map fun place => if place == .empty then .empty else place ++ ": "

/-- One line of report: location, severity, identifier and message. -/
def text (d : Diagnostic) : Except Failure Text :=
  d.placeText.map fun place => place ++ d.severity.text ++ " " ++ d.id ++ ": " ++ d.message

/-- The fields of a value that stands for a record. -/
def fieldsOf (entries : List (Value × Value)) : Fields :=
  entries.filterMap fun
    | (.text name, v) => some (name, v)
    | _ => none

def readLocation : Value → Reading (Option Location)
  | .null => .ok none
  | .map entries => (Location.read (fieldsOf entries)).map some
  | _ => Reading.refuse .notLocation

/-- Reads a diagnostic whose location is read by `location`. -/
def readWith (fields : Fields) (location : Reading (Option Location)) : Reading Diagnostic :=
  (Reading.both (fields.required "id" Value.readText) <|
    Reading.both (fields.required "message" Value.readText) <|
      Reading.both (fields.optional "severity" .warning Severity.read) location).map
    fun (id, message, severity, location) => ⟨id, message, severity, location⟩

def ofFields (fields : Fields) : Except Failure Diagnostic :=
  (readWith fields (fields.optional "location" none readLocation)).mapError (.invalid "Diagnostic")

/-- A diagnostic made from its fields, with a location if a path is given. The location is made first. -/
def create (fields : Fields) : Except Failure Diagnostic := do
  if (fields.get? "cls").isSome then throw (.givenTwice "Diagnostic.create" "cls")
  let absent := (["id", "message"] : List Text).filter fun name => (fields.get? name).isNone
  if !absent.isEmpty then throw (.missingArguments "Diagnostic.create" absent)
  let path := (fields.get? "path").getD .null
  let line := (fields.get? "line").getD .null
  let location ←
    if path.isGiven then (Location.ofFields [("path", path), ("line", line)]).map some else pure none
  if (fields.get? "location").isSome then
    throw (.repeatedArgument "genharness.core.models.diagnostic.Diagnostic" "location")
  (readWith fields (.ok location)).mapError (.invalid "Diagnostic")

end Diagnostic
end GeneratorHost
