import GeneratorHost.Options
import GeneratorHost.Text.Split

/-! Build properties: options given on the command line as `KEY=VALUE`. An entry that does not split into
    exactly two parts is left out with a warning. -/

namespace GeneratorHost
namespace Property

/-- What stands in front of the key of every build property. -/
def keyStart : Text := "build_property."

/-- Takes the marker of a command-line option off the front of an argument, or the colon that is left
    when the option itself was taken off already. -/
def stripMarker (raw marker : Text) : Text :=
  if marker.startsWith raw then ⟨raw.letters.drop marker.length⟩
  else match raw.letters with
    | .char ':' :: rest => ⟨rest⟩
    | _ => raw

def marker : Text := "-P:"

/-- The key and the value of an entry that has the form of a property. -/
def split? (entry : Text) : Option (Text × Text) :=
  match Text.splitAt '=' (stripMarker entry marker) with
  | [key, value] => some (key, value)
  | _ => none

def warning (entry : Text) : Text := "Warning: Ignoring invalid property format: " ++ entry

/-- The properties of a list of entries, the warnings about the others, and the remarks made on the
    way. -/
structure Parsed where
  properties : List (Text × Text)
  warnings : List Text
  remarks : List Text
  deriving DecidableEq, Repr, Inhabited

/-- Sets the value of a key, spelled exactly so, in its place. -/
def insertExact (key value : Text) : List (Text × Text) → List (Text × Text)
  | [] => [(key, value)]
  | pair :: rest => if pair.1 = key then (key, value) :: rest else pair :: insertExact key value rest

/-- Takes one entry into account. -/
def Parsed.take (parsed : Parsed) (entry : Text) : Parsed :=
  match split? entry with
  | none =>
    { parsed with
      warnings := parsed.warnings ++ [warning entry]
      remarks := parsed.remarks ++ [warning entry] }
  | some (key, value) =>
    { parsed with
      properties := insertExact (keyStart ++ key) value parsed.properties
      remarks :=
        if parsed.properties.any (·.1 == keyStart ++ key) then
          parsed.remarks ++ ["Property " ++ key ++ " supplied more than once, keeping last value"]
        else parsed.remarks }

/-- Reads entries in order. A key that is given again keeps its place and takes the new value. -/
def parse (entries : List Text) : Parsed :=
  entries.foldl Parsed.take ⟨[], [], []⟩

end Property
end GeneratorHost
