import GeneratorHost.World
import GeneratorHost.Yaml

/-! Settings: the options and additional texts that a settings file names. The file is optional unless its
    path is given. Relative paths in it are taken from its own directory. -/

namespace GeneratorHost

structure Settings where
  options : List (Text × Text)
  texts : List Path
  deriving DecidableEq, Repr, Inhabited

namespace Settings

def empty : Settings := ⟨[], []⟩

def fileName : String := "genharness.yml"

/-! ### From a mapping to settings -/

/-- The text of a scalar: truth values and numbers as they are written, anything else as it is. -/
def scalarText : Value → Value
  | .bool b => .text (if b then "true" else "false")
  | .int n => .text (Text.ofInt n)
  | .float x => .text x.text
  | v => v

/-- Whether a value can be written as a text. Only an integer with too many digits cannot. -/
def isWritable : Value → Bool
  | .int n => Text.fitsDigits n
  | _ => true

/-- Whether the keys and values of the options can be written. -/
def hasWritableOptions (fields : Fields) : Bool :=
  match fields.get? "options" with
  | some (.map entries) => entries.all fun entry => isWritable entry.1 && isWritable entry.2
  | _ => true

/-- Sets the value of a key, spelled exactly so, in its place. -/
def insertKey (key : Text) (v : Value) : List (Text × Value) → List (Text × Value)
  | [] => [(key, v)]
  | pair :: rest => if pair.1 = key then (key, v) :: rest else pair :: insertKey key v rest

/-- The entries of a mapping under the texts of their keys. -/
def textKeyed (entries : List (Value × Value)) : List (Text × Value) :=
  entries.foldl (fun pairs entry => insertKey entry.1.display (scalarText entry.2) pairs) []

/-- What stands for a half in the place of an issue: its three bytes, none of which is read. -/
def unreadHalf : List Letter := List.replicate 3 (Letter.ofCode 0xFFFD)

/-- A key as it stands in the place of an issue. -/
def placeName (key : Text) : Text :=
  ⟨key.letters.flatMap fun l => if l.isHalf then unreadHalf else [l]⟩

def readOption (pair : Text × Value) : Reading (Text × Text) :=
  (pair.2.readText.within (.field (placeName pair.1))).map fun value => (pair.1, value)

def readOptions : Value → Reading (List (Text × Text))
  | .map entries => Reading.all ((textKeyed entries).map readOption)
  | _ => Reading.refuse .notMapping

def readPath : Value → Reading Path
  | .text s => .ok (Path.ofText s)
  | _ => Reading.refuse .notPath

/-- Reads paths, each at its place in the list. -/
def readPathsFrom (place : Nat) : List Value → List (Reading Path)
  | [] => []
  | v :: vs => (readPath v).within (.index place) :: readPathsFrom (place + 1) vs

def readPaths : Value → Reading (List Path)
  | .list items => Reading.all (readPathsFrom 0 items)
  | .set items => Reading.all (readPathsFrom 0 items)
  | _ => Reading.refuse .notList

/-- Reads settings from the fields of a mapping, with paths as they stand there. -/
def ofFields (fields : Fields) : Reading Settings :=
  (Reading.both (fields.optional "options" [] readOptions)
    (fields.optional "additional_texts" [] readPaths)).map fun pair => ⟨pair.1, pair.2⟩

/-- The settings in the value that the settings file at `path` holds. -/
def ofValue (path : Text) (v : Value) : Except Failure Settings :=
  match v with
  | .null => .ok empty
  | .map entries =>
    let fields := Diagnostic.fieldsOf entries
    if hasWritableOptions fields then
      (ofFields fields).mapError fun issues => .settings (.invalid path issues)
    else .error (.scalar .unwritable)
  | v => .error (.settings (.notMapping path v.kindName))

/-- The settings with relative paths taken from a directory. -/
def rebase (directory : Path) (s : Settings) : Settings :=
  { s with texts := s.texts.map directory.join }

/-! ### From a file to settings -/

/-- The settings file in a directory, if there is one. Without a directory it is looked for in the working directory,
    which has to be there. -/
def find? (t : FileTree) (directory : Option Path) : Except Failure (Option Path) := do
  if directory.isNone then t.checkStart (.ofText ".")
  let candidate := (directory.getD (.ofRoute t.workingDirectory)).child fileName
  if ← t.isFile candidate then pure (some candidate) else pure none

/-- The fault of a settings file whose text is no proper YAML. A scalar of the wrong form is a failure of
    its own. -/
def yamlFailure (path : Text) : Yaml.Fault → Failure
  | .malformed => .settings (.malformed path)
  | fault => .scalar fault

/-- How deep collections are gone into: the fields, and the options or paths. Those below are refused whatever
    they hold. -/
def shownDepth : Nat := 2

/-- Reads the settings file at a path. -/
def read (t : FileTree) (path : Path) : Except Failure Settings := do
  let text ← match t.readText path with
    | .ok text => pure text
    | .error (.os cause _) => throw (.settings (.unreadable path.text cause))
    | .error e => throw e
  let value ← (Yaml.read shownDepth text).mapError (yamlFailure path.text)
  let settings ← ofValue path.text value
  let directory ← t.resolve path.parent
  pure (settings.rebase directory)

/-- What is said about settings that were read. -/
def remark (s : Settings) : Text :=
  "Loaded harness config with " ++ Text.ofNat s.options.length ++ " option(s), " ++
    Text.ofNat s.texts.length ++ " additional text(s)"

/-- Reads the settings file at a path that is known to be a file. -/
def loadFile (path : Path) : Act World Settings := do
  World.log Level.debug .settings ("Loading harness config from " ++ path.text)
  let settings ← World.ask fun t => read t path
  World.log Level.info .settings settings.remark
  pure settings

/-- Loads the settings file at a path, which has to be there, or the one in the working directory, which
    need not be. -/
def load (path : Option Path) : Act World Settings := do
  match path with
  | some path =>
    if ← World.ask (·.isFile path) then loadFile path
    else throw (.settings (.notFound path.text))
  | none =>
    match ← World.ask fun t => find? t none with
    | some path => loadFile path
    | none => pure empty

end Settings
end GeneratorHost
