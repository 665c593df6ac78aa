import GeneratorHost.FileTree

/-! The arguments of the command line. Options may stand anywhere before a double hyphen; single-letter
    ones may be joined. An option that takes a value takes the next argument, whatever it looks like. -/

namespace GeneratorHost
namespace Command

inductive Switch
  | text
  | property
  | settings
  | json
  | verbose
  | quiet
  | debug
  | version
  | help
  deriving DecidableEq, Repr, Inhabited

namespace Switch

def longNames : List (String × Switch) :=
  [("--additional-text", text), ("--property", property), ("--config", settings), ("--json-output", json),
    ("--json", json), ("--verbose", verbose), ("--quiet", quiet), ("--debug", debug), ("--version", version),
    ("--help", help)]

def letters : List (Char × Switch) :=
  [('T', text), ('P', property), ('c', settings), ('v', verbose), ('q', quiet)]

def takesValue : Switch → Bool
  | text | property | settings => true
  | _ => false

end Switch

inductive UsageError
  | noSuchOption (name : Text)
  | needsArgument (name : Text)
  | takesNoValue (name : Text)
  | missing (name : String)
  | unexpected (arguments : List Text)
  deriving DecidableEq, Repr, Inhabited

namespace UsageError

def message : UsageError → Text
  | noSuchOption name => "No such option " ++ name.quoted ++ "."
  | needsArgument name => "Option " ++ name.quoted ++ " requires an argument."
  | takesNoValue name => "Option " ++ name.quoted ++ " does not take a value."
  | missing name => "Missing argument " ++ Text.quoted name ++ "."
  | unexpected arguments =>
    "Got unexpected extra argument" ++ (if arguments.length == 1 then "" else "s") ++ " (" ++
      Text.intercalate " " arguments ++ ")"

def showsUsage : UsageError → Bool
  | needsArgument _ => false
  | takesNoValue _ => false
  | _ => true

end UsageError

/-- The options given, each with its value if it takes one, and the other arguments; both in order. -/
structure Given where
  options : List (Switch × Text)
  positional : List Text
  deriving DecidableEq, Repr, Inhabited

namespace Given

def nothing : Given := ⟨[], []⟩

def withOption (g : Given) (s : Switch) (value : Text) : Given :=
  { g with options := g.options ++ [(s, value)] }

def valuesOf (g : Given) (s : Switch) : List Text :=
  (g.options.filter fun option => option.1 == s).map (·.2)

def has (g : Given) (s : Switch) : Bool := g.options.any fun option => option.1 == s

end Given

/-- An option, and what is left of the arguments after its value. -/
def takeValue (g : Given) (s : Switch) (name : Text) (attached : Option Text) (rest : List Text) :
    Except UsageError (Given × List Text) :=
  match attached, rest with
  | some value, rest => .ok (g.withOption s value, rest)
  | none, value :: rest => .ok (g.withOption s value, rest)
  | none, [] => .error (.needsArgument name)

/-- Reads joined letters. The first one that takes a value takes the letters after it. -/
def readLetters (g : Given) (rest : List Text) : List Letter → Except UsageError (Given × List Text)
  | [] => .ok (g, rest)
  | letter :: more =>
    let name : Text := ⟨[.char '-', letter]⟩
    match Switch.letters.find? fun entry => Letter.char entry.1 == letter with
    | none => .error (.noSuchOption name)
    | some (_, s) =>
      if s.takesValue then takeValue g s name (if more.isEmpty then none else some ⟨more⟩) rest
      else readLetters (g.withOption s .empty) rest more

/-- Cuts an argument at its first equals sign. -/
def cutValue (argument : Text) : Text × Option Text :=
  match argument.letters.span (· != .char '=') with
  | (name, []) => (⟨name⟩, none)
  | (name, _ :: value) => (⟨name⟩, some ⟨value⟩)

/-- Whether an argument starts with two hyphens. -/
def isLong (argument : Text) : Bool :=
  match argument.letters with
  | .char '-' :: .char '-' :: _ => true
  | _ => false

/-- Reads one argument that starts with a hyphen. -/
def readOption (g : Given) (argument : Text) (rest : List Text) : Except UsageError (Given × List Text) :=
  let (name, attached) := cutValue argument
  match Switch.longNames.find? fun entry => Text.ofString entry.1 == name with
  | some (_, s) =>
    if s.takesValue then takeValue g s name attached rest
    else if attached.isSome then .error (.takesNoValue name)
    else .ok (g.withOption s .empty, rest)
  | none =>
    if isLong argument then .error (.noSuchOption name)
    else readLetters g rest (argument.letters.drop 1)

/-- What stands before arguments that are no options, whatever they look like. -/
def optionsEnd : Text := "--"

/-- An argument that is read as an option. -/
def isOption (argument : Text) : Bool := argument.letters.head? == some (.char '-') && argument.length > 1

/-- Reads arguments in order. The number bounds how many are read. -/
def readArguments (g : Given) : Nat → List Text → Except UsageError Given
  | 0, _ => .ok g
  | _ + 1, [] => .ok g
  | fuel + 1, argument :: rest =>
    if argument == optionsEnd then .ok { g with positional := g.positional ++ rest }
    else if isOption argument then do
      let (g, rest) ← readOption g argument rest
      readArguments g fuel rest
    else readArguments { g with positional := g.positional ++ [argument] } fuel rest

def Given.ofArguments (arguments : List Text) : Except UsageError Given :=
  readArguments .nothing (arguments.length + 1) arguments

structure Invocation where
  plugin : Path
  output : Path
  texts : List Text
  properties : List Text
  settings : Option Path
  json : Bool
  debug : Bool
  verbose : Bool
  quiet : Bool
  deriving DecidableEq, Repr, Inhabited

/-- What the arguments come to: something to do, a text to show, a refusal, or a path that cannot be looked
    at. -/
inductive Parsed
  | invocation (i : Invocation)
  | help
  | version
  | refused (e : UsageError)
  | crash
  deriving DecidableEq, Repr, Inhabited

/-- The path in an argument, which is looked at at once. -/
def readPath (argument : Text) (next : Path → Parsed) : Parsed :=
  match FileTree.bytesOf argument with
  | .ok _ => next (.ofText argument)
  | .error _ => .crash

/-- The path in an argument that need not be given. -/
def readPathIfGiven (argument : Option Text) (next : Option Path → Parsed) : Parsed :=
  match argument with
  | none => next none
  | some argument => readPath argument fun path => next (some path)

/-- The path in an argument that has to be given. -/
def readPositional (name : String) (argument : Option Text) (next : Path → Parsed) : Parsed :=
  match argument with
  | none => .refused (.missing name)
  | some argument => readPath argument next

/-- What is given comes to. Help and version come before everything else, the one given first. -/
def Parsed.ofGiven (g : Given) : Parsed :=
  match g.options.find? fun option => option.1 == .help || option.1 == .version with
  | some (.help, _) => .help
  | some _ => .version
  | none =>
    readPathIfGiven (g.valuesOf .settings).getLast? fun settings =>
      readPositional "MODULE_PATH" g.positional[0]? fun plugin =>
        readPositional "OUTPUT_DIR" g.positional[1]? fun output =>
          match g.positional.drop 2 with
          | [] => .invocation {
              plugin, output, settings
              texts := g.valuesOf .text
              properties := g.valuesOf .property
              json := g.has .json
              debug := g.has .debug
              verbose := g.has .verbose
              quiet := g.has .quiet }
          | extra => .refused (.unexpected extra)

def Parsed.ofArguments (arguments : List Text) : Parsed :=
  match Given.ofArguments arguments with
  | .ok g => .ofGiven g
  | .error e => .refused e

end Command
end GeneratorHost
