import GeneratorHost.Issue
import GeneratorHost.Yaml.Fault

/-! Every way in which a step of the program fails, and the wording of each. A failed step keeps what it
    had done to the state before it failed. -/

namespace GeneratorHost

/-- Why the file tree refuses an operation. -/
inductive OsCause
  | missing
  | alreadyExists
  | notDirectory
  | isDirectory
  | nameTooLong
  deriving DecidableEq, Repr

namespace OsCause

def number : OsCause → Nat
  | missing => 2
  | alreadyExists => 17
  | notDirectory => 20
  | isDirectory => 21
  | nameTooLong => 36

def text : OsCause → String
  | missing => "No such file or directory"
  | alreadyExists => "File exists"
  | notDirectory => "Not a directory"
  | isDirectory => "Is a directory"
  | nameTooLong => "File name too long"

end OsCause

/-- Number, wording and path of a refused file operation. -/
def osMessage (cause : OsCause) (path : Text) : String :=
  "[Errno " ++ Text.ofNat cause.number ++ "] " ++ cause.text ++ ": " ++ Text.quoted path

/-- What is wrong with a settings file. -/
inductive SettingsFault
  | notFound (path : Text)
  | unreadable (path : Text) (cause : OsCause)
  | malformed (path : Text)
  | notMapping (path : Text) (kind : String)
  | invalid (path : Text) (issues : List Issue)
  deriving DecidableEq, Repr

def SettingsFault.message : SettingsFault → Text
  | notFound path => "Config file not found: " ++ path
  | unreadable path cause => "Cannot read " ++ path ++ ": " ++ osMessage cause path
  | malformed path => "Invalid YAML in " ++ path
  | notMapping path kind => "Expected a YAML mapping in " ++ path ++ ", got " ++ kind
  | invalid path issues =>
    "Invalid harness configuration in " ++ path ++ ": " ++ Issue.summary "HarnessConfig" issues

/-- Why the list of platform libraries cannot be made. -/
inductive HostFault
  | noStandardLibrary (location : Option Text)
  | noReferences
  deriving DecidableEq, Repr

def HostFault.message : HostFault → String
  | noStandardLibrary location =>
    "Platform library manifest unavailable: standard library not found (" ++
      (match location with | none => "None" | some path => Text.quoted path) ++ ")"
  | noReferences => "Platform library manifest unavailable: no references"

/-- Why a plug-in is not accepted. -/
inductive PluginFault
  | notPackage (path : Text)
  | unsupported (path : Text)
  | noGenerator (display : Text)
  deriving DecidableEq, Repr

def PluginFault.message : PluginFault → Text
  | notPackage path => "Not a Python package (no __init__.py): " ++ path
  | unsupported path => "Unsupported generator module (expected .py or package): " ++ path
  | noGenerator display => "No IncrementalGenerator implementations found in " ++ display

/-- What a name is looked up in. A module is told by its name, if it goes by one. -/
inductive Holder
  | class (name : Text)
  | value (kind : String)
  | module (name : Option Text) (isUnfinished : Bool)
  deriving DecidableEq, Repr

def Holder.text : Holder → Text
  | «class» name => "type object " ++ name.quoted
  | value kind => "'" ++ kind ++ "' object"
  | module none _ => "module"
  | module (some name) isUnfinished =>
    (if isUnfinished then "partially initialized module " else "module ") ++ name.quoted

/-- Whether a holder is a module, told by its name, whose import is still going on. -/
def Holder.isUnfinished : Holder → Bool
  | module (some _) isUnfinished => isUnfinished
  | _ => false

/-- Why a statement of a plug-in module fails, or a module cannot be looked into afterwards. -/
inductive ImportFault
  | noModule (name : Text)
  | notPackage (name parent : Text)
  | noName (name : Text) (moduleName file : Option Text) (unfinished : Bool)
  | noPackage
  | unbound (name : Text)
  | noMember (holder : Holder) (name : Text)
  | notClass (kind : String)
  | notNames (kind : String) (ofPackage : Bool)
  | notJoined (kind : String)
  | notText (what : String)
  | unreadable
  | tooDeep
  deriving DecidableEq, Repr

/-- What is said when a class is derived from a value: the kind of the value is taken for a class and called with
    the name, the bases and the members of the new class. -/
def derivationMessage (kind : String) : String :=
  match kind with
  | "function" => "function() argument 'code' must be code, not str"
  | "list" => "list expected at most 1 argument, got 3"
  | "str" => "str() argument 'encoding' must be str, not tuple"
  | "wrapper_descriptor" => "cannot create 'wrapper_descriptor' instances"
  | "NoneType" => "NoneType takes no arguments"
  | "dict" => "dict expected at most 1 argument, got 3"
  | "ModuleSpec" => "ModuleSpec.__init__() takes 3 positional arguments but 4 were given"
  | "SourceFileLoader" => "FileLoader.__init__() takes 3 positional arguments but 4 were given"
  | kind => kind ++ "() takes at most 2 arguments (3 given)"

def ImportFault.message : ImportFault → Text
  | noModule name => "No module named " ++ name.quoted
  | notPackage name parent => "No module named " ++ name.quoted ++ "; " ++ parent.quoted ++ " is not a package"
  | noName name moduleName none _ =>
    "cannot import name " ++ name.quoted ++ " from " ++ (moduleName.getD "<unknown module name>").quoted ++ " (unknown location)"
  | noName name moduleName (some file) unfinished =>
    let source := (moduleName.getD "<unknown module name>").quoted
    let source := if unfinished then "partially initialized module " ++ source ++ " (most likely due to a circular import)" else source
    "cannot import name " ++ name.quoted ++ " from " ++ source ++ " (" ++ file ++ ")"
  | noPackage => "attempted relative import with no known parent package"
  | unbound name => "name " ++ name.quoted ++ " is not defined"
  | noMember holder name =>
    holder.text ++ " has no attribute " ++ name.quoted ++
      (if holder.isUnfinished then " (most likely due to a circular import)" else "")
  | notClass kind => derivationMessage kind
  | notNames kind ofPackage =>
    "'" ++ kind ++ "' object " ++ (if ofPackage then "is not iterable" else "does not support indexing")
  | notJoined "list" => "can only concatenate list (not \"str\") to list"
  | notJoined kind => "unsupported operand type(s) for +: '" ++ kind ++ "' and 'str'"
  | notText what => what ++ " must be a string"
  | unreadable => "invalid syntax"
  | tooDeep => "maximum recursion depth exceeded"

/-- What cannot be changed. -/
inductive Fixed
  | optionAssignment
  | optionDeletion
  | optionAttribute
  | compilationField (name : String)
  deriving DecidableEq, Repr

def Fixed.message : Fixed → String
  | optionAssignment => "'ConfigurationContext' object does not support item assignment"
  | optionDeletion => "'ConfigurationContext' object does not support item deletion"
  | optionAttribute => "ConfigurationContext is immutable"
  | compilationField name => "cannot assign to field " ++ Text.quoted name

/-- How a step fails. -/
inductive Failure
  | os (cause : OsCause) (path : Text)
  | embeddedNul
  | tooManyParents
  | undecodable (error : Text.DecodeError)
  | unencodable (error : Text.EncodeError)
  | invalid (title : String) (issues : List Issue)
  | settings (fault : SettingsFault)
  | scalar (fault : Yaml.Fault)
  | host (fault : HostFault)
  | moduleMissing (path : Text)
  | plugin (fault : PluginFault)
  | importing (fault : ImportFault)
  | missingArguments (callee : Text) (names : List Text)
  | givenTwice (callee name : Text)
  | repeatedArgument (callee name : Text)
  | closed (operation role : String)
  | sourceNotText
  | notDiagnostic
  | noAttribute (kind name : String)
  | unhashable (kind : String)
  | missingKey (key : Value)
  | fixed (what : Fixed)
  | raised (kind message : Text)
  | exit (code : Value)
  | interrupt (message : Text)
  deriving Inhabited

namespace Failure

def message : Failure → Text
  | os cause path => osMessage cause path
  | embeddedNul => "embedded null byte"
  | tooManyParents => "maximum recursion depth exceeded while calling a Python object"
  | undecodable error => error.message
  | unencodable error => error.message
  | invalid title issues => Issue.summary title issues
  | settings fault => fault.message
  | scalar fault => fault.message
  | host fault => fault.message
  | moduleMissing path => "Generator module not found: " ++ path
  | plugin fault => fault.message
  | importing fault => fault.message
  | missingArguments callee names =>
    callee ++ "() missing " ++ Text.ofNat names.length ++ " required positional argument" ++
      (if names.length == 1 then "" else "s") ++ ": " ++ " and ".intercalate (names.map Text.quoted)
  | givenTwice callee name => callee ++ "() got multiple values for argument " ++ name.quoted
  | repeatedArgument callee name =>
    callee ++ "() got multiple values for keyword argument " ++ name.quoted
  | closed operation role => operation ++ " called after the " ++ role ++ " was closed"
  | sourceNotText => "add_source expects a str hint name and str text"
  | notDiagnostic => "report_diagnostic expects a Diagnostic"
  | noAttribute kind name => "'" ++ kind ++ "' object has no attribute " ++ Text.quoted name
  | unhashable kind => "unhashable type: '" ++ kind ++ "'"
  | missingKey key => key.written
  | fixed what => what.message
  | raised _ message => message
  | exit code => code.display
  | interrupt message => message

/-- What showing something fails with that is shown by showing it. -/
def unshowable : Failure :=
  .raised "RecursionError" "maximum recursion depth exceeded while getting the repr of an object"

/-- What asking for the working directory fails with once that was removed. No path is told. -/
def noWorkingDirectory : Failure :=
  .raised "FileNotFoundError" ("[Errno " ++ Text.ofNat OsCause.missing.number ++ "] " ++ OsCause.missing.text)

/-- A failure that a generator may handle itself. Leaving the program and an interrupt are none. -/
def isOrdinary : Failure → Bool
  | exit _ => false
  | interrupt _ => false
  | _ => true

end Failure

/-- A step on a state, which it may change before it fails. -/
abbrev Act (σ : Type) := EStateM Failure σ

namespace Act

variable {σ τ α : Type}

/-- A step on one part of a state. -/
def on (get : τ → σ) (set : σ → τ → τ) (step : Act σ α) : Act τ α := fun t =>
  match step (get t) with
  | .ok a s => .ok a (set s t)
  | .error e s => .error e (set s t)

/-- A step that does not fail, but gives back how another one ended. -/
def attempt (step : Act σ α) : Act σ (Except Failure α) := fun s =>
  match step s with
  | .ok a t => .ok (.ok a) t
  | .error e t => .ok (.error e) t

/-- A step whose outcome is known. -/
def ofExcept : Except Failure α → Act σ α
  | .ok a => pure a
  | .error e => throw e

end Act
end GeneratorHost
