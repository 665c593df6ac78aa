import GeneratorHost.Command
import GeneratorHost.Json.Reader
import GeneratorHost.Plugin.Json

/-! The program. What a run may look at is read from the disk before it, and what it changed is written
    afterwards. A plug-in file holds its statements in JSON. -/

namespace GeneratorHost
namespace Main

open Command

/-! ### Reading the file tree -/

/-- The content of a file: the statements of a plug-in module if it holds such, else its bytes. -/
def contentOf (bs : List UInt8) : Content :=
  match Text.decode bs with
  | .error _ => .bytes bs
  | .ok text => match (Json.parse? text).bind Plugin.Statement.listOfJson? with
    | some statements => .module statements
    | none => .bytes bs

/-- The routes that are passed on the way to what `names` lead to from `base`. -/
def passed (base : Route) : List Text → List Route
  | [] => [base]
  | name :: names => base :: passed (base.follow [name]) names

/-- The name of the place of a route on the disk; none if no place has such a name. -/
def place? (route : Route) : Option String := (Path.ofRoute route).text.string?

/-- The routes that are passed on the way to a path. -/
def passedTo (workingDirectory : Route) (p : Path) : List Route :=
  if p.isAbsolute then passed [] p.names else passed [] workingDirectory ++ passed workingDirectory p.names

/-- Reads the entry at a route into a tree, with what lies below it, `depth` names deep. -/
def readEntry (route : Route) (t : FileTree) (depth : Nat) : IO FileTree := do
  let some name := place? route | return t
  let place := (← IO.currentDir) / name
  if ← place.isDir then
    let t := t.put route .directory
    match depth with
    | 0 => pure t
    | depth + 1 => do
      let mut t := t
      for item in ← place.readDir do
        t ← readEntry (route ++ [Text.ofString item.fileName]) t depth
      pure t
  else if ← place.pathExists then
    pure (t.put route (.file (contentOf (← IO.FS.readBinFile place).toList)))
  else pure t

/-- Reads what is passed on the way to a path, and what lies below it. -/
def readPath (t : FileTree) (depth : Nat) (p : Path) : IO FileTree := do
  let mut t := t
  for route in passedTo t.workingDirectory p do
    t ← readEntry route t 0
  readEntry (p.route t.workingDirectory) t depth

def pluginDepth : Nat := 8

/-- Reads what an invocation names. -/
def readNamed (i : Invocation) (e : Logging.Environment) (t : FileTree) : IO FileTree := do
  let mut t := t
  t ← readPath t 1 (.ofRoute t.workingDirectory)
  t ← readPath t pluginDepth i.plugin
  t ← readPath t 1 i.output
  for p in i.settings.toList ++ (additionalText i).toList ++ (Logging.plan (flags i) e).file.toList.map .ofText do
    t ← readPath t 0 p
  match EStateM.run (Settings.load i.settings) (World.new t default) with
  | .ok settings _ =>
    for p in settings.texts do
      t ← readPath t 0 p
    pure t
  | .error _ _ => pure t

/-! ### Writing the file tree -/

/-- Whether an entry is not as it was in another tree. -/
def isChanged (before : FileTree) (route : Route) (entry : Entry) : Bool :=
  match before.lookup route, entry with
  | some .directory, .directory => false
  | some (.file old), .file new => old.toBytes != new.toBytes
  | _, _ => true

def writeEntry (route : Route) (entry : Entry) : IO Unit := do
  match place? route, entry with
  | some name, .directory => IO.FS.createDirAll name
  | some name, .file content => IO.FS.writeBinFile name ⟨content.toBytes.toArray⟩
  | none, _ => pure ()

def writeChanges (before after : FileTree) : IO Unit := do
  for (route, entry) in after.entries do
    if isChanged before route entry then writeEntry route entry

/-! ### The run -/

def environment : IO Logging.Environment :=
  Logging.variableNames.filterMapM fun name => do
    return (← IO.getEnv name).map fun value => (name, Text.ofString value)

/-- The host: the directory of the program is its only library. -/
def host : IO Host := do
  return ⟨some (Text.ofString (← IO.appDir).toString), Command.version, []⟩

/-- The tree that the arguments are about. -/
def readTree (arguments : List Text) (e : Logging.Environment) (library : Path) : IO FileTree := do
  let here := Path.ofText (Text.ofString (← IO.currentDir).toString)
  let t ← readPath ⟨here.names, []⟩ 0 library
  match Command.Parsed.ofArguments arguments with
  | .invocation i => readNamed i e t
  | _ => pure t

end Main
end GeneratorHost

open GeneratorHost in
/-- Runs the command with the arguments of the program and gives back its exit code. -/
def main (arguments : List String) : IO UInt32 := do
  let arguments := arguments.map Text.ofString
  let e ← Main.environment
  let host ← Main.host
  let files ← Main.readTree arguments e (Path.ofText (host.standardLibrary.getD .empty))
  let (code, world) := match EStateM.run (Command.run e arguments) (World.new files host) with
    | .ok code world => (code, world)
    | .error _ world => (1, world)
  Main.writeChanges files world.files
  IO.print world.out
  IO.eprint world.err
  return UInt32.ofNat code
