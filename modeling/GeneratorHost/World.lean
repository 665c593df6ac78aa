import GeneratorHost.Artifact
import GeneratorHost.Host
import GeneratorHost.Log
import GeneratorHost.Plugin.Loading
import GeneratorHost.Session

/-! The world of a run: the file tree, the host, the log, the terminal, the registry of plug-ins and the
    session of the generators. A record is written the moment it is made. -/

namespace GeneratorHost

/-- Everything that a run reads and changes. -/
structure World where
  files : FileTree
  host : Host
  logging : Logging
  records : List Record
  out : String
  err : String
  registry : Plugin.Registry
  session : Session
  /-- the tokens given out for names of files -/
  tokens : Nat
  /-- the warnings handed to the caller -/
  warned : List Text
  deriving Inhabited

namespace World

/-- A world in which nothing has happened yet. -/
def new (files : FileTree) (host : Host) : World :=
  ⟨files, host, .start, [], "", "", .empty, .new, 0, []⟩

/-- The world after a record was made. -/
def logged (w : World) (r : Record) : World :=
  { w with
    records := w.records ++ [r]
    err := w.err ++ (w.logging.onTerminal r).shown
    files := match w.logging.inFile? r with
      | some (route, line) => w.files.appendAt route line
      | none => w.files }

def log (level : Level) (logger : Logger) (message : Text) : Act World Unit :=
  modify fun w => w.logged ⟨level, logger, message⟩

/-- Writes a text on the standard output, which takes no text with halves in it. -/
def print (t : Text) : Act World Unit := fun w =>
  match t.encode with
  | .ok _ => .ok () { w with out := w.out ++ t.shown }
  | .error e => .error (.unencodable e) w

/-- Writes a text on the standard error, which takes any; of a half its escape is written. -/
def printError (t : Text) : Act World Unit := modify fun w => { w with err := w.err ++ t.shown }

def onSession {α : Type} (step : Act Session α) : Act World α :=
  Act.on session (fun s w => { w with session := s }) step

def onRegistry {α : Type} (step : Act Plugin.Registry α) : Act World α :=
  Act.on registry (fun r w => { w with registry := r }) step

def ask {α : Type} (question : FileTree → Except Failure α) : Act World α := do
  Act.ofExcept (question (← get).files)

/-- A token for the name of a file. -/
def freshToken : Act World Nat := modifyGet fun w => (w.tokens + 1, { w with tokens := w.tokens + 1 })

def change (attempt : FileTree → FileTree.Attempt) : Act World Unit := fun w =>
  match attempt w.files with
  | (files, none) => .ok () { w with files }
  | (files, some e) => .error e { w with files }

/-- Makes a directory and all that is missing on the way to it. -/
def makeDirectory (p : Path) : Act World Unit := change fun t => t.makeDirectory p

def writeText (p : Path) (text : Text) : Act World Unit := change fun t => t.writeText p text

/-! ### Writing artifacts -/

/-- The file name of a document; one without a usable name gets a synthesized one. -/
def nameArtifact (generator : Text) (artifact : Source) : Act World Text :=
  match Artifact.fileName? artifact.path with
  | some name => pure name
  | none => do
    let name := Artifact.synthesize generator (← freshToken)
    log Level.debug .artifacts ("Artifact without a usable name written as " ++ name)
    pure name

def writeArtifact (directory : Path) (generator : Text) (artifact : Source) : Act World Unit := do
  let name ← nameArtifact generator artifact
  let target := directory.child name
  if ← ask (·.exists target) then log Level.debug .artifacts ("Overwriting " ++ target.text)
  writeText target artifact.text

def writeAll (directory : Path) (generator : Text) : List Source → Act World Unit
  | [] => pure ()
  | artifact :: artifacts => do
    writeArtifact directory generator artifact
    writeAll directory generator artifacts

/-- Writes documents into a directory, which is made if it is missing, and counts them. -/
def writeArtifacts (directory : Path) (generator : Text) (artifacts : List Source) : Act World Nat := do
  makeDirectory directory
  writeAll directory generator artifacts
  pure artifacts.length

/-- Puts a plan for the log into effect. -/
def setUpLog (p : Logging.Plan) : Act World Unit := fun w =>
  match w.logging.setUp w.files p with
  | (logging, files, none) => .ok () { w with logging, files }
  | (logging, files, some e) => .error e { w with logging, files }

end World
end GeneratorHost
