import GeneratorHost.FileTree

/-! Log records, their levels and the handlers that write them. There is one handler for the terminal and
    perhaps one for a file; a record is written by every handler whose level it reaches. -/

namespace GeneratorHost

/-! ### Levels -/

/-- How important a record is; more important records have higher levels. -/
abbrev Level := Nat

namespace Level

def debug : Level := 10
def info : Level := 20
def warning : Level := 30
def error : Level := 40

/-- The names of levels. Of the names of one level the first is written; all of them are read. -/
def names : List (String × Level) :=
  [("CRITICAL", 50), ("ERROR", 40), ("WARNING", 30), ("INFO", 20), ("DEBUG", 10), ("NOTSET", 0),
    ("FATAL", 50), ("WARN", 30)]

def text (level : Level) : String :=
  match names.find? fun entry => entry.2 == level with
  | some (name, _) => name
  | none => "Level " ++ Text.ofNat level

/-- The capital of a character, as far as the capitals in the names of levels are concerned: besides the
    small ASCII letters, the dotless i and the long s have one. -/
def capital (c : Char) : Char :=
  let n := c.toNat
  if 0x61 ≤ n && n ≤ 0x7A then Char.ofNat (n - 32)
  else if n == 0x131 then 'I'
  else if n == 0x17F then 'S'
  else c

/-- The level of a name, in whatever case. What is no name of a level counts as a warning. -/
def ofName (name : Text) : Level :=
  let capitals := name.string?.map fun s => String.ofList (s.toList.map capital)
  match names.find? fun entry => some entry.1 == capitals with
  | some (_, level) => level
  | none => warning

/-- The level of a name that may be missing. -/
def ofName? (name : Option Text) : Level := ofName (name.getD .empty)

end Level

/-! ### Records -/

inductive Logger
  | settings
  | properties
  | host
  | generation
  | plugins
  | artifacts
  | run
  | named (name : Text)
  deriving DecidableEq, Repr, Inhabited

def Logger.name : Logger → Text
  | settings => "genharness.core.config.loader"
  | properties => "genharness.core.config.properties"
  | host => "genharness.core.engine.host"
  | generation => "genharness.core.engine.driver"
  | plugins => "genharness.core.engine.loader"
  | artifacts => "genharness.core.services.writer"
  | run => "genharness.core.use_cases.run"
  | named name => if name == .empty then "root" else name

/-- A record. Records of level zero are written by no handler. -/
structure Record where
  level : Level
  logger : Logger
  message : Text
  deriving DecidableEq, Repr, Inhabited

/-- How a handler lays out a record. -/
inductive Layout
  | bare
  | named
  | full
  | dated
  deriving DecidableEq, Repr, Inhabited

namespace Layout

/-- What the clock of the log shows. It stands still, so that equal runs write equal logs. -/
def time : String := "00:00:00"

def day : String := "1970-01-01"

/-- A text filled up with blanks to five characters. -/
def inFive (s : String) : String := s ++ String.ofList (List.replicate (5 - s.length) ' ')

def details (r : Record) : Text := inFive r.level.text ++ " " ++ r.logger.name ++ ":0 — " ++ r.message

def line (layout : Layout) (r : Record) : Text :=
  match layout with
  | bare => r.message
  | named => time ++ " [" ++ r.logger.name ++ "] " ++ r.message
  | full => time ++ " " ++ details r
  | dated => day ++ " " ++ time ++ " " ++ details r

/-- The layout on the terminal: the more is shown, the more is said about it. -/
def ofLevel (level : Level) : Layout :=
  if level ≤ Level.debug then full else if level ≤ Level.info then named else bare

end Layout

/-! ### Handlers -/

structure FileHandler where
  level : Level
  route : Route
  deriving DecidableEq, Repr, Inhabited

/-- The handlers in use, and the level below which records reach none of them. -/
structure Logging where
  threshold : Level
  /-- the level of the handler for the terminal -/
  terminal : Option Level
  file : Option FileHandler
  deriving DecidableEq, Repr, Inhabited

namespace Logging

def start : Logging := ⟨Level.warning, none, none⟩

/-- Whether a record is written by a handler of a given level. -/
def passes (l : Logging) (handler : Level) (r : Record) : Bool :=
  0 < r.level && l.threshold ≤ r.level && handler ≤ r.level

/-- Whether a record is written by any handler. -/
def takes (l : Logging) (r : Record) : Bool :=
  l.terminal.any (l.passes · r) || l.file.any fun h => l.passes h.level r

/-- The line that a record makes on the terminal. -/
def onTerminal (l : Logging) (r : Record) : Text :=
  match l.terminal with
  | some level => if l.passes level r then (Layout.ofLevel level).line r ++ "\n" else .empty
  | none => .empty

/-- The line that a record makes in the log file, and the route of that file. -/
def inFile? (l : Logging) (r : Record) : Option (Route × Text) :=
  match l.file with
  | some h => if l.passes h.level r then some (h.route, Layout.dated.line r ++ "\n") else none
  | none => none

/-- What a log is asked to do: the name of the level for the terminal, and perhaps a file with a level
    of its own. -/
structure Plan where
  level : Text
  file : Option Text
  fileLevel : Option Text
  deriving DecidableEq, Repr, Inhabited

/-- A text that is there and not empty. -/
def given? (t : Option Text) : Option Text := t.filter (· != .empty)

/-- The level of a plan for the log file: its own if one is given, else that of the terminal. -/
def Plan.levelOfFile (p : Plan) : Level :=
  match given? p.fileLevel with
  | some name => Level.ofName name
  | none => Level.ofName p.level

/-- Opens a log file, which is made if it is missing, and gives back its route. -/
def openFile (t : FileTree) (file : Text) : Except Failure (FileTree × Route) := do
  t.checkStart (Path.ofText file)
  let path := Path.ofRoute ((Path.ofText file).route t.workingDirectory)
  let path := if (Path.ofText file).anchor == .doubleRoot then { path with anchor := .doubleRoot } else path
  let route ← t.fileRoute path
  pure (if (t.lookup route).isNone then t.put route (.file (.bytes [])) else t, route)

/-- Puts a plan into effect. The handlers of an earlier plan are dropped first; if the log file cannot be
    opened, the new terminal handler is in use already and the threshold is still the old one. -/
def setUp (l : Logging) (t : FileTree) (p : Plan) : Logging × FileTree × Option Failure :=
  let level := Level.ofName p.level
  let begun : Logging := { l with terminal := some level, file := none }
  match given? p.file with
  | none => ({ begun with threshold := level }, t, none)
  | some file =>
    match openFile t file with
    | .error e => (begun, t, some e)
    | .ok (opened, route) =>
      let fileLevel := p.levelOfFile
      (⟨min level fileLevel, some level, some ⟨fileLevel, route⟩⟩, opened, none)

/-! ### Plans from the command line -/

structure Flags where
  debug : Bool
  verbose : Bool
  quiet : Bool
  deriving DecidableEq, Repr, Inhabited

/-- The name of the level for the terminal: what a flag asks for comes before the environment. -/
def Flags.resolve (f : Flags) (environment : Option Text) : Text :=
  if f.debug then "DEBUG"
  else if f.verbose then "INFO"
  else if f.quiet then "ERROR"
  else (given? environment).getD "WARNING"

abbrev Environment := List (String × Text)

/-- The value of a variable, the last one if it is given twice. -/
def Environment.get? (e : Environment) (name : String) : Option Text :=
  (e.reverse.find? (·.1 == name)).map (·.2)

/-- The variables that name the level for the terminal, the log file and its level. -/
def levelVariable : String := "GENHARNESS_LOG_LEVEL"
def fileVariable : String := "GENHARNESS_LOG_FILE"
def fileLevelVariable : String := "GENHARNESS_LOG_FILE_LEVEL"

def variableNames : List String := [levelVariable, fileVariable, fileLevelVariable]

def plan (f : Flags) (e : Environment) : Plan where
  level := f.resolve (Environment.get? e levelVariable)
  file := Environment.get? e fileVariable
  fileLevel := Environment.get? e fileLevelVariable

end Logging
end GeneratorHost
