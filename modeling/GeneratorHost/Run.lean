import GeneratorHost.Generation
import GeneratorHost.Plugin.Discovery
import GeneratorHost.Property
import GeneratorHost.Settings
import GeneratorHost.Text.Ansi

/-! One run: settings and properties are read, the paths are checked, the plug-in is loaded, its generator
    is run once, and what it produced is written. The first step that fails ends the run; files are written
    only after the generator is done. -/

namespace GeneratorHost
namespace Run

/-- Who is told about a warning when it comes up. -/
inductive Audience
  | log
  | caller
  | terminal
  deriving DecidableEq, Repr, Inhabited

/-- What a run is asked to do. Without references those of the host are used. -/
structure Request where
  plugin : Path
  output : Path
  properties : List Text
  text : Option Path
  settings : Option Path
  references : Option (List Reference)
  audience : Audience
  deriving Inhabited

/-- What a successful run comes to. -/
structure Report where
  generator : Plugin.GeneratorName
  output : Path
  written : Nat
  diagnostics : List Diagnostic
  warnings : List Text
  deriving Inhabited

def warn (audience : Audience) (message : Text) : Act World Unit :=
  match audience with
  | .log => World.log Level.warning .run message
  | .caller => modify fun w => { w with warned := w.warned ++ [message] }
  | .terminal => World.printError (Text.plain message ++ "\n")

/-- Tells the audience about warnings, in order. -/
def warnAll (audience : Audience) : List Text → Act World Unit
  | [] => pure ()
  | message :: messages => do
    warn audience message
    warnAll audience messages

def logAll (level : Level) (logger : Logger) : List Text → Act World Unit
  | [] => pure ()
  | message :: messages => do
    World.log level logger message
    logAll level logger messages

def openTexts (t : FileTree) : List Path → Except Failure (List AdditionalText)
  | [] => .ok []
  | path :: paths => do
    let text ← AdditionalText.ofPath t path
    let texts ← openTexts t paths
    pure (text :: texts)

/-- The plug-in has to be there; the output directory is made if it is missing. -/
def checkPaths (plugin output : Path) : Act World Unit := do
  if !(← World.ask (·.exists plugin)) then throw (.moduleMissing plugin.text)
  if !(← World.ask (·.isDirectory output)) then
    World.log Level.info .run ("Output directory does not exist, creating: " ++ output.text)
    World.makeDirectory output

/-- What a run works with once everything before the plug-in is settled. -/
structure Prepared where
  plugin : Path
  output : Path
  options : Options Text
  texts : List AdditionalText
  warnings : List Text
  deriving Inhabited

/-- Settles everything before the plug-in: paths, options and texts. -/
def prepare (r : Request) : Act World Prepared := do
  let plugin ← World.ask (·.resolve r.plugin)
  let output ← World.ask (·.resolve r.output)
  let settings ← Settings.load r.settings
  let parsed := Property.parse r.properties
  logAll Level.debug .properties parsed.remarks
  warnAll r.audience parsed.warnings
  let options := (Options.ofPairs settings.options).mergedPairs parsed.properties
  let texts ← World.ask fun t => openTexts t (r.text.toList ++ settings.texts)
  checkPaths plugin output
  pure ⟨plugin, output, options, texts, parsed.warnings⟩

def loadModule (plugin : Path) : Act World Plugin.Module := do
  let files := (← get).files
  let name ← World.onRegistry (Plugin.Registry.load files plugin)
  World.log Level.debug .plugins ("Loaded generator module " ++ plugin.text ++ " as " ++ name)
  match (← get).registry.find? name with
  | some m => pure m
  | none => throw (.importing (.noModule name))

/-- Makes the generator that a module is run for, and says which other ones were passed over. -/
def chooseGenerator (r : Request) (m : Plugin.Module) : Act World (Plugin.Generator × List Text) := do
  let resolution ← Act.ofExcept (Plugin.resolve m)
  let warnings := resolution.warning.toList
  logAll Level.debug .plugins warnings
  warnAll r.audience warnings
  let generator ← Act.ofExcept (Plugin.instantiate resolution.chosen)
  pure (generator, warnings)

def references (r : Request) : Act World (List Reference) :=
  match r.references with
  | some references => pure references
  | none => do
    let host := (← get).host
    let found ← World.ask host.libraries
    World.log Level.debug .host ("Found " ++ Text.ofNat found.length ++ " platform libraries")
    pure found

/-- What is said about a generator that is done. -/
def remark (generator : Text) (produced : Nat × Nat) : Text :=
  generator ++ " produced " ++ Text.ofNat produced.1 ++ " document(s), " ++ Text.ofNat produced.2 ++
    " diagnostic(s)"

/-- What is said about a generator that is about to run. -/
def announcement (plugin : Path) (generator : Text) : Text :=
  "Running generator " ++ generator ++ " from " ++ plugin.text

/-- Makes a record that shows the name of a generator. A method cannot be shown, which comes up when a handler takes
    the record; if none does, nothing is made of it. -/
def logNamed (level : Level) (logger : Logger) (name : Plugin.GeneratorName) (message : Text → Text) : Act World Unit :=
  match name with
  | .text name => World.log level logger (message name)
  | .method => do
    if (← get).logging.takes ⟨level, logger, .empty⟩ then throw .unshowable

def generate (r : Request) (p : Prepared) (g : Plugin.Generator) : Act World Generation.Result := do
  logNamed Level.info .run g.name (announcement p.plugin)
  let references ← references r
  let files := (← get).files
  let result ← World.onSession (Generation.execute files references p.options p.texts g.script)
  logNamed Level.debug .generation g.name fun name => remark name result.produced
  pure result

/-- Everything up to the point where files are written. -/
def produce (r : Request) : Act World (Prepared × Plugin.Generator × List Text × Generation.Result) := do
  let p ← prepare r
  let m ← loadModule p.plugin
  let (g, ambiguities) ← chooseGenerator r m
  let result ← generate r p g
  pure (p, g, p.warnings ++ ambiguities, result)

/-- Runs a plug-in once and writes what it produced. -/
def run (r : Request) : Act World Report := do
  let (p, g, warnings, result) ← produce r
  let written ← World.writeArtifacts p.output g.className (result.artifacts.map (·.source))
  pure ⟨g.name, p.output, written, result.diagnostics, warnings⟩

end Run
end GeneratorHost
