import GeneratorHost.Command.Arguments
import GeneratorHost.Json
import GeneratorHost.Run

/-! The command: its arguments are read, the log is set up, the plug-in is run, and the outcome is
    reported. Whatever fails during the run is reported in one line and makes the exit code one; so does, without a
    line, what fails before it or while the outcome is reported. -/

namespace GeneratorHost
namespace Command

def usage : String := "Usage: genharness [OPTIONS] MODULE_PATH OUTPUT_DIR\n"

def helpText : String :=
  usage ++
"
  Run the code generator in MODULE_PATH once and write its output to OUTPUT_DIR.

Options:
  --version                   Show the version and exit.
  -T, --additional-text TEXT  Auxiliary text file passed to the generator
                              (-T:PATH also accepted).
  -P, --property TEXT         Build property KEY=VALUE, exposed as
                              build_property.KEY (repeatable).
  -c, --config PATH           Path to genharness.yml (default: ./genharness.yml
                              if present).
  --json-output, --json       Output the result as JSON.
  -v, --verbose               Enable verbose output.
  -q, --quiet                 Suppress non-essential output.
  --debug                     Enable debug logging (very verbose).
  --help                      Show this message and exit.
"

def version : String := "0.1.0"

def versionText : String := "genharness, version " ++ version ++ "\n"

def refusalText (e : UsageError) : Text :=
  (if e.showsUsage then usage ++ "Try 'genharness --help' for help.\n\n" else "") ++
    "Error: " ++ e.message ++ "\n"

/-- The additional text of an invocation: the first one given. -/
def additionalText (i : Invocation) : Option Path :=
  i.texts.head?.map fun raw => Path.ofText (Property.stripMarker raw "-T:")

/-- A property as it was typed: what stands behind the option's letter starts with a colon. -/
def restoreMarker (property : Text) : Text :=
  if property.letters.head? == some (.char ':') then "-P" ++ property else property

/-- The run that an invocation asks for. -/
def request (i : Invocation) : Run.Request where
  plugin := i.plugin
  output := i.output
  properties := i.properties.map restoreMarker
  text := additionalText i
  settings := i.settings
  references := none
  audience := .terminal

/-- A report as JSON. A method that stands where the name of the generator is expected is no value of JSON. -/
def reportJson (r : Run.Report) : Except Failure Json := do
  let diagnostics ← r.diagnostics.mapM Diagnostic.text
  match r.generator with
  | .text name => .ok (.object [
      ("generator", .text name),
      ("output_dir", .text r.output.text),
      ("files_written", .int r.written),
      ("diagnostics", .list (diagnostics.map .text)),
      ("warnings", .list (r.warnings.map .text))])
  | .method => .error (.raised "TypeError" "Object of type method is not JSON serializable")

def successText (r : Run.Report) : Text :=
  "Successfully generated " ++ Text.ofNat r.written ++ " file(s) to " ++ r.output.text

/-- The line about a run that failed; none if it was interrupted. An integer that has too many digits to be written has
    no place in a line. -/
def failureText : Failure → Except Failure Text
  | .interrupt _ => .ok "\nAborted!"
  | .exit code =>
    if code.isWritable then .ok ("Error executing generator: generator exited (code " ++ code.display ++ ")")
    else .error (.scalar .unwritable)
  | .missingKey key =>
    if key.isWritable then .ok ("Error executing generator: " ++ key.written) else .error (.scalar .unwritable)
  | e => .ok ("Error executing generator: " ++ e.message)

def echo (t : Text) : Act World Unit := World.print (t.plain ++ "\n")

def echoError (t : Text) : Act World Unit := World.printError (t.plain ++ "\n")

def echoDiagnostics : List Diagnostic → Act World Unit
  | [] => pure ()
  | d :: ds => do
    echoError (← Act.ofExcept d.text)
    echoDiagnostics ds

/-- The last line about a run that succeeded. -/
def outcomeText (json : Bool) (r : Run.Report) : Except Failure Text :=
  if json then (reportJson r).map fun j => j.indented 0 else .ok (successText r)

def reportSuccess (json : Bool) (r : Run.Report) : Act World Unit := do
  echoDiagnostics r.diagnostics
  echo (← Act.ofExcept (outcomeText json r))

/-- Tells of a run that failed, and gives back the exit code. -/
def reportFailure (e : Failure) : Act World Nat := do
  echoError (← Act.ofExcept (failureText e))
  pure 1

def flags (i : Invocation) : Logging.Flags := ⟨i.debug, i.verbose, i.quiet⟩

/-- Carries out an invocation and gives back the exit code. What fails in the run itself is reported; nothing else
    that fails is caught. -/
def invoke (environment : Logging.Environment) (i : Invocation) : Act World Nat := do
  World.setUpLog (Logging.plan (flags i) environment)
  match ← Act.attempt (Run.run (request i)) with
  | .error e => reportFailure e
  | .ok report => do
    reportSuccess i.json report
    pure 0

/-- The exit code of a step. A failure that was not caught ends the command with a trace of the interpreter's, which is
    not kept here. -/
def silently (step : Act World Nat) : Act World Nat := fun w =>
  match step w with
  | .ok code v => .ok code v
  | .error _ v => .ok 1 v

def run (environment : Logging.Environment) (arguments : List Text) : Act World Nat :=
  match Parsed.ofArguments arguments with
  | .help => do
    World.print helpText
    pure 0
  | .version => do
    World.print versionText
    pure 0
  | .refused e => do
    World.printError (refusalText e).plain
    pure 2
  | .crash => pure 1
  | .invocation i => silently (invoke environment i)

end Command
end GeneratorHost
