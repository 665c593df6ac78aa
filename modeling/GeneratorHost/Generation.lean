import GeneratorHost.Host
import GeneratorHost.Session.Perform

/-! One run of a generator: it is initialized once, then its post-initialization callbacks are called, then
    its source callbacks, each kind in the order of registration and each with a context of its own. -/

namespace GeneratorHost
namespace Generation

/-- The compilation that a generator runs against: one document with nothing in it, and references. -/
def baseCompilation (references : List Reference) : Act Session Compilation := do
  if references.isEmpty then throw (.host .noReferences)
  let stamp ← Session.freshStamp
  let assembly ← Session.freshStamp
  pure ⟨[⟨stamp, .placeholder⟩], references, assembly⟩

/-- Opens a context, takes the actions of a script with it and seals it. -/
def phase (files : FileTree) (inputs : Inputs) (role : Role) (script : Script) : Act Session Nat := do
  let context ← Session.openContext role
  Session.performAll files (some inputs) (some context) script
  Session.close context
  pure context

def phases (files : FileTree) (inputs : Inputs) (role : Role) : List Script → Act Session Unit
  | [] => pure ()
  | script :: scripts => do
    let _ ← phase files inputs role script
    phases files inputs role scripts

def run (files : FileTree) (inputs : Inputs) (script : Script) : Act Session Sink := do
  let sink ← Session.openSink
  let context ← phase files inputs (.initialization inputs [] []) script
  let (post, source) := (← get).callbacks context
  phases files inputs (.postInitialization sink) post
  phases files inputs (.sourceProduction sink) source
  return (← get).sink sink

/-- The outcome of a run: the documents that are new, and everything there is to say. -/
structure Result where
  artifacts : List Document
  diagnostics : List Diagnostic
  /-- how many documents and diagnostics the generator itself produced -/
  produced : Nat × Nat
  deriving Inhabited

/-- Runs a generator on a compilation, and gives back the compilation with its documents added. -/
def update (files : FileTree) (inputs : Inputs) (script : Script) :
    Act Session (Compilation × List Diagnostic) := do
  let sink ← run files inputs script
  return (inputs.compilation.add sink.documents, sink.diagnostics)

/-- Runs a generator once on a fresh compilation over references. -/
def execute (files : FileTree) (references : List Reference) (options : Options Text)
    (texts : List AdditionalText) (script : Script) : Act Session Result := do
  let base ← baseCompilation references
  let (updated, reported) ← update files ⟨base, options, texts⟩ script
  let artifacts := updated.newDocuments base
  return ⟨artifacts, updated.diagnostics ++ reported, (artifacts.length, reported.length)⟩

end Generation
end GeneratorHost
